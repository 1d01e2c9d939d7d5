import Rp86.Bus.ClockStepped
import Rp86.Bus.Equiv.Frame

/-!
# What a bus cycle does

`clockSteppedServiceCycle_effect`: a service of the bus calls no handler, or acknowledges an
interrupt, or hands an I/O write over, and calls no handler twice.  It counts exactly the cycles
that complete, and only a completed memory write changes the RAM.
-/

namespace Rp86

open Lib

variable {κ : Type*}

/-- How a service of the bus ended, with the handler that it called. -/
inductive CycleEffect (env : Env) (io : ClockSteppedIo κ) (s : CycleState κ) (completed : Bool)
    (s' : CycleState κ) : Prop
  | plain (hcontext : s'.context = s.context) (hframe : BusFrame s.board s'.board)
      (hcycles : s'.stats.cycles = if completed then s.stats.cycles + 1 else s.stats.cycles)
      (htype : completed = true →
        s'.stats.lastType ≠ .ioWrite ∧ s'.stats.lastType ≠ .interruptAck)
      (hram : s'.ram = s.ram ∨ (completed = true ∧ s'.stats.lastType = .memWrite))
  | ack (answer : Option (Bool × UInt8)) (b b' : Board) (hframe : BusFrame s.board b)
      (hack : io.interruptAck s.context b = (answer, s'.context, b'))
      (hframe' : BusFrame b' s'.board)
      (hcycles : s'.stats.cycles = if completed then s.stats.cycles + 1 else s.stats.cycles)
      (htype : s'.stats.lastType = .interruptAck) (hram : s'.ram = s.ram)
  | write (stats : ClockSteppedStats) (b : Board) (hframe : BusFrame s.board b)
      (hstats : stats.cycles = s.stats.cycles)
      (hwrite : io.write env stats s'.stats.lastAddress.toUInt16 s'.stats.lastLanes
        s'.stats.lastData s.context b = (completed, s'.context, s'.board))
      (hcycles : s'.stats.cycles = if completed then s.stats.cycles + 1 else s.stats.cycles)
      (htype : s'.stats.lastType = .ioWrite) (hram : s'.ram = s.ram)

/-- The frame and the statistics of a driven read. -/
theorem completeRead_effect (env : Env) (cycle : BusCycle) (driven : UInt16)
    (stats : ClockSteppedStats) (b : Board) :
    BusFrame b (completeRead env cycle driven stats b).2.2 ∧
      (completeRead env cycle driven stats b).2.1.cycles = stats.cycles ∧
      (completeRead env cycle driven stats b).2.1.lastType = stats.lastType := by
  have hframe := processorBusCompleteRead_frame env (processorBusDriveData driven cycle.lanes b)
  have hdrive : BusFrame b (processorBusDriveData driven cycle.lanes b) :=
    ⟨rfl, rfl, Nat.le_refl _⟩
  have h := hdrive.trans hframe
  unfold completeRead
  simp only
  split
  · next heq =>
    rw [heq] at h
    exact ⟨h, rfl, rfl⟩
  · next heq =>
    rw [heq] at h
    split_ifs
    · exact ⟨h, rfl, rfl⟩
    · exact ⟨h, rfl, rfl⟩

/-- A driven read completes, or one of the two failures is reported. -/
theorem completeRead_cases (env : Env) (cycle : BusCycle) (driven : UInt16)
    (stats : ClockSteppedStats) (b : Board) :
    ∃ b', completeRead env cycle driven stats b = (true, stats, b') ∨
      completeRead env cycle driven stats b = (false, { stats with clockFailure := true }, b') ∨
      completeRead env cycle driven stats b = (false, { stats with padMismatch := true }, b') := by
  unfold completeRead
  simp only
  split
  · exact ⟨_, Or.inr (Or.inl rfl)⟩
  · split_ifs
    · exact ⟨_, Or.inr (Or.inr rfl)⟩
    · exact ⟨_, Or.inl rfl⟩

/-- A read cycle of either kind: `answer` is what there is to drive, and a completed cycle moves the
counters. -/
def readCycle (env : Env) (cycle : BusCycle) (answer : Option UInt16)
    (memoryReads ioReads : UInt32 → UInt32) (s : CycleState κ) : Bool × CycleState κ :=
  match answer with
  | none => (false, { s with stats := { s.stats with unmapped := true } })
  | some driven =>
    match completeRead env cycle driven (s.stats.withData driven) s.board with
    | (false, stats, board) => (false, { s with stats := stats, board := board })
    | (true, stats, board) => (true, { s with
        stats := { stats with
          memoryReads := memoryReads stats.memoryReads
          ioReads := ioReads stats.ioReads
          cycles := stats.cycles + 1 }
        board := board })

theorem memReadCycle_eq (env : Env) (memory : Memory) (rom : List UInt8) (cycle : BusCycle)
    (s : CycleState κ) :
    memReadCycle env memory rom cycle s
      = readCycle env cycle (laneRead memory s.ram rom cycle) (· + 1) id s :=
  rfl

theorem ioReadCycle_eq (env : Env) (io : ClockSteppedIo κ) (cycle : BusCycle)
    (s : CycleState κ) :
    ioReadCycle env io cycle s
      = readCycle env cycle (io.read cycle.address.toUInt16 cycle.lanes) id (· + 1) s :=
  rfl

/-- A write samples the word of the control sample, or fails. -/
theorem processorBusCompleteWrite_cases (env : Env) (cycle : BusCycle) (b : Board) :
    ∃ b', processorBusCompleteWrite env cycle b = (none, b') ∨
      ∃ d₁ d₂, processorBusCompleteWrite env cycle b
        = (some (decodeAd cycle.controlSample, d₁, d₂), b') := by
  unfold processorBusCompleteWrite
  simp only
  split_ifs
  · exact ⟨_, Or.inl rfl⟩
  · exact ⟨_, Or.inl rfl⟩
  · exact ⟨_, Or.inr ⟨_, _, rfl⟩⟩

section

variable (env : Env) (memory : Memory) (rom : List UInt8) (io : ClockSteppedIo κ)
  (cycle : BusCycle) (s : CycleState κ)

theorem interruptAckCycle_effect (htype : s.stats.lastType = .interruptAck) :
    CycleEffect env io s (interruptAckCycle env io s).1 (interruptAckCycle env io s).2 := by
  unfold interruptAckCycle
  simp only
  split
  · next context b heq => exact .ack none s.board b (.refl _) heq (.refl _) rfl htype rfl
  · next drive vector context b heq =>
    have hframe := processorBusCompleteInterruptAck_frame env drive vector b
    split
    · next b' heq' =>
      rw [heq'] at hframe
      exact .ack _ s.board b (.refl _) heq hframe rfl htype rfl
    · next b' heq' =>
      rw [heq'] at hframe
      exact .ack _ s.board b (.refl _) heq hframe rfl htype rfl

theorem readCycle_effect (answer : Option UInt16) (memoryReads ioReads : UInt32 → UInt32)
    (htype : s.stats.lastType = .memRead ∨ s.stats.lastType = .ioRead) :
    CycleEffect env io s (readCycle env cycle answer memoryReads ioReads s).1
      (readCycle env cycle answer memoryReads ioReads s).2 := by
  unfold readCycle
  split
  · exact .plain rfl (.refl _) rfl (fun h => by cases h) (Or.inl rfl)
  · next driven =>
    obtain ⟨hframe, hcycles, hlast⟩ :=
      completeRead_effect env cycle driven (s.stats.withData driven) s.board
    split
    · next stats b heq =>
      rw [heq] at hframe hcycles
      exact .plain rfl hframe hcycles (fun h => by cases h) (Or.inl rfl)
    · next stats b heq =>
      rw [heq] at hframe hcycles hlast
      refine .plain rfl hframe (congrArg (· + 1) hcycles) (fun _ => ?_) (Or.inl rfl)
      show stats.lastType ≠ .ioWrite ∧ stats.lastType ≠ .interruptAck
      rw [show stats.lastType = s.stats.lastType from hlast]
      rcases htype with htype | htype
      · rw [htype]
        decide
      · rw [htype]
        decide

theorem memWriteCycle_effect (htype : s.stats.lastType = .memWrite) :
    CycleEffect env io s (memWriteCycle env memory cycle s).1
      (memWriteCycle env memory cycle s).2 := by
  have hframe := processorBusCompleteWrite_frame env cycle s.board
  unfold memWriteCycle
  split
  · next b heq =>
    rw [heq] at hframe
    exact .plain rfl hframe rfl (fun h => by cases h) (Or.inl rfl)
  · next d0 d1 b heq =>
    rw [heq] at hframe
    split
    · exact .plain rfl hframe rfl (fun h => by cases h) (Or.inl rfl)
    · refine .plain rfl hframe rfl (fun _ => ?_) (Or.inr ⟨rfl, htype⟩)
      simp only [ClockSteppedStats.withData, htype]
      decide

theorem ioWriteCycle_effect (htype : s.stats.lastType = .ioWrite)
    (haddress : s.stats.lastAddress = cycle.address) (hlanes : s.stats.lastLanes = cycle.lanes) :
    CycleEffect env io s (ioWriteCycle env io cycle s).1 (ioWriteCycle env io cycle s).2 := by
  have hframe := processorBusCompleteWrite_frame env cycle s.board
  unfold ioWriteCycle
  split
  · next b heq =>
    rw [heq] at hframe
    exact .plain rfl hframe rfl (fun h => by cases h) (Or.inl rfl)
  · next d0 d1 b heq =>
    rw [heq] at hframe
    rw [← haddress, ← hlanes]
    simp only
    split
    · next context b' hw => exact .write (s.stats.withData d0) b hframe rfl hw rfl htype rfl
    · next context b' hw => exact .write (s.stats.withData d0) b hframe rfl hw rfl htype rfl

end

variable {env : Env} {completed : Bool} {stats stats' : ClockSteppedStats}

/-- The effect of a state that only differs in the board and in the statistics of no cycle. -/
theorem CycleEffect.of_frame {io : ClockSteppedIo κ} {s s₁ s' : CycleState κ}
    (h : CycleEffect env io s₁ completed s') (hcontext : s₁.context = s.context)
    (hframe : BusFrame s.board s₁.board) (hcycles : s₁.stats.cycles = s.stats.cycles)
    (hram : s₁.ram = s.ram) : CycleEffect env io s completed s' := by
  cases h with
  | plain hctx hfr hcy htype hr =>
    exact .plain (hctx.trans hcontext) (hframe.trans hfr) (hcycles ▸ hcy) htype (hram ▸ hr)
  | ack answer b b' hfr hack hfr' hcy htype hr =>
    exact .ack answer b b' (hframe.trans hfr) (hcontext ▸ hack) hfr' (hcycles ▸ hcy) htype
      (hr.trans hram)
  | write stats b hfr hstats hwrite hcy htype hr =>
    exact .write stats b (hframe.trans hfr) (hstats.trans hcycles) (hcontext ▸ hwrite)
      (hcycles ▸ hcy) htype (hr.trans hram)

theorem serviceIdentified_effect (env : Env) (memory : Memory) (rom : List UInt8)
    (io : ClockSteppedIo κ) (cycle : BusCycle) (s : CycleState κ)
    (htype : s.stats.lastType = cycle.type) (haddress : s.stats.lastAddress = cycle.address)
    (hlanes : s.stats.lastLanes = cycle.lanes) :
    CycleEffect env io s (serviceIdentified env memory rom io cycle s).1
      (serviceIdentified env memory rom io cycle s).2 := by
  unfold serviceIdentified
  split_ifs with hack hnone
  · exact interruptAckCycle_effect env io s (htype.trans hack)
  · exact .plain rfl (.refl _) rfl (fun h => by cases h) (Or.inl rfl)
  · split
    · next h =>
      rw [memReadCycle_eq]
      exact readCycle_effect env io cycle s _ _ _ (Or.inl (htype.trans h))
    · next h => exact memWriteCycle_effect env memory io cycle s (htype.trans h)
    · next h =>
      rw [ioReadCycle_eq]
      exact readCycle_effect env io cycle s _ _ _ (Or.inr (htype.trans h))
    · next h => exact ioWriteCycle_effect env io cycle s (htype.trans h) haddress hlanes
    · exact .plain rfl (.refl _) rfl (fun h => by cases h) (Or.inl rfl)

/-- **The effect of a bus cycle.** -/
theorem clockSteppedServiceCycle_effect (env : Env) (memory : Memory) (rom : List UInt8)
    (io : ClockSteppedIo κ) (maxIdleSteps : ℕ) (s : CycleState κ) :
    CycleEffect env io s (clockSteppedServiceCycle env memory rom io maxIdleSteps s).1
      (clockSteppedServiceCycle env memory rom io maxIdleSteps s).2 := by
  have hwait := processorBusWaitCycle_frame env maxIdleSteps s.board
  unfold clockSteppedServiceCycle
  simp only
  split
  · next b heq =>
    rw [heq] at hwait
    exact .plain rfl hwait rfl (fun h => by cases h) (Or.inl rfl)
  · next cycle b heq =>
    rw [heq] at hwait
    refine CycleEffect.of_frame (serviceIdentified_effect env memory rom io cycle _ ?_ ?_ ?_) ?_ ?_
      ?_ ?_
    · rfl
    · rfl
    · rfl
    · rfl
    · exact hwait
    · rfl
    · rfl

/-- Only a completed memory write changes the RAM. -/
theorem CycleEffect.ram_cases {io : ClockSteppedIo κ} {s s' : CycleState κ}
    (h : CycleEffect env io s completed s') :
    s'.ram = s.ram ∨ (completed = true ∧ s'.stats.lastType = .memWrite) := by
  cases h with
  | plain hcontext hframe hcycles htype hram => exact hram
  | ack answer b b' hframe hack hframe' hcycles htype hram
  | write stats b hframe hstats hwrite hcycles htype hram => exact Or.inl hram

/-! ### The statistics -/

/-- None of the failure flags is set that only a failed cycle sets. -/
structure ClockSteppedStats.NoFailure (stats : ClockSteppedStats) : Prop where
  unmapped : stats.unmapped = false
  invalidLane : stats.invalidLane = false
  padMismatch : stats.padMismatch = false
  clockFailure : stats.clockFailure = false

/-- What the service of an identified cycle keeps of the statistics. -/
structure StatsFrame (completed : Bool) (stats stats' : ClockSteppedStats) : Prop where
  lastAddress : stats'.lastAddress = stats.lastAddress
  noFailure : completed = true → stats.NoFailure → stats'.NoFailure

theorem StatsFrame.of_failed (h : stats'.lastAddress = stats.lastAddress) :
    StatsFrame false stats stats' :=
  ⟨h, fun hcompleted => by cases hcompleted⟩

theorem StatsFrame.of_flags (hlast : stats'.lastAddress = stats.lastAddress)
    (hunmapped : stats'.unmapped = stats.unmapped) (hlane : stats'.invalidLane = stats.invalidLane)
    (hpad : stats'.padMismatch = stats.padMismatch)
    (hclock : stats'.clockFailure = stats.clockFailure) : StatsFrame completed stats stats' :=
  ⟨hlast, fun _ h => ⟨hunmapped.trans h.unmapped, hlane.trans h.invalidLane,
    hpad.trans h.padMismatch, hclock.trans h.clockFailure⟩⟩

/-- How a read or a write leaves the statistics: a failed one raises a flag, and a completed one
raises none. -/
inductive DataEnd (stats : ClockSteppedStats) : Bool → ClockSteppedStats → Prop
  | failed {stats' : ClockSteppedStats} (hlast : stats'.lastAddress = stats.lastAddress)
      (hcycle : stats'.noCycle = stats.noCycle)
      (hraised : stats'.unmapped = true ∨ stats'.padMismatch = true ∨ stats'.clockFailure = true) :
      DataEnd stats false stats'
  | completed {stats' : ClockSteppedStats} (hframe : StatsFrame true stats stats')
      (hack : stats'.interruptAck = stats.interruptAck) : DataEnd stats true stats'

theorem DataEnd.statsFrame (h : DataEnd stats completed stats') :
    StatsFrame completed stats stats' := by
  cases h with
  | failed hlast hcycle hraised => exact .of_failed hlast
  | completed hframe hack => exact hframe

section

variable (env : Env) (memory : Memory) (rom : List UInt8) (io : ClockSteppedIo κ)
  (cycle : BusCycle) (s : CycleState κ)

theorem readCycle_end (answer : Option UInt16) (memoryReads ioReads : UInt32 → UInt32) :
    DataEnd s.stats (readCycle env cycle answer memoryReads ioReads s).1
      (readCycle env cycle answer memoryReads ioReads s).2.stats := by
  unfold readCycle
  split
  · exact .failed rfl rfl (Or.inl rfl)
  · next driven =>
    obtain ⟨b, heq | heq | heq⟩ := completeRead_cases env cycle driven (s.stats.withData driven)
      s.board
    · rw [heq]
      exact .completed (.of_flags rfl rfl rfl rfl rfl) rfl
    · rw [heq]
      exact .failed rfl rfl (Or.inr (Or.inr rfl))
    · rw [heq]
      exact .failed rfl rfl (Or.inr (Or.inl rfl))

theorem memWriteCycle_end :
    DataEnd s.stats (memWriteCycle env memory cycle s).1
      (memWriteCycle env memory cycle s).2.stats := by
  unfold memWriteCycle
  split
  · exact .failed rfl rfl (Or.inr (Or.inr rfl))
  · split
    · exact .failed rfl rfl (Or.inl rfl)
    · exact .completed (.of_flags rfl rfl rfl rfl rfl) rfl

theorem ioWriteCycle_end :
    DataEnd s.stats (ioWriteCycle env io cycle s).1 (ioWriteCycle env io cycle s).2.stats := by
  unfold ioWriteCycle
  split
  · exact .failed rfl rfl (Or.inr (Or.inr rfl))
  · simp only
    split
    · exact .failed rfl rfl (Or.inl rfl)
    · exact .completed (.of_flags rfl rfl rfl rfl rfl) rfl

theorem interruptAckCycle_stats :
    StatsFrame (interruptAckCycle env io s).1 s.stats (interruptAckCycle env io s).2.stats := by
  unfold interruptAckCycle
  simp only
  split
  · exact .of_failed rfl
  · split
    · exact .of_failed rfl
    · exact .of_flags rfl rfl rfl rfl rfl

theorem serviceIdentified_stats :
    StatsFrame (serviceIdentified env memory rom io cycle s).1 s.stats
      (serviceIdentified env memory rom io cycle s).2.stats := by
  unfold serviceIdentified
  split_ifs
  · exact interruptAckCycle_stats env io s
  · exact .of_failed rfl
  · split
    · rw [memReadCycle_eq]
      exact (readCycle_end env cycle s _ _ _).statsFrame
    · exact (memWriteCycle_end env memory cycle s).statsFrame
    · rw [ioReadCycle_eq]
      exact (readCycle_end env cycle s _ _ _).statsFrame
    · exact (ioWriteCycle_end env io cycle s).statsFrame
    · exact .of_failed rfl

end

theorem decodeAddress_le (sample : UInt32) : (decodeAddress sample).toNat ≤ 0xFFFFF := by
  rw [decodeAddress, UInt32.toNat_and]
  exact Nat.and_le_right

theorem processorBusWaitCycle_address {n : ℕ} {b b' : Board} {cycle : BusCycle}
    (h : processorBusWaitCycle env n b = (some cycle, b')) : cycle.address.toNat ≤ 0xFFFFF := by
  unfold processorBusWaitCycle at h
  split at h
  · cases h
  · simp only at h
    split_ifs at h
    · cases h
    · obtain rfl := Option.some.inj (congrArg Prod.fst h)
      exact decodeAddress_le _

/-- **The statistics after a bus cycle.** -/
theorem clockSteppedServiceCycle_stats (env : Env) (memory : Memory) (rom : List UInt8)
    (io : ClockSteppedIo κ) (maxIdleSteps : ℕ) (s : CycleState κ) :
    (s.stats.lastAddress.toNat ≤ 0xFFFFF →
      (clockSteppedServiceCycle env memory rom io maxIdleSteps s).2.stats.lastAddress.toNat
        ≤ 0xFFFFF) ∧
      ((clockSteppedServiceCycle env memory rom io maxIdleSteps s).1 = true →
        (clockSteppedServiceCycle env memory rom io maxIdleSteps s).2.stats.NoFailure) := by
  unfold clockSteppedServiceCycle
  simp only
  split
  · exact ⟨id, fun h => by cases h⟩
  · next cycle b hwait =>
    have hframe := serviceIdentified_stats env memory rom io cycle
      { s with stats := s.stats.clearFlags.observe cycle, board := b }
    refine ⟨fun _ => ?_, fun hcompleted => hframe.noFailure hcompleted ⟨rfl, rfl, rfl, rfl⟩⟩
    rw [hframe.lastAddress]
    exact processorBusWaitCycle_address hwait

end Rp86
