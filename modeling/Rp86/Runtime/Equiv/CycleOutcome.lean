import Rp86.Bus.Equiv.ClockStepped
import Rp86.Runtime.Equiv.ExecutorIo
import Rp86.Runtime.Equiv.Service

/-!
# How a bus cycle ends

A cycle that does not complete reports that there was no cycle or raises a flag that makes it a
fault, and never both (`clockSteppedServiceCycle_flags`): the last case of `failedCycleOutcome` is
never taken.  `CycleIo` says what the cycle that the statistics describe did to the executor's I/O
state: only a completed write to the diagnostic port adds to the native output, and only a completed
`IDLE_PREPARE` arms the halt.
-/

namespace Rp86

open Lib

/-! ### Flags -/

section

variable {κ : Type*}

structure CycleFlags (io : ClockSteppedIo κ) (context : κ) (completed : Bool)
    (stats : ClockSteppedStats) : Prop where
  failed : completed = false → stats.noCycle = !stats.immediateFault
  answered : completed = true → stats.interruptAck = true →
    ∃ b, (io.interruptAck context b).1 ≠ none

theorem CycleFlags.of_fault {io : ClockSteppedIo κ} {context : κ} {stats : ClockSteppedStats}
    (hcycle : stats.noCycle = false) (hfault : stats.immediateFault = true) :
    CycleFlags io context false stats :=
  ⟨fun _ => by rw [hcycle, hfault]; rfl, fun h => by cases h⟩

theorem CycleFlags.of_completed {io : ClockSteppedIo κ} {context : κ} {stats : ClockSteppedStats}
    (hack : stats.interruptAck = false) : CycleFlags io context true stats :=
  ⟨fun h => (by cases h), fun _ h => by rw [hack] at h; cases h⟩

variable {env : Env} {memory : Memory} {rom : List UInt8} {io : ClockSteppedIo κ}
  {cycle : BusCycle} {s : CycleState κ}

theorem interruptAckCycle_flags (hcycle : s.stats.noCycle = false) :
    CycleFlags io s.context (interruptAckCycle env io s).1
      (interruptAckCycle env io s).2.stats := by
  unfold interruptAckCycle
  simp only
  split
  · exact .of_fault hcycle (by simp [ClockSteppedStats.immediateFault])
  · next heq =>
    split
    · exact .of_fault hcycle (by simp [ClockSteppedStats.immediateFault])
    · exact ⟨fun h => (by cases h), fun _ _ => ⟨s.board, by rw [heq]; simp⟩⟩

theorem DataEnd.flags {stats stats' : ClockSteppedStats} {context : κ} {completed : Bool}
    (h : DataEnd stats completed stats') (hcycle : stats.noCycle = false)
    (hack : stats.interruptAck = false) : CycleFlags io context completed stats' := by
  cases h with
  | failed hlast hkept hraised =>
    refine .of_fault (hkept.trans hcycle) ?_
    unfold ClockSteppedStats.immediateFault
    rcases hraised with hraised | hraised | hraised
    · simp [hraised]
    · simp [hraised]
    · simp [hraised]
  | completed hframe hkept => exact .of_completed (hkept.trans hack)

theorem serviceIdentified_flags (hcycle : s.stats.noCycle = false)
    (hack : s.stats.interruptAck = false) :
    CycleFlags io s.context (serviceIdentified env memory rom io cycle s).1
      (serviceIdentified env memory rom io cycle s).2.stats := by
  unfold serviceIdentified
  split_ifs
  · exact interruptAckCycle_flags hcycle
  · exact .of_fault hcycle (by simp [ClockSteppedStats.immediateFault])
  · split
    · rw [memReadCycle_eq]
      exact (readCycle_end env cycle s _ _ _).flags hcycle hack
    · exact (memWriteCycle_end env memory cycle s).flags hcycle hack
    · rw [ioReadCycle_eq]
      exact (readCycle_end env cycle s _ _ _).flags hcycle hack
    · exact (ioWriteCycle_end env io cycle s).flags hcycle hack
    · exact .of_fault hcycle (by simp [ClockSteppedStats.immediateFault])

/-- **A cycle that fails had none or was a fault**, and an acknowledge that completes was answered
by the handler. -/
theorem clockSteppedServiceCycle_flags (env : Env) (memory : Memory) (rom : List UInt8)
    (io : ClockSteppedIo κ) (maxIdleSteps : ℕ) (s : CycleState κ) :
    CycleFlags io s.context (clockSteppedServiceCycle env memory rom io maxIdleSteps s).1
      (clockSteppedServiceCycle env memory rom io maxIdleSteps s).2.stats := by
  unfold clockSteppedServiceCycle
  simp only
  split
  · refine ⟨fun _ => ?_, fun h => by cases h⟩
    simp [ClockSteppedStats.immediateFault, ClockSteppedStats.clearFlags]
  · exact @serviceIdentified_flags _ env memory rom io _
      { s with stats := s.stats.clearFlags.observe _, board := _ } rfl rfl

end

/-- How a bus cycle of the executor went, with the flags that say so. -/
inductive CycleOutcome (x : Executor) : Bool → ServiceOutcome → Prop
  | completed : CycleOutcome x true .completed
  | armedHalt (harmed : x.io.idleArmed = true) (hpad : x.busStats.padMismatch = false)
      (hclock : x.busStats.clockFailure = false) (hack : x.busStats.interruptAck = false) :
      CycleOutcome x false .armedHalt
  | noCycle (hfault : x.busStats.immediateFault = false) : CycleOutcome x false .noCycle
  | fault : CycleOutcome x false .fault

variable {completed : Bool} {outcome : ServiceOutcome} {stats : ClockSteppedStats} {env : Env}
  {fw : Firmware}

theorem CycleOutcome.decide_completed {x : Executor} (h : CycleOutcome x completed outcome) :
    decide (outcome = .completed) = completed := by
  cases h <;> rfl

/-- A cycle that did not complete is an armed halt, no cycle or a fault. -/
theorem failedCycleOutcome_cases {x : Executor}
    (h : x.busStats.noCycle = !x.busStats.immediateFault) :
    CycleOutcome x false (failedCycleOutcome x.io.idleArmed x.busStats) := by
  unfold failedCycleOutcome
  split_ifs with harmed hno hfault
  · simp only [Bool.and_eq_true, Bool.not_eq_true'] at harmed
    obtain ⟨⟨⟨⟨harmed, hpad⟩, hclock⟩, hack⟩, -⟩ := harmed
    exact .armedHalt harmed hpad hclock hack
  · simp only [Bool.and_eq_true, Bool.not_eq_true'] at hno
    exact .noCycle hno.2
  · exact .fault
  · rw [Bool.not_eq_true] at hfault
    simp [h, hfault] at hno

/-! ### The I/O state -/

/-- The last cycle was a write of `IDLE_PREPARE` to the control port. -/
def ClockSteppedStats.isIdlePrepare (s : ClockSteppedStats) : Bool :=
  s.lastType = .ioWrite ∧ s.lastAddress.toUInt16 = ioPortControl ∧
    laneValue s.lastLanes s.lastData = controlIdlePrepare

/-- The byte that the last cycle wrote to the diagnostic port. -/
def ClockSteppedStats.diagnosticByte (s : ClockSteppedStats) : Option UInt8 :=
  if s.lastType = .ioWrite ∧ s.lastAddress.toUInt16 = ioPortDiagnostic then
    some (laneValue s.lastLanes s.lastData).toUInt8
  else none

/-- What a bus cycle that left `stats` does to the I/O state. -/
structure CycleIo (completed : Bool) (stats : ClockSteppedStats) (s s' : IoState) : Prop where
  output : s'.output = match (if completed then stats.diagnosticByte else none) with
    | none => s.output
    | some character => writeDiagnostic character s.output
  idleArmed : s'.idleArmed = (s.idleArmed || (completed && stats.isIdlePrepare))
  silenced : (completed && stats.isIdlePrepare) = true → s'.tick.enabled = false

/-- A cycle that is neither of the two writes. -/
theorem CycleIo.of_other {s s' : IoState} (hbyte : completed = true → stats.diagnosticByte = none)
    (hidle : completed = true → stats.isIdlePrepare = false) (houtput : s'.output = s.output)
    (harmed : s'.idleArmed = s.idleArmed) : CycleIo completed stats s s' := by
  cases completed with
  | false => exact ⟨houtput, by simp [harmed], fun h => by cases h⟩
  | true => exact ⟨by simp [hbyte rfl, houtput], by simp [hidle rfl, harmed], by simp [hidle rfl]⟩

theorem ioWrite_io {clockMode : WorkloadClockMode} {stats' : ClockSteppedStats} {s s' : IoState}
    {b b' : Board} (htype : stats'.lastType = .ioWrite)
    (h : ioWrite clockMode env stats stats'.lastAddress.toUInt16 stats'.lastLanes stats'.lastData
      s b = (completed, s', b')) :
    CycleIo completed stats' s s' := by
  have hwritten := ioWrite_written clockMode env stats stats'.lastAddress.toUInt16 stats'.lastLanes
    stats'.lastData s b
  rw [h] at hwritten
  -- the ports differ, so a write is at most one of the three
  cases hwritten with
  | diagnostic hport =>
    have hidle : stats'.isIdlePrepare = false := by
      have hne : ioPortDiagnostic ≠ ioPortControl := by decide
      simp [ClockSteppedStats.isIdlePrepare, hport, hne]
    exact ⟨by simp [ClockSteppedStats.diagnosticByte, htype, hport], by simp [hidle],
      by simp [hidle]⟩
  | eoi hport hvalue =>
    have hdiagnostic : ioPortPicCommand ≠ ioPortDiagnostic := by decide
    have hcontrol : ioPortPicCommand ≠ ioPortControl := by decide
    refine .of_other (fun _ => ?_) (fun _ => ?_) rfl rfl
    · simp [ClockSteppedStats.diagnosticByte, hport, hdiagnostic]
    · simp [ClockSteppedStats.isIdlePrepare, hport, hcontrol]
  | idlePrepare hport hvalue =>
    have hbyte : stats'.diagnosticByte = none := by
      have hne : ioPortControl ≠ ioPortDiagnostic := by decide
      simp [ClockSteppedStats.diagnosticByte, hport, hne]
    have hidle : stats'.isIdlePrepare = true := by
      simp [ClockSteppedStats.isIdlePrepare, htype, hport, hvalue]
    refine ⟨by simp [hbyte], by simp [hidle], fun _ => ?_⟩
    show (tickIdlePrepare s.tick b).1.enabled = false
    unfold tickIdlePrepare
    split_ifs with hon
    · rfl
    · exact Bool.eq_false_iff.mpr hon
  | other _ hdiagnostic heoi hidle =>
    refine .of_other (fun _ => ?_) (fun _ => ?_) rfl rfl
    · simp [ClockSteppedStats.diagnosticByte, hdiagnostic]
    · simp only [ClockSteppedStats.isIdlePrepare, decide_eq_false_iff_not]
      exact fun hc => hidle hc.2

/-- **What a bus cycle with the executor's handlers does to the I/O state.** -/
theorem CycleEffect.io {clockMode : WorkloadClockMode} {s s' : CycleState IoState}
    (h : CycleEffect env (executorIo clockMode) s completed s') :
    CycleIo completed s'.stats s.context s'.context := by
  -- a cycle of another type than an I/O write
  have hother : (completed = true → s'.stats.lastType ≠ .ioWrite) →
      s'.context.output = s.context.output → s'.context.idleArmed = s.context.idleArmed →
      CycleIo completed s'.stats s.context s'.context := by
    intro htype houtput harmed
    refine .of_other (fun hc => ?_) (fun hc => ?_) houtput harmed
    · simp [ClockSteppedStats.diagnosticByte, htype hc]
    · simp [ClockSteppedStats.isIdlePrepare, htype hc]
  cases h with
  | plain hcontext hframe hcycles htype hram =>
    exact hother (fun hc => (htype hc).1) (by rw [hcontext]) (by rw [hcontext])
  | ack answer b b' hframe hack hframe' hcycles htype hram =>
    have hcontext :
        s'.context = { s.context with tick := (tickInterruptAck s.context.tick b).2.1 } :=
      (congrArg (fun r => r.2.1) hack).symm
    refine hother (fun _ => ?_) (by rw [hcontext]) (by rw [hcontext])
    rw [htype]
    decide
  | write stats b hframe hstats hwrite hcycles htype hram => exact ioWrite_io htype hwrite

theorem CycleIo.output_cases {s s' : IoState} (h : CycleIo completed stats s s') :
    s'.output = s.output ∨ ∃ c, s'.output = writeDiagnostic c s.output := by
  rw [h.output]
  split
  · exact Or.inl rfl
  · exact Or.inr ⟨_, rfl⟩

/-! ### The order of reads -/

section

variable {env : Env} {cycles : UInt32} {t : TickState} {b : Board}

theorem updatePeriodicTick_reads (idleArmed : Bool) :
    b.reads ≤ (updatePeriodicTick env idleArmed cycles t b).2.reads := by
  unfold updatePeriodicTick deliverTick timeUs64
  simp only
  split_ifs
  · exact Nat.le_refl _
  · exact Nat.le_succ _
  · exact Nat.le_succ _

theorem tickInterruptAck_reads : (tickInterruptAck t b).2.2.reads = b.reads := by
  unfold tickInterruptAck
  split_ifs <;> rfl

theorem tickEoi_reads : b.reads ≤ (tickEoi env cycles t b).2.reads := by
  unfold tickEoi closeService retractTick timeUs64
  simp only
  split_ifs <;> first | exact Nat.le_refl _ | exact Nat.le_succ _

theorem tickIdlePrepare_reads : (tickIdlePrepare t b).2.reads = b.reads := by
  unfold tickIdlePrepare
  split_ifs <;> rfl

theorem ioWrite_reads {clockMode : WorkloadClockMode} {stats : ClockSteppedStats} {port : UInt16}
    {lanes : BusLanes} {value : UInt16} {s : IoState} :
    b.reads ≤ (ioWrite clockMode env stats port lanes value s b).2.2.reads := by
  have hwritten := ioWrite_written clockMode env stats port lanes value s b
  generalize ioWrite clockMode env stats port lanes value s b = r at hwritten ⊢
  cases hwritten with
  | diagnostic | other => exact Nat.le_refl _
  | eoi => exact tickEoi_reads
  | idlePrepare => exact Nat.le_of_eq tickIdlePrepare_reads.symm

/-- A bus cycle with the executor's handlers reads the environment forwards. -/
theorem CycleEffect.reads {clockMode : WorkloadClockMode} {s s' : CycleState IoState}
    {completed : Bool} (h : CycleEffect env (executorIo clockMode) s completed s') :
    s.board.reads ≤ s'.board.reads := by
  cases h with
  | plain hcontext hframe hcycles htype hram => exact hframe.reads
  | ack answer b b' hframe hack hframe' hcycles htype hram =>
    have hsame : b'.reads = b.reads :=
      (congrArg (fun r => r.2.2.reads) hack).symm.trans tickInterruptAck_reads
    exact Nat.le_trans hframe.reads (hsame ▸ hframe'.reads)
  | write stats b hframe hstats hwrite hcycles htype hram =>
    have hboard : s'.board.reads = _ := (congrArg (fun r => r.2.2.reads) hwrite).symm
    rw [hboard]
    exact Nat.le_trans hframe.reads ioWrite_reads

end

/-! ### The bus cycle of a service step -/

/-- The tick and the board after the update that precedes the bus cycle of a service step. -/
def Firmware.tickUpdate (env : Env) (fw : Firmware) : TickState × Board :=
  updatePeriodicTick env fw.executor.io.idleArmed fw.executor.busStats.cycles fw.executor.io.tick
    fw.machine.board

/-- The part of the firmware that a bus cycle works on. -/
def Firmware.cycleState (fw : Firmware) : CycleState IoState where
  stats := fw.executor.busStats
  ram := fw.backing.storage
  context := fw.executor.io
  board := fw.machine.board

/-- The same behind the update of the tick. -/
def Firmware.updatedState (env : Env) (fw : Firmware) : CycleState IoState := { fw.cycleState with
  context := { fw.executor.io with tick := (fw.tickUpdate env).1 }
  board := (fw.tickUpdate env).2 }

section

variable {env : Env} {fw fw₁ : Firmware} {completed : Bool}

/-- **What the bus cycle of a service step does.** -/
theorem executorBusCycle_effect (hbus : executorBusCycle env fw = (completed, fw₁)) :
    CycleEffect env (executorIo fw.executor.clockMode) (fw.updatedState env) completed
      fw₁.cycleState := by
  have h := clockSteppedServiceCycle_effect env fw.executor.processorMemory
    fw.executor.resetHandoff (executorIo fw.executor.clockMode) 32 (fw.updatedState env)
  obtain ⟨rfl, rfl⟩ := Prod.mk.inj hbus
  exact h

theorem executorBusCycle_flags (hbus : executorBusCycle env fw = (completed, fw₁)) :
    CycleFlags (executorIo fw.executor.clockMode)
      { fw.executor.io with tick := (fw.tickUpdate env).1 } completed fw₁.executor.busStats := by
  have h := clockSteppedServiceCycle_flags env fw.executor.processorMemory
    fw.executor.resetHandoff (executorIo fw.executor.clockMode) 32 (fw.updatedState env)
  obtain ⟨rfl, rfl⟩ := Prod.mk.inj hbus
  exact h

theorem executorBusCycle_outcome (hbus : executorBusCycle env fw = (completed, fw₁)) :
    CycleOutcome fw₁.executor completed (fw₁.cycleOutcome completed) := by
  cases completed with
  | true => exact .completed
  | false => exact failedCycleOutcome_cases ((executorBusCycle_flags hbus).failed rfl)

end

/-- What no part of a service step changes. -/
structure ServiceFrame (fw fw' : Firmware) : Prop where
  geometry : SameGeometry fw.backing fw'.backing
  halted : fw'.halted = fw.halted
  processorBootId : fw'.machine.processorBootId = fw.machine.processorBootId
  prepared : fw'.machine.prepared = fw.machine.prepared
  reads : fw.machine.board.reads ≤ fw'.machine.board.reads

theorem ServiceFrame.trans {fw₁ fw₂ fw₃ : Firmware} (h : ServiceFrame fw₁ fw₂)
    (h' : ServiceFrame fw₂ fw₃) : ServiceFrame fw₁ fw₃ :=
  ⟨h.geometry.trans h'.geometry, h'.halted.trans h.halted,
    h'.processorBootId.trans h.processorBootId, h'.prepared.trans h.prepared,
    Nat.le_trans h.reads h'.reads⟩

/-- What the bus cycle of a service step leaves alone. -/
structure CycleKept (fw fw₁ : Firmware) : Prop where
  manager : fw₁.manager = fw.manager
  control : fw.executor.SameControl fw₁.executor
  starvationStartedUs : fw₁.executor.starvationStartedUs = fw.executor.starvationStartedUs
  frame : ServiceFrame fw fw₁

theorem executorBusCycle_kept {fw₁ : Firmware}
    (hbus : executorBusCycle env (fw.deadlineChecked env) = (completed, fw₁)) :
    CycleKept fw fw₁ := by
  have hcycle := (executorBusCycle_effect hbus).reads
  have hchecked := (executionDeadlineReached_frame env fw.executor fw.machine.board).reads
  have hupdate : (fw.deadlineChecked env).machine.board.reads
      ≤ ((fw.deadlineChecked env).tickUpdate env).2.reads := updatePeriodicTick_reads _
  obtain ⟨rfl, rfl⟩ := Prod.mk.inj hbus
  exact ⟨rfl, ⟨rfl, rfl, rfl, rfl, rfl, rfl, rfl, rfl⟩, rfl, ⟨rfl, rfl, rfl⟩, rfl, rfl, rfl,
    Nat.le_trans hchecked (Nat.le_trans hupdate hcycle)⟩

theorem OutcomeStep.backing {fw' : Firmware} (h : OutcomeStep fw outcome fw') :
    fw'.backing = fw.backing := by
  cases h <;> rfl

theorem OutcomeStep.frame {fw' : Firmware} (h : OutcomeStep fw outcome fw') :
    ServiceFrame fw fw' := by
  cases h with
  | goesOn us b hframe houtcome => exact ⟨.refl _, rfl, rfl, rfl, hframe.reads⟩
  | completes => exact ⟨.refl _, rfl, rfl, rfl, Nat.le_refl _⟩
  | ends reason state m hend hstops =>
    exact ⟨.refl _, rfl, hstops.processorBootId, hstops.prepared, hstops.reads⟩

/-- **What a service step leaves alone.** -/
theorem workloadExecutorService_frame (env : Env) (fw : Firmware) :
    ServiceFrame fw (workloadExecutorService env fw) := by
  cases workloadExecutorService_cycle env fw with
  | skipped hx hcycle h =>
    rw [h]
    exact ⟨.refl _, rfl, rfl, rfl, Nat.le_refl _⟩
  | expired hx hexpired hcycle m h hstep =>
    have hread : ServiceFrame fw fw.nextRead := ⟨.refl _, rfl, rfl, rfl, Nat.le_succ _⟩
    exact hread.trans hstep.frame
  | cycle completed fw₁ hx hdeadline hbus hcycle h hstep =>
    exact (executorBusCycle_kept hbus).frame.trans hstep.frame

end Rp86
