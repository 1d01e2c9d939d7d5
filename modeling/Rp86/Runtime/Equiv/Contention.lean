import Rp86.Bus.Operations
import Rp86.Runtime.Equiv.Lifecycle

/-!
# No bus contention

The AD pins are driven only while a read or an interrupt acknowledge needs them, on its own lanes,
and every way out of a service of the bus leaves them released (`no_bus_contention`).  The release
on a failed clock step is that of the safe state, which every fault of a step forces
(`processorBusStep_cases`).
-/

namespace Rp86

open Lib

def Board.AdOff (b : Board) : Prop := b.adOe &&& adBusMask = 0

instance (b : Board) : Decidable b.AdOff := inferInstanceAs (Decidable (_ = _))

/-- The AD pins of a lane set. -/
def laneMask (lanes : BusLanes) : UInt32 :=
  (if lanes.hasLow then lowLaneMask else 0) ||| (if lanes.hasHigh then highLaneMask else 0)

/-- No AD pin is driven, or those of `lanes` are. -/
def Board.AdWithin (lanes : BusLanes) (b : Board) : Prop :=
  b.AdOff ∨ b.adOe &&& adBusMask = laneMask lanes

/-! ### Operations -/

theorem processorBusReleaseAd_adOff (b : Board) : (processorBusReleaseAd b).AdOff :=
  and_not_and_self _ _

theorem processorBusDriveData_adWithin {b : Board} (h : b.AdOff) (value : UInt16)
    (lanes : BusLanes) : (processorBusDriveData value lanes b).AdWithin lanes := by
  have hmask : laneMask lanes &&& adBusMask = laneMask lanes := by cases lanes <;> decide
  have hor : (b.adOe ||| laneMask lanes) &&& adBusMask
      = b.adOe &&& adBusMask ||| laneMask lanes &&& adBusMask :=
    UInt32.toBitVec_inj.mp BitVec.and_or_distrib_right
  refine Or.inr (hor.trans ?_)
  rw [hmask, show b.adOe &&& adBusMask = 0 from h, UInt32.zero_or]

/-- A step of the clock neither drives AD nor marks the bus. -/
theorem executionClockStep_keeps (env : Env) (b : Board) :
    (executionClockStep env b).2.adOe = b.adOe ∧
      (executionClockStep env b).2.faulted = b.faulted := by
  unfold executionClockStep exchangeToken
  simp only
  split_ifs <;> exact ⟨rfl, rfl⟩

theorem processorBusForceSafeState_faulted (env : Env) (b : Board) :
    (processorBusForceSafeState env b).faulted = b.faulted := by
  unfold processorBusForceSafeState executionClockStopLow stopFreeRunningLow exchangeToken
  simp only
  split_ifs <;> rfl

/-- A clock step leaves the AD pins and the mark of the bus alone, or fails, marks the bus and
forces the safe state. -/
theorem processorBusStep_cases (env : Env) (b : Board) :
    ((processorBusStep env b).2.faulted = b.faulted ∧ (processorBusStep env b).2.adOe = b.adOe) ∨
      ((processorBusStep env b).2.faulted = true ∧ (processorBusStep env b).2.Safe) := by
  obtain ⟨had, hfaulted⟩ :=
    executionClockStep_keeps env (recordStepTime (env.timeUs b.reads) b.next)
  unfold processorBusStep timeUs64
  simp only
  split
  · next b' heq =>
    rw [heq] at had hfaulted
    exact Or.inl ⟨hfaulted, had⟩
  · next b' heq =>
    have hsafe := processorBusForceSafeState_safe env { b' with faulted := true }
    exact Or.inr ⟨processorBusForceSafeState_faulted env _, hsafe.reset, hsafe.mode, hsafe.clk,
      hsafe.adOe⟩

theorem processorBusStep_adOff {env : Env} {b : Board} (h : b.AdOff) :
    (processorBusStep env b).2.AdOff := by
  rcases processorBusStep_cases env b with ⟨-, had⟩ | ⟨-, hsafe⟩
  · unfold Board.AdOff
    rw [had]
    exact h
  · exact hsafe.adOe

theorem processorBusStep_adWithin {env : Env} {b : Board} {lanes : BusLanes}
    (h : b.AdWithin lanes) : (processorBusStep env b).2.AdWithin lanes := by
  rcases processorBusStep_cases env b with ⟨-, had⟩ | ⟨-, hsafe⟩
  · unfold Board.AdWithin Board.AdOff
    rw [had]
    exact h
  · exact Or.inl hsafe.adOe

/-- A step that faults an unmarked bus forces the safe state. -/
theorem processorBusStep_safe {env : Env} {b : Board} (h : b.faulted = false)
    (hfault : (processorBusStep env b).2.faulted = true) : (processorBusStep env b).2.Safe := by
  rcases processorBusStep_cases env b with ⟨hkeep, -⟩ | ⟨-, hsafe⟩
  · rw [hkeep, h] at hfault
    cases hfault
  · exact hsafe

theorem processorBusReleaseAd_safe {b : Board} (h : b.Safe) : (processorBusReleaseAd b).Safe :=
  ⟨h.reset, h.mode, h.clk, processorBusReleaseAd_adOff b⟩

/-! ### Two clock steps -/

section

variable {env : Env} {b : Board} {failed completed : List BusOp}

theorem run_twoSteps :
    run (busOp env) b (twoSteps env b failed completed)
      = if (processorBusStep env b).2.faulted then
          run (busOp env) (processorBusStep env b).2 failed
        else if (processorBusStep env (processorBusStep env b).2).2.faulted then
          run (busOp env) (processorBusStep env (processorBusStep env b).2).2 failed
        else run (busOp env) (processorBusStep env (processorBusStep env b).2).2 completed := by
  unfold twoSteps
  simp only [run_cons, busOp]
  split_ifs <;> rfl

/-- The two ways out of two clock steps. -/
theorem twoSteps_end (h : b.faulted = false) {P : Board → Prop}
    (hfailed : ∀ b', b'.Safe → P (run (busOp env) b' failed))
    (hcompleted : ∀ b', P (run (busOp env) b' completed)) :
    P (run (busOp env) b (twoSteps env b failed completed)) := by
  rw [run_twoSteps]
  split_ifs with h₁ h₂
  · exact hfailed _ (processorBusStep_safe h h₁)
  · exact hfailed _ (processorBusStep_safe (Bool.eq_false_iff.mpr h₁) h₂)
  · exact hcompleted _

theorem throughout_twoSteps {P : Board → Prop} (h : P b)
    (hstep : ∀ b', P b' → P (processorBusStep env b').2)
    (hfailed : ∀ b', P b' → Throughout (busOp env) P b' failed)
    (hcompleted : ∀ b', P b' → Throughout (busOp env) P b' completed) :
    Throughout (busOp env) P b (twoSteps env b failed completed) := by
  have h₁ := hstep b h
  have h₂ := hstep _ h₁
  unfold twoSteps
  simp only
  rw [throughout_cons]
  refine ⟨h, ?_⟩
  change Throughout _ _ (processorBusStep env b).2 _
  split_ifs
  · exact hfailed _ h₁
  · rw [throughout_cons]
    exact ⟨h₁, hfailed _ h₂⟩
  · rw [throughout_cons]
    exact ⟨h₁, hcompleted _ h₂⟩

theorem mem_twoSteps {op : BusOp} (h : op ∈ twoSteps env b failed completed) :
    op = .step ∨ op ∈ failed ∨ op ∈ completed := by
  unfold twoSteps at h
  simp only at h
  split_ifs at h <;> simp only [List.mem_cons] at h <;> tauto

end

/-! ### Waiting for a cycle -/

section

variable {env : Env} {b : Board}

theorem run_waitAleOps (n idle : ℕ) :
    run (busOp env) b (waitAleOps env n b) = (waitAle env n idle b).2 := by
  induction n generalizing idle b with
  | zero => rfl
  | succ n ih =>
    unfold waitAleOps waitAle
    simp only [run_cons, busOp]
    split_ifs
    · rfl
    · rfl
    · exact ih (idle + 1)

theorem run_waitCycleOps (n : ℕ) :
    run (busOp env) b (waitCycleOps env n b) = (processorBusWaitCycle env n b).2 := by
  have hrun := @run_waitAleOps env b n 0
  unfold waitCycleOps processorBusWaitCycle
  rcases heq : waitAle env n 0 b with ⟨_ | ⟨t1, idleSteps⟩, b'⟩
  · rw [heq] at hrun
    exact hrun
  · rw [heq] at hrun
    simp only
    rw [run_append, hrun]
    split_ifs <;> rfl

theorem mem_waitCycleOps {op : BusOp} {n : ℕ} (h : op ∈ waitCycleOps env n b) : op = .step := by
  have hale : ∀ (n : ℕ) (b : Board), op ∈ waitAleOps env n b → op = .step := by
    intro n
    induction n with
    | zero => intro b hmem; cases hmem
    | succ n ih =>
      intro b hmem
      unfold waitAleOps at hmem
      simp only [List.mem_cons] at hmem
      rcases hmem with hmem | hmem
      · exact hmem
      · split_ifs at hmem
        · cases hmem
        · cases hmem
        · exact ih _ hmem
  unfold waitCycleOps at h
  split at h
  · exact hale n b h
  · rw [List.mem_append, List.mem_singleton] at h
    exact h.elim (hale n b) id

theorem throughout_steps {P : Board → Prop} (hstep : ∀ b', P b' → P (processorBusStep env b').2)
    {ops : List BusOp} (hops : ∀ op ∈ ops, op = .step) (h : P b) :
    Throughout (busOp env) P b ops := by
  induction ops generalizing b with
  | nil => exact throughout_nil.mpr h
  | cons op ops ih =>
    obtain rfl := hops op (List.mem_cons_self ..)
    exact throughout_cons.mpr
      ⟨h, ih (fun op' hmem => hops op' (List.mem_cons_of_mem _ hmem)) (hstep b h)⟩

theorem waitAle_fault {n idle : ℕ} (h : b.faulted = false) :
    ((waitAle env n idle b).1.isSome = true → (waitAle env n idle b).2.faulted = false) ∧
      ((waitAle env n idle b).2.faulted = true → (waitAle env n idle b).2.Safe) := by
  induction n generalizing idle b with
  | zero => exact ⟨fun _ => h, fun hfault => by rw [waitAle, h] at hfault; cases hfault⟩
  | succ n ih =>
    unfold waitAle
    simp only
    split_ifs with hfault hale
    · exact ⟨fun hnone => (by cases hnone), fun _ => processorBusStep_safe h hfault⟩
    · exact ⟨fun _ => Bool.eq_false_iff.mpr hfault, fun hfault' => absurd hfault' hfault⟩
    · exact ih (Bool.eq_false_iff.mpr hfault)

/-- A cycle is identified on an unmarked bus; a wait that marks the bus ends in the safe state. -/
theorem processorBusWaitCycle_fault {n : ℕ} (h : b.faulted = false) :
    ((processorBusWaitCycle env n b).1.isSome = true →
        (processorBusWaitCycle env n b).2.faulted = false) ∧
      ((processorBusWaitCycle env n b).2.faulted = true →
        (processorBusWaitCycle env n b).2.Safe) := by
  obtain ⟨hsome, hsafe⟩ := @waitAle_fault env b n 0 h
  unfold processorBusWaitCycle
  rcases heq : waitAle env n 0 b with ⟨_ | ⟨t1, idleSteps⟩, b'⟩
  · rw [heq] at hsafe
    exact ⟨fun hnone => (by cases hnone), hsafe⟩
  · rw [heq] at hsome
    simp only
    split_ifs with hfault
    · exact ⟨fun hnone => (by cases hnone), fun _ => processorBusStep_safe (hsome rfl) hfault⟩
    · exact ⟨fun _ => Bool.eq_false_iff.mpr hfault, fun hfault' => absurd hfault' hfault⟩

end

/-! ### Cycles -/

section

variable {env : Env} {b : Board}

theorem run_completeReadOps (cycle : BusCycle) (driven : UInt16) (stats : ClockSteppedStats) :
    run (busOp env) b (completeReadOps env driven cycle.lanes b)
      = (completeRead env cycle driven stats b).2.2 := by
  unfold completeReadOps completeRead processorBusCompleteRead
  simp only [run_cons, busOp, run_twoSteps]
  split_ifs <;> first | rfl | (simp only; split_ifs <;> rfl)

theorem run_completeInterruptAckOps (driveVector : Bool) (vector : UInt8) :
    run (busOp env) b (completeInterruptAckOps env driveVector vector b)
      = (processorBusCompleteInterruptAck env driveVector vector b).2 := by
  unfold completeInterruptAckOps processorBusCompleteInterruptAck
  cases driveVector with
  | true =>
    simp only [if_true, run_cons, busOp, run_twoSteps]
    split_ifs <;> rfl
  | false =>
    simp only [Bool.false_eq_true, if_false, run_cons, busOp, run_twoSteps]
    split_ifs <;> rfl

theorem run_completeWriteOps (cycle : BusCycle) (completed : List BusOp) :
    run (busOp env) b (completeWriteOps env b completed)
      = match processorBusCompleteWrite env cycle b with
        | (none, b') => b'
        | (some _, b') => run (busOp env) b' completed := by
  unfold completeWriteOps processorBusCompleteWrite
  simp only [run_cons, busOp, run_twoSteps]
  split_ifs <;> rfl

/-- A read drives its lanes until it is completed or the bus faults. -/
theorem throughout_completeReadOps (hoff : b.AdOff) (driven : UInt16) (lanes : BusLanes) :
    Throughout (busOp env) (Board.AdWithin lanes) b (completeReadOps env driven lanes b) := by
  refine throughout_cons.mpr ⟨Or.inl hoff, throughout_twoSteps
    (processorBusDriveData_adWithin hoff driven lanes) (fun _ => processorBusStep_adWithin)
    (fun _ hb => throughout_nil.mpr hb) fun b' hb => ?_⟩
  exact throughout_cons.mpr ⟨hb, throughout_nil.mpr (Or.inl (processorBusReleaseAd_adOff b'))⟩

theorem completeReadOps_adOff (hfault : b.faulted = false) (driven : UInt16) (lanes : BusLanes) :
    (run (busOp env) b (completeReadOps env driven lanes b)).AdOff :=
  @twoSteps_end env (processorBusDriveData driven lanes b) _ _ hfault Board.AdOff
    (fun _ hsafe => hsafe.adOe) fun b' => processorBusReleaseAd_adOff b'

/-- An acknowledge drives the low lane, if it drives at all. -/
theorem throughout_completeInterruptAckOps (hoff : b.AdOff) (driveVector : Bool)
    (vector : UInt8) :
    Throughout (busOp env) (fun b' => b'.AdOff ∨ driveVector = true ∧ b'.AdWithin .low) b
      (completeInterruptAckOps env driveVector vector b) := by
  have hrelease : ∀ b' : Board, (b'.AdOff ∨ driveVector = true ∧ b'.AdWithin .low) →
      Throughout (busOp env) (fun b' => b'.AdOff ∨ driveVector = true ∧ b'.AdWithin .low) b'
        [.release] := fun b' hb =>
    throughout_cons.mpr ⟨hb, throughout_nil.mpr (Or.inl (processorBusReleaseAd_adOff b'))⟩
  have hstep : ∀ b' : Board, (b'.AdOff ∨ driveVector = true ∧ b'.AdWithin .low) →
      ((processorBusStep env b').2.AdOff ∨
        driveVector = true ∧ (processorBusStep env b').2.AdWithin .low) := by
    rintro b' (hb | ⟨hdrive, hb⟩)
    · exact Or.inl (processorBusStep_adOff hb)
    · exact Or.inr ⟨hdrive, processorBusStep_adWithin hb⟩
  unfold completeInterruptAckOps
  split_ifs with hdrive
  · exact throughout_cons.mpr ⟨Or.inl hoff, throughout_twoSteps
      (Or.inr ⟨hdrive, processorBusDriveData_adWithin hoff _ _⟩) hstep hrelease hrelease⟩
  · exact throughout_cons.mpr ⟨Or.inl hoff, throughout_twoSteps
      (Or.inl (processorBusReleaseAd_adOff b)) hstep hrelease hrelease⟩

theorem completeInterruptAckOps_adOff (hfault : b.faulted = false) (driveVector : Bool)
    (vector : UInt8) :
    (run (busOp env) b (completeInterruptAckOps env driveVector vector b)).AdOff := by
  unfold completeInterruptAckOps
  split_ifs
  · exact @twoSteps_end env (processorBusDriveData vector.toUInt16 .low b) _ _ hfault Board.AdOff
      (fun b' _ => processorBusReleaseAd_adOff b') fun b' => processorBusReleaseAd_adOff b'
  · exact @twoSteps_end env (processorBusReleaseAd b) _ _ hfault Board.AdOff
      (fun b' _ => processorBusReleaseAd_adOff b') fun b' => processorBusReleaseAd_adOff b'

theorem throughout_completeWriteOps (hoff : b.AdOff) {completed : List BusOp}
    (hcompleted : ∀ b' : Board, b'.AdOff → Throughout (busOp env) Board.AdOff b' completed) :
    Throughout (busOp env) Board.AdOff b (completeWriteOps env b completed) :=
  throughout_cons.mpr ⟨hoff, throughout_twoSteps (processorBusReleaseAd_adOff b)
    (fun _ => processorBusStep_adOff) (fun _ hb => throughout_nil.mpr hb) hcompleted⟩

/-! ### Failed clock steps -/

theorem processorBusCompleteRead_safe (hfault : b.faulted = false)
    (h : (processorBusCompleteRead env b).1 = none) : (processorBusCompleteRead env b).2.Safe := by
  unfold processorBusCompleteRead at h ⊢
  simp only at h ⊢
  split_ifs at h ⊢ with h₁ h₂
  · exact processorBusStep_safe hfault h₁
  · exact processorBusStep_safe (Bool.eq_false_iff.mpr h₁) h₂

theorem processorBusCompleteInterruptAck_safe (hfault : b.faulted = false) {driveVector : Bool}
    {vector : UInt8} (h : (processorBusCompleteInterruptAck env driveVector vector b).1 = false) :
    (processorBusCompleteInterruptAck env driveVector vector b).2.Safe := by
  unfold processorBusCompleteInterruptAck at h ⊢
  simp only at h ⊢
  have hstart : (if driveVector then processorBusDriveData vector.toUInt16 .low b
      else processorBusReleaseAd b).faulted = false := by
    split_ifs <;> exact hfault
  generalize (if driveVector = true then processorBusDriveData vector.toUInt16 .low b
    else processorBusReleaseAd b) = b₀ at h hstart ⊢
  split_ifs at h ⊢ with h₁ h₂
  · exact processorBusReleaseAd_safe (processorBusStep_safe hstart h₁)
  · exact processorBusReleaseAd_safe (processorBusStep_safe (Bool.eq_false_iff.mpr h₁) h₂)

theorem processorBusCompleteWrite_safe (hfault : b.faulted = false) {cycle : BusCycle}
    (h : (processorBusCompleteWrite env cycle b).1 = none) :
    (processorBusCompleteWrite env cycle b).2.Safe := by
  unfold processorBusCompleteWrite at h ⊢
  simp only at h ⊢
  split_ifs at h ⊢ with h₁ h₂
  · exact processorBusStep_safe hfault h₁
  · exact processorBusStep_safe (Bool.eq_false_iff.mpr h₁) h₂

end

/-! ### Services -/

variable {κ : Type*}

/-- Handlers that leave the AD pins and the mark of the bus alone. -/
structure KeepsBus (io : ClockSteppedIo κ) : Prop where
  write : ∀ env stats port lanes value context b,
    (io.write env stats port lanes value context b).2.2.adOe = b.adOe
  interruptAck : ∀ context b, (io.interruptAck context b).2.2.adOe = b.adOe ∧
    (io.interruptAck context b).2.2.faulted = b.faulted

theorem executorIo_keepsBus (clockMode : WorkloadClockMode) : KeepsBus (executorIo clockMode) := by
  constructor
  · intro env stats port lanes value context b
    change (ioWrite clockMode env stats port lanes value context b).2.2.adOe = b.adOe
    have hwritten := ioWrite_written clockMode env stats port lanes value context b
    generalize ioWrite clockMode env stats port lanes value context b = r at hwritten ⊢
    cases hwritten with
    | diagnostic hport => rfl
    | eoi hport hvalue =>
      change (tickEoi env stats.cycles context.tick b).2.adOe = b.adOe
      unfold tickEoi retractTick closeService
      simp only
      split_ifs <;> rfl
    | idlePrepare hport hvalue =>
      change (tickIdlePrepare context.tick b).2.adOe = b.adOe
      unfold tickIdlePrepare
      split_ifs <;> rfl
    | other completed hdiagnostic heoi hidle => rfl
  · intro context b
    change (Rp86.interruptAck context b).2.2.adOe = b.adOe ∧
      (Rp86.interruptAck context b).2.2.faulted = b.faulted
    unfold Rp86.interruptAck tickInterruptAck
    simp only
    split_ifs <;> exact ⟨rfl, rfl⟩

/-- What entitles a service to drive the AD pins, and on which lanes: a memory read, an I/O read
that the handler answered, or an acknowledge for which it asked to drive the vector. -/
inductive Drives (io : ClockSteppedIo κ) (context : κ) (b : Board) (cycle : BusCycle) :
    BusLanes → Prop
  | memRead (htype : cycle.type = .memRead) : Drives io context b cycle cycle.lanes
  | ioRead (htype : cycle.type = .ioRead) (value : UInt16)
      (hread : io.read cycle.address.toUInt16 cycle.lanes = some value) :
      Drives io context b cycle cycle.lanes
  | interruptAck (htype : cycle.type = .interruptAck) (vector : UInt8)
      (hack : (io.interruptAck context b).1 = some (true, vector)) : Drives io context b cycle .low

theorem Drives.not_write {io : ClockSteppedIo κ} {context : κ} {b : Board} {cycle : BusCycle}
    {lanes : BusLanes} (h : Drives io context b cycle lanes) :
    cycle.type ≠ .memWrite ∧ cycle.type ≠ .ioWrite := by
  cases h with
  | memRead htype | ioRead htype | interruptAck htype => rw [htype]; decide

section

variable (env : Env) (memory : Memory) (rom : List UInt8) (io : ClockSteppedIo κ)
  (cycle : BusCycle) (s : CycleState κ)

/-- The operations of a read cycle lead where the cycle does. -/
theorem run_readOps (answer : Option UInt16) (memoryReads ioReads : UInt32 → UInt32) :
    run (busOp env) s.board
        (match answer with
          | none => []
          | some driven => completeReadOps env driven cycle.lanes s.board)
      = (readCycle env cycle answer memoryReads ioReads s).2.board := by
  unfold readCycle
  cases answer with
  | none => rfl
  | some driven =>
    simp only
    rw [run_completeReadOps cycle driven (s.stats.withData driven)]
    rcases completeRead env cycle driven (s.stats.withData driven) s.board
      with ⟨_ | _, stats, b'⟩
    · rfl
    · rfl

theorem run_identifiedOps :
    run (busOp env) s.board (identifiedOps env memory rom io cycle s)
      = (serviceIdentified env memory rom io cycle s).2.board := by
  unfold identifiedOps serviceIdentified
  -- an acknowledge, a cycle without lanes, and the other cycles by type
  split_ifs
  · rw [run_cons]
    change run (busOp env) (io.interruptAck s.context s.board).2.2 _ = _
    unfold interruptAckCycle
    simp only
    rcases io.interruptAck s.context s.board with ⟨_ | ⟨driveVector, vector⟩, context, b⟩
    · rfl
    · simp only
      rw [run_completeInterruptAckOps]
      rcases processorBusCompleteInterruptAck env driveVector vector b with ⟨_ | _, b'⟩ <;> rfl
  · rfl
  · cases cycle.type with
    | memRead =>
      rw [memReadCycle_eq]
      exact run_readOps env cycle s _ _ _
    | memWrite =>
      unfold memWriteCycle
      simp only
      rw [run_completeWriteOps cycle]
      rcases processorBusCompleteWrite env cycle s.board with ⟨_ | ⟨d0, d1⟩, b'⟩
      · rfl
      · simp only
        split <;> rfl
    | ioRead =>
      rw [ioReadCycle_eq]
      exact run_readOps env cycle s _ _ _
    | ioWrite =>
      unfold ioWriteCycle
      simp only
      rw [run_completeWriteOps cycle]
      obtain ⟨b, hcase | ⟨d₁, d₂, hcase⟩⟩ := processorBusCompleteWrite_cases env cycle s.board
      · rw [hcase]
      · rw [hcase]
        change (io.write env _ _ _ _ s.context b).2.2 = _
        simp only
        split
        · next heq => rw [heq]
        · next heq => rw [heq]
    | interruptAck | unsupported => rfl

/-- What the service of an identified cycle does to the bus. -/
inductive CycleOps : List BusOp → Prop
  | none : CycleOps []
  | read (driven : UInt16) (hdrives : Drives io s.context s.board cycle cycle.lanes) :
      CycleOps (completeReadOps env driven cycle.lanes s.board)
  | write : CycleOps (completeWriteOps env s.board [])
  | handedOver (stats : ClockSteppedStats) (value : UInt16) :
      CycleOps (completeWriteOps env s.board [.handler fun b =>
        (io.write env stats cycle.address.toUInt16 cycle.lanes value s.context b).2.2])
  | refused : CycleOps [.handler fun b => (io.interruptAck s.context b).2.2]
  | acknowledged (driveVector : Bool) (vector : UInt8)
      (hdrives : driveVector = true → Drives io s.context s.board cycle .low) :
      CycleOps (.handler (fun b => (io.interruptAck s.context b).2.2) ::
        completeInterruptAckOps env driveVector vector (io.interruptAck s.context s.board).2.2)

theorem identifiedOps_cases :
    CycleOps env io cycle s (identifiedOps env memory rom io cycle s) := by
  unfold identifiedOps
  split_ifs with hack
  · rcases hanswer : io.interruptAck s.context s.board
      with ⟨_ | ⟨driveVector, vector⟩, context, b⟩
    · exact .refused
    · have hboard : b = (io.interruptAck s.context s.board).2.2 := by rw [hanswer]
      simp only
      rw [hboard]
      exact .acknowledged driveVector vector fun hdrive =>
        .interruptAck hack vector (by rw [hanswer, hdrive])
  · exact .none
  · cases htype : cycle.type with
    | memRead =>
      cases laneRead memory s.ram rom cycle with
      | none => exact .none
      | some driven => exact .read driven (.memRead htype)
    | memWrite => exact .write
    | ioRead =>
      cases hread : io.read cycle.address.toUInt16 cycle.lanes with
      | none => exact .none
      | some driven => exact .read driven (.ioRead htype driven hread)
    | ioWrite => exact .handedOver _ _
    | interruptAck | unsupported => exact .none

end

section

variable {env : Env} {io : ClockSteppedIo κ} {cycle : BusCycle} {s : CycleState κ}
  {ops : List BusOp}

theorem KeepsBus.ack_adOff (hio : KeepsBus io) (hoff : s.board.AdOff) :
    (io.interruptAck s.context s.board).2.2.AdOff := by
  unfold Board.AdOff
  rw [(hio.interruptAck s.context s.board).1]
  exact hoff

theorem KeepsBus.write_adOff (hio : KeepsBus io) {b : Board} (hoff : b.AdOff)
    (stats : ClockSteppedStats) (port : UInt16) (lanes : BusLanes) (value : UInt16) (context : κ) :
    (io.write env stats port lanes value context b).2.2.AdOff := by
  unfold Board.AdOff
  rw [hio.write]
  exact hoff

/-- While a cycle is served, only the lanes that it is entitled to are driven. -/
theorem CycleOps.throughout (h : CycleOps env io cycle s ops) (hio : KeepsBus io)
    (hoff : s.board.AdOff) :
    Throughout (busOp env)
      (fun b => b.AdOff ∨ ∃ lanes, Drives io s.context s.board cycle lanes ∧ b.AdWithin lanes)
      s.board ops := by
  cases h with
  | none => exact throughout_nil.mpr (Or.inl hoff)
  | read driven hdrives =>
    exact (throughout_completeReadOps hoff driven cycle.lanes).mono fun b hb =>
      Or.inr ⟨cycle.lanes, hdrives, hb⟩
  | write =>
    exact (throughout_completeWriteOps hoff fun _ hb => throughout_nil.mpr hb).mono
      fun b hb => Or.inl hb
  | handedOver stats value =>
    refine (throughout_completeWriteOps hoff fun b hb => ?_).mono fun b hb => Or.inl hb
    exact throughout_cons.mpr ⟨hb, throughout_nil.mpr (hio.write_adOff hb ..)⟩
  | refused =>
    exact throughout_cons.mpr ⟨Or.inl hoff, throughout_nil.mpr (Or.inl (hio.ack_adOff hoff))⟩
  | acknowledged driveVector vector hdrives =>
    refine throughout_cons.mpr ⟨Or.inl hoff,
      (throughout_completeInterruptAckOps (hio.ack_adOff hoff) driveVector vector).mono ?_⟩
    rintro b (hb | ⟨hdrive, hb⟩)
    · exact Or.inl hb
    · exact Or.inr ⟨.low, hdrives hdrive, hb⟩

/-- A served cycle leaves the AD pins released. -/
theorem CycleOps.adOff (h : CycleOps env io cycle s ops) (hio : KeepsBus io)
    (hoff : s.board.AdOff) (hfault : s.board.faulted = false) :
    (run (busOp env) s.board ops).AdOff := by
  cases h with
  | none => exact hoff
  | read driven hdrives => exact completeReadOps_adOff hfault driven cycle.lanes
  | write =>
    exact throughout_completeWriteOps hoff (fun _ hb => throughout_nil.mpr hb) _ List.prefix_rfl
  | handedOver stats value =>
    refine throughout_completeWriteOps hoff (fun b hb => ?_) _ List.prefix_rfl
    exact throughout_cons.mpr ⟨hb, throughout_nil.mpr (hio.write_adOff hb ..)⟩
  | refused => exact hio.ack_adOff hoff
  | acknowledged driveVector vector hdrives =>
    exact completeInterruptAckOps_adOff ((hio.interruptAck _ _).2.trans hfault) driveVector vector

/-- A cycle drives the lanes that it is entitled to. -/
theorem CycleOps.drives (h : CycleOps env io cycle s ops) {value : UInt16} {lanes : BusLanes}
    (hmem : .drive value lanes ∈ ops) : Drives io s.context s.board cycle lanes := by
  have htwo : ∀ {b : Board} {failed completed : List BusOp},
      BusOp.drive value lanes ∈ twoSteps env b failed completed →
      BusOp.drive value lanes ∈ failed ∨ BusOp.drive value lanes ∈ completed := fun hmem =>
    (mem_twoSteps hmem).resolve_left BusOp.noConfusion
  cases h with
  | none => cases hmem
  | read driven hdrives =>
    rcases List.mem_cons.mp hmem with heq | hmem
    · cases heq
      exact hdrives
    · rcases htwo hmem with hmem | hmem <;> simp at hmem
  | write | handedOver stats value =>
    rcases List.mem_cons.mp hmem with heq | hmem
    · cases heq
    · rcases htwo hmem with hmem | hmem <;> simp at hmem
  | refused => simp at hmem
  | acknowledged driveVector vector hdrives =>
    rcases List.mem_cons.mp hmem with heq | hmem
    · cases heq
    · unfold completeInterruptAckOps at hmem
      split_ifs at hmem with hdrive
      · rcases List.mem_cons.mp hmem with heq | hmem
        · cases heq
          exact hdrives hdrive
        · rcases htwo hmem with hmem | hmem <;> simp at hmem
      · rcases List.mem_cons.mp hmem with heq | hmem
        · cases heq
        · rcases htwo hmem with hmem | hmem <;> simp at hmem

end

/-! ### Clock failures -/

section

variable {env : Env} {memory : Memory} {rom : List UInt8} {io : ClockSteppedIo κ}
  {cycle : BusCycle} {s : CycleState κ}

theorem completeRead_safe {driven : UInt16} {stats : ClockSteppedStats} {b : Board}
    (hfault : b.faulted = false) (hclear : stats.clockFailure = false)
    (h : (completeRead env cycle driven stats b).2.1.clockFailure = true) :
    (completeRead env cycle driven stats b).2.2.Safe := by
  have hsafe := @processorBusCompleteRead_safe env (processorBusDriveData driven cycle.lanes b)
    hfault
  unfold completeRead at h ⊢
  simp only at h ⊢
  rcases heq : processorBusCompleteRead env (processorBusDriveData driven cycle.lanes b)
    with ⟨_ | ⟨rb1, rb2⟩, b'⟩
  · rw [heq] at hsafe
    exact hsafe rfl
  · rw [heq] at h
    simp only at h
    split_ifs at h <;> rw [hclear] at h <;> cases h

section

variable (hfault : s.board.faulted = false) (hclear : s.stats.clockFailure = false)

include hfault hclear

theorem interruptAckCycle_safe (hio : KeepsBus io)
    (h : (interruptAckCycle env io s).2.stats.clockFailure = true) :
    (interruptAckCycle env io s).2.board.Safe := by
  have hkeep := (hio.interruptAck s.context s.board).2.trans hfault
  unfold interruptAckCycle at h ⊢
  simp only at h ⊢
  rcases hanswer : io.interruptAck s.context s.board
    with ⟨_ | ⟨driveVector, vector⟩, context, b⟩
  · rw [hanswer] at h
    exact absurd h (Bool.eq_false_iff.mp hclear)
  · rw [hanswer] at h hkeep
    have hsafe := @processorBusCompleteInterruptAck_safe env b hkeep driveVector vector
    simp only at h ⊢
    rcases heq : processorBusCompleteInterruptAck env driveVector vector b with ⟨_ | _, b'⟩
    · rw [heq] at hsafe
      exact hsafe rfl
    · rw [heq] at h
      exact absurd h (Bool.eq_false_iff.mp hclear)

theorem readCycle_safe {answer : Option UInt16} {memoryReads ioReads : UInt32 → UInt32}
    (h : (readCycle env cycle answer memoryReads ioReads s).2.stats.clockFailure = true) :
    (readCycle env cycle answer memoryReads ioReads s).2.board.Safe := by
  unfold readCycle at h ⊢
  cases answer with
  | none => exact absurd h (Bool.eq_false_iff.mp hclear)
  | some driven =>
    have hsafe := @completeRead_safe env cycle driven (s.stats.withData driven) _ hfault hclear
    simp only at h ⊢
    rcases heq : completeRead env cycle driven (s.stats.withData driven) s.board
      with ⟨_ | _, stats, b⟩
    · rw [heq] at h hsafe
      exact hsafe h
    · rw [heq] at h hsafe
      exact hsafe h

theorem memWriteCycle_safe (h : (memWriteCycle env memory cycle s).2.stats.clockFailure = true) :
    (memWriteCycle env memory cycle s).2.board.Safe := by
  have hsafe := @processorBusCompleteWrite_safe env s.board hfault cycle
  unfold memWriteCycle at h ⊢
  rcases heq : processorBusCompleteWrite env cycle s.board with ⟨_ | ⟨d0, d1⟩, b⟩
  · rw [heq] at hsafe
    exact hsafe rfl
  · rw [heq] at h
    simp only at h
    split at h <;> exact absurd h (Bool.eq_false_iff.mp hclear)

theorem ioWriteCycle_safe (h : (ioWriteCycle env io cycle s).2.stats.clockFailure = true) :
    (ioWriteCycle env io cycle s).2.board.Safe := by
  have hsafe := @processorBusCompleteWrite_safe env s.board hfault cycle
  unfold ioWriteCycle at h ⊢
  rcases heq : processorBusCompleteWrite env cycle s.board with ⟨_ | ⟨d0, d1⟩, b⟩
  · rw [heq] at hsafe
    exact hsafe rfl
  · rw [heq] at h
    simp only at h
    split at h <;> exact absurd h (Bool.eq_false_iff.mp hclear)

theorem serviceIdentified_safe (hio : KeepsBus io)
    (h : (serviceIdentified env memory rom io cycle s).2.stats.clockFailure = true) :
    (serviceIdentified env memory rom io cycle s).2.board.Safe := by
  unfold serviceIdentified at h ⊢
  split_ifs at h ⊢ with hack hnone
  · exact interruptAckCycle_safe hfault hclear hio h
  · exact absurd h (Bool.eq_false_iff.mp hclear)
  · cases htype : cycle.type with
    | memRead =>
      rw [htype] at h
      change (memReadCycle env memory rom cycle s).2.stats.clockFailure = true at h
      rw [memReadCycle_eq] at h
      exact readCycle_safe hfault hclear h
    | memWrite => exact memWriteCycle_safe hfault hclear (by rw [htype] at h; exact h)
    | ioRead =>
      rw [htype] at h
      change (ioReadCycle env io cycle s).2.stats.clockFailure = true at h
      rw [ioReadCycle_eq] at h
      exact readCycle_safe hfault hclear h
    | ioWrite => exact ioWriteCycle_safe hfault hclear (by rw [htype] at h; exact h)
    | interruptAck => exact absurd htype hack
    | unsupported =>
      rw [htype] at h
      exact absurd h (Bool.eq_false_iff.mp hclear)

end

end

/-! ### The whole call -/

section

variable {env : Env} {memory : Memory} {rom : List UInt8} {io : ClockSteppedIo κ} {n : ℕ}
  {s : CycleState κ}

theorem run_serviceCycleOps :
    run (busOp env) s.board (serviceCycleOps env memory rom io n s)
      = (clockSteppedServiceCycle env memory rom io n s).2.board := by
  unfold serviceCycleOps clockSteppedServiceCycle
  rw [run_append, run_waitCycleOps]
  simp only
  rcases processorBusWaitCycle env n s.board with ⟨_ | cycle, b⟩
  · rfl
  · exact run_identifiedOps env memory rom io cycle
      { s with stats := s.stats.clearFlags.observe cycle, board := b }

theorem waitCycleOps_adOff (hoff : s.board.AdOff) :
    Throughout (busOp env) Board.AdOff s.board (waitCycleOps env n s.board) :=
  throughout_steps (fun _ hb => processorBusStep_adOff hb) (fun _ hop => mem_waitCycleOps hop) hoff

/-- A service that reports a clock failure ends in the safe state. -/
theorem clockSteppedServiceCycle_safe (hio : KeepsBus io) (hfault : s.board.faulted = false)
    (h : (clockSteppedServiceCycle env memory rom io n s).2.stats.clockFailure = true) :
    (clockSteppedServiceCycle env memory rom io n s).2.board.Safe := by
  obtain ⟨hsome, hsafe⟩ := @processorBusWaitCycle_fault env s.board n hfault
  unfold clockSteppedServiceCycle at h ⊢
  simp only at h ⊢
  rcases hwait : processorBusWaitCycle env n s.board with ⟨_ | cycle, b⟩
  · rw [hwait] at h hsafe
    exact hsafe h
  · rw [hwait] at h hsome
    exact serviceIdentified_safe (hsome rfl) rfl hio h

/-- A service that finds the AD pins released leaves them released. -/
theorem clockSteppedServiceCycle_adOff (hio : KeepsBus io) (hfault : s.board.faulted = false)
    (hoff : s.board.AdOff) : (clockSteppedServiceCycle env memory rom io n s).2.board.AdOff := by
  have hwaited : (processorBusWaitCycle env n s.board).2.AdOff := by
    rw [← run_waitCycleOps]
    exact waitCycleOps_adOff hoff _ List.prefix_rfl
  obtain ⟨hsome, -⟩ := @processorBusWaitCycle_fault env s.board n hfault
  rw [← run_serviceCycleOps]
  unfold serviceCycleOps
  rw [run_append, run_waitCycleOps]
  rcases hwait : processorBusWaitCycle env n s.board with ⟨_ | cycle, b⟩ <;>
    rw [hwait] at hwaited hsome
  · exact hwaited
  · exact (identifiedOps_cases env memory rom io cycle
      { s with stats := s.stats.clearFlags.observe cycle, board := b }).adOff hio hwaited
        (hsome rfl)

/-- While a service is under way, AD pins are driven only after a cycle was identified that is
entitled to it, and only those of its lanes. -/
theorem serviceCycleOps_moments (hio : KeepsBus io) (hoff : s.board.AdOff) {pre : List BusOp}
    (hpre : pre <+: serviceCycleOps env memory rom io n s)
    (hon : ¬ (run (busOp env) s.board pre).AdOff) :
    ∃ cycle lanes, (processorBusWaitCycle env n s.board).1 = some cycle ∧
      waitCycleOps env n s.board <+: pre ∧
      Drives io s.context (processorBusWaitCycle env n s.board).2 cycle lanes ∧
      (run (busOp env) s.board pre).adOe &&& adBusMask = laneMask lanes := by
  have hwaited : (processorBusWaitCycle env n s.board).2.AdOff := by
    rw [← run_waitCycleOps]
    exact waitCycleOps_adOff hoff _ List.prefix_rfl
  have hrun := @run_waitCycleOps env s.board n
  -- a moment of the wait has every AD pin released
  rcases List.prefix_or_prefix_of_prefix hpre (List.prefix_append ..) with hearly | hlate
  · exact absurd (waitCycleOps_adOff hoff pre hearly) hon
  · obtain ⟨rest, rfl⟩ := hlate
    unfold serviceCycleOps at hpre
    rw [List.prefix_append_right_inj] at hpre
    rw [run_append, hrun] at hon ⊢
    rcases hwait : processorBusWaitCycle env n s.board with ⟨_ | cycle, b⟩ <;>
      rw [hwait] at hwaited hpre hon
    · rw [List.prefix_nil.mp hpre] at hon
      exact absurd hwaited hon
    · have hmoment := (identifiedOps_cases env memory rom io cycle
        { s with stats := s.stats.clearFlags.observe cycle, board := b }).throughout hio hwaited
        rest hpre
      rcases hmoment with hoff' | ⟨lanes, hdrives, hoff' | hmask⟩
      · exact absurd hoff' hon
      · exact absurd hoff' hon
      · exact ⟨cycle, lanes, rfl, List.prefix_append .., hdrives, hmask⟩

/-- A service drives the AD pins only in a cycle that is entitled to it. -/
theorem serviceCycleOps_drives {value : UInt16} {lanes : BusLanes}
    (hmem : .drive value lanes ∈ serviceCycleOps env memory rom io n s) :
    ∃ cycle, (processorBusWaitCycle env n s.board).1 = some cycle ∧
      Drives io s.context (processorBusWaitCycle env n s.board).2 cycle lanes := by
  unfold serviceCycleOps at hmem
  rcases List.mem_append.mp hmem with hmem | hmem
  · exact absurd (mem_waitCycleOps hmem) BusOp.noConfusion
  · rcases hwait : processorBusWaitCycle env n s.board with ⟨_ | cycle, b⟩ <;>
      rw [hwait] at hmem
    · cases hmem
    · exact ⟨cycle, rfl, (identifiedOps_cases env memory rom io cycle
        { s with stats := s.stats.clearFlags.observe cycle, board := b }).drives hmem⟩

end

/-! ### Halting -/

section

variable {env : Env} {b : Board}

theorem run_stepsOps (n : ℕ) :
    run (busOp env) b (stepsOps env n b) = (processorBusSteps env n b).2 := by
  induction n generalizing b with
  | zero => rfl
  | succ n ih =>
    unfold stepsOps processorBusSteps
    simp only [run_cons, busOp]
    split_ifs
    · rfl
    · exact ih

theorem mem_stepsOps {op : BusOp} (n : ℕ) (h : op ∈ stepsOps env n b) : op = .step := by
  induction n generalizing b with
  | zero => cases h
  | succ n ih =>
    unfold stepsOps at h
    simp only [List.mem_cons] at h
    rcases h with h | h
    · exact h
    · split_ifs at h
      · cases h
      · exact ih h

theorem prepareClockStepped_adOe : (prepareClockStepped env b).2.adOe = b.adOe := by
  unfold prepareClockStepped
  simp only
  split_ifs <;> rfl

theorem stopFreeRunningLow_adOe : (stopFreeRunningLow env b).2.adOe = b.adOe := by
  unfold stopFreeRunningLow exchangeToken
  simp only
  split_ifs <;> rfl

theorem executionClockSetMode_adOe :
    (executionClockSetMode env .clockStepped b).2.adOe = b.adOe := by
  unfold executionClockSetMode
  split_ifs
  · rfl
  · have hstop := @stopFreeRunningLow_adOe env b
    rcases heq : stopFreeRunningLow env b with ⟨_ | _, b'⟩ <;> rw [heq] at hstop
    · exact hstop
    · exact prepareClockStepped_adOe.trans hstop
  · exact prepareClockStepped_adOe

theorem run_safeHaltOps (n : ℕ) :
    run (busOp env) b (safeHaltOps env n b) = processorBusSafeHalt env n b := by
  unfold safeHaltOps processorBusSafeHalt
  rw [run_cons, run_cons]
  change run (busOp env) (processorBusSetExecutionClockMode env .clockStepped
    (processorBusReleaseAd b)).2 _ = _
  simp only
  rcases processorBusSetExecutionClockMode env .clockStepped (processorBusReleaseAd b)
    with ⟨_ | _, b'⟩
  · rfl
  · simp only
    rw [run_cons, run_cons, run_append]
    change processorBusForceSafeState env (run (busOp env)
      (processorBusHoldReset true (processorBusClearFault b')) _) = _
    rw [run_stepsOps]

theorem throughout_safeHaltOps (hoff : b.AdOff) (n : ℕ) :
    Throughout (busOp env) Board.AdOff b (safeHaltOps env n b) := by
  have hmode : (processorBusSetExecutionClockMode env .clockStepped
      (processorBusReleaseAd b)).2.AdOff := by
    unfold Board.AdOff processorBusSetExecutionClockMode
    rw [executionClockSetMode_adOe]
    exact processorBusReleaseAd_adOff b
  have hforce : ∀ b' : Board, b'.AdOff →
      Throughout (busOp env) Board.AdOff b' [.forceSafeState] := fun b' hb' =>
    throughout_cons.mpr ⟨hb', throughout_nil.mpr (processorBusForceSafeState_safe env b').adOe⟩
  unfold safeHaltOps
  refine throughout_cons.mpr ⟨hoff, throughout_cons.mpr ⟨processorBusReleaseAd_adOff b, ?_⟩⟩
  change Throughout _ _ (processorBusSetExecutionClockMode env .clockStepped
    (processorBusReleaseAd b)).2 _
  rcases heq : processorBusSetExecutionClockMode env .clockStepped (processorBusReleaseAd b)
    with ⟨_ | _, b'⟩ <;> rw [heq] at hmode
  · exact throughout_cons.mpr ⟨hmode, hforce _ hmode⟩
  · have hsteps : Throughout (busOp env) Board.AdOff
        (processorBusHoldReset true (processorBusClearFault b')) (stepsOps env n
        (processorBusHoldReset true (processorBusClearFault b'))) :=
      throughout_steps (fun _ hb => processorBusStep_adOff hb) (fun _ hop => mem_stepsOps n hop)
        hmode
    exact throughout_cons.mpr ⟨hmode, throughout_cons.mpr ⟨hmode, throughout_append.mpr
      ⟨hsteps, hforce _ (hsteps _ List.prefix_rfl)⟩⟩⟩

end

/-- **No bus contention.**

A service of the bus that finds the AD pins released leaves them released.  While it is under way
they are driven only once the cycle has been identified, when the cycle is entitled to it, and on
its lanes; no other operation drives them.  A clock failure that it reports leaves `RESET` asserted
and the clock stopped.  A halt drives no AD pin and leaves them released. -/
theorem no_bus_contention (clockMode : WorkloadClockMode) (env : Env) (memory : Memory)
    (rom : List UInt8) (maxIdleSteps : ℕ) (s : CycleState IoState)
    (hfault : s.board.faulted = false) :
    let io := executorIo clockMode
    let r := clockSteppedServiceCycle env memory rom io maxIdleSteps s
    let ops := serviceCycleOps env memory rom io maxIdleSteps s
    let wait := processorBusWaitCycle env maxIdleSteps s.board
    run (busOp env) s.board ops = r.2.board ∧
      (s.board.AdOff → r.2.board.AdOff ∧
        ∀ pre, pre <+: ops → ¬ (run (busOp env) s.board pre).AdOff →
          ∃ cycle lanes, wait.1 = some cycle ∧ waitCycleOps env maxIdleSteps s.board <+: pre ∧
            Drives io s.context wait.2 cycle lanes ∧
            (cycle.type ≠ .memWrite ∧ cycle.type ≠ .ioWrite) ∧
            (run (busOp env) s.board pre).adOe &&& adBusMask = laneMask lanes) ∧
      (∀ value lanes, .drive value lanes ∈ ops →
        ∃ cycle, wait.1 = some cycle ∧ Drives io s.context wait.2 cycle lanes) ∧
      (r.2.stats.clockFailure = true →
        r.2.board.reset = true ∧ r.2.board.clock.mode = .stopped) ∧
      ∀ resetClocks,
        run (busOp env) s.board (safeHaltOps env resetClocks s.board)
          = processorBusSafeHalt env resetClocks s.board ∧
        (processorBusSafeHalt env resetClocks s.board).AdOff ∧
        (s.board.AdOff →
          Throughout (busOp env) Board.AdOff s.board (safeHaltOps env resetClocks s.board)) := by
  have hio := executorIo_keepsBus clockMode
  refine ⟨run_serviceCycleOps, fun hoff => ⟨clockSteppedServiceCycle_adOff hio hfault hoff,
    fun pre hpre hon => ?_⟩, fun value lanes => serviceCycleOps_drives, fun hfailure => ?_,
    fun resetClocks => ⟨run_safeHaltOps resetClocks,
      (processorBusSafeHalt_safe env resetClocks s.board).adOe,
      fun hoff => throughout_safeHaltOps hoff resetClocks⟩⟩
  · obtain ⟨cycle, lanes, hwait, hafter, hdrives, hmask⟩ :=
      serviceCycleOps_moments hio hoff hpre hon
    exact ⟨cycle, lanes, hwait, hafter, hdrives, hdrives.not_write, hmask⟩
  · have hsafe := clockSteppedServiceCycle_safe hio hfault hfailure
    exact ⟨hsafe.reset, hsafe.mode⟩

/-- The processor reads the word at address 0. -/
def readWordEnv : Env := scriptedEnv 0
  [(1 : UInt32) <<< pinAle, (1 : UInt32) <<< pinIom ||| (1 : UInt32) <<< pinInta]

theorem no_bus_contention_read :
    let ops := serviceCycleOps readWordEnv internalSramBackingInit.processorMemory []
      (executorIo .stepped) 1 steppedStart
    steppedStart.board.AdOff ∧
      ¬ (run (busOp readWordEnv) steppedStart.board (ops.take 3)).AdOff ∧
      ∃ cycle lanes, (processorBusWaitCycle readWordEnv 1 steppedStart.board).1 = some cycle ∧
        Drives (executorIo .stepped) steppedStart.context
          (processorBusWaitCycle readWordEnv 1 steppedStart.board).2 cycle lanes := by
  intro ops
  have hoff : steppedStart.board.AdOff := by decide
  have hon : ¬ (run (busOp readWordEnv) steppedStart.board (ops.take 3)).AdOff := by decide +kernel
  obtain ⟨-, hservice, -⟩ := no_bus_contention .stepped readWordEnv
    internalSramBackingInit.processorMemory [] 1 steppedStart rfl
  obtain ⟨cycle, lanes, hwait, -, hdrives, -⟩ :=
    (hservice hoff).2 (ops.take 3) (List.take_prefix 3 ops) hon
  exact ⟨hoff, hon, cycle, lanes, hwait, hdrives⟩

end Rp86
