import Rp86.Runtime.Equiv.Machine
import Rp86.Runtime.Executor

/-!
# What start and stop leave

`workloadExecutorStart_spec` and `workloadExecutorStop_active` say once what the two calls do to
the executor's flags, its deadline, its tick and the board; the invariants of the firmware are
derived from them.
-/

namespace Rp86

open Lib

/-! ### Stop -/

theorem workloadExecutorStop_active {env : Env} {x : Executor} {m : Machine}
    (h : x.active = true) :
    workloadExecutorStop env x m = (x.halt, { m with
      board := processorBusSafeHalt env processorResetClocks (processorBusSetIntr false m.board)
      busActive := false }) := by
  simp [workloadExecutorStop, h]

variable {env : Env} {x : Executor} {m : Machine}

theorem workloadExecutorStop_inactive (h : x.active = false) :
    workloadExecutorStop env x m = ({ x with executionDeadlineUs := 0 }, m) := by
  simp [workloadExecutorStop, h]

/-- **Stopping an active executor parks the processor.** -/
theorem workloadExecutorStop_parked (h : x.active = true) :
    (workloadExecutorStop env x m).2.Parked := by
  have hsafe := processorBusSafeHalt_safe env processorResetClocks
    (processorBusSetIntr false m.board)
  have hframe := processorBusSafeHalt_frame env processorResetClocks
    (processorBusSetIntr false m.board)
  rw [workloadExecutorStop_active h]
  generalize processorBusSafeHalt env processorResetClocks (processorBusSetIntr false m.board)
    = b at hsafe hframe
  exact ⟨hsafe, hframe.intr, rfl⟩

theorem workloadExecutorStop_reads (env : Env) (x : Executor) (m : Machine) :
    m.board.reads ≤ (workloadExecutorStop env x m).2.board.reads := by
  cases h : x.active with
  | true =>
    rw [workloadExecutorStop_active h]
    exact (processorBusSafeHalt_frame env processorResetClocks
      (processorBusSetIntr false m.board)).reads
  | false =>
    exact Nat.le_of_eq (by rw [workloadExecutorStop_inactive h])

theorem workloadExecutorStop_prepared (env : Env) (x : Executor) (m : Machine) :
    (workloadExecutorStop env x m).2.prepared = m.prepared := by
  unfold workloadExecutorStop
  split_ifs <;> rfl

/-- The machine after a stop of its executor. -/
structure Machine.StopsTo (m m' : Machine) : Prop where
  parked : m'.Parked
  reads : m.board.reads ≤ m'.board.reads
  processorBootId : m'.processorBootId = m.processorBootId
  prepared : m'.prepared = m.prepared

theorem workloadExecutorStop_stopsTo {env : Env} {x : Executor} {m : Machine}
    (h : x.active = true) : m.StopsTo (workloadExecutorStop env x m).2 := by
  refine ⟨workloadExecutorStop_parked h, workloadExecutorStop_reads env x m, ?_,
    workloadExecutorStop_prepared env x m⟩
  rw [workloadExecutorStop_active h]

/-! ### Start -/

/-- The tick state of an attempt that has not been served yet, with `INTR` last requested low. -/
def TickReset (t : TickState) (b : Board) : Prop :=
  (∃ enabled nextUs, t = { TickState.fresh enabled with nextUs := nextUs }) ∧
    b.intrRequest = false

structure Executor.NoResult (x : Executor) : Prop where
  nativeOutput : x.io.output.nativeOutput = []
  resultFlags : x.io.output.resultFlags = 0
  completionReason : x.completionReason = .none

/-- An attempt before its first bus cycle. -/
structure Executor.AttemptStart (env : Env) (x : Executor) (b : Board) : Prop where
  tick : ∃ enabled, x.io.tick = { TickState.fresh enabled with
    nextUs := if enabled then x.executionStartedUs + periodicTickUs else 0 }
  idleArmed : x.io.idleArmed = false
  output : x.io.output = ⟨[], [], 0⟩
  processorIdle : x.processorIdle = false
  starvationStartedUs : x.starvationStartedUs = 0
  started : ∃ n < b.reads, x.executionStartedUs = env.timeUs n
  intr : b.intr = false
  intrRequest : b.intrRequest = false

/-- A start of the general executor has retired the prepared runtime. -/
theorem prepareGeneralWorkloadBus_available {m' : Machine}
    (h : prepareGeneralWorkloadBus env m = (true, m')) : m'.prepared.available = false := by
  unfold prepareGeneralWorkloadBus disablePreparedRuntime at h
  simp only at h
  split_ifs at h with havailable
  · split at h
    · cases h
    · obtain ⟨-, rfl⟩ := Prod.mk.inj h
      rfl
  · split at h
    · cases h
    · obtain ⟨-, rfl⟩ := Prod.mk.inj h
      exact Bool.eq_false_iff.mpr havailable

theorem nextBootId_ne_zero (bootId : UInt32) : nextBootId bootId ≠ 0 := by
  unfold nextBootId
  split_ifs with h
  · decide
  · exact h

/-- An executor that has just been started. -/
structure Executor.Started (env : Env) (x : Executor) (m : Machine) : Prop where
  attempt : x.AttemptStart env m.board
  noResult : x.NoResult
  busStats : x.busStats = .zero
  diagnosticBootId : x.diagnosticBootId ≠ 0
  active : x.active = true
  deadline : x.executionDeadlineUs = x.deadline x.timeoutMs
  unprepared : m.prepared.available = false

theorem Executor.Started.processorIdle (h : x.Started env m) :
    x.processorIdle = false := h.attempt.processorIdle

theorem Executor.Started.started (h : x.Started env m) :
    ∃ n < m.board.reads, x.executionStartedUs = env.timeUs n := h.attempt.started

/-- What `rp86_workload_executor_start` does to an inactive executor. -/
structure StartSpec (env : Env) (backing : Backing) (x : Executor) (m : Machine) (started : Bool)
    (x' : Executor) (backing' : Backing) (m' : Machine) : Prop where
  timeoutMs : x'.timeoutMs = x.timeoutMs
  reads : m.board.reads ≤ m'.board.reads
  backing_cases : backing' = backing ∨ sharedMailboxInit backing = some backing'
  tick_cases : (x'.io.tick = x.io.tick ∧ m'.board.intrRequest = m.board.intrRequest) ∨
    TickReset x'.io.tick m'.board
  processorMemory_cases : x'.processorMemory = x.processorMemory ∨
    x'.processorMemory = backing.processorMemory
  success : started = true → x'.Started env m' ∧ x'.processorMemory = backing.processorMemory ∧
    m'.processorBootId = nextBootId m.processorBootId
  failure : started = false → x'.active = x.active ∧ x'.executionDeadlineUs = 0 ∧
    (x'.processorIdle = x.processorIdle ∨ x'.processorIdle = false) ∧
    x'.io.output.nativeOutput = [] ∧ x'.completionReason = .startFailure ∧ x'.busStats = .zero

theorem Executor.released_io (x : Executor) (now : UInt64) :
    (x.released now).io = { x.io with tick := { x.io.tick with
      nextUs := if x.io.tick.enabled then now + periodicTickUs else x.io.tick.nextUs } } := by
  unfold Executor.released
  simp only
  split_ifs <;> rfl

theorem startPrepared_spec (env : Env) (flags : UInt32) (backing : Backing) (x : Executor)
    (m : Machine) (hactive : x.active = false) (hdeadline : x.executionDeadlineUs = 0)
    (hresult : x.NoResult) (hstats : x.busStats = .zero)
    (hprepared : m.prepared.available = false) :
    StartSpec env backing x m (startPrepared env flags backing x m).1
      (startPrepared env flags backing x m).2.1 (startPrepared env flags backing x m).2.2.1
      (startPrepared env flags backing x m).2.2.2 := by
  unfold startPrepared resetTickAttempt
  simp only
  set b₀ := processorBusClearFault (processorBusSetIntr false m.board) with hb₀
  split
  -- the mailbox could not be initialised
  · have hsafe := processorBusForceSafeState_frame env b₀
    exact {
      timeoutMs := rfl
      reads := hsafe.reads
      backing_cases := Or.inl rfl
      tick_cases := Or.inr ⟨⟨_, 0, rfl⟩, hsafe.intrRequest⟩
      processorMemory_cases := Or.inr rfl
      success := fun h => by cases h
      failure := fun _ => ⟨rfl, hdeadline, Or.inl rfl, hresult.nativeOutput, rfl, hstats⟩ }
  · next backing' hinit =>
    have hseq := processorBusResetSequence_frame env processorResetClocks b₀
    split
    -- the reset sequence of the processor has failed
    · next b₁ heq =>
      rw [heq] at hseq
      have hsafe := hseq.trans (processorBusForceSafeState_frame env b₁)
      exact {
        timeoutMs := rfl
        reads := hsafe.reads
        backing_cases := Or.inr hinit
        tick_cases := Or.inr ⟨⟨_, 0, rfl⟩, hsafe.intrRequest⟩
        processorMemory_cases := Or.inr rfl
        success := fun h => by cases h
        failure := fun _ =>
          ⟨hactive.symm, hdeadline, Or.inr rfl, hresult.nativeOutput, rfl, hstats⟩ }
    -- the processor runs, and the attempt has its clock, tick phase and deadline
    · next b₁ heq =>
      rw [heq] at hseq
      exact {
        timeoutMs := rfl
        reads := Nat.le_trans hseq.reads (Nat.le_succ _)
        backing_cases := Or.inr hinit
        tick_cases := Or.inr ⟨⟨_, _, congrArg IoState.tick (Executor.released_io _ _)⟩,
          hseq.intrRequest⟩
        processorMemory_cases := Or.inr rfl
        success := fun _ => ⟨{
          attempt := ⟨⟨_, congrArg IoState.tick (Executor.released_io _ _)⟩,
            congrArg IoState.idleArmed (Executor.released_io _ _),
            by rw [Executor.released_io]; simp [hresult.nativeOutput, hresult.resultFlags],
            rfl, rfl, ⟨b₁.reads, Nat.lt_succ_self _, rfl⟩, hseq.intr, hseq.intrRequest⟩
          noResult := ⟨by rw [Executor.released_io]; exact hresult.nativeOutput,
            by rw [Executor.released_io]; exact hresult.resultFlags, hresult.completionReason⟩
          busStats := hstats
          diagnosticBootId := nextBootId_ne_zero _
          active := rfl
          deadline := by simp [Executor.released, Executor.deadline, hdeadline]
          unprepared := hprepared }, rfl, rfl⟩
        failure := fun h => by cases h }

/-- **What a start leaves**, for an executor that is not active. -/
theorem workloadExecutorStart_spec (env : Env) (manager : WorkloadManager) (backing : Backing)
    (x : Executor) (m : Machine) (hactive : x.active = false) :
    StartSpec env backing x m (workloadExecutorStart env manager backing x m).1
      (workloadExecutorStart env manager backing x m).2.1
      (workloadExecutorStart env manager backing x m).2.2.1
      (workloadExecutorStart env manager backing x m).2.2.2 := by
  unfold workloadExecutorStart
  simp only
  -- every failure up to the preparation of the bus looks the same
  have hfail : ∀ (code : List UInt8) (m' : Machine), RequestFrame m.board m'.board →
      StartSpec env backing x m false
        (Executor.startFailure { x.newAttempt manager.workloadId with resetHandoff := code })
        backing m' := fun code m' hframe => {
    timeoutMs := rfl
    reads := hframe.reads
    backing_cases := Or.inl rfl
    tick_cases := Or.inl ⟨rfl, hframe.intrRequest⟩
    processorMemory_cases := Or.inl rfl
    success := fun h => by cases h
    failure := fun _ => ⟨rfl, rfl, Or.inl rfl, rfl, rfl, rfl⟩ }
  split_ifs
  · exact hfail x.resetHandoff m (.refl _)
  · exact hfail _ m (.refl _)
  · have hbus := prepareGeneralWorkloadBus_request env m
    have hboot := prepareGeneralWorkloadBus_bootId env m
    split
    · next heq =>
      rw [heq] at hbus
      exact hfail _ _ hbus
    · next m₁ heq =>
      rw [heq] at hbus hboot
      set x₁ : Executor := { x.newAttempt manager.workloadId with
        resetHandoff := (buildResetHandoff manager.manifest).2 } with hx₁
      have h := startPrepared_spec env manager.manifest.flags backing x₁ m₁ hactive rfl
        ⟨rfl, rfl, rfl⟩ rfl (prepareGeneralWorkloadBus_available heq)
      exact {
        timeoutMs := h.timeoutMs
        reads := Nat.le_trans hbus.reads h.reads
        backing_cases := h.backing_cases
        tick_cases := h.tick_cases.imp (fun ht => ⟨ht.1, ht.2.trans hbus.intrRequest⟩) id
        processorMemory_cases := h.processorMemory_cases
        success := fun hs => by
          obtain ⟨h1, h2, h3⟩ := h.success hs
          exact ⟨h1, h2, h3.trans (congrArg nextBootId hboot)⟩
        failure := h.failure }

end Rp86
