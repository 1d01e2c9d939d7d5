import Rp86.Memory.Equiv.Backing
import Rp86.Runtime.Equiv.Executor
import Rp86.Runtime.Service

/-!
# What a service step does

`serviceCycle_cases`: a service step does nothing for an executor that is inactive or idle;
otherwise it reports an expired deadline, or it runs one bus cycle.  The cycle leaves everything
but the storage, the board and the executor's statistics and I/O state alone, by construction of
`executorBusCycle`.
-/

namespace Rp86

open Lib

/-- The firmware after a further read of the environment. -/
def Firmware.nextRead (fw : Firmware) : Firmware :=
  { fw with machine := { fw.machine with board := fw.machine.board.next } }

/-- An executor that the service step supervises. -/
structure Executor.Supervised (x : Executor) : Prop where
  active : x.active = true
  stepped : x.clockMode = .stepped
  notIdle : x.processorIdle = false

/-- The firmware after the check of the deadline, which reads the clock if a deadline is set. -/
def Firmware.deadlineChecked (env : Env) (fw : Firmware) : Firmware :=
  { fw with machine := { fw.machine with
    board := (executionDeadlineReached env fw.executor fw.machine.board).2 } }

variable (env : Env) (fw : Firmware)

theorem executionDeadlineReached_frame (x : Executor) (b : Board) :
    BusFrame b (executionDeadlineReached env x b).2 := by
  unfold executionDeadlineReached
  split_ifs
  · exact .refl b
  · exact .next b

/-- The deadline has passed when the clock is read next. -/
def Firmware.Expired (env : Env) (fw : Firmware) : Prop :=
  fw.executor.executionDeadlineUs ≠ 0 ∧
    fw.executor.executionDeadlineUs ≤ env.timeUs fw.machine.board.reads

/-- A service step passes over an executor that it does not supervise, reports an expired
deadline, or runs a cycle. -/
theorem serviceCycle_cases :
    (¬ fw.executor.Supervised ∧ serviceCycle env fw = (.inactive, fw)) ∨
    (fw.executor.Supervised ∧ fw.Expired env ∧
      serviceCycle env fw = (.deadline, fw.nextRead)) ∨
    (fw.executor.Supervised ∧
      (executionDeadlineReached env fw.executor fw.machine.board).1 = false ∧
      serviceCycle env fw = supervisedCycle env (fw.deadlineChecked env)) := by
  unfold serviceCycle Firmware.deadlineChecked
  split_ifs with hguard
  · refine Or.inl ⟨fun hs => ?_, rfl⟩
    simp [hs.active, hs.stepped, hs.notIdle] at hguard
  · have hs : fw.executor.Supervised := by
      simp only [Bool.or_eq_true, Bool.not_eq_true', decide_eq_true_eq, not_or, ne_eq,
        Decidable.not_not, Bool.not_eq_false, Bool.not_eq_true] at hguard
      exact ⟨hguard.1.1, hguard.1.2, hguard.2⟩
    unfold executionDeadlineReached timeUs64
    by_cases hzero : fw.executor.executionDeadlineUs = 0
    · simp only [hzero, ↓reduceIte]
      exact Or.inr (Or.inr ⟨hs, trivial, rfl⟩)
    · simp only [hzero, ↓reduceIte]
      by_cases hexp : fw.executor.executionDeadlineUs ≤ env.timeUs fw.machine.board.reads
      · simp only [hexp, decide_true, ↓reduceIte]
        exact Or.inr (Or.inl ⟨hs, ⟨hzero, hexp⟩, rfl⟩)
      · simp only [hexp, decide_false, Bool.false_eq_true, ↓reduceIte]
        exact Or.inr (Or.inr ⟨hs, trivial, trivial⟩)

/-- The bus cycle of a service step: how it went, the statistics that describe it, and the clock
after it. -/
structure CycleRecord where
  outcome : ServiceOutcome
  stats : ClockSteppedStats
  nowUs : UInt64
  deriving DecidableEq, Repr

/-- The bus cycle of a service step, if the step comes to it. -/
def serviceRecord (env : Env) (fw : Firmware) : Option CycleRecord :=
  match serviceCycle env fw with
  | (.inactive, _) | (.deadline, _) => none
  | (outcome, fw') =>
    some ⟨outcome, fw'.executor.busStats, env.timeUs fw'.machine.board.reads⟩

/-- How a bus cycle went, by whether it completed. -/
def Firmware.cycleOutcome (fw₁ : Firmware) (completed : Bool) : ServiceOutcome :=
  if completed then .completed
  else failedCycleOutcome fw₁.executor.io.idleArmed fw₁.executor.busStats

theorem Firmware.cycleOutcome_ne_deadline (fw₁ : Firmware) (completed : Bool) :
    fw₁.cycleOutcome completed ≠ .deadline := by
  unfold Firmware.cycleOutcome failedCycleOutcome
  split_ifs <;> exact ServiceOutcome.noConfusion

/-! ### After the cycle -/

/-- The firmware after a service step without a bus cycle has read the clock, with the time since
when there has been none. -/
def Firmware.starving (env : Env) (fw : Firmware) : Firmware := { fw with
  executor := { fw.executor with
    starvationStartedUs := if fw.executor.starvationStartedUs = 0
      then env.timeUs fw.machine.board.reads else fw.executor.starvationStartedUs }
  machine := { fw.machine with board := fw.machine.board.next } }

/-- A service step without a bus cycle waits on or ends the attempt. -/
theorem serviceNoCycle_eq :
    serviceNoCycle env fw =
      if env.timeUs fw.machine.board.reads - (fw.starving env).executor.starvationStartedUs
        < generalBusStarvationTimeoutUs then fw.starving env
      else endAttempt env .noBusCycle .timedOut (fw.starving env) := rfl

theorem endAttempt_eq {env : Env} {fw : Firmware} (hactive : fw.executor.active = true)
    (reason : CompletionReason) (state : WorkloadState) :
    ∃ m, fw.machine.StopsTo m ∧ endAttempt env reason state fw = { fw with
      manager := { fw.manager with state := state }
      executor := Executor.halt { fw.executor with completionReason := reason }
      machine := m } := by
  have hstops := @workloadExecutorStop_stopsTo env
    { fw.executor with completionReason := reason } fw.machine hactive
  refine ⟨_, hstops, ?_⟩
  simp only [endAttempt]
  rw [@workloadExecutorStop_active env { fw.executor with completionReason := reason } fw.machine
    hactive]

/-- The reason and the state with which a service step ends an attempt.  A rejected completion keeps
the reason that the executor has. -/
inductive OutcomeEnd (fw : Firmware) : ServiceOutcome → CompletionReason → WorkloadState → Prop
  | deadline : OutcomeEnd fw .deadline .executionDeadline .timedOut
  | noCycle : OutcomeEnd fw .noCycle .noBusCycle .timedOut
  | fault : OutcomeEnd fw .fault .busFault .faulted
  | rejected (h : workloadComplete fw.manager fw.manager.workloadId = none) :
      OutcomeEnd fw .armedHalt fw.executor.completionReason .faulted

theorem OutcomeEnd.state_cases {fw : Firmware} {outcome : ServiceOutcome}
    {reason : CompletionReason} {state : WorkloadState} (h : OutcomeEnd fw outcome reason state) :
    state = .faulted ∨ state = .timedOut := by
  cases h with
  | deadline | noCycle => exact Or.inr rfl
  | fault | rejected => exact Or.inl rfl

/-- What is done with an active executor after its bus cycle: the attempt goes on, its workload has
completed, or it ends. -/
inductive OutcomeStep (fw : Firmware) (outcome : ServiceOutcome) : Firmware → Prop
  | goesOn (us : UInt64) (b : Board) (hframe : BusFrame fw.machine.board b)
      (houtcome : outcome ∉ [ServiceOutcome.deadline, .armedHalt, .fault]) :
      OutcomeStep fw outcome { fw with
        executor := { fw.executor with starvationStartedUs := us }
        machine := { fw.machine with board := b } }
  | completes (manager : WorkloadManager) (houtcome : outcome = .armedHalt)
      (hcomplete : workloadComplete fw.manager fw.manager.workloadId = some manager) :
      OutcomeStep fw outcome { fw with manager := manager, executor := fw.executor.nativeHalt }
  | ends (reason : CompletionReason) (state : WorkloadState) (m : Machine)
      (hend : OutcomeEnd fw outcome reason state) (hstops : fw.machine.StopsTo m) :
      OutcomeStep fw outcome { fw with
        manager := { fw.manager with state := state }
        executor := Executor.halt { fw.executor with completionReason := reason }
        machine := m }

/-- **What is done after the cycle.** -/
theorem serviceOutcome_step (outcome : ServiceOutcome) {fw : Firmware}
    (hactive : fw.executor.active = true) :
    OutcomeStep fw outcome (serviceOutcome env outcome fw) := by
  cases outcome with
  | inactive =>
    exact .goesOn fw.executor.starvationStartedUs fw.machine.board (.refl _) (by decide)
  | completed | none => exact .goesOn 0 fw.machine.board (.refl _) (by decide)
  | deadline =>
    obtain ⟨m, hstops, heq⟩ := @endAttempt_eq env fw hactive .executionDeadline .timedOut
    rw [serviceOutcome, heq]
    exact .ends _ _ m .deadline hstops
  | fault =>
    obtain ⟨m, hstops, heq⟩ := @endAttempt_eq env fw.clearStarvation hactive .busFault .faulted
    rw [serviceOutcome, heq]
    exact .ends _ _ m .fault hstops
  | armedHalt =>
    simp only [serviceOutcome, serviceArmedHalt]
    split
    -- the lifecycle has refused to complete the workload
    · next hnone =>
      have hstops := @workloadExecutorStop_stopsTo env
        { fw.executor with io := { fw.executor.io with idleArmed := false } } fw.machine hactive
      rw [@workloadExecutorStop_active env
        { fw.executor with io := { fw.executor.io with idleArmed := false } } fw.machine hactive]
        at hstops ⊢
      exact .ends _ _ _ (.rejected hnone) hstops
    · next manager hcomplete => exact .completes manager rfl hcomplete
  | noCycle =>
    rw [serviceOutcome, serviceNoCycle_eq]
    split
    · exact .goesOn _ fw.machine.board.next (.next _) (by decide)
    · obtain ⟨m, hstops, heq⟩ := @endAttempt_eq env (fw.starving env) hactive .noBusCycle .timedOut
      rw [heq]
      exact .ends _ _ m .noCycle ⟨hstops.parked, Nat.le_trans (Nat.le_succ _) hstops.reads,
        hstops.processorBootId, hstops.prepared⟩

/-- What a service step does: nothing, the end of an expired attempt, or one bus cycle and what
follows from it. -/
inductive CycleStep (env : Env) (fw fw' : Firmware) : Prop
  | skipped (hx : ¬ fw.executor.Supervised) (hcycle : serviceCycle env fw = (.inactive, fw))
      (h : fw' = fw)
  | expired (hx : fw.executor.Supervised) (hexpired : fw.Expired env)
      (hcycle : serviceCycle env fw = (.deadline, fw.nextRead)) (m : Machine)
      (h : fw' = { fw with
        manager := { fw.manager with state := .timedOut }
        executor := Executor.halt { fw.executor with completionReason := .executionDeadline }
        machine := m })
      (hstep : OutcomeStep fw.nextRead .deadline fw')
  | cycle (completed : Bool) (fw₁ : Firmware) (hx : fw.executor.Supervised)
      (hdeadline : (executionDeadlineReached env fw.executor fw.machine.board).1 = false)
      (hbus : executorBusCycle env (fw.deadlineChecked env) = (completed, fw₁))
      (hcycle : serviceCycle env fw = (fw₁.cycleOutcome completed, fw₁))
      (h : fw' = serviceOutcome env (fw₁.cycleOutcome completed) fw₁)
      (hstep : OutcomeStep fw₁ (fw₁.cycleOutcome completed) fw')

/-- **What a service step does.** -/
theorem workloadExecutorService_cycle : CycleStep env fw (workloadExecutorService env fw) := by
  unfold workloadExecutorService
  rcases serviceCycle_cases env fw with ⟨hx, heq⟩ | ⟨hx, hexpired, heq⟩ | ⟨hx, hdeadline, heq⟩
  · exact .skipped hx heq (by rw [heq]; rfl)
  · obtain ⟨m, -, hend⟩ := @endAttempt_eq env fw.nextRead hx.active .executionDeadline .timedOut
    rw [heq]
    exact .expired hx hexpired heq m hend (serviceOutcome_step env .deadline hx.active)
  · rcases hbus : executorBusCycle env (fw.deadlineChecked env) with ⟨completed, fw₁⟩
    have hcycle : serviceCycle env fw = (fw₁.cycleOutcome completed, fw₁) := by
      rw [heq, supervisedCycle, hbus]
      cases completed <;> rfl
    have hactive : fw₁.executor.active = true :=
      (congrArg (fun r => r.2.executor.active) hbus).symm.trans hx.active
    rw [hcycle]
    exact .cycle completed fw₁ hx hdeadline hbus hcycle rfl (serviceOutcome_step env _ hactive)

/-- A service step that comes to its bus cycle has a record of it. -/
theorem serviceRecord_of_cycle {env : Env} {fw fw₁ : Firmware} {completed : Bool}
    (h : serviceCycle env fw = (fw₁.cycleOutcome completed, fw₁)) :
    serviceRecord env fw = some ⟨fw₁.cycleOutcome completed, fw₁.executor.busStats,
      env.timeUs fw₁.machine.board.reads⟩ := by
  rw [serviceRecord, h]
  unfold Firmware.cycleOutcome failedCycleOutcome
  split_ifs <;> rfl

/-! ### The effect on the lifecycle and the executor's control fields -/

/-- The executor's control fields, which a bus cycle leaves alone. -/
structure Executor.SameControl (x x' : Executor) : Prop where
  active : x'.active = x.active
  processorIdle : x'.processorIdle = x.processorIdle
  timeoutMs : x'.timeoutMs = x.timeoutMs
  executionStartedUs : x'.executionStartedUs = x.executionStartedUs
  executionDeadlineUs : x'.executionDeadlineUs = x.executionDeadlineUs
  clockMode : x'.clockMode = x.clockMode
  completionReason : x'.completionReason = x.completionReason
  processorMemory : x'.processorMemory = x.processorMemory

/-- An executor after an attempt has ended. -/
structure Executor.Halted (x x' : Executor) : Prop where
  active : x'.active = false
  processorIdle : x'.processorIdle = false
  timeoutMs : x'.timeoutMs = x.timeoutMs
  executionDeadlineUs : x'.executionDeadlineUs = 0
  processorMemory : x'.processorMemory = x.processorMemory

/-- An executor after an accepted halt indication. -/
structure Executor.Idle (x x' : Executor) : Prop where
  active : x'.active = x.active
  processorIdle : x'.processorIdle = true
  timeoutMs : x'.timeoutMs = x.timeoutMs
  executionStartedUs : x'.executionStartedUs = x.executionStartedUs
  executionDeadlineUs : x'.executionDeadlineUs = 0
  clockMode : x'.clockMode = x.clockMode
  completionReason : x'.completionReason = .nativeHlt
  processorMemory : x'.processorMemory = x.processorMemory

/-- What a service step did to the lifecycle and the control fields. -/
inductive ServiceEffect (env : Env) (fw fw' : Firmware) : Prop
  | skipped (hfw : fw' = fw) (hx : ¬ fw.executor.Supervised)
  | continued (hx : fw.executor.Supervised) (hm : fw'.manager = fw.manager)
      (hsame : fw.executor.SameControl fw'.executor)
  | completed (hx : fw.executor.Supervised)
      (hm : workloadComplete fw.manager fw.manager.workloadId = some fw'.manager)
      (hidle : fw.executor.Idle fw'.executor)
  | ended (hx : fw.executor.Supervised) (state : WorkloadState)
      (hstate : state = .faulted ∨ state = .timedOut)
      (hm : fw'.manager = { fw.manager with state := state })
      (hhalted : fw.executor.Halted fw'.executor) (hparked : fw'.machine.Parked)
      (hreason : fw'.executor.completionReason = .executionDeadline →
        fw.executor.completionReason = .executionDeadline ∨
        (fw.executor.executionDeadlineUs ≠ 0 ∧
          fw.executor.executionDeadlineUs ≤ env.timeUs fw.machine.board.reads))

theorem Executor.SameControl.halted {x x₁ x' : Executor} (h : x.SameControl x₁)
    (hh : x₁.Halted x') : x.Halted x' :=
  ⟨hh.active, hh.processorIdle, hh.timeoutMs.trans h.timeoutMs, hh.executionDeadlineUs,
    hh.processorMemory.trans h.processorMemory⟩

theorem Executor.SameControl.idle {x x₁ : Executor} (h : x.SameControl x₁) :
    x.Idle x₁.nativeHalt :=
  ⟨h.active, rfl, h.timeoutMs, h.executionStartedUs, rfl, h.clockMode, rfl, h.processorMemory⟩

/-- What is done after a cycle that left the manager and the control fields alone. -/
theorem OutcomeStep.effect {env : Env} {fw fw₁ fw' : Firmware} {outcome : ServiceOutcome}
    (hstep : OutcomeStep fw₁ outcome fw') (hx : fw.executor.Supervised)
    (hm : fw₁.manager = fw.manager) (hsame : fw.executor.SameControl fw₁.executor)
    (hexpired : outcome = .deadline → fw.Expired env) : ServiceEffect env fw fw' := by
  cases hstep with
  | goesOn us b hframe houtcome => exact .continued hx hm { hsame with }
  | completes manager houtcome hcomplete =>
    rw [hm] at hcomplete
    exact .completed hx hcomplete hsame.idle
  | ends reason state m hend hstops =>
    refine .ended hx state hend.state_cases (by rw [← hm]) (hsame.halted ⟨rfl, rfl, rfl, rfl, rfl⟩)
      hstops.parked fun hc => ?_
    cases hend with
    | deadline => exact Or.inr (hexpired rfl)
    | noCycle | fault => cases hc
    | rejected =>
      simp only [Executor.halt] at hc
      rw [← hsame.completionReason]
      split_ifs at hc
      exact Or.inl hc

/-- **The effect of a service step.** -/
theorem workloadExecutorService_effect : ServiceEffect env fw (workloadExecutorService env fw) := by
  cases workloadExecutorService_cycle env fw with
  | skipped hx hcycle h => exact .skipped h hx
  | expired hx hexpired hcycle m h hstep =>
    exact hstep.effect hx rfl ⟨rfl, rfl, rfl, rfl, rfl, rfl, rfl, rfl⟩ fun _ => hexpired
  | cycle completed fw₁ hx hdeadline hbus hcycle h hstep =>
    -- the cycle leaves the manager and the control fields alone
    obtain ⟨rfl, rfl⟩ := Prod.mk.inj hbus
    exact hstep.effect hx rfl ⟨rfl, rfl, rfl, rfl, rfl, rfl, rfl, rfl⟩ fun h =>
      absurd h (Firmware.cycleOutcome_ne_deadline _ _)

end Rp86
