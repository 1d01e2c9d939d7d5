import Rp86.Lib.History
import Rp86.Runtime.Equiv.Report

/-!
# Attempts and their bus cycles

An attempt lasts from a start of the executor to the moment the executor is no longer active.  A
record starts a new attempt, ends the current one or leaves it alone (`RecordStep.attempt`), so that
within an attempt only service steps change the executor's I/O state.  `attemptCycles` is the
history of the bus cycles of the current attempt.
-/

namespace Rp86

open Lib

/-! ### Records -/

/-- The state of an attempt that only its service steps change. -/
structure Executor.SameAttempt (x x' : Executor) : Prop where
  io : x'.io = x.io
  busStats : x'.busStats = x.busStats
  active : x'.active = x.active
  processorIdle : x'.processorIdle = x.processorIdle
  starvationStartedUs : x'.starvationStartedUs = x.starvationStartedUs
  executionStartedUs : x'.executionStartedUs = x.executionStartedUs
  clockMode : x'.clockMode = x.clockMode

theorem Executor.SameAttempt.refl (x : Executor) : x.SameAttempt x :=
  ⟨rfl, rfl, rfl, rfl, rfl, rfl, rfl⟩

inductive AttemptStep (env : Env) (fw fw' : Firmware) : Prop
  | kept (hsame : fw.executor.SameAttempt fw'.executor)
      (hboot : fw'.machine.processorBootId = fw.machine.processorBootId)
      (hline : LineFrame fw.machine.board fw'.machine.board)
  | started (hstart : fw'.executor.AttemptStart env fw'.machine.board)
      (hboot : fw'.machine.processorBootId ≠ fw.machine.processorBootId)
  | inactive (hactive : fw'.executor.active = false)

section

variable {env : Env} {fw fw' : Firmware}

/-- A start of an inactive executor begins an attempt or leaves the executor inactive. -/
theorem startWorkload_attempt (calculator : Bool) (hactive : fw.executor.active = false) :
    AttemptStep env fw (startWorkload env calculator fw).2 := by
  have heffect := startWorkload_effect env calculator fw hactive
  have hbegins := heffect.begins hactive
  generalize startWorkload env calculator fw = r at heffect hbegins ⊢
  obtain ⟨status, fw'⟩ := r
  cases heffect with
  | calculator | calculatorFailed => exact .inactive hactive
  | general x backing m hspec =>
    have hstarted := (hspec.success rfl).1
    exact .started hstarted.attempt (hbegins hstarted.active)
  | generalFailed x backing m hspec => exact .inactive ((hspec.failure rfl).1.trans hactive)

/-- **What a record does to the attempt.** -/
theorem RecordStep.attempt {request : Message} {event : HostEvent} (hagrees : Agrees fw)
    (hstep : RecordStep env fw request event fw') : AttemptStep env fw fw' := by
  cases hstep.effect hagrees with
  | unchanged | received | rejected | memory => exact .kept (.refl _) rfl (.refl _)
  | begun => exact .kept ⟨rfl, rfl, rfl, rfl, rfl, rfl, rfl⟩ rfl (.refl _)
  | staged hactive => exact .inactive hactive
  | started operation fw₁ hfrom =>
    have hstart := @startWorkload_attempt env fw₁ (calculatorWorkloadValid fw.manager fw.backing)
      hfrom.active
    cases hstart with
    | kept hsame _ _ => exact .inactive (hsame.active.trans hfrom.active)
    | started hstart hne => exact .started hstart (by rw [← hfrom.processorBootId]; exact hne)
    | inactive hafter => exact .inactive hafter
  | halted => exact .inactive rfl
  | stopped m hactive => exact .inactive hactive
  | timeout value m hframe =>
    exact .kept ⟨rfl, rfl, rfl, rfl, rfl, rfl, rfl⟩ hframe.processorBootId hframe.line
  | quiet m halted hframe => exact .kept (.refl _) hframe.processorBootId hframe.line

/-- The lifecycle states that only a service step enters. -/
def WorkloadState.FromService (state : WorkloadState) : Prop :=
  state = .completed ∨ state = .timedOut

theorem StartEffect.not_fromService {calculator : Bool} {status : HostStatus}
    (heffect : StartEffect env fw calculator status fw') (hst : fw.manager.state = .running) :
    ¬ fw'.manager.state.FromService := by
  rcases heffect.manager.1 with h | h
  · rw [h, hst]
    exact fun hc => hc.elim WorkloadState.noConfusion WorkloadState.noConfusion
  · rw [h]
    exact fun hc => hc.elim WorkloadState.noConfusion WorkloadState.noConfusion

/-- A record neither completes a workload nor times it out. -/
theorem RecordStep.not_fromService {request : Message} {event : HostEvent} (hagrees : Agrees fw)
    (hstep : RecordStep env fw request event fw') (hst : fw'.manager.state.FromService) :
    fw'.manager.state = fw.manager.state := by
  cases hstep.effect hagrees with
  | begun | rejected | staged | halted | stopped => rcases hst with hst | hst <;> cases hst
  | received manager backing hreceiving hst' => exact hst'
  | started operation fw₁ hfrom =>
    exact absurd hst ((hfrom.effect _).not_fromService (by rw [hfrom.manager]))
  | unchanged | memory | timeout | quiet => rfl

end

/-! ### The bus cycles of an attempt -/

def firmwareCycles (env : Env) (fw : Firmware) : FirmwareAction → List CycleRecord
  | .service => if fw.halted then [] else (serviceRecord env fw).toList
  | _ => []

/-- Each start of the processor has its own boot id. -/
def startsAttempt (env : Env) (fw : Firmware) (action : FirmwareAction) : Bool :=
  (firmwareStep env fw action).machine.processorBootId ≠ fw.machine.processorBootId

/-- The bus cycles of the current attempt, oldest first. -/
def attemptCycles (env : Env) (machine : Machine) (actions : List FirmwareAction) :
    List CycleRecord :=
  history (firmwareStep env) (startsAttempt env) (firmwareCycles env) (firmwareInit machine) actions

/-- A bus cycle of an attempt that goes on after it. -/
structure AttemptCycle (env : Env) (fw : Firmware) (completed : Bool) (fw₁ : Firmware)
    (outcome : ServiceOutcome) (fw' : Firmware) : Prop where
  supervised : fw.executor.Supervised
  bus : executorBusCycle env (fw.deadlineChecked env) = (completed, fw₁)
  went : CycleOutcome fw₁.executor completed outcome
  eq : fw' = serviceOutcome env outcome fw₁
  step : OutcomeStep fw₁ outcome fw'
  active : fw'.executor.active = true

/-- What is left of an attempt that goes on after its bus cycle. -/
structure OutcomeKept (fw₁ fw' : Firmware) : Prop where
  tick : fw'.executor.io.tick = fw₁.executor.io.tick
  output : fw'.executor.io.output = fw₁.executor.io.output
  executionStartedUs : fw'.executor.executionStartedUs = fw₁.executor.executionStartedUs
  frame : BusFrame fw₁.machine.board fw'.machine.board

theorem AttemptCycle.kept {env : Env} {fw fw₁ fw' : Firmware} {completed : Bool}
    {outcome : ServiceOutcome} (h : AttemptCycle env fw completed fw₁ outcome fw') :
    OutcomeKept fw₁ fw' := by
  have hactive := h.active
  cases h.step with
  | goesOn us b hframe houtcome => exact ⟨rfl, rfl, rfl, hframe⟩
  | completes => exact ⟨rfl, rfl, rfl, .refl _⟩
  | ends => cases hactive

/-! ### Attempts over runs -/

/-- **What holds of every active attempt and its bus cycles**: what a start establishes, and the
records and the bus cycles of an attempt keep. -/
theorem firmwareRun_attempt {env : Env} {machine : Machine}
    {Inv : Firmware → List CycleRecord → Prop}
    (hstart : ∀ fw, fw.executor.AttemptStart env fw.machine.board → Inv fw [])
    (hkept : ∀ fw fw' cycles, fw.executor.SameAttempt fw'.executor →
      LineFrame fw.machine.board fw'.machine.board → Inv fw cycles → Inv fw' cycles)
    (hcycle : ∀ fw cycles completed fw₁ outcome fw',
      AttemptCycle env fw completed fw₁ outcome fw' → Inv fw cycles → Inv fw' (cycles ++
        [⟨outcome, fw₁.executor.busStats, env.timeUs fw₁.machine.board.reads⟩]))
    (actions : List FirmwareAction)
    (hactive : (firmwareRun env machine actions).executor.active = true) :
    Inv (firmwareRun env machine actions) (attemptCycles env machine actions) := by
  -- the history of the run is cleared by a start and grows by the cycles of service steps
  have h := @history_invariant _ _ _ (firmwareStep env) (startsAttempt env) (firmwareCycles env)
    (fun fw cycles => fw.executor.active = true → Inv fw cycles) (firmwareInit machine)
    (fun h => by cases h) (fun actions action cycles hinv hafter => ?_) actions
  · exact h hactive
  have hagrees := firmwareRun_agrees env machine actions
  change (firmwareRun env machine actions).executor.active = true →
    Inv (firmwareRun env machine actions) cycles at hinv
  change (firmwareStep env (firmwareRun env machine actions) action).executor.active = true
    at hafter
  change Inv (firmwareStep env (firmwareRun env machine actions) action)
    ((if startsAttempt env (firmwareRun env machine actions) action then [] else cycles) ++
      firmwareCycles env (firmwareRun env machine actions) action)
  generalize firmwareRun env machine actions = fw at *
  cases hmessage : action.message with
  -- a record makes no bus cycle
  | some request =>
    have hnone : firmwareCycles env fw action = [] := by
      cases action <;> first | rfl | cases hmessage
    rw [hnone, List.append_nil]
    cases (firmwareStep_record env fw hmessage).attempt hagrees with
    | kept hsame hboot hline =>
      rw [startsAttempt, hboot]
      simpa using hkept fw _ cycles hsame hline (hinv (hsame.active ▸ hafter))
    | started hbegin hboot =>
      rw [startsAttempt]
      simpa [hboot] using hstart _ hbegin
    | inactive hoff =>
      rw [hoff] at hafter
      cases hafter
  | none =>
    obtain rfl : action = .service := by cases action <;> first | rfl | cases hmessage
    by_cases hhalted : fw.halted = true
    · have hstep : firmwareStep env fw .service = fw := by simp [firmwareStep, hhalted]
      rw [hstep] at hafter ⊢
      simpa [startsAttempt, hstep, firmwareCycles, hhalted] using hinv hafter
    -- a service step starts nothing, so that its cycle goes to the attempt under way
    · have hstep : firmwareStep env fw .service = workloadExecutorService env fw := by
        simp [firmwareStep, hhalted, firmwareAct]
      have hsame : startsAttempt env fw .service = false := by
        simp [startsAttempt, hstep, (workloadExecutorService_frame env fw).processorBootId]
      rw [hstep] at hafter ⊢
      simp only [hsame, Bool.false_eq_true, ↓reduceIte, firmwareCycles, hhalted]
      have hservice := workloadExecutorService_cycle env fw
      generalize workloadExecutorService env fw = fw' at hservice hafter ⊢
      cases hservice with
      | skipped hx hcycle h =>
        rw [h] at hafter ⊢
        simpa [serviceRecord, hcycle] using hinv hafter
      | expired hx hexpired hcycle m h hstep =>
        rw [h] at hafter
        cases hafter
      | cycle completed fw₁ hx hdeadline hbus hcycle' h hstep =>
        rw [serviceRecord_of_cycle hcycle']
        exact hcycle fw cycles completed fw₁ _ fw' ⟨hx, hbus, executorBusCycle_outcome hbus, h,
          hstep, hafter⟩ (hinv hx.active)

end Rp86
