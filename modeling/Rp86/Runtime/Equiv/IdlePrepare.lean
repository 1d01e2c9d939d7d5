import Rp86.Runtime.Equiv.Attempt

/-!
# The armed halt

A workload announces its halt by writing `IDLE_PREPARE` to the control port.  The halt is armed only
by such a write of the current attempt, so that only then can the workload complete; the same write
silences the tick for the rest of the attempt (`ArmInv`).  With the tick silent `INTR` is low
(`QuietInv`), and an acknowledge cycle finds no handler that would answer it.
-/

namespace Rp86

open Lib

/-- The cycle completed a write of `IDLE_PREPARE` to the control port. -/
def CycleRecord.isIdlePrepare (r : CycleRecord) : Bool :=
  r.outcome = .completed && r.stats.isIdlePrepare

def CycleRecord.isInterruptAck (r : CycleRecord) : Bool := r.stats.interruptAck

/-! ### A quiet interrupt line -/

/-- `INTR` is low, and was last requested low. -/
structure Board.Quiet (b : Board) : Prop where
  intr : b.intr = false
  intrRequest : b.intrRequest = false

theorem Board.Quiet.line {b b' : Board} (h : b.Quiet) (hline : LineFrame b b') : b'.Quiet :=
  ⟨hline.intr h.intr, hline.request.intrRequest.trans h.intrRequest⟩

/-- `INTR` is low while the tick is silent. -/
def QuietInv (t : TickState) (b : Board) : Prop := t.enabled = false → b.Quiet

theorem updatePeriodicTick_disabled {env : Env} {idleArmed : Bool} {cycles : UInt32}
    {t : TickState} {b : Board} (h : t.enabled = false) :
    updatePeriodicTick env idleArmed cycles t b = (t, b) := by
  simp [updatePeriodicTick, h]

theorem tickUpdate_disabled {env : Env} {fw : Firmware}
    (h : fw.executor.io.tick.enabled = false) :
    (fw.deadlineChecked env).tickUpdate env
      = (fw.executor.io.tick, (fw.deadlineChecked env).machine.board) :=
  updatePeriodicTick_disabled h

theorem QuietInv.update {env : Env} {t : TickState} {b : Board} (h : QuietInv t b)
    (idleArmed : Bool) (cycles : UInt32) :
    QuietInv (updatePeriodicTick env idleArmed cycles t b).1
      (updatePeriodicTick env idleArmed cycles t b).2 := by
  intro hoff
  rw [(updatePeriodicTick_sameFence env idleArmed cycles t b).enabled] at hoff
  rw [updatePeriodicTick_disabled hoff]
  exact h hoff

theorem TickCycle.quiet {env : Env} {cycles : UInt32} {t t' : TickState} {b b' : Board}
    {eoi : Bool} (hcycle : TickCycle env cycles t b eoi t' b') (h : QuietInv t b) :
    QuietInv t' b' := by
  cases hcycle with
  | same b' hframe => exact fun hoff => (h hoff).line hframe.line
  | ack b₁ b' hframe hframe' =>
    intro hoff
    cases hon : t.enabled with
    | true =>
      unfold tickInterruptAck at hoff
      split_ifs at hoff <;> exact absurd (hon.symm.trans hoff) (by decide)
    | false =>
      simp only [tickInterruptAck, hon, Bool.not_false, ↓reduceIte] at hframe'
      exact (h hon).line (hframe.trans hframe').line
  | eoi b₁ hframe =>
    intro hoff
    cases hon : t.enabled with
    | true =>
      unfold tickEoi retractTick closeService at hoff
      simp only at hoff
      split_ifs at hoff <;> exact absurd (hon.symm.trans hoff) (by decide)
    | false =>
      simp only [tickEoi, hon, Bool.false_eq_true, ↓reduceIte]
      exact (h hon).line hframe.line
  -- `IDLE_PREPARE` itself takes `INTR` down
  | idlePrepare b₁ hframe =>
    intro hoff
    cases hon : t.enabled with
    | true =>
      simp only [tickIdlePrepare, hon, ↓reduceIte]
      exact ⟨rfl, rfl⟩
    | false =>
      simp only [tickIdlePrepare, hon, Bool.false_eq_true, ↓reduceIte]
      exact (h hon).line hframe.line

/-! ### Armed attempts -/

/-- What holds of the arming of an attempt with its bus cycles. -/
structure ArmInv (fw : Firmware) (cycles : List CycleRecord) : Prop where
  written : fw.executor.io.idleArmed = true → ∃ r ∈ cycles, r.isIdlePrepare = true
  silenced : (∃ r ∈ cycles, r.isIdlePrepare = true) → fw.executor.io.tick.enabled = false
  quiet : QuietInv fw.executor.io.tick fw.machine.board

section

variable {env : Env} {fw fw' : Firmware} {cycles : List CycleRecord}

theorem ArmInv.of_start (hstart : fw.executor.AttemptStart env fw.machine.board) :
    ArmInv fw [] where
  written := fun harmed => absurd (hstart.idleArmed.symm.trans harmed) (by decide)
  silenced := fun ⟨_, hr, _⟩ => absurd hr List.not_mem_nil
  quiet := fun _ => ⟨hstart.intr, hstart.intrRequest⟩

theorem ArmInv.of_same (hsame : fw.executor.SameAttempt fw'.executor)
    (hline : LineFrame fw.machine.board fw'.machine.board) (h : ArmInv fw cycles) :
    ArmInv fw' cycles where
  written := by
    rw [hsame.io]
    exact h.written
  silenced := by
    rw [hsame.io]
    exact h.silenced
  quiet := by
    rw [hsame.io]
    exact fun hoff => (h.quiet hoff).line hline

/-- What is done after the cycle does not arm the halt. -/
theorem OutcomeStep.idleArmed {outcome : ServiceOutcome} {fw₁ : Firmware}
    (hstep : OutcomeStep fw₁ outcome fw') (h : fw'.executor.io.idleArmed = true) :
    fw₁.executor.io.idleArmed = true := by
  cases hstep with
  | goesOn => exact h
  | completes | ends => cases h

/-- The board and the tick behind the update of a service step. -/
theorem ArmInv.quiet_update (h : ArmInv fw cycles) :
    QuietInv ((fw.deadlineChecked env).tickUpdate env).1
      ((fw.deadlineChecked env).tickUpdate env).2 := by
  have hchecked : QuietInv (fw.deadlineChecked env).executor.io.tick
      (fw.deadlineChecked env).machine.board := fun hoff =>
    (h.quiet hoff).line (executionDeadlineReached_frame env fw.executor fw.machine.board).line
  exact hchecked.update _ _

theorem ArmInv.cycle {fw₁ : Firmware} {completed : Bool} {outcome : ServiceOutcome}
    (hcycle : AttemptCycle env fw completed fw₁ outcome fw') (h : ArmInv fw cycles)
    (nowUs : UInt64) : ArmInv fw' (cycles ++ [⟨outcome, fw₁.executor.busStats, nowUs⟩]) := by
  have hio := (executorBusCycle_effect hcycle.bus).io
  have htick := (executorBusCycle_tick hcycle.bus).1
  have hkept := hcycle.kept
  have hprepare : (⟨outcome, fw₁.executor.busStats, nowUs⟩ : CycleRecord).isIdlePrepare
      = (completed && fw₁.executor.busStats.isIdlePrepare) := by
    rw [CycleRecord.isIdlePrepare, hcycle.went.decide_completed]
  refine ⟨fun harmed => ?_, ?_, ?_⟩
  · have harmed₁ := hio.idleArmed.symm.trans (hcycle.step.idleArmed harmed)
    rw [Bool.or_eq_true] at harmed₁
    rcases harmed₁ with hbefore | hnow
    · obtain ⟨r, hr, hidle⟩ := h.written hbefore
      exact ⟨r, List.mem_append_left _ hr, hidle⟩
    · exact ⟨_, List.mem_append_right _ List.mem_cons_self, hprepare.trans hnow⟩
  · rintro ⟨r, hr, hidle⟩
    rw [hkept.tick]
    rcases List.mem_append.mp hr with hr | hr
    · -- a bus cycle never enables the tick again
      have hoff := h.silenced ⟨r, hr, hidle⟩
      by_contra hon
      have henabled := htick.enabled (Bool.not_eq_false _ ▸ hon)
      rw [Firmware.tickUpdate, (updatePeriodicTick_sameFence env _ _ _ _).enabled] at henabled
      exact absurd (hoff.symm.trans henabled) (by decide)
    · obtain rfl := List.mem_singleton.mp hr
      exact hio.silenced (hprepare.symm.trans hidle)
  · rw [hkept.tick]
    exact fun hoff => (htick.quiet h.quiet_update hoff).line hkept.frame.line

theorem firmwareRun_armInv (machine : Machine) (actions : List FirmwareAction)
    (hactive : (firmwareRun env machine actions).executor.active = true) :
    ArmInv (firmwareRun env machine actions) (attemptCycles env machine actions) :=
  firmwareRun_attempt (fun _ hstart => .of_start hstart)
    (fun _ _ _ hsame hline h => h.of_same hsame hline)
    (fun _ _ _ _ _ _ hcycle h => h.cycle hcycle _) actions hactive

/-! ### What follows -/

/-- A service step that completes the workload sees an armed halt. -/
theorem idleArmed_of_completed (hbefore : fw.manager.state ≠ .completed)
    (hafter : (workloadExecutorService env fw).manager.state = .completed) :
    fw.executor.Supervised ∧ fw.executor.io.idleArmed = true ∧
      (workloadExecutorService env fw).executor.completionReason = .nativeHlt := by
  have hservice := workloadExecutorService_cycle env fw
  generalize workloadExecutorService env fw = fw' at hservice hafter ⊢
  cases hservice with
  | skipped hx hcycle h =>
    rw [h] at hafter
    exact absurd hafter hbefore
  | expired hx hexpired hcycle m h hstep =>
    rw [h] at hafter
    cases hafter
  | cycle completed fw₁ hx hdeadline hbus hcycle h hstep =>
    have hout := executorBusCycle_outcome hbus
    generalize fw₁.cycleOutcome completed = outcome at hout hstep
    cases hstep with
    | goesOn =>
      rw [show fw₁.manager = fw.manager from (executorBusCycle_kept hbus).manager] at hafter
      exact absurd hafter hbefore
    | completes manager houtcome hcomplete =>
      subst houtcome
      cases hout with
      | armedHalt harmed hpad hclock hack =>
        -- a cycle that fails arms nothing, so the halt was armed before
        have hio := (executorBusCycle_effect hbus).io.idleArmed.symm.trans harmed
        rw [Bool.false_and, Bool.or_false] at hio
        exact ⟨hx, hio, rfl⟩
    | ends reason state m hend hstops =>
      rcases hend.state_cases with rfl | rfl <;> cases hafter

/-- An acknowledge cycle of an attempt whose tick is silent is refused and ends the attempt. -/
theorem interruptAck_refused {r : CycleRecord} (hoff : fw.executor.io.tick.enabled = false)
    (hr : serviceRecord env fw = some r) (hack : r.isInterruptAck = true) :
    r.outcome = .fault ∧ (workloadExecutorService env fw).manager.state = .faulted ∧
      (workloadExecutorService env fw).executor.completionReason = .busFault ∧
      (workloadExecutorService env fw).executor.active = false := by
  have hservice := workloadExecutorService_cycle env fw
  generalize workloadExecutorService env fw = fw' at hservice ⊢
  cases hservice with
  | skipped hx hcycle h | expired hx hexpired hcycle =>
    rw [serviceRecord, hcycle] at hr
    cases hr
  | cycle completed fw₁ hx hdeadline hbus hcycle h hstep =>
    have hflags := executorBusCycle_flags hbus
    have hout := executorBusCycle_outcome hbus
    obtain rfl := Option.some.inj ((serviceRecord_of_cycle hcycle).symm.trans hr)
    have hasked : fw₁.executor.busStats.interruptAck = true := hack
    simp only
    generalize fw₁.cycleOutcome completed = outcome at hout hstep ⊢
    cases hout with
    | completed =>
      -- the handler would have to answer with a silent tick
      obtain ⟨b, hanswer⟩ := hflags.answered rfl hasked
      refine absurd ?_ hanswer
      have hsilent : ((fw.deadlineChecked env).tickUpdate env).1.enabled = false := by
        rw [tickUpdate_disabled hoff]
        exact hoff
      simp [executorIo, interruptAck, tickInterruptAck, hsilent]
    | armedHalt harmed hpad hclock hno => exact absurd (hasked.symm.trans hno) (by decide)
    | noCycle hfault =>
      simp only [ClockSteppedStats.immediateFault, Bool.or_eq_false_iff] at hfault
      exact absurd (hasked.symm.trans hfault.2) (by decide)
    | fault =>
      cases hstep with
      | goesOn us b hframe houtcome => exact absurd (by decide) houtcome
      | completes manager houtcome => cases houtcome
      | ends reason state m hend hstops =>
        cases hend with
        | fault => exact ⟨rfl, rfl, rfl, rfl⟩

end

/-- **Completion needs arming, and arming silences the interrupt.**  A workload goes to `COMPLETED`
only with reason `NATIVE_HLT` and in an attempt with a completed write of `IDLE_PREPARE`.  From that
write on, as long as the attempt is active, `INTR` is low before and behind every update of the
tick, the handler answers no acknowledge, and an acknowledge cycle ends the attempt as `BUS_FAULT`.
`run_live_round`, the only other driver of `INTR`, never runs beside an active executor. -/
theorem completion_needs_arming (env : Env) (machine : Machine) (actions : List FirmwareAction)
    (action : FirmwareAction) {fw : Firmware} (hrun : fw = firmwareRun env machine actions) :
    (fw.manager.state ≠ .completed → (firmwareStep env fw action).manager.state = .completed →
      (firmwareStep env fw action).executor.completionReason = .nativeHlt ∧
        fw.executor.active = true ∧
        ∃ r ∈ attemptCycles env machine actions, r.isIdlePrepare = true) ∧
    (fw.executor.active = true →
      (∃ r ∈ attemptCycles env machine actions, r.isIdlePrepare = true) →
      fw.machine.board.Quiet ∧ ((fw.deadlineChecked env).tickUpdate env).2.Quiet ∧
        (∀ b, (interruptAck fw.executor.io b).1 = none) ∧
        ∀ r, serviceRecord env fw = some r → r.isInterruptAck = true →
          r.outcome = .fault ∧ (workloadExecutorService env fw).manager.state = .faulted ∧
          (workloadExecutorService env fw).executor.completionReason = .busFault ∧
          (workloadExecutorService env fw).executor.active = false) := by
  have hagrees : Agrees fw := hrun ▸ firmwareRun_agrees env machine actions
  have harm : fw.executor.active = true → ArmInv fw (attemptCycles env machine actions) := by
    rw [hrun]
    exact firmwareRun_armInv machine actions
  constructor
  · intro hbefore hafter
    cases hmessage : action.message with
    -- no record completes a workload
    | some request =>
      have hsame := (firmwareStep_record env fw hmessage).not_fromService hagrees (Or.inl hafter)
      exact absurd (hsame.symm.trans hafter) hbefore
    | none =>
      obtain rfl : action = .service := by cases action <;> first | rfl | cases hmessage
      unfold firmwareStep at hafter ⊢
      split at hafter
      · exact absurd hafter hbefore
      · obtain ⟨hx, harmed, hreason⟩ := idleArmed_of_completed hbefore hafter
        next hhalted =>
        rw [if_neg hhalted]
        exact ⟨hreason, hx.active, (harm hx.active).written harmed⟩
  -- the write has silenced the tick, and nothing enables it before the next start
  · intro hactive hwritten
    have hinv := harm hactive
    have hoff := hinv.silenced hwritten
    refine ⟨hinv.quiet hoff, ?_, fun b => ?_, fun r hr hack => interruptAck_refused hoff hr hack⟩
    · refine hinv.quiet_update ?_
      rw [tickUpdate_disabled hoff]
      exact hoff
    · simp [interruptAck, tickInterruptAck, hoff]

/-- The board of a workload that announces its halt and then acknowledges an interrupt. -/
def ackAfterPrepareEnv : Env :=
  scriptedEnv 102 (ioWriteSamples ioPortControl controlIdlePrepare ++ ackSamples)

theorem completion_needs_arming_runs :
    (∃ r ∈ attemptCycles haltEnv coldMachine (haltStart ++ [.service]), r.isIdlePrepare = true) ∧
      (workloadExecutorService ackAfterPrepareEnv (firmwareRun ackAfterPrepareEnv coldMachine
        (haltStart ++ [.service]))).executor.completionReason = .busFault := by
  constructor
  · have h := (completion_needs_arming haltEnv coldMachine (haltStart ++ [.service]) .service rfl).1
    have hbefore : (firmwareRun haltEnv coldMachine (haltStart ++ [.service])).manager.state
        ≠ .completed := by decide +kernel
    have hafter : (firmwareStep haltEnv (firmwareRun haltEnv coldMachine
        (haltStart ++ [.service])) .service).manager.state = .completed := by decide +kernel
    exact (h hbefore hafter).2.2
  · have h := (completion_needs_arming ackAfterPrepareEnv coldMachine (haltStart ++ [.service])
      .service rfl).2
    have hactive : (firmwareRun ackAfterPrepareEnv coldMachine
        (haltStart ++ [.service])).executor.active = true := by decide +kernel
    have hwritten : ∃ r ∈ attemptCycles ackAfterPrepareEnv coldMachine (haltStart ++ [.service]),
        r.isIdlePrepare = true := by decide +kernel
    have hack : (serviceRecord ackAfterPrepareEnv (firmwareRun ackAfterPrepareEnv coldMachine
        (haltStart ++ [.service]))).any CycleRecord.isInterruptAck = true := by decide +kernel
    obtain ⟨r, hr, hack⟩ := (Option.any_eq_true _ _).mp hack
    exact ((h hactive hwritten).2.2.2 r hr hack).2.2.1

end Rp86
