import Rp86.Runtime.Equiv.Refusal
import Rp86.Runtime.Equiv.Snapshot

/-!
# The result of a completed workload

After the native halt nothing supervises the executor, so the result that the snapshots report
changes only if the Host ends the attempt.  A STOP then flushes the diagnostic line, which replaces
the result if the workload halted in the middle of a line (`completed_result_final`).
-/

namespace Rp86

open Lib

/-! ### The prepared runtime -/

section

variable {env : Env} {fw fw' : Firmware}

theorem stopIfActive_prepared : (stopIfActive env fw).machine.prepared = fw.machine.prepared := by
  unfold stopIfActive
  split_ifs
  · exact workloadExecutorStop_prepared env _ _
  · rfl

theorem handleStop_prepared (workloadId : UInt32) :
    (handleStop env workloadId fw).2.machine.prepared = fw.machine.prepared := by
  unfold handleStop
  cases workloadStop fw.manager workloadId with
  | none => rfl
  | some manager =>
    simp only
    split_ifs
    · exact stopIfActive_prepared
    · rfl
    · rfl

theorem startWorkload_available {calculator : Bool} (hactive : fw.executor.active = false)
    (hstarted : (startWorkload env calculator fw).2.executor.active = true) :
    (startWorkload env calculator fw).2.machine.prepared.available = false := by
  have heffect := startWorkload_effect env calculator fw hactive
  generalize startWorkload env calculator fw = r at heffect hstarted ⊢
  obtain ⟨status, fw'⟩ := r
  cases heffect with
  | calculator | calculatorFailed => exact absurd (hactive.symm.trans hstarted) (by decide)
  | general x backing m hspec => exact (hspec.success rfl).1.unprepared
  | generalFailed x backing m hspec =>
    exact absurd (hactive.symm.trans ((hspec.failure rfl).1.symm.trans hstarted)) (by decide)

/-- The prepared runtime is retired while the executor is active. -/
def Unprepared (fw : Firmware) : Prop :=
  fw.executor.active = true → fw.machine.prepared.available = false

theorem RecordStep.unprepared {request : Message} {event : HostEvent} (hagrees : Agrees fw)
    (h : Unprepared fw) (hstep : RecordStep env fw request event fw') : Unprepared fw' := by
  cases hstep.effect hagrees with
  | unchanged | begun | received | rejected | staged | memory => exact h
  | started operation fw₁ hfrom => exact startWorkload_available hfrom.active
  | halted => exact fun hactive => Bool.noConfusion hactive
  | stopped m hactive hframe | timeout value m hframe | quiet m halted hframe =>
    exact fun hactive => hframe.available.trans (h hactive)

theorem workloadExecutorService_unprepared (h : Unprepared fw) :
    Unprepared (workloadExecutorService env fw) := by
  intro hactive
  rw [(workloadExecutorService_frame env fw).prepared]
  refine h ?_
  have heffect := workloadExecutorService_effect env fw
  generalize workloadExecutorService env fw = fw' at hactive heffect
  cases heffect with
  | skipped hfw hx => exact hfw ▸ hactive
  | continued hx hm hsame | completed hx hm hidle
  | ended hx state hstate hm hhalted hparked hreason => exact hx.active

end

theorem firmwareRun_unprepared (env : Env) (machine : Machine) (actions : List FirmwareAction) :
    Unprepared (firmwareRun env machine actions) := by
  refine (@firmwareRun_invariant env (fun fw => Agrees fw ∧ Unprepared fw) machine
    ⟨?_, fun h => Bool.noConfusion h⟩ ?_ actions).2
  · exact firmwareRun_agrees env machine []
  · rintro fw event fw' ⟨hagrees, h⟩ hstep
    refine ⟨hstep.agrees hagrees, ?_⟩
    cases hstep with
    | record hstep => exact hstep.unprepared hagrees h
    | service => exact workloadExecutorService_unprepared h

/-- A processor that is idle has been halted by its workload. -/
theorem firmwareRun_idle_reason (env : Env) (machine : Machine) (actions : List FirmwareAction) :
    (firmwareRun env machine actions).executor.active = true →
      (firmwareRun env machine actions).executor.processorIdle = true →
        (firmwareRun env machine actions).executor.completionReason = .nativeHlt := by
  refine @firmwareRun_report env (fun fw => fw.executor.active = true →
    fw.executor.processorIdle = true → fw.executor.completionReason = .nativeHlt) machine
    (fun h => Bool.noConfusion h) ?_ ?_ actions
  · intro fw request event fw' hagrees h hstep hactive hidle
    cases hstep with
    | same hsame hreads =>
      rw [hsame.completionReason]
      exact h (hsame.active ▸ hactive) (hsame.processorIdle ▸ hidle)
    | cleared hinactive heq =>
      rw [heq] at hactive
      exact absurd (hinactive.symm.trans hactive) (by decide)
    | staged flags hinactive heq | halted _ heq hcause =>
      rw [heq] at hidle
      cases hidle
    | started hfresh => exact absurd (hfresh.processorIdle.symm.trans hidle) (by decide)
    | startFailed hfailed => exact absurd (hfailed.active.symm.trans hactive) (by decide)
  · intro fw hagrees h hservice hactive hidle
    generalize (workloadExecutorService env fw).executor = x' at hservice hactive hidle
    cases hservice with
    | skipped hx heq =>
      subst heq
      exact h hactive hidle
    | deadline hx hexpired heq =>
      rw [heq] at hidle
      cases hidle
    | continued hx completed x₁ hcycle hflags hsame =>
      rw [hsame.processorIdle, hcycle.processorIdle, hx.notIdle] at hidle
      cases hidle
    | completed hx completed x₁ hcycle hpad hclock hack heq =>
      rw [heq]
      rfl
    | faulted hx completed x₁ hcycle hsame | starved hx completed x₁ hcycle hflags hsame =>
      rw [hsame.processorIdle] at hidle
      cases hidle

/-! ### Records after the completion -/

/-- The result that a snapshot reports: its flags, completion reason and native output. -/
def Firmware.result (fw : Firmware) : UInt32 × CompletionReason × List UInt8 :=
  (fw.resultFlags, fw.executor.completionReason, fw.executor.io.output.nativeOutput)

/-- The attempt has ended or is idle, and has a result. -/
structure Firmware.Settled (fw : Firmware) : Prop where
  idle : fw.executor.active = true → fw.executor.processorIdle = true
  completionReason : fw.executor.completionReason ≠ .none
  unprepared : fw.machine.prepared.available = false

/-- The executor keeps its result, and no attempt begins. -/
structure Executor.KeepsResult (x x' : Executor) : Prop where
  resultFlags : x'.io.output.resultFlags = x.io.output.resultFlags
  nativeOutput : x'.io.output.nativeOutput = x.io.output.nativeOutput
  completionReason : x'.completionReason = x.completionReason
  idle : x'.active = true → x.active = true ∧ x'.processorIdle = x.processorIdle

theorem Executor.KeepsResult.refl (x : Executor) : x.KeepsResult x :=
  ⟨rfl, rfl, rfl, fun h => ⟨h, rfl⟩⟩

/-- Stopping an attempt that has a result and no pending line keeps the result. -/
theorem Executor.keepsResult_halt {x : Executor} (hreason : x.completionReason ≠ .none)
    (hline : x.io.output.diagnosticLine = []) : x.KeepsResult x.halt := by
  have hflush : flushDiagnosticLine x.io.output = x.io.output := by
    unfold flushDiagnosticLine
    rw [if_pos (by rw [hline]; rfl)]
  refine ⟨?_, ?_, if_neg hreason, fun h => Bool.noConfusion h⟩
  · exact congrArg NativeOutput.resultFlags hflush
  · exact congrArg NativeOutput.nativeOutput hflush

/-- The period in which a result is final: the main loop makes the action, and it is no RUN or
RESTART that the lifecycle allows and no successful COMMIT. -/
structure FirmwareAction.Between (env : Env) (fw : Firmware) (action : FirmwareAction) : Prop where
  enabled : action.Enabled fw
  noStart : ∀ request, action.message = some request → ¬ request.LegalStart fw.manager
  noCommit : firmwareEvent env fw action ≠ .committed

/-- The action does not stop an attempt that has written a part of a line. -/
def FirmwareAction.NoPartialLine (env : Env) (fw : Firmware) (action : FirmwareAction) : Prop :=
  firmwareEvent env fw action = .control workloadControlStop → fw.executor.active = true →
    fw.executor.io.output.diagnosticLine = []

section

variable {env : Env} {fw fw' : Firmware}

theorem RecordStep.keepsResult {request : Message} {event : HostEvent}
    (hstep : RecordStep env fw request event fw') (hagrees : Agrees fw)
    (hreason : fw.executor.completionReason ≠ .none) (hstart : ¬ request.LegalStart fw.manager)
    (hcommit : event ≠ .committed)
    (hline : event = .control workloadControlStop → fw.executor.active = true →
      fw.executor.io.output.diagnosticLine = []) :
    fw.executor.KeepsResult fw'.executor := by
  cases hstep.effect hagrees with
  | unchanged | received | rejected | stopped | memory | quiet => exact .refl _
  | begun => exact ⟨rfl, rfl, rfl, fun h => ⟨h, rfl⟩⟩
  | staged => exact absurd rfl hcommit
  | started operation fw₁ hfrom => exact absurd hfrom.legal hstart
  | halted m hactive => exact Executor.keepsResult_halt hreason (hline rfl hactive)
  | timeout => exact ⟨rfl, rfl, rfl, fun h => ⟨h, rfl⟩⟩

/-- A workload record that starts nothing leaves the prepared runtime alone. -/
theorem handleWorkloadRecord_prepared {request : Message}
    (hstart : ¬ request.LegalStart fw.manager) :
    (handleWorkloadRecord env request fw).2.machine.prepared = fw.machine.prepared := by
  have hcontrol : request.type = typeWorkloadControl →
      (handleControl env request fw).2.machine.prepared = fw.machine.prepared := by
    intro htype
    unfold handleControl
    simp only
    split_ifs with hstatus hguard hrun hstop hrestart
    · rfl
    · rfl
    · rcases handleRun_cases env (request.word 4) fw with heq | ⟨h, -, heq⟩
      · rw [heq]
      · exact absurd (Or.inl ⟨⟨htype, hrun⟩, h⟩) hstart
    · exact handleStop_prepared _
    · rcases handleRestart_cases env (request.word 4) fw with heq | ⟨h, heq⟩
      · rw [heq]
      · exact absurd (Or.inr ⟨⟨htype, hrestart⟩, h⟩) hstart
    · rfl
  simp only [handleWorkloadRecord]
  unfold workloadRecord
  split_ifs with hlength hstatus hbegin hdata hcommit hcontrol'
  · rfl
  · rfl
  · rcases handleBegin_cases request fw with heq | ⟨manifest, -, -, -, -, -, heq⟩ <;> rw [heq]
  · rcases handleData_cases request fw with heq | ⟨manager, backing, -, heq⟩ <;> rw [heq]
  · rcases handleCommit_cases request fw with ⟨-, heq⟩ | ⟨-, -, heq⟩ | ⟨-, -, heq⟩ <;> rw [heq]
  · exact hcontrol hcontrol'.1
  · rfl

theorem handleTimeoutRequest_prepared (request : Message) :
    (handleTimeoutRequest env request fw).2.machine.prepared = fw.machine.prepared := by
  obtain ⟨x, b, heq, -, -⟩ := handleTimeoutRequest_cases env request fw
  rw [heq]

theorem takeNonControlRecord_prepared {record : Message}
    (hstart : ¬ record.LegalStart fw.manager) :
    (takeNonControlRecord env record fw).2.2.machine.prepared = fw.machine.prepared := by
  unfold takeNonControlRecord
  split_ifs with htimeout hdiag hlength hworkload hcontrol hfile hmemory hworkload'
  · exact handleTimeoutRequest_prepared record
  · rfl
  · exact handleWorkloadRecord_prepared hstart
  · rfl
  · simp only [handleRuntimeControl]
    split_ifs <;> rfl
  · rfl
  · rfl
  · exact handleWorkloadRecord_prepared hstart
  · rfl

/-- An action between two attempts leaves the prepared runtime alone, once it is retired. -/
theorem firmwareStep_prepared {action : FirmwareAction} (h : action.Between env fw)
    (hunprepared : fw.machine.prepared.available = false) :
    (firmwareStep env fw action).machine.prepared = fw.machine.prepared := by
  unfold firmwareStep
  split
  · rfl
  · cases action with
    | record record => exact takeNonControlRecord_prepared (h.noStart _ rfl)
    | workloadRecord request => exact handleWorkloadRecord_prepared (h.noStart _ rfl)
    | timeoutRequest request => exact handleTimeoutRequest_prepared request
    | memoryRecord request => rfl
    | liveRound request =>
      exact absurd (hunprepared.symm.trans h.enabled.1) (by decide)
    | service => exact (workloadExecutorService_frame env fw).prepared

/-- An action between two attempts keeps the result. -/
theorem firmwareStep_keepsResult {action : FirmwareAction} (hagrees : Agrees fw)
    (hsettled : fw.Settled)
    (hbetween : action.Between env fw) (hline : action.NoPartialLine env fw) :
    fw.executor.KeepsResult (firmwareStep env fw action).executor := by
  cases hmessage : action.message with
  | some request =>
    exact (firmwareStep_record env fw hmessage).keepsResult hagrees hsettled.completionReason
      (hbetween.noStart request hmessage) hbetween.noCommit hline
  | none =>
    obtain rfl : action = .service := by cases action <;> first | rfl | cases hmessage
    unfold firmwareStep
    split
    · exact .refl _
    · -- an idle executor is not supervised
      have hskip : workloadExecutorService env fw = fw := by
        have hx : ¬ fw.executor.Supervised := fun hx =>
          absurd ((hsettled.idle hx.active).symm.trans hx.notIdle) (by decide)
        cases workloadExecutorService_cycle env fw with
        | skipped _ _ h => exact h
        | expired hx' | cycle completed fw₁ hx' => exact absurd hx' hx
      rw [firmwareAct, hskip]
      exact .refl _

theorem firmwareStep_settled {action : FirmwareAction} (hagrees : Agrees fw)
    (hsettled : fw.Settled)
    (hbetween : action.Between env fw) (hline : action.NoPartialLine env fw) :
    (firmwareStep env fw action).Settled ∧ (firmwareStep env fw action).result = fw.result := by
  have hkeeps := firmwareStep_keepsResult hagrees hsettled hbetween hline
  have hprepared := firmwareStep_prepared hbetween hsettled.unprepared
  refine ⟨⟨fun hactive => ?_, ?_, ?_⟩, ?_⟩
  · obtain ⟨hwas, hsame⟩ := hkeeps.idle hactive
    exact hsame.trans (hsettled.idle hwas)
  · rw [hkeeps.completionReason]
    exact hsettled.completionReason
  · rw [hprepared]
    exact hsettled.unprepared
  · simp only [Firmware.result, Firmware.resultFlags, hprepared, hkeeps.resultFlags,
      hkeeps.completionReason, hkeeps.nativeOutput]

end

theorem firmwareRun_settled {env : Env} {machine : Machine} {actions : List FirmwareAction}
    (h : (firmwareRun env machine actions).manager.state = .completed) :
    (firmwareRun env machine actions).Settled := by
  have hagrees := firmwareRun_agrees env machine actions
  have hidle := hagrees.idle.mpr h
  have hactive := hagrees.active_of_idle hidle
  refine ⟨fun _ => hidle, ?_, firmwareRun_unprepared env machine actions hactive⟩
  rw [firmwareRun_idle_reason env machine actions hactive hidle]
  decide

/-- **A completed result is final** if no STOP flushes a part of a line: from every completed state
that a run reaches, a run of actions between two attempts leaves the reported result as it is. -/
theorem completed_result_final (env : Env) (machine : Machine) (actions later : List FirmwareAction)
    (hcompleted : (firmwareRun env machine actions).manager.state = .completed)
    (hbetween : StepsMeet (firmwareStep env) (FirmwareAction.Between env)
      (firmwareRun env machine actions) later)
    (hline : StepsMeet (firmwareStep env) (FirmwareAction.NoPartialLine env)
      (firmwareRun env machine actions) later) :
    (firmwareRun env machine (actions ++ later)).result
      = (firmwareRun env machine actions).result := by
  have hsettled := firmwareRun_settled hcompleted
  have hrun : firmwareRun env machine (actions ++ later)
      = run (firmwareStep env) (firmwareRun env machine actions) later := run_append ..
  rw [hrun]
  have hagrees := firmwareRun_agrees env machine actions
  generalize firmwareRun env machine actions = fw₀ at hbetween hline hsettled hagrees ⊢
  have hsteps : StepsMeet (firmwareStep env)
      (fun fw action => action.Between env fw ∧ action.NoPartialLine env fw) fw₀ later :=
    fun pre action hpre => ⟨hbetween pre action hpre, hline pre action hpre⟩
  have hinv : ∀ fw action, action.Between env fw ∧ action.NoPartialLine env fw →
      Agrees fw ∧ fw.Settled ∧ fw.result = fw₀.result →
      Agrees (firmwareStep env fw action) ∧ (firmwareStep env fw action).Settled ∧
        (firmwareStep env fw action).result = fw₀.result := by
    rintro fw action ⟨hb, hl⟩ ⟨ha, hs, hr⟩
    obtain ⟨hsettled', hresult⟩ := firmwareStep_settled ha hs hb hl
    exact ⟨(firmwareStep_step env fw action).agrees ha, hsettled', hresult.trans hr⟩
  exact (run_invariant_of_stepsMeet hinv later hsteps ⟨hagrees, hsettled, rfl⟩).2.2

/-- A STOP starts and commits nothing. -/
theorem stop_between (env : Env) (fw : Firmware) :
    (controlAction workloadControlStop).Between env fw := by
  refine ⟨trivial, fun request hrequest hstart => ?_, ?_⟩
  · obtain rfl := Option.some.inj hrequest
    rcases hstart with ⟨⟨-, hop⟩, -⟩ | ⟨⟨-, hop⟩, -⟩ <;> exact absurd hop (by decide)
  · unfold firmwareEvent
    split_ifs
    · exact HostEvent.noConfusion
    · cases firmwareReply env fw (controlAction workloadControlStop) with
      | none => exact HostEvent.noConfusion
      | some reply =>
        simp only [controlAction, FirmwareAction.message, hostEvent]
        rw [Message.event_of_control rfl]
        split_ifs <;> exact HostEvent.noConfusion

/-- The STOP of a workload that has halted without output. -/
theorem completed_result_final_halt :
    (firmwareRun haltEnv coldMachine (haltStart ++ [.service, .service])).manager.state
        = .completed ∧
      (firmwareRun haltEnv coldMachine (haltStart ++ [.service, .service] ++
        [controlAction workloadControlStop])).result = (0, .nativeHlt, []) := by
  have hcompleted : (firmwareRun haltEnv coldMachine
      (haltStart ++ [.service, .service])).manager.state = .completed := by decide +kernel
  have hline : (firmwareRun haltEnv coldMachine
      (haltStart ++ [.service, .service])).executor.io.output.diagnosticLine = [] := by
    decide +kernel
  have hresult : (firmwareRun haltEnv coldMachine
      (haltStart ++ [.service, .service])).result = (0, .nativeHlt, []) := by decide +kernel
  have h := completed_result_final haltEnv coldMachine (haltStart ++ [.service, .service])
    [controlAction workloadControlStop]
  rw [hresult] at h
  exact ⟨hcompleted, h hcompleted (stepsMeet_cons.mpr ⟨stop_between _ _, stepsMeet_nil⟩)
    (stepsMeet_cons.mpr ⟨fun _ _ => hline, stepsMeet_nil⟩)⟩

/-- The board of a workload that writes `X` to the diagnostic port, which is on the high lane, and
then announces its halt. -/
def partialLineEnv : Env :=
  let ad (word : UInt16) : UInt32 := dataLoLut word.toUInt8 ||| dataHiLut (word >>> 8).toUInt8
  scriptedEnv 102 ([(1 : UInt32) <<< pinAle ||| ad ioPortDiagnostic,
    (1 : UInt32) <<< pinDtr ||| (1 : UInt32) <<< pinInta ||| ad 0x5800, 0, 0] ++
      ioWriteSamples ioPortControl controlIdlePrepare)

/-- A workload that halts behind `X`, without the end of the line: it completes without native
output, and a STOP then reports `X`. -/
theorem stop_replaces_result :
    ∃ fw, fw = firmwareRun partialLineEnv coldMachine
        (haltStart ++ [.service, .service, .service]) ∧
      fw.manager.state = .completed ∧ fw.result = (0, .nativeHlt, []) ∧
      (controlAction workloadControlStop).Between partialLineEnv fw ∧
      (firmwareStep partialLineEnv fw (controlAction workloadControlStop)).result
        = (resultNativeOutput, .nativeHlt, [0x58]) :=
  ⟨_, rfl, by decide +kernel, by decide +kernel, stop_between _ _,
    by decide +kernel⟩

end Rp86
