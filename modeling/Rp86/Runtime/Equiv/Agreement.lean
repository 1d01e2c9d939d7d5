import Rp86.Runtime.Equiv.Handlers
import Rp86.Runtime.Equiv.Step

/-!
# The executor and the lifecycle agree

The manager's state and the executor's two flags are updated separately by the record handlers and
by the service step.  `Agrees` is what holds between them after every action
(`firmwareRun_agrees`): an active executor has a workload in `RUNNING` or `COMPLETED`, and the
processor is idle exactly in `COMPLETED`, with the executor still active.  Under it a record has one
of the effects of `RecordEffect`, from which every other invariant of the records follows.
-/

namespace Rp86

open Lib

/-- The executor's flags and the lifecycle state agree. -/
structure Agrees (fw : Firmware) : Prop where
  active : fw.executor.active = true →
    fw.manager.state = .running ∨ fw.manager.state = .completed
  idle : fw.executor.processorIdle = true ↔ fw.manager.state = .completed
  active_of_idle : fw.executor.processorIdle = true → fw.executor.active = true

theorem Agrees.of_inactive {fw : Firmware} (hactive : fw.executor.active = false)
    (hidle : fw.executor.processorIdle = false) (hst : fw.manager.state ≠ .completed) :
    Agrees fw where
  active := fun h => absurd h (Bool.eq_false_iff.mp hactive)
  idle := ⟨fun h => absurd h (Bool.eq_false_iff.mp hidle), fun h => absurd h hst⟩
  active_of_idle := fun h => absurd h (Bool.eq_false_iff.mp hidle)

theorem Agrees.not_active {fw : Firmware} (h : Agrees fw) (hrun : fw.manager.state ≠ .running)
    (hcomp : fw.manager.state ≠ .completed) : fw.executor.active = false :=
  Bool.eq_false_iff.mpr fun hactive => (h.active hactive).elim hrun hcomp

theorem Agrees.not_idle_of_inactive {fw : Firmware} (h : Agrees fw)
    (hactive : fw.executor.active = false) : fw.executor.processorIdle = false := by
  refine Bool.eq_false_iff.mpr fun hidle => ?_
  rw [h.active_of_idle hidle] at hactive
  cases hactive

/-- The agreement only depends on the state and the two flags. -/
theorem Agrees.congr {fw fw' : Firmware} (h : Agrees fw)
    (hst : fw'.manager.state = fw.manager.state)
    (hactive : fw'.executor.active = fw.executor.active)
    (hidle : fw'.executor.processorIdle = fw.executor.processorIdle) : Agrees fw' := by
  refine ⟨?_, ?_, ?_⟩
  · rw [hactive, hst]
    exact h.active
  · rw [hidle, hst]
    exact h.idle
  · rw [hidle, hactive]
    exact h.active_of_idle

/-! ### The effect of a record -/

/-- How a control record comes to a start: RUN and RESTART find the executor inactive, or RESTART
stops it first. -/
inductive StartsFrom (fw : Firmware) (request : Message) : Firmware → Prop
  | run (hcontrol : request.IsControl workloadControlRun)
      (hmanager : workloadRun fw.manager (request.word 4)
        = some { fw.manager with state := .running })
      (hactive : fw.executor.active = false) :
      StartsFrom fw request { fw with manager := { fw.manager with state := .running } }
  | restart (hcontrol : request.IsControl workloadControlRestart)
      (hmanager : workloadRestart fw.manager (request.word 4)
        = some { fw.manager with state := .running })
      (hactive : fw.executor.active = false) :
      StartsFrom fw request { fw with manager := { fw.manager with state := .running } }
  | halted (m : Machine) (hcontrol : request.IsControl workloadControlRestart)
      (hmanager : workloadRestart fw.manager (request.word 4)
        = some { fw.manager with state := .running })
      (hactive : fw.executor.active = true) (hstops : fw.machine.StopsTo m) :
      StartsFrom fw request { fw with
        manager := { fw.manager with state := .running }
        executor := fw.executor.halt
        machine := m }

/-- What a record does, with the event of its answer. -/
inductive RecordEffect (env : Env) (fw : Firmware) (request : Message) :
    HostEvent → Firmware → Prop
  | unchanged (event : HostEvent) (h : event = .none ∨ event = .control workloadControlStatus) :
      RecordEffect env fw request event fw
  | begun (manifest : Manifest) (hactive : fw.executor.active = false)
      (hcomp : fw.manager.state ≠ .completed)
      (hbegin : workloadBegin fw.manager fw.backing (request.word 0) (some manifest)
        = some { fw.manager with
            manifest := manifest, transferId := request.word 0, received := 0, runningCrc32 := 0,
            state := .receiving }) :
      RecordEffect env fw request .begun { fw with
        manager := { fw.manager with
          manifest := manifest, transferId := request.word 0, received := 0, runningCrc32 := 0,
          state := .receiving }
        executor := workloadExecutorClearDiagnostics fw.executor }
  | received (manager : WorkloadManager) (backing : Backing)
      (hst : fw.manager.state = .receiving) (hst' : manager.state = fw.manager.state)
      (hwrite : workloadWrite fw.manager fw.backing (request.word 0) (request.word 4)
        (some request.workloadData) = some (manager, backing)) :
      RecordEffect env fw request (.data request.workloadData)
        { fw with manager := manager, backing := backing }
  | rejected (hst : fw.manager.state = .receiving) (hactive : fw.executor.active = false)
      (hcommit : workloadCommit fw.manager (request.word 0) (request.word 4)
        = (false, { fw.manager with state := .faulted })) :
      RecordEffect env fw request .none { fw with manager := { fw.manager with state := .faulted } }
  | staged (hactive : fw.executor.active = false)
      (hcommit : workloadCommit fw.manager (request.word 0) (request.word 4)
        = (true, { fw.manager with
            workloadId := nextWorkloadId fw.manager.workloadId, state := .staged })) :
      RecordEffect env fw request .committed { fw with
        manager := { fw.manager with
          workloadId := nextWorkloadId fw.manager.workloadId, state := .staged }
        executor := workloadExecutorStage fw.manager.manifest.flags fw.executor }
  | started (operation : UInt8) (fw₁ : Firmware) (hfrom : StartsFrom fw request fw₁)
      (hguard : calculatorWorkloadValid fw.manager fw.backing = true → fw.executor.timeoutMs = 0) :
      RecordEffect env fw request
        ((startWorkload env (calculatorWorkloadValid fw.manager fw.backing) fw₁).1.event
          (.control operation))
        (startWorkload env (calculatorWorkloadValid fw.manager fw.backing) fw₁).2
  | halted (m : Machine) (hactive : fw.executor.active = true) (hstops : fw.machine.StopsTo m)
      (hmanager : workloadStop fw.manager (request.word 4)
        = some { fw.manager with state := .stopped }) :
      RecordEffect env fw request (.control workloadControlStop) { fw with
        manager := { fw.manager with state := .stopped }
        executor := fw.executor.halt
        machine := m }
  | stopped (m : Machine) (hactive : fw.executor.active = false)
      (hframe : MachineFrame fw.machine m)
      (hmanager : workloadStop fw.manager (request.word 4)
        = some { fw.manager with state := .stopped }) :
      RecordEffect env fw request (.control workloadControlStop)
        { fw with manager := { fw.manager with state := .stopped }, machine := m }
  | memory : RecordEffect env fw request
      (hostEvent (some request) (some (handleMemoryRecord request fw).1))
      (handleMemoryRecord request fw).2
  | timeout (value : UInt32) (m : Machine) (hframe : MachineFrame fw.machine m)
      (hle : value ≤ workloadTimeoutMaxMs)
      (hprepared : fw.manager.state = .running → fw.executor.active = false → value = 0) :
      RecordEffect env fw request .none
        { fw with executor := fw.executor.setTimeout value, machine := m }
  | quiet (m : Machine) (halted : Bool) (hframe : MachineFrame fw.machine m) :
      RecordEffect env fw request .none { fw with machine := m, halted := halted }

section

variable {env : Env} {fw fw₁ fw' : Firmware} {request : Message}

theorem StartsFrom.active (h : StartsFrom fw request fw₁) : fw₁.executor.active = false := by
  cases h with
  | run _ _ hactive | restart _ _ hactive => exact hactive
  | halted => rfl

theorem StartsFrom.manager (h : StartsFrom fw request fw₁) :
    fw₁.manager = { fw.manager with state := .running } := by
  cases h <;> rfl

theorem StartsFrom.backing (h : StartsFrom fw request fw₁) : fw₁.backing = fw.backing := by
  cases h <;> rfl

theorem StartsFrom.timeoutMs (h : StartsFrom fw request fw₁) :
    fw₁.executor.timeoutMs = fw.executor.timeoutMs := by
  cases h <;> rfl

theorem StartsFrom.processorBootId (h : StartsFrom fw request fw₁) :
    fw₁.machine.processorBootId = fw.machine.processorBootId := by
  cases h with
  | run | restart => rfl
  | halted m hcontrol hmanager hactive hstops => exact hstops.processorBootId

theorem StartsFrom.effect (h : StartsFrom fw request fw₁) (calculator : Bool) :
    StartEffect env fw₁ calculator (startWorkload env calculator fw₁).1
      (startWorkload env calculator fw₁).2 :=
  startWorkload_effect env calculator fw₁ h.active

theorem handleRun_starts (hagrees : Agrees fw)
    (hcontrol : request.IsControl workloadControlRun) :
    handleRun env (request.word 4) fw = (.badWorkload, fw) ∨
    ∃ fw₁, StartsFrom fw request fw₁ ∧ handleRun env (request.word 4) fw
      = startWorkload env (calculatorWorkloadValid fw.manager fw.backing) fw₁ := by
  rcases handleRun_cases env (request.word 4) fw with heq | ⟨hmanager, hst, heq⟩
  · exact Or.inl heq
  · refine Or.inr ⟨_, .run hcontrol hmanager ?_, heq⟩
    rcases hst with hst | hst <;>
      exact hagrees.not_active (by rw [hst]; decide) (by rw [hst]; decide)

theorem handleRestart_starts (hcontrol : request.IsControl workloadControlRestart) :
    handleRestart env (request.word 4) fw = (.badWorkload, fw) ∨
    ∃ fw₁, StartsFrom fw request fw₁ ∧ handleRestart env (request.word 4) fw
      = startWorkload env (calculatorWorkloadValid fw.manager fw.backing) fw₁ := by
  rcases handleRestart_cases env (request.word 4) fw with heq | ⟨hmanager, heq⟩
  · exact Or.inl heq
  · refine Or.inr ⟨_, ?_, heq⟩
    rcases stopIfActive_cases env { fw with manager := { fw.manager with state := .running } } with
      ⟨hactive, m, hstops, hstop⟩ | ⟨hactive, hstop⟩
    · rw [hstop]
      exact .halted m hcontrol hmanager hactive hstops
    · rw [hstop]
      exact .restart hcontrol hmanager hactive

theorem handleTimeoutRequest_effect (env : Env) (request : Message) (fw : Firmware) :
    RecordEffect env fw request .none (handleTimeoutRequest env request fw).2 := by
  obtain ⟨x, b, heq, hb, hx⟩ := handleTimeoutRequest_cases env request fw
  have hframe : MachineFrame fw.machine { fw.machine with board := b } := by
    rcases hb with rfl | rfl
    · exact .refl _
    · exact ⟨(BusFrame.next _).line, rfl, rfl⟩
  rw [heq]
  rcases hx with rfl | ⟨value, -, hle, hprepared, rfl⟩
  · exact .quiet _ fw.halted hframe
  · refine .timeout value _ hframe hle fun hst hactive => ?_
    by_contra hne
    exact hprepared ⟨hne, hst, hactive⟩

/-- A runtime control request at most parks the processor and reads the clock. -/
theorem handleRuntimeControl_effect (env : Env) (request : Message) (fw : Firmware) :
    RecordEffect env fw request .none (handleRuntimeControl env request fw).2 := by
  unfold handleRuntimeControl
  simp only
  split_ifs
  · exact .unchanged _ (Or.inl rfl)
  · exact .unchanged _ (Or.inl rfl)
  · refine .quiet _ _ ⟨?_, rfl, rfl⟩
    exact (LineFrame.park env fw.machine).trans (BusFrame.next _).line

/-- **What a record does.** -/
theorem RecordStep.effect {event : HostEvent} (hstep : RecordStep env fw request event fw')
    (hagrees : Agrees fw) : RecordEffect env fw request event fw' := by
  cases hstep with
  | unchanged event hevent => exact .unchanged event hevent
  | begin =>
    rcases handleBegin_cases request fw with heq | ⟨manifest, -, hrun, hcomp, hbegin, -, heq⟩
    · rw [heq]
      exact .unchanged _ (Or.inl rfl)
    · rw [heq]
      exact .begun manifest (hagrees.not_active hrun hcomp) hcomp hbegin
  | data =>
    rcases handleData_cases request fw with heq | ⟨manager, backing, hwrite, heq⟩
    · rw [heq]
      exact .unchanged _ (Or.inl rfl)
    -- DATA is accepted in `RECEIVING` only
    · obtain ⟨_, _, hst, _, _, _, _, _, hmanager⟩ := workloadWrite_eq_some hwrite
      rw [heq]
      exact .received manager backing hst (by rw [hmanager]) hwrite
  | commit =>
    rcases handleCommit_cases request fw with ⟨-, heq⟩ | ⟨hst, hcommit, heq⟩ | ⟨hst, hcommit, heq⟩
    · rw [heq]
      exact .unchanged _ (Or.inl rfl)
    · rw [heq]
      exact .rejected hst (hagrees.not_active (by rw [hst]; decide) (by rw [hst]; decide)) hcommit
    · rw [heq]
      exact .staged (hagrees.not_active (by rw [hst]; decide) (by rw [hst]; decide)) hcommit
  | run hcontrol hguard =>
    rcases handleRun_starts hagrees hcontrol with heq | ⟨fw₁, hfrom, heq⟩
    · rw [heq]
      exact .unchanged _ (Or.inl rfl)
    · rw [heq]
      exact .started _ fw₁ hfrom fun hc => not_not.mp fun hne => hguard ⟨hc, hne⟩
  | stop hcontrol =>
    rcases handleStop_cases env (request.word 4) fw with
      heq | ⟨hmanager, ⟨hactive, m, hstops, heq⟩ | ⟨hactive, m, hframe, -, heq⟩⟩
    · rw [heq]
      exact .unchanged _ (Or.inl rfl)
    · rw [heq]
      exact .halted m hactive hstops hmanager
    · rw [heq]
      exact .stopped m hactive hframe hmanager
  | restart hcontrol hguard =>
    rcases handleRestart_starts hcontrol with heq | ⟨fw₁, hfrom, heq⟩
    · rw [heq]
      exact .unchanged _ (Or.inl rfl)
    · rw [heq]
      exact .started _ fw₁ hfrom fun hc => not_not.mp fun hne => hguard ⟨hc, hne⟩
  | memory => exact .memory
  | timeout => exact handleTimeoutRequest_effect env request fw
  | runtimeControl => exact handleRuntimeControl_effect env request fw
  | live => exact .quiet _ fw.halted (.runLiveRound env _ _ _ _)

/-! ### The agreement over runs -/

/-- A start of a workload in `RUNNING`, from an executor that is neither active nor idle. -/
theorem StartEffect.agrees {calculator : Bool} {status : HostStatus}
    (h : StartEffect env fw calculator status fw')
    (hst : fw.manager.state = .running) (hactive : fw.executor.active = false)
    (hidle : fw.executor.processorIdle = false) : Agrees fw' := by
  cases h with
  | calculator m hvalid hframe => exact .of_inactive hactive hidle (by rw [hst]; decide)
  | calculatorFailed m hframe => exact .of_inactive hactive hidle (by simp)
  | general x backing m hspec =>
    obtain ⟨hstarted, -, -⟩ := hspec.success rfl
    refine ⟨fun _ => Or.inl hst, ?_, fun hc => ?_⟩
    · simp only [hstarted.processorIdle, hst]
      decide
    · simp only [hstarted.processorIdle] at hc
      cases hc
  | generalFailed x backing m hspec =>
    obtain ⟨hx, -, hidle', -⟩ := hspec.failure rfl
    have hidle' : x.processorIdle = false := hidle'.elim (fun e => e.trans hidle) id
    exact .of_inactive (hx.trans hactive) hidle' (by simp)

theorem ServiceEffect.agrees (heffect : ServiceEffect env fw fw')
    (h : Agrees fw) : Agrees fw' := by
  cases heffect with
  | skipped hfw hx =>
    rw [hfw]
    exact h
  | continued hx hm hsame => exact h.congr (by rw [hm]) hsame.active hsame.processorIdle
  | completed hx hm hidle =>
    obtain ⟨-, -, hm'⟩ := workloadTransition_eq_some hm
    have hst : fw'.manager.state = .completed := by rw [hm']
    refine ⟨fun _ => Or.inr hst, ⟨fun _ => hst, fun _ => hidle.processorIdle⟩, fun _ => ?_⟩
    rw [hidle.active]
    exact hx.active
  | ended hx state hstate hm hhalted hparked hreason =>
    refine .of_inactive hhalted.active hhalted.processorIdle ?_
    rw [hm]
    rcases hstate with rfl | rfl <;> simp

theorem StartsFrom.not_idle (h : StartsFrom fw request fw₁) (hagrees : Agrees fw) :
    fw₁.executor.processorIdle = false := by
  cases h with
  | run _ _ hactive | restart _ _ hactive => exact hagrees.not_idle_of_inactive hactive
  | halted => rfl

theorem RecordStep.agrees {event : HostEvent} (hstep : RecordStep env fw request event fw')
    (h : Agrees fw) : Agrees fw' := by
  cases hstep.effect h with
  | unchanged => exact h
  | begun manifest hactive => exact .of_inactive hactive (h.not_idle_of_inactive hactive) (by simp)
  | received manager backing hst hst' => exact h.congr hst' rfl rfl
  | rejected hst hactive => exact .of_inactive hactive (h.not_idle_of_inactive hactive) (by simp)
  | staged hactive => exact .of_inactive hactive rfl (by simp)
  | started operation fw₁ hfrom =>
    exact (hfrom.effect _).agrees (by rw [hfrom.manager]) hfrom.active (hfrom.not_idle h)
  | halted => exact .of_inactive rfl rfl (by simp)
  | stopped m hactive => exact .of_inactive hactive (h.not_idle_of_inactive hactive) (by simp)
  | memory | timeout | quiet => exact h.congr rfl rfl rfl

end

theorem HandlerStep.agrees {env : Env} {fw fw' : Firmware} {event : HostEvent}
    (hstep : HandlerStep env fw event fw') (h : Agrees fw) : Agrees fw' := by
  cases hstep with
  | record hrecord => exact hrecord.agrees h
  | service => exact (workloadExecutorService_effect env fw).agrees h

/-- **The agreement holds after every run.** -/
theorem firmwareRun_agrees (env : Env) (machine : Machine) (actions : List FirmwareAction) :
    Agrees (firmwareRun env machine actions) :=
  firmwareRun_invariant machine (.of_inactive rfl rfl (by simp [firmwareInit, workloadManagerInit]))
    (fun _ _ _ h hstep => hstep.agrees h) actions

end Rp86
