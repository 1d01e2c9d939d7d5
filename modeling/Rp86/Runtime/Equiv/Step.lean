import Rp86.Memory.Equiv.MemoryService
import Rp86.Runtime.Firmware

/-!
# What an action of the firmware can do

Every record ends in one of the handlers, or changes nothing (`RecordStep`); the only other action
is a service step (`HandlerStep`).  The dispatch on record types, versions and lengths is taken
apart here once; an invariant of the firmware is then one lemma for each handler
(`firmwareRun_invariant`).
-/

namespace Rp86

open Lib

def HostStatus.event (status : HostStatus) (event : HostEvent) : HostEvent :=
  if status = .ok then event else .none

def Message.IsControl (request : Message) (operation : UInt8) : Prop :=
  request.type = typeWorkloadControl ∧ request.payload.getD 0 0 = operation

/-- The handler that a request reaches, with the event of its answer and the check that guards
RUN and RESTART. -/
inductive RecordStep (env : Env) (fw : Firmware) (request : Message) : HostEvent → Firmware → Prop
  | unchanged (event : HostEvent)
      (h : event = .none ∨ event = .control workloadControlStatus) :
      RecordStep env fw request event fw
  | begin : RecordStep env fw request ((handleBegin request fw).1.event .begun)
      (handleBegin request fw).2
  | data : RecordStep env fw request ((handleData request fw).1.event (.data request.workloadData))
      (handleData request fw).2
  | commit : RecordStep env fw request ((handleCommit request fw).1.event .committed)
      (handleCommit request fw).2
  | run (hcontrol : request.IsControl workloadControlRun)
      (h : ¬ (calculatorWorkloadValid fw.manager fw.backing = true ∧
        fw.executor.timeoutMs ≠ 0)) :
      RecordStep env fw request
        ((handleRun env (request.word 4) fw).1.event (.control workloadControlRun))
        (handleRun env (request.word 4) fw).2
  | stop (hcontrol : request.IsControl workloadControlStop) :
      RecordStep env fw request
        ((handleStop env (request.word 4) fw).1.event (.control workloadControlStop))
        (handleStop env (request.word 4) fw).2
  | restart (hcontrol : request.IsControl workloadControlRestart)
      (h : ¬ (calculatorWorkloadValid fw.manager fw.backing = true ∧
        fw.executor.timeoutMs ≠ 0)) :
      RecordStep env fw request
        ((handleRestart env (request.word 4) fw).1.event (.control workloadControlRestart))
        (handleRestart env (request.word 4) fw).2
  | memory : RecordStep env fw request
      (hostEvent (some request) (some (handleMemoryRecord request fw).1))
      (handleMemoryRecord request fw).2
  | timeout : RecordStep env fw request .none (handleTimeoutRequest env request fw).2
  | runtimeControl : RecordStep env fw request .none (handleRuntimeControl env request fw).2
  | live : RecordStep env fw request .none (liveRoundStep env request fw)

/-- What an action does: one of the handlers of records, or a service step. -/
inductive HandlerStep (env : Env) (fw : Firmware) : HostEvent → Firmware → Prop
  | record {request : Message} {event : HostEvent} {fw' : Firmware}
      (h : RecordStep env fw request event fw') : HandlerStep env fw event fw'
  | service : HandlerStep env fw .none (workloadExecutorService env fw)

/-! ### Events of replies -/

variable (env : Env) (request : Message) (fw : Firmware)

theorem hostEvent_workloadReply (request : Message) (status : HostStatus) (statusReply : Bool) :
    hostEvent (some request) (some (workloadReply fw request status statusReply))
      = status.event request.event := by
  simp only [hostEvent, workloadReply, Message.reply, HostStatus.event, HostStatus.code_eq_ok]

theorem hostEvent_of_event_none {request : Message} (h : request.event = .none)
    (reply : Option Message) : hostEvent (some request) reply = .none := by
  cases reply with
  | none => rfl
  | some reply => simp [hostEvent, h]

/-- A memory request is served, or is refused and leaves the backing alone. -/
theorem handleMemoryRecord_event :
    hostEvent (some request) (some (handleMemoryRecord request fw).1) = .memory ∨
    (hostEvent (some request) (some (handleMemoryRecord request fw).1) = .none ∧
      (handleMemoryRecord request fw).2.backing = fw.backing) := by
  unfold handleMemoryRecord hostServiceDispatchMemory
  simp only
  by_cases htype : request.type = typeMemoryRequest
  · have hevent : request.event = .memory := by
      simp [Message.event, htype, typeMemoryRequest, typeWorkloadBegin, typeWorkloadData,
        typeWorkloadCommit, typeWorkloadControl]
    rcases memoryServiceHandle_cases (dispatchWindow fw.manager.state fw.backing) fw.backing
      request with ⟨hsame, -⟩ | ⟨backing', -, heq⟩
    · simp only [hostEvent, hevent]
      split
      · exact Or.inl rfl
      · exact Or.inr ⟨rfl, hsame⟩
    · rw [heq]
      exact Or.inl (by simp [hostEvent, hevent, memoryReply, Message.reply])
  · refine Or.inr ?_
    simp [memoryServiceHandle, htype, hostEvent, Message.reply, HostStatus.code_eq_ok]

/-! ### Dispatch -/

theorem Message.event_of_control {request : Message} (htype : request.type = typeWorkloadControl) :
    request.event = .control (request.payload.getD 0 0) := by
  simp [Message.event, htype, typeWorkloadBegin, typeWorkloadData, typeWorkloadCommit,
    typeWorkloadControl]

theorem handleControl_step (htype : request.type = typeWorkloadControl) :
    RecordStep env fw request ((handleControl env request fw).1.event request.event)
      (handleControl env request fw).2 := by
  rw [Message.event_of_control htype]
  unfold handleControl
  simp only
  split_ifs with hstatus hguard hrun hstop hrestart
  · exact .unchanged _ (Or.inr (by rw [hstatus.1]; rfl))
  · exact .unchanged _ (Or.inl rfl)
  · rw [hrun]
    exact .run ⟨htype, hrun⟩ fun hc => hguard ⟨Or.inl hrun, hc⟩
  · rw [hstop]
    exact .stop ⟨htype, hstop⟩
  · rw [hrestart]
    exact .restart ⟨htype, hrestart⟩ fun hc => hguard ⟨Or.inr hrestart, hc⟩
  · exact .unchanged _ (Or.inl rfl)

theorem workloadRecord_step :
    RecordStep env fw request ((workloadRecord env request fw).1.event request.event)
      (workloadRecord env request fw).2.2 := by
  unfold workloadRecord
  split_ifs with hlength hstatus hbegin hdata hcommit hcontrol
  · exact .unchanged _ (Or.inl rfl)
  · exact .unchanged _ (Or.inl rfl)
  · have hevent : request.event = .begun := by simp [Message.event, hbegin.1]
    rw [hevent]
    exact .begin
  · have hevent : request.event = .data request.workloadData := by
      simp [Message.event, hdata.1, typeWorkloadBegin, typeWorkloadData]
    rw [hevent]
    exact .data
  · have hevent : request.event = .committed := by
      simp [Message.event, hcommit.1, typeWorkloadBegin, typeWorkloadData, typeWorkloadCommit]
    rw [hevent]
    exact .commit
  · exact handleControl_step env request fw hcontrol.1
  · exact .unchanged _ (Or.inl rfl)

theorem handleWorkloadRecord_step :
    RecordStep env fw request
      (hostEvent (some request) (some (handleWorkloadRecord env request fw).1))
      (handleWorkloadRecord env request fw).2 := by
  unfold handleWorkloadRecord
  rw [hostEvent_workloadReply]
  exact workloadRecord_step env request fw

theorem handleTimeoutRequest_event :
    hostEvent (some request) (handleTimeoutRequest env request fw).1 = .none := by
  by_cases htype : request.type = typeWorkloadTimeoutRequest
  · refine hostEvent_of_event_none ?_ _
    simp [Message.event, htype, typeWorkloadTimeoutRequest, typeWorkloadBegin, typeWorkloadData,
      typeWorkloadCommit, typeWorkloadControl, typeMemoryRequest]
  · simp [handleTimeoutRequest, workloadExecutorTimeoutRequest, htype, hostEvent]

/-- A record of a workload type reaches `handle_workload_record` under the protocol's version. -/
theorem takeNonControlRecord_workload {env : Env} {record : Message} {fw : Firmware}
    (htype : isWorkloadType record.type = true) :
    (takeNonControlRecord env record fw).2 =
      if record.version = hostProtocolVersion then
        (some (handleWorkloadRecord env record fw).1, (handleWorkloadRecord env record fw).2)
      else (none, fw) := by
  have hne : ∀ type, isWorkloadType type = false → record.type ≠ type := by
    rintro type hfalse rfl
    rw [htype] at hfalse
    cases hfalse
  unfold takeNonControlRecord
  rw [if_neg (hne _ rfl), if_neg (hne _ rfl)]
  simp only [htype, hne _ (show isWorkloadType typeRuntimeControl = false from rfl),
    hne _ (show isWorkloadType typeFilesystemRequest = false from rfl),
    hne _ (show isWorkloadType typeMemoryRequest = false from rfl), and_false, and_true, if_false]
  split_ifs <;> rfl

theorem takeNonControlRecord_step (record : Message) (fw : Firmware) :
    RecordStep env fw record (hostEvent (some record) (takeNonControlRecord env record fw).2.1)
      (takeNonControlRecord env record fw).2.2 := by
  unfold takeNonControlRecord
  split_ifs with htimeout hdiag hlength hworkload hcontrol hfile hmemory hworkload'
  · rw [handleTimeoutRequest_event]
    exact .timeout
  · have hevent : record.event = .none := by
      simp [Message.event, hdiag, typeDiagnosticsRequest, typeWorkloadBegin, typeWorkloadData,
        typeWorkloadCommit, typeWorkloadControl, typeMemoryRequest]
    rw [hostEvent_of_event_none hevent]
    exact .unchanged _ (Or.inl rfl)
  · exact handleWorkloadRecord_step env record fw
  · exact .unchanged _ (Or.inl rfl)
  · have hevent : record.event = .none := by
      simp [Message.event, hcontrol.2, typeRuntimeControl, typeWorkloadBegin, typeWorkloadData,
        typeWorkloadCommit, typeWorkloadControl, typeMemoryRequest]
    rw [hostEvent_of_event_none hevent]
    exact .runtimeControl
  · exact .unchanged _ (Or.inl rfl)
  · exact .memory
  · exact handleWorkloadRecord_step env record fw
  · exact .unchanged _ (Or.inl rfl)

theorem firmwareStep_record {action : FirmwareAction} {request : Message}
    (h : action.message = some request) :
    RecordStep env fw request (firmwareEvent env fw action) (firmwareStep env fw action) := by
  unfold firmwareStep firmwareEvent
  split
  · exact .unchanged _ (Or.inl rfl)
  · rw [h]
    cases action with
    | record record =>
      obtain rfl := Option.some.inj h
      exact takeNonControlRecord_step env _ fw
    | workloadRecord received =>
      obtain rfl := Option.some.inj h
      exact handleWorkloadRecord_step env received fw
    | timeoutRequest received =>
      obtain rfl := Option.some.inj h
      have hevent := handleTimeoutRequest_event env received fw
      simp only [firmwareReply, firmwareAct]
      rw [hevent]
      exact .timeout
    | memoryRecord received =>
      obtain rfl := Option.some.inj h
      exact .memory
    | liveRound received =>
      obtain rfl := Option.some.inj h
      exact .live
    | service => cases h

theorem firmwareStep_step (action : FirmwareAction) :
    HandlerStep env fw (firmwareEvent env fw action) (firmwareStep env fw action) := by
  cases h : action.message with
  | some request => exact .record (firmwareStep_record env fw h)
  | none =>
    obtain rfl : action = .service := by cases action <;> first | rfl | cases h
    unfold firmwareStep firmwareEvent
    split
    · exact @HandlerStep.record env fw (Message.request 0 0 []) _ _ (.unchanged _ (Or.inl rfl))
    · exact .service

/-- An invariant of the handlers that holds initially holds after every run. -/
theorem firmwareRun_invariant {env : Env} {Inv : Firmware → Prop} (machine : Machine)
    (hinit : Inv (firmwareInit machine))
    (hstep : ∀ fw event fw', Inv fw → HandlerStep env fw event fw' → Inv fw')
    (actions : List FirmwareAction) : Inv (firmwareRun env machine actions) :=
  run_invariant (fun fw action h => hstep fw _ _ h (firmwareStep_step env fw action)) actions hinit

/-! ### The main loop -/

/-- A record that is left to the caller has changed nothing. -/
theorem takeNonControlRecord_of_left {env : Env} {record : Message} {fw : Firmware}
    (h : (takeNonControlRecord env record fw).1 = true) :
    (takeNonControlRecord env record fw).2.2 = fw := by
  unfold takeNonControlRecord at h ⊢
  split_ifs at h ⊢
  rfl

/-- The main loop calls `run_live_round` only for the prepared runtime, and never beside an active
executor. -/
def FirmwareAction.Enabled (fw : Firmware) : FirmwareAction → Prop
  | .liveRound _ => fw.machine.prepared.available = true ∧ fw.executor.active = false
  | _ => True

/-- The messages that the transport holds for a turn of the main loop. -/
def turnMessages (turn : Option Record × Option Record) : List Message :=
  (turn.1.toList ++ turn.2.toList).map Message.ofRecord

/-- A turn of the main loop is a sequence of at most two actions, each of them enabled, which
deliver its messages in order. -/
theorem mainLoopIteration_enabled (first second : Option Record) (fw : Firmware)
    (hrunning : fw.halted = false) :
    ∃ actions, StepsMeet (firmwareStep env) FirmwareAction.Enabled fw actions ∧
      (actions.filterMap FirmwareAction.message).Sublist (turnMessages (first, second)) ∧
      mainLoopIteration env first second fw = run (firmwareStep env) fw actions := by
  have hnone : StepsMeet (firmwareStep env) FirmwareAction.Enabled fw [] := stepsMeet_nil
  have hone : ∀ action : FirmwareAction, action.Enabled fw →
      StepsMeet (firmwareStep env) FirmwareAction.Enabled fw [action] :=
    fun action h => stepsMeet_cons.mpr ⟨h, stepsMeet_nil⟩
  have htwo : ∀ record action,
      FirmwareAction.Enabled (firmwareStep env fw (.record record)) action →
      StepsMeet (firmwareStep env) FirmwareAction.Enabled fw [.record record, action] :=
    fun record action h => stepsMeet_cons.mpr ⟨trivial, stepsMeet_cons.mpr ⟨h, stepsMeet_nil⟩⟩
  have hfirst : ∀ record, [Message.ofRecord record].Sublist (turnMessages (some record, second)) :=
    fun record => (List.nil_sublist _).cons_cons _
  unfold mainLoopIteration
  simp only
  -- the executor is served, the prepared runtime takes records, or neither is there
  split_ifs with hactive havailable
  · cases first with
    | none => exact ⟨[.service], hone _ trivial, List.nil_sublist _, rfl⟩
    | some record =>
      exact ⟨[.record record, .service], htwo _ _ trivial, hfirst record, rfl⟩
  · cases first with
    | none => exact ⟨[], hnone, List.nil_sublist _, rfl⟩
    | some record =>
      -- a record that no handler takes is offered to the live round
      have hrec : firmwareStep env fw (.record record)
          = (takeNonControlRecord env (Message.ofRecord record) fw).2.2 := by
        simp [firmwareStep, hrunning, firmwareAct]
      have hlive : firmwareStep env fw (.liveRound (Message.ofRecord record))
          = liveRoundStep env (Message.ofRecord record) fw := by
        simp [firmwareStep, hrunning, firmwareAct]
      have hleft := @takeNonControlRecord_of_left env (Message.ofRecord record) fw
      simp only [takeLiveRecord]
      rcases htake : takeNonControlRecord env (Message.ofRecord record) fw with ⟨left, reply, fw'⟩
      rw [htake] at hrec hleft
      cases left with
      | true =>
        obtain rfl : fw' = fw := hleft rfl
        simp only
        split
        · next heq =>
          simp only [Prod.mk.injEq] at heq
          obtain ⟨-, -, rfl⟩ := heq
          exact ⟨[.liveRound (Message.ofRecord record)],
            hone _ ⟨havailable, Bool.eq_false_iff.mpr hactive⟩, hfirst record,
            by rw [run_cons, hlive, run_nil]⟩
        · next heq =>
          simp only [Prod.mk.injEq] at heq
          obtain ⟨-, -, rfl⟩ := heq
          exact ⟨[], hnone, List.nil_sublist _, by rw [if_pos havailable, run_nil]⟩
      | false =>
        simp only
        -- a second record is taken if the first one has retired the prepared runtime
        split_ifs with h
        · exact ⟨[.record record], hone _ trivial, hfirst record, by rw [run_cons, hrec, run_nil]⟩
        · cases second with
          | none =>
            exact ⟨[.record record], hone _ trivial, hfirst record, by rw [run_cons, hrec, run_nil]⟩
          | some record' =>
            exact ⟨[.record record, .record record'], htwo _ _ trivial, List.Sublist.refl _,
              by rw [run_cons, hrec, run_cons, run_nil]⟩
  · cases first with
    | none => exact ⟨[], hnone, List.nil_sublist _, rfl⟩
    | some record => exact ⟨[.record record], hone _ trivial, hfirst record, rfl⟩

/-- The main loop, with what the transport holds for each turn.  A reboot ends it. -/
def mainLoop (env : Env) (fw : Firmware) (turns : List (Option Record × Option Record)) :
    Firmware :=
  run (fun fw turn => if fw.halted then fw else mainLoopIteration env turn.1 turn.2 fw) fw turns

/-- **The main loop refines the firmware of single actions.**  Whatever the transport holds, the
turns are enabled actions one after the other, which deliver no message twice and none out of
order. -/
theorem mainLoop_refines (env : Env) (machine : Machine)
    (turns : List (Option Record × Option Record)) :
    ∃ actions, StepsMeet (firmwareStep env) FirmwareAction.Enabled (firmwareInit machine) actions ∧
      (actions.filterMap FirmwareAction.message).Sublist (turns.flatMap turnMessages) ∧
      mainLoop env (firmwareInit machine) turns = firmwareRun env machine actions := by
  unfold mainLoop firmwareRun
  generalize firmwareInit machine = fw
  induction turns generalizing fw with
  | nil => exact ⟨[], stepsMeet_nil, List.nil_sublist _, rfl⟩
  | cons turn turns ih =>
    rw [run_cons]
    by_cases hhalted : fw.halted = true
    · obtain ⟨actions, henabled, horder, hrun⟩ := ih fw
      rw [if_pos hhalted]
      exact ⟨actions, henabled, horder.trans (List.sublist_append_right ..), hrun⟩
    · obtain ⟨now, hnow, hfirst, hturn⟩ :=
        mainLoopIteration_enabled env turn.1 turn.2 fw (Bool.eq_false_iff.mpr hhalted)
      rw [if_neg hhalted, hturn]
      obtain ⟨later, hlater, hrest, hrun⟩ := ih (run (firmwareStep env) fw now)
      refine ⟨now ++ later, stepsMeet_append.mpr ⟨hnow, hlater⟩, ?_, ?_⟩
      · rw [List.filterMap_append]
        exact hfirst.append hrest
      · rw [hrun, run_append]

end Rp86
