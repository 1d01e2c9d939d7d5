import Rp86.Runtime.Equiv.StagedImage

/-!
# Host records while a workload runs

A record that arrives in `RUNNING` changes bytes of the mailbox page only, and only while the Host
owns the page.  The one exception is a RESTART: it stops the processor and initialises the page for
the new attempt, whoever owns it.
-/

namespace Rp86

open Lib

/-- A RESTART that passes the checks of the handler and that the lifecycle accepts. -/
structure Message.Restarts (request : Message) (fw : Firmware) : Prop where
  version : request.version = hostProtocolVersion
  status : request.status = HostStatus.ok.code
  length : request.length = 8
  control : request.IsControl workloadControlRestart
  accepted : (workloadRestart fw.manager (request.word 4)).isSome = true

theorem StartEffect.backing_cases {env : Env} {fw fw' : Firmware} {calculator : Bool}
    {status : HostStatus} (heffect : StartEffect env fw calculator status fw') :
    fw'.backing = fw.backing ∨ sharedMailboxInit fw.backing = some fw'.backing := by
  cases heffect with
  | calculator m hvalid hframe | calculatorFailed m hframe => exact Or.inl rfl
  | general x backing m hspec | generalFailed x backing m hspec => exact hspec.backing_cases

/-- A running workload is only started again by a RESTART. -/
theorem StartsFrom.restarts {fw fw₁ : Firmware} {request : Message}
    (h : StartsFrom fw request fw₁) (hst : fw.manager.state = .running) :
    (workloadRestart fw.manager (request.word 4)).isSome = true := by
  cases h with
  | run hcontrol hmanager hactive =>
    obtain ⟨-, hready, -⟩ := workloadTransition_eq_some hmanager
    rw [hst] at hready
    exact absurd hready (by decide)
  | restart hcontrol hmanager hactive | halted m hcontrol hmanager hactive hstops =>
    rw [hmanager]; rfl

/-- What a request does to the backing of a running workload. -/
theorem RecordStep.running_backing {env : Env} {fw fw' : Firmware} {request : Message}
    {event : HostEvent} (hstep : RecordStep env fw request event fw')
    (hst : fw.manager.state = .running) :
    fw'.backing = fw.backing ∨
    fw'.backing = (hostServiceDispatchMemory .running fw.backing request).2.2 ∨
    (request.IsControl workloadControlRestart ∧
      (workloadRestart fw.manager (request.word 4)).isSome = true ∧
      sharedMailboxInit fw.backing = some fw'.backing) := by
  cases hstep with
  | unchanged event hevent => exact Or.inl rfl
  | begin =>
    rcases handleBegin_cases request fw with heq | ⟨manifest, -, -, -, -, -, heq⟩ <;>
      (rw [heq]; exact Or.inl rfl)
  | data =>
    rcases handleData_cases request fw with heq | ⟨manager, backing, hwrite, -⟩
    · rw [heq]
      exact Or.inl rfl
    · -- DATA is refused in every state but RECEIVING
      obtain ⟨_, -, hreceiving, -⟩ := workloadWrite_eq_some hwrite
      rw [hst] at hreceiving
      cases hreceiving
  | commit =>
    rcases handleCommit_cases request fw with ⟨-, heq⟩ | ⟨-, -, heq⟩ | ⟨-, -, heq⟩ <;>
      (rw [heq]; exact Or.inl rfl)
  | run hcontrol hguard =>
    rcases handleRun_cases env (request.word 4) fw with heq | ⟨-, hready, -⟩
    · rw [heq]
      exact Or.inl rfl
    -- RUN is legal from `STAGED` and `STOPPED` only
    · rw [hst] at hready
      rcases hready with h | h <;> cases h
  | stop hcontrol =>
    rcases handleStop_cases env (request.word 4) fw with
      heq | ⟨-, ⟨-, m, -, heq⟩ | ⟨-, m, -, -, heq⟩⟩ <;> (rw [heq]; exact Or.inl rfl)
  | restart hcontrol hguard =>
    rcases handleRestart_starts hcontrol with heq | ⟨fw₁, hfrom, heq⟩
    · rw [heq]
      exact Or.inl rfl
    · rw [heq, ← hfrom.backing]
      exact (hfrom.effect _).backing_cases.imp id fun h =>
        Or.inr ⟨hcontrol, hfrom.restarts hst, h⟩
  | memory =>
    refine Or.inr (Or.inl ?_)
    rw [← hst]
    rfl
  | timeout =>
    obtain ⟨x, b, heq, -⟩ := handleTimeoutRequest_cases env request fw
    rw [heq]
    exact Or.inl rfl
  | runtimeControl =>
    unfold handleRuntimeControl
    simp only
    split_ifs <;> exact Or.inl rfl
  | live => exact Or.inl rfl

/-- A control record that changes anything has passed the checks of its handler. -/
theorem checked_of_control {env : Env} {fw : Firmware} {request : Message}
    (htype : request.type = typeWorkloadControl)
    (hchanged : (takeNonControlRecord env request fw).2.2 ≠ fw) :
    request.version = hostProtocolVersion ∧ request.status = HostStatus.ok.code ∧
      request.length = 8 := by
  rw [takeNonControlRecord_workload (by rw [htype]; decide)] at hchanged
  split_ifs at hchanged with hversion
  · refine ⟨hversion, not_imp_comm.mp (fun hbad => ?_) hchanged⟩
    show (workloadRecord env request fw).2.2 = fw
    unfold workloadRecord
    rw [htype]
    split_ifs with hlength hstatus hbegin hdata hcommit hcontrol
    · rfl
    · rfl
    · cases hbegin.1
    · cases hdata.1
    · cases hcommit.1
    · exact absurd ⟨not_not.mp hstatus, hcontrol.2⟩ hbad
    · rfl
  · exact absurd rfl hchanged

/-- A received memory request is answered by the memory service, unless its version or length is
not valid; then it is dropped. -/
theorem takeNonControlRecord_memory (env : Env) {record : Message} (fw : Firmware)
    (htype : record.type = typeMemoryRequest) :
    (record.version = hostProtocolVersion → payloadLengthValid record = true →
      takeNonControlRecord env record fw
        = (false, some (handleMemoryRecord record fw).1, (handleMemoryRecord record fw).2)) ∧
    (¬ (record.version = hostProtocolVersion ∧ payloadLengthValid record = true) →
      (takeNonControlRecord env record fw).2.2 = fw) := by
  have hworkload : isWorkloadType typeMemoryRequest = false := by decide
  unfold takeNonControlRecord
  rw [htype, hworkload, if_neg (by decide), if_neg (by decide)]
  refine ⟨fun hversion hlength => ?_, fun hinvalid => ?_⟩
  · rw [hversion, hlength]
    rfl
  · split_ifs with h1 h2 h3 h4 h5 h6
    · cases h2.2
    · rfl
    · cases h3.2
    · rfl
    · exact absurd ⟨h5.1, by simpa using h1⟩ hinvalid
    · cases h6.2
    · rfl

/-- **A running workload is only disturbed through its mailbox.**  In every state with the
lifecycle in `RUNNING`, whatever records and bus cycles led to it, a record changes a byte of the
backing only in the mailbox page, and only if the Host owns the page or the record is a RESTART that
the lifecycle accepts.  A memory request leaves the backing alone unless it writes a range of the
page while the Host owns it; and every memory request with a valid version and length is
answered. -/
theorem running_backing_guarded (env : Env) (fw : Firmware) (hst : fw.manager.state = .running)
    (hloop : fw.halted = false) (record : Record) :
    (∀ i, (firmwareStep env fw (.record record)).backing.storage i ≠ fw.backing.storage i →
      0x3F000 ≤ fw.backing.processorBase.toNat + i ∧
      fw.backing.processorBase.toNat + i < 0x40000 ∧
      (sharedMailboxHostOwned fw.backing = true ∨ (Message.ofRecord record).Restarts fw)) ∧
    ((Message.ofRecord record).type = typeMemoryRequest →
      ((firmwareStep env fw (.record record)).backing = fw.backing ∨
        ((Message.ofRecord record).memoryOperation = memoryWriteOperation ∧
          sharedMailboxHostOwned fw.backing = true ∧
          0x3F000 ≤ (Message.ofRecord record).memoryAddress.toNat ∧
          (Message.ofRecord record).memoryAddress.toNat +
            (Message.ofRecord record).memoryLength.toNat ≤ 0x40000)) ∧
      ((Message.ofRecord record).version = hostProtocolVersion →
        payloadLengthValid (Message.ofRecord record) = true →
        ∃ reply, firmwareReply env fw (.record record) = some reply ∧
          reply.type = typeMemoryResult ∧
          (reply.status ≠ HostStatus.ok.code →
            (firmwareStep env fw (.record record)).backing = fw.backing))) := by
  set request := Message.ofRecord record with hrequest
  have hstep : firmwareStep env fw (.record record)
      = (takeNonControlRecord env request fw).2.2 := by
    rw [firmwareStep, hloop]
    rfl
  refine ⟨fun i hi => ?_, fun htype => ?_⟩
  · have hmessage : (FirmwareAction.record record).message = some request := rfl
    -- a byte is changed by the memory service or by the start of a new attempt
    rcases (firmwareStep_record env fw hmessage).running_backing hst with
      hsame | hmemory | ⟨hcontrol, haccepted, hinit⟩
    · rw [hsame] at hi
      exact absurd rfl hi
    · rw [hmemory] at hi
      obtain ⟨howned, hge, hlt⟩ := dispatch_running_frame hi
      exact ⟨hge, hlt, Or.inl howned⟩
    -- a restart initialises the page, and only behind the checks of the handler
    · have hpage := not_imp_comm.mp (sharedMailboxInit_frame hinit (i := i)) hi
      obtain ⟨hversion, hstatus, hlength⟩ := checked_of_control hcontrol.1 fun hsame =>
        hi (by rw [hstep, hsame])
      exact ⟨hpage.1, hpage.2, Or.inr ⟨hversion, hstatus, hlength, hcontrol, haccepted⟩⟩
  -- a memory request ends in the service, or is dropped by its version or length
  · obtain ⟨hvalid, hinvalid⟩ := takeNonControlRecord_memory env fw htype
    have hbacking : (handleMemoryRecord request fw).2.backing
        = (hostServiceDispatchMemory .running fw.backing request).2.2 := by
      rw [← hst]
      rfl
    have hreply : (handleMemoryRecord request fw).1
        = (hostServiceDispatchMemory .running fw.backing request).1 := by
      rw [← hst]
      rfl
    refine ⟨?_, fun hversion hlength => ?_⟩
    · by_cases hok : request.version = hostProtocolVersion ∧ payloadLengthValid request = true
      · rw [hstep, hvalid hok.1 hok.2, hbacking]
        exact (dispatch_running_cases fw.backing request).imp id And.right
      · rw [hstep, hinvalid hok]
        exact Or.inl rfl
    · refine ⟨(handleMemoryRecord request fw).1, ?_, ?_, fun hrefused => ?_⟩
      · simp only [firmwareReply, ← hrequest, hvalid hversion hlength]
      · exact memoryServiceHandle_type _ _ _
      · rw [hstep, hvalid hversion hlength, hbacking]
        rw [hreply] at hrefused
        exact (dispatch_running_cases fw.backing request).resolve_right fun h => hrefused h.1

/-- The Host hands the mailbox to the processor: the owner becomes `PROCESSOR`. -/
def handOver : Record := memoryWriteRecord 0x3F008 [2, 0]

/-- `haltManifest` started, with the mailbox in the hands of the Host. -/
def hostOwnedState : Firmware := firmwareRun haltEnv coldMachine haltStart

/-- The same with the mailbox in the hands of the processor. -/
def processorOwnedState : Firmware := firmwareStep haltEnv hostOwnedState (.record handOver)

theorem running_backing_guarded_handOver :
    hostOwnedState.manager.state = .running ∧
      processorOwnedState.backing.storage 0x3F008 ≠ hostOwnedState.backing.storage 0x3F008 ∧
      (sharedMailboxHostOwned hostOwnedState.backing = true ∨
        (Message.ofRecord handOver).Restarts hostOwnedState) := by
  have hst : hostOwnedState.manager.state = .running := by decide +kernel
  have hchanged : processorOwnedState.backing.storage 0x3F008
      ≠ hostOwnedState.backing.storage 0x3F008 := by decide +kernel
  have h := running_backing_guarded haltEnv hostOwnedState hst (by decide +kernel) handOver
  exact ⟨hst, hchanged, (h.1 0x3F008 hchanged).2.2⟩

/-- A RESTART takes the mailbox back from the processor. -/
theorem restart_takes_mailbox :
    processorOwnedState.manager.state = .running ∧
      sharedMailboxHostOwned processorOwnedState.backing = false ∧
      processorOwnedState.backing.storage 0x3F008 = 2 ∧
      (firmwareStep haltEnv processorOwnedState
        (controlAction workloadControlRestart)).backing.storage 0x3F008 = 1 :=
  ⟨by decide +kernel, by decide +kernel, by decide +kernel, by decide +kernel⟩

end Rp86
