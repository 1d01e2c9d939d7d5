import Rp86.Runtime.Equiv.Deadline

/-!
# Refused records

A record that is refused, or that gets no reply, leaves the manager, the backing and the timeout
fields of the executor as they were, with two exceptions: a commit that faults the upload, and a RUN
or RESTART that was legal and whose start failed.
-/

namespace Rp86

open Lib

/-- There is no reply, or its status is not `OK`. -/
def Refuses (reply : Option Message) : Prop :=
  ∀ message, reply = some message → message.status ≠ HostStatus.ok.code

/-- The workload, the memory and the supervision of the executor are the same. -/
structure SameWorkload (fw fw' : Firmware) : Prop where
  manager : fw'.manager = fw.manager
  backing : fw'.backing = fw.backing
  timeoutMs : fw'.executor.timeoutMs = fw.executor.timeoutMs
  executionDeadlineUs : fw'.executor.executionDeadlineUs = fw.executor.executionDeadlineUs

theorem SameWorkload.refl (fw : Firmware) : SameWorkload fw fw := ⟨rfl, rfl, rfl, rfl⟩

/-- The request is a RUN or RESTART that the lifecycle allows. -/
def Message.LegalStart (request : Message) (manager : WorkloadManager) : Prop :=
  (request.IsControl workloadControlRun ∧
    workloadRun manager (request.word 4) = some { manager with state := .running }) ∨
  (request.IsControl workloadControlRestart ∧
    workloadRestart manager (request.word 4) = some { manager with state := .running })

inductive RefusalEffect (fw : Firmware) (request : Message) (fw' : Firmware) : Prop
  | unchanged (h : SameWorkload fw fw')
  | commit (htype : request.type = typeWorkloadCommit) (hlength : request.length = 8)
      (hreceiving : fw.manager.state = .receiving)
      (h : fw' = { fw with manager := { fw.manager with state := .faulted } })
  | start (hlegal : request.LegalStart fw.manager)
      (hmanager : fw'.manager = { fw.manager with state := .faulted })
      (htimeout : fw'.executor.timeoutMs = fw.executor.timeoutMs)
      (hdeadline : fw'.executor.executionDeadlineUs = 0)
      (hgeometry : SameGeometry fw.backing fw'.backing)
      (hstorage : ∀ i, ¬ (0x3F000 ≤ fw.backing.processorBase.toNat + i ∧
        fw.backing.processorBase.toNat + i < 0x40000) →
          fw'.backing.storage i = fw.backing.storage i)

/-! ### Timeout, diagnostics and memory requests -/

section

variable {env : Env} {fw : Firmware} {request : Message}

theorem handleTimeoutRequest_refused (h : Refuses (handleTimeoutRequest env request fw).1) :
    (handleTimeoutRequest env request fw).2 = fw := by
  unfold handleTimeoutRequest workloadExecutorTimeoutRequest at h ⊢
  simp only at h ⊢
  split_ifs at h ⊢ with htype hversion hlength hvalue hprepared hset
  · rfl
  · rfl
  · rfl
  · rfl
  · rfl
  · exact absurd rfl (h _ rfl)
  · exact absurd rfl (h _ rfl)

theorem handleMemoryRecord_refused (h : Refuses (some (handleMemoryRecord request fw).1)) :
    SameWorkload fw (handleMemoryRecord request fw).2 := by
  refine ⟨rfl, ?_, rfl, rfl⟩
  rcases handleMemoryRecord_event request fw with hevent | ⟨-, hsame⟩
  · rw [hostEvent, if_neg (h _ rfl)] at hevent
    cases hevent
  · exact hsame

/-! ### Workload records -/

/-- A start that failed, of an inactive executor without a deadline. -/
theorem StartEffect.refused {calculator : Bool} {status : HostStatus} {fw' : Firmware}
    (heffect : StartEffect env fw calculator status fw')
    (hdeadline : fw.executor.executionDeadlineUs = 0) (hstatus : status ≠ .ok) :
    fw'.manager = { fw.manager with state := .faulted } ∧
      fw'.executor.timeoutMs = fw.executor.timeoutMs ∧ fw'.executor.executionDeadlineUs = 0 ∧
      (fw'.backing = fw.backing ∨ sharedMailboxInit fw.backing = some fw'.backing) := by
  cases heffect with
  | calculator m hvalid hframe => exact absurd rfl hstatus
  | calculatorFailed m hframe => exact ⟨rfl, rfl, hdeadline, Or.inl rfl⟩
  | general x backing m hspec => exact absurd rfl hstatus
  | generalFailed x backing m hspec =>
    exact ⟨rfl, hspec.timeoutMs, (hspec.failure rfl).2.1, hspec.backing_cases⟩

theorem StartsFrom.legal {fw₁ : Firmware} (h : StartsFrom fw request fw₁) :
    request.LegalStart fw.manager := by
  cases h with
  | run hcontrol hmanager hactive => exact Or.inl ⟨hcontrol, hmanager⟩
  | restart hcontrol hmanager hactive | halted m hcontrol hmanager hactive hstops =>
    exact Or.inr ⟨hcontrol, hmanager⟩

/-- A failed start of a legal RUN or RESTART. -/
theorem StartsFrom.refused {calculator : Bool} {fw₁ : Firmware} (hinv : DeadlineInv env fw)
    (hfrom : StartsFrom fw request fw₁) (hstatus : (startWorkload env calculator fw₁).1 ≠ .ok) :
    RefusalEffect fw request (startWorkload env calculator fw₁).2 := by
  obtain ⟨hm, ht, hd, hb⟩ :=
    (hfrom.effect calculator).refused (hfrom.executionDeadlineUs hinv) hstatus
  rw [hfrom.backing] at hb
  refine .start hfrom.legal (hm.trans (by rw [hfrom.manager])) (ht.trans hfrom.timeoutMs) hd
    (sameGeometry_of_init hb) fun i hi => ?_
  rcases hb with hb | hb
  · rw [hb]
  · exact sharedMailboxInit_frame hb hi

theorem handleRun_refused (hagrees : Agrees fw) (hinv : DeadlineInv env fw)
    (hcontrol : request.IsControl workloadControlRun)
    (h : (handleRun env (request.word 4) fw).1 ≠ .ok) :
    RefusalEffect fw request (handleRun env (request.word 4) fw).2 := by
  rcases handleRun_starts hagrees hcontrol with heq | ⟨fw₁, hfrom, heq⟩
  · rw [heq]
    exact .unchanged (.refl fw)
  · rw [heq] at h ⊢
    exact hfrom.refused hinv h

theorem handleRestart_refused (hinv : DeadlineInv env fw)
    (hcontrol : request.IsControl workloadControlRestart)
    (h : (handleRestart env (request.word 4) fw).1 ≠ .ok) :
    RefusalEffect fw request (handleRestart env (request.word 4) fw).2 := by
  rcases handleRestart_starts hcontrol with heq | ⟨fw₁, hfrom, heq⟩
  · rw [heq]
    exact .unchanged (.refl fw)
  · rw [heq] at h ⊢
    exact hfrom.refused hinv h

theorem handleStop_refused {workloadId : UInt32} (h : (handleStop env workloadId fw).1 ≠ .ok) :
    (handleStop env workloadId fw).2 = fw := by
  rcases handleStop_cases env workloadId fw with
    heq | ⟨-, ⟨-, m, -, heq⟩ | ⟨-, m, -, -, heq⟩⟩
  · rw [heq]
  all_goals
    rw [heq] at h
    exact absurd rfl h

theorem handleControl_refused (hagrees : Agrees fw) (hinv : DeadlineInv env fw)
    (htype : request.type = typeWorkloadControl) (h : (handleControl env request fw).1 ≠ .ok) :
    RefusalEffect fw request (handleControl env request fw).2 := by
  unfold handleControl at h ⊢
  simp only at h ⊢
  split_ifs at h ⊢ with hstatus hguard hrun hstop hrestart
  · exact absurd rfl h
  · exact .unchanged (.refl fw)
  · exact handleRun_refused hagrees hinv ⟨htype, hrun⟩ h
  · rw [handleStop_refused h]
    exact .unchanged (.refl fw)
  · exact handleRestart_refused hinv ⟨htype, hrestart⟩ h
  · exact .unchanged (.refl fw)

theorem workloadRecord_refused (hagrees : Agrees fw) (hinv : DeadlineInv env fw)
    (h : (workloadRecord env request fw).1 ≠ .ok) :
    RefusalEffect fw request (workloadRecord env request fw).2.2 := by
  unfold workloadRecord at h ⊢
  split_ifs at h ⊢ with hlength hstatus hbegin hdata hcommit hcontrol
  · exact .unchanged (.refl fw)
  · exact .unchanged (.refl fw)
  · rcases handleBegin_cases request fw with heq | ⟨manifest, -, -, -, -, -, heq⟩
    · rw [heq]
      exact .unchanged (.refl fw)
    · rw [heq] at h
      exact absurd rfl h
  · rcases handleData_cases request fw with heq | ⟨manager, backing, -, heq⟩
    · rw [heq]
      exact .unchanged (.refl fw)
    · rw [heq] at h
      exact absurd rfl h
  · rcases handleCommit_cases request fw with ⟨-, heq⟩ | ⟨hst, -, heq⟩ | ⟨-, -, heq⟩
    · rw [heq]
      exact .unchanged (.refl fw)
    · rw [heq]
      exact .commit hcommit.1 hcommit.2 hst rfl
    · rw [heq] at h
      exact absurd rfl h
  · exact handleControl_refused hagrees hinv hcontrol.1 h
  · exact .unchanged (.refl fw)

theorem handleWorkloadRecord_refused (hagrees : Agrees fw) (hinv : DeadlineInv env fw)
    (h : Refuses (some (handleWorkloadRecord env request fw).1)) :
    RefusalEffect fw request (handleWorkloadRecord env request fw).2 := by
  refine workloadRecord_refused hagrees hinv fun hok => h _ rfl ?_
  simp only [handleWorkloadRecord, workloadReply, Message.reply, hok]

/-! ### Records -/

theorem takeNonControlRecord_refused (hagrees : Agrees fw) (hinv : DeadlineInv env fw)
    {record : Message} (h : Refuses (takeNonControlRecord env record fw).2.1) :
    RefusalEffect fw record (takeNonControlRecord env record fw).2.2 := by
  unfold takeNonControlRecord at h ⊢
  split_ifs at h ⊢ with htimeout hdiag hlength hworkload hcontrol hfile hmemory hworkload'
  · rw [handleTimeoutRequest_refused h]
    exact .unchanged (.refl fw)
  · exact .unchanged (.refl fw)
  · exact handleWorkloadRecord_refused hagrees hinv h
  · exact .unchanged (.refl fw)
  · refine .unchanged ?_
    simp only [handleRuntimeControl]
    split_ifs <;> exact ⟨rfl, rfl, rfl, rfl⟩
  · exact .unchanged (.refl fw)
  · exact .unchanged (handleMemoryRecord_refused h)
  · exact handleWorkloadRecord_refused hagrees hinv h
  · exact .unchanged (.refl fw)

end

/-- **Refused records change nothing.**  In every state that a run of the firmware reaches, a record
that gets no reply or a reply with a status other than `OK` leaves the manager, the backing, the
timeout and the deadline as they are, or is one of the two exceptions of `RefusalEffect`. -/
theorem refused_record_effect (env : Env) (machine : Machine) (actions : List FirmwareAction)
    (record : Record)
    (h : Refuses (firmwareReply env (firmwareRun env machine actions) (.record record))) :
    RefusalEffect (firmwareRun env machine actions) (Message.ofRecord record)
      (firmwareStep env (firmwareRun env machine actions) (.record record)) := by
  unfold firmwareStep
  split
  · exact .unchanged (.refl _)
  · exact takeNonControlRecord_refused (firmwareRun_agrees env machine actions)
      (firmwareRun_deadline env machine actions) h

/-- A COMMIT before the image has arrived. -/
theorem refused_record_effect_commit :
    (firmwareRun haltEnv coldMachine [beginAction haltManifest]).manager.state = .receiving ∧
      RefusalEffect (firmwareRun haltEnv coldMachine [beginAction haltManifest])
        (Message.ofRecord (commitRequest 3 7 0).toRecord)
        (firmwareStep haltEnv (firmwareRun haltEnv coldMachine [beginAction haltManifest])
          (.record (commitRequest 3 7 0).toRecord)) := by
  have hstatus : (firmwareReply haltEnv
      (firmwareRun haltEnv coldMachine [beginAction haltManifest])
      (.record (commitRequest 3 7 0).toRecord)).map Message.status
        = some HostStatus.badCrc.code := by decide +kernel
  have h := refused_record_effect haltEnv coldMachine [beginAction haltManifest]
    (commitRequest 3 7 0).toRecord fun message hreply => by
      rw [hreply] at hstatus
      rw [Option.some.inj hstatus]
      decide
  exact ⟨by decide +kernel, h⟩

end Rp86
