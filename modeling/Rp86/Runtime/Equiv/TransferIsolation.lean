import Rp86.Runtime.Equiv.Lifecycle

/-!
# Records of another transfer

While an image is received, DATA of another transfer is refused and changes nothing, so a run ends
as the run without such records (`uploads_isolated`).  A COMMIT of another transfer is refused too,
but `rp86_workload_commit` checks the transfer together with the length and the checksum and faults
the upload.
-/

namespace Rp86

open Lib

section

variable {env : Env} {fw : Firmware}

theorem workloadWrite_foreign {manager : WorkloadManager} {backing : Backing}
    {transferId offset : UInt32} {data : Option (List UInt8)}
    (h : transferId ≠ manager.transferId) :
    workloadWrite manager backing transferId offset data = none := by
  unfold workloadWrite
  cases data with
  | none => rfl
  | some data => exact if_pos (Or.inr (Or.inl h))

theorem workloadCommit_foreign {manager : WorkloadManager} {transferId expectedCrc32 : UInt32}
    (hreceiving : manager.state = .receiving) (h : transferId ≠ manager.transferId) :
    workloadCommit manager transferId expectedCrc32
      = (false, { manager with state := .faulted }) := by
  unfold workloadCommit
  rw [if_neg (not_not.mpr hreceiving), if_pos (Or.inl h)]

theorem firmwareStep_foreignData {record : Record}
    (htype : (Message.ofRecord record).type = typeWorkloadData)
    (h : (Message.ofRecord record).word 0 ≠ fw.manager.transferId) :
    firmwareStep env fw (.record record) = fw := by
  have hrecord : (workloadRecord env (Message.ofRecord record) fw).2.2 = fw := by
    unfold workloadRecord
    simp only [htype, handleData, workloadWrite_foreign h]
    split_ifs with hlength hstatus hbegin hdata hcommit hcontrol
    · rfl
    · rfl
    · exact absurd hbegin.1 (by decide)
    · rfl
    · exact absurd hcommit.1 (by decide)
    · exact absurd hcontrol.1 (by decide)
    · rfl
  unfold firmwareStep firmwareAct
  simp only
  rw [takeNonControlRecord_workload (by rw [htype]; rfl), apply_ite Prod.snd]
  simp [handleWorkloadRecord, hrecord]

/-- A COMMIT of another transfer faults the upload, if it is well formed. -/
theorem firmwareStep_foreignCommit {record : Record} (hreceiving : fw.manager.state = .receiving)
    (htype : (Message.ofRecord record).type = typeWorkloadCommit)
    (h : (Message.ofRecord record).word 0 ≠ fw.manager.transferId) :
    firmwareStep env fw (.record record) =
      if fw.halted = false ∧ (Message.ofRecord record).version = hostProtocolVersion ∧
          (Message.ofRecord record).status = HostStatus.ok.code ∧
          (Message.ofRecord record).length = 8 then
        { fw with manager := { fw.manager with state := .faulted } }
      else fw := by
  set request := Message.ofRecord record with hrequest
  -- the transfer is checked with the checksum, so the upload is faulted
  have hcommit : handleCommit request fw
      = (.badCrc, { fw with manager := { fw.manager with state := .faulted } }) := by
    simp [handleCommit, workloadCommit_foreign hreceiving h, hreceiving]
  have hrecord : (workloadRecord env request fw).2.2 =
      if request.status = HostStatus.ok.code ∧ request.length = 8 then
        { fw with manager := { fw.manager with state := .faulted } }
      else fw := by
    unfold workloadRecord
    simp only [htype, hcommit, show typeWorkloadCommit ≠ typeWorkloadBegin by decide,
      show typeWorkloadCommit ≠ typeWorkloadData by decide,
      show typeWorkloadCommit ≠ typeWorkloadControl by decide, false_and, true_and, if_false]
    by_cases hlength : request.length = 8
    · have hvalid : payloadLengthValid request = true := by
        rw [payloadLengthValid, hlength]
        rfl
      simp only [hvalid, hlength, Bool.not_true, Bool.false_eq_true, if_false, if_true, and_true]
      split_ifs with hstatus hok <;> first | rfl | contradiction
    · simp only [hlength, and_false, if_false]
      split_ifs <;> rfl
  unfold firmwareStep firmwareAct
  simp only [← hrequest]
  rw [takeNonControlRecord_workload (by rw [htype]; rfl), apply_ite Prod.snd]
  simp only [handleWorkloadRecord, hrecord]
  cases fw.halted with
  | true => simp
  | false =>
    simp only [Bool.false_eq_true, if_false, true_and]
    by_cases hversion : request.version = hostProtocolVersion
    · simp [hversion]
    · simp [hversion]

end

/-- The action is DATA of another transfer, while an image is received. -/
def isForeignData (fw : Firmware) : FirmwareAction → Bool
  | .record record =>
    fw.manager.state == .receiving && (Message.ofRecord record).type == typeWorkloadData &&
      (Message.ofRecord record).word 0 != fw.manager.transferId
  | _ => false

/-- **Uploads are isolated from the DATA of other transfers.**  While an image is received, DATA of
another transfer changes nothing, and every run ends as the run without all such records.  A COMMIT
of another transfer, if it is a COMMIT of the right length, faults the upload and changes nothing
else. -/
theorem uploads_isolated (env : Env) (fw : Firmware) (hreceiving : fw.manager.state = .receiving) :
    (∀ record, (Message.ofRecord record).type = typeWorkloadData →
      (Message.ofRecord record).word 0 ≠ fw.manager.transferId →
      firmwareStep env fw (.record record) = fw) ∧
    (∀ actions, run (firmwareStep env) fw (withoutSteps (firmwareStep env) isForeignData fw actions)
      = run (firmwareStep env) fw actions) ∧
    ∀ record, (Message.ofRecord record).type = typeWorkloadCommit →
      (Message.ofRecord record).word 0 ≠ fw.manager.transferId →
      firmwareStep env fw (.record record) =
        if fw.halted = false ∧ (Message.ofRecord record).version = hostProtocolVersion ∧
            (Message.ofRecord record).status = HostStatus.ok.code ∧
            (Message.ofRecord record).length = 8 then
          { fw with manager := { fw.manager with state := .faulted } }
        else fw := by
  refine ⟨fun record => firmwareStep_foreignData, fun actions => ?_, fun record =>
    firmwareStep_foreignCommit hreceiving⟩
  refine run_withoutSteps (fun fw action hforeign => ?_) fw actions
  cases action with
  | record record =>
    simp only [isForeignData, Bool.and_eq_true, beq_iff_eq, bne_iff_ne] at hforeign
    exact firmwareStep_foreignData hforeign.1.2 hforeign.2
  | workloadRecord request => cases hforeign
  | timeoutRequest request => cases hforeign
  | memoryRecord request => cases hforeign
  | liveRound request => cases hforeign
  | service => cases hforeign

/-- The upload of one byte under transfer 7, with DATA of transfer 8 before its own. -/
theorem uploads_isolated_halt :
    (firmwareRun haltEnv coldMachine [beginAction haltManifest]).manager.state = .receiving ∧
      firmwareStep haltEnv (firmwareRun haltEnv coldMachine [beginAction haltManifest])
        (.record (dataRequest 2 8 (0, [0x90])).toRecord)
        = firmwareRun haltEnv coldMachine [beginAction haltManifest] := by
  have hreceiving : (firmwareRun haltEnv coldMachine [beginAction haltManifest]).manager.state
      = .receiving := by decide +kernel
  exact ⟨hreceiving, (uploads_isolated haltEnv _ hreceiving).1 _ (by decide) (by decide +kernel)⟩

/-- The COMMIT of transfer 8 ends the upload of transfer 7, whose own DATA is then refused. -/
theorem foreign_commit_faults :
    ∃ fw, fw = firmwareRun haltEnv coldMachine [beginAction haltManifest] ∧
      fw.manager.state = .receiving ∧ fw.manager.transferId = 7 ∧
      (firmwareStep haltEnv fw (.record (commitRequest 2 8 0).toRecord)).manager.state = .faulted ∧
      (run (firmwareStep haltEnv) fw [.record (commitRequest 2 8 0).toRecord, dataAction [0xF4],
        commitAction haltManifest]).manager.state = .faulted ∧
      (run (firmwareStep haltEnv) fw [dataAction [0xF4],
        commitAction haltManifest]).manager.state = .staged :=
  ⟨_, rfl, by decide +kernel, by decide +kernel, by decide +kernel, by decide +kernel,
    by decide +kernel⟩

end Rp86
