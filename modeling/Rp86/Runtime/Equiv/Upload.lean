import Rp86.Host.Equiv.Workload
import Rp86.Runtime.Equiv.Lifecycle

/-!
# Upload of a workload, end to end

The records of `upload_records` on the device that receives them.  In order, every record is
answered `OK` and the image ends up in the backing, `STAGED` and with nothing else changed.
-/

namespace Rp86

open Lib

/-! ### Dispatch of upload requests -/

section

variable {env : Env} {fw : Firmware}

/-- A received upload request is answered by the workload handler. -/
theorem takeNonControlRecord_upload (env : Env) {request : Message} (fw : Firmware)
    (hversion : request.version = hostProtocolVersion) (hlength : payloadLengthValid request = true)
    (htype : request.type = typeWorkloadBegin ∨ request.type = typeWorkloadData ∨
      request.type = typeWorkloadCommit) :
    takeNonControlRecord env request fw
      = (false, some (handleWorkloadRecord env request fw).1,
          (handleWorkloadRecord env request fw).2) := by
  unfold takeNonControlRecord
  rw [hversion, hlength]
  rcases htype with htype | htype | htype <;> rw [htype] <;> rfl

/-- A delivered request is answered with a status and has an event, if the status is `OK`. -/
structure Handled (env : Env) (fw : Firmware) (request : Message) (event : HostEvent)
    (status : HostStatus) (fw' : Firmware) : Prop where
  reply : ∃ reply, firmwareReply env fw (.record request.toRecord) = some reply ∧
    reply.status = status.code
  step : firmwareStep env fw (.record request.toRecord) = fw'
  event : firmwareEvent env fw (.record request.toRecord) = status.event event

theorem handled_of_workloadRecord {request : Message} {status : HostStatus} {fw' : Firmware}
    (hloop : fw.halted = false) (hversion : request.version = hostProtocolVersion)
    (hlength : payloadLengthValid request = true)
    (htype : request.type = typeWorkloadBegin ∨ request.type = typeWorkloadData ∨
      request.type = typeWorkloadCommit)
    (hrecord : workloadRecord env request fw = (status, false, fw')) :
    Handled env fw request request.event status fw' := by
  have htake := takeNonControlRecord_upload env fw hversion hlength htype
  have hhandle : handleWorkloadRecord env request fw
      = (workloadReply fw' request status false, fw') := by
    rw [handleWorkloadRecord, hrecord]
  have hreply : firmwareReply env fw (.record request.toRecord)
      = some (workloadReply fw' request status false) := by
    rw [firmwareReply, Message.ofRecord_toRecord, htake, hhandle]
  refine ⟨⟨_, hreply, rfl⟩, ?_, ?_⟩
  · rw [firmwareStep, hloop, if_neg (by decide), firmwareAct, Message.ofRecord_toRecord, htake,
      hhandle]
  · rw [firmwareEvent, hloop, if_neg (by decide), hreply, FirmwareAction.message,
      Message.ofRecord_toRecord, hostEvent_workloadReply]

theorem handled_begin (hloop : fw.halted = false) (sequence : UInt32) (transferId : ℕ)
    (manifest : Manifest) :
    let request := beginRequest sequence transferId manifest
    Handled env fw request .begun (handleBegin request fw).1 (handleBegin request fw).2 := by
  intro request
  obtain ⟨hlen, -, -⟩ := @beginRequest_fields sequence transferId manifest
  have hstatus : ¬ request.status ≠ HostStatus.ok.code := fun h => h rfl
  have hvalid : payloadLengthValid request = true := by
    rw [payloadLengthValid, hlen]
    decide
  refine handled_of_workloadRecord hloop rfl hvalid (Or.inl rfl) ?_
  rw [workloadRecord, if_neg (by simp [hvalid]), if_neg hstatus,
    if_pos ⟨rfl, UInt16.toNat_inj.mp hlen⟩]

theorem handled_data (hloop : fw.halted = false) (sequence : UInt32) (transferId : ℕ)
    {w : ByteWrite} (hne : w.2 ≠ []) (hlength : w.2.length ≤ 44) :
    let request := dataRequest sequence transferId w
    Handled env fw request (.data w.2) (handleData request fw).1 (handleData request fw).2 := by
  intro request
  obtain ⟨hlen, -, -, hdata⟩ := @dataRequest_fields sequence transferId w hlength
  have h52 : payloadSize = 52 := rfl
  have hpos := List.length_pos_iff.mpr hne
  have hstatus : ¬ request.status ≠ HostStatus.ok.code := fun h => h rfl
  have hvalid : payloadLengthValid request = true := by
    rw [payloadLengthValid, hlen]
    exact decide_eq_true (by omega)
  have hlong : request.length > 8 := by
    have h8 : (8 : UInt16).toNat = 8 := rfl
    rw [gt_iff_lt, UInt16.lt_iff_toNat_lt, hlen]
    omega
  have hevent : request.event = .data w.2 := by
    rw [← hdata]
    rfl
  rw [← hevent]
  refine handled_of_workloadRecord hloop rfl hvalid (Or.inr (Or.inl rfl)) ?_
  have hbegin : typeWorkloadData ≠ typeWorkloadBegin := by decide
  rw [workloadRecord, if_neg (by simp [hvalid]), if_neg hstatus,
    if_neg (fun h => hbegin h.1), if_pos ⟨rfl, hlong⟩]

theorem handled_commit (hloop : fw.halted = false) (sequence : UInt32)
    (transferId imageCrc32 : ℕ) :
    let request := commitRequest sequence transferId imageCrc32
    Handled env fw request .committed (handleCommit request fw).1 (handleCommit request fw).2 := by
  intro request
  obtain ⟨hlen, -, -⟩ := @commitRequest_fields sequence transferId imageCrc32
  have hstatus : ¬ request.status ≠ HostStatus.ok.code := fun h => h rfl
  have hvalid : payloadLengthValid request = true := by
    rw [payloadLengthValid, hlen]
    decide
  refine handled_of_workloadRecord hloop rfl hvalid (Or.inr (Or.inr rfl)) ?_
  have hbegin : typeWorkloadCommit ≠ typeWorkloadBegin := by decide
  have hdata : typeWorkloadCommit ≠ typeWorkloadData := by decide
  rw [workloadRecord, if_neg (by simp [hvalid]), if_neg hstatus,
    if_neg (fun h => hbegin h.1), if_neg (fun h => hdata h.1),
    if_pos ⟨rfl, UInt16.toNat_inj.mp hlen⟩]

end

/-! ### Delivery in order -/

/-- The firmware after records that are delivered one after the other. -/
def deliver (env : Env) (fw : Firmware) (records : List Record) : Firmware :=
  run (firmwareStep env) fw (records.map .record)

def AnsweredOk (env : Env) (fw : Firmware) (records : List Record) : Prop :=
  ∀ front record, front ++ [record] <+: records →
    ∃ reply, firmwareReply env (deliver env fw front) (.record record) = some reply ∧
      reply.status = HostStatus.ok.code

theorem deliver_append (env : Env) (fw : Firmware) (records records' : List Record) :
    deliver env fw (records ++ records') = deliver env (deliver env fw records) records' := by
  rw [deliver, List.map_append, run_append]
  rfl

def Accepts (env : Env) (fw : Firmware) (record : Record) : Prop :=
  ∃ reply, firmwareReply env fw (.record record) = some reply ∧ reply.status = HostStatus.ok.code

/-- A delivery is answered record by record. -/
theorem answeredOk_iff {env : Env} {fw : Firmware} {records : List Record} :
    AnsweredOk env fw records ↔ StepsMeet (fun fw record => firmwareStep env fw (.record record))
      (Accepts env) fw records := by
  unfold AnsweredOk StepsMeet Accepts deliver Lib.run
  simp only [List.foldl_map]

/-- An upload part way through: `done` is in the backing and nothing else has changed. -/
structure Uploading (b : Backing) (manifest : Manifest) (transferId : UInt32) (done : List UInt8)
    (fw : Firmware) : Prop where
  halted : fw.halted = false
  state : fw.manager.state = .receiving
  manifest_eq : fw.manager.manifest = manifest
  transferId_eq : fw.manager.transferId = transferId
  received_eq : fw.manager.received = UInt32.ofNat done.length
  runningCrc32_eq : fw.manager.runningCrc32 = crc32 done
  backing_eq : fw.backing = { b with
    storage := writeBytes b.storage (b.offset manifest.loadAddress) done }

section

variable {env : Env} {fw : Firmware} {b : Backing} {manifest : Manifest} {transferId : ℕ}
  {done : List UInt8}

/-- BEGIN opens the upload of a valid manifest. -/
theorem uploading_begin (hloop : fw.halted = false) (hrunning : fw.manager.state ≠ .running)
    (hcompleted : fw.manager.state ≠ .completed) (hvalid : manifestValid manifest fw.backing = true)
    {record : Record}
    (hrecord : record.Carries fun sequence => beginRequest sequence transferId manifest) :
    Accepts env fw record ∧
    Uploading fw.backing manifest (UInt32.ofNat transferId) []
      (firmwareStep env fw (.record record)) := by
  obtain ⟨sequence, rfl⟩ := hrecord
  have hhandled := @handled_begin env fw hloop sequence transferId manifest
  obtain ⟨-, hid, hmanifest⟩ := @beginRequest_fields sequence transferId manifest
  have hok : handleBegin (beginRequest sequence transferId manifest) fw = (.ok, { fw with
      manager := { fw.manager with
        manifest := manifest, transferId := UInt32.ofNat transferId, received := 0,
        runningCrc32 := 0, state := .receiving }
      executor := workloadExecutorClearDiagnostics fw.executor }) := by
    rw [handleBegin, hid, hmanifest, workloadBegin_of_valid hvalid hrunning hcompleted]
  simp only [hok] at hhandled
  refine ⟨hhandled.reply, ?_⟩
  rw [hhandled.step]
  exact ⟨hloop, rfl, rfl, rfl, rfl, crc32_nil.symm, by rw [writeBytes_nil]⟩

/-- DATA at the end of what has been received extends it. -/
theorem Uploading.data (h : Uploading b manifest (UInt32.ofNat transferId) done fw)
    (hfits : ImageFits manifest b) {chunk : List UInt8} (hne : chunk ≠ [])
    (hchunk : chunk.length ≤ 44)
    (hsize : done.length + chunk.length ≤ manifest.imageSize.toNat) {record : Record}
    (hrecord : record.Carries fun sequence =>
      dataRequest sequence transferId (done.length, chunk)) :
    Accepts env fw record ∧
    Uploading b manifest (UInt32.ofNat transferId) (done ++ chunk)
      (firmwareStep env fw (.record record)) := by
  obtain ⟨sequence, rfl⟩ := hrecord
  have hhandled := @handled_data env fw h.halted sequence transferId (done.length, chunk) hne hchunk
  obtain ⟨-, hid, hoffset, hdata⟩ :=
    @dataRequest_fields sequence transferId (done.length, chunk) hchunk
  simp only at hoffset hdata
  have hlt := manifest.imageSize.toNat_lt
  have hgeometry : SameGeometry b fw.backing := by
    rw [h.backing_eq]
    exact ⟨rfl, rfl, rfl⟩
  -- the counter is the length of the data so far, and the chunk still fits behind it
  have hreceived : fw.manager.received.toNat = done.length := by
    rw [h.received_eq, UInt32.toNat_ofNat', Nat.mod_eq_of_lt (by omega)]
  have hroom : chunk.length ≤ (fw.manager.manifest.imageSize - fw.manager.received).toNat := by
    rw [h.manifest_eq, UInt32.toNat_sub_of_le _ _ (UInt32.le_iff_toNat_le.mpr (by omega))]
    omega
  obtain ⟨havailable, hbase, hend⟩ := memoryBackingRangeValid_iff.mp hfits.rangeValid
  have hbsize := b.size.toNat_lt
  -- the bytes go behind those received before, and none of the sums wraps
  have haddress : b.offset (manifest.loadAddress + fw.manager.received)
      = b.offset manifest.loadAddress + done.length := by
    rw [Backing.offset_add (by omega), hreceived]
  have haddress' : fw.backing.offset (fw.manager.manifest.loadAddress + fw.manager.received)
      = b.offset manifest.loadAddress + done.length := by
    rw [h.manifest_eq, hgeometry.offset, haddress]
  have hvalid : memoryBackingRangeValid fw.backing
      (fw.manager.manifest.loadAddress + fw.manager.received) chunk.length = true := by
    rw [h.manifest_eq, hgeometry.rangeValid, memoryBackingRangeValid_iff]
    refine ⟨havailable, ?_, by omega⟩
    have hload := hfits.fits
    rw [UInt32.le_iff_toNat_le, UInt32.toNat_add, hreceived]
    have := UInt32.le_iff_toNat_le.mp hbase
    omega
  have hwrite := workloadWrite_of_valid h.state hne hroom hvalid
  rw [haddress'] at hwrite
  have hok : handleData (dataRequest sequence transferId (done.length, chunk)) fw = (.ok, { fw with
      manager := { fw.manager with
        runningCrc32 := crc32Update fw.manager.runningCrc32 chunk
        received := fw.manager.received + UInt32.ofNat chunk.length }
      backing := { fw.backing with
        storage := writeBytes fw.backing.storage (b.offset manifest.loadAddress + done.length)
          chunk } }) := by
    rw [handleData, hid, hoffset, hdata, ← h.transferId_eq, ← h.received_eq, hwrite]
  simp only [hok] at hhandled
  refine ⟨hhandled.reply, ?_⟩
  rw [hhandled.step]
  refine ⟨h.halted, h.state, h.manifest_eq, h.transferId_eq, ?_, ?_, ?_⟩
  · simp [h.received_eq]
  · simp only [h.runningCrc32_eq, crc32Update_crc32]
  · simp only [h.backing_eq, writeBytes_writeBytes_append]

/-- COMMIT stages an image that has been received as the manifest describes it. -/
theorem Uploading.commit (h : Uploading b manifest (UInt32.ofNat transferId) done fw)
    (hlength : done.length = manifest.imageSize.toNat) (hcrc : crc32 done = manifest.imageCrc32)
    {record : Record} (hrecord : record.Carries fun sequence =>
      commitRequest sequence transferId manifest.imageCrc32.toNat) :
    Accepts env fw record ∧
    (firmwareStep env fw (.record record)).manager.state = .staged ∧
    (firmwareStep env fw (.record record)).backing = fw.backing := by
  obtain ⟨sequence, rfl⟩ := hrecord
  have hhandled := @handled_commit env fw h.halted sequence transferId manifest.imageCrc32.toNat
  obtain ⟨-, hid, hword⟩ := @commitRequest_fields sequence transferId manifest.imageCrc32.toNat
  rw [UInt32.ofNat_toNat] at hword
  have hcommit : workloadCommit fw.manager (UInt32.ofNat transferId) manifest.imageCrc32
      = (true, { fw.manager with
          workloadId := nextWorkloadId fw.manager.workloadId, state := .staged }) := by
    have hreceived : fw.manager.received = fw.manager.manifest.imageSize := by
      rw [h.received_eq, h.manifest_eq, hlength, UInt32.ofNat_toNat]
    rw [workloadCommit, if_neg (by simp [h.state]), if_neg]
    simp [h.transferId_eq, hreceived, h.manifest_eq, h.runningCrc32_eq, hcrc]
  have hok : handleCommit (commitRequest sequence transferId manifest.imageCrc32.toNat) fw
      = (.ok, { fw with
          manager := { fw.manager with
            workloadId := nextWorkloadId fw.manager.workloadId, state := .staged }
          executor := workloadExecutorStage fw.manager.manifest.flags fw.executor }) := by
    rw [handleCommit, hid, hword, hcommit]
    rfl
  simp only [hok] at hhandled
  refine ⟨hhandled.reply, ?_⟩
  rw [hhandled.step]
  exact ⟨rfl, rfl⟩

/-- The DATA records of the rest of an image complete it. -/
theorem Uploading.run {rest : List UInt8} {chunks : List ByteWrite} {records : List Record}
    (hchunks : Chunked 44 done.length rest chunks)
    (hrecords : List.Forall₂ (fun (record : Record) w => record.Carries
      fun sequence => dataRequest sequence transferId w) records chunks)
    (h : Uploading b manifest (UInt32.ofNat transferId) done fw) (hfits : ImageFits manifest b)
    (hsize : done.length + rest.length ≤ manifest.imageSize.toNat) :
    AnsweredOk env fw records ∧
      Uploading b manifest (UInt32.ofNat transferId) (done ++ rest) (deliver env fw records) := by
  rw [answeredOk_iff]
  generalize ha : done.length = a at hchunks
  induction hchunks generalizing done fw records with
  | nil a =>
    cases hrecords
    rw [List.append_nil]
    exact ⟨stepsMeet_nil, h⟩
  | @cons a chunk rest ws hne hle hfull hchunks ih =>
    cases hrecords with
    | @cons record _ records _ hrecord hrecords =>
      subst ha
      rw [List.length_append] at hsize
      obtain ⟨hreply, hnext⟩ := @Uploading.data env fw b manifest transferId done h hfits chunk hne
        hle (by omega) record hrecord
      obtain ⟨hanswered, hrest⟩ := ih hrecords hnext
        (by rw [List.length_append]; omega) (List.length_append ..)
      rw [List.append_assoc] at hrest
      exact ⟨stepsMeet_cons.mpr ⟨hreply, hanswered⟩, hrest⟩

/-- The records of an upload, in order, stage the image. -/
theorem deliver_upload {image : List UInt8} {chunks : List ByteWrite} {records : List Record}
    (hchunks : Chunked 44 0 image chunks)
    (hrecords : List.Forall₂ Record.Carries records
      (Host.uploadRequests transferId manifest chunks))
    (hloop : fw.halted = false) (hrunning : fw.manager.state ≠ .running)
    (hcompleted : fw.manager.state ≠ .completed) (hvalid : manifestValid manifest fw.backing = true)
    (hlength : image.length = manifest.imageSize.toNat)
    (hcrc : crc32 image = manifest.imageCrc32) :
    AnsweredOk env fw records ∧ (deliver env fw records).manager.state = .staged ∧
      (deliver env fw records).backing = { fw.backing with
        storage := writeBytes fw.backing.storage (fw.backing.offset manifest.loadAddress)
          image } := by
  cases hrecords with
  | @cons beginRecord _ records _ hbegin hrest =>
  -- the DATA records are those before the last
  have hdata := List.forall₂_take_append _ _ _ hrest
  have hcommit := List.forall₂_drop_append _ _ _ hrest
  rw [← List.take_append_drop
    (chunks.map fun w sequence => dataRequest sequence transferId w).length records]
  generalize records.take _ = dataRecords at hdata ⊢
  generalize records.drop _ = commitRecords at hcommit ⊢
  cases hcommit with
  | @cons commitRecord _ _ _ hcommit hnil =>
  cases hnil
  rw [List.forall₂_map_right_iff] at hdata
  obtain ⟨hreply₁, hs₁⟩ := @uploading_begin env fw manifest transferId hloop hrunning hcompleted
    hvalid beginRecord hbegin
  obtain ⟨hanswered₂, hs₂⟩ := @Uploading.run env _ fw.backing manifest transferId [] image chunks
    dataRecords hchunks hdata hs₁ (imageFits_of_manifestValid hvalid) (by rw [← hlength]; simp)
  obtain ⟨hreply₃, hstate, hbacking⟩ := hs₂.commit hlength hcrc hcommit
  have hdeliver : deliver env fw (beginRecord :: (dataRecords ++ [commitRecord]))
      = firmwareStep env (deliver env (firmwareStep env fw (.record beginRecord)) dataRecords)
          (.record commitRecord) :=
    deliver_append env (firmwareStep env fw (.record beginRecord)) dataRecords [commitRecord]
  refine ⟨answeredOk_iff.mpr (stepsMeet_cons.mpr ⟨hreply₁, stepsMeet_append.mpr
    ⟨answeredOk_iff.mp hanswered₂, stepsMeet_cons.mpr ⟨?_, stepsMeet_nil⟩⟩⟩), ?_, ?_⟩
  · simpa only [deliver, Lib.run, List.foldl_map] using hreply₃
  · rw [hdeliver]
    exact hstate
  · rw [hdeliver, hbacking]
    exact hs₂.backing_eq

end

/-! ### Delivery with records lost, repeated or reordered -/

/-- A delivered record of an upload opens it, or leaves the manifest as it was; a COMMIT is only
accepted with the checksum of the manifest and of the data. -/
inductive UploadStep (manifest : Manifest) (fw : Firmware) : HostEvent → Firmware → Prop
  | begun (fw' : Firmware) (h : fw'.manager.manifest = manifest) :
      UploadStep manifest fw .begun fw'
  | committed (fw' : Firmware) (h : fw'.manager.manifest = fw.manager.manifest)
      (hstate : fw.manager.state = .receiving)
      (hreceived : fw.manager.received = fw.manager.manifest.imageSize)
      (hcrc : fw.manager.manifest.imageCrc32 = manifest.imageCrc32)
      (hrunning : fw.manager.runningCrc32 = manifest.imageCrc32) :
      UploadStep manifest fw .committed fw'
  | other (event : HostEvent) (fw' : Firmware) (hbegun : event ≠ .begun)
      (hcommitted : event ≠ .committed) (h : fw'.manager.manifest = fw.manager.manifest) :
      UploadStep manifest fw event fw'

section

variable {env : Env} {fw : Firmware} {manifest : Manifest} {transferId : ℕ}
  {chunks : List ByteWrite} {record : Record}

theorem uploadStep_begin (hloop : fw.halted = false)
    (hrecord : record.Carries fun sequence => beginRequest sequence transferId manifest) :
    UploadStep manifest fw (firmwareEvent env fw (.record record))
      (firmwareStep env fw (.record record)) := by
  obtain ⟨sequence, rfl⟩ := hrecord
  have hhandled := @handled_begin env fw hloop sequence transferId manifest
  obtain ⟨-, -, hmanifest⟩ := @beginRequest_fields sequence transferId manifest
  rw [hhandled.event, hhandled.step]
  rcases handleBegin_cases (beginRequest sequence transferId manifest) fw with
    heq | ⟨received, -, -, -, -, hreceived, heq⟩ <;> rw [heq]
  · exact .other _ _ nofun nofun rfl
  · exact .begun _ (hreceived.trans hmanifest)

theorem uploadStep_data (hloop : fw.halted = false) {w : ByteWrite} (hne : w.2 ≠ [])
    (hlength : w.2.length ≤ 44)
    (hrecord : record.Carries fun sequence => dataRequest sequence transferId w) :
    UploadStep manifest fw (firmwareEvent env fw (.record record))
      (firmwareStep env fw (.record record)) := by
  obtain ⟨sequence, rfl⟩ := hrecord
  have hhandled := @handled_data env fw hloop sequence transferId w hne hlength
  rw [hhandled.event, hhandled.step]
  rcases handleData_cases (dataRequest sequence transferId w) fw with
    heq | ⟨manager, backing, hwrite, heq⟩ <;> rw [heq]
  · exact .other _ _ nofun nofun rfl
  · obtain ⟨_, -, -, -, -, -, -, -, rfl⟩ := workloadWrite_eq_some hwrite
    exact .other _ _ nofun nofun rfl

theorem uploadStep_commit (hloop : fw.halted = false)
    (hrecord : record.Carries fun sequence =>
      commitRequest sequence transferId manifest.imageCrc32.toNat) :
    UploadStep manifest fw (firmwareEvent env fw (.record record))
      (firmwareStep env fw (.record record)) := by
  obtain ⟨sequence, rfl⟩ := hrecord
  have hhandled := @handled_commit env fw hloop sequence transferId manifest.imageCrc32.toNat
  obtain ⟨-, -, hword⟩ := @commitRequest_fields sequence transferId manifest.imageCrc32.toNat
  rw [UInt32.ofNat_toNat] at hword
  rw [hhandled.event, hhandled.step]
  rcases handleCommit_cases (commitRequest sequence transferId manifest.imageCrc32.toNat) fw with
    ⟨-, heq⟩ | ⟨-, -, heq⟩ | ⟨-, hcommit, heq⟩ <;> rw [heq]
  · exact .other _ _ nofun nofun rfl
  · exact .other _ _ nofun nofun rfl
  · rw [hword] at hcommit
    rcases workloadCommit_cases fw.manager _ manifest.imageCrc32 with
      ⟨-, hfalse⟩ | ⟨-, hfalse⟩ | ⟨hstate, -, hreceived, hcrc, hrunning, -⟩
    · exact absurd (hfalse.symm.trans hcommit) (by simp)
    · exact absurd (hfalse.symm.trans hcommit) (by simp)
    · exact .committed _ rfl hstate hreceived hcrc.symm hrunning

def IsUploadRecord (transferId : ℕ) (manifest : Manifest) (chunks : List ByteWrite)
    (record : Record) : Prop :=
  ∃ request ∈ Host.uploadRequests transferId manifest chunks, record.Carries request

theorem isUploadRecord_of_mem {records : List Record}
    (hrecords : List.Forall₂ Record.Carries records
      (Host.uploadRequests transferId manifest chunks)) (h : record ∈ records) :
    IsUploadRecord transferId manifest chunks record := by
  rw [IsUploadRecord]
  generalize Host.uploadRequests transferId manifest chunks = requests at hrecords ⊢
  induction hrecords with
  | nil => cases h
  | @cons first request _ _ hfirst _ ih =>
    rcases List.mem_cons.mp h with rfl | h
    · exact ⟨request, List.mem_cons_self .., hfirst⟩
    · obtain ⟨request', hmem, hcarries⟩ := ih h
      exact ⟨request', List.mem_cons_of_mem _ hmem, hcarries⟩

theorem uploadStep (env : Env) (fw : Firmware) (hlength : ∀ w ∈ chunks, w.2 ≠ [] ∧ w.2.length ≤ 44)
    (hrecord : IsUploadRecord transferId manifest chunks record) :
    UploadStep manifest fw (firmwareEvent env fw (.record record))
      (firmwareStep env fw (.record record)) := by
  cases hloop : fw.halted with
  | true =>
    rw [firmwareEvent, firmwareStep, if_pos hloop, if_pos hloop]
    exact .other _ _ HostEvent.noConfusion HostEvent.noConfusion rfl
  | false =>
    obtain ⟨request, hmem, hcarries⟩ := hrecord
    rcases List.mem_cons.mp hmem with rfl | hmem
    · exact uploadStep_begin hloop hcarries
    · rcases List.mem_append.mp hmem with hmem | hmem
      · obtain ⟨w, hw, rfl⟩ := List.mem_map.mp hmem
        exact uploadStep_data hloop (hlength w hw).1 (hlength w hw).2 hcarries
      · obtain rfl := List.mem_singleton.mp hmem
        exact uploadStep_commit hloop hcarries

/-- A BEGIN among the delivered records has been accepted. -/
def BeginAccepted (env : Env) (fw : Firmware) (delivered : List Record) : Prop :=
  ∃ front record, front ++ [record] <+: delivered ∧
    firmwareEvent env (deliver env fw front) (.record record) = .begun

theorem beginAccepted_concat (env : Env) (fw : Firmware) (delivered : List Record)
    (record : Record) :
    BeginAccepted env fw (delivered ++ [record]) ↔ BeginAccepted env fw delivered ∨
      firmwareEvent env (deliver env fw delivered) (.record record) = .begun := by
  constructor
  · rintro ⟨front, last, hfront, hevent⟩
    rcases List.prefix_concat_iff.mp hfront with heq | hfront
    · obtain ⟨rfl, hlast⟩ := List.append_inj' heq rfl
      obtain rfl := List.singleton_inj.mp hlast
      exact Or.inr hevent
    · exact Or.inl ⟨front, last, hfront, hevent⟩
  · rintro (⟨front, last, hfront, hevent⟩ | hevent)
    · exact ⟨front, last, hfront.trans (List.prefix_append ..), hevent⟩
    · exact ⟨delivered, record, List.prefix_refl _, hevent⟩

/-- The manifest after a delivery is that of the upload, if it has been opened, and otherwise the
one before. -/
theorem deliver_manifest (env : Env) (fw : Firmware)
    (hlength : ∀ w ∈ chunks, w.2 ≠ [] ∧ w.2.length ≤ 44) (delivered : List Record)
    (hdelivered : ∀ record ∈ delivered, IsUploadRecord transferId manifest chunks record) :
    (BeginAccepted env fw delivered ∧ (deliver env fw delivered).manager.manifest = manifest) ∨
    (¬ BeginAccepted env fw delivered ∧
      (deliver env fw delivered).manager.manifest = fw.manager.manifest) := by
  induction delivered using List.reverseRecOn with
  | nil =>
    refine Or.inr ⟨?_, rfl⟩
    rintro ⟨front, record, hfront, -⟩
    exact absurd (List.prefix_nil.mp hfront) (by simp)
  | append_singleton delivered record ih =>
    rw [beginAccepted_concat, deliver_append]
    have hstep := uploadStep env (deliver env fw delivered) hlength
      (hdelivered record (by simp))
    change UploadStep _ _ _ (deliver env (deliver env fw delivered) [record]) at hstep
    have ih := ih fun r hr => hdelivered r (List.mem_append_left _ hr)
    generalize firmwareEvent env (deliver env fw delivered) (.record record) = event at hstep ⊢
    cases hstep with
    | begun fw' h => exact Or.inl ⟨Or.inr rfl, h⟩
    | committed fw' h =>
      rw [h]
      simpa using ih
    | other event fw' hbegun hcommitted h =>
      rw [h]
      simpa [hbegun] using ih

end

/-! ### The upload -/

theorem traceRun_deliver (env : Env) (machine : Machine) (actions : List FirmwareAction)
    (delivered : List Record) :
    (traceRun env machine (actions ++ delivered.map .record)).firmware
      = deliver env (firmwareRun env machine actions) delivered := by
  rw [traceRun_firmware, firmwareRun, run_append]
  rfl

/-- **End-to-end upload.**  From every state that a run reaches, for every manifest, image and
transfer for which `upload_records` succeeds with sequences that can be encoded.

When the state allows BEGIN and the firmware accepts the manifest, the records in order are all
answered `OK` and stage the image, and no other byte of the backing changes.

After any delivery of these records, with some of them lost, repeated or reordered, an accepted
COMMIT means that the data accepted since the last accepted BEGIN has the checksum and the length of
the manifest.  When no BEGIN of this delivery has been accepted, the length is that of the manifest
of the earlier one. -/
theorem upload_end_to_end (env : Env) (machine : Machine) (actions : List FirmwareAction)
    (manifest : Host.WorkloadManifest) (image : List UInt8) (transferId firstSequence : ℤ)
    (messages : List Host.Message)
    (hupload : Host.uploadRecords manifest image transferId firstSequence = .ok messages)
    (hsequences : ∀ message ∈ messages, 0 ≤ message.sequence ∧ message.sequence < 2 ^ 32) :
    let fw := firmwareRun env machine actions
    ∃ encoded records, manifest.encode = .ok encoded ∧
      messages.map Host.Message.encode = records.map (fun record => .ok record.bytes) ∧
      (fw.halted = false → fw.manager.state ≠ .running → fw.manager.state ≠ .completed →
        manifestValid (Manifest.ofBytes encoded 0) fw.backing = true →
        AnsweredOk env fw records ∧ (deliver env fw records).manager.state = .staged ∧
        readBytes (deliver env fw records).backing.storage manifest.loadAddress.toNat
          manifest.imageSize.toNat = image ∧
        ∀ a, a < manifest.loadAddress.toNat ∨
            manifest.loadAddress.toNat + manifest.imageSize.toNat ≤ a →
          (deliver env fw records).backing.storage a = fw.backing.storage a) ∧
      ∀ delivered, (∀ record ∈ delivered, record ∈ records) → ∀ record ∈ records,
        let t := traceRun env machine (actions ++ delivered.map .record)
        firmwareEvent env t.firmware (.record record) = .committed →
        ((crc32 t.accepted).toNat : ℤ) = manifest.imageCrc32 ∧
        (BeginAccepted env fw delivered → (t.accepted.length : ℤ) = manifest.imageSize) ∧
        (¬ BeginAccepted env fw delivered →
          t.accepted.length = fw.manager.manifest.imageSize.toNat) := by
  intro fw
  obtain ⟨hfits, hencode, hlength, hcrc, chunks, hchunks, hrepresents⟩ :=
    Host.uploadRecords_spec hupload
  obtain ⟨hsize, hcrc32, hload⟩ := hfits.toNat_packed
  have hsends := Host.forall₂_sends hrepresents hsequences
  obtain ⟨records, hencoded, hrecords⟩ := @Host.exists_records _ (fun request => request) _ _ hsends
  refine ⟨manifest.packed.toBytes, records, hencode, hencoded, ?_, ?_⟩
  -- in order: of the run that reached `fw` only the geometry of the backing matters
  · have hgeometry : SameGeometry internalSramBackingInit fw.backing :=
      firmwareRun_sameGeometry env machine actions
    clear_value fw
    intro hloop hrunning hcompleted hvalid
    have hmanifest : Manifest.ofBytes manifest.packed.toBytes 0 = manifest.packed := by
      have h := manifest.packed.ofBytes_toBytes [] []
      rwa [List.append_nil, List.nil_append, List.length_nil] at h
    rw [hmanifest] at hvalid
    obtain ⟨hanswered, hstate, hbacking⟩ := @deliver_upload env fw manifest.packed transferId.toNat
      image chunks records hchunks hrecords hloop hrunning hcompleted hvalid (by omega)
      (UInt32.toNat_inj.mp (by omega))
    -- Internal SRAM starts at address zero, so an offset is the address itself
    have hbase : fw.backing.offset manifest.packed.loadAddress = manifest.loadAddress.toNat := by
      rw [hgeometry.offset, ← hload]
      exact congrArg UInt32.toNat (UInt32.sub_zero _)
    have hlen : image.length = manifest.imageSize.toNat := by omega
    rw [hbase] at hbacking
    rw [hbacking, ← hlen]
    refine ⟨hanswered, hstate, readBytes_writeBytes_self _ _ _, fun a ha => ?_⟩
    exact writeBytes_of_not_mem (by omega)
  · intro delivered hdelivered record hrecord t hevent
    -- in any order: the trace of the run holds the data accepted since the last BEGIN
    have hchunk : ∀ w ∈ chunks, w.2 ≠ [] ∧ w.2.length ≤ 44 :=
      fun w hw => ⟨(hchunks.mem hw).1, (hchunks.mem hw).2.1⟩
    have hfirmware : t.firmware = deliver env fw delivered :=
      traceRun_deliver env machine actions delivered
    have hinv : t.lifecycle.Inv := traceRun_inv env machine (actions ++ delivered.map .record)
    clear_value t
    have hmanifest := @deliver_manifest manifest.packed transferId.toNat chunks env fw hchunk
      delivered fun r hr => isUploadRecord_of_mem hrecords (hdelivered r hr)
    have hstep := uploadStep env t.firmware hchunk (isUploadRecord_of_mem hrecords hrecord)
    rw [hevent] at hstep
    rw [← hfirmware] at hmanifest
    -- the accepted COMMIT has compared the counter and the checksum of the upload with the
    -- manifest that the device holds; the lifecycle ties both to the accepted data
    cases hstep with
    | other _ _ _ h => exact absurd rfl h
    | committed _ _ hstate hreceived _ hcrc' =>
    obtain ⟨-, hlength', -, hrunning⟩ := hinv.receiving hstate
    change t.firmware.manager.received.toNat = t.accepted.length at hlength'
    change t.firmware.manager.runningCrc32 = crc32 t.accepted at hrunning
    rw [hreceived] at hlength'
    refine ⟨?_, fun hbegin => ?_, fun hbegin => ?_⟩
    · rw [← hrunning, hcrc']
      omega
    -- the device holds the manifest of these records once a BEGIN of them was accepted,
    -- and before that the one it had
    · rcases hmanifest with ⟨-, heq⟩ | ⟨hnot, -⟩
      · rw [heq] at hlength'
        omega
      · exact absurd hbegin hnot
    · rcases hmanifest with ⟨hyes, -⟩ | ⟨-, heq⟩
      · exact absurd hyes hbegin
      · rw [heq] at hlength'
        exact hlength'.symm

/-- 59 `NOP`s and `HLT`: the image takes two DATA records. -/
def longImage : List UInt8 := List.replicate 59 0x90 ++ [0xF4]

def longManifest : Host.WorkloadManifest where
  imageSize := 60
  imageCrc32 := 0xE4AF3F54
  loadAddress := 0x10000
  entrySegment := 0x1000
  entryOffset := 0
  flags := Host.flagClockStepped

def longPacked : Manifest := { haltManifest with imageSize := 60, imageCrc32 := 0xE4AF3F54 }

def longMessages : List Host.Message :=
  [{ messageType := Host.typeWorkloadBegin
     sequence := 1
     payload := leBytes 4 7 ++ longPacked.toBytes },
   { messageType := Host.typeWorkloadData
     sequence := 2
     payload := leBytes 4 7 ++ leBytes 4 0 ++ List.replicate 44 0x90 },
   { messageType := Host.typeWorkloadData
     sequence := 3
     payload := leBytes 4 7 ++ leBytes 4 44 ++ List.replicate 15 0x90 ++ [0xF4] },
   { messageType := Host.typeWorkloadCommit
     sequence := 4
     payload := leBytes 4 7 ++ leBytes 4 0xE4AF3F54 }]

theorem upload_end_to_end_halt :
    Host.uploadRecords longManifest longImage 7 1 = .ok longMessages ∧
      ∃ records, longMessages.map Host.Message.encode
          = records.map (fun record => .ok record.bytes) ∧
        AnsweredOk haltEnv (firmwareRun haltEnv coldMachine []) records ∧
        (deliver haltEnv (firmwareRun haltEnv coldMachine []) records).manager.state = .staged ∧
        readBytes (deliver haltEnv (firmwareRun haltEnv coldMachine []) records).backing.storage
          0x10000 60 = longImage := by
  have hupload : Host.uploadRecords longManifest longImage 7 1 = .ok longMessages := by
    decide +kernel
  obtain ⟨encoded, records, hencode, hencoded, hinOrder, -⟩ := upload_end_to_end haltEnv coldMachine
    [] longManifest longImage 7 1 longMessages hupload (by decide +kernel)
  have hencode' : longManifest.encode = .ok longPacked.toBytes := by decide +kernel
  obtain rfl := Except.ok.inj (hencode.symm.trans hencode')
  obtain ⟨hanswered, hstate, hread, -⟩ := hinOrder (by decide +kernel) (by decide +kernel)
    (by decide +kernel) (by decide +kernel)
  exact ⟨hupload, records, hencoded, hanswered, hstate, hread⟩

end Rp86
