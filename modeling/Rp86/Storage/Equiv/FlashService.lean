import Rp86.Storage.FlashService
import Rp86.Workload.Equiv.Crc32

/-!
# What a filesystem record does

`FlashEffect` lists what a handled record can do to the service and the files: nothing to either,
end the upload, begin one, extend it, or put the uploaded file in the place of its target.
-/

namespace Rp86

open Lib

variable {ν : Type}

/-! ### Calls -/

section

variable (env : FatEnv ν)

theorem ifOk_eq_ok {r : FResult × Fat ν} {call : Fat ν → FResult × Fat ν}
    (h : (ifOk r call).1 = .ok) : r.1 = .ok ∧ (call r.2).1 = .ok ∧ ifOk r call = call r.2 := by
  unfold ifOk at h ⊢
  split_ifs at h ⊢ with hr
  · exact ⟨hr, h, rfl⟩
  · exact absurd h hr

theorem ifOk_of_ok {r : FResult × Fat ν} {call : Fat ν → FResult × Fat ν} (h : r.1 = .ok) :
    ifOk r call = call r.2 := if_pos h

@[simp] theorem files_closeUpload (fat : Fat ν) : (closeUpload env fat).2.files = fat.files := rfl

@[simp] theorem files_flushDisk (fat : Fat ν) : (flushDisk env fat).2.files = fat.files := rfl

theorem files_handleListLoop (wanted : UInt16) (entries : List FileInfo) (visible : UInt16)
    (fat : Fat ν) : (handleListLoop env wanted entries visible fat).2.2.files = fat.files := by
  induction entries generalizing visible fat with
  | nil => rfl
  | cons info rest ih =>
    rw [handleListLoop]
    simp only
    split_ifs
    · rfl
    · rw [ih]
      rfl
    · rfl
    · rw [ih]
      rfl

theorem files_fRead (fil : Option (Fil ν)) (position count : ℕ) (fat : Fat ν) :
    (fRead env fil position count fat).2.2.files = fat.files := by
  unfold fRead
  split_ifs
  · rfl
  · split <;> rfl

variable [DecidableEq ν]

theorem files_fOpen (writing : Option ν) (path : List UInt8) (fat : Fat ν) :
    (fOpen env writing path fat).2.2.files = fat.files := by
  unfold fOpen
  split_ifs
  · rfl
  · split <;> rfl
  · split <;> rfl

/-- The target is gone, or a failure was reported that only says so. -/
theorem unlinkTarget_files (path : List UInt8) (fat : Fat ν) :
    (unlinkTarget env path fat).2.files = fat.files ∨
      (unlinkTarget env path fat).2.files
        = Function.update fat.files (env.name path) none := by
  unfold unlinkTarget fUnlink
  split_ifs
  · exact Or.inl rfl
  · cases fat.files (env.name path) with
    | none => exact Or.inl rfl
    | some content => exact Or.inr rfl

theorem fRename_eq_ok {old new : List UInt8} {fat : Fat ν}
    (h : (fRename env old new fat).1 = .ok) :
    ∃ content, fat.files (env.name old) = some content ∧
      (fRename env old new fat).2.files = Function.update
        (Function.update fat.files (env.name old) none) (env.name new) (some content) := by
  unfold fRename at h ⊢
  by_cases hresult : fat.outcome env ≠ .ok
  · rw [if_pos hresult] at h
    exact absurd h hresult
  · rw [if_neg hresult] at h ⊢
    cases hfile : fat.files (env.name old) with
    | none =>
      simp only [hfile] at h
      cases h
    | some content =>
      simp only [hfile] at h ⊢
      split_ifs at h ⊢
      exact ⟨content, rfl, rfl⟩

/-- A commit whose calls succeed has put the uploaded file in the place of its target. -/
theorem commitCalls_eq_ok {target : List UInt8} {fat : Fat ν} {content : List UInt8}
    (hfile : fat.files (env.name uploadTempPath) = some content)
    (h : (commitCalls env target fat).1 = .ok) :
    (commitCalls env target fat).2.files (env.name target) = some content := by
  unfold commitCalls at h ⊢
  simp only at h ⊢
  obtain ⟨h₃, -, heq₄⟩ := ifOk_eq_ok h
  obtain ⟨h₂, hrename, heq₃⟩ := ifOk_eq_ok h₃
  obtain ⟨h₁, -, heq₂⟩ := ifOk_eq_ok h₂
  obtain ⟨-, -, heq₁⟩ := ifOk_eq_ok h₁
  rw [heq₂, heq₁] at hrename
  rw [heq₄, heq₃, heq₂, heq₁, files_flushDisk]
  obtain ⟨content', hcontent, hfiles⟩ := fRename_eq_ok env hrename
  rw [hfiles, Function.update_self]
  -- the temporary file was there after the removal of the target, so it is the uploaded one
  rcases unlinkTarget_files env target (flushDisk env (closeUpload env fat).2).2 with
    hsame | hremoved
  · rw [hsame, files_flushDisk, files_closeUpload, hfile] at hcontent
    rw [hcontent]
  · rw [hremoved, files_flushDisk, files_closeUpload] at hcontent
    by_cases hname : env.name uploadTempPath = env.name target
    · rw [hname, Function.update_self] at hcontent
      cases hcontent
    · rw [Function.update_of_ne hname, hfile] at hcontent
      rw [hcontent]

theorem fWrite_append {name : ν} {content data : List UInt8} {fat : Fat ν}
    (hfile : fat.files name = some content)
    (hresult : (fWrite env (some ⟨name, content.length⟩) data fat).1 = .ok)
    (hcomplete : (fWrite env (some ⟨name, content.length⟩) data fat).2.1 = data.length) :
    (fWrite env (some ⟨name, content.length⟩) data fat).2.2
        = (some ⟨name, content.length + data.length⟩, { fat.called with
            files := Function.update fat.files name (some (content ++ data)) }) ∧
      (content.length ≤ fatVolumeBytes → content.length + data.length ≤ fatVolumeBytes) := by
  unfold fWrite at hresult hcomplete ⊢
  split_ifs at hresult hcomplete ⊢ with hfailed
  · exact absurd hresult hfailed
  · simp only [hfile] at hcomplete ⊢
    rw [List.length_take] at hcomplete
    rw [List.take_of_length_le (by omega), List.take_length, List.drop_of_length_le (by omega),
      List.append_nil]
    exact ⟨rfl, fun hle => by omega⟩

end

/-! ### Effects -/

/-- The target that a `WRITE_BEGIN` request names. -/
def Message.filesystemTarget (m : Message) : List UInt8 :=
  cString ((m.payload.drop 16).take (m.byte 1).toNat)

/-- The service notes at most the free space, and no file changes. -/
def Flash.OnlyRead (s s' : Flash ν) : Prop :=
  ∃ freeKib calls, s' =
    { service := { s.service with freeKib := freeKib }, fat := { s.fat with calls := calls } }

theorem Flash.OnlyRead.of_files {s : Flash ν} {fat : Fat ν} (hfat : fat.files = s.fat.files) :
    s.OnlyRead { s with fat := fat } := by
  obtain ⟨files, calls⟩ := fat
  obtain rfl : files = s.fat.files := hfat
  exact ⟨s.service.freeKib, calls, rfl⟩

section

variable [DecidableEq ν] (env : FatEnv ν) (request : Message) (s : Flash ν)

/-- What a handled request can do. -/
inductive FlashEffect : HostStatus → Flash ν → Prop
  -- the service notes at most the free space, and no file changes
  | kept (status : HostStatus) (freeKib : UInt32) (calls : ℕ)
      (hstatus : status = .ok → request.byte 0 ≠ filesystemWriteBegin ∧
        request.byte 0 ≠ filesystemWriteData ∧ request.byte 0 ≠ filesystemWriteCommit) :
      FlashEffect status
        { service := { s.service with freeKib := freeKib }, fat := { s.fat with calls := calls } }
  | ended (status : HostStatus) (s' : Flash ν) (hstatus : status ≠ .ok)
      (hopen : s'.service.uploadOpen = false)
      (hreceived : s.service.receivedSize ≤ s.service.expectedSize →
        s'.service.receivedSize ≤ s'.service.expectedSize) :
      FlashEffect status s'
  | begun (s' : Flash ν) (hoperation : request.byte 0 = filesystemWriteBegin)
      (hopen : s'.service.uploadOpen = true)
      (hsize : s'.service.expectedSize = request.word 8)
      (hcrc : s'.service.expectedCrc32 = request.word 12)
      (hreceived : s'.service.receivedSize = 0)
      (hrunning : s'.service.runningCrc32 = 0xFFFFFFFF)
      (htarget : s'.service.targetPath = request.filesystemTarget)
      (hupload : s'.service.upload = some ⟨env.name uploadTempPath, 0⟩)
      (hfile : s'.fat.files (env.name uploadTempPath) = some []) :
      FlashEffect .ok s'
  | written (upload : Option (Fil ν)) (fat : Fat ν)
      (hoperation : request.byte 0 = filesystemWriteData)
      (hopen : s.service.uploadOpen = true)
      (hlength : request.filesystemData.length = (request.half 2).toNat)
      (hsize : s.service.receivedSize + (request.half 2).toUInt32 ≤ s.service.expectedSize)
      (hwrite : fWrite env s.service.upload request.filesystemData s.fat
        = (.ok, request.filesystemData.length, upload, fat)) :
      FlashEffect .ok
        { service := { s.service with
            upload := upload
            runningCrc32 := flashCrc32Update s.service.runningCrc32 request.filesystemData
            receivedSize := s.service.receivedSize + (request.half 2).toUInt32 }
          fat := fat }
  | committed (fat : Fat ν) (hoperation : request.byte 0 = filesystemWriteCommit)
      (hopen : s.service.uploadOpen = true)
      (hreceived : s.service.receivedSize = s.service.expectedSize)
      (hcrc : s.service.runningCrc32 ^^^ 0xFFFFFFFF = s.service.expectedCrc32)
      (hcalls : commitCalls env s.service.targetPath s.fat = (.ok, fat)) :
      FlashEffect .ok
        { service := { s.service with upload := none, uploadOpen := false, transferId := 0 }
          fat := fat }

variable {request}

/-- A request that is neither `WRITE_BEGIN` nor `WRITE_DATA` nor `WRITE_COMMIT`. -/
def Message.Reads (m : Message) : Prop :=
  m.byte 0 ≠ filesystemWriteBegin ∧ m.byte 0 ≠ filesystemWriteData ∧
    m.byte 0 ≠ filesystemWriteCommit

theorem FlashEffect.refused (status : HostStatus) (h : status ≠ .ok) :
    FlashEffect env request s status s :=
  .kept status s.service.freeKib s.fat.calls fun hok => absurd hok h

variable {env s}

theorem FlashEffect.of_onlyRead {status : HostStatus} {s' : Flash ν} (h : s.OnlyRead s')
    (hreads : request.Reads) : FlashEffect env request s status s' := by
  obtain ⟨freeKib, calls, rfl⟩ := h
  exact .kept status freeKib calls fun _ => hreads

variable (env s)

theorem statusFromFatfs_ne_ok {result : FResult} (h : result ≠ .ok) :
    statusFromFatfs result ≠ .ok := by
  cases result <;> first | exact absurd rfl h | decide

/-- The status of a handled request. -/
def handledStatus (reply : Option FilesystemReply) : HostStatus :=
  (reply.getD (.bare .badLength)).status

omit [DecidableEq ν] in
theorem handleList_onlyRead : s.OnlyRead (handleList env request s).2 := by
  unfold handleList
  split_ifs
  · exact .of_files rfl
  · exact .of_files rfl
  · cases validFlashPath (request.payload.drop 4) (request.byte 1) 49 with
    | none => exact .of_files rfl
    | some path =>
      simp only
      split_ifs <;> exact .of_files (by first | rfl | exact files_handleListLoop ..)

omit [DecidableEq ν] in
theorem handleDf_onlyRead : s.OnlyRead (handleDf env request s).2 := by
  unfold handleDf
  split_ifs
  · exact .of_files rfl
  · exact .of_files rfl
  · cases validFlashPath (request.payload.drop 2) (request.byte 1) 51 with
    | none => exact .of_files rfl
    | some path =>
      simp only
      split_ifs
      · exact .of_files rfl
      · exact ⟨_, _, rfl⟩

theorem handleRead_onlyRead : s.OnlyRead (handleRead env request s).2 := by
  unfold handleRead
  split_ifs
  · exact .of_files rfl
  · exact .of_files rfl
  · cases validFlashPath (request.payload.drop 8) (request.byte 1)
      (filesystemReadPathBytes + 1) with
    | none => exact .of_files rfl
    | some path =>
      simp only
      have hopened := files_fOpen env s.service.writing path s.fat
      split_ifs <;>
        exact .of_files (by first | exact hopened | exact (files_fRead ..).trans hopened)

/-- **A request that is no part of an upload only reads.** -/
theorem handleOperation_onlyRead (h : request.Reads) :
    s.OnlyRead (handleOperation env request s).2 := by
  unfold handleOperation
  split_ifs with _ _ _ hbegin hdata hcommit
  · exact handleList_onlyRead env s
  · exact handleDf_onlyRead env s
  · exact handleRead_onlyRead env s
  · exact absurd hbegin h.1
  · exact absurd hdata h.2.1
  · exact absurd hcommit h.2.2
  · exact .of_files rfl

theorem flashStep_onlyRead {record : Record} (h : (Message.ofRecord record).Reads) :
    s.OnlyRead (flashStep env s record) := by
  unfold flashStep flashServiceHandle
  split_ifs
  · exact .of_files rfl
  · exact .of_files rfl
  · exact handleOperation_onlyRead env s h

/-- A path is read only as far as its length says. -/
theorem validFlashPath_take (source : List UInt8) (length : UInt8) (capacity : ℕ) :
    validFlashPath (source.take length.toNat) length capacity
      = validFlashPath source length capacity := by
  simp only [validFlashPath, List.take_take, Nat.min_self]

/-- A request that carries an accepted path behind `n` bytes of fields passes the checks of its
length and of the path. -/
theorem Message.path_checks {request : Message} {path target : List UInt8} {n capacity : ℕ}
    {m : UInt16} (hm : m.toNat = n) (hn : n ≤ 16) (hpath : path.length ≤ 48)
    (hlen : request.length.toNat = n + path.length)
    (hbyte : request.byte 1 = UInt8.ofNat path.length)
    (hdata : (request.payload.drop n).take path.length = path)
    (htarget : validFlashPath path (UInt8.ofNat path.length) capacity = some target) :
    ¬ request.length < m ∧ request.length = m + (request.byte 1).toUInt16 ∧
      validFlashPath (request.payload.drop n) (request.byte 1) capacity = some target := by
  have hpathLen : (UInt8.ofNat path.length).toNat = path.length := Nat.mod_eq_of_lt (by omega)
  refine ⟨?_, UInt16.toNat_inj.mp ?_, ?_⟩
  · rw [UInt16.lt_iff_toNat_lt, hlen, hm]
    omega
  · rw [hlen, hbyte, UInt16.toNat_add, UInt8.toNat_toUInt16, hpathLen, hm]
    omega
  · rw [← validFlashPath_take, hbyte, hpathLen, hdata, htarget]

/-- What is accepted of a path is the C string in it. -/
theorem validFlashPath_eq_some {source path : List UInt8} {length : UInt8} {capacity : ℕ}
    (h : validFlashPath source length capacity = some path) :
    path = cString (source.take length.toNat) := by
  unfold validFlashPath at h
  simp only at h
  split_ifs at h
  exact (Option.some.inj h).symm

theorem fCreate_eq_ok {path : List UInt8} {fat : Fat ν} (h : (fCreate env path fat).1 = .ok) :
    (fCreate env path fat).2 = (some ⟨env.name path, 0⟩, { fat.called with
      files := Function.update fat.files (env.name path) (some []) }) := by
  unfold fCreate at h ⊢
  split_ifs at h ⊢ with hfailed
  · exact absurd h hfailed
  · rfl

theorem handleWriteBegin_effect (h : request.byte 0 = filesystemWriteBegin) :
    FlashEffect env request s (handledStatus (handleWriteBegin env request s).1)
      (handleWriteBegin env request s).2 := by
  unfold handleWriteBegin
  split_ifs
  · exact .refused env s .badLength (by decide)
  · exact .refused env s .badLength (by decide)
  · cases hpath : validFlashPath (request.payload.drop 16) (request.byte 1)
      (filesystemWritePathBytes + 1) with
    | none => exact .refused env s .invalidPath (by decide)
    | some path =>
      simp only
      split_ifs with hresult
      · exact .ended _ _ (statusFromFatfs_ne_ok hresult) rfl fun _ => UInt32.le_refl _
      · have hcreated := fCreate_eq_ok env (Decidable.not_not.mp hresult)
        have hupload := congrArg Prod.fst hcreated
        have hfat := congrArg Prod.snd hcreated
        refine .begun _ h rfl rfl rfl rfl rfl (validFlashPath_eq_some hpath) hupload ?_
        simp [hfat]

theorem Message.length_filesystemData (h : (request.half 2).toNat ≤ filesystemWriteDataBytes) :
    request.filesystemData.length = (request.half 2).toNat := by
  have hpayload := request.length_payload
  unfold filesystemWriteDataBytes at h
  unfold payloadSize at hpayload
  rw [Message.filesystemData, List.length_take, List.length_drop]
  omega

theorem handleWriteData_effect (h : request.byte 0 = filesystemWriteData) :
    FlashEffect env request s (handledStatus (handleWriteData env request s).1)
      (handleWriteData env request s).2 := by
  unfold handleWriteData
  simp only
  by_cases hshort : request.length < 12
  · rw [if_pos hshort]
    exact .refused env s .badLength (by decide)
  rw [if_neg hshort]
  split_ifs with hlength hstate hfailed hresult
  · exact .refused env s .badLength (by decide)
  · exact .refused env s .badState (by decide)
  · exact .ended _ _ (show HostStatus.noSpace ≠ .ok by decide) rfl fun _ => UInt32.le_refl _
  · exact .ended _ _ (statusFromFatfs_ne_ok hresult) rfl fun _ => UInt32.le_refl _
  · simp only [not_or, Nat.not_lt, gt_iff_lt] at hlength
    simp only [not_or, Bool.not_eq_true', Bool.not_eq_false, ne_eq, Decidable.not_not,
      gt_iff_lt, UInt32.not_lt] at hstate
    simp only [not_or, ne_eq, Decidable.not_not] at hfailed
    obtain ⟨hopen, -, hoffset, hsize⟩ := hstate
    rw [hoffset] at hsize
    have hdata := request.length_filesystemData hlength.1
    refine .written _ _ h hopen hdata hsize ?_
    rw [Prod.ext_iff, Prod.ext_iff]
    exact ⟨hfailed.1, hfailed.2.trans hdata.symm, rfl⟩

theorem handleWriteCommit_effect (h : request.byte 0 = filesystemWriteCommit) :
    FlashEffect env request s (handledStatus (handleWriteCommit env request s).1)
      (handleWriteCommit env request s).2 := by
  unfold handleWriteCommit
  simp only
  split_ifs with hlength hstate hcrc hresult
  · exact .refused env s .badLength (by decide)
  · exact .refused env s .badState (by decide)
  · exact .ended _ _ (show HostStatus.badCrc ≠ .ok by decide) rfl fun _ => UInt32.le_refl _
  · exact .ended _ _ (statusFromFatfs_ne_ok hresult) rfl fun hle => hle
  · simp only [not_or, Bool.not_eq_true', Bool.not_eq_false, ne_eq, Decidable.not_not] at hstate
    exact .committed _ h hstate.1 hstate.2.2 (Decidable.not_not.mp hcrc)
      (Prod.ext (Decidable.not_not.mp hresult) rfl)

/-- **What a request does.** -/
theorem handleOperation_effect :
    FlashEffect env request s (handledStatus (handleOperation env request s).1)
      (handleOperation env request s).2 := by
  by_cases hreads : request.Reads
  · exact .of_onlyRead (handleOperation_onlyRead env s hreads) hreads
  simp only [Message.Reads, not_and_or, not_not] at hreads
  unfold handleOperation
  rcases hreads with h | h | h
  · rw [h]
    exact handleWriteBegin_effect env s h
  · rw [h]
    exact handleWriteData_effect env s h
  · rw [h]
    exact handleWriteCommit_effect env s h

end

/-! ### The history of an upload -/

/-- What the last accepted `WRITE_BEGIN` announced, and the data accepted since. -/
structure FlashUpload where
  target : List UInt8
  size : UInt32
  crc32 : UInt32
  accepted : List UInt8
  deriving DecidableEq, Repr

/-- The service with the history of its upload. -/
structure FlashTrace (ν : Type) where
  flash : Flash ν
  upload : Option FlashUpload

section

variable [DecidableEq ν] (env : FatEnv ν)

def FlashAccepts (s : Flash ν) (record : Record) : Prop :=
  ∃ reply, flashReply env s record = some reply ∧ reply.status = HostStatus.ok.code

instance (s : Flash ν) (record : Record) : Decidable (FlashAccepts env s record) :=
  match h : flashReply env s record with
  | none => isFalse fun ⟨_, hreply, _⟩ => by rw [h] at hreply; cases hreply
  | some reply =>
    decidable_of_iff (reply.status = HostStatus.ok.code)
      ⟨fun hok => ⟨reply, h, hok⟩, fun ⟨_, hreply, hok⟩ => by
        rw [h] at hreply
        cases hreply
        exact hok⟩

/-- The history after a record: an accepted `WRITE_BEGIN` starts it again, and an accepted
`WRITE_DATA` extends it. -/
def FlashTrace.step (t : FlashTrace ν) (record : Record) : FlashTrace ν where
  flash := flashStep env t.flash record
  upload :=
    let request := Message.ofRecord record
    if FlashAccepts env t.flash record ∧ request.byte 0 = filesystemWriteBegin then
      some
        { target := request.filesystemTarget
          size := request.word 8
          crc32 := request.word 12
          accepted := [] }
    else if FlashAccepts env t.flash record ∧ request.byte 0 = filesystemWriteData then
      t.upload.map fun u => { u with accepted := u.accepted ++ request.filesystemData }
    else t.upload

/-- What an open upload is: the temporary file holds the accepted data, and the service counts
them. -/
structure Flash.Open (s : Flash ν) (u : FlashUpload) : Prop where
  target : s.service.targetPath = u.target
  size : s.service.expectedSize = u.size
  crc32 : s.service.expectedCrc32 = u.crc32
  received : s.service.receivedSize.toNat = u.accepted.length
  running : s.service.runningCrc32 = flashCrc32Update 0xFFFFFFFF u.accepted
  upload : s.service.upload = some ⟨env.name uploadTempPath, u.accepted.length⟩
  file : s.fat.files (env.name uploadTempPath) = some u.accepted
  volume : u.accepted.length ≤ fatVolumeBytes

/-- The invariant of every run. -/
structure FlashTrace.Inv (t : FlashTrace ν) : Prop where
  received_le : t.flash.service.receivedSize ≤ t.flash.service.expectedSize
  opened : t.flash.service.uploadOpen = true → ∃ u, t.upload = some u ∧ t.flash.Open env u

/-- A record has an effect, and is answered `OK` when the effect says so. -/
theorem flashStep_effect (s : Flash ν) (record : Record) :
    ∃ status, FlashEffect env (Message.ofRecord record) s status (flashStep env s record) ∧
      (FlashAccepts env s record ↔ status = .ok) := by
  unfold FlashAccepts flashReply flashStep flashServiceHandle
  split_ifs
  · refine ⟨.badVersion, .refused env s .badVersion (by decide), ?_⟩
    simp
  · refine ⟨.serviceUnavailable, .refused env s .serviceUnavailable (by decide), ?_⟩
    simp [filesystemReply, Message.reply, HostStatus.code_eq_ok, FilesystemReply.bare]
  · refine ⟨_, handleOperation_effect env s, ?_⟩
    simp [filesystemReply, Message.reply, HostStatus.code_eq_ok, handledStatus]

variable {env}

/-- The register of the service is the complement of the checksum. -/
theorem flashCrc32Update_xor (data : List UInt8) :
    flashCrc32Update 0xFFFFFFFF data ^^^ 0xFFFFFFFF = crc32 data := by
  rw [crc32_eq, flashCrc32Update]
  exact UInt32.xor_neg_one

/-- **Both running checksums are CRC-32** of all the chunks they were fed: the one of the workload
manager, which starts from 0, and the one of the flash service, which starts from the all-ones
register and is complemented at the end. -/
theorem incremental_crc32 (chunks : List (List UInt8)) :
    chunks.foldl crc32Update 0 = crc32 chunks.flatten ∧
      chunks.foldl flashCrc32Update 0xFFFFFFFF ^^^ 0xFFFFFFFF = crc32 chunks.flatten := by
  constructor
  · have h := foldl_crc32Update [] chunks
    rwa [crc32_nil, List.nil_append] at h
  · have h : chunks.foldl flashCrc32Update 0xFFFFFFFF
        = flashCrc32Update 0xFFFFFFFF chunks.flatten := List.foldl_flatten.symm
    rw [h, flashCrc32Update_xor]

theorem Flash.Open.written {s : Flash ν} {u : FlashUpload} (hs : s.Open env u)
    {upload : Option (Fil ν)} {fat : Fat ν} {data : List UInt8} {length : UInt16}
    (hlength : data.length = length.toNat)
    (hwrite : fWrite env s.service.upload data s.fat = (.ok, data.length, upload, fat)) :
    Flash.Open env
      { service := { s.service with
          upload := upload
          runningCrc32 := flashCrc32Update s.service.runningCrc32 data
          receivedSize := s.service.receivedSize + length.toUInt32 }
        fat := fat }
      { u with accepted := u.accepted ++ data } := by
  rw [hs.upload] at hwrite
  obtain ⟨hdone, hvolume⟩ := fWrite_append env hs.file (congrArg Prod.fst hwrite)
    (congrArg (fun r => r.2.1) hwrite)
  rw [hwrite, Prod.mk.injEq] at hdone
  obtain ⟨rfl, rfl⟩ := hdone
  have hbound := hvolume hs.volume
  refine ⟨hs.target, hs.size, hs.crc32, ?_, ?_, ?_, ?_, ?_⟩
  · -- the volume is far smaller than the range of the counter
    unfold fatVolumeBytes at hbound
    have hreceived := hs.received
    simp only [UInt32.toNat_add, UInt16.toNat_toUInt32, List.length_append]
    omega
  · rw [hs.running, flashCrc32Update, flashCrc32Update, flashCrc32Update, List.foldl_append]
  · rw [List.length_append]
  · exact Function.update_self ..
  · rwa [List.length_append]

/-- An accepted commit finds its upload open and complete, and leaves it in its target. -/
theorem FlashTrace.Inv.committed {t : FlashTrace ν} (ht : t.Inv env) {record : Record}
    (hoperation : (Message.ofRecord record).byte 0 = filesystemWriteCommit)
    (haccepts : FlashAccepts env t.flash record) :
    ∃ u, t.upload = some u ∧
      (flashStep env t.flash record).fat.files (env.name u.target) = some u.accepted ∧
      u.accepted.length = u.size.toNat ∧ crc32 u.accepted = u.crc32 := by
  obtain ⟨status, heffect, hstatus⟩ := flashStep_effect env t.flash record
  generalize flashStep env t.flash record = s' at heffect ⊢
  cases heffect with
  | kept _ _ _ hreads => exact absurd hoperation (hreads (hstatus.mp haccepts)).2.2
  | ended _ _ hfailed => exact absurd (hstatus.mp haccepts) hfailed
  | begun _ hbegin => rw [hbegin] at hoperation; cases hoperation
  | written _ _ hdata => rw [hdata] at hoperation; cases hoperation
  | committed fat _ hopen hreceived hcrc hcalls =>
    obtain ⟨u, hu, hopened⟩ := ht.opened hopen
    refine ⟨u, hu, ?_, ?_, ?_⟩
    · have hfile := commitCalls_eq_ok env hopened.file (congrArg Prod.fst hcalls)
      rw [hcalls, hopened.target] at hfile
      exact hfile
    · rw [← hopened.size, ← hreceived, hopened.received]
    · rw [← hopened.crc32, ← hcrc, hopened.running, flashCrc32Update_xor]

theorem FlashTrace.inv_step {t : FlashTrace ν} (ht : t.Inv env) (record : Record) :
    (t.step env record).Inv env := by
  obtain ⟨status, heffect, hstatus⟩ := flashStep_effect env t.flash record
  unfold FlashTrace.step
  simp only [hstatus]
  generalize flashStep env t.flash record = s' at heffect ⊢
  cases heffect with
  -- a request that keeps the upload is neither a `WRITE_BEGIN` nor a `WRITE_DATA` that was `OK`
  | kept _ _ _ hreads =>
    rw [if_neg fun h => (hreads h.1).1 h.2, if_neg fun h => (hreads h.1).2.1 h.2]
    refine ⟨ht.received_le, fun hopen => ?_⟩
    obtain ⟨u, hu, hopened⟩ := ht.opened hopen
    exact ⟨u, hu, { hopened with }⟩
  | ended _ _ hfailed hclosed hreceived =>
    exact ⟨hreceived ht.received_le, fun hopen => by rw [hclosed] at hopen; cases hopen⟩
  | begun _ hbegin hopen hsize hcrc hreceived hrunning htarget hupload hfile =>
    rw [if_pos ⟨rfl, hbegin⟩]
    refine ⟨by rw [hreceived]; exact UInt32.zero_le, fun _ => ⟨_, rfl, ?_⟩⟩
    exact ⟨htarget, hsize, hcrc, by rw [hreceived]; rfl, hrunning, hupload, hfile, Nat.zero_le _⟩
  | written upload fat hdata hopen hlength hsize hwrite =>
    have hnot : ¬ (HostStatus.ok = .ok ∧
        (Message.ofRecord record).byte 0 = filesystemWriteBegin) := by
      rw [hdata]
      decide
    rw [if_neg hnot, if_pos ⟨rfl, hdata⟩]
    obtain ⟨u, hu, hopened⟩ := ht.opened hopen
    refine ⟨hsize, fun _ => ⟨_, by rw [hu]; rfl, ?_⟩⟩
    exact hopened.written hlength hwrite
  | committed fat =>
    exact ⟨ht.received_le, fun hopen => by cases hopen⟩

end

end Rp86
