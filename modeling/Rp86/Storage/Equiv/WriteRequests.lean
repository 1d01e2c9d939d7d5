import Rp86.Lib.ChunkedWrite
import Rp86.Storage.Equiv.FlashService

/-!
# Writing a file when nothing fails

The requests of an upload on a file system on which every call succeeds: `WRITE_BEGIN` opens the
upload, `WRITE_DATA` at its end extends it, and `WRITE_COMMIT` of the complete upload moves the
temporary file to the target.  No other file changes.
-/

namespace Rp86

open Lib

/-! ### Requests -/

def writeBeginRequest (sequence : UInt32) (path : List UInt8) (transferId size crc32 : ℕ) :
    Message :=
  Message.request typeFilesystemRequest sequence
    ([filesystemWriteBegin, UInt8.ofNat path.length, 0, 0] ++
      (leBytes 4 transferId ++ (leBytes 4 size ++ (leBytes 4 crc32 ++ path))))

def writeDataRequest (sequence : UInt32) (transferId : ℕ) (w : ByteWrite) : Message :=
  Message.request typeFilesystemRequest sequence
    ([filesystemWriteData, 0] ++
      (leBytes 2 w.2.length ++ (leBytes 4 transferId ++ (leBytes 4 w.1 ++ w.2))))

def writeCommitRequest (sequence : UInt32) (transferId : ℕ) : Message :=
  Message.request typeFilesystemRequest sequence
    ([filesystemWriteCommit, 0, 0, 0] ++ leBytes 4 transferId)

section

variable {sequence : UInt32} {transferId : ℕ}

theorem writeBeginRequest_fields {path : List UInt8} {size crc32 : ℕ}
    (hpath : path.length ≤ filesystemWritePathBytes) :
    let request := writeBeginRequest sequence path transferId size crc32
    request.length.toNat = 16 + path.length ∧ request.byte 0 = filesystemWriteBegin ∧
      request.byte 1 = UInt8.ofNat path.length ∧ request.word 4 = UInt32.ofNat transferId ∧
      request.word 8 = UInt32.ofNat size ∧ request.word 12 = UInt32.ofNat crc32 ∧
      (request.payload.drop 16).take path.length = path := by
  intro request
  have h36 : filesystemWritePathBytes = 36 := rfl
  have h52 : payloadSize = 52 := rfl
  have hlen : ([filesystemWriteBegin, UInt8.ofNat path.length, 0, 0] ++ (leBytes 4 transferId ++
      (leBytes 4 size ++ (leBytes 4 crc32 ++ path)))).length = 16 + path.length := by
    simp only [List.length_append, length_leBytes, List.length_cons, List.length_nil]
    omega
  have hfits := hlen.trans_le (show 16 + path.length ≤ payloadSize by omega)
  refine ⟨(Message.request_length hfits).trans hlen, Message.request_getD hfits (by omega),
    Message.request_getD hfits (by omega), (Message.request_word hfits (by omega)).trans ?_,
    (Message.request_word hfits (by omega)).trans ?_,
    (Message.request_word hfits (by omega)).trans ?_,
    (Message.request_slice hfits (by omega)).trans ?_⟩
  · simp [le32_cons, le32_leBytes]
  · simp [le32_cons, le32_append_of_le, le32_leBytes]
  · simp [le32_cons, le32_append_of_le, le32_leBytes]
  · simp [List.drop_append, List.drop_of_length_le]

theorem writeDataRequest_fields {w : ByteWrite} (hlength : w.2.length ≤ filesystemWriteDataBytes) :
    let request := writeDataRequest sequence transferId w
    request.length.toNat = 12 + w.2.length ∧ request.byte 0 = filesystemWriteData ∧
      request.half 2 = UInt16.ofNat w.2.length ∧ request.word 4 = UInt32.ofNat transferId ∧
      request.word 8 = UInt32.ofNat w.1 ∧ request.filesystemData = w.2 := by
  intro request
  have h40 : filesystemWriteDataBytes = 40 := rfl
  have h52 : payloadSize = 52 := rfl
  have hlen : ([filesystemWriteData, 0] ++ (leBytes 2 w.2.length ++ (leBytes 4 transferId ++
      (leBytes 4 w.1 ++ w.2)))).length = 12 + w.2.length := by
    simp only [List.length_append, length_leBytes, List.length_cons, List.length_nil]
    omega
  have hfits := hlen.trans_le (show 12 + w.2.length ≤ payloadSize by omega)
  have hhalf : (writeDataRequest sequence transferId w).half 2 = UInt16.ofNat w.2.length := by
    refine (Message.request_le16 hfits (by omega)).trans ?_
    simp [le16_cons, le16_leBytes]
  refine ⟨(Message.request_length hfits).trans hlen, Message.request_getD hfits (by omega), hhalf,
    (Message.request_word hfits (by omega)).trans ?_,
    (Message.request_word hfits (by omega)).trans ?_, ?_⟩
  · simp [le32_cons, le32_append_of_le, le32_leBytes]
  · simp [le32_cons, le32_append_of_le, le32_leBytes]
  · have hnat : (UInt16.ofNat w.2.length).toNat = w.2.length := Nat.mod_eq_of_lt (by omega)
    rw [Message.filesystemData, hhalf, hnat]
    refine (Message.request_slice hfits (by omega)).trans ?_
    simp [List.drop_append, List.drop_of_length_le]

theorem writeCommitRequest_fields :
    (writeCommitRequest sequence transferId).length = 8 ∧
      (writeCommitRequest sequence transferId).byte 0 = filesystemWriteCommit ∧
      (writeCommitRequest sequence transferId).word 4 = UInt32.ofNat transferId := by
  have hlen : ([filesystemWriteCommit, 0, 0, 0] ++ leBytes 4 transferId).length = 8 := by
    rw [List.length_append, length_leBytes]
    rfl
  have hfits := hlen.trans_le (show 8 ≤ payloadSize by decide)
  refine ⟨UInt16.toNat_inj.mp ((Message.request_length hfits).trans hlen),
    Message.request_getD hfits (by omega), (Message.request_word hfits (by omega)).trans ?_⟩
  simp [le32_cons, le32_leBytes_nil]

end

/-! ### Calls that succeed -/

variable {ν : Type} [DecidableEq ν] {env : FatEnv ν}

/-- Every call succeeds, and every write of a record's data is complete. -/
structure FatEnv.Succeeds (env : FatEnv ν) : Prop where
  result : ∀ n, env.result n = .ok
  room : ∀ n, filesystemWriteDataBytes ≤ env.room n

section

variable (henv : env.Succeeds)

include henv

theorem FatEnv.Succeeds.fUnlink_files (path : List UInt8) (fat : Fat ν) :
    (fUnlink env path fat).2.files = Function.update fat.files (env.name path) none := by
  have hok : ¬ fat.outcome env ≠ .ok := fun h => h (henv.result _)
  rw [fUnlink, if_neg hok]
  cases hfile : fat.files (env.name path) with
  | none => exact (Function.update_eq_self_iff.mpr hfile.symm).symm
  | some content => rfl

theorem FatEnv.Succeeds.fWrite_eq {name : ν} {content data : List UInt8} {fat : Fat ν}
    (hfile : fat.files name = some content) (hdata : data.length ≤ filesystemWriteDataBytes)
    (hvolume : content.length + data.length ≤ fatVolumeBytes) :
    fWrite env (some ⟨name, content.length⟩) data fat
      = (.ok, data.length, some ⟨name, content.length + data.length⟩, { fat.called with
          files := Function.update fat.files name (some (content ++ data)) }) := by
  have hok : ¬ fat.outcome env ≠ .ok := fun h => h (henv.result _)
  have hroom := henv.room fat.calls
  rw [fWrite, if_neg hok]
  simp only [hfile]
  rw [List.take_of_length_le (by omega), List.take_length, List.drop_of_length_le (by omega),
    List.append_nil]

theorem FatEnv.Succeeds.unlinkTarget_eq (path : List UInt8) (fat : Fat ν) :
    (unlinkTarget env path fat).1 = .ok ∧
      (unlinkTarget env path fat).2.files = Function.update fat.files (env.name path) none := by
  refine ⟨?_, henv.fUnlink_files path fat⟩
  have hok : ¬ fat.outcome env ≠ .ok := fun h => h (henv.result _)
  rw [unlinkTarget, fUnlink, if_neg hok]
  cases fat.files (env.name path) <;> rfl

theorem FatEnv.Succeeds.fRename_eq {old new content : List UInt8} {fat : Fat ν}
    (hold : fat.files (env.name old) = some content) (hnew : fat.files (env.name new) = none) :
    (fRename env old new fat).1 = .ok ∧
      (fRename env old new fat).2.files = Function.update
        (Function.update fat.files (env.name old) none) (env.name new) (some content) := by
  have hok : ¬ fat.outcome env ≠ .ok := fun h => h (henv.result _)
  rw [fRename, if_neg hok]
  simp [hold, hnew]

theorem FatEnv.Succeeds.commitCalls_eq {target content : List UInt8} {fat : Fat ν}
    (hfile : fat.files (env.name uploadTempPath) = some content)
    (hname : env.name target ≠ env.name uploadTempPath) :
    (commitCalls env target fat).1 = .ok ∧
      (commitCalls env target fat).2.files = Function.update
        (Function.update (Function.update fat.files (env.name target) none)
          (env.name uploadTempPath) none) (env.name target) (some content) := by
  have hquiet : ∀ fat, (fQuiet env fat).1 = .ok := fun fat => henv.result _
  have hclose : (closeUpload env fat).1 = .ok := by
    simp only [closeUpload, hquiet, if_pos]
  have hflush : ∀ fat, (flushDisk env fat).1 = .ok := fun fat => by
    simp only [flushDisk, hquiet, if_pos]
  set flushed := (flushDisk env (closeUpload env fat).2).2 with hflushed
  obtain ⟨hunlink, hunlinked⟩ := henv.unlinkTarget_eq target flushed
  have hfiles : flushed.files = fat.files := rfl
  rw [hfiles] at hunlinked
  obtain ⟨hrename, hrenamed⟩ := @FatEnv.Succeeds.fRename_eq _ _ env henv uploadTempPath target
    content (unlinkTarget env target flushed).2
    (by rw [hunlinked, Function.update_of_ne hname.symm, hfile])
    (by rw [hunlinked, Function.update_self])
  unfold commitCalls
  simp only
  rw [ifOk_of_ok hclose, ifOk_of_ok (hflush _), ← hflushed, ifOk_of_ok hunlink,
    ifOk_of_ok hrename, files_flushDisk, hrenamed, hunlinked]
  exact ⟨hflush _, rfl⟩

end

/-! ### Steps of an upload -/

/-- An open upload under a transfer id, with every other file as it was. -/
structure Flash.Uploads (env : FatEnv ν) (files : ν → Option (List UInt8)) (transferId : UInt32)
    (u : FlashUpload) (s : Flash ν) : Prop extends s.Open env u where
  available : s.service.available = true
  uploadOpen : s.service.uploadOpen = true
  transferId_eq : s.service.transferId = transferId
  files_eq : ∀ name, name ≠ env.name uploadTempPath → s.fat.files name = files name

section

variable {s : Flash ν}

theorem flashStep_of_request {sequence : UInt32} {data : List UInt8} {request : Message}
    (hrequest : request = Message.request typeFilesystemRequest sequence data)
    (hlength : request.length ≠ 0) (havailable : s.service.available = true) :
    flashStep env s request.toRecord = (handleOperation env request s).2 ∧
      (FlashAccepts env s request.toRecord ↔
        handledStatus (handleOperation env request s).1 = .ok) := by
  have hheader : ¬ (request.version ≠ hostProtocolVersion ∨ request.type ≠ typeFilesystemRequest ∨
      request.status ≠ HostStatus.ok.code ∨ request.length = 0) := by
    simp only [not_or]
    rw [hrequest] at hlength ⊢
    exact ⟨fun h => h rfl, fun h => h rfl, fun h => h rfl, hlength⟩
  unfold FlashAccepts flashReply flashStep flashServiceHandle
  rw [Message.ofRecord_toRecord, if_neg hheader, if_neg (by rw [havailable]; decide)]
  refine ⟨rfl, ?_⟩
  simp [filesystemReply, Message.reply, HostStatus.code_eq_ok, handledStatus]

theorem files_abortUpload (henv : env.Succeeds) (s : Flash ν) :
    (abortUpload env s).fat.files
      = Function.update s.fat.files (env.name uploadTempPath) none := by
  rw [abortUpload]
  simp only [henv.fUnlink_files]
  split_ifs <;> rfl

/-- `WRITE_BEGIN` opens the upload. -/
theorem FatEnv.Succeeds.writeBegin (henv : env.Succeeds) (havailable : s.service.available = true)
    {sequence : UInt32} {path target : List UInt8} {transferId size crc32 : ℕ}
    (hlength : path.length ≤ filesystemWritePathBytes)
    (hpath : validFlashPath path (UInt8.ofNat path.length) (filesystemWritePathBytes + 1)
      = some target) :
    FlashAccepts env s (writeBeginRequest sequence path transferId size crc32).toRecord ∧
      (flashStep env s (writeBeginRequest sequence path transferId size crc32).toRecord).Uploads
        env s.fat.files (UInt32.ofNat transferId)
        { target := target
          size := UInt32.ofNat size
          crc32 := UInt32.ofNat crc32
          accepted := [] } := by
  obtain ⟨hlen, hoperation, hbyte, htransfer, hsize, hcrc, hdata⟩ :=
    @writeBeginRequest_fields sequence transferId path size crc32 hlength
  set request := writeBeginRequest sequence path transferId size crc32 with hrequest
  obtain ⟨h₁, h₂, hvalid⟩ := Message.path_checks (n := 16) (m := 16) rfl (by decide)
    (hlength.trans (by decide)) hlen hbyte hdata hpath
  have hcreate : (fCreate env uploadTempPath (abortUpload env s).fat)
      = (.ok, some ⟨env.name uploadTempPath, 0⟩, { (abortUpload env s).fat.called with
          files := Function.update (abortUpload env s).fat.files (env.name uploadTempPath)
            (some []) }) :=
    if_neg fun h => h (henv.result _)
  obtain ⟨hstep, haccepts⟩ := flashStep_of_request hrequest (fun h => by
    rw [h] at h₁
    exact h₁ (by decide)) havailable
  have hhandle : handleOperation env request s = handleWriteBegin env request s := by
    rw [handleOperation, hoperation]
    rfl
  rw [haccepts, hstep, hhandle, handleWriteBegin, if_neg h₁, if_neg fun h => h h₂, hvalid]
  simp only [hcreate]
  rw [if_neg fun h => h rfl]
  refine ⟨rfl, ⟨⟨rfl, hsize, hcrc, rfl, rfl, rfl, Function.update_self .., Nat.zero_le _⟩,
    havailable, rfl, htransfer, fun name hname => ?_⟩⟩
  simp only [files_abortUpload henv, Function.update_of_ne hname]

variable {files : ν → Option (List UInt8)} {transferId : ℕ} {u : FlashUpload}

/-- `WRITE_DATA` at the end of the upload extends it. -/
theorem Flash.Uploads.writeData (hs : s.Uploads env files (UInt32.ofNat transferId) u)
    (henv : env.Succeeds) {sequence : UInt32} {chunk : List UInt8}
    (hlength : chunk.length ≤ filesystemWriteDataBytes)
    (hsize : u.accepted.length + chunk.length ≤ u.size.toNat)
    (hvolume : u.accepted.length + chunk.length ≤ fatVolumeBytes) :
    FlashAccepts env s
        (writeDataRequest sequence transferId (u.accepted.length, chunk)).toRecord ∧
      (flashStep env s
          (writeDataRequest sequence transferId (u.accepted.length, chunk)).toRecord).Uploads
        env files (UInt32.ofNat transferId) { u with accepted := u.accepted ++ chunk } := by
  obtain ⟨hlen, hoperation, hhalf, htransfer, hoffset, hdata⟩ :=
    @writeDataRequest_fields sequence transferId (u.accepted.length, chunk) hlength
  have h40 : filesystemWriteDataBytes = 40 := rfl
  have hchunkLen : (UInt16.ofNat chunk.length).toNat = chunk.length := Nat.mod_eq_of_lt (by omega)
  set request := writeDataRequest sequence transferId (u.accepted.length, chunk) with hrequest
  have h12 : (12 : UInt16).toNat = 12 := rfl
  -- the three checks of the handler: the fields, the length, and the place in the upload
  have h₁ : ¬ request.length < 12 := by
    rw [UInt16.lt_iff_toNat_lt, hlen]
    exact Nat.not_lt.mpr (Nat.le_add_right ..)
  have h₂ : ¬ ((request.half 2).toNat > filesystemWriteDataBytes ∨
      request.length ≠ 12 + request.half 2) := by
    rw [hhalf, hchunkLen]
    refine fun h => h.elim (Nat.not_lt.mpr hlength) fun h => h (UInt16.toNat_inj.mp ?_)
    rw [hlen, UInt16.toNat_add, hchunkLen, h12]
    simp only
    omega
  have hreceived : UInt32.ofNat u.accepted.length = s.service.receivedSize := by
    rw [← hs.received, UInt32.ofNat_toNat]
  have h₃ : ¬ (!s.service.uploadOpen ∨ request.word 4 ≠ s.service.transferId ∨
      request.word 8 ≠ s.service.receivedSize ∨
      request.word 8 + (request.half 2).toUInt32 > s.service.expectedSize) := by
    rw [hs.uploadOpen, htransfer, hs.transferId_eq, hoffset, hreceived, hhalf, hs.size]
    simp only [Bool.not_true, Bool.false_eq_true, ne_eq, not_true_eq_false, false_or, gt_iff_lt,
      UInt32.not_lt, UInt32.le_iff_toNat_le, UInt32.toNat_add, UInt16.toNat_toUInt32, hchunkLen,
      hs.received]
    omega
  have hwrite := henv.fWrite_eq hs.file hlength hvolume
  rw [← hs.upload] at hwrite
  obtain ⟨hstep, haccepts⟩ := flashStep_of_request hrequest (fun h => by
    rw [h] at h₁
    exact h₁ (by decide)) hs.available
  have hhandle : handleOperation env request s = handleWriteData env request s := by
    rw [handleOperation, hoperation]
    rfl
  rw [haccepts, hstep, hhandle, handleWriteData, if_neg h₁]
  simp only [if_neg h₂, if_neg h₃]
  simp only [hdata, hwrite, hhalf]
  rw [if_neg fun h => h.elim (fun h => h rfl) fun h => h hchunkLen.symm]
  refine ⟨rfl, ⟨hs.toOpen.written hchunkLen.symm hwrite, hs.available, hs.uploadOpen,
    hs.transferId_eq, fun name hname => ?_⟩⟩
  simp only [Function.update_of_ne hname]
  exact hs.files_eq name hname

/-- `WRITE_COMMIT` of the complete upload moves it to its target. -/
theorem Flash.Uploads.writeCommit (hs : s.Uploads env files (UInt32.ofNat transferId) u)
    (henv : env.Succeeds) (sequence : UInt32)
    (hname : env.name u.target ≠ env.name uploadTempPath)
    (hsize : u.accepted.length = u.size.toNat) (hcrc : crc32 u.accepted = u.crc32) :
    FlashAccepts env s (writeCommitRequest sequence transferId).toRecord ∧
      (flashStep env s (writeCommitRequest sequence transferId).toRecord).fat.files
        = Function.update (Function.update files (env.name uploadTempPath) none)
          (env.name u.target) (some u.accepted) := by
  obtain ⟨hlen, hoperation, htransfer⟩ := @writeCommitRequest_fields sequence transferId
  set request := writeCommitRequest sequence transferId with hrequest
  -- the checks of the handler: the length, the upload and its size, and the checksum
  have h₁ : ¬ request.length ≠ 8 := fun h => h hlen
  have h₂ : ¬ (!s.service.uploadOpen ∨ request.word 4 ≠ s.service.transferId ∨
      s.service.receivedSize ≠ s.service.expectedSize) := by
    have hreceived : s.service.receivedSize = s.service.expectedSize := by
      rw [hs.size]
      exact UInt32.toNat_inj.mp (hs.received.trans hsize)
    rw [hs.uploadOpen, htransfer, hs.transferId_eq, hreceived]
    simp
  have h₃ : ¬ s.service.runningCrc32 ^^^ 0xFFFFFFFF ≠ s.service.expectedCrc32 := by
    rw [hs.running, flashCrc32Update_xor, hs.crc32]
    exact fun h => h hcrc
  obtain ⟨hok, hfiles⟩ := henv.commitCalls_eq hs.file hname
  obtain ⟨hstep, haccepts⟩ := flashStep_of_request hrequest (fun h => by
    rw [h] at hlen
    cases hlen) hs.available
  have hhandle : handleOperation env request s = handleWriteCommit env request s := by
    rw [handleOperation, hoperation]
    rfl
  rw [haccepts, hstep, hhandle, handleWriteCommit, if_neg h₁]
  simp only [if_neg h₂, if_neg h₃, hs.target]
  rw [if_neg fun h => h hok]
  refine ⟨rfl, ?_⟩
  simp only [hfiles]
  -- the target has the data, the temporary file is gone, other files are as before
  funext name
  by_cases htarget : name = env.name u.target
  · rw [htarget, Function.update_self, Function.update_self]
  · rw [Function.update_of_ne htarget, Function.update_of_ne htarget]
    by_cases htemp : name = env.name uploadTempPath
    · rw [htemp, Function.update_self, Function.update_self]
    · rw [Function.update_of_ne htemp, Function.update_of_ne htarget, Function.update_of_ne htemp]
      exact hs.files_eq name htemp

end

end Rp86
