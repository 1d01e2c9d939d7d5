import Rp86.HostProtocol.Message
import Rp86.Lib.Lines
import Rp86.Storage.FatFs
import Rp86.Storage.FlashDisk
import Rp86.Workload.Crc32

/-!
# Flash service

`storage/flash_service.c`: the Host's file requests.  A file is uploaded into a temporary file and
takes the place of its target at the commit.  A handler returns no reply fields when it rejects the
length of the record, which the caller answers with `BAD_LENGTH`.
-/

namespace Rp86

open Lib

/-- `RP86_HOST_PROTOCOL_MESSAGE_FILESYSTEM_RESULT`. -/
def typeFilesystemResult : UInt8 := 0x41
def filesystemList : UInt8 := 1
def filesystemDf : UInt8 := 2
def filesystemRead : UInt8 := 3
def filesystemWriteBegin : UInt8 := 4
def filesystemWriteData : UInt8 := 5
def filesystemWriteCommit : UInt8 := 6
def filesystemFlagEof : UInt8 := 1
def filesystemFlagDirectory : UInt8 := 2
def filesystemFlagTruncated : UInt8 := 4
def filesystemReadDataBytes : ℕ := 40
def filesystemWriteDataBytes : ℕ := 40
def filesystemListNameBytes : ℕ := 42
def filesystemReadPathBytes : ℕ := 44
def filesystemWritePathBytes : ℕ := 36
def amDir : UInt8 := 0x10

/-- `"flash:"`. -/
def flashPathStart : List UInt8 := [0x66, 0x6C, 0x61, 0x73, 0x68, 0x3A]
/-- `"PI86UPLD.TMP"`. -/
def uploadTempName : List UInt8 :=
  [0x50, 0x49, 0x38, 0x36, 0x55, 0x50, 0x4C, 0x44, 0x2E, 0x54, 0x4D, 0x50]
/-- `RP86_UPLOAD_TEMP_PATH`, `"flash:/PI86UPLD.TMP"`. -/
def uploadTempPath : List UInt8 := flashPathStart ++ [0x2F] ++ uploadTempName

/-- `crc32_update` of the flash service, which works on the register itself. -/
def flashCrc32Update (crc : UInt32) (data : List UInt8) : UInt32 := data.foldl crc32Byte crc

def statusFromFatfs : FResult → HostStatus
  | .ok => .ok
  | .noFile | .noPath => .notFound
  | .invalidName | .invalidParameter => .invalidPath
  | .denied | .exist => .noSpace
  | .notReady | .invalidDrive | .notEnabled | .noFilesystem => .serviceUnavailable
  | _ => .ioError

/-! ### Paths -/

/-- The path from its first segment on. -/
def firstSegment (rest : List UInt8) : List UInt8 := rest.dropWhile (· = 0x2F)

/-- What is left of a path behind its first segment. -/
def afterSegment (rest : List UInt8) : List UInt8 := (firstSegment rest).dropWhile (· ≠ 0x2F)

theorem length_afterSegment_lt {rest : List UInt8} (h : rest ≠ []) :
    (afterSegment rest).length < rest.length := by
  obtain ⟨c, tail, rfl⟩ := List.exists_cons_of_ne_nil h
  unfold afterSegment firstSegment
  by_cases hc : c = 0x2F
  · rw [List.dropWhile_cons_of_pos (by simp [hc]), List.length_cons]
    have h₁ := (List.dropWhile_suffix (fun x : UInt8 => decide (x = 0x2F)) (l := tail)).length_le
    have h₂ := (List.dropWhile_suffix (fun x : UInt8 => decide (x ≠ 0x2F))
      (l := tail.dropWhile fun x => decide (x = 0x2F))).length_le
    omega
  · rw [List.dropWhile_cons_of_neg (by simp [hc]), List.dropWhile_cons_of_pos (by simp [hc]),
      List.length_cons]
    have h₂ := (List.dropWhile_suffix (fun x : UInt8 => decide (x ≠ 0x2F)) (l := tail)).length_le
    omega

/-- The loop over the segments of a path: none is `.` or `..` or has a control character. -/
def segmentsValid (rest : List UInt8) : Bool :=
  if rest = [] then true
  else
    let segment := (firstSegment rest).takeWhile (· ≠ 0x2F)
    if segment = [0x2E] ∨ segment = [0x2E, 0x2E] then false
    else if segment.any (· < 0x20) then false
    else segmentsValid (afterSegment rest)
termination_by rest.length
decreasing_by exact length_afterSegment_lt ‹_›

/-- `valid_flash_path`: the C string that is left in the destination, when the path is accepted. -/
def validFlashPath (source : List UInt8) (length : UInt8) (capacity : ℕ) : Option (List UInt8) :=
  let bytes := source.take length.toNat
  if length < 6 ∨ length.toNat ≥ capacity then none
  else if bytes.take 6 ≠ flashPathStart then none
  else if length > 6 ∧ bytes.getD 6 0 ≠ 0x2F then none
  else
    let destination := cString bytes
    if 0x5C ∈ destination then none
    else if !segmentsValid (destination.drop 6) then none
    else if destination = uploadTempPath then none
    else some destination

/-! ### The service -/

/-- `rp86_flash_service_t` and the fields of the volume it uses. -/
structure FlashService (ν : Type) where
  available : Bool
  upload : Option (Fil ν)
  uploadOpen : Bool
  transferId : UInt32
  expectedSize : UInt32
  expectedCrc32 : UInt32
  receivedSize : UInt32
  runningCrc32 : UInt32
  targetPath : List UInt8
  label : List UInt8
  freeKib : UInt32

/-- The file that is open for writing. -/
def FlashService.writing {ν : Type} (service : FlashService ν) : Option ν :=
  if service.uploadOpen then service.upload.map Fil.name else none

/-- The service and the file system. -/
structure Flash (ν : Type) where
  service : FlashService ν
  fat : Fat ν

/-- What a handler puts in a reply: its status, its length and the payload behind the operation. -/
structure FilesystemReply where
  status : HostStatus
  length : UInt16
  data : List UInt8
  deriving DecidableEq, Repr

/-- A reply without fields. -/
def FilesystemReply.bare (status : HostStatus) : FilesystemReply where
  status := status
  length := 0
  data := []

/-- `load_u16`. -/
def Message.half (m : Message) (i : ℕ) : UInt16 := le16 m.payload i

/-- The byte at an offset of the payload. -/
def Message.byte (m : Message) (i : ℕ) : UInt8 := m.payload.getD i 0

variable {ν : Type} [DecidableEq ν] (env : FatEnv ν)

def abortUpload (s : Flash ν) : Flash ν :=
  let fat := if s.service.uploadOpen then (fQuiet env s.fat).2 else s.fat
  { service := { s.service with
      upload := none
      uploadOpen := false
      transferId := 0
      expectedSize := 0
      receivedSize := 0
      runningCrc32 := 0xFFFFFFFF }
    fat := (fUnlink env uploadTempPath fat).2 }

/-- The loop of `handle_list` over the entries that are left: the result, and the entry it stopped
at. -/
def handleListLoop (wanted : UInt16) : List FileInfo → UInt16 → Fat ν →
    FResult × FileInfo × Fat ν
  | [], _, fat => ((fQuiet env fat).1, ⟨[], 0, 0⟩, (fQuiet env fat).2)
  | info :: rest, visible, fat =>
    let (result, fat) := fQuiet env fat
    if result ≠ .ok ∨ info.fname = [] then (result, info, fat)
    else if info.fname = uploadTempName then handleListLoop wanted rest visible fat
    else if visible = wanted then (result, info, fat)
    else handleListLoop wanted rest (visible + 1) fat

/-- The reply of `handle_list` for the entry it stopped at. -/
def listReply (wanted : UInt16) (info : FileInfo) : FilesystemReply :=
  if info.fname = [] then
    { status := .ok, length := UInt16.ofNat payloadSize, data := [filesystemFlagEof] }
  else
    let truncated := info.fname.length > filesystemListNameBytes
    let name := info.fname.take filesystemListNameBytes
    let flags := (if truncated then filesystemFlagTruncated else 0) |||
      (if info.fattrib &&& amDir ≠ 0 then filesystemFlagDirectory else 0)
    { status := .ok
      length := UInt16.ofNat payloadSize
      data := [flags, info.fattrib, UInt8.ofNat name.length] ++ leBytes 2 (wanted + 1).toNat ++
        leBytes 4 info.fsize.toNat ++ name }

def handleList (request : Message) (s : Flash ν) : Option FilesystemReply × Flash ν :=
  if request.length < 4 then (none, s)
  else if request.length ≠ 4 + (request.byte 1).toUInt16 then (none, s)
  else match validFlashPath (request.payload.drop 4) (request.byte 1) 49 with
    | none => (some (.bare .invalidPath), s)
    | some path =>
      let (opened, fat) := fQuiet env s.fat
      if opened ≠ .ok then (some (.bare (statusFromFatfs opened)), { s with fat := fat })
      else
        let wanted := request.half 2
        let (result, info, fat) := handleListLoop env wanted (env.entries s.fat.calls path) 0 fat
        let (closed, fat) := fQuiet env fat
        let result := if result = .ok then closed else result
        if result ≠ .ok then (some (.bare (statusFromFatfs result)), { s with fat := fat })
        else (some (listReply wanted info), { s with fat := fat })

def clusterKib (clusters csize : UInt32) : UInt32 :=
  (clusters.toUInt64 * csize.toUInt64 * flashSectorBytes.toUInt64 / 1024).toUInt32

def handleDf (request : Message) (s : Flash ν) : Option FilesystemReply × Flash ν :=
  if request.length < 2 then (none, s)
  else if request.length ≠ 2 + (request.byte 1).toUInt16 then (none, s)
  else match validFlashPath (request.payload.drop 2) (request.byte 1) 51 with
    | none => (some (.bare .invalidPath), s)
    | some _ =>
      let (result, fat) := fQuiet env s.fat
      if result ≠ .ok then (some (.bare (statusFromFatfs result)), { s with fat := fat })
      else
        let (freeClusters, filesystem) := env.free s.fat.calls
        let totalKib := clusterKib (filesystem.nFatent - 2) filesystem.csize
        let freeKib := clusterKib freeClusters filesystem.csize
        let label := s.service.label.take 32
        (some
          { status := .ok
            length := UInt16.ofNat payloadSize
            data := [filesystem.fsType, UInt8.ofNat label.length, 0] ++ leBytes 4 totalKib.toNat ++
              leBytes 4 freeKib.toNat ++ leBytes 4 (filesystem.csize * flashSectorBytes).toNat ++
              leBytes 4 flashEraseBytes.toNat ++ label },
          { service := { s.service with freeKib := freeKib }, fat := fat })

def handleRead (request : Message) (s : Flash ν) : Option FilesystemReply × Flash ν :=
  if request.length < 8 then (none, s)
  else if request.length ≠ 8 + (request.byte 1).toUInt16 then (none, s)
  else match validFlashPath (request.payload.drop 8) (request.byte 1)
      (filesystemReadPathBytes + 1) with
    | none => (some (.bare .invalidPath), s)
    | some path =>
      let (opened, file, fat) := fOpen env s.service.writing path s.fat
      if opened ≠ .ok then (some (.bare (statusFromFatfs opened)), { s with fat := fat })
      else
        let offset := request.word 4
        let size := fSize file fat
        let (sought, fat) := if offset ≤ size then fQuiet env fat else (.invalidParameter, fat)
        let (result, data, fat) := if sought = .ok then
            fRead env file offset.toNat filesystemReadDataBytes fat
          else (sought, [], fat)
        let (closed, fat) := fQuiet env fat
        let result := if result = .ok then closed else result
        if result ≠ .ok then
          (some
            { status := statusFromFatfs result
              length := 0
              data := List.replicate 11 0 ++ data },
            { s with fat := fat })
        else
          let flags := if offset + UInt32.ofNat data.length ≥ size then filesystemFlagEof else 0
          (some
            { status := .ok
              length := UInt16.ofNat (12 + data.length)
              data := [flags] ++ leBytes 2 data.length ++ leBytes 4 offset.toNat ++
                leBytes 4 size.toNat ++ data },
            { s with fat := fat })

def handleWriteBegin (request : Message) (s : Flash ν) : Option FilesystemReply × Flash ν :=
  if request.length < 16 then (none, s)
  else if request.length ≠ 16 + (request.byte 1).toUInt16 then (none, s)
  else match validFlashPath (request.payload.drop 16) (request.byte 1)
      (filesystemWritePathBytes + 1) with
    | none => (some (.bare .invalidPath), s)
    | some path =>
      let s := abortUpload env s
      let (result, upload, fat) := fCreate env uploadTempPath s.fat
      if result ≠ .ok then (some (.bare (statusFromFatfs result)),
        { service := { s.service with upload := upload }, fat := fat })
      else (some
          { status := .ok
            length := 8
            data := [0, 0, 0] ++ leBytes 4 (request.word 4).toNat },
          { service := { s.service with
              upload := upload
              uploadOpen := true
              transferId := request.word 4
              expectedSize := request.word 8
              expectedCrc32 := request.word 12
              receivedSize := 0
              runningCrc32 := 0xFFFFFFFF
              targetPath := path }
            fat := fat })

/-- The data of a `WRITE_DATA` request. -/
def Message.filesystemData (m : Message) : List UInt8 := (m.payload.drop 12).take (m.half 2).toNat

def handleWriteData (request : Message) (s : Flash ν) : Option FilesystemReply × Flash ν :=
  if request.length < 12 then (none, s)
  else
    let dataLength := request.half 2
    if dataLength.toNat > filesystemWriteDataBytes ∨ request.length ≠ 12 + dataLength then (none, s)
    else
      let transfer := request.word 4
      let offset := request.word 8
      if !s.service.uploadOpen ∨ transfer ≠ s.service.transferId ∨
          offset ≠ s.service.receivedSize ∨
          offset + dataLength.toUInt32 > s.service.expectedSize then
        (some (.bare .badState), s)
      else
        let (result, transferred, upload, fat) := fWrite env s.service.upload request.filesystemData
          s.fat
        let s := { service := { s.service with upload := upload }, fat := fat }
        if result ≠ .ok ∨ transferred ≠ dataLength.toNat then
          (some (.bare (if result = .ok then .noSpace else statusFromFatfs result)),
            abortUpload env s)
        else
          let receivedSize := s.service.receivedSize + dataLength.toUInt32
          (some
            { status := .ok
              length := 12
              data := [0, 0, 0] ++ leBytes 4 transfer.toNat ++ leBytes 4 receivedSize.toNat },
            { s with service := { s.service with
                runningCrc32 := flashCrc32Update s.service.runningCrc32 request.filesystemData
                receivedSize := receivedSize } })

/-- Makes the next call only while nothing has failed. -/
def ifOk (r : FResult × Fat ν) (call : Fat ν → FResult × Fat ν) : FResult × Fat ν :=
  if r.1 = .ok then call r.2 else r

/-- `f_sync` and `f_close` of the uploaded file.  It is closed even when it could not be synced. -/
def closeUpload (fat : Fat ν) : FResult × Fat ν :=
  let (synced, fat) := fQuiet env fat
  let (closed, fat) := fQuiet env fat
  (if synced = .ok then closed else synced, fat)

/-- The removal of the target.  It need not exist. -/
def unlinkTarget (path : List UInt8) (fat : Fat ν) : FResult × Fat ν :=
  let (result, fat) := fUnlink env path fat
  (if result ≠ .ok ∧ result ≠ .noFile ∧ result ≠ .noPath then result else .ok, fat)

/-- `rp86_flash_disk_flush` as a result. -/
def flushDisk (fat : Fat ν) : FResult × Fat ν :=
  let (result, fat) := fQuiet env fat
  (if result = .ok then .ok else .diskErr, fat)

/-- The calls of `handle_write_commit`, each made only while nothing has failed. -/
def commitCalls (target : List UInt8) (fat : Fat ν) : FResult × Fat ν :=
  let result := closeUpload env fat
  let result := ifOk result (flushDisk env)
  let result := ifOk result (unlinkTarget env target)
  let result := ifOk result (fRename env uploadTempPath target)
  ifOk result (flushDisk env)

def handleWriteCommit (request : Message) (s : Flash ν) : Option FilesystemReply × Flash ν :=
  if request.length ≠ 8 then (none, s)
  else
    let transfer := request.word 4
    let crc := s.service.runningCrc32 ^^^ 0xFFFFFFFF
    if !s.service.uploadOpen ∨ transfer ≠ s.service.transferId ∨
        s.service.receivedSize ≠ s.service.expectedSize then
      (some (.bare .badState), s)
    else if crc ≠ s.service.expectedCrc32 then (some (.bare .badCrc), abortUpload env s)
    else
      let (result, fat) := commitCalls env s.service.targetPath s.fat
      let service := { s.service with upload := none, uploadOpen := false }
      if result ≠ .ok then (some (.bare (statusFromFatfs result)),
        { service := service, fat := (fUnlink env uploadTempPath fat).2 })
      else (some
          { status := .ok
            length := 16
            data := [0, 0, 0] ++ leBytes 4 transfer.toNat ++
              leBytes 4 s.service.receivedSize.toNat ++ leBytes 4 crc.toNat },
          { service := { service with transferId := 0 }, fat := fat })

def flashServiceInit (available : Bool) (label : List UInt8) (freeKib : UInt32) (fat : Fat ν) :
    Flash ν where
  service :=
    { available := available
      upload := none
      uploadOpen := false
      transferId := 0
      expectedSize := 0
      expectedCrc32 := 0
      receivedSize := 0
      runningCrc32 := 0xFFFFFFFF
      targetPath := []
      label := label
      freeKib := freeKib }
  fat := if available then (fUnlink env uploadTempPath fat).2 else fat

def handleOperation (request : Message) (s : Flash ν) : Option FilesystemReply × Flash ν :=
  if request.byte 0 = filesystemList then handleList env request s
  else if request.byte 0 = filesystemDf then handleDf env request s
  else if request.byte 0 = filesystemRead then handleRead env request s
  else if request.byte 0 = filesystemWriteBegin then handleWriteBegin env request s
  else if request.byte 0 = filesystemWriteData then handleWriteData env request s
  else if request.byte 0 = filesystemWriteCommit then handleWriteCommit env request s
  else (some (.bare .serviceUnavailable), s)

/-- The reply that carries the fields, behind the echoed operation. -/
def filesystemReply (request : Message) (reply : FilesystemReply) : Message :=
  Message.reply typeFilesystemResult request reply.status reply.length
    (request.byte 0 :: reply.data)

def flashServiceHandle (s : Flash ν) (request : Message) : Option Message × Flash ν :=
  if request.version ≠ hostProtocolVersion ∨ request.type ≠ typeFilesystemRequest ∨
      request.status ≠ HostStatus.ok.code ∨ request.length = 0 then (none, s)
  else if !s.service.available then
    (some (filesystemReply request (.bare .serviceUnavailable)), s)
  else
    let (reply, s) := handleOperation env request s
    (some (filesystemReply request (reply.getD (.bare .badLength))), s)

/-- `rp86_host_service_dispatch_filesystem`: the reply to a record, if there is one. -/
def flashReply (s : Flash ν) (record : Record) : Option Message :=
  (flashServiceHandle env s (Message.ofRecord record)).1

def flashStep (s : Flash ν) (record : Record) : Flash ν :=
  (flashServiceHandle env s (Message.ofRecord record)).2

def flashRun (s : Flash ν) (records : List Record) : Flash ν := run (flashStep env) s records

end Rp86
