import Rp86.Storage.Equiv.FlashService

/-!
# Reading a file

`handle_read` opens the file and makes its calls on it (`handleRead_eq`).  What it answers depends
on the content of that file and on the outcomes of the calls only (`readFlashFile_eq`).
-/

namespace Rp86

open Lib

variable {ν : Type} [DecidableEq ν] (env : FatEnv ν)

/-! ### The handler -/

/-- The calls of `handle_read` on the file that it has opened, up to `f_close`. -/
def readCalls (file : Option (Fil ν)) (offset size : UInt32) (fat : Fat ν) :
    FResult × List UInt8 × Fat ν :=
  let (sought, fat) := if offset ≤ size then fQuiet env fat else (.invalidParameter, fat)
  let (result, data, fat) := if sought = .ok then
      fRead env file offset.toNat filesystemReadDataBytes fat
    else (sought, [], fat)
  let (closed, fat) := fQuiet env fat
  (if result = .ok then closed else result, data, fat)

/-- The reply of `handle_read` once the file is closed. -/
def readReply (offset size : UInt32) (result : FResult) (data : List UInt8) : FilesystemReply :=
  if result ≠ .ok then
    { status := statusFromFatfs result, length := 0, data := List.replicate 11 0 ++ data }
  else
    { status := .ok
      length := UInt16.ofNat (12 + data.length)
      data := [if offset + UInt32.ofNat data.length ≥ size then filesystemFlagEof else 0] ++
        leBytes 2 data.length ++ leBytes 4 offset.toNat ++ leBytes 4 size.toNat ++ data }

/-- What `handle_read` does with an accepted path. -/
def readFlashFile (writing : Option ν) (path : List UInt8) (offset : UInt32) (fat : Fat ν) :
    FilesystemReply × Fat ν :=
  let (opened, file, fat) := fOpen env writing path fat
  if opened ≠ .ok then (.bare (statusFromFatfs opened), fat)
  else
    let size := fSize file fat
    let (result, data, fat) := readCalls env file offset size fat
    (readReply offset size result data, fat)

theorem handleRead_eq {request : Message} {s : Flash ν} {path : List UInt8}
    (hshort : ¬ request.length < 8) (hlength : request.length = 8 + (request.byte 1).toUInt16)
    (hpath : validFlashPath (request.payload.drop 8) (request.byte 1)
      (filesystemReadPathBytes + 1) = some path) :
    handleRead env request s
      = (some (readFlashFile env s.service.writing path (request.word 4) s.fat).1,
        { s with fat := (readFlashFile env s.service.writing path (request.word 4) s.fat).2 }) := by
  rw [handleRead, if_neg hshort, if_neg fun h => h hlength, hpath]
  unfold readFlashFile readReply readCalls
  simp only
  split_ifs <;> rfl

/-- A read is refused by its fields, or reads the file that it names. -/
theorem handleRead_cases (env : FatEnv ν) (request : Message) :
    (∃ reply, ∀ s : Flash ν, handleRead env request s = (reply, s)) ∨
      ∃ path, validFlashPath (request.payload.drop 8) (request.byte 1)
          (filesystemReadPathBytes + 1) = some path ∧
        ∀ s : Flash ν, handleRead env request s
          = (some (readFlashFile env s.service.writing path (request.word 4) s.fat).1,
            { s with
              fat := (readFlashFile env s.service.writing path (request.word 4) s.fat).2 }) := by
  by_cases hshort : request.length < 8
  · refine Or.inl ⟨none, fun s => ?_⟩
    rw [handleRead, if_pos hshort]
  by_cases hlength : request.length = 8 + (request.byte 1).toUInt16
  · cases hpath : validFlashPath (request.payload.drop 8) (request.byte 1)
      (filesystemReadPathBytes + 1) with
    | none =>
      refine Or.inl ⟨some (.bare .invalidPath), fun s => ?_⟩
      rw [handleRead, if_neg hshort, if_neg fun h => h hlength, hpath]
    | some path => exact Or.inr ⟨path, rfl, fun s => handleRead_eq env hshort hlength hpath⟩
  · refine Or.inl ⟨none, fun s => ?_⟩
    rw [handleRead, if_neg hshort, if_pos hlength]

/-! ### Its answer -/

/-- The answer, from the outcomes of the calls and the content of the file. -/
def readAnswer (results : ℕ → FResult) (n : ℕ) (locked : Bool) (file : Option (List UInt8))
    (offset : UInt32) : FilesystemReply :=
  if results n ≠ .ok then .bare (statusFromFatfs (results n))
  else match file with
  | none => .bare .notFound
  | some content =>
    let size := UInt32.ofNat content.length
    if locked then .bare .ioError
    else if ¬ offset ≤ size then readReply offset size .invalidParameter []
    else if results (n + 1) ≠ .ok then readReply offset size (results (n + 1)) []
    else if results (n + 2) ≠ .ok then readReply offset size (results (n + 2)) []
    else readReply offset size (results (n + 3))
      ((content.drop offset.toNat).take filesystemReadDataBytes)

variable {env} {writing : Option ν} {path : List UInt8} {fat : Fat ν} {offset : UInt32}

theorem readFlashFile_eq :
    (readFlashFile env writing path offset fat).1
      = readAnswer env.result fat.calls (writing = some (env.name path))
        (fat.files (env.name path)) offset := by
  unfold readFlashFile readAnswer fOpen Fat.outcome
  -- in the order of the calls: open, seek, read and close
  by_cases hopened : env.result fat.calls = .ok
  · simp only [hopened, ne_eq, not_true_eq_false, if_false]
    cases hfile : fat.files (env.name path) with
    | none => rfl
    | some content =>
      have hsize : fSize (some ⟨env.name path, 0⟩) fat.called = UInt32.ofNat content.length := by
        simp [fSize, Fat.called, hfile]
      by_cases hlocked : writing = some (env.name path)
      · simp [hlocked, statusFromFatfs]
      simp only [not_true_eq_false, if_false, hsize, hlocked, decide_false, Bool.false_eq_true]
      unfold readCalls
      by_cases hoffset : offset ≤ UInt32.ofNat content.length
      · rw [if_pos hoffset, if_neg (not_not.mpr hoffset)]
        have hread : fRead env (some ⟨env.name path, 0⟩) offset.toNat filesystemReadDataBytes
            fat.called.called = if env.result (fat.calls + 2) ≠ .ok
              then (env.result (fat.calls + 2), [], fat.called.called.called)
              else (.ok, (content.drop offset.toNat).take filesystemReadDataBytes,
                fat.called.called.called) := by
          simp [fRead, Fat.outcome, Fat.called, hfile]
        have hsought : fQuiet env fat.called = (env.result (fat.calls + 1), fat.called.called) :=
          rfl
        have hclosed : fQuiet env fat.called.called.called
            = (env.result (fat.calls + 3), fat.called.called.called.called) := rfl
        by_cases hseek : env.result (fat.calls + 1) = .ok
        · by_cases hdata : env.result (fat.calls + 2) = .ok
          · simp [hsought, hread, hclosed, hseek, hdata]
          · simp [hsought, hread, hseek, hdata]
        · simp [hsought, hseek]
      · rw [if_neg hoffset, if_pos hoffset]
        rfl
  · rw [if_pos hopened, if_pos hopened]
    simp [hopened]

theorem readAnswer_ok {results : ℕ → FResult} {n : ℕ} {locked : Bool} {content : List UInt8}
    (h : (readAnswer results n locked (some content) offset).status = .ok) :
    offset ≤ UInt32.ofNat content.length ∧
      readAnswer results n locked (some content) offset
        = readReply offset (UInt32.ofNat content.length) .ok
          ((content.drop offset.toNat).take filesystemReadDataBytes) := by
  have hfailed : ∀ {result : FResult} {data : List UInt8}, result ≠ .ok →
      (readReply offset (UInt32.ofNat content.length) result data).status ≠ .ok := by
    intro result data hresult
    rw [readReply, if_pos hresult]
    exact statusFromFatfs_ne_ok hresult
  unfold readAnswer at h ⊢
  simp only at h ⊢
  split_ifs at h ⊢ with hopened hlocked hoffset hseek hread
  · exact absurd h (statusFromFatfs_ne_ok hopened)
  · cases h
  · exact absurd h (hfailed hseek)
  · exact absurd h (hfailed hread)
  · by_cases hclosed : results (n + 3) = .ok
    · rw [hclosed]
      exact ⟨hoffset, rfl⟩
    · exact absurd h (hfailed hclosed)
  · exact absurd h (hfailed (by decide))

theorem readReply_payload {operation : UInt8} {size : UInt32} {data : List UInt8}
    (hdata : data.length ≤ filesystemReadDataBytes) :
    (padPayload (operation :: (readReply offset size .ok data).data)).take
        (readReply offset size .ok data).length.toNat
      = [operation, if offset + UInt32.ofNat data.length ≥ size then filesystemFlagEof else 0] ++
        (leBytes 2 data.length ++ (leBytes 4 offset.toNat ++ (leBytes 4 size.toNat ++ data))) := by
  have h40 : filesystemReadDataBytes = 40 := rfl
  have h52 : payloadSize = 52 := rfl
  rw [readReply, if_neg (by decide)]
  generalize (if offset + UInt32.ofNat data.length ≥ size then filesystemFlagEof else 0) = flags
  have hlength : (UInt16.ofNat (12 + data.length)).toNat = (operation :: ([flags] ++
      leBytes 2 data.length ++ leBytes 4 offset.toNat ++ leBytes 4 size.toNat ++ data)).length := by
    rw [UInt16.toNat_ofNat', Nat.mod_eq_of_lt (by omega)]
    simp only [List.length_cons, List.length_append, List.length_nil, length_leBytes]
    omega
  show (padPayload _).take (UInt16.ofNat (12 + data.length)).toNat = _
  rw [hlength, take_padPayload]
  · simp only [List.append_assoc]
    rfl
  · rw [← hlength, UInt16.toNat_ofNat', Nat.mod_eq_of_lt (by omega)]
    omega

/-! ### The request -/

def readFileRequest (sequence : UInt32) (path : List UInt8) (offset : ℕ) : Message :=
  Message.request typeFilesystemRequest sequence
    ([filesystemRead, UInt8.ofNat path.length, 0, 0] ++ (leBytes 4 offset ++ path))

theorem readFileRequest_fields {sequence : UInt32} {path : List UInt8} {offset : ℕ}
    (hpath : path.length ≤ filesystemReadPathBytes) :
    let request := readFileRequest sequence path offset
    request.length.toNat = 8 + path.length ∧ request.byte 0 = filesystemRead ∧
      request.byte 1 = UInt8.ofNat path.length ∧ request.word 4 = UInt32.ofNat offset ∧
      (request.payload.drop 8).take path.length = path := by
  intro request
  have h44 : filesystemReadPathBytes = 44 := rfl
  have h52 : payloadSize = 52 := rfl
  have hlen : ([filesystemRead, UInt8.ofNat path.length, 0, 0] ++
      (leBytes 4 offset ++ path)).length = 8 + path.length := by
    simp only [List.length_append, length_leBytes, List.length_cons, List.length_nil]
    omega
  have hfits := hlen.trans_le (show 8 + path.length ≤ payloadSize by omega)
  refine ⟨(Message.request_length hfits).trans hlen, Message.request_getD hfits (by omega),
    Message.request_getD hfits (by omega), (Message.request_word hfits (by omega)).trans ?_,
    (Message.request_slice hfits (by omega)).trans ?_⟩
  · simp [le32_cons, le32_leBytes]
  · simp

/-- **A `READ` of an accepted path is answered from the content of the file.** -/
theorem handleOperation_read {sequence : UInt32} {encoded : List UInt8} {offset : ℕ} {s : Flash ν}
    (hencoded : encoded.length ≤ filesystemReadPathBytes)
    (hpath : validFlashPath encoded (UInt8.ofNat encoded.length) (filesystemReadPathBytes + 1)
      = some path) :
    (handleOperation env (readFileRequest sequence encoded offset) s).1
      = some (readAnswer env.result s.fat.calls (s.service.writing = some (env.name path))
        (s.fat.files (env.name path)) (UInt32.ofNat offset)) := by
  obtain ⟨hlen, hoperation, hbyte, hoffset, hdata⟩ :=
    @readFileRequest_fields sequence encoded offset hencoded
  set request := readFileRequest sequence encoded offset
  obtain ⟨hshort, hlength, hvalid⟩ := Message.path_checks (n := 8) (m := 8) rfl (by decide)
    (hencoded.trans (by decide)) hlen hbyte hdata hpath
  have hhandle : handleOperation env request s = handleRead env request s := by
    rw [handleOperation, hoperation]
    rfl
  rw [hhandle, handleRead_eq env hshort hlength hvalid, hoffset, readFlashFile_eq]

end Rp86
