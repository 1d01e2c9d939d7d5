import Rp86.Host.Equiv.FlashReplies
import Rp86.Storage.Equiv.FlashUpload

/-!
# Reading a file from the Host

`read_file` with `handle_read`.  Whatever the device replies, the bytes that `read_file` returns are
the chunks of consecutive replies, as many as every reply said (`readFile_chunks`).
-/

namespace Rp86.Host

open Lib

variable {σ : Type} {exchange : RequestExchange σ} {path : List Char}

/-! ### Any device -/

/-- The chunks stand one behind the other, from an offset on. -/
def ReadChunk.Consecutive : ℕ → List ReadChunk → Prop
  | _, [] => True
  | offset, chunk :: rest =>
    chunk.offset = offset ∧ ReadChunk.Consecutive (offset + chunk.data.length) rest

/-- One round of the loop that ends in a result. -/
theorem readFileLoop_returned {offset : ℕ} {totalSize : Option ℤ} {content final : List UInt8}
    {c c' : ServiceClient σ}
    (h : readFileLoop exchange path offset totalSize content c = (.returned final, c')) :
    ∃ request reply c₁ chunk, readRequest path offset c.sequence = .ok request ∧
      serviceFilesystemRequest exchange request c = (.returned reply, c₁) ∧
      parseRead reply request = .ok chunk ∧ chunk.offset = offset ∧
      totalSize.getD chunk.totalSize = chunk.totalSize ∧
      (chunk.totalSize = (content ++ chunk.data).length ∧ final = content ++ chunk.data ∧ c' = c₁ ∨
        chunk.data ≠ [] ∧ readFileLoop exchange path (offset + chunk.data.length)
          (some chunk.totalSize) (content ++ chunk.data) c₁ = (.returned final, c')) := by
  rw [readFileLoop] at h
  split at h
  · next exception _ => cases exception <;> cases congrArg Prod.fst h
  next request hrequest =>
  split at h
  · cases congrArg Prod.fst h
  · cases congrArg Prod.fst h
  next reply c₁ hreply =>
  split at h
  · next exception _ => cases exception <;> cases congrArg Prod.fst h
  next chunk hchunk =>
  refine ⟨request, reply, c₁, chunk, hrequest, hreply, hchunk, ?_⟩
  split_ifs at h with hoffset hsize heof hlength hdata
  · cases congrArg Prod.fst h
  · cases congrArg Prod.fst h
  · cases congrArg Prod.fst h
  · rw [Prod.mk.injEq, ServiceResult.returned.injEq] at h
    exact ⟨not_not.mp hoffset, not_not.mp hsize,
      Or.inl ⟨not_not.mp hlength, h.1.symm, h.2.symm⟩⟩
  · cases congrArg Prod.fst h
  · exact ⟨not_not.mp hoffset, not_not.mp hsize, Or.inr ⟨hdata, h⟩⟩

/-- **Every result is made of consecutive chunks**, from where the loop stands. -/
theorem readFileLoop_chunks {offset : ℕ} {totalSize : Option ℤ} {content final : List UInt8}
    {c c' : ServiceClient σ}
    (h : readFileLoop exchange path offset totalSize content c = (.returned final, c')) :
    ∃ exchanges chunks, Exchanges (serviceFilesystemRequest exchange) c exchanges c' ∧
      List.Forall₂ (fun e chunk => parseRead e.2 e.1 = .ok chunk) exchanges chunks ∧
      ReadChunk.Consecutive offset chunks ∧ final = content ++ chunks.flatMap ReadChunk.data ∧
      (∀ chunk ∈ chunks, chunk.totalSize = final.length) ∧
      (∀ size, totalSize = some size → size = final.length) ∧
      exchanges.length + content.length ≤ final.length + 1 := by
  -- each round that goes on moves the offset
  induction hleft : 2 ^ 32 - offset using Nat.strongRecOn
    generalizing offset totalSize content c with
  | _ left ih =>
  obtain ⟨request, reply, c₁, chunk, hrequest, hreply, hchunk, hoffset, hsize, hend⟩ :=
    readFileLoop_returned h
  have htotal : ∀ size, totalSize = some size → size = chunk.totalSize := by
    rintro size rfl
    exact hsize
  rcases hend with ⟨hlength, rfl, rfl⟩ | ⟨hdata, hloop⟩
  · refine ⟨[(request, reply)], [chunk], .cons hreply (.nil _), .cons hchunk .nil,
      ⟨hoffset, trivial⟩, by simp, ?_, ?_, ?_⟩
    · intro chunk' hmem
      rw [List.mem_singleton.mp hmem, hlength]
    · intro size hsome
      rw [htotal size hsome, hlength]
    · simp only [List.length_cons, List.length_nil, List.length_append]
      omega
  · have hpos := List.length_pos_iff.mpr hdata
    have hlt := (readRequest_offset hrequest).2
    obtain ⟨exchanges, chunks, hexchanges, hchunks, hconsecutive, hfinal, htotals, hfirst,
        hcount⟩ := ih (2 ^ 32 - (offset + chunk.data.length)) (by omega) hloop rfl
    have hchunkSize := hfirst chunk.totalSize rfl
    refine ⟨(request, reply) :: exchanges, chunk :: chunks, .cons hreply hexchanges,
      .cons hchunk hchunks, ⟨hoffset, hconsecutive⟩, ?_, ?_, ?_, ?_⟩
    · rw [hfinal, List.flatMap_cons, List.append_assoc]
    · intro chunk' hmem
      rcases List.mem_cons.mp hmem with rfl | hmem
      · exact hchunkSize
      · exact htotals chunk' hmem
    · intro size hsome
      rw [htotal size hsome, hchunkSize]
    · rw [List.length_append] at hcount
      rw [List.length_cons]
      omega

/-! ### The flash service -/

theorem readRequest_eq_ok {offset sequence : ℤ} {request : Message} :
    readRequest path offset sequence = .ok request ↔
      ∃ encoded, encodePath path filesystemReadPathBytes = .ok encoded ∧
        (0 ≤ offset ∧ offset < 2 ^ 32) ∧
        request = filesystemRequest filesystemRead sequence
          ([UInt8.ofNat encoded.length, 0, 0] ++ leBytes 4 offset.toNat ++ encoded) := by
  unfold readRequest
  simp only [bind_eq_ok, structPack_eq_ok_iff, forall_fits_cons, forall_fits_nil, and_true]
  constructor
  · rintro ⟨encoded, hencoded, fields, ⟨hoffset, rfl⟩, hrequest⟩
    exact ⟨encoded, hencoded, hoffset, (Except.ok.inj hrequest).symm⟩
  · rintro ⟨encoded, hencoded, hoffset, rfl⟩
    exact ⟨encoded, hencoded, _, ⟨hoffset, rfl⟩, rfl⟩

section

variable {ν : Type} [DecidableEq ν] {env : FatEnv ν} {encoded target file : List UInt8}

def fileChunk (file : List UInt8) (offset : ℕ) : ReadChunk where
  offset := offset
  totalSize := file.length
  data := (file.drop offset).take 40
  eof := decide (file.length ≤ offset + 40)

/-- **A reply to a `READ` that passes the check carries the chunk of the file.** -/
theorem FlashAnswers.parseRead {offset : ℕ} {sequence : ℤ} {request reply : Message}
    {payload : List UInt8}
    (h : FlashAnswers env (fun s => s.fat.files (env.name target) = some file) request reply)
    (hencoded : encodePath path filesystemReadPathBytes = .ok encoded)
    (htarget : validFlashPath encoded (UInt8.ofNat encoded.length) (filesystemReadPathBytes + 1)
      = some target)
    (hrequest : readRequest path offset sequence = .ok request) (hfile : file.length < 2 ^ 32)
    (hvalid : validateReply reply request = .ok payload) :
    offset ≤ file.length ∧ Host.parseRead reply request = .ok (fileChunk file offset) := by
  obtain ⟨encoded', hencoded', hrange, rfl⟩ := readRequest_eq_ok.mp hrequest
  obtain rfl := Except.ok.inj (hencoded.symm.trans hencoded')
  obtain ⟨-, hlength⟩ := encodePath_eq_ok hencoded
  obtain ⟨s, answer, hs, hanswer, hok, hpayload⟩ := h.accepted hvalid
  -- the request of the Host is the one that `handle_read` is described for
  have hdevice : Rp86.Message.request Rp86.typeFilesystemRequest (UInt32.ofNat sequence.toNat)
      (filesystemRead :: ([UInt8.ofNat encoded.length, 0, 0] ++ leBytes 4 (offset : ℤ).toNat ++
        encoded)) = readFileRequest (UInt32.ofNat sequence.toNat) encoded offset := by
    rw [readFileRequest, List.append_assoc]
    rfl
  rw [hdevice] at hanswer hpayload
  rw [handleOperation_read hlength htarget, hs, Option.some.injEq] at hanswer
  subst hanswer
  obtain ⟨hoffset, hreply⟩ := readAnswer_ok hok
  have hoffset' : (UInt32.ofNat offset).toNat = offset := Nat.mod_eq_of_lt (by omega)
  have hsize : (UInt32.ofNat file.length).toNat = file.length := Nat.mod_eq_of_lt hfile
  rw [UInt32.le_iff_toNat_le, hoffset', hsize] at hoffset
  refine ⟨hoffset, ?_⟩
  set data := (file.drop offset).take 40 with hdata
  have hdataLength : data.length = min 40 (file.length - offset) := by
    rw [hdata, List.length_take, List.length_drop]
  set flags : UInt8 := if UInt32.ofNat offset + UInt32.ofNat data.length ≥ UInt32.ofNat file.length
    then Rp86.filesystemFlagEof else 0 with hflags
  -- the fields of the payload
  have hfields : payload = [filesystemRead, flags] ++ (leBytes 2 data.length ++ (leBytes 4 offset ++
      (leBytes 4 file.length ++ data))) := by
    have hbytes := @readReply_payload (UInt32.ofNat offset) filesystemRead
      (UInt32.ofNat file.length) data (by rw [hdataLength]; exact Nat.min_le_left ..)
    rw [hoffset', hsize] at hbytes
    rw [hpayload, hreply, hoffset', (readFileRequest_fields hlength).2.1]
    exact hbytes
  -- the device adds without a carry, since it reads no further than the end
  have heof : decide (flags &&& filesystemFlagEof ≠ 0) = decide (file.length ≤ offset + 40) := by
    have hsum : (UInt32.ofNat offset + UInt32.ofNat data.length).toNat = offset + data.length := by
      rw [UInt32.toNat_add, hoffset', UInt32.toNat_ofNat', Nat.mod_eq_of_lt (by omega),
        Nat.mod_eq_of_lt (by omega)]
    have hiff : UInt32.ofNat offset + UInt32.ofNat data.length ≥ UInt32.ofNat file.length ↔
        file.length ≤ offset + 40 := by
      rw [ge_iff_le, UInt32.le_iff_toNat_le, hsum, hsize]
      omega
    rw [hflags]
    by_cases hlast : file.length ≤ offset + 40
    · rw [if_pos (hiff.mpr hlast), decide_eq_true hlast]
      rfl
    · rw [if_neg fun h => hlast (hiff.mp h), decide_eq_false hlast]
      rfl
  -- what `parse_read` takes from these fields
  have h16 : le16 payload 2 = UInt16.ofNat data.length := by
    rw [hfields]
    simp only [le16_append_of_le, le16_leBytes, List.length_cons, List.length_nil, Nat.reduceAdd,
      Nat.reduceSub, Nat.reduceLeDiff]
  have h32 : le32 payload 4 = UInt32.ofNat offset ∧ le32 payload 8 = UInt32.ofNat file.length := by
    rw [hfields]
    simp only [le32_append_of_le, le32_leBytes, length_leBytes, List.length_cons, List.length_nil,
      Nat.reduceAdd, Nat.reduceSub, Nat.reduceLeDiff, and_self]
  have hdrop : payload.drop 12 = data := by
    rw [hfields]
    rfl
  have hlen : payload.length = 12 + data.length := by
    rw [hfields]
    simp only [List.length_append, List.length_cons, List.length_nil, length_leBytes]
    omega
  have hcount : (UInt16.ofNat data.length).toNat = data.length := Nat.mod_eq_of_lt (by omega)
  unfold Host.parseRead
  rw [bind_eq_ok]
  refine ⟨payload, hvalid, ?_⟩
  rw [check_eq_ok]
  refine ⟨by omega, ?_⟩
  rw [check_eq_ok, h16, hcount]
  refine ⟨by omega, ?_⟩
  rw [unpack32, unpack32, h32.1, h32.2, hoffset', hsize, hdrop, List.take_length, fileChunk, ← heof,
    hfields]
  rfl

/-- A round with a chunk of the file in its reply. -/
theorem readFileLoop_chunk {offset : ℕ} {totalSize : Option ℤ} {c c₁ : ServiceClient σ}
    {request reply : Message}
    (hrequest : readRequest path offset c.sequence = .ok request)
    (hreply : serviceFilesystemRequest exchange request c = (.returned reply, c₁))
    (hchunk : parseRead reply request = .ok (fileChunk file offset))
    (htotal : totalSize.getD file.length = file.length) :
    readFileLoop exchange path offset totalSize (file.take offset) c
      = if file.length ≤ offset + 40 then (.returned file, c₁)
        else readFileLoop exchange path (offset + 40) (some file.length)
          (file.take (offset + 40)) c₁ := by
  have hjoin : file.take offset ++ (file.drop offset).take 40 = file.take (offset + 40) :=
    List.take_add.symm
  rw [readFileLoop]
  split
  · next exception herror =>
    rw [hrequest] at herror
    cases herror
  next request' hrequest' =>
  obtain rfl := Except.ok.inj (hrequest.symm.trans hrequest')
  simp only [hreply, hchunk, fileChunk, ne_eq, not_true_eq_false, if_false, htotal, hjoin,
    decide_eq_true_eq]
  by_cases hlast : file.length ≤ offset + 40
  · rw [if_pos hlast, if_pos hlast, List.take_of_length_le hlast, if_neg fun h => h rfl]
  · have hdata : ((file.drop offset).take 40).length = 40 := by
      rw [List.length_take, List.length_drop]
      omega
    rw [if_neg hlast, if_neg hlast, dif_neg, hdata]
    intro hnil
    rw [hnil] at hdata
    cases hdata

/-- **The bytes of the file, or an exchange that fails**, from where the loop stands. -/
theorem readFileLoop_exact {Inv : σ → Prop}
    (hserves : FlashServes env (fun s => s.fat.files (env.name target) = some file) filesystemRead
      exchange Inv)
    (hencoded : encodePath path filesystemReadPathBytes = .ok encoded)
    (htarget : validFlashPath encoded (UInt8.ofNat encoded.length) (filesystemReadPathBytes + 1)
      = some target)
    (hfile : file.length < 2 ^ 32) {offset : ℕ} {totalSize : Option ℤ} {c : ServiceClient σ}
    (hc : Inv c.device) (htotal : totalSize.getD file.length = file.length)
    (hoffset : offset ≤ file.length) :
    ∃ exchanges c₁, Exchanges (serviceFilesystemRequest exchange) c exchanges c₁ ∧
      (readFileLoop exchange path offset totalSize (file.take offset) c = (.returned file, c₁) ∨
        ∃ request error c₂, serviceFilesystemRequest exchange request c₁ = (.failed error, c₂) ∧
          readFileLoop exchange path offset totalSize (file.take offset) c
            = (.failed error, c₂)) := by
  -- each round that goes on has read forty bytes
  induction hleft : file.length - offset using Nat.strongRecOn
    generalizing offset totalSize c with
  | _ left ih =>
  have hrequest := readRequest_eq_ok.mpr ⟨encoded, hencoded, (by omega), Eq.refl
    (filesystemRequest filesystemRead c.sequence ([UInt8.ofNat encoded.length, 0, 0] ++
      leBytes 4 (offset : ℤ).toNat ++ encoded))⟩
  rcases serviceFilesystemRequest_cases exchange (filesystemRequest filesystemRead c.sequence
    ([UInt8.ofNat encoded.length, 0, 0] ++ leBytes 4 (offset : ℤ).toNat ++ encoded)) c with
    ⟨reply, c₁, hreply⟩ | ⟨error, c₁, hfailed⟩
  · obtain ⟨hc₁, hanswers, payload, hvalid⟩ := hserves.returned hc hreply
    obtain ⟨-, hchunk⟩ := hanswers.parseRead hencoded htarget hrequest hfile hvalid
    rw [readFileLoop_chunk hrequest hreply hchunk htotal]
    by_cases hlast : file.length ≤ offset + 40
    · rw [if_pos hlast]
      exact ⟨_, c₁, .cons hreply (.nil _), Or.inl rfl⟩
    · rw [if_neg hlast]
      obtain ⟨exchanges, c₂, hexchanges, hresult⟩ :=
        @ih (file.length - (offset + 40)) (by omega) (offset + 40) (some file.length) c₁ hc₁ rfl
          (by omega) rfl
      exact ⟨_, c₂, .cons hreply hexchanges, hresult⟩
  · refine ⟨[], c, .nil c, Or.inr ⟨_, error, c₁, hfailed, ?_⟩⟩
    rw [readFileLoop]
    split
    · next exception herror =>
      rw [hrequest] at herror
      cases herror
    · next request' hrequest' =>
      obtain rfl := Except.ok.inj (hrequest.symm.trans hrequest')
      simp only [hfailed]

/-- **A file is read exactly.**  With the flash service behind the exchange and a file below 4 GiB
that does not change, `read_file` returns the bytes of the file, unless one of its exchanges fails.
With any device, the bytes it returns are those of consecutive replies from offset zero on, each of
which gives their number as the size of the file, and there are at most one more replies than
bytes. -/
theorem read_file_exact (env : FatEnv ν) (exchange : RequestExchange σ) (path : List Char)
    (c : ServiceClient σ) :
    (∀ (encoded target file : List UInt8) (Inv : σ → Prop),
      FlashServes env (fun s => s.fat.files (env.name target) = some file) filesystemRead exchange
        Inv → Inv c.device → encodePath path filesystemReadPathBytes = .ok encoded →
      validFlashPath encoded (UInt8.ofNat encoded.length) (filesystemReadPathBytes + 1)
        = some target → file.length < 2 ^ 32 →
      ∃ exchanges c₁, Exchanges (serviceFilesystemRequest exchange) c exchanges c₁ ∧
        (readFile exchange path c = (.returned file, c₁) ∨
          ∃ request error c₂, serviceFilesystemRequest exchange request c₁ = (.failed error, c₂) ∧
            readFile exchange path c = (.failed error, c₂))) ∧
    (∀ (content : List UInt8) (c' : ServiceClient σ),
      readFile exchange path c = (.returned content, c') →
      ∃ exchanges chunks, Exchanges (serviceFilesystemRequest exchange) c exchanges c' ∧
        List.Forall₂ (fun e chunk => parseRead e.2 e.1 = .ok chunk) exchanges chunks ∧
        content = chunks.flatMap ReadChunk.data ∧ ReadChunk.Consecutive 0 chunks ∧
        (∀ chunk ∈ chunks, chunk.totalSize = content.length) ∧
        exchanges.length ≤ content.length + 1) := by
  refine ⟨fun encoded target file Inv hserves hc hencoded htarget hfile => ?_,
    fun content c' hreturned => ?_⟩
  · exact readFileLoop_exact hserves hencoded htarget hfile hc rfl (Nat.zero_le _)
  · obtain ⟨exchanges, chunks, hexchanges, hchunks, hconsecutive, hcontent, htotals, -, hcount⟩ :=
      readFileLoop_chunks hreturned
    exact ⟨exchanges, chunks, hexchanges, hchunks, hcontent, hconsecutive, htotals, hcount⟩

end

/-- A file that takes two replies. -/
def twoChunks : List UInt8 := List.replicate 41 7

/-- The service on a volume with that file at `flash:/A`. -/
def twoChunksFlash : Flash (List UInt8) :=
  flashServiceInit plainFatEnv true [] 0
    { files := Function.update (fun _ => none) (ascii "flash:/A") (some twoChunks), calls := 0 }

theorem read_file_exact_plain :
    ∃ c' exchanges,
      readFile (flashExchange plainFatEnv) ['f', 'l', 'a', 's', 'h', ':', '/', 'A']
        ⟨twoChunksFlash, 1⟩ = (.returned twoChunks, c') ∧
      Exchanges (serviceFilesystemRequest (flashExchange plainFatEnv)) ⟨twoChunksFlash, 1⟩ exchanges
        c' ∧ exchanges.length ≤ 42 := by
  obtain ⟨hflash, hany⟩ := read_file_exact plainFatEnv (flashExchange plainFatEnv)
    ['f', 'l', 'a', 's', 'h', ':', '/', 'A'] ⟨twoChunksFlash, 1⟩
  have hreturned : (readFile (flashExchange plainFatEnv) ['f', 'l', 'a', 's', 'h', ':', '/', 'A']
      ⟨twoChunksFlash, 1⟩).1 = .returned twoChunks := by decide +kernel
  obtain ⟨-, c₁, -, hresult | ⟨-, error, c₂, -, hfailed⟩⟩ := hflash (ascii "flash:/A")
    (ascii "flash:/A") twoChunks _
    (flashExchange_serves fun s record hs hoperation => by
      obtain ⟨_, _, heq⟩ := @flashStep_onlyRead _ _ plainFatEnv s record
        (by rw [Message.Reads, hoperation]; decide)
      rwa [heq])
    (by decide +kernel) (by decide +kernel) (by decide +kernel) (by decide +kernel)
  · obtain ⟨exchanges, -, hexchanges, -, -, -, -, hcount⟩ := hany twoChunks c₁ hresult
    exact ⟨c₁, exchanges, hresult, hexchanges, hcount⟩
  · rw [hfailed] at hreturned
    cases hreturned

end Rp86.Host
