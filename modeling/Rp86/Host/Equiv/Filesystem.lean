import Mathlib.Data.List.Forall2
import Rp86.Host.Equiv.Protocol
import Rp86.Host.Filesystem
import Rp86.Storage.Equiv.WriteRequests

/-!
# What the Host's file records carry

`writeRecords_spec`: the records that write a file are a `WRITE_BEGIN` with the path, the size and
the checksum, one `WRITE_DATA` for each chunk of the data, and a `WRITE_COMMIT`.
-/

namespace Rp86.Host

open Lib

/-- An encoded path is the text in UTF-8, and short enough. -/
theorem encodePath_eq_ok {path : List Char} {maximum : ℕ} {encoded : List UInt8}
    (h : encodePath path maximum = .ok encoded) :
    encoded = utf8Encode path ∧ encoded.length ≤ maximum := by
  rw [encodePath] at h
  obtain ⟨-, h⟩ := check_eq_ok.mp h
  obtain ⟨hlength, h⟩ := check_eq_ok.mp h
  obtain rfl := Except.ok.inj h
  exact ⟨rfl, Nat.not_lt.mp fun hlt => hlength (Or.inr hlt)⟩

theorem wrappedSequence_range (sequence : ℤ) :
    0 ≤ wrappedSequence sequence ∧ wrappedSequence sequence < 2 ^ 32 := by
  unfold wrappedSequence
  omega

/-- The loop of `write_records`, from any offset: `WRITE_DATA` for the chunks of the rest. -/
theorem writeDataLoop_spec {transferId : ℤ} {data : List UInt8}
    (htransfer : 0 ≤ transferId ∧ transferId < 2 ^ 32) (hdata : data.length < 2 ^ 32)
    (offset : ℕ) (sequence : ℤ) :
    ∃ messages next chunks, writeDataLoop transferId data offset sequence = .ok (messages, next) ∧
      Chunked filesystemWriteDataBytes offset (data.drop offset) chunks ∧
      List.Forall₂ (fun (message : Message) w => message.Sends
        fun sequence => writeDataRequest sequence transferId.toNat w) messages chunks := by
  -- on the bytes that are left; a round sends one chunk of them
  induction hleft : data.length - offset using Nat.strongRecOn generalizing offset sequence with
  | _ left ih =>
  rw [writeDataLoop]
  by_cases hoffset : offset < data.length
  · have h40 : filesystemWriteDataBytes = 40 := rfl
    have h52 : payloadSize = 52 := rfl
    set chunk := (data.drop offset).take filesystemWriteDataBytes with hchunk
    have hlen : chunk.length = min filesystemWriteDataBytes (data.length - offset) := by
      rw [hchunk, List.length_take, List.length_drop]
    obtain ⟨messages, next, chunks, hloop, hchunks, hsends⟩ :=
      ih (data.length - (offset + chunk.length)) (by omega) (offset + chunk.length)
        (wrappedSequence sequence) rfl
    have hpack : structPack [(2, (chunk.length : ℤ)), (4, transferId), (4, (offset : ℤ))]
        = .ok (leBytes 2 chunk.length ++ (leBytes 4 transferId.toNat ++ leBytes 4 offset)) := by
      refine structPack_eq_ok_iff.mpr ⟨?_, ?_⟩
      · simp only [forall_fits_cons, forall_fits_nil, and_true]
        omega
      · simp [IntField.bytes]
    have hmessage : (filesystemRequest filesystemWriteData (wrappedSequence sequence)
        ([0] ++ (leBytes 2 chunk.length ++ (leBytes 4 transferId.toNat ++ leBytes 4 offset)) ++
          chunk)).Sends fun sequence => writeDataRequest sequence transferId.toNat
            (offset, chunk) := by
      have h := @Message.represents_request typeFilesystemRequest (wrappedSequence sequence)
        (filesystemWriteData :: ([0] ++ (leBytes 2 chunk.length ++ (leBytes 4 transferId.toNat ++
          leBytes 4 offset)) ++ chunk)) ⟨by decide, by decide⟩ (by
          simp only [List.length_append, List.length_cons, List.length_nil, length_leBytes]
          omega)
      simp only [List.append_assoc] at h ⊢
      exact h (wrappedSequence_range sequence)
    refine ⟨_, next, (offset, chunk) :: chunks, ?_, ?_, .cons hmessage hsends⟩
    · rw [if_pos hoffset]
      exact bind_eq_ok.mpr ⟨_, hpack, bind_eq_ok.mpr ⟨_, hloop, rfl⟩⟩
    · refine Chunked.cons_take (by decide) (List.length_pos_iff.mp ?_) ?_
      · rw [List.length_drop]
        omega
      · rw [← hchunk, List.drop_drop]
        exact hchunks
  · rw [if_neg hoffset]
    refine ⟨[], sequence, [], rfl, ?_, .nil⟩
    rw [List.drop_of_length_le (Nat.not_lt.mp hoffset)]
    exact .nil _

/-- The requests that write a file, each under a sequence of its own. -/
def writeRequests (path : List UInt8) (transferId size crc32 : ℕ) (chunks : List ByteWrite) :
    List (UInt32 → Rp86.Message) :=
  (fun sequence => writeBeginRequest sequence path transferId size crc32) ::
    (chunks.map (fun w sequence => writeDataRequest sequence transferId w) ++
      [fun sequence => writeCommitRequest sequence transferId])

/-- **The records that write a file.** -/
theorem writeRecords_spec {path : List Char} {data encoded : List UInt8}
    {transferId firstSequence : ℤ}
    (hencoded : encodePath path filesystemWritePathBytes = .ok encoded)
    (hdata : data.length < 2 ^ 32) (htransfer : 0 ≤ transferId ∧ transferId < 2 ^ 32)
    (hsequence : 0 ≤ firstSequence ∧ firstSequence < 2 ^ 32) :
    ∃ messages chunks, writeRecords path data transferId firstSequence = .ok messages ∧
      Chunked filesystemWriteDataBytes 0 data chunks ∧
      List.Forall₂ Message.Sends messages (writeRequests encoded transferId.toNat data.length
        (crc32 data).toNat chunks) := by
  obtain ⟨records, next, chunks, hloop, hchunks, hrecords⟩ := @writeDataLoop_spec transferId data
    htransfer hdata 0 firstSequence
  rw [List.drop_zero] at hchunks
  have hcrc := (crc32 data).toNat_lt
  have hbegin : structPack [(4, transferId), (4, (data.length : ℤ)), (4, ((crc32 data).toNat : ℤ))]
      = .ok (leBytes 4 transferId.toNat ++ (leBytes 4 data.length ++
        leBytes 4 (crc32 data).toNat)) := by
    refine structPack_eq_ok_iff.mpr ⟨?_, ?_⟩
    · simp only [forall_fits_cons, forall_fits_nil, and_true]
      omega
    · simp [IntField.bytes]
  have hcommit : structPack [(4, transferId)] = .ok (leBytes 4 transferId.toNat) := by
    refine structPack_eq_ok_iff.mpr ⟨?_, ?_⟩
    · simp only [forall_fits_cons, forall_fits_nil, and_true]
      omega
    · simp [IntField.bytes]
  obtain ⟨-, hlength⟩ := encodePath_eq_ok hencoded
  have h36 : filesystemWritePathBytes = 36 := rfl
  have h52 : payloadSize = 52 := rfl
  refine ⟨_, chunks, bind_eq_ok.mpr ⟨encoded, hencoded, bind_eq_ok.mpr ⟨_, hbegin,
    bind_eq_ok.mpr ⟨_, hloop, bind_eq_ok.mpr ⟨_, hcommit, rfl⟩⟩⟩⟩, hchunks, .cons ?_
    (List.rel_append (List.forall₂_map_right_iff.mpr hrecords) (.cons ?_ .nil))⟩
  · have hsends := @Message.represents_request typeFilesystemRequest firstSequence
      (filesystemWriteBegin :: ([UInt8.ofNat encoded.length, 0, 0] ++ (leBytes 4 transferId.toNat ++
        (leBytes 4 data.length ++ leBytes 4 (crc32 data).toNat)) ++ encoded))
      ⟨by decide, by decide⟩ (by
        simp only [List.length_append, List.length_cons, List.length_nil, length_leBytes]
        omega) hsequence
    simp only [List.append_assoc] at hsends ⊢
    exact hsends
  · exact @Message.represents_request typeFilesystemRequest (wrappedSequence next)
      (filesystemWriteCommit :: ([0, 0, 0] ++ leBytes 4 transferId.toNat)) ⟨by decide, by decide⟩
      (by simp [payloadSize]) (wrappedSequence_range next)

end Rp86.Host
