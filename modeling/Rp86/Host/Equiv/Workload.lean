import Mathlib.Data.List.Forall2
import Rp86.Host.Equiv.Protocol
import Rp86.Host.Workload
import Rp86.Runtime.Equiv.Handlers

/-!
# What the Host's upload records carry

`uploadRecords_spec`: the records of an upload are a BEGIN with the packed manifest, one DATA for
each chunk of the image, and a COMMIT with the checksum; the image has the size and the checksum
that the manifest says.
-/

namespace Rp86.Host

open Lib

/-- The manifest that the firmware receives. -/
def WorkloadManifest.packed (m : WorkloadManifest) : Manifest where
  magic := workloadMagic
  version := workloadFormatVersion
  headerSize := UInt16.ofNat Rp86.manifestSize
  imageSize := UInt32.ofNat m.imageSize.toNat
  imageCrc32 := UInt32.ofNat m.imageCrc32.toNat
  loadAddress := UInt32.ofNat m.loadAddress.toNat
  entrySegment := UInt16.ofNat m.entrySegment.toNat
  entryOffset := UInt16.ofNat m.entryOffset.toNat
  stackSegment := UInt16.ofNat m.stackSegment.toNat
  stackOffset := UInt16.ofNat m.stackOffset.toNat
  sharedBase := UInt32.ofNat m.sharedBase.toNat
  sharedSize := UInt32.ofNat m.sharedSize.toNat
  flags := UInt32.ofNat m.flags.toNat

/-- A manifest that can be encoded has fields that fit. -/
structure WorkloadManifest.Fits (m : WorkloadManifest) : Prop where
  imageSize : 0 ≤ m.imageSize ∧ m.imageSize < 2 ^ 32
  imageCrc32 : 0 ≤ m.imageCrc32 ∧ m.imageCrc32 < 2 ^ 32
  loadAddress : 0 ≤ m.loadAddress ∧ m.loadAddress < 2 ^ 32

/-- The firmware reads the values of the Host. -/
theorem WorkloadManifest.Fits.toNat_packed {m : WorkloadManifest} (h : m.Fits) :
    m.packed.imageSize.toNat = m.imageSize.toNat ∧
      m.packed.imageCrc32.toNat = m.imageCrc32.toNat ∧
      m.packed.loadAddress.toNat = m.loadAddress.toNat := by
  obtain ⟨hsize, hcrc, hload⟩ := h
  refine ⟨Nat.mod_eq_of_lt ?_, Nat.mod_eq_of_lt ?_, Nat.mod_eq_of_lt ?_⟩ <;> omega

theorem WorkloadManifest.encode_eq_ok {m : WorkloadManifest} {encoded : List UInt8}
    (h : m.encode = .ok encoded) : m.Fits ∧ encoded = m.packed.toBytes := by
  rw [WorkloadManifest.encode] at h
  obtain ⟨_, -, hpack⟩ := bind_eq_ok.mp h
  obtain ⟨hfits, rfl⟩ := structPack_eq_ok_iff.mp hpack
  simp only [forall_fits_cons, forall_fits_nil, and_true] at hfits
  obtain ⟨-, -, -, hsize, hcrc, hload, hcs, hip, hss, hsp, hbase, hshared, hflags⟩ := hfits
  refine ⟨⟨by omega, by omega, by omega⟩, ?_⟩
  have h32 : ∀ {x : ℤ}, 0 ≤ x ∧ x < 256 ^ 4 → (UInt32.ofNat x.toNat).toNat = x.toNat := by
    intro x hx
    rw [UInt32.toNat_ofNat', Nat.mod_eq_of_lt (by omega)]
  have h16 : ∀ {x : ℤ}, 0 ≤ x ∧ x < 256 ^ 2 → (UInt16.ofNat x.toNat).toNat = x.toNat := by
    intro x hx
    rw [UInt16.toNat_ofNat', Nat.mod_eq_of_lt (by omega)]
  simp only [Manifest.toBytes, WorkloadManifest.packed, h32 hsize, h32 hcrc, h32 hload, h16 hcs,
    h16 hip, h16 hss, h16 hsp, h32 hbase, h32 hshared, h32 hflags, List.flatMap_cons,
    List.flatMap_nil, IntField.bytes, List.append_assoc, List.append_nil]
  rfl

/-- The image of a workload file is the one that its manifest describes. -/
theorem encodeWorkloadFile_eq_ok {manifest : WorkloadManifest} {image encoded : List UInt8}
    (h : encodeWorkloadFile manifest image = .ok encoded) :
    (image.length : ℤ) = manifest.imageSize ∧ ((crc32 image).toNat : ℤ) = manifest.imageCrc32 := by
  rw [encodeWorkloadFile] at h
  obtain ⟨_, -, h⟩ := bind_eq_ok.mp h
  obtain ⟨hmatch, -⟩ := check_eq_ok.mp h
  simpa using hmatch

theorem structPack_words {a b : ℤ} (ha : 0 ≤ a ∧ a < 2 ^ 32) (hb : 0 ≤ b ∧ b < 2 ^ 32) :
    structPack [(4, a), (4, b)] = .ok (leBytes 4 a.toNat ++ leBytes 4 b.toNat) := by
  refine structPack_eq_ok_iff.mpr ⟨?_, ?_⟩
  · simp only [forall_fits_cons, forall_fits_nil, and_true]
    omega
  · simp [IntField.bytes]

/-- The loop of `upload_records`, from any offset: DATA for the chunks of the rest of the image. -/
theorem uploadDataLoop_spec {transferId : ℤ} {image : List UInt8}
    (htransfer : 0 ≤ transferId ∧ transferId < 2 ^ 32) (himage : image.length < 2 ^ 32)
    (offset : ℕ) (sequence : ℤ) :
    ∃ messages next chunks, uploadDataLoop transferId image offset sequence = .ok (messages, next) ∧
      Chunked dataBytes offset (image.drop offset) chunks ∧
      List.Forall₂ (fun (message : Message) w => message.Represents
        fun sequence => dataRequest sequence transferId.toNat w) messages chunks := by
  -- on the bytes of the image that are left
  induction hleft : image.length - offset using Nat.strongRecOn generalizing offset sequence with
  | _ left ih =>
  rw [uploadDataLoop]
  by_cases hoffset : offset < image.length
  · have h44 : dataBytes = 44 := rfl
    have h52 : payloadSize = 52 := rfl
    obtain ⟨messages, next, chunks, hloop, hchunks, hsends⟩ :=
      ih (image.length - (offset + dataBytes)) (by omega) (offset + dataBytes) (sequence + 1) rfl
    set chunk := (image.drop offset).take dataBytes with hchunk
    have hlen : chunk.length ≤ dataBytes := List.length_take_le _ _
    have hmessage : Message.Represents
        { messageType := typeWorkloadData
          sequence := sequence
          payload := leBytes 4 transferId.toNat ++ leBytes 4 offset ++ chunk }
        fun sequence => dataRequest sequence transferId.toNat (offset, chunk) := by
      have h := @Message.represents_request typeWorkloadData sequence
        (leBytes 4 transferId.toNat ++ leBytes 4 offset ++ chunk) ⟨by decide, by decide⟩ (by
          simp only [List.length_append, length_leBytes]
          omega)
      simp only [dataRequest, List.append_assoc] at h ⊢
      exact h
    refine ⟨_, next, (offset, chunk) :: chunks, ?_, ?_, .cons hmessage hsends⟩
    · rw [if_pos hoffset, structPack_words htransfer (by omega), hloop]
      rfl
    · refine Chunked.cons_take_full (by decide) (List.length_pos_iff.mp ?_) ?_
      · rw [List.length_drop]
        omega
      · rw [List.drop_drop]
        exact hchunks
  · rw [if_neg hoffset]
    refine ⟨[], sequence, [], rfl, ?_, .nil⟩
    rw [List.drop_of_length_le (Nat.not_lt.mp hoffset)]
    exact .nil _

/-- The requests of an upload, each under a sequence of its own. -/
def uploadRequests (transferId : ℕ) (manifest : Manifest) (chunks : List ByteWrite) :
    List (UInt32 → Rp86.Message) :=
  (fun sequence => beginRequest sequence transferId manifest) ::
    (chunks.map (fun w sequence => dataRequest sequence transferId w) ++
      [fun sequence => commitRequest sequence transferId manifest.imageCrc32.toNat])

/-- **The records of an upload** are a BEGIN with the manifest, DATA for the chunks of the image,
and a COMMIT; and the image is the one that the manifest describes. -/
theorem uploadRecords_spec {manifest : WorkloadManifest} {image : List UInt8}
    {transferId firstSequence : ℤ} {messages : List Message}
    (h : uploadRecords manifest image transferId firstSequence = .ok messages) :
    manifest.Fits ∧ manifest.encode = .ok manifest.packed.toBytes ∧
      (image.length : ℤ) = manifest.imageSize ∧
      ((crc32 image).toNat : ℤ) = manifest.imageCrc32 ∧
      ∃ chunks, Chunked dataBytes 0 image chunks ∧
        List.Forall₂ Message.Represents messages
          (uploadRequests transferId.toNat manifest.packed chunks) := by
  -- the checks of the builder, in order
  rw [uploadRecords] at h
  obtain ⟨file, hfile, h⟩ := bind_eq_ok.mp h
  obtain ⟨hlength, hcrc⟩ := encodeWorkloadFile_eq_ok hfile
  obtain ⟨htransfer, h⟩ := check_eq_ok.mp h
  obtain ⟨transfer, hpack, h⟩ := bind_eq_ok.mp h
  obtain ⟨encoded, hencode, h⟩ := bind_eq_ok.mp h
  obtain ⟨hfits, rfl⟩ := WorkloadManifest.encode_eq_ok hencode
  have hrange : 0 ≤ transferId ∧ transferId < 2 ^ 32 := by omega
  obtain ⟨data, next, chunks, hloop, hchunks, hdata⟩ := @uploadDataLoop_spec transferId image hrange
    (by have := hfits.imageSize; omega) 0 (firstSequence + 1)
  rw [List.drop_zero] at hchunks
  refine ⟨hfits, hencode, hlength, hcrc, chunks, hchunks, ?_⟩
  obtain ⟨-, rfl⟩ := structPack_eq_ok_iff.mp hpack
  have hcommit := structPack_words hrange hfits.imageCrc32
  simp only [hloop, hcommit, bind, Except.bind] at h
  obtain rfl := Except.ok.inj h
  obtain ⟨-, hcrc32, -⟩ := hfits.toNat_packed
  refine .cons ?_ (List.rel_append (List.forall₂_map_right_iff.mpr hdata) (.cons ?_ .nil))
  · have hbegin := @Message.represents_request typeWorkloadBegin firstSequence
      (leBytes 4 transferId.toNat ++ manifest.packed.toBytes) ⟨by decide, by decide⟩ (by
        rw [List.length_append, length_leBytes, manifest.packed.length_toBytes]
        decide)
    simp only [List.flatMap_cons, List.flatMap_nil, IntField.bytes, List.append_nil]
    exact hbegin
  · have hcommit := @Message.represents_request typeWorkloadCommit next
      (leBytes 4 transferId.toNat ++ leBytes 4 manifest.imageCrc32.toNat) ⟨by decide, by decide⟩ (by
        simp only [List.length_append, length_leBytes]
        decide)
    rw [hcrc32]
    exact hcommit

end Rp86.Host
