import Mathlib.Data.List.Forall2
import Rp86.Host.Equiv.Protocol
import Rp86.Host.Memory
import Rp86.Memory.Equiv.MemoryService

/-!
# What the Host's write records write

`memoryWriteRecords_messages`: the records of a write carry the chunks of its data, in order.
`mailboxCommitRecords_spec`: the records of a mailbox request write the data, then the header with
the Host as the owner, then the owner word.
-/

namespace Rp86.Host

open Lib

/-- A message of the Host is encoded as the request of a write. -/
def Message.Writes (message : Message) (w : ByteWrite) : Prop :=
  message.Sends fun sequence => memoryWriteRequest sequence w

/-- The message that the loop of `memory_write_records` builds for a chunk. -/
structure Message.WriteRequest (message : Message) (w : ByteWrite) : Prop where
  eq : message = { messageType := typeMemoryRequest
                   sequence := message.sequence
                   payload := memoryWriteHeader w ++ w.2 }
  sequence : 0 ≤ message.sequence ∧ message.sequence < 2 ^ 32
  length_le : w.2.length ≤ memoryDataBytes

theorem Message.WriteRequest.writes {message : Message} {w : ByteWrite}
    (h : message.WriteRequest w) : message.Writes w := by
  refine ⟨UInt32.ofNat message.sequence.toNat, ?_⟩
  rw [h.eq]
  exact Message.encode_request ⟨by decide, by decide⟩ h.sequence
    (length_memoryWritePayload h.length_le)

theorem structPack_writeHeader {address : ℤ} {w : ByteWrite} (haddress : address = w.1)
    (hend : w.1 + w.2.length ≤ 0x40000) :
    structPack [(1, memoryWrite), (3, 0), (4, address), (4, w.2.length)]
      = .ok (memoryWriteHeader w) := by
  have hwrite : memoryWrite = 2 := rfl
  refine structPack_eq_ok_iff.mpr ⟨?_, ?_⟩
  · simp only [forall_fits_cons, forall_fits_nil, and_true]
    omega
  · rw [haddress]
    simp only [List.flatMap_cons, List.flatMap_nil, IntField.bytes, Int.toNat_natCast,
      List.append_nil]
    rfl

/-- The loop of `memory_write_records`, from any offset. -/
theorem memoryWriteLoop_spec {address : ℕ} {data : List UInt8}
    (hend : address + data.length ≤ 0x40000) (offset : ℕ) (sequence : ℤ)
    (hsequence : 0 ≤ sequence ∧ sequence < 2 ^ 32) :
    ∃ messages ws, memoryWriteLoop address data offset sequence = .ok messages ∧
      Chunked memoryDataBytes (address + offset) (data.drop offset) ws ∧
      List.Forall₂ Message.WriteRequest messages ws := by
  -- on the bytes that are left; a round writes one chunk of them
  induction hleft : data.length - offset using Nat.strongRecOn
    generalizing offset sequence with
  | _ left ih =>
  rw [memoryWriteLoop]
  by_cases hoffset : offset < data.length
  · rw [if_pos hoffset]
    set chunk := (data.drop offset).take memoryDataBytes with hchunk
    have h40 : memoryDataBytes = 40 := rfl
    have hlen : chunk.length = min memoryDataBytes (data.length - offset) := by
      rw [hchunk, List.length_take, List.length_drop]
    have hnext := nextSequence_range sequence
    obtain ⟨messages, ws, hloop, hchunks, hwrites⟩ := ih (data.length - (offset + chunk.length))
      (by omega) (offset + chunk.length) (nextSequence sequence) ⟨by omega, hnext.2⟩ rfl
    have hheader := @structPack_writeHeader (address + offset) (address + offset, chunk) (by simp)
      (by simp only; omega)
    have hmessage : Message.WriteRequest
        { messageType := typeMemoryRequest
          sequence := sequence
          payload := memoryWriteHeader (address + offset, chunk) ++ chunk }
        (address + offset, chunk) :=
      ⟨rfl, hsequence, by simp only; omega⟩
    refine ⟨_ :: messages, (address + offset, chunk) :: ws, ?_, ?_, .cons hmessage hwrites⟩
    · simp only [hheader, hloop]
      rfl
    · refine Chunked.cons_take (by decide) (List.length_pos_iff.mp ?_) ?_
      · rw [List.length_drop]
        omega
      · rw [List.drop_drop, Nat.add_assoc]
        exact hchunks
  · rw [if_neg hoffset]
    refine ⟨[], [], rfl, ?_, .nil⟩
    rw [List.drop_of_length_le (Nat.not_lt.mp hoffset)]
    exact .nil _

section

variable {address : ℕ} {data : List UInt8} (hne : data ≠ [])
  (hend : address + data.length ≤ 0x40000) {sequence : ℤ}
  (hsequence : 0 ≤ sequence ∧ sequence < 2 ^ 32)

include hne hend hsequence

/-- **The records of a write carry its data in chunks.** -/
theorem memoryWriteRecords_messages :
    ∃ messages ws, memoryWriteRecords address data sequence = .ok messages ∧
      Chunked memoryDataBytes address data ws ∧ List.Forall₂ Message.WriteRequest messages ws ∧
      messages ≠ [] := by
  obtain ⟨messages, ws, hloop, hchunks, hwrites⟩ :=
    memoryWriteLoop_spec hend 0 sequence hsequence
  rw [Nat.add_zero, List.drop_zero] at hchunks
  have hpos := List.length_pos_iff.mpr hne
  have hlimit : memoryEnd = 0x40000 := rfl
  have hcheck : checkAddress address = .ok (address : ℤ) := by
    rw [checkAddress, if_pos]
    exact ⟨Int.natCast_nonneg _, by omega⟩
  refine ⟨messages, ws, ?_, hchunks, hwrites, ?_⟩
  · rw [memoryWriteRecords, hcheck]
    simp only [bind, Except.bind]
    rw [if_neg (not_or.mpr ⟨hne, by omega⟩)]
    exact hloop
  · rintro rfl
    cases hwrites
    cases hchunks
    exact hne rfl

theorem memoryWriteRecords_spec :
    ∃ messages ws, memoryWriteRecords address data sequence = .ok messages ∧
      Chunked memoryDataBytes address data ws ∧ List.Forall₂ Message.Writes messages ws ∧
      messages ≠ [] := by
  obtain ⟨messages, ws, hrecords, hchunks, hwrites, hmessages⟩ :=
    memoryWriteRecords_messages hne hend hsequence
  exact ⟨messages, ws, hrecords, hchunks, hwrites.imp fun _ _ => Message.WriteRequest.writes,
    hmessages⟩

/-- The records of a write of at most 40 bytes. -/
theorem memoryWriteRecords_single (hlength : data.length ≤ memoryDataBytes) :
    ∃ message : Message, memoryWriteRecords address data sequence = .ok [message] ∧
      message.Writes (address, data) := by
  obtain ⟨messages, ws, hrecords, hchunks, hwrites, -⟩ := memoryWriteRecords_spec hne hend hsequence
  rw [hchunks.eq_singleton hne hlength] at hwrites
  cases hwrites with
  | cons hmessage hnil =>
    cases hnil
    exact ⟨_, hrecords, hmessage⟩

end

/-! ### Mailbox requests -/

def requestHeader (owner : UInt16) (generation : UInt32) (length : UInt16) :
    SharedMailboxHeader where
  magic := sharedMailboxMagic
  version := sharedMailboxVersion
  headerSize := UInt16.ofNat sharedMailboxDataOffset
  owner := owner
  status := sharedMailboxRequestReady
  generation := generation
  requestLength := length
  responseLength := 0
  flags := 0
  reserved0 := 0
  reserved1 := 0

/-- The writes behind the data of a mailbox request: the header, then the owner word. -/
def publicationWrites (generation : UInt32) (length : UInt16) : List ByteWrite :=
  [(0x3F000, (requestHeader sharedMailboxOwnerHost generation length).toBytes),
    (0x3F008, leBytes 2 sharedMailboxOwnerProcessor.toNat)]

theorem requestHeader_packed {generation : ℤ} {length : ℕ}
    (hgeneration : 0 ≤ generation ∧ generation < 2 ^ 32) (hlength : length < 2 ^ 16) :
    ∃ fields, structPack [(2, mailboxVersion), (2, mailboxDataOffset), (2, ownerHost),
        (2, statusRequestReady), (4, generation), (2, length), (2, 0), (4, 0), (4, 0), (4, 0)]
        = .ok fields ∧
      mailboxMagic ++ fields = (requestHeader sharedMailboxOwnerHost
        (UInt32.ofNat generation.toNat) (UInt16.ofNat length)).toBytes := by
  have hversion : mailboxVersion = 1 := rfl
  have hsize : mailboxDataOffset = 32 := rfl
  have howner : ownerHost = 1 := rfl
  have hstatus : statusRequestReady = 1 := rfl
  refine ⟨_, structPack_eq_ok_iff.mpr ⟨?_, rfl⟩, ?_⟩
  · simp only [forall_fits_cons, forall_fits_nil, and_true]
    omega
  · have hgeneration' : (UInt32.ofNat generation.toNat).toNat = generation.toNat := by
      rw [UInt32.toNat_ofNat', Nat.mod_eq_of_lt (by omega)]
    have hlength' : (UInt16.ofNat length).toNat = length := by
      rw [UInt16.toNat_ofNat', Nat.mod_eq_of_lt hlength]
    simp only [SharedMailboxHeader.toBytes, requestHeader, hgeneration', hlength',
      List.flatMap_cons, List.flatMap_nil, IntField.bytes, Int.toNat_natCast]
    rfl

/-- A sequence follows the last of some records. -/
theorem followingSequence_spec {records : List Message} (hne : records ≠ []) :
    ∃ sequence, followingSequence records = .ok sequence ∧ 0 ≤ sequence ∧ sequence < 2 ^ 32 := by
  have hrange := nextSequence_range (records.getLast hne).sequence
  refine ⟨nextSequence (records.getLast hne).sequence, ?_, by omega, hrange.2⟩
  rw [followingSequence, List.getLast?_eq_getLast_of_ne_nil hne]

/-- **The records of a mailbox request** write the data, then the header with the Host as the owner,
then the owner word. -/
theorem mailboxCommitRecords_spec {data : List UInt8} (hne : data ≠ [])
    (hlength : data.length ≤ mailboxDataSize) {generation sequence : ℤ}
    (hgeneration : 0 ≤ generation ∧ generation < 2 ^ 32)
    (hsequence : 0 ≤ sequence ∧ sequence < 2 ^ 32) :
    ∃ messages chunks, mailboxCommitRecords data generation sequence = .ok messages ∧
      Chunked memoryDataBytes 0x3F020 data chunks ∧
      List.Forall₂ Message.Writes messages (chunks ++
        publicationWrites (UInt32.ofNat generation.toNat) (UInt16.ofNat data.length)) := by
  have h4064 : mailboxDataSize = 4064 := rfl
  have h40 : memoryDataBytes = 40 := rfl
  obtain ⟨messages, chunks, hdata, hchunks, hwrites, hmessages⟩ :=
    @memoryWriteRecords_spec 0x3F020 data hne (by omega) sequence hsequence
  obtain ⟨sequence₁, hfollow₁, hrange₁⟩ := followingSequence_spec hmessages
  set header := (requestHeader sharedMailboxOwnerHost (UInt32.ofNat generation.toNat)
    (UInt16.ofNat data.length)).toBytes with hheader
  have hlen : header.length = 32 := by
    rw [hheader]
    simp [SharedMailboxHeader.toBytes]
  -- the header and the owner word fit in one record each
  obtain ⟨headerMessage, hheaderRecords, hheaderWrites⟩ :=
    @memoryWriteRecords_single 0x3F000 header (List.length_pos_iff.mp (by omega)) (by omega)
      sequence₁ hrange₁ (by omega)
  obtain ⟨sequence₂, hfollow₂, hrange₂⟩ :=
    @followingSequence_spec (messages ++ [headerMessage]) (by simp)
  obtain ⟨ownerMessage, hownerRecords, hownerWrites⟩ :=
    @memoryWriteRecords_single 0x3F008 (leBytes 2 sharedMailboxOwnerProcessor.toNat) (by decide)
      (by decide) sequence₂ hrange₂ (by decide)
  obtain ⟨fields, hfields, hbytes⟩ := requestHeader_packed hgeneration
    (show data.length < 2 ^ 16 by omega)
  refine ⟨messages ++ [headerMessage] ++ [ownerMessage], chunks, ?_, hchunks, ?_⟩
  · have howner : structPack [(2, ownerProcessor)]
        = .ok (leBytes 2 sharedMailboxOwnerProcessor.toNat) := by decide
    have hdataAddress : mailboxBase + mailboxDataOffset = (0x3F020 : ℕ) := rfl
    have hheaderAddress : mailboxBase = (0x3F000 : ℕ) := rfl
    have hownerAddress : mailboxBase + 8 = (0x3F008 : ℕ) := rfl
    rw [mailboxCommitRecords, if_neg (not_or.mpr ⟨hne, by omega⟩), hfields, hdataAddress,
      hownerAddress, hheaderAddress]
    simp only [bind, Except.bind, hdata, hfollow₁, hbytes, ← hheader, hheaderRecords, hfollow₂,
      howner, hownerRecords]
    rfl
  · rw [List.append_assoc]
    exact List.rel_append hwrites (.cons hheaderWrites (.cons hownerWrites .nil))

end Rp86.Host
