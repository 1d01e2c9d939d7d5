import Rp86.Memory.Equiv.MemoryService

/-!
# The memory service stays inside the backing

Whatever a memory request holds, its reply fits in a record, the bytes behind the backing stay as
they are (`dispatchMemory_written`), and neither the reply nor the backing after it depends on them
(`dispatchMemory_read`).
-/

namespace Rp86

open Lib

/-! ### Replies -/

theorem memoryReply_length {request : Message} {status : HostStatus} {data : List UInt8}
    (h : data.length ≤ memoryDataBytes) :
    (memoryReply request status data).length.toNat = memoryPayloadHeaderSize + data.length := by
  have h40 : memoryDataBytes = 40 := rfl
  have h12 : memoryPayloadHeaderSize = 12 := rfl
  exact Nat.mod_eq_of_lt (by omega)

/-- The memory service answers with an empty reply, or with the request's header and at most 40
bytes behind it. -/
theorem memoryServiceHandle_reply (service : MemoryService) (backing : Backing)
    (request : Message) :
    (memoryServiceHandle service backing request).1
        = Message.reply typeMemoryResult request .badLength 0 [] ∨
      ∃ status data, data.length ≤ memoryDataBytes ∧
        (memoryServiceHandle service backing request).1 = memoryReply request status data := by
  unfold memoryServiceHandle
  split_ifs with hheader havail hrange hread hwrite hallowed
  · exact Or.inl rfl
  · exact Or.inr ⟨_, [], Nat.zero_le _, rfl⟩
  · exact Or.inr ⟨_, [], Nat.zero_le _, rfl⟩
  · split
    · exact Or.inr ⟨_, [], Nat.zero_le _, rfl⟩
    · next data hdata =>
      refine Or.inr ⟨_, data, ?_, rfl⟩
      obtain ⟨-, rfl⟩ := memoryBackingRead_eq_some hdata
      rw [length_readBytes]
      exact Nat.not_lt.mp (not_or.mp hrange).1
  · exact Or.inr ⟨_, [], Nat.zero_le _, rfl⟩
  · split
    · exact Or.inr ⟨_, [], Nat.zero_le _, rfl⟩
    · exact Or.inr ⟨_, [], Nat.zero_le _, rfl⟩
  · exact Or.inr ⟨_, [], Nat.zero_le _, rfl⟩

/-- **A reply has at most 52 payload bytes.** -/
theorem dispatchMemory_length (state : WorkloadState) (backing : Backing) (request : Message) :
    (hostServiceDispatchMemory state backing request).1.length.toNat ≤ payloadSize := by
  have h52 : payloadSize = 52 := rfl
  have h40 : memoryDataBytes = 40 := rfl
  have h12 : memoryPayloadHeaderSize = 12 := rfl
  unfold hostServiceDispatchMemory
  rcases memoryServiceHandle_reply (dispatchWindow state backing) backing request with
    hreply | ⟨status, data, hdata, hreply⟩
  · simp only [hreply]
    exact Nat.zero_le _
  · simp only [hreply, memoryReply_length hdata]
    omega

/-! ### Bytes outside the backing -/

/-- **A memory request writes only bytes of the backing.** -/
theorem dispatchMemory_written {state : WorkloadState} {backing : Backing} {request : Message}
    {i : ℕ} (hi : backing.size.toNat ≤ i) :
    (hostServiceDispatchMemory state backing request).2.2.storage i = backing.storage i := by
  by_contra hchanged
  obtain ⟨hwrite, -, -, hlt⟩ := acceptedWrite_of_changed hchanged
  obtain ⟨hvalid, -⟩ := memoryBackingWrite_eq_some hwrite.written
  rw [length_memoryData hwrite.length_le] at hvalid
  have hinside := (memoryBackingRangeValid_iff.mp hvalid).2.2
  omega

/-- Two backings with the same geometry and the same bytes in it. -/
structure SameInside (b b' : Backing) : Prop extends SameGeometry b b' where
  storage : ∀ i < b.size.toNat, b'.storage i = b.storage i

section

variable {b b' : Backing}

theorem SameInside.read (h : SameInside b b') (address : UInt32) (length : ℕ) :
    memoryBackingRead b' address length = memoryBackingRead b address length := by
  unfold memoryBackingRead
  rw [h.rangeValid]
  cases hvalid : memoryBackingRangeValid b address length with
  | false => rfl
  | true =>
    have hinside := (memoryBackingRangeValid_iff.mp hvalid).2.2
    rw [h.offset, readBytes_congr fun i _ hi => h.storage i (by omega)]

theorem SameInside.hostOwned (h : SameInside b b') :
    sharedMailboxHostOwned b' = sharedMailboxHostOwned b := by
  rw [sharedMailboxHostOwned, sharedMailboxHostOwned, h.read]

theorem SameInside.window (h : SameInside b b') (state : WorkloadState) :
    dispatchWindow state b' = dispatchWindow state b := by
  rw [dispatchWindow, dispatchWindow, h.hostOwned, h.processorBase, h.size]

/-- The same write is done in both, or in neither. -/
theorem SameInside.write (h : SameInside b b') (address : UInt32) (source : List UInt8) :
    (memoryBackingWrite b address source = none ∧ memoryBackingWrite b' address source = none) ∨
      ∃ b₁ b₁', memoryBackingWrite b address source = some b₁ ∧
        memoryBackingWrite b' address source = some b₁' ∧ SameInside b₁ b₁' := by
  cases hvalid : memoryBackingRangeValid b address source.length with
  | false =>
    refine Or.inl ⟨?_, ?_⟩
    · rw [memoryBackingWrite, hvalid]
      rfl
    · rw [memoryBackingWrite, h.rangeValid, hvalid]
      rfl
  | true =>
    refine Or.inr ⟨_, _, memoryBackingWrite_of_valid hvalid,
      memoryBackingWrite_of_valid ((h.rangeValid _ _).trans hvalid),
      ⟨h.processorBase, h.size, h.available⟩, fun i hi => ?_⟩
    simp only [h.offset]
    by_cases hmem : b.offset address ≤ i ∧ i < b.offset address + source.length
    · rw [writeBytes_of_mem hmem.1 hmem.2, writeBytes_of_mem hmem.1 hmem.2]
    · rw [writeBytes_of_not_mem hmem, writeBytes_of_not_mem hmem]
      exact h.storage i hi

/-- A request to backings with the same bytes is answered in the same way. -/
theorem SameInside.handle (h : SameInside b b') (service : MemoryService) (request : Message) :
    (memoryServiceHandle service b' request).1 = (memoryServiceHandle service b request).1 ∧
      SameInside (memoryServiceHandle service b request).2
        (memoryServiceHandle service b' request).2 := by
  unfold memoryServiceHandle
  rw [h.available, h.rangeValid, h.read]
  split_ifs with hheader havail hrange hread hwrite hallowed
  · exact ⟨rfl, h⟩
  · exact ⟨rfl, h⟩
  · exact ⟨rfl, h⟩
  · cases memoryBackingRead b request.memoryAddress request.memoryLength.toNat with
    | none | some data => exact ⟨rfl, h⟩
  · exact ⟨rfl, h⟩
  · rcases h.write request.memoryAddress request.memoryData with
      ⟨hnone, hnone'⟩ | ⟨b₁, b₁', hsome, hsome', hsame⟩
    · rw [hnone, hnone']
      exact ⟨rfl, h⟩
    · rw [hsome, hsome']
      exact ⟨rfl, hsame⟩
  · exact ⟨rfl, h⟩

/-- **A memory request reads only bytes of the backing.** -/
theorem dispatchMemory_read (h : SameInside b b') (state : WorkloadState) (request : Message) :
    (hostServiceDispatchMemory state b' request).1
        = (hostServiceDispatchMemory state b request).1 ∧
      SameInside (hostServiceDispatchMemory state b request).2.2
        (hostServiceDispatchMemory state b' request).2.2 := by
  unfold hostServiceDispatchMemory
  rw [h.window]
  exact h.handle (dispatchWindow state b) request

end

/-! ### Requests inside Internal SRAM -/

section

variable {sequence : UInt32} {backing : Backing}

theorem dispatch_idle_write {state : WorkloadState} {w : ByteWrite} (hstate : state ≠ .running)
    (hgeometry : backing.IsInternalSram) (hend : w.1 + w.2.length ≤ 0x40000)
    (hlength : w.2.length ≤ memoryDataBytes) :
    hostServiceDispatchMemory state backing (memoryWriteRequest sequence w)
      = (memoryReply (memoryWriteRequest sequence w) .ok [], dispatchWindow state backing,
          { backing with storage := writeBytes backing.storage w.1 w.2 }) := by
  obtain ⟨-, haddress, -⟩ := @memoryWriteRequest_fields sequence w (by omega) hlength
  have hbase : backing.processorBase = 0 := hgeometry.processorBase
  have hsize : backing.size.toNat = 0x40000 := congrArg UInt32.toNat hgeometry.size
  have hallowed : writeRangeAllowed (dispatchWindow state backing)
      (memoryWriteRequest sequence w).memoryAddress w.2.length = true := by
    rw [dispatchWindow, if_neg fun h => hstate h.1, if_neg hstate, writeRangeAllowed_iff]
    simp only [hbase, UInt32.sub_zero, haddress, hsize]
    exact ⟨UInt32.le_iff_toNat_le.mpr (Nat.zero_le _), hend⟩
  simp only [hostServiceDispatchMemory,
    (memoryWriteRequest_accepted hgeometry hend hlength hallowed).handle]

def memoryReadRequest (sequence : UInt32) (address length : ℕ) : Message :=
  Message.request typeMemoryRequest sequence (memoryHeader memoryReadOperation address length)

/-- A read is answered with the bytes of its range, whatever the window is. -/
theorem dispatch_read {state : WorkloadState} {address length : ℕ}
    (hgeometry : backing.IsInternalSram) (hend : address + length ≤ 0x40000)
    (hlength : length ≤ memoryDataBytes) :
    hostServiceDispatchMemory state backing (memoryReadRequest sequence address length)
      = (memoryReply (memoryReadRequest sequence address length) .ok
          (readBytes backing.storage address length), dispatchWindow state backing, backing) := by
  set request := memoryReadRequest sequence address length with hrequest
  obtain ⟨hoperation, haddress, hwidth, -, hlen⟩ := @memoryHeader_fields sequence
    memoryReadOperation address length [] (by omega) (by omega)
    (by rw [List.append_nil, length_memoryHeader]; decide) request
    (by rw [hrequest, memoryReadRequest, List.append_nil])
  have hvalid := (rangeValid_internalSram hgeometry).mpr (haddress.symm ▸ hend)
  have hhandle : ∀ service, memoryServiceHandle service backing request
      = (memoryReply request .ok (readBytes backing.storage address length), backing) := by
    intro service
    unfold memoryServiceHandle
    rw [hwidth, if_neg, if_neg, if_neg, if_pos ⟨hoperation, hlen⟩,
      memoryBackingRead_of_valid hvalid, offset_internalSram hgeometry, haddress]
    · simp only [hvalid, Bool.not_true, Bool.false_eq_true, or_false]
      omega
    · simp [hgeometry.available, internalSramBackingInit, memoryBackingInitDirect]
      decide
    · rintro (h | h | h | h)
      · exact h rfl
      · exact h rfl
      · exact h rfl
      · rw [hlen] at h
        exact Nat.lt_irrefl _ h
  simp only [hostServiceDispatchMemory, hhandle]

end

end Rp86
