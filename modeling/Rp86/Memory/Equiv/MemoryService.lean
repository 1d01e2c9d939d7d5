import Rp86.Lib.ChunkedWrite
import Rp86.Memory.Equiv.SharedMailbox
import Rp86.Memory.MemoryService

/-!
# The write window of the memory service

A memory request changes the backing only if it is an accepted write (`AcceptedWrite`), and then
only inside the window that the dispatch policy has set for it.  While a workload is `RUNNING` the
window is the mailbox page, and only if the Host owns the page (`dispatch_running_frame`).
-/

namespace Rp86

open Lib

/-- The window check, in natural numbers. -/
theorem writeRangeAllowed_iff {service : MemoryService} {address : UInt32} {length : ℕ} :
    writeRangeAllowed service address length = true ↔
      service.writeBase ≤ address ∧
        (address - service.writeBase).toNat + length ≤ service.writeSize.toNat := by
  unfold writeRangeAllowed
  by_cases hlt : address < service.writeBase
  · simp [hlt, UInt32.not_le.mpr hlt]
  · have hle : service.writeBase ≤ address := UInt32.not_lt.mp hlt
    simp only [hlt, ↓reduceIte, Bool.and_eq_true, decide_eq_true_eq, hle, true_and]
    exact fits_iff

/-- The data of a write is as long as its length field says. -/
theorem length_memoryData {m : Message} (h : m.memoryLength.toNat ≤ memoryDataBytes) :
    m.memoryData.length = m.memoryLength.toNat := by
  have hp := m.length_payload
  have h40 : memoryDataBytes = 40 := rfl
  have h12 : memoryPayloadHeaderSize = 12 := rfl
  have h52 : payloadSize = 52 := rfl
  rw [Message.memoryData, List.length_take, List.length_drop]
  omega

/-- The checks that an accepted write passed, and what it wrote. -/
structure AcceptedWrite (service : MemoryService) (backing : Backing) (request : Message)
    (backing' : Backing) : Prop where
  version : request.version = hostProtocolVersion
  type : request.type = typeMemoryRequest
  status : request.status = HostStatus.ok.code
  operation : request.memoryOperation = memoryWriteOperation
  length : request.length.toNat = memoryPayloadHeaderSize + request.memoryLength.toNat
  length_le : request.memoryLength.toNat ≤ memoryDataBytes
  allowed : writeRangeAllowed service request.memoryAddress request.memoryLength.toNat = true
  written : memoryBackingWrite backing request.memoryAddress request.memoryData = some backing'

/-- A request is an accepted write, or leaves the backing alone; a write that leaves it alone is
refused. -/
theorem memoryServiceHandle_cases (service : MemoryService) (backing : Backing)
    (request : Message) :
    ((memoryServiceHandle service backing request).2 = backing ∧
      (request.memoryOperation = memoryWriteOperation →
        (memoryServiceHandle service backing request).1.status ≠ HostStatus.ok.code)) ∨
    ∃ backing', AcceptedWrite service backing request backing' ∧
      memoryServiceHandle service backing request = (memoryReply request .ok [], backing') := by
  have hne : ∀ status : HostStatus, status ≠ .ok →
      (memoryReply request status []).status ≠ HostStatus.ok.code :=
    fun status h hc => h ((@HostStatus.code_eq_ok status).mp hc)
  unfold memoryServiceHandle
  split_ifs with hheader havail hrange hread hwrite hallowed
  · exact Or.inl ⟨rfl, fun _ => hne .badLength (by decide)⟩
  · exact Or.inl ⟨rfl, fun _ => hne .serviceUnavailable (by decide)⟩
  · exact Or.inl ⟨rfl, fun _ => hne .badLength (by decide)⟩
  · refine Or.inl ⟨?_, fun hop => ?_⟩
    · split <;> rfl
    · rw [hread.1] at hop
      cases hop
  · exact Or.inl ⟨rfl, fun _ => hne .badState (by decide)⟩
  · simp only [not_or, ne_eq, Decidable.not_not] at hheader hrange
    split
    · exact Or.inl ⟨rfl, fun _ => hne .ioError (by decide)⟩
    · next backing' hw =>
      exact Or.inr ⟨backing', {
        version := hheader.1
        type := hheader.2.1
        status := hheader.2.2.1
        operation := hwrite.1
        length := hwrite.2
        length_le := Nat.not_lt.mp hrange.1
        allowed := by simpa using hallowed
        written := hw }, rfl⟩
  · exact Or.inl ⟨rfl, fun _ => hne .badLength (by decide)⟩

/-- A write that passes the checks is answered `OK`. -/
theorem AcceptedWrite.handle {service : MemoryService} {backing backing' : Backing}
    {request : Message} (h : AcceptedWrite service backing request backing') :
    memoryServiceHandle service backing request = (memoryReply request .ok [], backing') := by
  obtain ⟨hv, -⟩ := memoryBackingWrite_eq_some h.written
  rw [length_memoryData h.length_le] at hv
  have havail := (memoryBackingRangeValid_iff.mp hv).1
  have hlen := h.length
  have hle := h.length_le
  have hop : request.memoryOperation ≠ memoryReadOperation := by
    rw [h.operation]
    decide
  unfold memoryServiceHandle
  rw [if_neg, if_neg, if_neg, if_neg, if_pos ⟨h.operation, hlen⟩, if_neg, h.written]
  · rfl
  · simp [h.allowed]
  · exact fun hc => hop hc.1
  · simp only [hv, Bool.not_true, Bool.false_eq_true, or_false]
    omega
  · simp [havail]
  · simp only [h.version, h.type, h.status, ne_eq, not_true_eq_false, false_or]
    omega

theorem hostServiceDispatchMemory_sameGeometry (state : WorkloadState) (backing : Backing)
    (request : Message) :
    SameGeometry backing (hostServiceDispatchMemory state backing request).2.2 := by
  unfold hostServiceDispatchMemory
  rcases memoryServiceHandle_cases (dispatchWindow state backing) backing request with
    ⟨h, -⟩ | ⟨backing', hw, h⟩
  · simp only [h]
    exact .refl backing
  · simp only [h]
    exact memoryBackingWrite_sameGeometry hw.written

/-- Only an accepted write changes the backing. -/
theorem acceptedWrite_of_changed {state : WorkloadState} {backing : Backing} {request : Message}
    {i : ℕ} (h : (hostServiceDispatchMemory state backing request).2.2.storage i
      ≠ backing.storage i) :
    AcceptedWrite (dispatchWindow state backing) backing request
        (hostServiceDispatchMemory state backing request).2.2 ∧
      (hostServiceDispatchMemory state backing request).1 = memoryReply request .ok [] ∧
      backing.offset request.memoryAddress ≤ i ∧
      i < backing.offset request.memoryAddress + request.memoryLength.toNat := by
  unfold hostServiceDispatchMemory at h ⊢
  rcases memoryServiceHandle_cases (dispatchWindow state backing) backing request with
    ⟨heq, -⟩ | ⟨backing', hw, heq⟩
  · simp only [heq] at h
    exact absurd rfl h
  · simp only [heq] at h ⊢
    have hmem : backing.offset request.memoryAddress ≤ i ∧
        i < backing.offset request.memoryAddress + request.memoryLength.toNat := by
      by_contra hc
      rw [← length_memoryData hw.length_le] at hc
      exact h (memoryBackingWrite_frame hw.written hc)
    exact ⟨hw, trivial, hmem⟩

theorem memoryServiceHandle_type (service : MemoryService) (backing : Backing)
    (request : Message) :
    (memoryServiceHandle service backing request).1.type = typeMemoryResult := by
  unfold memoryServiceHandle
  split_ifs
  · rfl
  · rfl
  · rfl
  · split <;> rfl
  · rfl
  · split <;> rfl
  · rfl

/-- A write that is accepted while a workload is running has a range of the page that the Host
owns, or is empty. -/
theorem AcceptedWrite.running_window {backing backing' : Backing} {request : Message}
    (h : AcceptedWrite (dispatchWindow .running backing) backing request backing') :
    (sharedMailboxHostOwned backing = true ∧ 0x3F000 ≤ request.memoryAddress.toNat ∧
      request.memoryAddress.toNat + request.memoryLength.toNat ≤ 0x40000) ∨
    request.memoryLength.toNat = 0 := by
  have hallowed := h.allowed
  rw [writeRangeAllowed_iff] at hallowed
  cases howned : sharedMailboxHostOwned backing with
  | true =>
    simp only [dispatchWindow, howned, and_self, ↓reduceIte] at hallowed
    obtain ⟨hle, hwin⟩ := hallowed
    rw [UInt32.toNat_sub_of_le _ _ hle] at hwin
    have hmb : sharedMailboxBase.toNat = 0x3F000 := rfl
    have hms : sharedMailboxSize.toNat = 0x1000 := rfl
    have hle' := UInt32.le_iff_toNat_le.mp hle
    exact Or.inl ⟨rfl, by omega, by omega⟩
  | false =>
    simp only [dispatchWindow, howned, Bool.false_eq_true, and_false, ↓reduceIte] at hallowed
    have hz : (0 : UInt32).toNat = 0 := rfl
    exact Or.inr (by omega)

/-- **While a workload is running, a memory request changes only bytes of the mailbox page, and
only if the Host owns the page.** -/
theorem dispatch_running_frame {backing : Backing} {request : Message} {i : ℕ}
    (h : (hostServiceDispatchMemory .running backing request).2.2.storage i ≠ backing.storage i) :
    sharedMailboxHostOwned backing = true ∧ 0x3F000 ≤ backing.processorBase.toNat + i ∧
      backing.processorBase.toNat + i < 0x40000 := by
  obtain ⟨hw, -, hlo, hhi⟩ := acceptedWrite_of_changed h
  obtain ⟨hv, -⟩ := memoryBackingWrite_eq_some hw.written
  obtain ⟨-, hbase, -⟩ := memoryBackingRangeValid_iff.mp hv
  have hoff : backing.offset request.memoryAddress
      = request.memoryAddress.toNat - backing.processorBase.toNat :=
    UInt32.toNat_sub_of_le _ _ hbase
  have hbase' := UInt32.le_iff_toNat_le.mp hbase
  rcases hw.running_window with ⟨howned, hge, hle⟩ | hzero
  · exact ⟨howned, by omega, by omega⟩
  · omega

/-- A memory request to a running workload leaves the backing alone, or is a write of a range of
the page that the Host owns. -/
theorem dispatch_running_cases (backing : Backing) (request : Message) :
    (hostServiceDispatchMemory .running backing request).2.2 = backing ∨
    ((hostServiceDispatchMemory .running backing request).1.status = HostStatus.ok.code ∧
      request.memoryOperation = memoryWriteOperation ∧
      sharedMailboxHostOwned backing = true ∧ 0x3F000 ≤ request.memoryAddress.toNat ∧
      request.memoryAddress.toNat + request.memoryLength.toNat ≤ 0x40000) := by
  unfold hostServiceDispatchMemory
  rcases memoryServiceHandle_cases (dispatchWindow .running backing) backing request with
    ⟨heq, -⟩ | ⟨backing', hw, heq⟩
  · exact Or.inl heq
  · simp only [heq]
    rcases hw.running_window with hwindow | hzero
    · exact Or.inr ⟨rfl, hw.operation, hwindow⟩
    · have hnil : request.memoryData = [] := by
        rw [← List.length_eq_zero_iff, length_memoryData hw.length_le, hzero]
      obtain ⟨-, hbacking⟩ := memoryBackingWrite_eq_some hw.written
      rw [hnil, writeBytes_nil] at hbacking
      exact Or.inl hbacking

/-! ### Requests of the Host -/

def memoryHeader (operation : UInt8) (address length : ℕ) : List UInt8 :=
  [operation, 0, 0, 0] ++ (leBytes 4 address ++ leBytes 4 length)

theorem length_memoryHeader (operation : UInt8) (address length : ℕ) :
    (memoryHeader operation address length).length = memoryPayloadHeaderSize := by
  simp [memoryHeader, memoryPayloadHeaderSize]

/-- The fields that the memory service reads from a request. -/
theorem memoryHeader_fields {sequence : UInt32} {operation : UInt8} {address length : ℕ}
    {data : List UInt8} (haddress : address < 2 ^ 32) (hlength : length < 2 ^ 32)
    (hfits : (memoryHeader operation address length ++ data).length ≤ payloadSize) {m : Message}
    (hm : m = Message.request typeMemoryRequest sequence
      (memoryHeader operation address length ++ data)) :
    m.memoryOperation = operation ∧ m.memoryAddress.toNat = address ∧
      m.memoryLength.toNat = length ∧
      (m.payload.drop memoryPayloadHeaderSize).take data.length = data ∧
      m.length.toNat = memoryPayloadHeaderSize + data.length := by
  have htwelve := length_memoryHeader operation address length
  have h12 : memoryPayloadHeaderSize = 12 := rfl
  have hlen : (memoryHeader operation address length ++ data).length
      = memoryPayloadHeaderSize + data.length := by rw [List.length_append, htwelve]
  subst hm
  refine ⟨Message.request_getD hfits (by omega), ?_, ?_, ?_,
    (Message.request_length hfits).trans hlen⟩
  · rw [Message.memoryAddress, Message.request_word hfits (by omega)]
    simpa [memoryHeader, le32_cons, le32_leBytes] using haddress
  · rw [Message.memoryLength, Message.request_word hfits (by omega)]
    simpa [memoryHeader, le32_cons, le32_append_of_le, le32_leBytes] using hlength
  · rw [Message.request_slice hfits (by omega), List.drop_left' htwelve, List.take_length]

/-- The header of the payload of a write request. -/
def memoryWriteHeader (w : ByteWrite) : List UInt8 :=
  [memoryWriteOperation, 0, 0, 0] ++ (leBytes 4 w.1 ++ leBytes 4 w.2.length)

def memoryWriteRequest (sequence : UInt32) (w : ByteWrite) : Message :=
  Message.request typeMemoryRequest sequence (memoryWriteHeader w ++ w.2)

section

variable {sequence : UInt32} {w : ByteWrite}

theorem length_memoryWriteHeader (w : ByteWrite) :
    (memoryWriteHeader w).length = memoryPayloadHeaderSize :=
  length_memoryHeader memoryWriteOperation w.1 w.2.length

theorem length_memoryWritePayload (hlength : w.2.length ≤ memoryDataBytes) :
    (memoryWriteHeader w ++ w.2).length ≤ payloadSize := by
  have h52 : payloadSize = 52 := rfl
  have h40 : memoryDataBytes = 40 := rfl
  have h12 : memoryPayloadHeaderSize = 12 := rfl
  rw [List.length_append, length_memoryWriteHeader]
  omega

theorem memoryWriteRequest_fields (haddress : w.1 < 2 ^ 32)
    (hlength : w.2.length ≤ memoryDataBytes) :
    let request := memoryWriteRequest sequence w
    request.memoryOperation = memoryWriteOperation ∧ request.memoryAddress.toNat = w.1 ∧
      request.memoryLength.toNat = w.2.length ∧ request.memoryData = w.2 ∧
      request.length.toNat = memoryPayloadHeaderSize + w.2.length := by
  intro request
  have h40 : memoryDataBytes = 40 := rfl
  obtain ⟨hoperation, hstart, hwidth, hdata, hlen⟩ := memoryHeader_fields haddress
    (show w.2.length < 2 ^ 32 by omega) (length_memoryWritePayload hlength)
    (Eq.refl request)
  rw [← hwidth] at hdata
  exact ⟨hoperation, hstart, hwidth, hdata, hlen⟩

/-- A write request inside Internal SRAM and the window is accepted. -/
theorem memoryWriteRequest_accepted {service : MemoryService} {backing : Backing}
    (hgeometry : backing.IsInternalSram) (hend : w.1 + w.2.length ≤ 0x40000)
    (hlength : w.2.length ≤ memoryDataBytes)
    (hallowed : writeRangeAllowed service (memoryWriteRequest sequence w).memoryAddress w.2.length
      = true) :
    AcceptedWrite service backing (memoryWriteRequest sequence w)
      { backing with storage := writeBytes backing.storage w.1 w.2 } := by
  obtain ⟨hop, haddress, hwidth, hdata, hlen⟩ :=
    @memoryWriteRequest_fields sequence w (by omega) hlength
  have hvalid := (rangeValid_internalSram hgeometry).mpr (haddress.symm ▸ hend)
  exact {
    version := rfl
    type := rfl
    status := rfl
    operation := hop
    length := by rw [hlen, hwidth]
    length_le := by rw [hwidth]; exact hlength
    allowed := by rw [hwidth]; exact hallowed
    written := by rw [hdata, memoryBackingWrite_of_valid hvalid,
      offset_internalSram hgeometry, haddress] }

/-- A write to the page of a running workload is served while the Host owns the page. -/
theorem dispatch_running_write {backing : Backing} (hgeometry : backing.IsInternalSram)
    (howned : sharedMailboxHostOwned backing = true) (hpage : 0x3F000 ≤ w.1)
    (hend : w.1 + w.2.length ≤ 0x40000) (hlength : w.2.length ≤ memoryDataBytes) :
    hostServiceDispatchMemory .running backing (memoryWriteRequest sequence w)
      = (memoryReply (memoryWriteRequest sequence w) .ok [], dispatchWindow .running backing,
          { backing with storage := writeBytes backing.storage w.1 w.2 }) := by
  obtain ⟨-, haddress, -⟩ := @memoryWriteRequest_fields sequence w (by omega) hlength
  have hmb : sharedMailboxBase.toNat = 0x3F000 := rfl
  have hms : sharedMailboxSize.toNat = 0x1000 := rfl
  have hle : sharedMailboxBase ≤ (memoryWriteRequest sequence w).memoryAddress := by
    rw [UInt32.le_iff_toNat_le]
    omega
  have hallowed : writeRangeAllowed (dispatchWindow .running backing)
      (memoryWriteRequest sequence w).memoryAddress w.2.length = true := by
    rw [dispatchWindow, if_pos ⟨rfl, howned⟩, writeRangeAllowed_iff]
    refine ⟨hle, ?_⟩
    rw [UInt32.toNat_sub_of_le _ _ hle, haddress]
    simp only
    omega
  simp only [hostServiceDispatchMemory,
    (memoryWriteRequest_accepted hgeometry hend hlength hallowed).handle]

end

end Rp86
