import Rp86.Host.Equiv.Memory
import Rp86.Host.Equiv.ServiceClient
import Rp86.Memory.Equiv.MemoryAccess

/-!
# Reading and writing memory from the Host

`read_memory` and `write_memory` with the memory service of a runtime that runs no workload.  The
requests of a write leave the backing with the data in its range (`writeMemoryLoop_writes`), and
those of a read come back with the bytes of their range (`readMemoryLoop_reads`), both in chunks of
forty bytes.
-/

namespace Rp86.Host

open Lib

/-! ### Replies -/

theorem validateMemoryReply_eq_ok {reply request : Message} {data : List UInt8} :
    validateMemoryReply reply request = .ok data ↔
      reply.messageType = typeMemoryResult ∧ reply.sequence = request.sequence ∧
        reply.status = statusOk ∧ memoryHeaderSize ≤ reply.payload.length ∧
        reply.payload.take memoryHeaderSize = request.payload.take memoryHeaderSize ∧
        data = reply.payload.drop memoryHeaderSize := by
  unfold validateMemoryReply
  simp only [check_eq_ok, not_not, Nat.not_lt]
  constructor
  · rintro ⟨htype, hsequence, -, hstatus, hlength, hecho, hreturn⟩
    exact ⟨htype, hsequence, hstatus, hlength, hecho, (Except.ok.inj hreturn).symm⟩
  · rintro ⟨htype, hsequence, hstatus, hlength, hecho, rfl⟩
    refine ⟨htype, hsequence, ?_, hstatus, hlength, hecho, rfl⟩
    rintro ⟨hrefused, -⟩
    rw [hstatus] at hrefused
    exact absurd hrefused (by decide)

/-- **The device's answer `OK` passes the Host's check**, with the data behind the header. -/
theorem validateMemoryReply_memoryReply {sequence : ℤ} {payload data : List UInt8}
    (hsequence : 0 ≤ sequence ∧ sequence < 2 ^ 32) (hheader : memoryHeaderSize ≤ payload.length)
    (hpayload : payload.length ≤ payloadSize) (hdata : data.length ≤ memoryDataBytes) :
    validateMemoryReply
      (ofDevice (memoryReply (Rp86.Message.request Rp86.typeMemoryRequest
        (UInt32.ofNat sequence.toNat) payload) .ok data))
      { messageType := typeMemoryRequest, sequence := sequence, payload := payload }
      = .ok data := by
  have h40 : memoryDataBytes = 40 := rfl
  have h12' : memoryHeaderSize = 12 := rfl
  have h52 : Rp86.payloadSize = 52 := rfl
  set request := Rp86.Message.request Rp86.typeMemoryRequest (UInt32.ofNat sequence.toNat) payload
    with hrequest
  have hfront : request.payload.take memoryPayloadHeaderSize = payload.take memoryHeaderSize := by
    rw [hrequest, Rp86.Message.request_payload hpayload]
    exact List.take_append_of_le_length hheader
  have hlen : (payload.take memoryHeaderSize).length = memoryHeaderSize :=
    List.length_take_of_le hheader
  have hreply : (ofDevice (memoryReply request .ok data)).payload
      = payload.take memoryHeaderSize ++ data := by
    have hwidth : (memoryReply request .ok data).length.toNat
        = (payload.take memoryHeaderSize ++ data).length := by
      rw [memoryReply_length hdata, List.length_append, hlen]
      rfl
    rw [ofDevice, hwidth, memoryReply, Rp86.Message.reply, hfront]
    refine take_padPayload ?_
    rw [List.length_append, hlen]
    omega
  rw [validateMemoryReply_eq_ok, hreply]
  refine ⟨rfl, ?_, rfl, ?_, ?_, ?_⟩
  · show (((UInt32.ofNat sequence.toNat).toNat : ℕ) : ℤ) = sequence
    rw [UInt32.toNat_ofNat', Nat.mod_eq_of_lt (by omega)]
    omega
  · rw [List.length_append]
    omega
  · exact List.take_left' hlen
  · exact (List.drop_left' hlen).symm

theorem parseMemoryRead_of_valid {reply request : Message} {address : ℕ} {data : List UInt8}
    (hrequest : request.payload = memoryHeader memoryReadOperation address data.length)
    (hdata : data.length < 2 ^ 32) (hvalid : validateMemoryReply reply request = .ok data) :
    parseMemoryRead reply request = .ok data := by
  obtain ⟨-, -, -, -, hecho, hdrop⟩ := validateMemoryReply_eq_ok.mp hvalid
  have hpayload : reply.payload = [memoryReadOperation, 0, 0, 0] ++ (leBytes 4 address ++
      (leBytes 4 data.length ++ data)) := by
    have hheader : request.payload.take memoryHeaderSize = request.payload := by
      rw [hrequest]
      exact List.take_of_length_le (Nat.le_of_eq (length_memoryHeader _ _ _))
    rw [← List.take_append_drop memoryHeaderSize reply.payload, hecho, ← hdrop, hheader, hrequest,
      memoryHeader, List.append_assoc, List.append_assoc]
  have hlength : unpack32 reply.payload 8 = data.length := by
    rw [unpack32, hpayload]
    simp only [le32_append_of_le, le32_leBytes, length_leBytes, List.length_cons, List.length_nil,
      Nat.reduceAdd, Nat.reduceSub, Nat.reduceLeDiff, UInt32.toNat_ofNat', Nat.mod_eq_of_lt hdata]
  unfold parseMemoryRead
  rw [bind_eq_ok]
  refine ⟨data, hvalid, ?_⟩
  rw [check_eq_ok, hlength, hpayload]
  exact ⟨not_or.mpr ⟨not_not.mpr rfl, not_not.mpr rfl⟩, rfl⟩

/-! ### Exchanges -/

section

variable {σ : Type} {exchange : RequestExchange σ} {backing : σ → Backing} {Inv : σ → Prop}

/-- An exchange with a runtime that runs no workload.  Every memory request that can be encoded is
handed to the memory service, its reply comes back, and the invariant is kept. -/
structure MemoryServes (exchange : RequestExchange σ) (backing : σ → Backing) (Inv : σ → Prop) :
    Prop where
  serves : ∀ device request (record : Record), Inv device →
    request.messageType = typeMemoryRequest → request.encode = .ok record.bytes →
    ∃ state, state ≠ WorkloadState.running ∧ Inv (exchange device request).2 ∧
      (exchange device request).1.1 = (Message.decode (hostServiceDispatchMemory state
        (backing device) (Message.ofRecord record)).1.toRecord.bytes).toOption ∧
      backing (exchange device request).2 = (hostServiceDispatchMemory state (backing device)
        (Message.ofRecord record)).2.2

/-- A client of Internal SRAM with these bytes. -/
structure MemoryClient (backing : σ → Backing) (Inv : σ → Prop) (c : ServiceClient σ)
    (storage : ByteMap) : Prop where
  device : Inv c.device
  backing : backing c.device = { internalSramBackingInit with storage := storage }
  sequence : 0 ≤ c.sequence ∧ c.sequence < 2 ^ 32

variable {c : ServiceClient σ} {storage : ByteMap}

/-- A request that the memory service answers `OK` in every state but `RUNNING`. -/
theorem MemoryServes.answered (h : MemoryServes exchange backing Inv)
    (hc : MemoryClient backing Inv c storage) (sequence : ℤ) (payload data : List UInt8)
    (storage' : ByteMap) (hsequence : 0 ≤ sequence ∧ sequence < 2 ^ 32)
    (hheader : memoryHeaderSize ≤ payload.length) (hpayload : payload.length ≤ payloadSize)
    (hdata : data.length ≤ memoryDataBytes)
    (hdispatch : ∀ state, state ≠ .running →
      let device := Rp86.Message.request Rp86.typeMemoryRequest (UInt32.ofNat sequence.toNat)
        payload
      let sram := { internalSramBackingInit with storage := storage }
      hostServiceDispatchMemory state sram device = (memoryReply device .ok data,
        dispatchWindow state sram, { internalSramBackingInit with storage := storage' })) :
    let request : Message :=
      { messageType := typeMemoryRequest, sequence := sequence, payload := payload }
    ∃ reply c', serviceMemoryRequest exchange request c = (.returned reply, c') ∧
      validateMemoryReply reply request = .ok data ∧ MemoryClient backing Inv c' storage' := by
  intro request
  simp only at hdispatch
  have hvalid := validateMemoryReply_memoryReply hsequence hheader hpayload hdata
  set device := Rp86.Message.request Rp86.typeMemoryRequest (UInt32.ofNat sequence.toNat) payload
    with hrequest
  have hencode : request.encode = .ok device.toRecord.bytes :=
    Message.encode_request ⟨by decide, by decide⟩ hsequence hpayload
  obtain ⟨state, hstate, hinv, hanswer, hbacking⟩ :=
    h.serves c.device _ device.toRecord hc.device rfl hencode
  rw [Rp86.Message.ofRecord_toRecord, hc.backing, hdispatch state hstate] at hanswer hbacking
  have hnext := nextSequence_range sequence
  refine ⟨_, _, serviceRequest_eq_returned.mpr ⟨?_, ⟨data, hvalid⟩, rfl⟩, hvalid,
    ⟨hinv, hbacking, Int.le_trans (by decide) hnext.1, hnext.2⟩⟩
  have hlength := (dispatchMemory_length state { internalSramBackingInit with storage := storage }
    device)
  rw [hdispatch state hstate] at hlength
  rw [hanswer, decode_toRecord rfl hlength]
  rfl

theorem MemoryServes.write (h : MemoryServes exchange backing Inv)
    (hc : MemoryClient backing Inv c storage) {message : Message} {w : ByteWrite}
    (hmessage : message.WriteRequest w) (hend : w.1 + w.2.length ≤ 0x40000) :
    ∃ reply c', serviceMemoryRequest exchange message c = (.returned reply, c') ∧
      MemoryClient backing Inv c' (writeBytes storage w.1 w.2) := by
  rw [hmessage.eq]
  obtain ⟨reply, c', hreply, -, hc'⟩ := h.answered hc message.sequence
    (memoryWriteHeader w ++ w.2) [] (writeBytes storage w.1 w.2) hmessage.sequence
    (by
      rw [List.length_append, length_memoryWriteHeader]
      exact Nat.le_add_right _ _)
    (length_memoryWritePayload hmessage.length_le) (Nat.zero_le _)
    (fun state hstate => dispatch_idle_write hstate ⟨rfl, rfl, rfl⟩ hend hmessage.length_le)
  exact ⟨reply, c', hreply, hc'⟩

/-- The request of a read inside Internal SRAM. -/
theorem memoryReadRequest_eq_ok {address length : ℕ} {sequence : ℤ} (hpos : 0 < length)
    (hlength : length ≤ memoryDataBytes) (hend : address + length ≤ 0x40000) :
    memoryReadRequest address length sequence
      = .ok { messageType := typeMemoryRequest
              sequence := sequence
              payload := memoryHeader memoryReadOperation address length } := by
  have hlimit : memoryEnd = 0x40000 := rfl
  have hread : memoryRead = 1 := rfl
  have hcheck : checkAddress address = .ok (address : ℤ) := by
    rw [checkAddress, if_pos]
    exact ⟨Int.natCast_nonneg _, by omega⟩
  unfold memoryReadRequest
  simp only [bind_eq_ok, check_eq_ok, structPack_eq_ok_iff]
  refine ⟨_, hcheck, ?_, memoryHeader memoryReadOperation address length, ⟨?_, ?_⟩, rfl⟩
  · omega
  · simp only [forall_fits_cons, forall_fits_nil, and_true]
    omega
  · simp only [List.flatMap_cons, List.flatMap_nil, IntField.bytes, Int.toNat_natCast,
      List.append_nil]
    rfl

theorem MemoryServes.read (h : MemoryServes exchange backing Inv)
    (hc : MemoryClient backing Inv c storage) (address length : ℕ) (hpos : 0 < length)
    (hlength : length ≤ memoryDataBytes) (hend : address + length ≤ 0x40000) :
    ∃ request reply c', memoryReadRequest address length c.sequence = .ok request ∧
      serviceMemoryRequest exchange request c = (.returned reply, c') ∧
      parseMemoryRead reply request = .ok (readBytes storage address length) ∧
      MemoryClient backing Inv c' storage := by
  have hheader := length_memoryHeader memoryReadOperation address length
  obtain ⟨reply, c', hreply, hvalid, hc'⟩ := h.answered hc c.sequence
    (memoryHeader memoryReadOperation address length) (readBytes storage address length) storage
    hc.sequence (Nat.le_of_eq hheader.symm) (hheader.trans_le (by decide))
    (by rwa [length_readBytes]) (fun state _ => dispatch_read ⟨rfl, rfl, rfl⟩ hend hlength)
  refine ⟨_, reply, c', memoryReadRequest_eq_ok hpos hlength hend, hreply,
    @parseMemoryRead_of_valid _ _ address _ ?_ ?_ hvalid, hc'⟩
  · rw [length_readBytes]
  · rw [length_readBytes]
    omega

/-! ### The loops -/

/-- **All requests of a write are accepted.** -/
theorem writeMemoryLoop_writes (h : MemoryServes exchange backing Inv)
    {messages : List Message} {ws : List ByteWrite}
    (hmessages : List.Forall₂ Message.WriteRequest messages ws)
    (hend : ∀ w ∈ ws, w.1 + w.2.length ≤ 0x40000) {c : ServiceClient σ} {storage : ByteMap}
    (hc : MemoryClient backing Inv c storage) :
    ∃ c', writeMemoryLoop exchange messages c = (.returned (), c') ∧
      MemoryClient backing Inv c' (applyWrites storage ws) := by
  induction hmessages generalizing c storage with
  | nil => exact ⟨c, rfl, hc⟩
  | @cons message w messages ws hmessage _ ih =>
    obtain ⟨reply, c₁, hreply, hc₁⟩ := h.write hc hmessage (hend w List.mem_cons_self)
    obtain ⟨c', hloop, hc'⟩ := ih (fun w hw => hend w (List.mem_cons_of_mem _ hw)) hc₁
    refine ⟨c', ?_, hc'⟩
    rw [writeMemoryLoop, hreply]
    exact hloop

theorem readMemoryLoop_chunk {address length : ℤ} {content data : List UInt8}
    {c c₁ : ServiceClient σ} {request reply : Message} (hlength : content.length < length)
    (hrequest : memoryReadRequest (address + content.length) (min 40 (length - content.length))
      c.sequence = .ok request)
    (hreply : serviceMemoryRequest exchange request c = (.returned reply, c₁))
    (hdata : parseMemoryRead reply request = .ok data) :
    readMemoryLoop exchange address length content c
      = readMemoryLoop exchange address length (content ++ data) c₁ := by
  rw [readMemoryLoop, dif_pos hlength]
  split
  · next exception herror =>
    rw [hrequest] at herror
    cases herror
  next request' hrequest' =>
  obtain rfl := Except.ok.inj (hrequest.symm.trans hrequest')
  simp only [hreply]
  split
  · next exception herror =>
    rw [hdata] at herror
    cases herror
  next data' hdata' =>
  obtain rfl := Except.ok.inj (hdata.symm.trans hdata')
  rfl

/-- **The bytes of the range are read**, from where the loop stands. -/
theorem readMemoryLoop_reads (h : MemoryServes exchange backing Inv) {address length n : ℕ}
    (hend : address + length ≤ 0x40000) (hn : n ≤ length) {c : ServiceClient σ}
    (hc : MemoryClient backing Inv c storage) :
    ∃ c', readMemoryLoop exchange address length (readBytes storage address n) c
        = (.returned (readBytes storage address length), c') ∧
      MemoryClient backing Inv c' storage := by
  have h40 : memoryDataBytes = 40 := rfl
  -- each round reads forty bytes, or the rest
  induction hleft : length - n using Nat.strongRecOn generalizing n c with
  | _ left ih =>
  rcases Nat.lt_or_eq_of_le hn with hmore | rfl
  · obtain ⟨request, reply, c₁, hrequest, hreply, hdata, hc₁⟩ :=
      h.read hc (address + n) (min 40 (length - n)) (by omega) (by omega) (by omega)
    obtain ⟨c', hloop, hc'⟩ := ih (length - (n + min 40 (length - n))) (by omega)
      (show n + min 40 (length - n) ≤ length by omega) hc₁ rfl
    refine ⟨c', ?_, hc'⟩
    have hwidth : min 40 ((length : ℤ) - n) = ((min 40 (length - n) : ℕ) : ℤ) := by omega
    rw [readMemoryLoop_chunk (by rw [length_readBytes]; omega) ?_ hreply hdata, ← readBytes_add]
    · exact hloop
    · rw [length_readBytes, hwidth, ← Nat.cast_add]
      exact hrequest
  · refine ⟨c, ?_, hc⟩
    rw [readMemoryLoop, length_readBytes, dif_neg (Int.lt_irrefl _)]

/-- **Memory is written and read back, and nothing else changes.**  The memory service stays inside
the backing for every request, and its reply fits in a record. -/
theorem memory_round_trip_and_frame (exchange : RequestExchange σ) (backing : σ → Backing) :
    (∀ (Inv : σ → Prop) (c : ServiceClient σ) (address : ℤ) (data : List UInt8),
      MemoryServes exchange backing Inv → Inv c.device →
      SameGeometry internalSramBackingInit (backing c.device) →
      0 ≤ c.sequence ∧ c.sequence < 2 ^ 32 →
      0 ≤ address → data ≠ [] → address + data.length ≤ 256 * 1024 →
      ∃ c₁ c₂, writeMemory exchange address data c = (.returned (), c₁) ∧
        readMemory exchange address data.length c₁ = (.returned data, c₂) ∧
        backing c₂.device = backing c₁.device ∧
        SameGeometry internalSramBackingInit (backing c₁.device) ∧
        ∀ i : ℕ, ¬ (address ≤ i ∧ i < address + data.length) →
          (backing c₁.device).storage i = (backing c.device).storage i) ∧
    (∀ (state : WorkloadState) (b : Backing) (record : Record),
      (hostServiceDispatchMemory state b (Message.ofRecord record)).1.length.toNat ≤ 52 ∧
      (∀ i, b.size.toNat ≤ i →
        (hostServiceDispatchMemory state b (Message.ofRecord record)).2.2.storage i
          = b.storage i) ∧
      (∀ b', SameInside b b' →
        (hostServiceDispatchMemory state b' (Message.ofRecord record)).1
            = (hostServiceDispatchMemory state b (Message.ofRecord record)).1 ∧
          SameInside (hostServiceDispatchMemory state b (Message.ofRecord record)).2.2
            (hostServiceDispatchMemory state b' (Message.ofRecord record)).2.2)) := by
  refine ⟨fun Inv c address data hserves hdevice hgeometry hsequence hstart hne hend => ?_,
    fun state b record => ⟨dispatchMemory_length state b _, fun i => dispatchMemory_written,
      fun b' hsame => dispatchMemory_read hsame state _⟩⟩
  obtain ⟨start, rfl⟩ := Int.eq_ofNat_of_zero_le hstart
  have hend' : start + data.length ≤ 0x40000 := by omega
  have hc : MemoryClient backing Inv c (backing c.device).storage :=
    ⟨hdevice, hgeometry.eq, hsequence⟩
  obtain ⟨messages, ws, hrecords, hchunks, hmessages, -⟩ :=
    memoryWriteRecords_messages hne hend' hsequence
  obtain ⟨c₁, hwrite, hc₁⟩ := writeMemoryLoop_writes hserves hmessages
    (fun w hw => (hchunks.mem hw).2.2.2.trans hend') hc
  rw [hchunks.applyWrites] at hc₁
  obtain ⟨c₂, hread, hc₂⟩ := readMemoryLoop_reads hserves hend' (Nat.zero_le _) hc₁
  rw [readBytes_writeBytes_self] at hread
  refine ⟨c₁, c₂, ?_, hread, hc₂.backing.trans hc₁.backing.symm, ?_, fun i hi => ?_⟩
  · rw [writeMemory, hrecords]
    exact hwrite
  · rw [hc₁.backing]
    exact ⟨rfl, rfl, rfl⟩
  · rw [hc₁.backing]
    exact writeBytes_of_not_mem (by omega)

end

/-- The exchange that hands each record to the memory service, in a state of the lifecycle. -/
def memoryExchange (state : WorkloadState) : RequestExchange Backing := fun backing request =>
  match request.encode with
  | .error _ => ((none, none), backing)
  | .ok bytes =>
    if h : bytes.length = Rp86.messageSize then
      let (reply, _, backing') := hostServiceDispatchMemory state backing
        (Message.ofRecord ⟨bytes, h⟩)
      (((Message.decode reply.toRecord.bytes).toOption, none), backing')
    else ((none, none), backing)

theorem memoryExchange_serves {state : WorkloadState} (hstate : state ≠ .running) :
    MemoryServes (memoryExchange state) id fun _ => True := by
  refine ⟨fun device request record _ _ hencode => ⟨state, hstate, trivial, ?_⟩⟩
  unfold memoryExchange
  simp [hencode, record.length_bytes, id]

/-- The last 41 bytes of Internal SRAM take two requests. -/
theorem memory_round_trip_and_frame_end :
    ∃ c₁ c₂, writeMemory (memoryExchange .stopped) 0x3FFD7 (List.replicate 41 7)
        ⟨internalSramBackingInit, 1⟩ = (.returned (), c₁) ∧
      readMemory (memoryExchange .stopped) 0x3FFD7 41 c₁ = (.returned (List.replicate 41 7), c₂) ∧
      c₁.device.storage 0x3FFD6 = 0 := by
  obtain ⟨c₁, c₂, hwrite, hread, -, -, hframe⟩ :=
    (memory_round_trip_and_frame (memoryExchange .stopped) id).1 (fun _ => True)
      ⟨internalSramBackingInit, 1⟩ 0x3FFD7 (List.replicate 41 7)
      (memoryExchange_serves (by decide)) trivial (.refl _) (by decide) (by decide) (by decide)
      (by decide)
  exact ⟨c₁, c₂, hwrite, hread, hframe 0x3FFD6 (by decide)⟩

end Rp86.Host
