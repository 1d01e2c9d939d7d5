import Rp86.HostProtocol.RecordSlot

/-!
# The record slot hands over whole records in order

`ready` says whose turn it is: Core0 copies only while it is clear and Core1 only while it is set,
so the cores never touch the bytes together (`SlotInv`).  Every interleaving keeps this, access by
access, and what Core1 has taken is then what Core0 has published.
-/

namespace Rp86

open Lib

/-- The turns of the two cores, and how far each one has copied. -/
structure SlotInv (s : SlotSystem) : Prop where
  fifo : s.published.map Record.bytes = s.taken ++ s.pending
  producer : ∀ record i, s.producer = .copying record i →
    s.ready = false ∧ i ≤ messageSize ∧ readBytes s.record 0 i = record.bytes.take i
  consumer : ∀ bytes, s.consumer = .copying bytes →
    s.ready = true ∧ bytes.length ≤ messageSize ∧ bytes = readBytes s.record 0 bytes.length
  order : (s.published ++ s.producer.inFlight).Sublist s.offered
  counted : ∃ refused, s.published.length + s.producer.inFlight.length + refused
    = s.offered.length ∧ s.producerDrops = UInt32.ofNat refused

variable {s : SlotSystem}

theorem SlotInv.exclusive (h : SlotInv s) {record : Record} {i : ℕ} {bytes : List UInt8}
    (hproducer : s.producer = .copying record i) : s.consumer ≠ .copying bytes := by
  intro hconsumer
  have hready := (h.consumer bytes hconsumer).1
  rw [(h.producer record i hproducer).1] at hready
  cases hready

theorem SlotInv.setReport (h : SlotInv s) (buffer : List UInt8) : SlotInv (s.setReport buffer) := by
  unfold SlotSystem.setReport
  split
  · exact h
  next hidle =>
  split
  next hsize =>
    have horder := h.order
    obtain ⟨refused, hcounted, hdrops⟩ := h.counted
    rw [hidle] at horder hcounted
    simp only
    split
    next hready =>
      refine ⟨h.fifo, h.producer, h.consumer, ?_, refused + 1, ?_, ?_⟩
      · rw [hidle]
        exact horder.trans (List.sublist_append_left ..)
      · rw [hidle, List.length_append, ← hcounted]
        exact (Nat.add_assoc ..).symm
      · show s.producerDrops + 1 = _
        rw [hdrops, UInt32.ofNat_add]
        rfl
    next hfree =>
      refine ⟨h.fifo, ?_, h.consumer, ?_, refused, ?_, hdrops⟩
      · rintro record i ⟨⟩
        exact ⟨Bool.not_eq_true _ ▸ hfree, Nat.zero_le _, rfl⟩
      · rw [SlotProducer.inFlight, List.append_nil] at horder
        exact horder.append (List.Sublist.refl _)
      · rw [List.length_append, ← hcounted]
        exact Nat.add_right_comm ..
  · exact h

theorem SlotInv.publish (h : SlotInv s) : SlotInv s.publish := by
  unfold SlotSystem.publish
  split
  · exact h
  next record i hcopying =>
  obtain ⟨hready, hle, hcopied⟩ := h.producer record i hcopying
  have hfifo := h.fifo
  have horder := h.order
  obtain ⟨refused, hcounted, hdrops⟩ := h.counted
  rw [hcopying] at horder hcounted
  rw [RecordSlot.pending, hready] at hfifo
  split
  -- the next byte extends what has been copied
  next hlt =>
    refine ⟨?_, ?_, fun bytes hc => absurd hc (h.exclusive hcopying), horder, refused, hcounted,
      hdrops⟩
    · rwa [RecordSlot.pending, hready]
    · rintro record' i' ⟨⟩
      refine ⟨hready, hlt, ?_⟩
      have hi : i < record.bytes.length := record.length_bytes.symm ▸ hlt
      show readBytes (writeBytes s.record i [record.bytes.getD i 0]) 0 (i + 1) = _
      rw [readBytes_add, readBytes_writeBytes_of_disjoint (Or.inl (by omega)), hcopied,
        Nat.zero_add, List.take_succ_eq_append_getElem hi, List.getD_eq_getElem _ _ hi]
      exact congrArg _ (readBytes_writeBytes_self s.record i [record.bytes[i]])
  -- the store to `ready` hands the whole record over
  next hnlt =>
    obtain rfl : i = messageSize := by omega
    rw [← record.length_bytes, List.take_length, record.length_bytes] at hcopied
    refine ⟨?_, fun _ _ hc => (by cases hc), fun bytes hc => absurd hc (h.exclusive hcopying), ?_,
      refused, ?_, hdrops⟩
    · show _ = s.taken ++ [readBytes s.record 0 messageSize]
      rw [List.map_append, hfifo, hcopied]
      simp
    · rw [SlotProducer.inFlight, List.append_nil]
      exact horder
    · rw [← hcounted, List.length_append]
      rfl

theorem SlotInv.takeRecord (h : SlotInv s) : SlotInv s.takeRecord := by
  unfold SlotSystem.takeRecord
  split
  · exact h
  split
  next hready =>
    refine ⟨h.fifo, h.producer, ?_, h.order, h.counted⟩
    rintro bytes ⟨⟩
    exact ⟨hready, Nat.zero_le _, rfl⟩
  · exact h

theorem SlotInv.take (h : SlotInv s) : SlotInv s.take := by
  unfold SlotSystem.take
  split
  · exact h
  next bytes hcopying =>
  obtain ⟨hready, hle, hcopied⟩ := h.consumer bytes hcopying
  split
  next hlt =>
    refine ⟨h.fifo, h.producer, ?_, h.order, h.counted⟩
    rintro bytes' ⟨⟩
    rw [List.length_append]
    refine ⟨hready, hlt, ?_⟩
    rw [List.length_singleton, readBytes_add, ← hcopied]
    simp [readBytes]
  next hnlt =>
    have hfull : bytes.length = messageSize := by omega
    refine ⟨?_, fun record i hc => absurd hcopying (h.exclusive hc), fun _ hc => (by cases hc),
      h.order, h.counted⟩
    have hfifo := h.fifo
    rw [RecordSlot.pending, hready, if_pos rfl, ← hfull, ← hcopied] at hfifo
    rw [hfifo]
    exact (List.append_nil _).symm

theorem SlotInv.step (action : SlotAction) (h : SlotInv s) : SlotInv (slotStep s action) := by
  cases action with
  | setReport buffer => exact h.setReport buffer
  | publish => exact h.publish
  | takeRecord => exact h.takeRecord
  | take => exact h.take

/-- **In every interleaving of the two cores, Core1 takes the published records whole and in order,
each once, and at most one waits; the cores never copy at the same time; and each report of a
record's size is published in its turn, still being copied, or counted as dropped.** -/
theorem recordSlot_transfers (actions : List SlotAction) :
    let s := run slotStep slotReset actions
    s.published.map Record.bytes = s.taken ++ s.pending ∧
      (∀ record i bytes, s.producer = .copying record i → s.consumer ≠ .copying bytes) ∧
      (s.published ++ s.producer.inFlight).Sublist s.offered ∧
      ∃ refused, s.published.length + s.producer.inFlight.length + refused = s.offered.length ∧
        s.producerDrops = UInt32.ofNat refused := by
  intro s
  have hreset : SlotInv slotReset :=
    ⟨rfl, fun _ _ hc => (by cases hc), fun _ hc => (by cases hc), .refl _, 0, rfl, rfl⟩
  have hinv : SlotInv s := run_invariant (fun _ action h => h.step action) actions hreset
  exact ⟨hinv.fifo, fun _ _ _ => hinv.exclusive, hinv.order, hinv.counted⟩

end Rp86
