import Rp86.Processor.Telemetry

/-!
# The telemetry sequence

Every update writes `last_event.seq` before and after all the other words.  `UpdatePhase` says where
the processor is in an update by what it has left to write; from it follow the laws of a sequence
lock (`WriterStep`): the sequence is odd exactly while the words change.
-/

namespace Rp86.Processor

/-- A write of a word of the block other than its sequence. -/
def TelemetryStore.IsField : TelemetryStore → Prop
  | telemetrySequence | seq => False
  | _ => True

/-- The writes that are left of the update in progress, with `usTelemetrySequence` and the sequence
in the block. -/
inductive UpdatePhase (pending : List TelemetryStore) (counter seq : UInt16) : Prop where
  | idle (hpending : pending = []) (heven : seq.toNat % 2 = 0) (hcounter : counter = seq)
  | entered (fields : List TelemetryStore) (hfields : ∀ store ∈ fields, store.IsField)
      (hpending : pending
        = .telemetrySequence :: .seq :: (fields ++ [.telemetrySequence, .seq]))
      (heven : seq.toNat % 2 = 0) (hcounter : counter = seq)
  | announced (fields : List TelemetryStore) (hfields : ∀ store ∈ fields, store.IsField)
      (hpending : pending = .seq :: (fields ++ [.telemetrySequence, .seq]))
      (heven : seq.toNat % 2 = 0) (hcounter : counter = seq + 1)
  | writing (fields : List TelemetryStore) (hfields : ∀ store ∈ fields, store.IsField)
      (hpending : pending = fields ++ [.telemetrySequence, .seq])
      (hodd : seq.toNat % 2 = 1) (hcounter : counter = seq)
  | closing (hpending : pending = [.seq]) (hodd : seq.toNat % 2 = 1) (hcounter : counter = seq + 1)

/-- Every update is a begin, writes of other words and a commit. -/
theorem TelemetryUpdate.stores_eq (u : TelemetryUpdate) :
    ∃ fields : List TelemetryStore, (∀ store ∈ fields, store.IsField) ∧
      u.stores = .telemetrySequence :: .seq :: (fields ++ [.telemetrySequence, .seq]) := by
  cases u with
  | bootStage usStage =>
    refine ⟨[.event fun _ => evtBoot, .arg fun _ => usStage], ?_, rfl⟩
    simp [TelemetryStore.IsField]
  | error usCode =>
    refine ⟨[.errorCount, .event fun _ => evtError, .arg fun _ => usCode], ?_, rfl⟩
    simp [TelemetryStore.IsField]
  | led =>
    refine ⟨[.ledState, .ledToggleCount,
      .event fun t => if t.ledState ≠ 0 then evtLedOn else evtLedOff,
      .arg fun t => t.ledToggleCount], ?_, rfl⟩
    simp [TelemetryStore.IsField]
  | queueSend usValue =>
    refine ⟨[.queueTxCount, .event fun _ => evtQueueSend, .arg fun _ => usValue], ?_, rfl⟩
    simp [TelemetryStore.IsField]
  | queueRecv usValue =>
    refine ⟨[.queueRxCount, .event fun _ => evtQueueRecv, .arg fun _ => usValue], ?_, rfl⟩
    simp [TelemetryStore.IsField]

namespace TelemetryWorkload

/-- Where the workload is in its updates. -/
def Phase (w : TelemetryWorkload) : Prop :=
  UpdatePhase w.pending w.usTelemetrySequence w.telemetry.seq

theorem store_field_seq (w : TelemetryWorkload) {store : TelemetryStore} (h : store.IsField) :
    (w.store store).telemetry.seq = w.telemetry.seq ∧
      (w.store store).usTelemetrySequence = w.usTelemetrySequence := by
  cases store with
  | telemetrySequence | seq => exact h.elim
  | _ => exact ⟨rfl, rfl⟩

/-- What a step of the processor may do to the block. -/
structure WriterStep (w w' : TelemetryWorkload) : Prop where
  phase : w'.Phase
  even : w.telemetry.seq.toNat % 2 = 0 →
    w'.telemetry = w.telemetry ∨ w'.telemetry.seq = w.telemetry.seq + 1
  odd : w.telemetry.seq.toNat % 2 = 1 →
    w'.telemetry.seq = w.telemetry.seq ∨ w'.telemetry.seq = w.telemetry.seq + 1
  /-- The block was not written, or is as the last write of an update leaves it. -/
  settled : w'.telemetry.seq.toNat % 2 = 0 → w'.pending = [] ∨ w'.telemetry = w.telemetry

theorem WriterStep.refl {w : TelemetryWorkload} (h : w.Phase) : WriterStep w w where
  phase := h
  even _ := .inl rfl
  odd _ := .inl rfl
  settled _ := .inr rfl

theorem Phase.idle_of_pending {w : TelemetryWorkload} (h : w.Phase) (hpending : w.pending = []) :
    w.telemetry.seq.toNat % 2 = 0 ∧ w.usTelemetrySequence = w.telemetry.seq := by
  cases h with
  | idle _ heven hcounter => exact ⟨heven, hcounter⟩
  | entered fields _ hp | announced fields _ hp | writing fields _ hp | closing hp =>
    rw [hpending] at hp
    simp at hp

theorem toNat_add_one_mod_two (seq : UInt16) : (seq + 1).toNat % 2 = (seq.toNat + 1) % 2 := by
  have h : (seq + 1).toNat = (seq.toNat + 1) % 65536 := UInt16.toNat_add ..
  omega

theorem writerStep_enter {w : TelemetryWorkload} (h : w.Phase) (u : TelemetryUpdate) :
    WriterStep w (w.enter u) := by
  unfold enter
  split
  next hpending =>
    obtain ⟨fields, hfields, hstores⟩ := u.stores_eq
    obtain ⟨heven, hcounter⟩ := h.idle_of_pending hpending
    exact ⟨.entered fields hfields hstores heven hcounter, fun _ => .inl rfl, fun _ => .inl rfl,
      fun _ => .inr rfl⟩
  next => exact .refl h

/-- The writes of an update, one after the other. -/
theorem writerStep_next {w : TelemetryWorkload} (h : w.Phase) : WriterStep w w.next := by
  cases h with
  | idle hp heven hcounter =>
    have hnext : w.next = w := by simp only [next, hp]
    rw [hnext]
    exact .refl (.idle hp heven hcounter)
  -- the counter is advanced, which is no word of the block
  | entered fields hfields hp heven hcounter =>
    have hnext : w.next = { w.store .telemetrySequence with
        pending := .seq :: (fields ++ [.telemetrySequence, .seq]) } := by simp only [next, hp]
    rw [hnext]
    exact ⟨.announced fields hfields rfl heven (congrArg (· + 1) hcounter), fun _ => .inl rfl,
      fun _ => .inl rfl, fun _ => .inr rfl⟩
  -- the first write of the block makes its sequence odd
  | announced fields hfields hp heven hcounter =>
    have hnext : w.next = { w.store .seq with
        pending := fields ++ [.telemetrySequence, .seq] } := by simp only [next, hp]
    have hseq : w.next.telemetry.seq = w.telemetry.seq + 1 := by rw [hnext]; exact hcounter
    have hodd : w.next.telemetry.seq.toNat % 2 = 1 := by
      rw [hseq, toNat_add_one_mod_two]
      omega
    refine ⟨.writing fields hfields (by rw [hnext]) hodd (by rw [hnext]; rfl), fun _ => .inr hseq,
      fun _ => .inr hseq, fun heven' => ?_⟩
    omega
  | writing fields hfields hp hodd hcounter =>
    cases fields with
    | nil =>
      have hnext : w.next = { w.store .telemetrySequence with pending := [.seq] } := by
        simp [next, hp]
      rw [hnext]
      exact ⟨.closing rfl hodd (congrArg (· + 1) hcounter), fun _ => .inl rfl, fun _ => .inl rfl,
        fun _ => .inr rfl⟩
    | cons store fields =>
      have hnext : w.next = { w.store store with
          pending := fields ++ [.telemetrySequence, .seq] } := by
        simp [next, hp]
      obtain ⟨hseq, hcounter'⟩ := w.store_field_seq (hfields store (List.mem_cons_self ..))
      rw [← hseq] at hodd
      rw [hnext]
      refine ⟨.writing fields (fun s hs => hfields s (List.mem_cons_of_mem _ hs)) rfl hodd
        (by rw [hcounter', hcounter, hseq]), fun heven => ?_, fun _ => .inl hseq, fun heven => ?_⟩
      · rw [hseq] at hodd
        omega
      · exact absurd (hodd.symm.trans heven) Nat.one_ne_zero
  -- the last one makes it even again, when nothing is left to write
  | closing hp hodd hcounter =>
    have hnext : w.next = { w.store .seq with pending := [] } := by simp only [next, hp]
    have hseq : w.next.telemetry.seq = w.telemetry.seq + 1 := by rw [hnext]; exact hcounter
    have heven : w.next.telemetry.seq.toNat % 2 = 0 := by
      rw [hseq, toNat_add_one_mod_two]
      omega
    exact ⟨.idle (by rw [hnext]) heven (by rw [hnext]; rfl), fun _ => .inr hseq, fun _ => .inr hseq,
      fun _ => .inl (by rw [hnext])⟩

end TelemetryWorkload

end Rp86.Processor
