import Rp86.Runtime.Equiv.EvidenceQueue
import Rp86.Runtime.Evidence

/-!
# The order of CDC evidence

A text that is written directly while the queue still holds bytes overtakes them, and stands in the
middle of a line that was drained in part.  What holds of every run is `Merged`: CDC has got the
direct texts, each in one piece, and between them the queued texts byte for byte in order.  When
every direct write finds the queue empty, all texts arrive in the order of the calls (`InOrder`).
-/

namespace Rp86

open Lib

/-! ### Writes -/

theorem CdcPoll.taken_le (poll : CdcPoll) (length : ℕ) : poll.taken length ≤ length := by
  unfold CdcPoll.taken
  split_ifs <;> omega

theorem cdcWriteLoop_spec (data : List UInt8) (polls : List CdcPoll) {offset : ℕ}
    (hoffset : offset ≤ data.length) :
    (cdcWriteLoop data polls offset).2 ≤ data.length ∧
      data.take offset ++ (cdcWriteLoop data polls offset).1
        = data.take (cdcWriteLoop data polls offset).2 := by
  induction polls generalizing offset with
  | nil => exact ⟨hoffset, List.append_nil _⟩
  | cons poll polls ih =>
    rw [cdcWriteLoop]
    split_ifs with hlt
    · have htaken := poll.taken_le (data.length - offset)
      obtain ⟨hle, hbytes⟩ := ih (show offset + poll.taken (data.length - offset) ≤ _ by omega)
      refine ⟨hle, ?_⟩
      simp only
      rw [← List.append_assoc, ← List.take_add, hbytes]
    · exact ⟨hoffset, List.append_nil _⟩

theorem cdcWrite_complete {polls : List CdcPoll} {data : List UInt8}
    (h : (cdcWrite polls data).1 = true) : (cdcWrite polls data).2 = data := by
  obtain ⟨-, hbytes⟩ := cdcWriteLoop_spec data polls (Nat.zero_le _)
  have hlast : (cdcWriteLoop data polls 0).2 = data.length := eq_of_beq h
  rw [hlast, List.take_zero, List.nil_append, List.take_length] at hbytes
  exact hbytes

variable {s : Evidence}

/-- What a call of `evidence_printf` does: it rejects the text, queues it, or writes it. -/
theorem evidencePrintf_cases (h : s.queue.Valid) (line : Option (List UInt8))
    (polls : List CdcPoll) :
    let r := evidencePrintf line polls s
    (r.1 = -1 ∧ r.2.queue.Valid ∧ r.2.queue.contents = s.queue.contents ∧
      r.2.delivered = s.delivered) ∨
    (∃ text, line = some text ∧ s.queues = true ∧ r.1 = text.length ∧ r.2.queue.Valid ∧
      r.2.queue.contents = s.queue.contents ++ text ∧ r.2.delivered = s.delivered) ∨
    ∃ text, line = some text ∧ text.length < evidenceLineSize ∧ s.queues = false ∧
      r.1 = (if (cdcWrite polls text).1 then (text.length : ℤ) else -1) ∧ r.2.queue = s.queue ∧
      r.2.delivered = s.delivered ++ (cdcWrite polls text).2 := by
  cases line with
  | none => exact Or.inl ⟨rfl, h, rfl, rfl⟩
  | some text =>
    by_cases hlength : text.length ≥ evidenceLineSize
    · rw [evidencePrintf, if_pos hlength]
      exact Or.inl ⟨rfl, h, rfl, rfl⟩
    · rw [evidencePrintf, if_neg hlength]
      cases hroute : s.queues with
      | true =>
        rw [if_pos rfl]
        by_cases hfits : s.queue.used + text.length ≤ evidenceQueueCapacity
        · obtain ⟨queue', hpush, hvalid, hcontents, -⟩ := evidenceQueueTryPush_fits h hfits
          rw [hpush]
          exact Or.inr (Or.inl ⟨text, rfl, rfl, rfl, hvalid, hcontents, rfl⟩)
        · rw [evidenceQueueTryPush_full h.used_le hfits]
          exact Or.inl ⟨rfl, ⟨h.readOffset_lt, h.used_le, h.writeOffset_eq⟩, rfl, rfl⟩
      | false =>
        rw [if_neg (by decide)]
        exact Or.inr (Or.inr ⟨text, rfl, Nat.not_le.mp hlength, rfl, rfl, rfl, rfl⟩)

/-- A drain moves a prefix of the queue to CDC. -/
theorem drainRuntimeEvidence_spec (h : s.queue.Valid) (poll : CdcPoll) :
    (drainRuntimeEvidence poll s).queue.Valid ∧
      ∃ bytes, (drainRuntimeEvidence poll s).delivered = s.delivered ++ bytes ∧
        bytes ++ (drainRuntimeEvidence poll s).queue.contents = s.queue.contents := by
  obtain ⟨n, hn, hpeek, -⟩ := evidenceQueuePeek_spec h
  have hlength : (s.queue.contents.take n).length = n := by
    rw [List.length_take, s.queue.length_contents]
    omega
  rw [drainRuntimeEvidence, hpeek]
  simp only [hlength]
  by_cases hzero : n = 0
  · rw [if_pos hzero]
    exact ⟨h, [], (List.append_nil _).symm, rfl⟩
  · rw [if_neg hzero]
    have hwritten : cdcTryWrite poll n ≤ n := by
      rw [cdcTryWrite, if_neg hzero]
      exact poll.taken_le n
    obtain ⟨hvalid, hcontents, -⟩ := evidenceQueueConsume_spec h (cdcTryWrite poll n)
    refine ⟨hvalid, (s.queue.contents.take n).take (cdcTryWrite poll n), rfl, ?_⟩
    show _ ++ (evidenceQueueConsume s.queue (cdcTryWrite poll n)).contents = _
    rw [hcontents, Nat.min_eq_left (by omega), List.take_take, Nat.min_eq_left hwritten,
      List.take_append_drop]

/-! ### Runs -/

def DirectCompletes (t : EvidenceTrace) : EvidenceAction → Prop
  | .printf (some text) polls =>
    text.length < evidenceLineSize → t.evidence.queues = false → (cdcWrite polls text).1 = true
  | _ => True

def DirectWhenDrained (t : EvidenceTrace) : EvidenceAction → Prop
  | .printf (some text) _ =>
    text.length < evidenceLineSize → t.evidence.queues = false → t.evidence.queue.used = 0
  | _ => True

instance (t : EvidenceTrace) : (action : EvidenceAction) → Decidable (DirectCompletes t action)
  | .printf (some _) _ => inferInstanceAs (Decidable (_ → _ → _))
  | .printf none _ | .drain _ | .executor _ _ => .isTrue trivial

instance (t : EvidenceTrace) : (action : EvidenceAction) → Decidable (DirectWhenDrained t action)
  | .printf (some _) _ => inferInstanceAs (Decidable (_ → _ → _))
  | .printf none _ | .drain _ | .executor _ _ => .isTrue trivial

/-- A piece of what CDC got: a direct text, or bytes of the queue. -/
inductive Segment where
  | direct (text : List UInt8)
  | drained (bytes : List UInt8)

def Segment.bytes : Segment → List UInt8
  | .direct text => text
  | .drained bytes => bytes

def Segment.direct? : Segment → Option (List UInt8)
  | .direct text => some text
  | .drained _ => none

def Segment.drained? : Segment → Option (List UInt8)
  | .direct _ => none
  | .drained bytes => some bytes

/-- The accepted texts of one route, in the order of the calls. -/
def EvidenceTrace.texts (t : EvidenceTrace) (queued : Bool) : List (List UInt8) :=
  (t.accepted.filter fun accepted => accepted.queued == queued).map EvidenceText.text

/-- **CDC gets the two routes merged**: each direct text in one piece, and the queued texts byte for
byte in order, of which the last are still queued. -/
def Merged (t : EvidenceTrace) : Prop :=
  ∃ segments : List Segment, t.evidence.delivered = segments.flatMap Segment.bytes ∧
    segments.filterMap Segment.direct? = t.texts false ∧
    (segments.filterMap Segment.drained?).flatten ++ t.evidence.queue.contents
      = (t.texts true).flatten

/-- CDC gets the accepted texts in the order of the calls; the last bytes are still queued. -/
def InOrder (t : EvidenceTrace) : Prop :=
  t.evidence.delivered ++ t.evidence.queue.contents
    = (t.accepted.map EvidenceText.text).flatten

theorem texts_concat (t : EvidenceTrace) (s : Evidence) (accepted : EvidenceText) (queued : Bool) :
    EvidenceTrace.texts ⟨s, t.accepted ++ [accepted]⟩ queued
      = t.texts queued ++ if accepted.queued = queued then [accepted.text] else [] := by
  simp only [EvidenceTrace.texts, List.filter_append, List.map_append]
  congr 1
  by_cases h : accepted.queued = queued
  · rw [if_pos h, List.filter_cons_of_pos (by simp [h])]
    rfl
  · rw [if_neg h, List.filter_cons_of_neg (by simp [h])]
    rfl

theorem evidenceStep_printf (t : EvidenceTrace) (line : Option (List UInt8))
    (polls : List CdcPoll) :
    evidenceStep t (.printf line polls)
      = ⟨(evidencePrintf line polls t.evidence).2,
          if 0 ≤ (evidencePrintf line polls t.evidence).1 then
            t.accepted ++ [⟨t.evidence.queues, line.getD []⟩] else t.accepted⟩ := rfl

/-- What a call of `evidence_printf` does to a trace in which direct writes complete. -/
theorem evidenceStep_printf_cases {t : EvidenceTrace} (hvalid : t.evidence.queue.Valid)
    (line : Option (List UInt8)) (polls : List CdcPoll)
    (hcompletes : DirectCompletes t (.printf line polls)) :
    ∃ s, s.queue.Valid ∧
      ((evidenceStep t (.printf line polls) = ⟨s, t.accepted⟩ ∧
        s.queue.contents = t.evidence.queue.contents ∧ s.delivered = t.evidence.delivered) ∨
      (∃ text, evidenceStep t (.printf line polls) = ⟨s, t.accepted ++ [⟨true, text⟩]⟩ ∧
        s.queue.contents = t.evidence.queue.contents ++ text ∧
        s.delivered = t.evidence.delivered) ∨
      ∃ text, line = some text ∧ text.length < evidenceLineSize ∧ t.evidence.queues = false ∧
        evidenceStep t (.printf line polls) = ⟨s, t.accepted ++ [⟨false, text⟩]⟩ ∧
        s.queue = t.evidence.queue ∧ s.delivered = t.evidence.delivered ++ text) := by
  refine ⟨(evidencePrintf line polls t.evidence).2, ?_⟩
  rw [evidenceStep_printf]
  rcases evidencePrintf_cases hvalid line polls with
    ⟨hresult, hvalid', hcontents, hdelivered⟩ |
    ⟨text, rfl, hroute, hresult, hvalid', hcontents, hdelivered⟩ |
    ⟨text, rfl, hlength, hroute, hresult, hqueue, hdelivered⟩
  · rw [hresult, if_neg (by decide)]
    exact ⟨hvalid', Or.inl ⟨rfl, hcontents, hdelivered⟩⟩
  · rw [hresult, if_pos (Int.natCast_nonneg _), hroute]
    exact ⟨hvalid', Or.inr (Or.inl ⟨text, rfl, hcontents, hdelivered⟩)⟩
  · have hcomplete := hcompletes hlength hroute
    rw [hcomplete, if_pos rfl] at hresult
    rw [cdcWrite_complete hcomplete] at hdelivered
    rw [hresult, if_pos (Int.natCast_nonneg _), hqueue, hroute]
    exact ⟨hvalid, Or.inr (Or.inr ⟨text, rfl, hlength, rfl, rfl, rfl, hdelivered⟩)⟩

/-- A step keeps the routes apart and each of them in order. -/
theorem evidenceStep_merged {t : EvidenceTrace} {action : EvidenceAction}
    (hcompletes : DirectCompletes t action) (h : t.evidence.queue.Valid ∧ Merged t) :
    (evidenceStep t action).evidence.queue.Valid ∧ Merged (evidenceStep t action) := by
  obtain ⟨hvalid, segments, hdelivered, hdirect, hqueued⟩ := h
  cases action with
  | executor active idle => exact ⟨hvalid, segments, hdelivered, hdirect, hqueued⟩
  -- what is drained is one more segment of the queued texts
  | drain poll =>
    obtain ⟨hvalid', bytes, hbytes, hcontents⟩ := drainRuntimeEvidence_spec hvalid poll
    refine ⟨hvalid', segments ++ [.drained bytes], ?_, ?_, ?_⟩
    · show (drainRuntimeEvidence poll t.evidence).delivered = _
      rw [hbytes, hdelivered, List.flatMap_append, List.flatMap_singleton]
      rfl
    · rw [List.filterMap_append]
      exact (List.append_nil _).trans hdirect
    · have hsegment : ([Segment.drained bytes].filterMap Segment.drained?).flatten = bytes :=
        List.append_nil _
      show _ ++ (drainRuntimeEvidence poll t.evidence).queue.contents = (t.texts true).flatten
      rw [← hqueued, ← hcontents, List.filterMap_append, List.flatten_append, List.append_assoc,
        hsegment]
  | printf line polls =>
    obtain ⟨s, hvalid', hcases⟩ := evidenceStep_printf_cases hvalid line polls hcompletes
    -- the text is rejected, queued behind the others, or one segment of its own
    rcases hcases with ⟨hstep, hcontents, hsame⟩ | ⟨text, hstep, hcontents, hsame⟩ |
      ⟨text, -, -, -, hstep, hqueue, hsame⟩
    · rw [hstep]
      refine ⟨hvalid', segments, hsame.trans hdelivered, hdirect, ?_⟩
      show _ ++ s.queue.contents = _
      rw [hcontents]
      exact hqueued
    · rw [hstep]
      refine ⟨hvalid', segments, hsame.trans hdelivered, ?_, ?_⟩
      · rw [texts_concat, if_neg Bool.noConfusion, List.append_nil]
        exact hdirect
      · show _ ++ s.queue.contents = _
        rw [texts_concat, if_pos rfl, hcontents, ← List.append_assoc, hqueued, List.flatten_append,
          List.flatten_singleton]
    · rw [hstep]
      refine ⟨hvalid', segments ++ [.direct text], ?_, ?_, ?_⟩
      · show s.delivered = _
        rw [hsame, hdelivered, List.flatMap_append, List.flatMap_singleton]
        rfl
      · rw [texts_concat, if_pos rfl, List.filterMap_append, hdirect]
        rfl
      · show _ ++ s.queue.contents = _
        rw [texts_concat, if_neg Bool.noConfusion, List.append_nil, hqueue, List.filterMap_append,
          ← hqueued]
        simp [List.filterMap_cons, Segment.drained?]

/-- A step keeps the order when a direct write finds the queue empty. -/
theorem evidenceStep_inOrder {t : EvidenceTrace} {action : EvidenceAction}
    (hcompletes : DirectCompletes t action) (hdrained : DirectWhenDrained t action)
    (h : t.evidence.queue.Valid ∧ InOrder t) :
    (evidenceStep t action).evidence.queue.Valid ∧ InOrder (evidenceStep t action) := by
  obtain ⟨hvalid, horder⟩ := h
  unfold InOrder at horder ⊢
  cases action with
  | executor active idle => exact ⟨hvalid, horder⟩
  | drain poll =>
    obtain ⟨hvalid', bytes, hbytes, hcontents⟩ := drainRuntimeEvidence_spec hvalid poll
    refine ⟨hvalid', ?_⟩
    show (drainRuntimeEvidence poll t.evidence).delivered
      ++ (drainRuntimeEvidence poll t.evidence).queue.contents = _
    rw [hbytes, List.append_assoc, hcontents]
    exact horder
  | printf line polls =>
    obtain ⟨s, hvalid', hcases⟩ := evidenceStep_printf_cases hvalid line polls hcompletes
    rcases hcases with ⟨hstep, hcontents, hsame⟩ | ⟨text, hstep, hcontents, hsame⟩ |
      ⟨text, rfl, hlength, hroute, hstep, hqueue, hsame⟩
    · rw [hstep]
      refine ⟨hvalid', ?_⟩
      simp only
      rw [hcontents, hsame]
      exact horder
    · rw [hstep]
      refine ⟨hvalid', ?_⟩
      simp only
      rw [hcontents, hsame, ← List.append_assoc, horder, List.map_append, List.flatten_append]
      simp
    -- a direct text finds nothing queued that it could overtake
    · have hempty : t.evidence.queue.contents = [] := by
        rw [← List.length_eq_zero_iff, EvidenceQueue.length_contents]
        exact hdrained hlength hroute
      rw [hempty, List.append_nil] at horder
      rw [hstep]
      refine ⟨hvalid', ?_⟩
      simp only
      rw [hqueue, hempty, hsame, List.append_nil, horder, List.map_append, List.flatten_append]
      simp

/-- **The order of CDC evidence.**  In every run whose direct writes complete, CDC gets each direct
text in one piece and the queued texts byte for byte in order; and when direct writes find the queue
empty, all accepted texts in the order of the calls, of which the last bytes may be queued still. -/
theorem evidence_delivery (actions : List EvidenceAction)
    (hcompletes : StepsMeet evidenceStep DirectCompletes evidenceStart actions) :
    Merged (run evidenceStep evidenceStart actions) ∧
      (StepsMeet evidenceStep DirectWhenDrained evidenceStart actions →
        InOrder (run evidenceStep evidenceStart actions)) := by
  constructor
  · have h := run_invariant_of_stepsMeet (fun t action => evidenceStep_merged) actions hcompletes
      ⟨evidenceQueueReset_valid, [], rfl, rfl, rfl⟩
    exact h.2
  · intro hdrained
    have hboth : StepsMeet evidenceStep
        (fun t action => DirectCompletes t action ∧ DirectWhenDrained t action) evidenceStart
        actions :=
      fun pre action hpre => ⟨hcompletes pre action hpre, hdrained pre action hpre⟩
    have h := run_invariant_of_stepsMeet
      (fun t action hmeets => evidenceStep_inOrder hmeets.1 hmeets.2) actions hboth
      ⟨evidenceQueueReset_valid, rfl⟩
    exact h.2

/-- A queued line that is drained in two parts before the next line is written. -/
def drainedRun : List EvidenceAction :=
  [.executor true false, .printf (some [0x41, 0x0A]) [], .drain ⟨true, 64, 1⟩,
    .drain ⟨true, 64, 64⟩, .executor true true, .printf (some [0x42, 0x0A]) [⟨true, 64, 64⟩]]

theorem evidence_delivery_drained :
    Merged (run evidenceStep evidenceStart drainedRun) ∧
      InOrder (run evidenceStep evidenceStart drainedRun) ∧
      (run evidenceStep evidenceStart drainedRun).evidence.delivered
        = [0x41, 0x0A, 0x42, 0x0A] := by
  obtain ⟨hmerged, horder⟩ := evidence_delivery drainedRun (by decide)
  exact ⟨hmerged, horder (by decide), by decide⟩

/-- A queued line of which one byte was drained when the processor goes idle and the next line is
written; then the rest is drained. -/
def overtakenRun : List EvidenceAction :=
  [.executor true false, .printf (some [0x41, 0x0A]) [], .drain ⟨true, 64, 1⟩, .executor true true,
    .printf (some [0x42, 0x0A]) [⟨true, 64, 64⟩], .drain ⟨true, 64, 64⟩]

/-- The second line stands inside the first. -/
theorem evidence_overtaken :
    StepsMeet evidenceStep DirectCompletes evidenceStart overtakenRun ∧
      (run evidenceStep evidenceStart overtakenRun).accepted.map EvidenceText.text
        = [[0x41, 0x0A], [0x42, 0x0A]] ∧
      (run evidenceStep evidenceStart overtakenRun).evidence.queue.used = 0 ∧
      (run evidenceStep evidenceStart overtakenRun).evidence.delivered
        = [0x41, 0x42, 0x0A, 0x0A] := by
  decide

end Rp86
