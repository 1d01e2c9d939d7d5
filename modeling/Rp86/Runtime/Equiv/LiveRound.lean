import Rp86.Lib.PastTime
import Rp86.Runtime.Equiv.Machine
import Mathlib.Data.List.DropRight

/-!
# The order of a live round

What the flags of `classify_live_round` say about the trace they were read from.  A bus cycle is one
of five events for the scan (`ObservedCycle.event`), and the scan keeps the TX words since the last
commit, so each flag is a past-time property of the events (`Scanned`).  The flags do not look at
one another, but for the foreground commit, which wants an EOI before it; nothing asks that the
interrupt commit came before that EOI.
-/

namespace Rp86

open Lib

/-! ### Events -/

/-- What a bus cycle is to the scan. -/
inductive LiveEvent where
  /-- A write to the witness port. -/
  | witness (data : UInt16)
  | tx (data : UInt16)
  | commit
  /-- An end-of-interrupt command to the PIC port. -/
  | eoi
  /-- Any other cycle. -/
  | other
  deriving DecidableEq, Repr

def ObservedCycle.event (cycle : ObservedCycle) : LiveEvent :=
  let address := preparedDecodeAddress cycle.addressRaw
  let data := preparedDecodeAd cycle.dataRaw
  if rawIoWrite cycle.addressRaw = false then .other
  else if address = ioPortResult.toUInt32 then .witness data
  else if address = ioPortTx.toUInt32 then .tx data
  else if address = ioPortControl.toUInt32 ∧ data = 1 then .commit
  else if address = ioPortPicCommand.toUInt32 ∧ data &&& 0xFF = 0x20 then .eoi
  else .other

/-- The events among the first `wordCount` observer words. -/
def liveEvents (words : List UInt32) (wordCount : UInt32) : List LiveEvent :=
  (observedCycles words wordCount).map ObservedCycle.event

def LiveEvent.txWord : LiveEvent → Option UInt16
  | .tx data => some data
  | _ => none

def LiveEvent.witnessWord : LiveEvent → Option UInt16
  | .witness data => some data
  | _ => none

/-- The TX words of a trace since its last commit. -/
def txSinceCommit (trace : List LiveEvent) : List UInt16 :=
  (trace.rtakeWhile fun event => event != .commit).filterMap LiveEvent.txWord

def lastWitness (trace : List LiveEvent) : Option UInt16 :=
  (trace.filterMap LiveEvent.witnessWord).getLast?

/-- The three copies of the native counter in a reply. -/
def counterCopies (reply : List UInt16) : List UInt32 :=
  (List.range nativeCounterCopies).map (counterCopy reply)

/-- A commit behind a whole reply. -/
def IrqCommit (before : List LiveEvent) (event : LiveEvent) : Prop :=
  event = .commit ∧ nativeReplyWords ≤ (txSinceCommit before).length

/-- An interrupt commit of which two counter copies are `counter`. -/
def CountedCommit (counter : UInt32) (before : List LiveEvent) (event : LiveEvent) : Prop :=
  IrqCommit before event ∧ 2 ≤ (counterCopies (txSinceCommit before)).count counter

/-- A commit behind at least one TX word, but less than a whole reply. -/
def ForegroundCommit (before : List LiveEvent) (event : LiveEvent) : Prop :=
  event = .commit ∧ 1 ≤ (txSinceCommit before).length ∧
    (txSinceCommit before).length < nativeReplyWords

def EoiWrite (_before : List LiveEvent) (event : LiveEvent) : Prop := event = .eoi

instance (before : List LiveEvent) (event : LiveEvent) : Decidable (IrqCommit before event) :=
  inferInstanceAs (Decidable (_ ∧ _))

instance (counter : UInt32) (before : List LiveEvent) (event : LiveEvent) :
    Decidable (CountedCommit counter before event) :=
  inferInstanceAs (Decidable (_ ∧ _))

instance (before : List LiveEvent) (event : LiveEvent) :
    Decidable (ForegroundCommit before event) :=
  inferInstanceAs (Decidable (_ ∧ _ ∧ _))

instance (before : List LiveEvent) (event : LiveEvent) : Decidable (EoiWrite before event) :=
  inferInstanceAs (Decidable (event = .eoi))

/-! ### The trace, event by event -/

theorem txSinceCommit_concat_commit (trace : List LiveEvent) :
    txSinceCommit (trace ++ [.commit]) = [] := by
  unfold txSinceCommit
  rw [List.rtakeWhile_concat_neg _ _ _ (by decide), List.filterMap_nil]

theorem txSinceCommit_concat {event : LiveEvent} (h : event ≠ .commit) (trace : List LiveEvent) :
    txSinceCommit (trace ++ [event]) = txSinceCommit trace ++ event.txWord.toList := by
  unfold txSinceCommit
  rw [List.rtakeWhile_concat, if_pos (bne_iff_ne.mpr h), List.filterMap_append]
  cases event <;> rfl

theorem lastWitness_concat (trace : List LiveEvent) (event : LiveEvent) :
    lastWitness (trace ++ [event]) = event.witnessWord.or (lastWitness trace) := by
  unfold lastWitness
  rw [List.filterMap_append, List.getLast?_append]
  cases event <;> rfl

/-! ### The scan on events -/

def classifyEvent (expectedWitness : UInt16) (hostWords : List UInt16) (s : LiveScan) :
    LiveEvent → LiveScan
  | .witness data => { s with round := { s.round with
      observedWitness := data
      witness := data == expectedWitness } }
  | .tx data => { s with
      txData := if s.txWords < nativeReplyWords then s.txData.set s.txWords data else s.txData
      txWords := s.txWords + 1 }
  | .commit => classifyCommit hostWords s
  | .eoi => { s with round := { s.round with eoi := true } }
  | .other => s

variable {expected : UInt16} {hostWords : List UInt16}

theorem classifyCycle_eq (s : LiveScan) (cycle : ObservedCycle) :
    classifyCycle expected hostWords s cycle = classifyEvent expected hostWords s cycle.event := by
  unfold classifyCycle ObservedCycle.event
  cases rawIoWrite cycle.addressRaw with
  | false => rfl
  | true =>
    simp only [Bool.not_true, Bool.false_eq_true, Bool.true_eq_false, if_false,
      apply_ite (classifyEvent expected hostWords s)]
    rfl

/-- The scan of the cycles is the scan of their events. -/
theorem classifyLiveRound_eq (words : List UInt32) (round : LiveRoundResult) (wordCount : UInt32) :
    classifyLiveRound words hostWords round wordCount expected
      = (run (classifyEvent expected hostWords) (liveScanInit round wordCount)
          (liveEvents words wordCount)).round := by
  have hstep : classifyCycle expected hostWords
      = fun s cycle => classifyEvent expected hostWords s cycle.event := by
    funext s cycle
    exact classifyCycle_eq s cycle
  unfold classifyLiveRound liveEvents run
  rw [List.foldl_map, hstep]

/-- `tx_data` behind the TX words since the last commit: the first words, and zeros. -/
def txBuffer (tx : List UInt16) : List UInt16 :=
  (tx ++ List.replicate nativeReplyWords 0).take nativeReplyWords

theorem txBuffer_eq (tx : List UInt16) :
    txBuffer tx = tx.take nativeReplyWords ++ List.replicate (nativeReplyWords - tx.length) 0 := by
  unfold txBuffer
  rw [List.take_append, List.take_replicate, Nat.min_eq_left (Nat.sub_le _ _)]

theorem txBuffer_concat (tx : List UInt16) (data : UInt16) :
    txBuffer (tx ++ [data])
      = if tx.length < nativeReplyWords then (txBuffer tx).set tx.length data else txBuffer tx := by
  split_ifs with h
  · obtain ⟨k, hk⟩ : ∃ k, nativeReplyWords - tx.length = k + 1 :=
      ⟨nativeReplyWords - tx.length - 1, by omega⟩
    have hk' : nativeReplyWords - (tx.length + 1) = k := by omega
    rw [txBuffer_eq, txBuffer_eq, List.take_of_length_le (Nat.le_of_lt h), hk,
      List.take_of_length_le (by rw [List.length_append]; exact h), List.length_append,
      List.length_singleton, hk', List.set_append_right _ _ (Nat.le_refl _), Nat.sub_self,
      List.replicate_succ, List.set_cons_zero, List.append_assoc, List.singleton_append]
  · have hlen : nativeReplyWords ≤ tx.length := Nat.le_of_not_lt h
    unfold txBuffer
    rw [List.append_assoc, List.take_append_of_le_length hlen, List.take_append_of_le_length hlen]

theorem counterCopy_txBuffer (tx : List UInt16) {copy : ℕ} (hcopy : copy < nativeCounterCopies) :
    counterCopy (txBuffer tx) copy = counterCopy tx copy := by
  have hget : ∀ i, i < nativeReplyWords → (txBuffer tx).getD i 0 = tx.getD i 0 := by
    intro i hi
    unfold txBuffer
    simp only [List.getD_eq_getElem?_getD, List.getElem?_take, if_pos hi, List.getElem?_append]
    split_ifs with h
    · rfl
    · rw [List.getElem?_replicate, List.getElem?_eq_none (Nat.le_of_not_lt h)]
      split_ifs <;> rfl
  have hwords : nativeReplyWords = 13 := rfl
  have hcopies : nativeCounterCopies = 3 := rfl
  have htext : nativeTextWords = 6 := rfl
  have hprocessor : nativeProcessorWords = 1 := rfl
  unfold counterCopy
  simp only []
  rw [hget _ (by omega), hget _ (by omega)]

/-- The scan agrees on a counter exactly as the reply does. -/
theorem agreedCounter_txBuffer (tx : List UInt16) :
    agreedCounter (txBuffer tx) = agreedCounter tx := by
  unfold agreedCounter
  rw [counterCopy_txBuffer tx (by decide : 0 < nativeCounterCopies),
    counterCopy_txBuffer tx (by decide : 1 < nativeCounterCopies),
    counterCopy_txBuffer tx (by decide : 2 < nativeCounterCopies)]

theorem two_le_count_of_agreedCounter {reply : List UInt16} {counter : UInt32}
    (h : agreedCounter reply = some counter) : 2 ≤ (counterCopies reply).count counter := by
  have hcopies : counterCopies reply
      = [counterCopy reply 0, counterCopy reply 1, counterCopy reply 2] := rfl
  unfold agreedCounter at h
  rw [hcopies]
  simp only [List.count_cons, List.count_nil, beq_iff_eq]
  split_ifs at h with h01 h12
  · obtain rfl := Option.some.inj h
    rcases h01 with h1 | h2
    · rw [if_pos h1.symm, if_pos rfl]
      omega
    · rw [if_pos h2.symm, if_pos rfl]
      omega
  · obtain rfl := Option.some.inj h
    rw [if_pos h12.symm, if_pos rfl]
    omega

/-! ### What a commit changes -/

section

variable (hostWords txData : List UInt16) (round : LiveRoundResult)

theorem classifyIrqCommit_flags :
    (classifyIrqCommit hostWords txData round).witness = round.witness ∧
      (classifyIrqCommit hostWords txData round).eoi = round.eoi ∧
      (classifyIrqCommit hostWords txData round).foregroundCommit = round.foregroundCommit := by
  unfold classifyIrqCommit classifyCalculator
  simp only []
  cases agreedCounter txData <;> split_ifs <;> exact ⟨rfl, rfl, rfl⟩

/-- An interrupt commit replaces the counter when two of its copies agree. -/
theorem classifyIrqCommit_counter :
    (classifyIrqCommit hostWords txData round).nativeCounterValid
        = ((agreedCounter txData).isSome || round.nativeCounterValid) ∧
      (classifyIrqCommit hostWords txData round).cpuSequence
        = (agreedCounter txData).getD round.cpuSequence := by
  unfold classifyIrqCommit classifyCalculator
  simp only []
  cases agreedCounter txData <;> split_ifs <;> exact ⟨rfl, rfl⟩

end

/-! ### The flags as properties of the trace -/

/-- A foreground commit behind an EOI. -/
def ReturnedCommit (before : List LiveEvent) (event : LiveEvent) : Prop :=
  ForegroundCommit before event ∧ Once EoiWrite before

/-- What the scan knows of the trace it has read. -/
structure Scanned (expected : UInt16) (trace : List LiveEvent) (s : LiveScan) : Prop where
  txWords : s.txWords = (txSinceCommit trace).length
  txData : s.txData = txBuffer (txSinceCommit trace)
  witness : s.round.witness = true ↔ lastWitness trace = some expected
  eoi : s.round.eoi = true ↔ Once EoiWrite trace
  foreground : s.round.foregroundCommit = true ↔ Once ReturnedCommit trace

theorem scanned_init (round : LiveRoundResult) (wordCount : UInt32) :
    Scanned expected [] (liveScanInit round wordCount) where
  txWords := rfl
  txData := rfl
  witness := iff_of_false Bool.false_ne_true nofun
  eoi := iff_of_false Bool.false_ne_true not_once_nil
  foreground := iff_of_false Bool.false_ne_true not_once_nil

variable {trace : List LiveEvent} {s : LiveScan}

theorem not_returnedCommit {event : LiveEvent} (h : event ≠ .commit) :
    ¬ ReturnedCommit trace event := fun hreturned => h hreturned.1.1

/-- A commit ends the reply; it is the foreground's when it follows an EOI and is no interrupt
commit. -/
theorem Scanned.commit (h : Scanned expected trace s) :
    Scanned expected (trace ++ [.commit]) (classifyCommit hostWords s) := by
  obtain ⟨hwitness, heoi, hforeground⟩ := classifyIrqCommit_flags hostWords s.txData s.round
  have hround : (classifyCommit hostWords s).round.witness = s.round.witness ∧
      (classifyCommit hostWords s).round.eoi = s.round.eoi := by
    unfold classifyCommit
    simp only []
    split_ifs
    · exact ⟨hwitness, heoi⟩
    · exact ⟨rfl, rfl⟩
    · exact ⟨rfl, rfl⟩
  have hlast : lastWitness (trace ++ [.commit]) = lastWitness trace := by
    rw [lastWitness_concat]
    rfl
  refine ⟨?_, ?_, ?_, ?_, ?_⟩
  · rw [txSinceCommit_concat_commit]
    rfl
  · rw [txSinceCommit_concat_commit]
    rfl
  · rw [hround.1, hlast]
    exact h.witness
  · rw [hround.2, once_concat_of_not nofun]
    exact h.eoi
  · rw [once_concat, ← h.foreground]
    have hreturned : ReturnedCommit trace .commit ↔
        s.txWords < nativeReplyWords ∧ s.round.eoi = true ∧ 1 ≤ s.txWords := by
      unfold ReturnedCommit ForegroundCommit
      rw [← h.eoi, h.txWords]
      exact ⟨fun ⟨⟨_, hone, hless⟩, hseen⟩ => ⟨hless, hseen, hone⟩,
        fun ⟨hless, hseen, hone⟩ => ⟨⟨rfl, hone, hless⟩, hseen⟩⟩
    rw [hreturned]
    unfold classifyCommit
    simp only []
    split_ifs with hreply hafter
    · -- a whole reply: the flag keeps its value
      rw [hforeground]
      exact ⟨Or.inl, fun hor => hor.elim id fun hand => absurd hand.1 (Nat.not_lt.mpr hreply)⟩
    · exact iff_of_true rfl (Or.inr ⟨Nat.lt_of_not_le hreply, hafter⟩)
    · exact ⟨Or.inl, fun hor => hor.elim id fun hand => absurd hand.2 hafter⟩

/-- An event that is neither a commit nor a TX write leaves the reply and the foreground commit
alone. -/
theorem Scanned.quiet (h : Scanned expected trace s) {event : LiveEvent} {round : LiveRoundResult}
    (hcommit : event ≠ .commit) (htx : event.txWord = none)
    (hforeground : round.foregroundCommit = s.round.foregroundCommit)
    (hwitness : round.witness = true ↔ lastWitness (trace ++ [event]) = some expected)
    (heoi : round.eoi = true ↔ Once EoiWrite (trace ++ [event])) :
    Scanned expected (trace ++ [event]) { s with round := round } := by
  have hreply : txSinceCommit (trace ++ [event]) = txSinceCommit trace := by
    rw [txSinceCommit_concat hcommit, htx]
    exact List.append_nil _
  refine ⟨?_, ?_, hwitness, heoi, ?_⟩
  · rw [hreply]
    exact h.txWords
  · rw [hreply]
    exact h.txData
  · rw [once_concat_of_not (not_returnedCommit hcommit), ← h.foreground]
    exact iff_of_eq (congrArg (· = true) hforeground)

/-- **Each event keeps what the flags say.** -/
theorem Scanned.step (h : Scanned expected trace s) (event : LiveEvent) :
    Scanned expected (trace ++ [event]) (classifyEvent expected hostWords s event) := by
  have hlast : lastWitness (trace ++ [event]) = event.witnessWord.or (lastWitness trace) :=
    lastWitness_concat trace event
  have hended : Once EoiWrite (trace ++ [event]) ↔ Once EoiWrite trace ∨ event = .eoi := once_concat
  cases event with
  | witness data =>
    refine h.quiet LiveEvent.noConfusion rfl rfl ?_ ?_
    · rw [hlast]
      show (data == expected) = true ↔ some data = some expected
      rw [beq_iff_eq, Option.some_inj]
    · rw [hended, or_iff_left LiveEvent.noConfusion]
      exact h.eoi
  -- a TX word goes behind the words since the last commit
  | tx data =>
    have hreply : txSinceCommit (trace ++ [.tx data]) = txSinceCommit trace ++ [data] :=
      txSinceCommit_concat LiveEvent.noConfusion trace
    refine ⟨?_, ?_, ?_, ?_, ?_⟩
    · rw [hreply, List.length_append, ← h.txWords]
      rfl
    · rw [hreply, txBuffer_concat, ← h.txWords, ← h.txData]
      rfl
    · rw [hlast]
      exact h.witness
    · rw [hended, or_iff_left LiveEvent.noConfusion]
      exact h.eoi
    · rw [once_concat_of_not (not_returnedCommit LiveEvent.noConfusion)]
      exact h.foreground
  | commit => exact h.commit
  | eoi =>
    refine h.quiet LiveEvent.noConfusion rfl rfl ?_ ?_
    · rw [hlast]
      exact h.witness
    · rw [hended]
      exact iff_of_true rfl (Or.inr rfl)
  | other =>
    refine h.quiet LiveEvent.noConfusion rfl rfl ?_ ?_
    · rw [hlast]
      exact h.witness
    · rw [hended, or_iff_left LiveEvent.noConfusion]
      exact h.eoi

/-! ### The order of the events -/

/-- The step does not commit an agreed counter once an EOI was seen. -/
def CountsBeforeEoi (s : LiveScan) (event : LiveEvent) : Prop :=
  event = .commit → nativeReplyWords ≤ s.txWords → (agreedCounter s.txData).isSome = true →
    s.round.eoi = false

instance (s : LiveScan) (event : LiveEvent) : Decidable (CountsBeforeEoi s event) :=
  inferInstanceAs (Decidable (_ → _))

/-- A counter was committed before the trace had an EOI. -/
def CountedFirst (counter : UInt32) (before : List LiveEvent) (event : LiveEvent) : Prop :=
  CountedCommit counter before event ∧ ¬ Once EoiWrite before ∧ ¬ EoiWrite before event

/-- A valid counter is the one of a commit that came before every EOI. -/
def CounterKnown (trace : List LiveEvent) (s : LiveScan) : Prop :=
  s.round.nativeCounterValid = true → Once (CountedFirst s.round.cpuSequence) trace

theorem CounterKnown.frame {s' : LiveScan} (h : CounterKnown trace s) (event : LiveEvent)
    (hvalid : s'.round.nativeCounterValid = s.round.nativeCounterValid)
    (hsequence : s'.round.cpuSequence = s.round.cpuSequence) :
    CounterKnown (trace ++ [event]) s' := by
  unfold CounterKnown
  rw [hvalid, hsequence]
  exact fun hv => once_concat.mpr (Or.inl (h hv))

theorem CounterKnown.commit (hscan : Scanned expected trace s) (h : CounterKnown trace s)
    (hK : CountsBeforeEoi s .commit) :
    CounterKnown (trace ++ [.commit]) (classifyCommit hostWords s) := by
  by_cases hreply : nativeReplyWords ≤ s.txWords
  · obtain ⟨hvalid, hsequence⟩ := classifyIrqCommit_counter hostWords s.txData s.round
    have hround : (classifyCommit hostWords s).round
        = classifyIrqCommit hostWords s.txData s.round := if_pos hreply
    cases hagreed : agreedCounter s.txData with
    | none =>
      rw [hagreed] at hvalid hsequence
      exact h.frame .commit (by rw [hround]; exact hvalid) (by rw [hround]; exact hsequence)
    | some counter =>
      -- this commit is the one that the result reports from now on
      rw [hagreed] at hsequence
      have heoi : s.round.eoi = false := hK rfl hreply (by rw [hagreed]; rfl)
      intro _
      rw [hround, hsequence]
      refine once_concat.mpr (Or.inr ⟨⟨⟨rfl, ?_⟩, ?_⟩, ?_, LiveEvent.noConfusion⟩)
      · rw [← hscan.txWords]
        exact hreply
      · apply two_le_count_of_agreedCounter
        rw [← agreedCounter_txBuffer, ← hscan.txData]
        exact hagreed
      · rw [← hscan.eoi, heoi]
        exact Bool.false_ne_true
  · refine h.frame .commit ?_ ?_
    · unfold classifyCommit
      simp only [if_neg hreply]
      split_ifs <;> rfl
    · unfold classifyCommit
      simp only [if_neg hreply]
      split_ifs <;> rfl

theorem CounterKnown.step (hscan : Scanned expected trace s) (h : CounterKnown trace s)
    {event : LiveEvent} (hK : CountsBeforeEoi s event) :
    CounterKnown (trace ++ [event]) (classifyEvent expected hostWords s event) := by
  cases event with
  | commit => exact h.commit hscan hK
  | witness data | tx data | eoi | other => exact h.frame _ rfl rfl

/-- A foreground commit, an EOI before it, and before that EOI an interrupt commit of which two
counter copies are `counter`. -/
def RoundInOrder (counter : UInt32) (trace : List LiveEvent) : Prop :=
  Once (fun before event => ForegroundCommit before event ∧
    Once (fun before event => EoiWrite before event ∧ Once (CountedCommit counter) before) before)
    trace

instance (counter : UInt32) (trace : List LiveEvent) : Decidable (RoundInOrder counter trace) :=
  inferInstanceAs (Decidable (Once _ trace))

/-- **A complete live round.**  The last witness write is the expected one; and when no agreed
counter was committed behind an EOI, the trace has, in this order, an interrupt commit behind a
whole reply, an EOI and a foreground commit, and two counter copies of that interrupt commit are the
reported sequence. -/
theorem live_round_order (words : List UInt32) (hostWords : List UInt16) (round : LiveRoundResult)
    (wordCount : UInt32) (expected : UInt16)
    (hcomplete : (classifyLiveRound words hostWords round wordCount expected).complete = true) :
    lastWitness (liveEvents words wordCount) = some expected ∧
      (StepsMeet (classifyEvent expected hostWords) CountsBeforeEoi (liveScanInit round wordCount)
          (liveEvents words wordCount) →
        RoundInOrder (classifyLiveRound words hostWords round wordCount expected).cpuSequence
          (liveEvents words wordCount)) := by
  rw [classifyLiveRound_eq] at hcomplete ⊢
  simp only [LiveRoundResult.complete, Bool.and_eq_true] at hcomplete
  obtain ⟨⟨⟨⟨⟨⟨hwitness, -⟩, hcounter⟩, -⟩, -⟩, hforeground⟩, -⟩ := hcomplete
  have hscan : Scanned expected (liveEvents words wordCount)
      (run (classifyEvent expected hostWords) (liveScanInit round wordCount)
        (liveEvents words wordCount)) :=
    run_traced (scanned_init round wordCount) (fun _ event h => h.step event) _
  refine ⟨hscan.witness.mp hwitness, fun hsteps => ?_⟩
  -- the counter needs the condition on the steps, and what the scan knows beside it
  have hknown := run_traced_of_stepsMeet
    (I := fun trace s => Scanned expected trace s ∧ CounterKnown trace s)
    ⟨scanned_init round wordCount, Bool.noConfusion⟩
    (fun _ event hK h => ⟨h.1.step event, h.2.step h.1 hK⟩) _ hsteps
  exact Once.before (hknown.2 hcounter) (hscan.foreground.mp hforeground)

/-- A poll that passes has classified the words of the observer as a complete round. -/
theorem pollLiveRound_eq_some {hostWords : List UInt16} {expected : UInt16}
    {round final : LiveRoundResult} {polls : List (List UInt32 × UInt32)}
    (h : pollLiveRound hostWords expected round polls = some final) :
    ∃ before words wordCount, (words, wordCount) ∈ polls ∧
      final = classifyLiveRound words hostWords before wordCount expected ∧
      final.complete = true := by
  -- each poll starts from the result of the one before it
  induction polls generalizing round with
  | nil => cases h
  | cons poll polls ih =>
    rw [pollLiveRound] at h
    split_ifs at h with hcomplete
    · obtain rfl := Option.some.inj h
      exact ⟨round, poll.1, poll.2, List.mem_cons_self, rfl, hcomplete⟩
    · obtain ⟨before, words, wordCount, hmem, hfinal⟩ := ih h
      exact ⟨before, words, wordCount, List.mem_cons_of_mem _ hmem, hfinal⟩

/-- **A live round that passes is a complete round** of the words that some poll has found, and the
processor that it observes is the one of that round. -/
theorem runLiveRound_passed (env : Env) (manager : WorkloadManager) (backing : Backing)
    (record : Message) (m : Machine) (h : (runLiveRound env manager backing record m).1 = true) :
    ∃ round words wordCount,
      (classifyLiveRound words (Rp86.hostWords record) round wordCount
        (expectedWitness record)).complete = true ∧
      (runLiveRound env manager backing record m).2.prepared
        = preparedRuntimeObserveProcessor m.prepared (classifyLiveRound words
          (Rp86.hostWords record) round wordCount (expectedWitness record)).processorSignature := by
  obtain ⟨opcode, entry, m₁, rfl, heq | heq⟩ := runLiveRound_cases env manager backing record m
  · rw [heq] at h
    cases h
  · rw [heq] at h ⊢
    unfold liveRound at h ⊢
    split at h
    · cases h
    · simp only at h ⊢
      split at h
      · cases h
      · next hpoll =>
        obtain ⟨round, words, wordCount, -, rfl, hcomplete⟩ := pollLiveRound_eq_some hpoll
        exact ⟨round, words, wordCount, hcomplete, rfl⟩

/-- The observer words of one I/O write. -/
def ioWriteWords (port data : UInt16) : List UInt32 :=
  [preparedEncodeAddress port.toUInt32 ||| (1 : UInt32) <<< pinDtr ||| (1 : UInt32) <<< pinInta,
    preparedEncodeWord data]

/-- An interrupt reply of an 8086 whose counter is `counter`, and its commit. -/
def irqReplyWords (counter : UInt16) : List UInt32 :=
  [0, 0, 0, 0, 0, 0, 0x12, counter, 0, counter, 0, counter, 0].flatMap (ioWriteWords ioPortTx) ++
    ioWriteWords ioPortControl 1

/-- An EOI and the commit of the idle loop behind it. -/
def returnWords : List UInt32 :=
  ioWriteWords ioPortPicCommand 0x20 ++ ioWriteWords ioPortTx 0 ++ ioWriteWords ioPortControl 1

/-- A round as the processor runs it. -/
def regularRound : List UInt32 :=
  ioWriteWords ioPortResult 5 ++ irqReplyWords 7 ++ returnWords

theorem live_round_order_regular :
    (classifyLiveRound regularRound [] (.zero false) 36 5).complete = true ∧
      RoundInOrder (classifyLiveRound regularRound [] (.zero false) 36 5).cpuSequence
        (liveEvents regularRound 36) :=
  ⟨by decide +kernel, (live_round_order regularRound [] (.zero false) 36 5 (by decide +kernel)).2
    (by decide +kernel)⟩

/-- A round in which the EOI and the foreground commit of an earlier interrupt are observed. -/
def lateReplyRound : List UInt32 :=
  returnWords ++ ioWriteWords ioPortResult 5 ++ irqReplyWords 7

/-- The EOI and the foreground commit stand before the reply: the round is complete, and its
interrupt commit is followed by no EOI. -/
theorem live_round_out_of_order :
    (classifyLiveRound lateReplyRound [] (.zero false) 36 5).complete = true ∧
      ¬ RoundInOrder (classifyLiveRound lateReplyRound [] (.zero false) 36 5).cpuSequence
        (liveEvents lateReplyRound 36) := by
  decide +kernel

end Rp86
