import Rp86.Host.Telemetry
import Rp86.Lib.SeqLock
import Rp86.Processor.Equiv.Telemetry

/-!
# Telemetry snapshots are coherent

`telemetry_coherent`: a snapshot that `read_stable_telemetry` returns is the block as it was between
two updates, however the writes of the processor and the reads of the Host interleave.

The workload is the writer of a sequence lock (`telemetrySeqLock`).
-/

namespace Rp86.Host

open Lib Processor

/-! ### Decoding the block -/

/-- The block as the Host decodes it. -/
def FreeRTOSSystemTelemetry.ofTelemetry (t : Telemetry) : FreeRTOSSystemTelemetry where
  ledState := t.ledState.toNat
  ledToggleCount := t.ledToggleCount.toNat
  queueTxCount := t.queueTxCount.toNat
  queueRxCount := t.queueRxCount.toNat
  eventSequence := t.seq.toNat
  event := t.event.toNat
  eventArg := t.arg.toNat
  errorCount := t.errorCount.toNat

theorem length_telemetry_bytes (t : Telemetry) : t.bytes.length = telemetrySize := rfl

theorem decode_telemetry_bytes (t : Telemetry) :
    FreeRTOSSystemTelemetry.decode t.bytes = .ok (.ofTelemetry t) := by
  have hword := fun i => congrArg (fun word => (word.toNat : ℤ)) (le16_flatMap
    [t.ledState, t.ledToggleCount, t.queueTxCount, t.queueRxCount, t.seq, t.event, t.arg,
      t.errorCount] i)
  unfold FreeRTOSSystemTelemetry.decode FreeRTOSSystemTelemetry.ofTelemetry
  rw [if_neg (not_not.mpr (length_telemetry_bytes t))]
  refine congrArg Except.ok ?_
  rw [FreeRTOSSystemTelemetry.mk.injEq]
  exact ⟨hword 0, hword 1, hword 2, hword 3, hword 4, hword 5, hword 6, hword 7⟩

theorem decodeSequence_telemetry_bytes (t : Telemetry) :
    decodeSequence (TelemetryReader.sequenceWord t.bytes) = .ok (t.seq.toNat : ℤ) := by
  have hword : le16 (leBytes 2 t.seq.toNat ++ []) 0 = t.seq := by
    rw [le16_leBytes, UInt16.ofNat_toNat]
  exact congrArg (fun word : UInt16 => Except.ok (word.toNat : ℤ)) hword

theorem stableSequence_iff (n : ℕ) : stableSequence n = true ↔ n % 2 = 0 := by
  have hland : Int.land n 1 = ((n % 2 : ℕ) : ℤ) := by
    rw [← Nat.and_one_is_mod]
    rfl
  rw [stableSequence, decide_eq_true_iff, hland, Int.natCast_eq_zero]

/-! ### Steps of the reader -/

namespace TelemetryReader

inductive ReadStep (t : Telemetry) (n : ℕ) : TelemetryReader → TelemetryReader → Prop where
  | opened (left : ℕ) (heven : t.seq.toNat % 2 = 0) :
      ReadStep t n (.readBefore left) (.readRaw left t.seq.toNat [])
  | piece (left : ℕ) (before : ℤ) (bytes : List UInt8) :
      ReadStep t n (.readRaw left before bytes)
        (.readRaw left before (bytes ++ (t.bytes.drop bytes.length).take n))
  | complete (left : ℕ) (before : ℤ) (bytes : List UInt8)
      (hlength : (bytes ++ (t.bytes.drop bytes.length).take n).length = telemetrySize) :
      ReadStep t n (.readRaw left before bytes)
        (.readAfter left before (bytes ++ (t.bytes.drop bytes.length).take n))
  | accepted (left : ℕ) (raw : List UInt8) (snapshot : FreeRTOSSystemTelemetry)
      (hdecode : FreeRTOSSystemTelemetry.decode raw = .ok snapshot) :
      ReadStep t n (.readAfter left t.seq.toNat raw) (.returned snapshot)
  | again (reader : TelemetryReader) (left : ℕ) : ReadStep t n reader (.readBefore left)
  | changed (reader : TelemetryReader) : ReadStep t n reader .changed
  | raised (reader : TelemetryReader) (error : HostError) : ReadStep t n reader (.raised error)
  | done (snapshot : FreeRTOSSystemTelemetry) :
      ReadStep t n (.returned snapshot) (.returned snapshot)

theorem ReadStep.nextAttempt {t : Telemetry} {n : ℕ} (reader : TelemetryReader) (left : ℕ) :
    ReadStep t n reader (nextAttempt left) := by
  cases left with
  | zero => exact .changed reader
  | succ left => exact .again reader left

theorem readStep (reader : TelemetryReader) (t : Telemetry) (n : ℕ) :
    ReadStep t n reader (reader.read t.bytes n) := by
  cases reader with
  | readBefore left =>
    simp only [read, decodeSequence_telemetry_bytes]
    split_ifs with hstable
    · exact .opened left ((stableSequence_iff _).mp hstable)
    · exact .nextAttempt _ left
  | readRaw left before bytes =>
    simp only [read]
    split_ifs with hlength
    · exact .complete left before bytes hlength
    · exact .piece left before bytes
  -- a snapshot is returned if the second sequence is the first, and the one in the block
  | readAfter left before raw =>
    cases hdecode : FreeRTOSSystemTelemetry.decode raw with
    | error error =>
      have haccept : accept before raw (sequenceWord t.bytes) = .error error := by
        rw [accept, decodeSequence_telemetry_bytes, hdecode]
        rfl
      simp only [read, haccept]
      exact .raised _ error
    | ok snapshot =>
      have haccept : accept before raw (sequenceWord t.bytes)
          = .ok (if before = t.seq.toNat ∧ (t.seq.toNat : ℤ) = snapshot.eventSequence ∧
              snapshot.stable then some snapshot else none) := by
        rw [accept, decodeSequence_telemetry_bytes, hdecode]
        rfl
      simp only [read, haccept]
      split_ifs with hsame
      · obtain ⟨rfl, -, -⟩ := hsame
        exact .accepted left raw snapshot hdecode
      · exact .nextAttempt _ left
  | returned snapshot => exact .done snapshot
  | raised error => exact .raised _ error
  | changed => exact .changed _

end TelemetryReader

/-! ### What an attempt has read -/

/-- The attempt that began after `pre` has read `before` and `bytes` at the end of `post`: the
sequence was `before` then, and unless the block changed since then, the bytes are its bytes. -/
structure Gathered (s : TelemetrySystem) (pre post : List TelemetryAction) (before : ℤ)
    (bytes : List UInt8) : Prop where
  before_eq : before = (run telemetryStep s pre).workload.telemetry.seq.toNat
  even : (run telemetryStep s pre).workload.telemetry.seq.toNat % 2 = 0
  bytes_eq :
    Throughout telemetryStep
      (fun u => u.workload.telemetry = (run telemetryStep s pre).workload.telemetry)
      (run telemetryStep s pre) post →
    bytes = (run telemetryStep s pre).workload.telemetry.bytes.take bytes.length

variable {s : TelemetrySystem} {pre post : List TelemetryAction} {before : ℤ} {bytes : List UInt8}

theorem Gathered.snoc (h : Gathered s pre post before bytes) (action : TelemetryAction) :
    Gathered s pre (post ++ [action]) before bytes :=
  ⟨h.before_eq, h.even, fun hconst => h.bytes_eq (throughout_append.mp hconst).1⟩

theorem Gathered.piece (h : Gathered s pre post before bytes) (n : ℕ) :
    Gathered s pre post before (bytes ++
      ((run telemetryStep s (pre ++ post)).workload.telemetry.bytes.drop bytes.length).take n) := by
  refine ⟨h.before_eq, h.even, fun hconst => ?_⟩
  have hbytes := h.bytes_eq hconst
  have hnow := hconst post List.prefix_rfl
  rw [← run_append] at hnow
  rw [hnow]
  generalize (run telemetryStep s pre).workload.telemetry.bytes = memory at hbytes
  have hpieces : bytes ++ (memory.drop bytes.length).take n = memory.take (bytes.length + n) := by
    rw [List.take_add, ← hbytes]
  rw [hpieces, List.length_take, ← List.take_eq_take_min]

/-- What the reader's state says about the run that led to it. -/
def ReaderInv (s : TelemetrySystem) (actions : List TelemetryAction) : TelemetryReader → Prop
  | .readRaw _ before bytes => ∃ pre post, actions = pre ++ post ∧ Gathered s pre post before bytes
  | .readAfter _ before raw => ∃ pre post, actions = pre ++ post ∧ Gathered s pre post before raw ∧
      raw.length = telemetrySize
  | .returned snapshot => ∃ pre post later raw, actions = pre ++ post ++ later ∧
      Gathered s pre post (run telemetryStep s (pre ++ post)).workload.telemetry.seq.toNat raw ∧
      raw.length = telemetrySize ∧ FreeRTOSSystemTelemetry.decode raw = .ok snapshot
  | _ => True

/-- A step of the processor takes nothing from what the reader knows. -/
theorem ReaderInv.snoc {actions : List TelemetryAction} {reader : TelemetryReader}
    (h : ReaderInv s actions reader) (action : TelemetryAction) :
    ReaderInv s (actions ++ [action]) reader := by
  cases reader with
  | readRaw left before bytes =>
    obtain ⟨pre, post, rfl, hgathered⟩ := h
    exact ⟨pre, post ++ [action], List.append_assoc .., hgathered.snoc action⟩
  | readAfter left before raw =>
    obtain ⟨pre, post, rfl, hgathered, hlength⟩ := h
    exact ⟨pre, post ++ [action], List.append_assoc .., hgathered.snoc action, hlength⟩
  | returned snapshot =>
    obtain ⟨pre, post, later, raw, rfl, hraw⟩ := h
    exact ⟨pre, post, later ++ [action], raw, List.append_assoc .., hraw⟩
  | readBefore left | raised error | changed => trivial

theorem ReaderInv.read {actions : List TelemetryAction} {reader reader' : TelemetryReader} {n : ℕ}
    (h : ReaderInv s actions reader)
    (hread : TelemetryReader.ReadStep (run telemetryStep s actions).workload.telemetry n reader
      reader') :
    ReaderInv s actions reader' := by
  cases hread with
  | opened left heven =>
    refine ⟨actions, [], (List.append_nil _).symm, rfl, heven, fun _ => ?_⟩
    rw [List.length_nil, List.take_zero]
  | piece left before bytes =>
    obtain ⟨pre, post, rfl, hgathered⟩ := h
    exact ⟨pre, post, rfl, hgathered.piece n⟩
  | complete left before bytes hlength =>
    obtain ⟨pre, post, rfl, hgathered⟩ := h
    exact ⟨pre, post, rfl, hgathered.piece n, hlength⟩
  | accepted left raw snapshot hdecode =>
    obtain ⟨pre, post, rfl, hgathered, hlength⟩ := h
    exact ⟨pre, post, [], raw, (List.append_nil _).symm, hgathered, hlength, hdecode⟩
  | done snapshot => exact h
  | again | changed | raised => trivial

theorem readerInv_run {left : ℕ} (hs : s.reader = .readBefore left)
    (actions : List TelemetryAction) :
    ReaderInv s actions (run telemetryStep s actions).reader := by
  induction actions using List.reverseRecOn with
  | nil =>
    rw [run_nil, hs]
    trivial
  | append_singleton actions action ih =>
    rw [run_append]
    cases action with
    | read n => exact (ih.read (TelemetryReader.readStep _ _ n)).snoc _
    | restart | enter update | store => exact ih.snoc _

/-! ### The writer -/

def TelemetrySystem.sequence (s : TelemetrySystem) : ℕ := s.workload.telemetry.seq.toNat

/-- Every step but a restart is one of the writer's steps or leaves the workload alone. -/
theorem writerStep_telemetryStep {s : TelemetrySystem} (h : s.workload.Phase)
    {action : TelemetryAction} (haction : action ≠ .restart) :
    s.workload.WriterStep (telemetryStep s action).workload := by
  cases action with
  | restart => exact absurd rfl haction
  | enter update => exact TelemetryWorkload.writerStep_enter h update
  | store => exact TelemetryWorkload.writerStep_next h
  | read n => exact .refl h

theorem phase_telemetryStep {s : TelemetrySystem} (h : s.workload.Phase)
    (action : TelemetryAction) : (telemetryStep s action).workload.Phase := by
  by_cases haction : action = .restart
  · rw [haction]
    exact .idle rfl rfl rfl
  · exact (writerStep_telemetryStep h haction).phase

theorem telemetryRun_phase (attempts : ℤ) (actions : List TelemetryAction) :
    (telemetryRun attempts actions).workload.Phase := by
  have hstart : ({} : TelemetryWorkload).Phase := .idle rfl rfl rfl
  exact @run_invariant _ _ telemetryStep (fun s => s.workload.Phase)
    (fun _ action h => phase_telemetryStep h action) actions _ hstart

/-- The telemetry block is protected by a sequence lock. -/
theorem telemetrySeqLock :
    SeqLock telemetryStep (· ≠ .restart) (fun s => s.workload.Phase) TelemetrySystem.sequence
      (fun s => s.workload.telemetry) (2 ^ 15) := by
  have hsucc (seq : UInt16) : (seq + 1).toNat = (seq.toNat + 1) % (2 * 2 ^ 15) :=
    UInt16.toNat_add ..
  refine ⟨fun s action _ h => phase_telemetryStep h action, ?_, ?_⟩
  · intro s action haction h heven
    rcases (writerStep_telemetryStep h haction).even heven with hsame | hnext
    · exact .inl ⟨congrArg (fun t : Telemetry => t.seq.toNat) hsame, hsame⟩
    · exact .inr ((congrArg UInt16.toNat hnext).trans (hsucc _))
  · intro s action haction h hodd
    rcases (writerStep_telemetryStep h haction).odd hodd with hsame | hnext
    · exact .inl (congrArg UInt16.toNat hsame)
    · exact .inr ((congrArg UInt16.toNat hnext).trans (hsucc _))

/-- With an even sequence the block is as it was at a moment between updates: an update that has
been entered since has not written the block yet. -/
theorem exists_idle (attempts : ℤ) (actions : List TelemetryAction)
    (heven : (telemetryRun attempts actions).sequence % 2 = 0) :
    ∃ moment, moment <+: actions ∧ (telemetryRun attempts moment).workload.pending = [] ∧
      (telemetryRun attempts moment).workload.telemetry
        = (telemetryRun attempts actions).workload.telemetry := by
  induction actions using List.reverseRecOn with
  | nil => exact ⟨[], List.prefix_rfl, rfl, rfl⟩
  | append_singleton actions action ih =>
    have hlast : telemetryRun attempts (actions ++ [action])
        = telemetryStep (telemetryRun attempts actions) action := run_append ..
    rw [hlast] at heven ⊢
    -- The step ended an update or did not write the block.
    have hstep : (telemetryStep (telemetryRun attempts actions) action).workload.pending = [] ∨
        (telemetryStep (telemetryRun attempts actions) action).workload.telemetry
          = (telemetryRun attempts actions).workload.telemetry := by
      by_cases haction : action = .restart
      · rw [haction]
        exact .inl rfl
      · exact (writerStep_telemetryStep (telemetryRun_phase attempts actions) haction).settled heven
    rcases hstep with hpending | hsame
    · exact ⟨actions ++ [action], List.prefix_rfl, hlast ▸ hpending, by rw [hlast]⟩
    · rw [TelemetrySystem.sequence, hsame] at heven
      obtain ⟨moment, hprefix, hpending, htelemetry⟩ := ih heven
      exact ⟨moment, hprefix.trans (List.prefix_append ..), hpending, htelemetry.trans hsame.symm⟩

/-- **Coherent snapshots.**  Take any interleaving of updates and reads, and in it the actions
`attempt` from a moment at which an attempt of the reader is about to begin.  If the reader then
returns a snapshot, without a restart and with fewer than `2 ^ 15` updates in between, the snapshot
is the block as it was at a moment when no update was in progress. -/
theorem telemetry_coherent (attempts : ℤ) (pre attempt : List TelemetryAction) {left : ℕ}
    {snapshot : FreeRTOSSystemTelemetry}
    (hbegin : (telemetryRun attempts pre).reader = .readBefore left)
    (hreturned : (telemetryRun attempts (pre ++ attempt)).reader = .returned snapshot)
    (hrestart : TelemetryAction.restart ∉ attempt)
    (hupdates : updatesBegun telemetryStep TelemetrySystem.sequence (telemetryRun attempts pre)
      attempt < 2 ^ 15) :
    ∃ moment, moment <+: pre ++ attempt ∧
      (telemetryRun attempts moment).workload.pending = [] ∧
      snapshot = .ofTelemetry (telemetryRun attempts moment).workload.telemetry := by
  have happend (more : List TelemetryAction) : telemetryRun attempts (pre ++ more)
      = run telemetryStep (telemetryRun attempts pre) more := run_append ..
  have hinv := readerInv_run hbegin attempt
  rw [← happend, hreturned] at hinv
  obtain ⟨first, reads, later, raw, rfl, hgathered, hlength, hdecode⟩ := hinv
  -- The returned attempt reads from `first` on; both reads of the sequence gave the same number.
  have hK : ∀ action ∈ reads, action ≠ TelemetryAction.restart := by
    rintro action haction rfl
    exact hrestart (List.mem_append_left _ (List.mem_append_right _ haction))
  have hsame : (run telemetryStep (run telemetryStep (telemetryRun attempts pre) first)
      reads).sequence = (run telemetryStep (telemetryRun attempts pre) first).sequence := by
    rw [← run_append]
    exact Int.ofNat_inj.mp hgathered.before_eq
  have hfew : updatesBegun telemetryStep TelemetrySystem.sequence
      (run telemetryStep (telemetryRun attempts pre) first) reads < 2 ^ 15 := by
    rw [updatesBegun_append, updatesBegun_append] at hupdates
    omega
  have hphase : (run telemetryStep (telemetryRun attempts pre) first).workload.Phase := by
    rw [← happend]
    exact telemetryRun_phase attempts (pre ++ first)
  have hconst := telemetrySeqLock.coherent hK hphase hgathered.even hsame hfew
  -- So the block did not change in between, and the bytes are the block after `first`.
  have hraw := hgathered.bytes_eq (hconst.mono fun _ h => h.2)
  rw [hlength, ← length_telemetry_bytes, List.take_length] at hraw
  rw [hraw, decode_telemetry_bytes, Except.ok.injEq, ← happend] at hdecode
  have heven := hgathered.even
  rw [← happend] at heven
  obtain ⟨moment, hprefix, hpending, htelemetry⟩ := exists_idle attempts (pre ++ first) heven
  refine ⟨moment, hprefix.trans ?_, hpending, ?_⟩
  · rw [List.append_assoc, ← List.append_assoc]
    exact List.prefix_append ..
  · rw [htelemetry, hdecode]

/-- A read in pieces of three and thirteen bytes, in which the producer enters its next update. -/
theorem telemetry_coherent_pieces :
    ∃ moment, moment <+: TelemetryAction.enter .led :: List.replicate 8 .store ++
        [.read 2, .enter (.queueSend 1), .read 3, .store, .read 13, .read 2] ∧
      (telemetryRun 5 moment).workload.pending = [] ∧
      (⟨1, 1, 0, 0, 2, 2, 1, 0⟩ : FreeRTOSSystemTelemetry)
        = .ofTelemetry (telemetryRun 5 moment).workload.telemetry :=
  telemetry_coherent 5 (.enter .led :: List.replicate 8 .store)
    [.read 2, .enter (.queueSend 1), .read 3, .store, .read 13, .read 2]
    (show _ = TelemetryReader.readBefore 4 by decide) (by decide) (by decide) (by decide)

end Rp86.Host
