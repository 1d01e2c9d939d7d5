import Rp86.Lib.Refinement
import Rp86.Lib.Run
import Rp86.Runtime.EvidenceQueue

/-!
# The evidence queue is a bounded FIFO

`Valid` is what every operation keeps, and `contents` the bytes that a queue holds.  The queue
simulates `ByteFifo`, a list of at most 2048 bytes with a count of the strings that did not fit
(`evidence_queue_fifo`).
-/

namespace Rp86

open Lib

/-! ### What the queue is for -/

/-- A bounded byte queue. -/
structure ByteFifo where
  bytes : List UInt8
  drops : UInt32

/-- The answers of a bounded byte queue: a string is taken as a whole or dropped and counted, a view
is a prefix of the queue, and bytes leave it at the front. -/
def ByteFifo.spec (capacity : ℕ) (fifo : ByteFifo) (call : QueueCall) (answer : QueueAnswer)
    (fifo' : ByteFifo) : Prop :=
  match call with
  | .push data =>
    if fifo.bytes.length + data.length ≤ capacity then
      answer = .pushed true ∧ fifo' = { fifo with bytes := fifo.bytes ++ data }
    else answer = .pushed false ∧ fifo' = { fifo with drops := fifo.drops + 1 }
  | .peek =>
    ∃ bytes, answer = .peeked bytes ∧ bytes <+: fifo.bytes ∧ (fifo.bytes ≠ [] → bytes ≠ []) ∧
      fifo' = fifo
  | .consume length =>
    answer = .consumed ∧
      fifo' = { fifo with bytes := fifo.bytes.drop (min length fifo.bytes.length) }

/-! ### The operations -/

/-- The offsets of a queue agree with its length. -/
structure EvidenceQueue.Valid (queue : EvidenceQueue) : Prop where
  readOffset_lt : queue.readOffset < evidenceQueueCapacity
  used_le : queue.used ≤ evidenceQueueCapacity
  writeOffset_eq : queue.writeOffset = (queue.readOffset + queue.used) % evidenceQueueCapacity

def EvidenceQueue.contents (queue : EvidenceQueue) : List UInt8 :=
  ringBytes queue.data evidenceQueueCapacity queue.readOffset queue.used

@[simp] theorem EvidenceQueue.length_contents (queue : EvidenceQueue) :
    queue.contents.length = queue.used := length_ringBytes ..

theorem evidenceQueueReset_valid : evidenceQueueReset.Valid := ⟨by decide, by decide, by decide⟩

variable {queue : EvidenceQueue}

/-- A string that fits is appended as a whole. -/
theorem evidenceQueueTryPush_fits (h : queue.Valid) {data : List UInt8}
    (hfits : queue.used + data.length ≤ evidenceQueueCapacity) :
    ∃ queue', evidenceQueueTryPush queue data = some (true, queue') ∧ queue'.Valid ∧
      queue'.contents = queue.contents ++ data ∧ queue'.producerDrops = queue.producerDrops := by
  have hread := h.readOffset_lt
  have hwrite : queue.writeOffset < evidenceQueueCapacity := by
    rw [h.writeOffset_eq]
    exact Nat.mod_lt _ (by decide)
  rcases Nat.eq_zero_or_pos data.length with hzero | hpos
  · rw [List.length_eq_zero_iff] at hzero
    subst hzero
    exact ⟨queue, rfl, h, (List.append_nil _).symm, rfl⟩
  · have hfirst : (if data.length < evidenceQueueCapacity - queue.writeOffset then data.length
        else evidenceQueueCapacity - queue.writeOffset)
        = min data.length (evidenceQueueCapacity - queue.writeOffset) := by
      split_ifs <;> omega
    -- neither copy leaves the buffer
    have hcopy : evidenceCopy queue.data queue.writeOffset
        (data.take (min data.length (evidenceQueueCapacity - queue.writeOffset)))
        = some (writeBytes queue.data queue.writeOffset
          (data.take (min data.length (evidenceQueueCapacity - queue.writeOffset)))) := by
      rw [evidenceCopy, if_pos]
      rw [List.length_take]
      omega
    have hcopy' : ∀ buffer : ByteMap, evidenceCopy buffer 0
        (data.drop (min data.length (evidenceQueueCapacity - queue.writeOffset)))
        = some (writeBytes buffer 0
          (data.drop (min data.length (evidenceQueueCapacity - queue.writeOffset)))) := by
      intro buffer
      rw [evidenceCopy, if_pos]
      rw [List.length_drop]
      omega
    refine ⟨{ queue with
        data := ringWrite queue.data evidenceQueueCapacity queue.writeOffset data
        writeOffset := (queue.writeOffset + data.length) % evidenceQueueCapacity
        used := queue.used + data.length }, ?_, ⟨hread, hfits, ?_⟩, ?_, rfl⟩
    · rw [evidenceQueueTryPush, if_neg (by omega), if_neg (by omega)]
      simp only [hfirst, hcopy, hcopy', Option.bind_eq_bind, Option.bind_some, Option.pure_def]
      rfl
    · show (queue.writeOffset + data.length) % _ = _
      rw [h.writeOffset_eq, Nat.mod_add_mod, Nat.add_assoc]
    · show ringBytes (ringWrite _ _ queue.writeOffset _) _ _ _ = _
      rw [h.writeOffset_eq, ringBytes_ringWrite hfits hpos]
      rfl

theorem evidenceQueueTryPush_full {data : List UInt8} (hused : queue.used ≤ evidenceQueueCapacity)
    (hfull : ¬ queue.used + data.length ≤ evidenceQueueCapacity) :
    evidenceQueueTryPush queue data
      = some (false, { queue with producerDrops := queue.producerDrops + 1 }) := by
  rw [evidenceQueueTryPush, if_neg (by omega), if_pos (by omega)]

/-- The view is a prefix of the queue, and the rest of it is at the start of the buffer. -/
theorem evidenceQueuePeek_spec (h : queue.Valid) :
    ∃ n ≤ queue.used, evidenceQueuePeek queue = some (queue.contents.take n) ∧
      (queue.used ≠ 0 → n ≠ 0) ∧
      (n < queue.used → queue.readOffset + n = evidenceQueueCapacity) := by
  have hread := h.readOffset_lt
  rw [evidenceQueuePeek]
  by_cases hzero : queue.used = 0
  · rw [if_pos hzero]
    exact ⟨0, Nat.zero_le _, rfl, fun hne => absurd hzero hne, by omega⟩
  · have hlength : (if queue.used < evidenceQueueCapacity - queue.readOffset then queue.used
        else evidenceQueueCapacity - queue.readOffset)
        = min queue.used (evidenceQueueCapacity - queue.readOffset) := by
      split_ifs <;> omega
    rw [if_neg hzero]
    simp only [hlength]
    set n := min queue.used (evidenceQueueCapacity - queue.readOffset) with hn
    have hle : n ≤ queue.used := Nat.min_le_left _ _
    rw [if_pos (by omega)]
    refine ⟨n, hle, ?_, by omega, by omega⟩
    -- the first bytes of the ring are those before the end
    obtain ⟨rest, hrest⟩ := Nat.exists_eq_add_of_le hle
    rw [EvidenceQueue.contents, hrest, ringBytes_add, List.take_left' (length_ringBytes ..),
      readBytes_eq_ringBytes (show queue.readOffset + n ≤ evidenceQueueCapacity by omega)]

theorem evidenceQueueConsume_spec (h : queue.Valid) (length : ℕ) :
    (evidenceQueueConsume queue length).Valid ∧
      (evidenceQueueConsume queue length).contents
        = queue.contents.drop (min length queue.used) ∧
      (evidenceQueueConsume queue length).producerDrops = queue.producerDrops := by
  have hlength : (if length > queue.used then queue.used else length) = min length queue.used := by
    split_ifs <;> omega
  have hused := h.used_le
  unfold evidenceQueueConsume
  simp only [hlength]
  have hle : min length queue.used ≤ queue.used := Nat.min_le_right _ _
  refine ⟨⟨Nat.mod_lt _ (by decide), ?_, ?_⟩, ?_, trivial⟩
  · show queue.used - _ ≤ _
    omega
  · show queue.writeOffset = ((queue.readOffset + _) % _ + (queue.used - _)) % _
    rw [Nat.mod_add_mod, h.writeOffset_eq]
    congr 1
    omega
  · exact (drop_ringBytes _ _ _ hle).symm

/-! ### Runs -/

/-- The queue as the list it stands for. -/
structure EvidenceQueue.Refines (queue : EvidenceQueue) (fifo : ByteFifo) : Prop where
  valid : queue.Valid
  bytes : queue.contents = fifo.bytes
  drops : queue.producerDrops = fifo.drops

theorem queueStep_refines {fifo : ByteFifo} (h : queue.Refines fifo) (call : QueueCall) :
    ∃ fifo', fifo.spec evidenceQueueCapacity call (queueStep queue call).1 fifo' ∧
      (queueStep queue call).2.Refines fifo' := by
  have hlength : fifo.bytes.length = queue.used := by rw [← h.bytes, queue.length_contents]
  cases call with
  | push data =>
    by_cases hfits : queue.used + data.length ≤ evidenceQueueCapacity
    · obtain ⟨queue', hpush, hvalid, hcontents, hdrops⟩ := evidenceQueueTryPush_fits h.valid hfits
      refine ⟨{ fifo with bytes := fifo.bytes ++ data }, ?_, ?_⟩
      · rw [queueStep, hpush, ByteFifo.spec, hlength, if_pos hfits]
        exact ⟨rfl, rfl⟩
      · rw [queueStep, hpush]
        exact ⟨hvalid, by rw [hcontents, h.bytes], hdrops.trans h.drops⟩
    · have hpush := evidenceQueueTryPush_full h.valid.used_le hfits
      refine ⟨{ fifo with drops := fifo.drops + 1 }, ?_, ?_⟩
      · rw [queueStep, hpush, ByteFifo.spec, hlength, if_neg hfits]
        exact ⟨rfl, rfl⟩
      · rw [queueStep, hpush]
        exact ⟨⟨h.valid.readOffset_lt, h.valid.used_le, h.valid.writeOffset_eq⟩, h.bytes,
          congrArg (· + 1) h.drops⟩
  -- a view of a queue that is not empty is not empty either
  | peek =>
    obtain ⟨n, -, hpeek, hpos, -⟩ := evidenceQueuePeek_spec h.valid
    refine ⟨fifo, ⟨queue.contents.take n, ?_, ?_, ?_, rfl⟩, ?_⟩
    · rw [queueStep, hpeek]
    · rw [h.bytes]
      exact List.take_prefix _ _
    · intro hne
      have hused : queue.used ≠ 0 := by
        rw [← hlength]
        exact fun hzero => hne (List.length_eq_zero_iff.mp hzero)
      rw [h.bytes, ne_eq, List.take_eq_nil_iff]
      exact not_or.mpr ⟨hpos hused, hne⟩
    · rw [queueStep, hpeek]
      exact h
  | consume length =>
    obtain ⟨hvalid, hcontents, hdrops⟩ := evidenceQueueConsume_spec h.valid length
    refine ⟨{ fifo with bytes := fifo.bytes.drop (min length fifo.bytes.length) }, ⟨rfl, rfl⟩, ?_⟩
    exact ⟨hvalid, by rw [hlength, ← h.bytes]; exact hcontents, hdrops.trans h.drops⟩

/-- Peek at the queue and consume what was seen, a number of times. -/
def drainQueue : ℕ → EvidenceQueue → Option (List UInt8 × EvidenceQueue)
  | 0, queue => some ([], queue)
  | rounds + 1, queue => do
    let bytes ← evidenceQueuePeek queue
    let (rest, queue) ← drainQueue rounds (evidenceQueueConsume queue bytes.length)
    return (bytes ++ rest, queue)

/-- Draining gives the bytes in order. -/
theorem drainQueue_spec (h : queue.Valid) (rounds : ℕ) :
    ∃ bytes queue', drainQueue rounds queue = some (bytes, queue') ∧ queue'.Valid ∧
      bytes ++ queue'.contents = queue.contents := by
  induction rounds generalizing queue with
  | zero => exact ⟨[], queue, rfl, h, rfl⟩
  | succ rounds ih =>
    obtain ⟨n, hn, hpeek, -⟩ := evidenceQueuePeek_spec h
    have hlength : (queue.contents.take n).length = n := by
      rw [List.length_take, queue.length_contents]
      omega
    obtain ⟨hvalid, hcontents, -⟩ := evidenceQueueConsume_spec h n
    obtain ⟨bytes, queue', hdrain, hvalid', hbytes⟩ := ih hvalid
    refine ⟨queue.contents.take n ++ bytes, queue', ?_, hvalid', ?_⟩
    · rw [drainQueue, hpeek]
      simp only [Option.bind_eq_bind, Option.bind_some, hlength, hdrain]
      rfl
    · rw [List.append_assoc, hbytes, hcontents, Nat.min_eq_left hn, List.take_append_drop]

variable {bytes : List UInt8} {queue' : EvidenceQueue} {rounds : ℕ}

theorem drainQueue_succ (h : queue.Valid) (rounds : ℕ)
    (hdrain : drainQueue (rounds + 1) queue = some (bytes, queue')) :
    ∃ n rest, drainQueue rounds (evidenceQueueConsume queue n) = some (rest, queue') ∧
      (n = queue.used ∨ queue.readOffset + n = evidenceQueueCapacity ∧ n < queue.used) := by
  obtain ⟨n, hn, hpeek, -, hend⟩ := evidenceQueuePeek_spec h
  have hlength : (queue.contents.take n).length = n := by
    rw [List.length_take, queue.length_contents]
    omega
  rw [drainQueue, hpeek] at hdrain
  simp only [Option.bind_eq_bind, Option.bind_some, hlength, Option.bind_eq_some_iff] at hdrain
  obtain ⟨⟨rest, queue''⟩, hrest, hreturn⟩ := hdrain
  obtain ⟨-, rfl⟩ := Prod.mk.inj (Option.some.inj hreturn)
  exact ⟨n, rest, hrest, by omega⟩

theorem drainQueue_of_used_eq_zero (h : queue.Valid) (hused : queue.used = 0)
    (hdrain : drainQueue rounds queue = some (bytes, queue')) : queue'.contents = [] := by
  obtain ⟨bytes₁, queue₁, hdrain₁, -, hbytes⟩ := drainQueue_spec h rounds
  obtain ⟨-, rfl⟩ := Prod.mk.inj (Option.some.inj (hdrain.symm.trans hdrain₁))
  have hempty : queue.contents = [] := by
    rw [← List.length_eq_zero_iff, queue.length_contents, hused]
  rw [hempty] at hbytes
  exact (List.append_eq_nil_iff.mp hbytes).2

theorem evidenceQueueConsume_used (queue : EvidenceQueue) {n : ℕ} (hn : n ≤ queue.used) :
    (evidenceQueueConsume queue n).used = queue.used - n := by
  unfold evidenceQueueConsume
  simp only [if_neg (Nat.not_lt.mpr hn)]

/-- A queue that does not go over the end of the buffer is empty after one round. -/
theorem drainQueue_contiguous (h : queue.Valid)
    (hend : queue.readOffset + queue.used ≤ evidenceQueueCapacity)
    (hdrain : drainQueue (rounds + 1) queue = some (bytes, queue')) : queue'.contents = [] := by
  obtain ⟨n, rest, hrest, hn⟩ := drainQueue_succ h rounds hdrain
  refine drainQueue_of_used_eq_zero (evidenceQueueConsume_spec h n).1 ?_ hrest
  rw [evidenceQueueConsume_used queue (by omega)]
  omega

/-- Every queue is empty after two rounds. -/
theorem drainQueue_empty (h : queue.Valid)
    (hdrain : drainQueue (rounds + 2) queue = some (bytes, queue')) : queue'.contents = [] := by
  obtain ⟨n, rest, hrest, hn⟩ := drainQueue_succ h (rounds + 1) hdrain
  have hvalid := (evidenceQueueConsume_spec h n).1
  rcases hn with hn | ⟨hend, hlt⟩
  · refine drainQueue_of_used_eq_zero hvalid ?_ hrest
    rw [evidenceQueueConsume_used queue (by omega)]
    omega
  · -- the second round starts at the front of the buffer
    refine drainQueue_contiguous hvalid ?_ hrest
    have hread : (evidenceQueueConsume queue n).readOffset = 0 := by
      unfold evidenceQueueConsume
      simp [if_neg (show ¬ n > queue.used by omega), hend]
    rw [hread, Nat.zero_add]
    exact hvalid.used_le

/-- **The evidence queue is a bounded FIFO.**  Over every sequence of calls its answers are those of
a list of at most 2048 bytes, whose contents and drop count it has, and no call leaves the buffer;
peeking and consuming what was seen takes the bytes out in order, all of them in two rounds. -/
theorem evidence_queue_fifo (calls : List QueueCall) :
    let queue := calls.foldl (fun queue call => (queueStep queue call).2) evidenceQueueReset
    (∃ fifo, Allowed (ByteFifo.spec evidenceQueueCapacity) ⟨[], 0⟩
        (answers queueStep evidenceQueueReset calls) fifo ∧
      queue.contents = fifo.bytes ∧ queue.producerDrops = fifo.drops) ∧
    ∀ rounds,
      (∃ bytes queue', drainQueue rounds queue = some (bytes, queue') ∧
        bytes ++ queue'.contents = queue.contents) ∧
      ∃ queue', drainQueue (rounds + 2) queue = some (queue.contents, queue') ∧
        queue'.contents = [] := by
  intro queue
  have hreset : evidenceQueueReset.Refines ⟨[], 0⟩ := ⟨evidenceQueueReset_valid, rfl, rfl⟩
  have hstep : ∀ (queue : EvidenceQueue) (fifo : ByteFifo) call, queue.Refines fifo →
      ∃ fifo', fifo.spec evidenceQueueCapacity call (queueStep queue call).1 fifo' ∧
        (queueStep queue call).2.Refines fifo' := by
    intro queue fifo call h
    exact queueStep_refines h call
  obtain ⟨fifo, hallowed, hrefines⟩ := allowed_answers hstep calls hreset
  refine ⟨⟨fifo, hallowed, hrefines.bytes, hrefines.drops⟩, ?_⟩
  intro rounds
  have hvalid : queue.Valid := hrefines.valid
  constructor
  · obtain ⟨bytes, queue', hdrain, -, hbytes⟩ := drainQueue_spec hvalid rounds
    exact ⟨bytes, queue', hdrain, hbytes⟩
  · obtain ⟨bytes, queue', hdrain, -, hbytes⟩ := drainQueue_spec hvalid (rounds + 2)
    have hempty := drainQueue_empty hvalid hdrain
    rw [hempty, List.append_nil] at hbytes
    exact ⟨queue', by rw [hdrain, hbytes], hempty⟩

end Rp86
