import Rp86.Lib.RingBuffer

/-!
# Evidence queue

`runtime/evidence_queue.c`: a ring of 2048 bytes between the evidence texts of a running workload
and the USB stack.  A copy that would leave the buffer has no result.
-/

namespace Rp86

open Lib

def evidenceQueueCapacity : ℕ := 2048

structure EvidenceQueue where
  data : ByteMap
  readOffset : ℕ
  writeOffset : ℕ
  used : ℕ
  producerDrops : UInt32

def evidenceQueueReset : EvidenceQueue := ⟨fun _ => 0, 0, 0, 0, 0⟩

/-- `memcpy` into the buffer. -/
def evidenceCopy (data : ByteMap) (offset : ℕ) (bytes : List UInt8) : Option ByteMap :=
  if offset + bytes.length ≤ evidenceQueueCapacity then some (writeBytes data offset bytes)
  else none

def evidenceQueueTryPush (queue : EvidenceQueue) (data : List UInt8) :
    Option (Bool × EvidenceQueue) :=
  if data.length = 0 then some (true, queue)
  else if data.length > evidenceQueueCapacity - queue.used then
    some (false, { queue with producerDrops := queue.producerDrops + 1 })
  else do
    let first := if data.length < evidenceQueueCapacity - queue.writeOffset then data.length
      else evidenceQueueCapacity - queue.writeOffset
    let buffer ← evidenceCopy queue.data queue.writeOffset (data.take first)
    let buffer ← evidenceCopy buffer 0 (data.drop first)
    return (true, { queue with
      data := buffer
      writeOffset := (queue.writeOffset + data.length) % evidenceQueueCapacity
      used := queue.used + data.length })

/-- `rp86_evidence_queue_peek`, as the bytes of the view that it gives. -/
def evidenceQueuePeek (queue : EvidenceQueue) : Option (List UInt8) :=
  if queue.used = 0 then some []
  else
    let contiguous := evidenceQueueCapacity - queue.readOffset
    let length := if queue.used < contiguous then queue.used else contiguous
    if queue.readOffset + length ≤ evidenceQueueCapacity then
      some (readBytes queue.data queue.readOffset length)
    else none

def evidenceQueueConsume (queue : EvidenceQueue) (length : ℕ) : EvidenceQueue :=
  let length := if length > queue.used then queue.used else length
  { queue with
    readOffset := (queue.readOffset + length) % evidenceQueueCapacity
    used := queue.used - length }

/-! ### Calls -/

inductive QueueCall where
  | push (data : List UInt8)
  | peek
  | consume (length : ℕ)
  deriving DecidableEq, Repr

inductive QueueAnswer where
  | pushed (accepted : Bool)
  | peeked (bytes : List UInt8)
  | consumed
  /-- An access behind the buffer. -/
  | outOfBounds
  deriving DecidableEq, Repr

def queueStep (queue : EvidenceQueue) : QueueCall → QueueAnswer × EvidenceQueue
  | .push data =>
    match evidenceQueueTryPush queue data with
    | some (accepted, queue) => (.pushed accepted, queue)
    | none => (.outOfBounds, queue)
  | .peek =>
    match evidenceQueuePeek queue with
    | some bytes => (.peeked bytes, queue)
    | none => (.outOfBounds, queue)
  | .consume length => (.consumed, evidenceQueueConsume queue length)

end Rp86
