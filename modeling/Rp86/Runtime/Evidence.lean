import Mathlib.Data.Int.Notation
import Rp86.Runtime.EvidenceQueue

/-!
# CDC evidence

`evidence_printf` and `drain_runtime_evidence` of `runtime/canonical_runtime.c` with the two CDC
writes of `host_protocol/usb_transport.c`.  A text goes to the evidence queue while a workload
executes, and to CDC directly otherwise.  The USB stack is one `CdcPoll` for each look at it; the
formatted text is an argument, `none` when `vsnprintf` fails.
-/

namespace Rp86

/-- The USB stack when it is looked at. -/
structure CdcPoll where
  connected : Bool
  available : ℕ
  /-- How many bytes `tud_cdc_write` takes at most. -/
  accepts : ℕ
  deriving DecidableEq, Repr

/-- The bytes that the stack takes of `length`. -/
def CdcPoll.taken (poll : CdcPoll) (length : ℕ) : ℕ :=
  if !poll.connected then 0
  else if poll.available = 0 then 0
  else min poll.accepts (min length poll.available)

/-- The loop of `rp86_host_protocol_cdc_write` over the polls before the deadline: the bytes that
the stack took, and the offset behind them. -/
def cdcWriteLoop (data : List UInt8) : List CdcPoll → ℕ → List UInt8 × ℕ
  | [], offset => ([], offset)
  | poll :: polls, offset =>
    if offset < data.length then
      let count := poll.taken (data.length - offset)
      let (bytes, last) := cdcWriteLoop data polls (offset + count)
      ((data.drop offset).take count ++ bytes, last)
    else ([], offset)

/-- `rp86_host_protocol_cdc_write`: whether all of the data was taken, and the bytes that were. -/
def cdcWrite (polls : List CdcPoll) (data : List UInt8) : Bool × List UInt8 :=
  let (bytes, offset) := cdcWriteLoop data polls 0
  (offset == data.length, bytes)

/-- `rp86_host_protocol_cdc_try_write`: how many bytes were taken. -/
def cdcTryWrite (poll : CdcPoll) (length : ℕ) : ℕ := if length = 0 then 0 else poll.taken length

/-- The size of `line` in `evidence_printf`. -/
def evidenceLineSize : ℕ := 256

/-- The evidence queue with what decides the route of a text, and the bytes that CDC has taken. -/
structure Evidence where
  queue : EvidenceQueue
  executorActive : Bool
  processorIdle : Bool
  delivered : List UInt8

/-- Texts go to the queue. -/
def Evidence.queues (s : Evidence) : Bool := s.executorActive && !s.processorIdle

def evidencePrintf (line : Option (List UInt8)) (polls : List CdcPoll) (s : Evidence) :
    ℤ × Evidence :=
  match line with
  | none => (-1, s)
  | some text =>
    if text.length ≥ evidenceLineSize then (-1, s)
    else if s.queues then
      match evidenceQueueTryPush s.queue text with
      | some (true, queue) => (text.length, { s with queue := queue })
      | some (false, queue) => (-1, { s with queue := queue })
      | none => (-1, s)
    else
      let (complete, bytes) := cdcWrite polls text
      (if complete then text.length else -1, { s with delivered := s.delivered ++ bytes })

def drainRuntimeEvidence (poll : CdcPoll) (s : Evidence) : Evidence :=
  match evidenceQueuePeek s.queue with
  | none => s
  | some bytes =>
    if bytes.length = 0 then s
    else
      let written := cdcTryWrite poll bytes.length
      { s with
        queue := evidenceQueueConsume s.queue written
        delivered := s.delivered ++ bytes.take written }

/-! ### Runs -/

/-- A text that `evidence_printf` did not reject, and the route it took. -/
structure EvidenceText where
  queued : Bool
  text : List UInt8
  deriving DecidableEq, Repr

/-- The evidence with the texts that were accepted so far, in the order of the calls. -/
structure EvidenceTrace where
  evidence : Evidence
  accepted : List EvidenceText

inductive EvidenceAction where
  /-- The executor starts, stops, or finds the processor idle. -/
  | executor (active idle : Bool)
  | printf (line : Option (List UInt8)) (polls : List CdcPoll)
  | drain (poll : CdcPoll)

def evidenceStep (t : EvidenceTrace) : EvidenceAction → EvidenceTrace
  | .executor active idle =>
    { t with evidence := { t.evidence with executorActive := active, processorIdle := idle } }
  | .printf line polls =>
    let (result, s) := evidencePrintf line polls t.evidence
    { evidence := s
      accepted := if 0 ≤ result then t.accepted ++ [⟨t.evidence.queues, line.getD []⟩]
        else t.accepted }
  | .drain poll => { t with evidence := drainRuntimeEvidence poll t.evidence }

/-- After a reset nothing is queued or delivered. -/
def evidenceStart : EvidenceTrace where
  evidence := ⟨evidenceQueueReset, false, false, []⟩
  accepted := []

end Rp86
