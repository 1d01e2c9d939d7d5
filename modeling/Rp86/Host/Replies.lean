import Mathlib.Data.Int.Bitwise
import Rp86.Host.Core

/-!
# The Host's decoders of replies

`host/rp86/workload_timeout.py` and `host/rp86/diagnostics.py`, with the status decoder of
`host/rp86/workload.py`.  The decoders check that a reply is consistent before they return its
fields; the texts of `format` and `as_dict` are not modelled.
-/

namespace Rp86.Host

open Lib

def statusServiceUnavailable : ℤ := 6
def statusBadState : ℤ := 8
def statusBadWorkload : ℤ := 9

/-- The 32-bit field at a byte offset, as `struct.unpack` returns it. -/
def unpack32 (bytes : List UInt8) (i : ℕ) : ℤ := (le32 bytes i).toNat

/-! ### Timeout -/

def workloadTimeoutGet : ℤ := 0
def workloadTimeoutSet : ℤ := 1
def workloadTimeoutMaxMs : ℤ := 86400000

def timeoutRequest (timeoutMs : Option ℤ) (sequence : ℤ) : Except HostError Message := do
  if ∃ t ∈ timeoutMs, ¬ (0 ≤ t ∧ t ≤ workloadTimeoutMaxMs) then
    throw (.valueError "workload timeout is outside the supported range")
  let payload ← structPack
    [(4, if timeoutMs = none then workloadTimeoutGet else workloadTimeoutSet),
      (4, timeoutMs.getD 0)]
  return { messageType := typeWorkloadTimeoutRequest, sequence := sequence, payload := payload }

structure WorkloadTimeout where
  timeoutMs : ℤ
  remainingMs : ℤ
  workloadId : ℤ
  bootId : ℤ
  armed : ℤ
  deriving DecidableEq, Repr

/-- The consistency check of `WorkloadTimeout.from_reply`. -/
def WorkloadTimeout.Inconsistent (t : WorkloadTimeout) : Prop :=
  t.timeoutMs > workloadTimeoutMaxMs ∨ ¬ (t.armed = 0 ∨ t.armed = 1) ∨
    t.remainingMs > t.timeoutMs ∨ (t.armed = 0 ∧ t.remainingMs ≠ 0) ∨
    (t.armed ≠ 0 ∧ ¬ (t.timeoutMs ≠ 0 ∧ t.workloadId ≠ 0 ∧ t.bootId ≠ 0))

instance (t : WorkloadTimeout) : Decidable t.Inconsistent :=
  inferInstanceAs (Decidable (_ ∨ _))

def WorkloadTimeout.fromReply (reply request : Message) : Except HostError WorkloadTimeout := do
  if reply.messageType ≠ typeWorkloadTimeoutResult ∨ reply.sequence ≠ request.sequence then
    throw (.valueError "workload timeout reply type/sequence mismatch")
  if reply.status ≠ statusOk then
    throw (.valueError (if reply.status = statusBadState then
      "execution limit is unavailable for an active prepared workload"
      else "workload timeout status=" ++ toString reply.status))
  if reply.payload.length ≠ 52 then
    throw (.valueError "workload timeout payload must be exactly 52 bytes")
  if ∃ i ∈ List.range 8, unpack32 reply.payload (20 + 4 * i) ≠ 0 then
    throw (.valueError "workload timeout reserved fields must be zero")
  let result : WorkloadTimeout :=
    { timeoutMs := unpack32 reply.payload 0
      remainingMs := unpack32 reply.payload 4
      workloadId := unpack32 reply.payload 8
      bootId := unpack32 reply.payload 12
      armed := unpack32 reply.payload 16 }
  if result.Inconsistent then throw (.valueError "inconsistent workload timeout status")
  if request.payload.length ≠ 8 then throw .structError
  if unpack32 request.payload 0 = workloadTimeoutSet ∧
      result.timeoutMs ≠ unpack32 request.payload 4 then
    throw (.valueError "workload timeout setting was not applied")
  return result

/-! ### Diagnostics -/

def diagnosticsCycleValid : ℤ := 1
def diagnosticsDataValid : ℤ := 2

/-- The keys of `CYCLE_NAMES`. -/
def cycleNames : List ℤ := [0, 1, 2, 3, 4, 5]
/-- The keys of `COMPLETION_REASONS`. -/
def completionReasons : List ℤ := [0, 1, 2, 3, 4, 5, 6]

def diagnosticsRequest (workloadId sequence : ℤ) : Except HostError Message := do
  let payload ← structPack [(4, workloadId)]
  return { messageType := typeDiagnosticsRequest, sequence := sequence, payload := payload }

structure BusDiagnostics where
  workloadId : ℤ
  bootId : ℤ
  lifecycle : ℤ
  completionReason : ℤ
  cycles : ℤ
  lastAddress : ℤ
  lastData : ℤ
  cycleType : ℤ
  lanes : ℤ
  flags : ℤ
  deriving DecidableEq, Repr

/-- A flag is set, as the truth value of `self.flags & flag`. -/
def BusDiagnostics.has (d : BusDiagnostics) (flag : ℤ) : Bool := Int.land d.flags flag ≠ 0

def BusDiagnostics.fromReply (reply request : Message) : Except HostError BusDiagnostics := do
  if reply.messageType ≠ typeDiagnosticsResult ∨ reply.sequence ≠ request.sequence then
    throw (.valueError "diagnostics reply type/sequence mismatch")
  if reply.status ≠ statusOk then
    throw (.valueError (
      if reply.status = statusBadState then "processor is executing; stop before trace"
      else if reply.status = statusBadWorkload then "workload changed before diagnostics read"
      else if reply.status = statusServiceUnavailable then
        "no stopped general-executor diagnostics available"
      else "diagnostics status=" ++ toString reply.status))
  if reply.payload.length ≠ 52 then
    throw (.valueError "diagnostics payload must be exactly 52 bytes")
  if ∃ i ∈ List.range 3, unpack32 reply.payload (40 + 4 * i) ≠ 0 then
    throw (.valueError "diagnostics reserved fields must be zero")
  let snapshot : BusDiagnostics :=
    { workloadId := unpack32 reply.payload 0
      bootId := unpack32 reply.payload 4
      lifecycle := unpack32 reply.payload 8
      completionReason := unpack32 reply.payload 12
      cycles := unpack32 reply.payload 16
      lastAddress := unpack32 reply.payload 20
      lastData := unpack32 reply.payload 24
      cycleType := unpack32 reply.payload 28
      lanes := unpack32 reply.payload 32
      flags := unpack32 reply.payload 36 }
  if request.payload.length ≠ 4 then throw .structError
  let expectedId := unpack32 request.payload 0
  if snapshot.workloadId = 0 ∨ (expectedId ≠ 0 ∧ snapshot.workloadId ≠ expectedId) then
    throw (.valueError "diagnostics workload mismatch")
  if snapshot.lifecycle ∉ ([4, 5, 6, 7] : List ℤ) then
    throw (.valueError "diagnostics did not describe a stopped executor")
  if snapshot.completionReason ∉ completionReasons ∨ snapshot.has (Int.lnot 0xFF) then
    throw (.valueError "unknown diagnostics reason or flags")
  if snapshot.has diagnosticsCycleValid then
    if snapshot.cycleType ∉ cycleNames ∨ snapshot.lastAddress > 0xFFFFF ∨ snapshot.lanes > 3 then
      throw (.valueError "invalid diagnostics bus cycle")
  else if snapshot.has diagnosticsDataValid then
    throw (.valueError "diagnostics data has no valid cycle")
  if snapshot.lastData > 0xFFFF then throw (.valueError "invalid diagnostics bus data")
  return snapshot

/-! ### Status -/

/-- The tuple that `decode_structured_status_payload` returns. -/
structure StructuredStatus where
  workloadId : ℤ
  state : ℤ
  received : ℤ
  clockMode : ℤ
  cycles : ℤ
  processorFlags : ℤ
  resultFlags : ℤ
  completionReason : ℤ
  signature : ℤ
  output : List UInt8
  structured : Bool
  deriving DecidableEq, Repr

def decodeStructuredStatusPayload (payload : List UInt8) : Except HostError StructuredStatus := do
  if payload.length ≠ 52 then
    throw (.valueError "workload status payload must be exactly 52 bytes")
  let outputLength := (le16 payload 34).toNat
  let output := (payload.drop 36).take 16
  if outputLength > output.length then
    throw (.valueError "structured workload output length is invalid")
  return {
    workloadId := unpack32 payload 0
    state := unpack32 payload 4
    received := unpack32 payload 8
    clockMode := unpack32 payload 12
    cycles := unpack32 payload 16
    processorFlags := unpack32 payload 20
    resultFlags := unpack32 payload 24
    completionReason := unpack32 payload 28
    signature := (le16 payload 32).toNat
    output := output.take outputLength
    structured := true }

end Rp86.Host
