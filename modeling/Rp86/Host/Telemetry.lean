import Mathlib.Data.Int.Bitwise
import Rp86.Host.Protocol
import Rp86.Lib.Run
import Rp86.Processor.Telemetry

/-!
# The Host's telemetry reader

`read_stable_telemetry` of `host/rp86/freertos_system.py`, and the workload that it observes.  The
reader is its state between two reads of the memory.  A read of the sequence word is one step; the
read of the block may be split into steps that return a few bytes each.  Between the steps of the
reader the processor goes on.
-/

namespace Rp86.Host

open Lib Processor

def telemetrySize : ℕ := 16
def telemetrySequenceOffset : ℕ := 8

def stableSequence (sequence : ℤ) : Bool := Int.land sequence 1 = 0

def unpack16 (bytes : List UInt8) (i : ℕ) : ℤ := (le16 bytes i).toNat

def decodeSequence (data : List UInt8) : Except HostError ℤ := do
  if data.length ≠ 2 then throw (.valueError "telemetry sequence must be exactly 2 bytes")
  return unpack16 data 0

structure FreeRTOSSystemTelemetry where
  ledState : ℤ
  ledToggleCount : ℤ
  queueTxCount : ℤ
  queueRxCount : ℤ
  eventSequence : ℤ
  event : ℤ
  eventArg : ℤ
  errorCount : ℤ
  deriving DecidableEq, Repr

def FreeRTOSSystemTelemetry.decode (data : List UInt8) :
    Except HostError FreeRTOSSystemTelemetry := do
  if data.length ≠ telemetrySize then
    throw (.valueError "FreeRTOS telemetry must be exactly 16 bytes")
  return {
    ledState := unpack16 data 0
    ledToggleCount := unpack16 data 2
    queueTxCount := unpack16 data 4
    queueRxCount := unpack16 data 6
    eventSequence := unpack16 data 8
    event := unpack16 data 10
    eventArg := unpack16 data 12
    errorCount := unpack16 data 14 }

def FreeRTOSSystemTelemetry.stable (t : FreeRTOSSystemTelemetry) : Bool :=
  stableSequence t.eventSequence

/-! ### `read_stable_telemetry` -/

/-- Where `read_stable_telemetry` is; `left` counts the attempts after this one. -/
inductive TelemetryReader where
  /-- An attempt is about to read the sequence. -/
  | readBefore (left : ℕ)
  /-- The read of the block, with the bytes that it has so far. -/
  | readRaw (left : ℕ) (before : ℤ) (bytes : List UInt8)
  /-- The sequence is about to be read again. -/
  | readAfter (left : ℕ) (before : ℤ) (raw : List UInt8)
  | returned (snapshot : FreeRTOSSystemTelemetry)
  | raised (error : HostError)
  /-- `RuntimeError`: "processor state changed during every telemetry snapshot". -/
  | changed
  deriving DecidableEq, Repr

namespace TelemetryReader

/-- The call with a number of attempts. -/
def start (attempts : ℤ) : TelemetryReader :=
  if attempts < 1 then .raised (.valueError "telemetry attempts must be at least 1")
  else .readBefore (attempts.toNat - 1)

def nextAttempt : ℕ → TelemetryReader
  | 0 => .changed
  | left + 1 => .readBefore left

/-- The sequence word of the block. -/
def sequenceWord (memory : List UInt8) : List UInt8 :=
  (memory.drop telemetrySequenceOffset).take 2

def accept (before : ℤ) (raw sequence : List UInt8) :
    Except HostError (Option FreeRTOSSystemTelemetry) := do
  let after ← decodeSequence sequence
  let snapshot ← FreeRTOSSystemTelemetry.decode raw
  return if before = after ∧ after = snapshot.eventSequence ∧ snapshot.stable then some snapshot
    else none

/-- One read of the telemetry block in memory.  In the read of the block it returns up to `n` of
the bytes that are missing. -/
def read (memory : List UInt8) (n : ℕ) : TelemetryReader → TelemetryReader
  | .readBefore left =>
    match decodeSequence (sequenceWord memory) with
    | .error error => .raised error
    | .ok before => if stableSequence before then .readRaw left before [] else nextAttempt left
  | .readRaw left before bytes =>
    let bytes := bytes ++ (memory.drop bytes.length).take n
    if bytes.length = telemetrySize then .readAfter left before bytes
    else .readRaw left before bytes
  | .readAfter left before raw =>
    match accept before raw (sequenceWord memory) with
    | .error error => .raised error
    | .ok (some snapshot) => .returned snapshot
    | .ok none => nextAttempt left
  | reader => reader

end TelemetryReader

/-! ### The reader and the workload -/

/-- The workload and one call of `read_stable_telemetry`. -/
structure TelemetrySystem where
  workload : TelemetryWorkload
  reader : TelemetryReader

inductive TelemetryAction where
  /-- The workload is restarted: the startup code clears its data and enters
  `rp86_freertos_system_main`. -/
  | restart
  /-- A task enters the critical section of an update. -/
  | enter (update : TelemetryUpdate)
  | store
  /-- The Host reads; `n` is the number of bytes that a piece of the block's read returns. -/
  | read (n : ℕ)
  deriving DecidableEq, Repr

def telemetryStep (s : TelemetrySystem) : TelemetryAction → TelemetrySystem
  | .restart => { s with workload := {} }
  | .enter update => { s with workload := s.workload.enter update }
  | .store => { s with workload := s.workload.next }
  | .read n => { s with reader := s.reader.read s.workload.telemetry.bytes n }

/-- The workload from its start, and a call of `read_stable_telemetry`, in any interleaving. -/
def telemetryRun (attempts : ℤ) (actions : List TelemetryAction) : TelemetrySystem :=
  run telemetryStep { workload := {}, reader := .start attempts } actions

end Rp86.Host
