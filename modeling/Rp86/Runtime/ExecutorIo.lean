import Rp86.Bus.ClockStepped
import Rp86.Runtime.Tick
import Rp86.Workload.Protocol

/-!
# The executor's I/O handlers

`io_read`, `io_write` and `interrupt_ack` of `runtime/workload_executor.c` with the state they
change: the tick, the armed-idle flag and the native output.
-/

namespace Rp86

def workloadResultTextBytes : ℕ := 16
def diagnosticLineSize : ℕ := 96

/-! The result flags, `RP86_WORKLOAD_RESULT_*`. -/

def resultPass : UInt32 := (1 : UInt32) <<< 0
def resultNativeOutput : UInt32 := (1 : UInt32) <<< 1
def resultNativeOutputTruncated : UInt32 := (1 : UInt32) <<< 2
def resultProcessorIdentified : UInt32 := (1 : UInt32) <<< 3

/-- The bytes of `"RESULT: PASS"`. -/
def passText : List UInt8 :=
  [0x52, 0x45, 0x53, 0x55, 0x4C, 0x54, 0x3A, 0x20, 0x50, 0x41, 0x53, 0x53]

/-- The diagnostic line being collected and the result published from the last one. -/
structure NativeOutput where
  /-- The first `diagnostic_length` bytes of `diagnostic_line`. -/
  diagnosticLine : List UInt8
  /-- The first `native_output_length` bytes of `native_output`. -/
  nativeOutput : List UInt8
  resultFlags : UInt32
  deriving DecidableEq, Repr

/-- The executor state that its I/O handlers change. -/
structure IoState where
  tick : TickState
  idleArmed : Bool
  output : NativeOutput
  deriving DecidableEq, Repr

/-- `flush_diagnostic_line`.  `strcmp` compares up to the first zero byte of the line. -/
def flushDiagnosticLine (o : NativeOutput) : NativeOutput :=
  if o.diagnosticLine.length = 0 then o
  else
    let retained := o.diagnosticLine.take workloadResultTextBytes
    let flags := o.resultFlags &&&
      ~~~ (resultPass ||| resultNativeOutput ||| resultNativeOutputTruncated)
    let flags := flags ||| resultNativeOutput
    let flags := if o.diagnosticLine.length > retained.length then
      flags ||| resultNativeOutputTruncated else flags
    let flags := if o.diagnosticLine.takeWhile (· ≠ 0) = passText then flags ||| resultPass
      else flags
    { diagnosticLine := [], nativeOutput := retained, resultFlags := flags }

def writeDiagnostic (character : UInt8) (o : NativeOutput) : NativeOutput :=
  if character = 0x0D ∨ character = 0x0A then flushDiagnosticLine o
  else if o.diagnosticLine.length + 1 < diagnosticLineSize then
    { o with diagnosticLine := o.diagnosticLine ++ [character] }
  else o

def ioRead (port : UInt16) (_lanes : BusLanes) : Option UInt16 :=
  if port = ioPortStatus then some 1 else none

/-- The value on the active lane of a write. -/
def laneValue (lanes : BusLanes) (value : UInt16) : UInt16 :=
  if lanes = .high then value >>> 8 else value

def ioWrite (clockMode : WorkloadClockMode) (env : Env) (stats : ClockSteppedStats)
    (port : UInt16) (lanes : BusLanes) (value : UInt16) (s : IoState) (b : Board) :
    Bool × IoState × Board :=
  let laneValue := laneValue lanes value
  if port = ioPortDiagnostic then
    (true, { s with output := writeDiagnostic laneValue.toUInt8 s.output }, b)
  else if port = ioPortResult then (true, s, b)
  else if port = ioPortExecutionClock ∧ laneValue = executionClockRequestFreeRunning then
    (false, s, b)
  else if port = ioPortExecutionClock ∧ laneValue = executionClockRequestClockStepped then
    (clockMode = .stepped, s, b)
  else if port = ioPortPicCommand ∧ laneValue &&& 0xFF = picCommandEoi then
    let (tick, b) := tickEoi env stats.cycles s.tick b
    (true, { s with tick := tick }, b)
  else if port = ioPortControl ∧ laneValue = controlIdlePrepare then
    let (tick, b) := tickIdlePrepare s.tick b
    (true, { s with tick := tick, idleArmed := true }, b)
  else
    (port = ioPortStatus ∨ port = ioPortTx ∨ port = ioPortControl ∨ port = ioPortResult ∨
      port = ioPortPicCommand, s, b)

def interruptAck (s : IoState) (b : Board) : Option (Bool × UInt8) × IoState × Board :=
  let (answer, tick, b) := tickInterruptAck s.tick b
  (answer, { s with tick := tick }, b)

/-- The handlers that `rp86_workload_executor_service` passes to the bus controller. -/
def executorIo (clockMode : WorkloadClockMode) : ClockSteppedIo IoState where
  read := ioRead
  write := ioWrite clockMode
  interruptAck := interruptAck

end Rp86
