import Mathlib.Tactic.Common

/-!
# Processor-visible I/O

The ports and values of `runtime/processor_abi.h` that the executor serves.
-/

namespace Rp86

def interruptVectorTick : UInt8 := 0x21
def ioPortPicCommand : UInt16 := 0x20
def picCommandEoi : UInt16 := 0x20
def ioPortStatus : UInt16 := 0xE0
def ioPortTx : UInt16 := 0xE2
def ioPortControl : UInt16 := 0xE6
def ioPortResult : UInt16 := 0xE8
def ioPortDiagnostic : UInt16 := 0xE9
def ioPortExecutionClock : UInt16 := 0xEA
def controlIdlePrepare : UInt16 := 1
def executionClockRequestFreeRunning : UInt16 := 1
def executionClockRequestClockStepped : UInt16 := 2

end Rp86
