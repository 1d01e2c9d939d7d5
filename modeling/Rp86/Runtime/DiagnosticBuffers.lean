import Rp86.Lib.Lines
import Rp86.Runtime.ExecutorIo

/-!
# The diagnostic buffers

`flush_diagnostic_line` and the diagnostic port of `io_write` in `runtime/workload_executor.c`, on
the two character arrays that `NativeOutput` abstracts to lists.  A write outside of an array has no
result.
-/

namespace Rp86

open Lib

/-- The arrays of `rp86_workload_executor_t` with their counts and the result flags. -/
structure DiagnosticBuffers where
  diagnosticLine : List UInt8
  diagnosticLength : UInt32
  nativeOutput : List UInt8
  nativeOutputLength : UInt16
  resultFlags : UInt32
  deriving DecidableEq, Repr

def storeByte (buffer : List UInt8) (index : ℕ) (value : UInt8) : Option (List UInt8) :=
  if index < buffer.length then some (buffer.set index value) else none

def copyBytes (target source : List UInt8) (length : ℕ) : Option (List UInt8) :=
  if length ≤ target.length ∧ length ≤ source.length then
    some (source.take length ++ target.drop length)
  else none

/-- `flush_diagnostic_line` on the arrays. -/
def flushDiagnosticBuffers (d : DiagnosticBuffers) : Option DiagnosticBuffers :=
  if d.diagnosticLength = 0 then some d
  else do
    let line ← storeByte d.diagnosticLine d.diagnosticLength.toNat 0
    let retained : UInt16 := if d.diagnosticLength < 16 then d.diagnosticLength.toUInt16 else 16
    let flags := d.resultFlags &&&
      ~~~ (resultPass ||| resultNativeOutput ||| resultNativeOutputTruncated)
    let output ← copyBytes d.nativeOutput line retained.toNat
    let flags := flags ||| resultNativeOutput
    let flags := if d.diagnosticLength > retained.toUInt32 then
      flags ||| resultNativeOutputTruncated else flags
    let flags := if cString line = passText then flags ||| resultPass else flags
    return { diagnosticLine := line
             diagnosticLength := 0
             nativeOutput := output
             nativeOutputLength := retained
             resultFlags := flags }

/-- A byte written to the diagnostic port, on the arrays. -/
def writeDiagnosticBuffers (d : DiagnosticBuffers) (character : UInt8) :
    Option DiagnosticBuffers :=
  if character = 0x0D ∨ character = 0x0A then flushDiagnosticBuffers d
  else if d.diagnosticLength + 1 < UInt32.ofNat diagnosticLineSize then do
    let line ← storeByte d.diagnosticLine d.diagnosticLength.toNat character
    return { d with diagnosticLine := line, diagnosticLength := d.diagnosticLength + 1 }
  else some d

end Rp86
