import Rp86.Lib.SegmentedMemory

/-!
# The 8086 under the FreeRTOS port

The registers, the memory and the instructions that `processor/ports/freertos/8086/portasm.asm`
uses.  A straight-line stretch of the assembly is a function on `Cpu`; a conditional jump over a
stretch is a condition of it.  `CS:IP` and the arithmetic flags are not followed inside such a
stretch: nothing there reads them but the jumps, and `IRET` loads them from the stack.
-/

namespace Rp86.Processor

open Lib

@[ext]
structure Registers where
  ax : UInt16
  bx : UInt16
  cx : UInt16
  dx : UInt16
  si : UInt16
  di : UInt16
  bp : UInt16
  sp : UInt16
  ip : UInt16
  cs : UInt16
  ds : UInt16
  es : UInt16
  ss : UInt16
  flags : UInt16
  deriving DecidableEq, Repr

/-- The interrupt-enable bit of `FLAGS`. -/
def flagIf : UInt16 := 0x0200
/-- The trap bit of `FLAGS`. -/
def flagTf : UInt16 := 0x0100
/-- The direction bit of `FLAGS`. -/
def flagDf : UInt16 := 0x0400

/-- The registers, the memory and what was written to the I/O ports, oldest first. -/
structure Cpu extends Registers where
  memory : ByteMap
  out : List (UInt16 × UInt16)

namespace Cpu

variable (c : Cpu)

def word (segment offset : UInt16) : UInt16 := readWord c.memory segment offset

def setWord (segment offset value : UInt16) : Cpu :=
  { c with memory := writeWord c.memory segment offset value }

def push (value : UInt16) : Cpu :=
  { c with sp := c.sp - 2, memory := writeWord c.memory c.ss (c.sp - 2) value }

/-- The word on top of the stack, which the next `pop` loads. -/
def top : UInt16 := c.word c.ss c.sp

def outPort (port value : UInt16) : Cpu := { c with out := c.out ++ [(port, value)] }

/-- The entry to an interrupt handler, by `INTR` or `INT n`: the flags and the return address are
pushed, and `IF` and `TF` are cleared. -/
def interrupt : Cpu :=
  let c := c.push c.flags
  let c := { c with flags := c.flags &&& ~~~(flagIf ||| flagTf) }
  let c := c.push c.cs
  c.push c.ip

/-- The whole entry for an interrupt type: after the pushes `CS:IP` is loaded from the type's entry
of the vector table, its offset first. -/
def interruptEntry (vector : ℕ) : Cpu :=
  let c := c.interrupt
  { c with ip := c.word 0 (.ofNat (vector * 4)), cs := c.word 0 (.ofNat (vector * 4 + 2)) }

def iret : Cpu :=
  let c := { c with ip := c.top, sp := c.sp + 2 }
  let c := { c with cs := c.top, sp := c.sp + 2 }
  { c with flags := c.top, sp := c.sp + 2 }

def cld : Cpu := { c with flags := c.flags &&& ~~~flagDf }
def cli : Cpu := { c with flags := c.flags &&& ~~~flagIf }

end Cpu

end Rp86.Processor
