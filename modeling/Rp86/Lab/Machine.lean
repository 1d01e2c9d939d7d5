import Rp86.Lab.Loader
import Rp86.Lib.LittleEndian

/-!
# The IA16 lab machine

`IA16Machine` of `tools/ia16_lab/machine.py`: a register file and a byte memory mapped from address
0, which Unicorn holds, and the injection of a real-mode interrupt into them.
-/

namespace Rp86.Lab

open Lib

/-- `RegisterState`; `flags` is `EFLAGS`. -/
structure RegisterState where
  ax : UInt16
  bx : UInt16
  cx : UInt16
  dx : UInt16
  si : UInt16
  di : UInt16
  bp : UInt16
  sp : UInt16
  cs : UInt16
  ds : UInt16
  es : UInt16
  ss : UInt16
  ip : UInt16
  flags : UInt32
  deriving DecidableEq, Repr

def pageSize : ℕ := 0x1000

/-- `IA16Machine`: the registers, the memory, of which the first `memorySize` bytes are mapped, and
whether a workload is loaded.  Its constructor takes only a whole, positive number of pages. -/
structure Ia16Machine where
  registers : RegisterState
  memory : ByteMap
  memorySize : ℕ
  workload : Bool
  memorySize_pos : 0 < memorySize
  memorySize_pages : memorySize % pageSize = 0

namespace Ia16Machine

variable (m : Ia16Machine)

def memWrite (address : ℕ) (data : List UInt8) : Ia16Machine :=
  { m with memory := writeBytes m.memory address data }

/-- `_write_reg`, of the registers that `f` changes. -/
def writeReg (f : RegisterState → RegisterState) : Ia16Machine :=
  { m with registers := f m.registers }

def injectRealModeInterrupt (vector : ℤ) : Except LabError Ia16Machine := do
  if m.workload = false then
    throw (.runtimeError "no workload is loaded")
  if vector < 0 ∨ vector > 0xFF then
    throw (.valueError "interrupt vector must fit in 8 bits")
  let state := m.registers
  -- `& 0xFFFF` is the wrap of the 16-bit difference
  let newSp := state.sp - 6
  let stack ← linearAddress state.ss.toNat newSp.toNat
  if stack + 6 > m.memorySize then
    throw (.valueError "interrupt frame lies outside modeled memory")
  let frame := leBytes 2 state.ip.toNat ++ leBytes 2 state.cs.toNat
    ++ leBytes 2 (state.flags &&& 0xFFFF).toNat
  let m := m.memWrite stack frame
  let m := m.writeReg fun r => { r with sp := newSp }
  let m := m.writeReg fun r => { r with flags := state.flags &&& ~~~(0x0200 ||| 0x0100) }
  let ivt := vector.toNat * 4
  let raw := readBytes m.memory ivt 4
  let offset := le16 raw 0
  let segment := le16 raw 2
  let m := m.writeReg fun r => { r with cs := segment }
  return m.writeReg fun r => { r with ip := offset }

end Ia16Machine

end Rp86.Lab
