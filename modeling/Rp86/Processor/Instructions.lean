import Rp86.Processor.Cpu

/-!
# Fetch and execution

The 8086 between its reset and a workload's entry point: it fetches an instruction at `CS:IP`,
decodes it and executes it.  Only part of the instruction set is decoded: what the reset code uses,
and the pushes, pops and far calls that would touch a stack.  A step reports the physical addresses
that it fetched the instruction from and those that it accessed through `SS:SP`.
-/

namespace Rp86.Processor

open Lib

/-- The 16-bit registers, in the order of their codes. -/
inductive Reg16 where
  | ax
  | cx
  | dx
  | bx
  | sp
  | bp
  | si
  | di
  deriving DecidableEq, Repr

/-- The segment registers that `MOV` loads. -/
inductive SegReg where
  | es
  | ss
  | ds
  deriving DecidableEq, Repr

inductive Instruction where
  | nop
  | cli
  | sti
  | movImm (register : Reg16) (value : UInt16)
  | movSeg (segment : SegReg) (register : Reg16)
  | jmpFar (offset segment : UInt16)
  | callFar (offset segment : UInt16)
  | push (register : Reg16)
  | pop (register : Reg16)
  deriving DecidableEq, Repr

/-- The register that the three low bits of a byte name. -/
def Reg16.ofCode (byte : UInt8) : Reg16 :=
  match (byte &&& 7).toNat with
  | 0 => .ax
  | 1 => .cx
  | 2 => .dx
  | 3 => .bx
  | 4 => .sp
  | 5 => .bp
  | 6 => .si
  | _ => .di

/-- The segment register that the middle bits of a ModR/M byte name; `CS` cannot be loaded. -/
def SegReg.ofCode (byte : UInt8) : Option SegReg :=
  match (byte >>> 3 &&& 7).toNat with
  | 0 => some .es
  | 2 => some .ss
  | 3 => some .ds
  | _ => none

/-- The instruction whose bytes are `code 0`, `code 1` and so on, and its length. -/
def decode (code : ℕ → UInt8) : Option (Instruction × ℕ) :=
  let word (i : ℕ) : UInt16 := (code i).toUInt16 ||| (code (i + 1)).toUInt16 <<< 8
  let opcode := code 0
  if opcode = 0x90 then some (.nop, 1)
  else if opcode = 0xFA then some (.cli, 1)
  else if opcode = 0xFB then some (.sti, 1)
  else if opcode = 0xEA then some (.jmpFar (word 1) (word 3), 5)
  else if opcode = 0x9A then some (.callFar (word 1) (word 3), 5)
  else if opcode >>> 3 = 0x17 then some (.movImm (.ofCode opcode) (word 1), 3)
  else if opcode >>> 3 = 0x0A then some (.push (.ofCode opcode), 1)
  else if opcode >>> 3 = 0x0B then some (.pop (.ofCode opcode), 1)
  -- a ModR/M byte that names a register as the source
  else if opcode = 0x8E ∧ code 1 >>> 6 = 3 then
    (SegReg.ofCode (code 1)).map fun segment => (.movSeg segment (.ofCode (code 1)), 2)
  else none

namespace Cpu

def reg (c : Cpu) : Reg16 → UInt16
  | .ax => c.ax
  | .cx => c.cx
  | .dx => c.dx
  | .bx => c.bx
  | .sp => c.sp
  | .bp => c.bp
  | .si => c.si
  | .di => c.di

def setReg (c : Cpu) (register : Reg16) (value : UInt16) : Cpu :=
  match register with
  | .ax => { c with ax := value }
  | .cx => { c with cx := value }
  | .dx => { c with dx := value }
  | .bx => { c with bx := value }
  | .sp => { c with sp := value }
  | .bp => { c with bp := value }
  | .si => { c with si := value }
  | .di => { c with di := value }

def setSeg (c : Cpu) (segment : SegReg) (value : UInt16) : Cpu :=
  match segment with
  | .es => { c with es := value }
  | .ss => { c with ss := value }
  | .ds => { c with ds := value }

def sti (c : Cpu) : Cpu := { c with flags := c.flags ||| flagIf }

/-- What an instruction does, with `IP` behind it. -/
def execute (c : Cpu) : Instruction → Cpu
  | .nop => c
  | .cli => c.cli
  | .sti => c.sti
  | .movImm register value => c.setReg register value
  | .movSeg segment register => c.setSeg segment (c.reg register)
  | .jmpFar offset segment => { c with cs := segment, ip := offset }
  | .callFar offset segment =>
    let c := (c.push c.cs).push c.ip
    { c with cs := segment, ip := offset }
  -- the 8086 pushes the `SP` that it has decremented
  | .push register => c.push (if register = .sp then c.sp - 2 else c.reg register)
  | .pop register => { c with sp := c.sp + 2 }.setReg register c.top

/-- The physical addresses of the words that an instruction accesses through `SS:SP`. -/
def stackAccess (c : Cpu) : Instruction → List ℕ
  | .callFar _ _ => [linear c.ss (c.sp - 1), linear c.ss (c.sp - 2), linear c.ss (c.sp - 3),
      linear c.ss (c.sp - 4)]
  | .push _ => [linear c.ss (c.sp - 1), linear c.ss (c.sp - 2)]
  | .pop _ => [linear c.ss c.sp, linear c.ss (c.sp + 1)]
  | _ => []

/-- The bytes at `CS:IP`; `IP` wraps in the segment. -/
def code (c : Cpu) (i : ℕ) : UInt8 := c.memory (linear c.cs (c.ip + UInt16.ofNat i))

end Cpu

/-- A step, with the addresses of the instruction's bytes and of its stack accesses. -/
structure Executed where
  cpu : Cpu
  fetched : List ℕ
  stack : List ℕ

def Cpu.step (c : Cpu) : Option Executed :=
  (decode c.code).map fun (instruction, length) =>
    { cpu := { c with ip := c.ip + UInt16.ofNat length }.execute instruction
      fetched := (List.range length).map fun i => linear c.cs (c.ip + UInt16.ofNat i)
      stack := c.stackAccess instruction }

end Rp86.Processor
