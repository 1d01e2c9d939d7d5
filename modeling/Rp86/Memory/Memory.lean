import Rp86.Lib.ByteMap

/-!
# Processor memory

`memory/memory.c`: the byte-addressed memory that the processor sees during clock-stepped
execution, a RAM region that aliases the backing's storage and a small ROM with the reset code.
The RAM and ROM bytes live elsewhere and are passed in.
-/

namespace Rp86

open Lib

/-- `rp86_memory_t` without its two pointers. -/
structure Memory where
  ramBase : UInt32
  ramSize : UInt32
  romBase : UInt32
  romSize : UInt32
  deriving DecidableEq, Repr

def rangeContains (base size address : UInt32) : Bool :=
  size != 0 && base ≤ address && address - base < size

def memoryRead8 (memory : Memory) (ram : ByteMap) (rom : List UInt8) (address : UInt32) :
    Option UInt8 :=
  if rangeContains memory.ramBase memory.ramSize address then
    some (ram (address - memory.ramBase).toNat)
  else if rangeContains memory.romBase memory.romSize address then
    some (rom.getD (address - memory.romBase).toNat 0)
  else none

def memoryWrite8 (memory : Memory) (ram : ByteMap) (address : UInt32) (value : UInt8) :
    Option ByteMap :=
  if !rangeContains memory.ramBase memory.ramSize address then none
  else some (writeBytes ram (address - memory.ramBase).toNat [value])

def memoryRead16 (memory : Memory) (ram : ByteMap) (rom : List UInt8) (address : UInt32) :
    Option UInt16 := do
  let lo ← memoryRead8 memory ram rom address
  let hi ← memoryRead8 memory ram rom (address + 1)
  return lo.toUInt16 ||| hi.toUInt16 <<< 8

def memoryWrite16 (memory : Memory) (ram : ByteMap) (address : UInt32) (value : UInt16) :
    Option ByteMap :=
  if !rangeContains memory.ramBase memory.ramSize address then none
  else if !rangeContains memory.ramBase memory.ramSize (address + 1) then none
  else
    let offset := address - memory.ramBase
    let ram := writeBytes ram offset.toNat [(value &&& 0xFF).toUInt8]
    some (writeBytes ram (offset + 1).toNat [(value >>> 8).toUInt8])

end Rp86
