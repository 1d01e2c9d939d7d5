import Rp86.Lib.ByteMap

/-!
# Memory backing

The processor-addressed storage behind the Host services and the workload: `memory/backing.c` for
the directly addressable backing, which is the one the runtime creates
(`memory/internal_sram_backing.c`).  A processor address is translated to an offset into the
storage after a range check in unsigned 32-bit arithmetic.  Lengths are natural numbers: `size_t`
values are never truncated on the way.
-/

namespace Rp86

open Lib

/-- `rp86_memory_backing_t` of a directly addressable region; `storage` is its byte array, by
offset. -/
structure Backing where
  processorBase : UInt32
  size : UInt32
  available : Bool
  storage : ByteMap

def internalSramProcessorBase : UInt32 := 0x00000
def internalSramProcessorSize : UInt32 := 256 * 1024

/-- `rp86_memory_backing_init_direct` on a non-null storage. -/
def memoryBackingInitDirect (processorBase : UInt32) (storage : ByteMap) (size : UInt32) :
    Backing where
  processorBase := processorBase
  size := size
  available := size != 0
  storage := storage

/-- `rp86_internal_sram_backing_init`: the pool starts as zero-initialised data. -/
def internalSramBackingInit : Backing :=
  memoryBackingInitDirect internalSramProcessorBase (fun _ => 0) internalSramProcessorSize

/-- The offset of a processor address in the storage. -/
def Backing.offset (backing : Backing) (processorAddress : UInt32) : ℕ :=
  (processorAddress - backing.processorBase).toNat

def memoryBackingRangeValid (backing : Backing) (processorAddress : UInt32) (length : ℕ) : Bool :=
  if !backing.available || processorAddress < backing.processorBase then false
  else
    let offset := processorAddress - backing.processorBase
    offset ≤ backing.size && length ≤ (backing.size - offset).toNat

def memoryBackingRead (backing : Backing) (processorAddress : UInt32) (length : ℕ) :
    Option (List UInt8) :=
  if !memoryBackingRangeValid backing processorAddress length then none
  else some (readBytes backing.storage (backing.offset processorAddress) length)

def memoryBackingWrite (backing : Backing) (processorAddress : UInt32) (source : List UInt8) :
    Option Backing :=
  if !memoryBackingRangeValid backing processorAddress source.length then none
  else some { backing with
    storage := writeBytes backing.storage (backing.offset processorAddress) source }

def memoryBackingFill (backing : Backing) (processorAddress : UInt32) (value : UInt8)
    (length : ℕ) : Option Backing :=
  if !memoryBackingRangeValid backing processorAddress length then none
  else some { backing with
    storage := fillBytes backing.storage (backing.offset processorAddress) value length }

/-- `rp86_memory_backing_publish`: a direct backing has no publish hook. -/
def memoryBackingPublish (backing : Backing) : Backing := backing

end Rp86
