import Rp86.Lib.Crc

/-!
# CRC-32

`crc32` is the standard CRC-32: the reflected CRC with polynomial `EDB88320h`, all-ones initial
register and final complement.  `crc32Update` is the incremental routine of
`runtime/workload_manager.c`, which keeps the complemented register between calls.
-/

namespace Rp86

open Lib

/-- The reflected polynomial of CRC-32. -/
def crc32Polynomial : BitVec 32 := 0xEDB88320#32

/-- The standard CRC-32 of a byte string. -/
def crc32 (data : List UInt8) : UInt32 :=
  ⟨crc crc32Polynomial (BitVec.allOnes 32) (BitVec.allOnes 32) (data.map UInt8.toBitVec)⟩

/-- The body of the inner loop of `crc32_update`: one bit. -/
def crc32Bit (crc : UInt32) : UInt32 :=
  (crc >>> 1) ^^^ (0xedb88320 &&& (0 - (crc &&& 1)))

/-- The body of the outer loop of `crc32_update`: one byte. -/
def crc32Byte (crc : UInt32) (byte : UInt8) : UInt32 :=
  crc32Bit^[8] (crc ^^^ byte.toUInt32)

/-- `crc32_update` of the workload manager. -/
def crc32Update (crc : UInt32) (data : List UInt8) : UInt32 :=
  ~~~ (data.foldl crc32Byte (~~~ crc))

end Rp86
