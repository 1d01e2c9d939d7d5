import Rp86.Workload.Crc32

/-!
# The incremental CRC is CRC-32

`crc32Update_crc32`: updating the CRC of `xs` with `ys` gives the CRC of `xs ++ ys`.  The C loop
works on the complemented register; one bit of it is one shift of the textbook register
(`toBitVec_crc32Bit`) and one byte of it is the bytewise form of the bit-serial definition
(`foldl_feedBit_flatMap`).
-/

namespace Rp86

open Lib

/-- `0 - (crc & 1)` is the mask that selects the polynomial. -/
theorem toBitVec_zero_sub_and_one (crc : UInt32) :
    ((0 : UInt32) - (crc &&& 1)).toBitVec
      = if crc.toBitVec.getLsbD 0 then BitVec.allOnes 32 else 0#32 := by
  have h : (crc &&& 1).toBitVec = (BitVec.ofBool (crc.toBitVec.getLsbD 0)).setWidth 32 := by
    rw [UInt32.toBitVec_and]
    exact BitVec.and_one_eq_setWidth_ofBool_getLsbD
  rw [UInt32.toBitVec_sub, h]
  cases crc.toBitVec.getLsbD 0 <;> decide

theorem toBitVec_crc32Bit (crc : UInt32) :
    (crc32Bit crc).toBitVec = shiftStep crc32Polynomial crc.toBitVec := by
  unfold crc32Bit shiftStep
  rw [UInt32.toBitVec_xor, UInt32.toBitVec_and, toBitVec_zero_sub_and_one]
  congr 1
  split
  · rw [BitVec.and_allOnes]; rfl
  · rw [BitVec.and_zero]

theorem toBitVec_crc32Byte (crc : UInt32) (byte : UInt8) :
    (crc32Byte crc byte).toBitVec
      = shifts crc32Polynomial 8 (crc.toBitVec ^^^ byte.toBitVec.setWidth 32) := by
  have h : ∀ (n : ℕ) (c : UInt32),
      (crc32Bit^[n] c).toBitVec = shifts crc32Polynomial n c.toBitVec := by
    intro n
    induction n with
    | zero => intro c; rfl
    | succ n ih =>
      intro c
      rw [Function.iterate_succ_apply, ih, toBitVec_crc32Bit]
      rfl
  rw [crc32Byte, h, UInt32.toBitVec_xor]
  rfl

/-- The C loop feeds the message to the textbook register. -/
theorem toBitVec_foldl_crc32Byte (data : List UInt8) (crc : UInt32) :
    (data.foldl crc32Byte crc).toBitVec
      = ((data.map UInt8.toBitVec).flatMap byteBits).foldl (feedBit crc32Polynomial)
          crc.toBitVec := by
  rw [foldl_feedBit_flatMap _ (by decide)]
  induction data generalizing crc with
  | nil => rfl
  | cons byte data ih =>
    rw [List.foldl_cons, List.map_cons, List.foldl_cons, ih, toBitVec_crc32Byte]

theorem crc32_eq (data : List UInt8) : crc32 data = ~~~ (data.foldl crc32Byte 0xFFFFFFFF) := by
  refine UInt32.toBitVec_inj.mp ?_
  rw [UInt32.toBitVec_not, toBitVec_foldl_crc32Byte, crc32, crc, BitVec.xor_allOnes]
  rfl

example : crc32 [0x31, 0x32, 0x33, 0x34, 0x35, 0x36, 0x37, 0x38, 0x39] = 0xCBF43926 := by
  decide +kernel

/-- **Updating the CRC of a prefix** gives the CRC of the whole. -/
theorem crc32Update_crc32 (xs ys : List UInt8) :
    crc32Update (crc32 xs) ys = crc32 (xs ++ ys) := by
  rw [crc32_eq, crc32_eq, crc32Update, List.foldl_append, UInt32.not_not]

@[simp] theorem crc32_nil : crc32 [] = 0 := by
  rw [crc32_eq]
  rfl

/-- Updating with one chunk behind the other is updating with all of them. -/
theorem foldl_crc32Update (data : List UInt8) (chunks : List (List UInt8)) :
    chunks.foldl crc32Update (crc32 data) = crc32 (data ++ chunks.flatten) := by
  induction chunks generalizing data with
  | nil => rw [List.foldl_nil, List.flatten_nil, List.append_nil]
  | cons chunk chunks ih =>
    rw [List.foldl_cons, crc32Update_crc32, ih, List.flatten_cons, List.append_assoc]

end Rp86
