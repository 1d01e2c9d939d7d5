import Mathlib.Tactic.Common
import Mathlib.Data.List.Basic
import Mathlib.Logic.Function.Iterate

/-!
# Reflected cyclic redundancy checks

The textbook definition: a `w`-bit shift register is fed the bits of the message, the least
significant bit of each byte first.  One step shifts the register right and, when the bit shifted
out differs from the message bit, adds the generator polynomial (`feedBit`).

Software feeds a whole byte at once: it adds the byte to the register and shifts eight times.
`foldl_feedBit_byteBits` says that this is the same, because a shift is linear (`shiftStep_xor`)
and only moves a register whose low bit is clear (`shiftStep_of_getLsbD_zero`).
-/

namespace Rp86.Lib

variable {w : ℕ} (poly : BitVec w)

/-- One shift of the register, adding the polynomial when the bit shifted out is set. -/
def shiftStep (r : BitVec w) : BitVec w :=
  (r >>> 1) ^^^ (if r.getLsbD 0 then poly else 0#w)

def feedBit (r : BitVec w) (b : Bool) : BitVec w :=
  shiftStep poly (r ^^^ (BitVec.ofBool b).setWidth w)

/-- The bits of a byte, least significant first. -/
def byteBits (x : BitVec 8) : List Bool := (List.range 8).map x.getLsbD

/-- The reflected CRC of a message with the given initial register and final addend. -/
def crc (init xorOut : BitVec w) (msg : List (BitVec 8)) : BitVec w :=
  (msg.flatMap byteBits).foldl (feedBit poly) init ^^^ xorOut

/-! ### A shift is linear -/

theorem shiftStep_xor (a b : BitVec w) :
    shiftStep poly (a ^^^ b) = shiftStep poly a ^^^ shiftStep poly b := by
  unfold shiftStep
  rw [BitVec.getLsbD_xor, BitVec.ushiftRight_xor_distrib]
  cases ha : a.getLsbD 0 <;> cases hb : b.getLsbD 0 <;>
    simp only [Bool.xor_self, Bool.xor_true, Bool.xor_false, Bool.not_false, Bool.false_eq_true,
      ↓reduceIte, BitVec.xor_zero, BitVec.xor_assoc]
  · rw [BitVec.xor_comm (b >>> 1) poly]
  · rw [BitVec.xor_comm poly (b >>> 1 ^^^ poly), BitVec.xor_assoc, BitVec.xor_self,
      BitVec.xor_zero]

def shifts (n : ℕ) (r : BitVec w) : BitVec w := (shiftStep poly)^[n] r

theorem shiftStep_of_getLsbD_zero {r : BitVec w} (h : r.getLsbD 0 = false) :
    shiftStep poly r = r >>> 1 := by
  simp [shiftStep, h]

/-! ### Feeding a byte at a time -/

/-- The bits of `x` from position `k` up, as a list and as a register that holds them in its low
end. -/
theorem foldl_feedBit_drop (hw : 8 ≤ w) (x : BitVec 8) :
    ∀ (n : ℕ) (r : BitVec w), n ≤ 8 →
      (((List.range 8).drop (8 - n)).map x.getLsbD).foldl (feedBit poly) r
        = shifts poly n (r ^^^ (x >>> (8 - n)).setWidth w) := by
  intro n
  induction n with
  | zero =>
    intro r _
    have hx : x >>> 8 = 0#8 := BitVec.ushiftRight_eq_zero (Nat.le_refl 8)
    have hnil : (List.range 8).drop (8 - 0) = [] := List.drop_of_length_le (by simp)
    rw [hnil, List.map_nil, List.foldl_nil, Nat.sub_zero, hx, BitVec.setWidth_zero, BitVec.xor_zero]
    rfl
  | succ n ih =>
    intro r hn
    have hsplit : (List.range 8).drop (8 - (n + 1))
        = (8 - (n + 1)) :: (List.range 8).drop (8 - n) := by
      rw [List.drop_eq_getElem_cons (by simp; omega), List.getElem_range]
      congr 2
      omega
    rw [hsplit, List.map_cons, List.foldl_cons, ih _ (by omega)]
    -- the low bit of what is left goes in first, the others stay one place up
    set y : BitVec 8 := x >>> (8 - (n + 1)) with hy
    have hlow : x.getLsbD (8 - (n + 1)) = y.getLsbD 0 := by
      rw [hy, BitVec.getLsbD_ushiftRight]; rfl
    have hnext : x >>> (8 - n) = y >>> 1 := by
      rw [hy, ← BitVec.shiftRight_add]
      congr 1
      omega
    have hbits : y.setWidth w
        = (BitVec.ofBool (y.getLsbD 0)).setWidth w ^^^ ((y >>> 1).setWidth w <<< 1) := by
      refine BitVec.eq_of_getLsbD_eq fun i hi => ?_
      rcases Nat.eq_zero_or_pos i with rfl | hpos
      · simp [hi]
      · have h1 : ¬ i < 1 := by omega
        have h2 : 1 + (i - 1) = i := by omega
        simp [hi, h1, h2, show i ≠ 0 by omega, BitVec.getLsbD_ofBool]
    have hshift : shiftStep poly ((y >>> 1).setWidth w <<< 1) = (y >>> 1).setWidth w := by
      rw [shiftStep_of_getLsbD_zero poly (by simp)]
      refine BitVec.eq_of_getLsbD_eq fun i hi => ?_
      rw [BitVec.getLsbD_ushiftRight, BitVec.getLsbD_shiftLeft]
      by_cases hi1 : 1 + i < w
      · simp [hi1, hi]
      · have hz : y.getLsbD (1 + i) = false := BitVec.getLsbD_of_ge y _ (by omega)
        simp [hi1, hi, hz]
    rw [hlow, hnext, shifts, shifts, Function.iterate_succ_apply, hbits, ← BitVec.xor_assoc,
      shiftStep_xor, hshift]
    rfl

/-- **Feeding the bits of a byte** is adding the byte to the register and shifting eight times. -/
theorem foldl_feedBit_byteBits (hw : 8 ≤ w) (x : BitVec 8) (r : BitVec w) :
    (byteBits x).foldl (feedBit poly) r = shifts poly 8 (r ^^^ x.setWidth w) := by
  have h := foldl_feedBit_drop poly hw x 8 r (Nat.le_refl 8)
  simpa [byteBits] using h

/-- The register after a message, a byte at a time. -/
theorem foldl_feedBit_flatMap (hw : 8 ≤ w) (msg : List (BitVec 8)) (r : BitVec w) :
    (msg.flatMap byteBits).foldl (feedBit poly) r
      = msg.foldl (fun r x => shifts poly 8 (r ^^^ x.setWidth w)) r := by
  induction msg generalizing r with
  | nil => rfl
  | cons x msg ih =>
    rw [List.flatMap_cons, List.foldl_append, foldl_feedBit_byteBits poly hw, ih, List.foldl_cons]

end Rp86.Lib
