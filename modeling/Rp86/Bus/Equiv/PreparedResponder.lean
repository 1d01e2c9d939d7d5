import Rp86.Bus.PreparedResponder
import Rp86.Lib.Wires

/-!
# The responder's words on the wires

The keys and responses of the prepared responder put a word on the scattered address and data pins,
and the decoders read it off them: both are the loops of `Lib.Wires` over the same wires.  A key
decodes to its address (`preparedDecodeAddress_memoryReadKey`) and a response to its word
(`preparedDecodeAd_encodeDrive`), for the control bits share no pin with the bus.
-/

namespace Rp86

open Lib

def adWires : List ℕ := adGpio.map UInt32.toNat
def addressWires : List ℕ := adWires ++ highAddressGpio.map UInt32.toNat

/-! ### One bit -/

theorem toNat_sampleBit {gpio : UInt32} (h : gpio.toNat < 32) (sample : UInt32) :
    (sampleBit sample gpio).toNat = (sample.toNat.testBit gpio.toNat).toNat := by
  have h1 : (1 : UInt32).toNat = 2 ^ 1 - 1 := rfl
  unfold sampleBit
  rw [UInt32.toNat_and, UInt32.toNat_shiftRight, Nat.mod_eq_of_lt h, h1,
    Nat.and_two_pow_sub_one_eq_mod, Nat.toNat_testBit, Nat.shiftRight_eq_div_pow, Nat.pow_one]

/-- A sampled bit, moved to its place. -/
theorem toNat_sampleBit_shiftLeft {gpio : UInt32} {i : ℕ} (h : gpio.toNat < 32) (hi : i < 32)
    (sample : UInt32) :
    (sampleBit sample gpio <<< UInt32.ofNat i).toNat
      = (sample.toNat.testBit gpio.toNat).toNat <<< i := by
  have hbit := Bool.toNat_lt (sample.toNat.testBit gpio.toNat)
  have hpow : 2 ^ i * 2 ≤ 2 ^ 32 := by
    rw [← Nat.pow_succ]
    exact Nat.pow_le_pow_right (by decide) hi
  rw [UInt32.toNat_shiftLeft, toNat_sampleBit h, UInt32.toNat_ofNat',
    Nat.mod_eq_of_lt (show i < 2 ^ 32 by omega), Nat.mod_eq_of_lt hi, Nat.mod_eq_of_lt]
  rw [Nat.shiftLeft_eq]
  have := Nat.mul_le_mul_right (2 ^ i) (Nat.le_of_lt_succ hbit)
  have := Nat.two_pow_pos i
  omega

theorem toNat_one_shiftLeft {gpio : UInt32} (h : gpio.toNat < 32) :
    ((1 : UInt32) <<< gpio).toNat = 2 ^ gpio.toNat := by
  have h1 : (1 : UInt32).toNat = 1 := rfl
  rw [UInt32.toNat_shiftLeft, h1, Nat.mod_eq_of_lt h, Nat.shiftLeft_eq, Nat.one_mul,
    Nat.mod_eq_of_lt (Nat.pow_lt_pow_right (by decide) h)]

theorem toNat_ofNat_place {i : ℕ} (hi : i < 32) : (UInt32.ofNat i).toNat = i := by
  rw [UInt32.toNat_ofNat', Nat.mod_eq_of_lt (show i < 2 ^ 32 by omega)]

theorem and_one_shiftLeft_ne_zero {i : ℕ} (hi : i < 32) (value : UInt32) :
    value &&& (1 : UInt32) <<< UInt32.ofNat i ≠ 0 ↔ value.toNat.testBit i = true := by
  have hplace := toNat_ofNat_place hi
  rw [ne_eq, ← UInt32.toNat_inj, UInt32.toNat_and,
    toNat_one_shiftLeft (by rw [hplace]; exact hi), hplace, Nat.and_two_pow]
  cases value.toNat.testBit i with
  | false => exact iff_of_false (not_not.mpr (Nat.zero_mul _)) Bool.false_ne_true
  | true => exact iff_of_true (by rw [Bool.toNat_true, Nat.one_mul]
                                  exact (Nat.two_pow_pos i).ne') rfl

theorem shiftRight_and_one_ne_zero {i : ℕ} (hi : i < 32) (value : UInt32) :
    (value >>> UInt32.ofNat i) &&& 1 ≠ 0 ↔ value.toNat.testBit i = true := by
  have hplace := toNat_ofNat_place hi
  have hbit := toNat_sampleBit (by rw [hplace]; exact hi) value
  rw [hplace] at hbit
  rw [ne_eq, ← UInt32.toNat_inj]
  show ¬ (sampleBit value (UInt32.ofNat i)).toNat = 0 ↔ _
  rw [hbit]
  cases value.toNat.testBit i with
  | false => exact iff_of_false (not_not.mpr rfl) Bool.false_ne_true
  | true => exact iff_of_true Nat.one_ne_zero rfl

/-- A pin raised for a bit. -/
theorem toNat_raise {gpio : UInt32} (h : gpio.toNat < 32) {test : Prop} [Decidable test]
    {bit : Bool} (hbit : test ↔ bit = true) (encoded : UInt32) :
    (if test then encoded ||| (1 : UInt32) <<< gpio else encoded).toNat
      = encoded.toNat ||| if bit then 2 ^ gpio.toNat else 0 := by
  by_cases htest : test
  · rw [if_pos htest, if_pos (hbit.mp htest), UInt32.toNat_or, toNat_one_shiftLeft h]
  · rw [if_neg htest, if_neg (mt hbit.mpr htest), Nat.or_zero]

/-! ### The loops -/

theorem adGpio_place : ∀ p ∈ adGpio.zipIdx, p.1.toNat < 32 ∧ p.2 < 16 := by decide

theorem highAddressGpio_place : ∀ p ∈ highAddressGpio.zipIdx 16, p.1.toNat < 32 ∧ p.2 < 32 := by
  decide

theorem toNat_preparedDecodeAd (sample : UInt32) :
    (preparedDecodeAd sample).toNat = gather adWires sample.toNat := by
  unfold preparedDecodeAd
  rw [toNat_foldl_gather UInt16.toNat UInt32.toNat sample.toNat]
  · exact Nat.zero_or _
  · rintro value ⟨gpio, i⟩ hp
    obtain ⟨hgpio, hi⟩ := adGpio_place _ hp
    have hbit := Bool.toNat_lt (sample.toNat.testBit gpio.toNat)
    have hfits : (sample.toNat.testBit gpio.toNat).toNat <<< i < 2 ^ 16 := by
      have hpow : 2 ^ i ≤ 2 ^ 15 := Nat.pow_le_pow_right (by decide) (Nat.le_of_lt_succ hi)
      rw [Nat.shiftLeft_eq]
      have := Nat.mul_le_mul_right (2 ^ i) (Nat.le_of_lt_succ hbit)
      omega
    show (value ||| (sampleBit sample gpio <<< UInt32.ofNat i).toUInt16).toNat = _
    rw [UInt16.toNat_or, UInt32.toNat_toUInt16,
      toNat_sampleBit_shiftLeft hgpio (Nat.lt_trans hi (by decide)), Nat.mod_eq_of_lt hfits]

theorem toNat_preparedDecodeAddress (sample : UInt32) :
    (preparedDecodeAddress sample).toNat = gather addressWires sample.toNat := by
  have hmask : (0xFFFFF : UInt32).toNat = 2 ^ addressWires.length - 1 := rfl
  have hlength : adWires.length = 16 := rfl
  unfold preparedDecodeAddress
  rw [UInt32.toNat_and, hmask, Nat.and_two_pow_sub_one_eq_mod,
    toNat_foldl_gather UInt32.toNat UInt32.toNat sample.toNat]
  · rw [UInt16.toNat_toUInt32, toNat_preparedDecodeAd, ← hlength, ← gather_append]
    exact Nat.mod_eq_of_lt (gather_lt _ _)
  · rintro value ⟨gpio, i⟩ hp
    obtain ⟨hgpio, hi⟩ := highAddressGpio_place _ hp
    rw [UInt32.toNat_or, toNat_sampleBit_shiftLeft hgpio hi]

theorem toNat_encodePins {gpios : List UInt32} {first : ℕ}
    (hplace : ∀ p ∈ gpios.zipIdx first, p.1.toNat < 32 ∧ p.2 < 32) (value encoded : UInt32) :
    (encodePins gpios first value encoded).toNat
      = encoded.toNat ||| scatter (gpios.map UInt32.toNat) (value.toNat >>> first) := by
  unfold encodePins
  rw [toNat_foldl_scatter UInt32.toNat UInt32.toNat value.toNat]
  rintro encoded ⟨gpio, i⟩ hp
  obtain ⟨hgpio, hi⟩ := hplace _ hp
  exact toNat_raise hgpio (and_one_shiftLeft_ne_zero hi value) encoded

theorem toNat_preparedEncodeWord (value : UInt16) :
    (preparedEncodeWord value).toNat = scatter adWires value.toNat := by
  have hplace : ∀ p ∈ adGpio.zipIdx, p.1.toNat < 32 ∧ p.2 < 32 := fun p hp =>
    ⟨(adGpio_place p hp).1, Nat.lt_trans (adGpio_place p hp).2 (by decide)⟩
  unfold preparedEncodeWord
  rw [toNat_encodePins hplace, UInt16.toNat_toUInt32, Nat.shiftRight_zero]
  exact Nat.zero_or _

theorem toNat_preparedEncodeAddress (address : UInt32) :
    (preparedEncodeAddress address).toNat = scatter addressWires address.toNat := by
  have hlength : adWires.length = 16 := rfl
  unfold preparedEncodeAddress
  rw [toNat_encodePins highAddressGpio_place, toNat_preparedEncodeWord, UInt32.toNat_toUInt16,
    ← hlength, scatter_mod, ← scatter_append]
  rfl

/-! ### Keys and responses -/

theorem nodup_addressWires : addressWires.Nodup := by decide

/-- The control bits of a key are on no address wire. -/
theorem controlBits_testBit :
    ∀ wire ∈ addressWires, preparedQualifiedT1ControlBits.toNat.testBit wire = false := by decide

/-- **A key decodes to its address.** -/
theorem preparedDecodeAddress_memoryReadKey (address : UInt32) :
    (preparedDecodeAddress (preparedMemoryReadKey address)).toNat = address.toNat % 2 ^ 20 := by
  have hlength : addressWires.length = 20 := rfl
  unfold preparedMemoryReadKey
  rw [toNat_preparedDecodeAddress, UInt32.toNat_or, toNat_preparedEncodeAddress, ← hlength,
    ← gather_scatter nodup_addressWires]
  apply gather_congr
  intro wire hwire
  rw [Nat.testBit_or, controlBits_testBit wire hwire, Bool.false_or]

/-- **A response decodes to its word.** -/
theorem preparedDecodeAd_encodeDrive (value : UInt16) :
    preparedDecodeAd (preparedEncodeDrive value) = value := by
  have hnodup : adWires.Nodup := by decide
  have hvalid : ∀ wire ∈ adWires,
      ((1 : UInt32) <<< preparedResponseValidBit).toNat.testBit wire = false := by decide
  have hsample : gather adWires (preparedEncodeDrive value).toNat
      = gather adWires (scatter adWires value.toNat) := by
    unfold preparedEncodeDrive
    rw [UInt32.toNat_or, toNat_preparedEncodeWord]
    apply gather_congr
    intro wire hwire
    rw [Nat.testBit_or, hvalid wire hwire, Bool.or_false]
  apply UInt16.toNat_inj.mp
  rw [toNat_preparedDecodeAd, hsample, gather_scatter hnodup]
  exact Nat.mod_eq_of_lt value.toNat_lt

end Rp86
