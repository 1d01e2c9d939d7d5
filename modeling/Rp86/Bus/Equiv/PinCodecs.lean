import Rp86.Bus.Equiv.PreparedResponder
import Rp86.Runtime.PreparedStream

/-!
# The two pin codecs

The clock-stepped bus and the prepared responder translate between words and pins with tables and
loops of their own.  Both decoders gather the same wires and both encoders scatter over them
(`Lib.Wires`), so they agree on every sample and invert each other (`pin_codecs_agree`).
-/

namespace Rp86

open Lib

/-! ### The clock-stepped decoder -/

theorem toNat_packSample {gpios : List UInt32}
    (hplace : ∀ p ∈ gpios.zipIdx, p.1.toNat < 32 ∧ p.2 < 32) (sample : UInt32) :
    (packSample sample gpios).toNat = gather (gpios.map UInt32.toNat) sample.toNat := by
  unfold packSample
  rw [toNat_foldl_gather UInt32.toNat UInt32.toNat sample.toNat]
  · rw [Nat.shiftLeft_zero]
    exact Nat.zero_or _
  · rintro value ⟨gpio, i⟩ hp
    obtain ⟨hgpio, hi⟩ := hplace _ hp
    rw [UInt32.toNat_or, toNat_sampleBit_shiftLeft hgpio hi]

variable (sample : UInt32) (value : UInt8)

theorem toNat_decodeAd : (decodeAd sample).toNat = gather adWires sample.toNat := by
  have hlt : gather adWires sample.toNat < 2 ^ 16 := gather_lt adWires sample.toNat
  unfold decodeAd
  rw [UInt32.toNat_toUInt16, toNat_packSample (by decide)]
  exact Nat.mod_eq_of_lt hlt

theorem toNat_decodeAddress : (decodeAddress sample).toNat = gather addressWires sample.toNat := by
  have hmask : (0xFFFFF : UInt32).toNat = 2 ^ addressWires.length - 1 := rfl
  have hlength : adWires.length = 16 := rfl
  have h16 : (16 : UInt32).toNat % 32 = adWires.length := rfl
  have hhigh := gather_lt (highAddressGpio.map UInt32.toNat) sample.toNat
  have hfits : gather (highAddressGpio.map UInt32.toNat) sample.toNat <<< adWires.length
      < 2 ^ 32 := by
    rw [Nat.shiftLeft_eq, hlength]
    have hfour : (highAddressGpio.map UInt32.toNat).length = 4 := rfl
    rw [hfour] at hhigh
    omega
  unfold decodeAddress
  rw [UInt32.toNat_and, hmask, Nat.and_two_pow_sub_one_eq_mod, UInt32.toNat_or,
    UInt16.toNat_toUInt32, toNat_decodeAd, UInt32.toNat_shiftLeft, h16,
    toNat_packSample (by decide), Nat.mod_eq_of_lt hfits, ← gather_append]
  exact Nat.mod_eq_of_lt (gather_lt _ _)

theorem decodeAd_eq_prepared : decodeAd sample = preparedDecodeAd sample := by
  apply UInt16.toNat_inj.mp
  rw [toNat_decodeAd, toNat_preparedDecodeAd]

theorem decodeAddress_eq_prepared : decodeAddress sample = preparedDecodeAddress sample := by
  apply UInt32.toNat_inj.mp
  rw [toNat_decodeAddress, toNat_preparedDecodeAddress]

/-! ### The lookup tables -/

/-- A pin of a lane raised for a bit of a byte. -/
theorem toNat_dataLut {gpios : List UInt32}
    (hplace : ∀ p ∈ gpios.zipIdx, p.1.toNat < 32 ∧ p.2 < 32) (value : UInt8) :
    (dataLut gpios value).toNat = scatter (gpios.map UInt32.toNat) value.toNat := by
  unfold dataLut
  rw [toNat_foldl_scatter UInt32.toNat UInt32.toNat value.toNat]
  · rw [Nat.shiftRight_zero]
    exact Nat.zero_or _
  · rintro mask ⟨gpio, i⟩ hp
    obtain ⟨hgpio, hi⟩ := hplace _ hp
    have htest := shiftRight_and_one_ne_zero hi value.toUInt32
    rw [UInt8.toNat_toUInt32] at htest
    exact toNat_raise hgpio htest mask

theorem toNat_dataLoLut : (dataLoLut value).toNat = scatter (adWires.take 8) value.toNat :=
  toNat_dataLut (by decide) value

theorem toNat_dataHiLut : (dataHiLut value).toNat = scatter (adWires.drop 8) value.toNat :=
  toNat_dataLut (by decide) value

/-- The two tables put a word on the wires of the encoder. -/
theorem dataLut_word (value : UInt16) :
    dataLoLut value.toUInt8 ||| dataHiLut (value >>> 8).toUInt8 = preparedEncodeWord value := by
  have hlength : (adWires.take 8).length = 8 := rfl
  have h8 : (8 : UInt16).toNat % 16 = 8 := rfl
  have hvalue := value.toNat_lt
  have hhigh : value.toNat >>> 8 % 2 ^ 8 = value.toNat >>> 8 := by
    rw [Nat.shiftRight_eq_div_pow]
    omega
  have hlow := scatter_mod (adWires.take 8) value.toNat
  have hsplit := scatter_append (adWires.take 8) (adWires.drop 8) value.toNat
  rw [hlength] at hlow
  rw [List.take_append_drop, hlength] at hsplit
  apply UInt32.toNat_inj.mp
  rw [UInt32.toNat_or, toNat_dataLoLut, toNat_dataHiLut, toNat_preparedEncodeWord,
    UInt16.toNat_toUInt8, UInt16.toNat_toUInt8, UInt16.toNat_shiftRight, h8, hhigh, hlow, hsplit]

theorem initDataLuts_getD :
    (initDataLuts .zeroed).lo.getD value.toNat 0 = dataLoLut value ∧
      (initDataLuts .zeroed).hi.getD value.toNat 0 = dataHiLut value := by
  have hentry : ∀ mask : UInt8 → UInt32,
      ((List.range 256).map fun value => mask (UInt8.ofNat value)).getD value.toNat 0
        = mask value := by
    intro mask
    rw [List.getD_eq_getElem?_getD, List.getElem?_map, List.getElem?_range value.toNat_lt,
      Option.map_some, Option.getD_some, UInt8.ofNat_toNat]
  exact ⟨hentry dataLoLut, hentry dataHiLut⟩

/-! ### Driving -/

theorem and_or_and (a b mask : UInt32) : (a ||| b) &&& mask = a &&& mask ||| b &&& mask :=
  UInt32.toBitVec_inj.mp BitVec.and_or_distrib_right

/-- The pins that a drive clears first are clear under any mask of AD pins. -/
theorem clear_and_eq_zero {mask : UInt32} (h : ~~~ adBusMask &&& mask = 0) (out : UInt32) :
    out &&& ~~~ adBusMask &&& mask = 0 := by
  rw [UInt32.and_assoc, h, UInt32.and_zero]

theorem dataLoLut_and_highLaneMask : dataLoLut value &&& highLaneMask = 0 := by
  apply UInt32.toNat_inj.mp
  rw [UInt32.toNat_and, toNat_dataLoLut]
  exact scatter_and_eq_zero (by decide) _

theorem dataHiLut_and_lowLaneMask : dataHiLut value &&& lowLaneMask = 0 := by
  apply UInt32.toNat_inj.mp
  rw [UInt32.toNat_and, toNat_dataHiLut]
  exact scatter_and_eq_zero (by decide) _

theorem preparedEncodeWord_and_adBusMask (value : UInt16) :
    preparedEncodeWord value &&& adBusMask = preparedEncodeWord value := by
  apply UInt32.toNat_inj.mp
  rw [UInt32.toNat_and, toNat_preparedEncodeWord]
  exact scatter_and_eq_self (by decide) _

/-- A drive of both lanes puts exactly the encoder's word on the AD pins, and nothing on others. -/
theorem processorBusDriveData_word (value : UInt16) (b : Board) :
    (processorBusDriveData value .word b).adOut &&& adBusMask = preparedEncodeWord value ∧
      (processorBusDriveData value .word b).adOut &&& ~~~ adBusMask
        = b.adOut &&& ~~~ adBusMask := by
  have hout : (processorBusDriveData value .word b).adOut
      = (b.adOut &&& ~~~ adBusMask) ||| preparedEncodeWord value := by
    rw [← dataLut_word]
    rfl
  constructor
  · rw [hout, and_or_and, clear_and_eq_zero (by decide), UInt32.zero_or,
      preparedEncodeWord_and_adBusMask]
  · have houtside : preparedEncodeWord value &&& ~~~ adBusMask = 0 := by
      apply UInt32.toNat_inj.mp
      rw [UInt32.toNat_and, toNat_preparedEncodeWord]
      exact scatter_and_eq_zero (by decide) _
    rw [hout, and_or_and, houtside, UInt32.or_zero, UInt32.and_assoc, UInt32.and_self]

/-- A drive of one lane leaves every pin of the other lane low, and does not begin to drive it. -/
theorem processorBusDriveData_low (value : UInt16) (b : Board) :
    (processorBusDriveData value .low b).adOut &&& highLaneMask = 0 ∧
      (processorBusDriveData value .low b).adOe &&& highLaneMask = b.adOe &&& highLaneMask := by
  constructor
  · show ((b.adOut &&& ~~~ adBusMask) ||| (dataLoLut value.toUInt8 ||| 0)) &&& highLaneMask = 0
    rw [UInt32.or_zero, and_or_and, clear_and_eq_zero (by decide), dataLoLut_and_highLaneMask,
      UInt32.zero_or]
  · show (b.adOe ||| (lowLaneMask ||| 0)) &&& highLaneMask = _
    rw [and_or_and, show (lowLaneMask ||| 0) &&& highLaneMask = 0 by decide, UInt32.or_zero]

theorem processorBusDriveData_high (value : UInt16) (b : Board) :
    (processorBusDriveData value .high b).adOut &&& lowLaneMask = 0 ∧
      (processorBusDriveData value .high b).adOe &&& lowLaneMask = b.adOe &&& lowLaneMask := by
  constructor
  · show ((b.adOut &&& ~~~ adBusMask) ||| ((0 : UInt32) ||| dataHiLut (value >>> 8).toUInt8)) &&&
      lowLaneMask = 0
    rw [UInt32.zero_or, and_or_and, clear_and_eq_zero (by decide), dataHiLut_and_lowLaneMask,
      UInt32.zero_or]
  · show (b.adOe ||| ((0 : UInt32) ||| highLaneMask)) &&& lowLaneMask = _
    rw [and_or_and, show ((0 : UInt32) ||| highLaneMask) &&& lowLaneMask = 0 by decide,
      UInt32.or_zero]

/-! ### Keys -/

/-- Two keys are equal only for the same 20-bit address. -/
theorem preparedMemoryReadKey_inj_iff (address address' : UInt32) :
    preparedMemoryReadKey address = preparedMemoryReadKey address' ↔
      address.toNat % 2 ^ 20 = address'.toNat % 2 ^ 20 := by
  have hlength : addressWires.length = 20 := rfl
  constructor
  · intro h
    rw [← preparedDecodeAddress_memoryReadKey, ← preparedDecodeAddress_memoryReadKey, h]
  · intro h
    unfold preparedMemoryReadKey
    congr 1
    apply UInt32.toNat_inj.mp
    rw [toNat_preparedEncodeAddress, toNat_preparedEncodeAddress, ← scatter_mod, hlength, h,
      ← hlength, scatter_mod]

/-- A memory-read key has `IOM` set, and an I/O-read key has it clear. -/
theorem preparedMemoryReadKey_ne_ioReadKey (address : UInt32) (port : UInt16) :
    preparedMemoryReadKey address ≠ ioReadKey port := by
  have hpin : pinIom.toNat ∉ addressWires := by decide
  intro h
  have hbit := congrArg (fun key : UInt32 => key.toNat.testBit pinIom.toNat) h
  unfold preparedMemoryReadKey ioReadKey at hbit
  simp only [UInt32.toNat_or _ (preparedEncodeAddress _), Nat.testBit_or,
    toNat_preparedEncodeAddress, testBit_scatter_of_notMem hpin, Bool.or_false] at hbit
  exact absurd hbit (by decide)

/-! ### Encoding and decoding -/

theorem preparedDecodeAddress_encodeAddress {address : UInt32} (h : address < 0x100000) :
    preparedDecodeAddress (preparedEncodeAddress address) = address := by
  have hlength : addressWires.length = 20 := rfl
  have hlt : address.toNat < 2 ^ 20 := UInt32.lt_iff_toNat_lt.mp h
  apply UInt32.toNat_inj.mp
  rw [toNat_preparedDecodeAddress, toNat_preparedEncodeAddress, gather_scatter nodup_addressWires,
    hlength, Nat.mod_eq_of_lt hlt]

theorem preparedDecodeAd_encodeWord (word : UInt16) :
    preparedDecodeAd (preparedEncodeWord word) = word := by
  have hnodup : adWires.Nodup := by decide
  apply UInt16.toNat_inj.mp
  rw [toNat_preparedDecodeAd, toNat_preparedEncodeWord, gather_scatter hnodup]
  exact Nat.mod_eq_of_lt word.toNat_lt

/-- No address or data pin is the valid bit of a response or a control bit of T1. -/
theorem addressPins_free : ∀ pin ∈ adGpio ++ highAddressGpio, pin ≠ preparedResponseValidBit ∧
    preparedQualifiedT1ControlBits &&& (1 : UInt32) <<< pin = 0 := by
  have h : (adGpio ++ highAddressGpio).all (fun pin => pin != preparedResponseValidBit &&
      preparedQualifiedT1ControlBits &&& (1 : UInt32) <<< pin == 0) = true := by decide
  intro pin hpin
  simpa using List.all_eq_true.mp h pin hpin

/-- **The two pin codecs agree and invert.**  The decoders agree on every sample; both give back an
encoded 20-bit address and an encoded word; the tables that the initialisation builds drive the
encoder's word on both lanes and no pin of the lane that is not driven; a memory-read key belongs to
one 20-bit address and is no I/O-read key; and neither the response-valid bit nor a control bit of a
key is an AD or address pin. -/
theorem pin_codecs_agree :
    (∀ sample, decodeAd sample = preparedDecodeAd sample ∧
      decodeAddress sample = preparedDecodeAddress sample) ∧
    (∀ address < 0x100000, preparedDecodeAddress (preparedEncodeAddress address) = address ∧
      decodeAddress (preparedEncodeAddress address) = address) ∧
    (∀ word, preparedDecodeAd (preparedEncodeWord word) = word ∧
      decodeAd (preparedEncodeWord word) = word) ∧
    (∀ value, (initDataLuts .zeroed).lo.getD value.toNat 0 = dataLoLut value ∧
      (initDataLuts .zeroed).hi.getD value.toNat 0 = dataHiLut value) ∧
    (∀ value b, (processorBusDriveData value .word b).adOut &&& adBusMask
        = preparedEncodeWord value ∧
      (processorBusDriveData value .word b).adOut &&& ~~~ adBusMask
        = b.adOut &&& ~~~ adBusMask) ∧
    (∀ value b, (processorBusDriveData value .low b).adOut &&& highLaneMask = 0 ∧
      (processorBusDriveData value .low b).adOe &&& highLaneMask = b.adOe &&& highLaneMask) ∧
    (∀ value b, (processorBusDriveData value .high b).adOut &&& lowLaneMask = 0 ∧
      (processorBusDriveData value .high b).adOe &&& lowLaneMask = b.adOe &&& lowLaneMask) ∧
    (∀ address address', preparedMemoryReadKey address = preparedMemoryReadKey address' ↔
      address.toNat % 2 ^ 20 = address'.toNat % 2 ^ 20) ∧
    (∀ address port, preparedMemoryReadKey address ≠ ioReadKey port) ∧
    (∀ pin ∈ adGpio ++ highAddressGpio, pin ≠ preparedResponseValidBit ∧
      preparedQualifiedT1ControlBits &&& (1 : UInt32) <<< pin = 0) := by
  refine ⟨?_, ?_, ?_, initDataLuts_getD, processorBusDriveData_word, processorBusDriveData_low,
    processorBusDriveData_high, preparedMemoryReadKey_inj_iff, preparedMemoryReadKey_ne_ioReadKey,
    addressPins_free⟩
  · intro sample
    exact ⟨decodeAd_eq_prepared sample, decodeAddress_eq_prepared sample⟩
  · intro address haddress
    rw [decodeAddress_eq_prepared]
    exact ⟨preparedDecodeAddress_encodeAddress haddress,
      preparedDecodeAddress_encodeAddress haddress⟩
  · intro word
    rw [decodeAd_eq_prepared]
    exact ⟨preparedDecodeAd_encodeWord word, preparedDecodeAd_encodeWord word⟩

end Rp86
