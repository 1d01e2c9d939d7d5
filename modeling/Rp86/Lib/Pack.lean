import Mathlib.Algebra.Group.Int.Defs
import Mathlib.Data.Int.Notation
import Mathlib.Tactic.Zify
import Rp86.Lib.LittleEndian

/-!
# Packed integer fields

`packInts` packs unsigned integers one behind the other, each in little endian and in its own number
of bytes.  It fails when a value does not fit its width, and that is the only way to fail
(`packInts_eq_some_iff`).  `unpackInts` reads fields of given widths back from an offset on: packed
fields come back as they were (`unpackInts_flatMap`), and what was read packs to the bytes it was
read from (`flatMap_unpackInts`).
-/

namespace Rp86.Lib

/-- An integer with the number of bytes that it is packed in. -/
abbrev IntField := ℕ × ℤ

def IntField.Fits (field : IntField) : Prop := 0 ≤ field.2 ∧ field.2 < 256 ^ field.1

instance (field : IntField) : Decidable field.Fits :=
  inferInstanceAs (Decidable (0 ≤ field.2 ∧ field.2 < 256 ^ field.1))

def IntField.bytes (field : IntField) : List UInt8 := leBytes field.1 field.2.toNat

/-- The packed bytes of the fields, if all of them fit. -/
def packInts : List IntField → Option (List UInt8)
  | [] => some []
  | field :: fields =>
    if field.Fits then (packInts fields).map fun bytes => field.bytes ++ bytes else none

theorem forall_fits_cons {width : ℕ} {value : ℤ} {fields : List IntField} :
    (∀ field ∈ (width, value) :: fields, IntField.Fits field) ↔
      (0 ≤ value ∧ value < 256 ^ width) ∧ ∀ field ∈ fields, field.Fits :=
  List.forall_mem_cons

theorem forall_fits_nil : (∀ field ∈ ([] : List IntField), field.Fits) ↔ True := by
  simp

theorem packInts_eq_some_iff {fields : List IntField} {bytes : List UInt8} :
    packInts fields = some bytes ↔
      (∀ field ∈ fields, field.Fits) ∧ bytes = fields.flatMap IntField.bytes := by
  induction fields generalizing bytes with
  | nil => simp [packInts, eq_comm]
  | cons field fields ih =>
    rw [packInts, List.forall_mem_cons, List.flatMap_cons]
    split_ifs with hfits
    · rw [Option.map_eq_some_iff]
      constructor
      · rintro ⟨rest, hrest, rfl⟩
        obtain ⟨hfields, rfl⟩ := ih.mp hrest
        exact ⟨⟨hfits, hfields⟩, rfl⟩
      · rintro ⟨⟨-, hfields⟩, rfl⟩
        exact ⟨_, ih.mpr ⟨hfields, rfl⟩, rfl⟩
    · refine ⟨fun h => absurd h (by simp), fun h => absurd h.1.1 hfits⟩

/-! ### Reading fields back -/

/-- The fields of the given widths from byte offset `i` on. -/
def unpackInts : List ℕ → List UInt8 → ℕ → List IntField
  | [], _, _ => []
  | width :: widths, bytes, i =>
    (width, (ofLE ((bytes.drop i).take width) : ℤ)) :: unpackInts widths bytes (i + width)

/-- The number of bytes that fields of the given widths take. -/
def totalWidth : List ℕ → ℕ
  | [] => 0
  | width :: widths => width + totalWidth widths

theorem fits_unpackInts (widths : List ℕ) (bytes : List UInt8) (i : ℕ) :
    ∀ field ∈ unpackInts widths bytes i, field.Fits := by
  induction widths generalizing i with
  | nil => exact fun _ hmem => absurd hmem List.not_mem_nil
  | cons width widths ih =>
    refine List.forall_mem_cons.mpr ⟨⟨Int.natCast_nonneg _, ?_⟩, ih (i + width)⟩
    have hlt := ofLE_lt ((bytes.drop i).take width)
    have hle := Nat.pow_le_pow_right (show 0 < 256 by decide)
      (List.length_take_le width (bytes.drop i))
    show (ofLE ((bytes.drop i).take width) : ℤ) < 256 ^ width
    exact_mod_cast Nat.lt_of_lt_of_le hlt hle

theorem flatMap_unpackInts {widths : List ℕ} {bytes : List UInt8} {i : ℕ}
    (h : i + totalWidth widths ≤ bytes.length) :
    (unpackInts widths bytes i).flatMap IntField.bytes
      = (bytes.drop i).take (totalWidth widths) := by
  induction widths generalizing i with
  | nil => rfl
  | cons width widths ih =>
    rw [totalWidth] at h ⊢
    have hfield : IntField.bytes (width, (ofLE ((bytes.drop i).take width) : ℤ))
        = (bytes.drop i).take width := by
      have hlen : ((bytes.drop i).take width).length = width := by
        rw [List.length_take, List.length_drop]
        omega
      have hbytes := leBytes_ofLE ((bytes.drop i).take width)
      rw [hlen] at hbytes
      exact hbytes
    rw [unpackInts, List.flatMap_cons, hfield, ih (by omega), List.take_add, List.drop_drop]

theorem unpackInts_flatMap {fields : List IntField} (hfits : ∀ field ∈ fields, field.Fits)
    (pre post : List UInt8) :
    unpackInts (fields.map Prod.fst) (pre ++ (fields.flatMap IntField.bytes ++ post)) pre.length
      = fields := by
  induction fields generalizing pre with
  | nil => rfl
  | cons field fields ih =>
    obtain ⟨⟨hnonneg, hlt⟩, hfields⟩ := List.forall_mem_cons.mp hfits
    have hvalue : ofLE field.bytes = field.2.toNat := by
      rw [IntField.bytes, ofLE_leBytes]
      exact Nat.mod_eq_of_lt (by zify; rwa [Int.toNat_of_nonneg hnonneg])
    have hlen : field.bytes.length = field.1 := length_leBytes _ _
    rw [List.map_cons, unpackInts, List.drop_left, List.flatMap_cons, List.append_assoc,
      List.take_left' hlen, hvalue, Int.toNat_of_nonneg hnonneg]
    have hrest := ih hfields (pre ++ field.bytes)
    rw [List.length_append, hlen, List.append_assoc] at hrest
    rw [hrest]

end Rp86.Lib
