import Mathlib.Data.Nat.Bitwise
import Mathlib.Data.List.Nodup

/-!
# Words on scattered wires

A parallel bus whose wires are any pins of a port: wire `i` of a list carries bit `i` of a word.
`scatter` is the sample in which the wires carry a word and `gather` reads the word off a sample.
Distinct wires carry a word unchanged (`gather_scatter`), and other pins do not matter
(`gather_congr`).  A loop that moves one bit per wire computes `gather` (`toNat_foldl_gather`) or
`scatter` (`toNat_foldl_scatter`), in whatever type it accumulates.
-/

namespace Rp86.Lib

/-- The word that the wires carry in a sample. -/
def gather : List ℕ → ℕ → ℕ
  | [], _ => 0
  | wire :: wires, sample => Nat.bit (sample.testBit wire) (gather wires sample)

/-- The sample in which the wires carry a word, and every other pin is low. -/
def scatter : List ℕ → ℕ → ℕ
  | [], _ => 0
  | wire :: wires, word => (if word.testBit 0 then 2 ^ wire else 0) ||| scatter wires (word >>> 1)

variable {wires : List ℕ}

theorem gather_congr {sample sample' : ℕ}
    (h : ∀ wire ∈ wires, sample.testBit wire = sample'.testBit wire) :
    gather wires sample = gather wires sample' := by
  induction wires with
  | nil => rfl
  | cons wire wires ih =>
    rw [gather, gather, h wire List.mem_cons_self,
      ih fun wire' hwire' => h wire' (List.mem_cons_of_mem _ hwire')]

theorem gather_lt (wires : List ℕ) (sample : ℕ) : gather wires sample < 2 ^ wires.length := by
  induction wires with
  | nil => exact Nat.one_pos
  | cons wire wires ih =>
    rw [gather, List.length_cons, Nat.pow_succ, Nat.bit_val]
    have := Bool.toNat_lt (sample.testBit wire)
    omega

/-- The bits of the head wire and of the others stand side by side. -/
theorem bit_shiftLeft (b : Bool) (n k : ℕ) :
    Nat.bit b n <<< k = b.toNat <<< k ||| n <<< (k + 1) := by
  have hbit : Nat.bit b n = b.toNat ||| n <<< 1 := by
    rw [Nat.bit_val, Nat.or_comm, ← Nat.shiftLeft_add_eq_or_of_lt (Bool.toNat_lt b),
      Nat.shiftLeft_eq, Nat.mul_comm]
  rw [hbit, Nat.shiftLeft_or_distrib, ← Nat.shiftLeft_add, Nat.add_comm 1 k]

theorem gather_append (wires wires' : List ℕ) (sample : ℕ) :
    gather (wires ++ wires') sample
      = gather wires sample ||| gather wires' sample <<< wires.length := by
  induction wires with
  | nil => rw [List.nil_append, gather, Nat.zero_or, List.length_nil, Nat.shiftLeft_zero]
  | cons wire wires ih =>
    have hbit := fun n => bit_shiftLeft (sample.testBit wire) n 0
    simp only [Nat.shiftLeft_zero] at hbit
    rw [List.cons_append, gather, gather, ih, hbit, hbit, Nat.shiftLeft_or_distrib,
      ← Nat.shiftLeft_add, List.length_cons, Nat.zero_add, Nat.or_assoc]

theorem scatter_append (wires wires' : List ℕ) (word : ℕ) :
    scatter (wires ++ wires') word
      = scatter wires word ||| scatter wires' (word >>> wires.length) := by
  induction wires generalizing word with
  | nil => rw [List.nil_append, scatter, Nat.zero_or, List.length_nil, Nat.shiftRight_zero]
  | cons wire wires ih =>
    rw [List.cons_append, scatter, scatter, ih, Nat.or_assoc, ← Nat.shiftRight_add,
      List.length_cons, Nat.add_comm 1]

theorem scatter_mod (wires : List ℕ) (word : ℕ) :
    scatter wires (word % 2 ^ wires.length) = scatter wires word := by
  induction wires generalizing word with
  | nil => rfl
  | cons wire wires ih =>
    have hbit : (word % 2 ^ (wires.length + 1)).testBit 0 = word.testBit 0 := by
      rw [Nat.testBit_mod_two_pow, decide_eq_true (Nat.succ_pos _), Bool.true_and]
    have hrest : (word % 2 ^ (wires.length + 1)) >>> 1 = (word >>> 1) % 2 ^ wires.length := by
      rw [Nat.shiftRight_eq_div_pow, Nat.shiftRight_eq_div_pow, Nat.pow_one, Nat.pow_succ,
        Nat.mul_comm, Nat.mod_mul_right_div_self]
    rw [List.length_cons, scatter, scatter, hbit, hrest, ih]

theorem testBit_scatter_of_notMem {pin : ℕ} (h : pin ∉ wires) (word : ℕ) :
    (scatter wires word).testBit pin = false := by
  induction wires generalizing word with
  | nil => exact Nat.zero_testBit pin
  | cons wire wires ih =>
    rw [List.mem_cons, not_or] at h
    obtain ⟨hne, hrest⟩ := h
    rw [scatter, Nat.testBit_or, ih hrest, Bool.or_false]
    split_ifs
    · exact Nat.testBit_two_pow_of_ne (Ne.symm hne)
    · exact Nat.zero_testBit pin

/-- A word on the wires meets no mask of other pins. -/
theorem scatter_and_eq_zero {mask : ℕ} (h : ∀ wire ∈ wires, mask.testBit wire = false)
    (word : ℕ) : scatter wires word &&& mask = 0 := by
  apply Nat.eq_of_testBit_eq
  intro pin
  rw [Nat.testBit_and, Nat.zero_testBit]
  by_cases hpin : pin ∈ wires
  · rw [h pin hpin, Bool.and_false]
  · rw [testBit_scatter_of_notMem hpin, Bool.false_and]

theorem scatter_and_eq_self {mask : ℕ} (h : ∀ wire ∈ wires, mask.testBit wire = true)
    (word : ℕ) : scatter wires word &&& mask = scatter wires word := by
  apply Nat.eq_of_testBit_eq
  intro pin
  rw [Nat.testBit_and]
  by_cases hpin : pin ∈ wires
  · rw [h pin hpin, Bool.and_true]
  · rw [testBit_scatter_of_notMem hpin, Bool.false_and]

/-- **Distinct wires carry a word unchanged.** -/
theorem gather_scatter (h : wires.Nodup) (word : ℕ) :
    gather wires (scatter wires word) = word % 2 ^ wires.length := by
  induction wires generalizing word with
  | nil => rw [gather, List.length_nil, Nat.pow_zero, Nat.mod_one]
  | cons wire wires ih =>
    obtain ⟨hwire, hrest⟩ := List.nodup_cons.mp h
    have hhead : (scatter (wire :: wires) word).testBit wire = word.testBit 0 := by
      rw [scatter, Nat.testBit_or, testBit_scatter_of_notMem hwire, Bool.or_false]
      cases word.testBit 0 with
      | false => exact Nat.zero_testBit wire
      | true => exact Nat.testBit_two_pow_self
    -- the head wire is none of the others
    have htail : gather wires (scatter (wire :: wires) word)
        = gather wires (scatter wires (word >>> 1)) := by
      apply gather_congr
      intro other hother
      have hne : wire ≠ other := fun heq => hwire (heq ▸ hother)
      rw [scatter, Nat.testBit_or]
      split_ifs
      · rw [Nat.testBit_two_pow_of_ne hne, Bool.false_or]
      · rw [Nat.zero_testBit, Bool.false_or]
    rw [gather, hhead, htail, ih hrest, List.length_cons, Nat.bit_val, Nat.toNat_testBit,
      Nat.shiftRight_eq_div_pow, Nat.pow_zero, Nat.div_one, Nat.pow_one, Nat.pow_succ,
      Nat.mul_comm (2 ^ wires.length) 2, Nat.mod_mul, Nat.add_comm]

/-! ### Loops over the wires -/

section

variable {β ω : Type*} (toNat : β → ℕ) (wire : ω → ℕ) {step : β → ω × ℕ → β}

/-- A loop that moves the bit of each wire to its place gathers the word. -/
theorem toNat_foldl_gather (sample : ℕ) (gpios : List ω) (first : ℕ) (value : β)
    (hstep : ∀ v, ∀ p ∈ gpios.zipIdx first,
      toNat (step v p) = toNat v ||| (sample.testBit (wire p.1)).toNat <<< p.2) :
    toNat ((gpios.zipIdx first).foldl step value)
      = toNat value ||| gather (gpios.map wire) sample <<< first := by
  induction gpios generalizing first value with
  | nil => simp [gather]
  | cons gpio gpios ih =>
    rw [List.zipIdx_cons] at hstep ⊢
    rw [List.foldl_cons, ih (first + 1) _ fun v p hp => hstep v p (List.mem_cons_of_mem _ hp),
      hstep value _ List.mem_cons_self, List.map_cons, gather, bit_shiftLeft, Nat.or_assoc]

/-- A loop that raises the wire of each bit of a word scatters the word. -/
theorem toNat_foldl_scatter (word : ℕ) (gpios : List ω) (first : ℕ) (value : β)
    (hstep : ∀ v, ∀ p ∈ gpios.zipIdx first,
      toNat (step v p) = toNat v ||| if word.testBit p.2 then 2 ^ wire p.1 else 0) :
    toNat ((gpios.zipIdx first).foldl step value)
      = toNat value ||| scatter (gpios.map wire) (word >>> first) := by
  induction gpios generalizing first value with
  | nil => simp [scatter]
  | cons gpio gpios ih =>
    rw [List.zipIdx_cons] at hstep ⊢
    have hbit : (word >>> first).testBit 0 = word.testBit first := by
      rw [Nat.testBit_shiftRight, Nat.add_zero]
    rw [List.foldl_cons, ih (first + 1) _ fun v p hp => hstep v p (List.mem_cons_of_mem _ hp),
      hstep value _ List.mem_cons_self, List.map_cons, scatter, hbit, ← Nat.shiftRight_add,
      Nat.or_assoc]

end

end Rp86.Lib
