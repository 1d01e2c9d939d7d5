import Mathlib.Algebra.Group.Nat.Defs
import Mathlib.Data.List.GetD
import Mathlib.Tactic.Common

/-!
# Byte-addressed memory

A memory is a total map from addresses to bytes.  The lemmas say what a write does to a later read:
the run itself is read back (`readBytes_writeBytes_self`), anything else is framed
(`writeBytes_of_not_mem`, `readBytes_writeBytes_of_disjoint`), two adjacent writes are one write of
the concatenation (`writeBytes_writeBytes_append`), and a write inside an earlier one replaces those
bytes of it (`writeBytes_writeBytes_inside`).
-/

namespace Rp86.Lib

abbrev ByteMap := ℕ → UInt8

/-- The `n` bytes from address `a` up. -/
def readBytes (m : ByteMap) (a n : ℕ) : List UInt8 :=
  (List.range n).map fun i => m (a + i)

/-- `m` with the bytes of `data` stored from address `a` up. -/
def writeBytes (m : ByteMap) (a : ℕ) (data : List UInt8) : ByteMap :=
  fun i => if a ≤ i ∧ i < a + data.length then data.getD (i - a) 0 else m i

/-- `m` with `n` bytes from address `a` up set to `v`. -/
def fillBytes (m : ByteMap) (a : ℕ) (v : UInt8) (n : ℕ) : ByteMap :=
  fun i => if a ≤ i ∧ i < a + n then v else m i

/-! ### Reads -/

@[simp] theorem length_readBytes (m : ByteMap) (a n : ℕ) : (readBytes m a n).length = n := by
  simp [readBytes]

theorem getD_readBytes (m : ByteMap) (a n i : ℕ) (hi : i < n) :
    (readBytes m a n).getD i 0 = m (a + i) := by
  simp [readBytes, List.getD_eq_getElem?_getD, hi]

theorem readBytes_add (m : ByteMap) (a n k : ℕ) :
    readBytes m a (n + k) = readBytes m a n ++ readBytes m (a + n) k := by
  simp [readBytes, List.range_add, List.map_map, Function.comp_def, Nat.add_assoc]

variable {m : ByteMap} {a n i : ℕ} {data : List UInt8}

theorem readBytes_congr {m' : ByteMap} (h : ∀ i, a ≤ i → i < a + n → m i = m' i) :
    readBytes m a n = readBytes m' a n := by
  unfold readBytes
  refine List.map_congr_left fun i hi => ?_
  exact h (a + i) (by omega) (by have := List.mem_range.mp hi; omega)

theorem readBytes_eq_iff :
    readBytes m a data.length = data ↔ ∀ i, i < data.length → m (a + i) = data.getD i 0 := by
  constructor
  · intro h i hi
    rw [← getD_readBytes m a data.length i hi, h]
  · intro h
    refine List.ext_getElem (by simp) fun i h1 h2 => ?_
    have := h i h2
    rw [List.getD_eq_getElem _ _ h2] at this
    simpa [readBytes] using this

/-! ### Writes -/

theorem writeBytes_of_mem (h1 : a ≤ i) (h2 : i < a + data.length) :
    writeBytes m a data i = data.getD (i - a) 0 := by
  unfold writeBytes
  rw [if_pos ⟨h1, h2⟩]

theorem writeBytes_of_not_mem (h : ¬ (a ≤ i ∧ i < a + data.length)) :
    writeBytes m a data i = m i := by
  unfold writeBytes
  rw [if_neg h]

theorem fillBytes_of_not_mem {v : UInt8} (h : ¬ (a ≤ i ∧ i < a + n)) :
    fillBytes m a v n i = m i := by
  unfold fillBytes
  rw [if_neg h]

theorem readBytes_writeBytes_self (m : ByteMap) (a : ℕ) (data : List UInt8) :
    readBytes (writeBytes m a data) a data.length = data := by
  refine readBytes_eq_iff.mpr fun i hi => ?_
  rw [writeBytes_of_mem (by omega) (by omega), Nat.add_sub_cancel_left]

theorem readBytes_writeBytes_of_disjoint {b : ℕ} (h : b + n ≤ a ∨ a + data.length ≤ b) :
    readBytes (writeBytes m a data) b n = readBytes m b n := by
  refine readBytes_congr fun i hi1 hi2 => ?_
  exact writeBytes_of_not_mem (by omega)

theorem writeBytes_writeBytes_append (m : ByteMap) (a : ℕ) (xs ys : List UInt8) :
    writeBytes (writeBytes m a xs) (a + xs.length) ys = writeBytes m a (xs ++ ys) := by
  funext i
  by_cases h2 : a + xs.length ≤ i ∧ i < a + xs.length + ys.length
  · rw [writeBytes_of_mem h2.1 h2.2, writeBytes_of_mem (by omega) (by simp; omega),
      List.getD_append_right _ _ _ _ (by omega)]
    congr 1
    omega
  · rw [writeBytes_of_not_mem h2]
    by_cases h1 : a ≤ i ∧ i < a + xs.length
    · rw [writeBytes_of_mem h1.1 h1.2, writeBytes_of_mem h1.1 (by simp; omega),
        List.getD_append _ _ _ _ (by omega)]
    · rw [writeBytes_of_not_mem h1, writeBytes_of_not_mem (by simp; omega)]

/-- Of two adjacent writes, the upper one may also come first. -/
theorem writeBytes_writeBytes_below (m : ByteMap) (a : ℕ) (xs ys : List UInt8) :
    writeBytes (writeBytes m (a + xs.length) ys) a xs = writeBytes m a (xs ++ ys) := by
  rw [← writeBytes_writeBytes_append]
  funext i
  by_cases hx : a ≤ i ∧ i < a + xs.length
  · rw [writeBytes_of_mem hx.1 hx.2, writeBytes_of_not_mem (by omega), writeBytes_of_mem hx.1 hx.2]
  · rw [writeBytes_of_not_mem hx]
    unfold writeBytes
    rw [if_neg hx]

theorem writeBytes_nil (m : ByteMap) (a : ℕ) : writeBytes m a [] = m := by
  funext i
  exact writeBytes_of_not_mem (by simp)

theorem writeBytes_readBytes (m : ByteMap) (a n : ℕ) :
    writeBytes m a (readBytes m a n) = m := by
  funext i
  by_cases h : a ≤ i ∧ i < a + n
  · rw [writeBytes_of_mem h.1 (by rw [length_readBytes]; exact h.2),
      getD_readBytes _ _ _ _ (by omega)]
    congr 1
    omega
  · exact writeBytes_of_not_mem (by rw [length_readBytes]; exact h)

theorem writeBytes_writeBytes_of_length {xs ys : List UInt8} (h : xs.length = ys.length) :
    writeBytes (writeBytes m a xs) a ys = writeBytes m a ys := by
  funext i
  by_cases hi : a ≤ i ∧ i < a + ys.length
  · rw [writeBytes_of_mem hi.1 hi.2, writeBytes_of_mem hi.1 hi.2]
  · rw [writeBytes_of_not_mem hi, writeBytes_of_not_mem hi,
      writeBytes_of_not_mem (by rw [h]; exact hi)]

/-- A read inside a block that was copied from another memory reads that memory. -/
theorem readBytes_writeBytes_readBytes (m c : ByteMap) {b w k : ℕ} (h : w + k ≤ n) :
    readBytes (writeBytes m a (readBytes c b n)) (a + w) k = readBytes c (b + w) k := by
  refine List.map_congr_left fun i hi => ?_
  have hi := List.mem_range.mp hi
  rw [writeBytes_of_mem (by omega) (by rw [length_readBytes]; omega),
    getD_readBytes _ _ _ _ (by omega)]
  congr 1
  omega

/-- A write inside a block that was copied from another memory is a write to that memory. -/
theorem writeBytes_writeBytes_readBytes (m c : ByteMap) {w : ℕ} (h : w + data.length ≤ n) :
    writeBytes (writeBytes m a (readBytes c 0 n)) (a + w) data
      = writeBytes m a (readBytes (writeBytes c w data) 0 n) := by
  funext i
  by_cases hn : a ≤ i ∧ i < a + n
  · rw [writeBytes_of_mem hn.1 (by rw [length_readBytes]; exact hn.2),
      getD_readBytes _ _ _ _ (by omega)]
    by_cases hd : a + w ≤ i ∧ i < a + w + data.length
    · rw [writeBytes_of_mem hd.1 hd.2, writeBytes_of_mem (by omega) (by omega)]
      congr 1
      omega
    · rw [writeBytes_of_not_mem hd, writeBytes_of_mem hn.1 (by rw [length_readBytes]; exact hn.2),
        getD_readBytes _ _ _ _ (by omega), writeBytes_of_not_mem (by omega)]
  · rw [writeBytes_of_not_mem (by omega),
      writeBytes_of_not_mem (by rw [length_readBytes]; exact hn),
      writeBytes_of_not_mem (by rw [length_readBytes]; exact hn)]

/-- A write inside an earlier one replaces those bytes of it. -/
theorem writeBytes_writeBytes_inside (m : ByteMap) (a : ℕ) (xs zs : List UInt8)
    {ys ys' : List UInt8} (hlen : ys'.length = ys.length) :
    writeBytes (writeBytes m a (xs ++ (ys ++ zs))) (a + xs.length) ys'
      = writeBytes m a (xs ++ (ys' ++ zs)) := by
  rw [← writeBytes_writeBytes_append m a xs, ← writeBytes_writeBytes_append m a xs,
    ← writeBytes_writeBytes_append _ _ ys, ← writeBytes_writeBytes_append _ _ ys', hlen]
  funext i
  by_cases hys : a + xs.length ≤ i ∧ i < a + xs.length + ys'.length
  · rw [writeBytes_of_mem hys.1 hys.2, writeBytes_of_not_mem (by omega),
      writeBytes_of_mem hys.1 hys.2]
  · rw [writeBytes_of_not_mem hys]
    by_cases hzs : a + xs.length + ys.length ≤ i ∧ i < a + xs.length + ys.length + zs.length
    · rw [writeBytes_of_mem hzs.1 hzs.2, writeBytes_of_mem hzs.1 hzs.2]
    · rw [writeBytes_of_not_mem hzs, writeBytes_of_not_mem hzs, writeBytes_of_not_mem (by omega),
        writeBytes_of_not_mem hys]

end Rp86.Lib
