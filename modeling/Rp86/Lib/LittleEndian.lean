import Mathlib.Data.List.Basic
import Rp86.Lib.ByteMap

/-!
# Fixed-width little-endian integers

`leBytes k n` is the `k`-byte little-endian encoding of `n` (reduced modulo `256 ^ k`) and `ofLE`
the value of a byte string.  They are inverse to each other (`ofLE_leBytes`, `leBytes_ofLE`).
`le16` and `le32` read one field of a packed record at a byte offset: the field at the front is read
back (`le32_leBytes`), the fields before it are skipped (`le32_append_of_le`).
-/

namespace Rp86.Lib

/-- The `k`-byte little-endian encoding of `n`. -/
def leBytes : ℕ → ℕ → List UInt8
  | 0, _ => []
  | k + 1, n => UInt8.ofNat (n % 256) :: leBytes k (n / 256)

/-- The value of a little-endian byte string. -/
def ofLE : List UInt8 → ℕ
  | [] => 0
  | b :: l => b.toNat + 256 * ofLE l

@[simp] theorem length_leBytes (k n : ℕ) : (leBytes k n).length = k := by
  induction k generalizing n with
  | zero => rfl
  | succ k ih => simp [leBytes, ih]

theorem ofLE_leBytes (k n : ℕ) : ofLE (leBytes k n) = n % 256 ^ k := by
  induction k generalizing n with
  | zero => simp [leBytes, ofLE, Nat.mod_one]
  | succ k ih =>
    have hb : (UInt8.ofNat (n % 256)).toNat = n % 256 := by simp
    rw [leBytes, ofLE, ih, hb, Nat.pow_succ, Nat.mul_comm (256 ^ k), Nat.mod_mul]

theorem leBytes_ofLE (bytes : List UInt8) : leBytes bytes.length (ofLE bytes) = bytes := by
  induction bytes with
  | nil => rfl
  | cons b l ih =>
    have hb := b.toNat_lt
    have hlow : (b.toNat + 256 * ofLE l) % 256 = b.toNat := by omega
    have hhigh : (b.toNat + 256 * ofLE l) / 256 = ofLE l := by omega
    rw [List.length_cons, ofLE, leBytes, hlow, hhigh, ih, UInt8.ofNat_toNat]

theorem ofLE_lt (bytes : List UInt8) : ofLE bytes < 256 ^ bytes.length := by
  have h := ofLE_leBytes bytes.length (ofLE bytes)
  rw [leBytes_ofLE] at h
  rw [h]
  exact Nat.mod_lt _ (Nat.pow_pos (by decide))

theorem ofLE_replicate_zero (n : ℕ) : ofLE (List.replicate n 0) = 0 := by
  induction n with
  | zero => rfl
  | succ n ih => rw [List.replicate_succ, ofLE, ih]; rfl

/-- The 16-bit little-endian field at byte offset `i` of a packed record. -/
def le16 (l : List UInt8) (i : ℕ) : UInt16 := UInt16.ofNat (ofLE ((l.drop i).take 2))

/-- The 32-bit little-endian field at byte offset `i` of a packed record. -/
def le32 (l : List UInt8) (i : ℕ) : UInt32 := UInt32.ofNat (ofLE ((l.drop i).take 4))

/-! ### Fields of a packed record -/

theorem toNat_le16 (l : List UInt8) (i : ℕ) : (le16 l i).toNat = ofLE ((l.drop i).take 2) := by
  rw [le16, UInt16.toNat_ofNat', Nat.mod_eq_of_lt]
  exact Nat.lt_of_lt_of_le (ofLE_lt _)
    (Nat.pow_le_pow_right (by decide) (List.length_take_le 2 _))

theorem toNat_le32 (l : List UInt8) (i : ℕ) : (le32 l i).toNat = ofLE ((l.drop i).take 4) := by
  rw [le32, UInt32.toNat_ofNat', Nat.mod_eq_of_lt]
  exact Nat.lt_of_lt_of_le (ofLE_lt _)
    (Nat.pow_le_pow_right (by decide) (List.length_take_le 4 _))

theorem toNat_getD (l : List UInt8) (i : ℕ) : (l.getD i 0).toNat = ofLE ((l.drop i).take 1) := by
  rcases Nat.lt_or_ge i l.length with hi | hi
  · rw [List.drop_eq_getElem_cons hi, List.getD_eq_getElem _ _ hi]
    rfl
  · rw [List.drop_of_length_le hi, List.getD_eq_default _ _ hi]
    rfl

theorem le16_leBytes (n : ℕ) (post : List UInt8) :
    le16 (leBytes 2 n ++ post) 0 = UInt16.ofNat n := by
  rw [le16, List.drop_zero, List.take_left' (by simp), ofLE_leBytes]
  exact UInt16.toNat_inj.mp (by simp)

theorem le32_leBytes (n : ℕ) (post : List UInt8) :
    le32 (leBytes 4 n ++ post) 0 = UInt32.ofNat n := by
  rw [le32, List.drop_zero, List.take_left' (by simp), ofLE_leBytes]
  exact UInt32.toNat_inj.mp (by simp)

theorem le32_leBytes_nil (n : ℕ) : le32 (leBytes 4 n) 0 = UInt32.ofNat n := by
  rw [← le32_leBytes n [], List.append_nil]

theorem le32_eq_zero {l : List UInt8} {k n : ℕ} (h : l.drop k = List.replicate n 0) (i : ℕ) :
    le32 l (k + i) = 0 := by
  rw [le32, ← List.drop_drop, h, List.drop_replicate, List.take_replicate, ofLE_replicate_zero]
  rfl

/-- A field of the front part of a record. -/
theorem le16_append_left {pre : List UInt8} {i : ℕ} (h : i + 2 ≤ pre.length) (post : List UInt8) :
    le16 (pre ++ post) i = le16 pre i := by
  rw [le16, List.drop_append_of_le_length (by omega),
    List.take_append_of_le_length (by rw [List.length_drop]; omega), le16]

theorem le32_append_left {pre : List UInt8} {i : ℕ} (h : i + 4 ≤ pre.length) (post : List UInt8) :
    le32 (pre ++ post) i = le32 pre i := by
  rw [le32, List.drop_append_of_le_length (by omega),
    List.take_append_of_le_length (by rw [List.length_drop]; omega), le32]

theorem le16_append_of_le {pre post : List UInt8} {i : ℕ} (h : pre.length ≤ i) :
    le16 (pre ++ post) i = le16 post (i - pre.length) := by
  rw [le16, le16, List.drop_append, List.drop_of_length_le h, List.nil_append]

theorem le32_append_of_le {pre post : List UInt8} {i : ℕ} (h : pre.length ≤ i) :
    le32 (pre ++ post) i = le32 post (i - pre.length) := by
  rw [le32, le32, List.drop_append, List.drop_of_length_le h, List.nil_append]

theorem le16_cons (x : UInt8) (l : List UInt8) (i : ℕ) : le16 (x :: l) (i + 1) = le16 l i := rfl

theorem le32_cons (x : UInt8) (l : List UInt8) (i : ℕ) : le32 (x :: l) (i + 1) = le32 l i := rfl

theorem le16_slice {i n : ℕ} (h : i + 2 ≤ n) (l : List UInt8) (k : ℕ) :
    le16 ((l.drop k).take n) i = le16 l (k + i) := by
  rw [le16, le16, List.drop_take, List.drop_drop, List.take_take, Nat.min_eq_left (by omega)]

/-- The words of a packed array; behind its end a field is zero, as the default is. -/
theorem le16_flatMap (words : List UInt16) (i : ℕ) :
    le16 (words.flatMap fun word => leBytes 2 word.toNat) (2 * i) = words.getD i 0 := by
  induction words generalizing i with
  | nil =>
    rw [List.flatMap_nil, le16, List.drop_nil, List.take_nil]
    rfl
  | cons word words ih =>
    rw [List.flatMap_cons]
    cases i with
    | zero =>
      rw [le16_leBytes, UInt16.ofNat_toNat]
      rfl
    | succ i =>
      rw [le16_append_of_le (by rw [length_leBytes]; omega), length_leBytes, List.getD_cons_succ]
      exact ih i

/-- A 16-bit field in memory, byte by byte. -/
theorem le16_readBytes (m : ByteMap) {a n i : ℕ} (h : i + 2 ≤ n) :
    le16 (readBytes m a n) i
      = (m (a + i)).toUInt16 ||| (m (a + i + 1)).toUInt16 <<< 8 := by
  have hdrop : ((readBytes m a n).drop i).take 2 = [m (a + i), m (a + i + 1)] := by
    obtain ⟨k, rfl⟩ := Nat.exists_eq_add_of_le h
    rw [Nat.add_assoc, readBytes_add, List.drop_left' (length_readBytes ..), readBytes_add,
      List.take_left' (length_readBytes ..)]
    simp [readBytes, List.range_succ, Nat.add_assoc]
  have hlo := (m (a + i)).toNat_lt
  have hhi := (m (a + i + 1)).toNat_lt
  rw [le16, hdrop]
  refine UInt16.toNat_inj.mp ?_
  rw [UInt16.toNat_ofNat', UInt16.toNat_or, UInt16.toNat_shiftLeft]
  simp only [ofLE, UInt8.toNat_toUInt16]
  have h8 : (8 : UInt16).toNat % 16 = 8 := rfl
  rw [h8, Nat.mod_eq_of_lt (by omega), Nat.mod_eq_of_lt (by rw [Nat.shiftLeft_eq]; omega),
    Nat.or_comm, ← Nat.shiftLeft_add_eq_or_of_lt hlo, Nat.shiftLeft_eq]
  omega

end Rp86.Lib
