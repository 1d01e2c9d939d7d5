import Rp86.Lib.ByteMap

/-!
# Ring buffers

A ring of `size` bytes holds a byte string that starts at any offset and goes on at 0 behind the
last byte (`ringBytes`).  A string is stored in two pieces, up to the end and from 0 on
(`ringWrite`).  Stored behind the bytes that a ring holds, it is appended to them
(`ringBytes_ringWrite`), as long as all of it fits.
-/

namespace Rp86.Lib

/-- The `n` bytes of a ring from offset `r` on. -/
def ringBytes (m : ByteMap) (size r n : ℕ) : List UInt8 :=
  (List.range n).map fun i => m ((r + i) % size)

/-- The ring with `data` stored from offset `w` on. -/
def ringWrite (m : ByteMap) (size w : ℕ) (data : List UInt8) : ByteMap :=
  writeBytes (writeBytes m w (data.take (min data.length (size - w)))) 0
    (data.drop (min data.length (size - w)))

variable {m : ByteMap} {size r w n : ℕ} {data : List UInt8}

@[simp] theorem length_ringBytes (m : ByteMap) (size r n : ℕ) :
    (ringBytes m size r n).length = n := by
  simp [ringBytes]

theorem ringBytes_add (m : ByteMap) (size r n k : ℕ) :
    ringBytes m size r (n + k) = ringBytes m size r n ++ ringBytes m size ((r + n) % size) k := by
  simp [ringBytes, List.range_add, Function.comp_def, Nat.add_assoc]

/-- The first bytes of a ring are taken away by moving its start. -/
theorem drop_ringBytes (m : ByteMap) (size r : ℕ) {n k : ℕ} (h : k ≤ n) :
    (ringBytes m size r n).drop k = ringBytes m size ((r + k) % size) (n - k) := by
  obtain ⟨rest, rfl⟩ := Nat.exists_eq_add_of_le h
  rw [ringBytes_add, List.drop_left' (length_ringBytes ..), Nat.add_sub_cancel_left]

theorem readBytes_eq_ringBytes (h : r + n ≤ size) : readBytes m r n = ringBytes m size r n := by
  apply List.map_congr_left
  intro i hi
  have hi := List.mem_range.mp hi
  rw [Nat.mod_eq_of_lt (by omega)]

/-- What is stored `i` bytes behind the start of a write. -/
theorem ringWrite_apply (hw : w < size) (hdata : data.length ≤ size) {i : ℕ} (hi : i < size) :
    ringWrite m size w data ((w + i) % size)
      = if i < data.length then data.getD i 0 else m ((w + i) % size) := by
  have hfront : (data.take (min data.length (size - w))).length
      = min data.length (size - w) := by
    rw [List.length_take]
    omega
  have hback : (data.drop (min data.length (size - w))).length
      = data.length - min data.length (size - w) := List.length_drop
  unfold ringWrite
  rcases Nat.lt_or_ge (w + i) size with hend | hend
  · -- before the end only the first piece is met
    rw [Nat.mod_eq_of_lt hend, writeBytes_of_not_mem (by omega)]
    split_ifs with hlt
    · rw [writeBytes_of_mem (by omega) (by omega), Nat.add_sub_cancel_left,
        List.getD_eq_getElem?_getD, List.getElem?_take_of_lt (by omega),
        ← List.getD_eq_getElem?_getD]
    · rw [writeBytes_of_not_mem (by omega)]
  · -- behind the end only the second
    have hmod : (w + i) % size = w + i - size := by
      rw [Nat.mod_eq_sub_mod hend, Nat.mod_eq_of_lt (by omega)]
    rw [hmod]
    split_ifs with hlt
    · rw [writeBytes_of_mem (by omega) (by omega), List.getD_eq_getElem?_getD, List.getElem?_drop,
        ← List.getD_eq_getElem?_getD]
      congr 1
      omega
    · rw [writeBytes_of_not_mem (by omega), writeBytes_of_not_mem (by omega)]

theorem ringBytes_ringWrite_self (hw : w < size) (hdata : data.length ≤ size) :
    ringBytes (ringWrite m size w data) size w data.length = data := by
  apply List.ext_getElem
  · exact length_ringBytes ..
  · intro i _ hi
    simp only [ringBytes, List.getElem_map, List.getElem_range]
    rw [ringWrite_apply hw hdata (by omega), if_pos hi, List.getD_eq_getElem _ _ hi]

/-- A write behind the bytes of a ring leaves them, as long as it fits. -/
theorem ringBytes_ringWrite_of_le (hfits : n + data.length ≤ size) (hdata : 0 < data.length) :
    ringBytes (ringWrite m size ((r + n) % size) data) size r n = ringBytes m size r n := by
  apply List.map_congr_left
  intro i hi
  have hi := List.mem_range.mp hi
  -- the byte stands `size - n + i` places behind the start of the write
  have hplace : (r + i) % size = ((r + n) % size + (size - n + i)) % size := by
    rw [Nat.mod_add_mod, show r + n + (size - n + i) = r + i + size by omega, Nat.add_mod_right]
  rw [hplace, ringWrite_apply (Nat.mod_lt _ (by omega)) (by omega) (by omega), if_neg (by omega)]

/-- **A write behind the bytes of a ring appends to them.** -/
theorem ringBytes_ringWrite (hfits : n + data.length ≤ size) (hdata : 0 < data.length) :
    ringBytes (ringWrite m size ((r + n) % size) data) size r (n + data.length)
      = ringBytes m size r n ++ data := by
  rw [ringBytes_add, ringBytes_ringWrite_of_le hfits hdata,
    ringBytes_ringWrite_self (Nat.mod_lt _ (by omega)) (by omega)]

end Rp86.Lib
