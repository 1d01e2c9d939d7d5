import Rp86.Lib.LittleEndian

/-!
# Words in a segmented memory

A real-mode memory is a byte map of 20-bit linear addresses; an access names a segment and a 16-bit
offset.  Offsets of one segment name distinct bytes (`linear_inj`), so a word store is framed by
offsets (`writeWord_of_ne`), is read back (`readWord_writeWord_self`), and a store just below a run
of words extends the run by one (`readWords_writeWord_below`), which is what a downward stack does.
A word that wraps neither in its segment nor at 1 MiB is the two bytes of one linear access
(`readWord_eq_le16`, `writeWord_eq_writeBytes`).
-/

namespace Rp86.Lib

/-- The linear address of `segment:offset`; it wraps at 1 MiB. -/
def linear (segment offset : UInt16) : ℕ := (segment.toNat * 16 + offset.toNat) % 2 ^ 20

/-- The little-endian word at `segment:offset`; the offset of its high byte wraps in the segment. -/
def readWord (m : ByteMap) (segment offset : UInt16) : UInt16 :=
  (m (linear segment offset)).toUInt16 ||| (m (linear segment (offset + 1))).toUInt16 <<< 8

/-- `m` with a little-endian word stored at `segment:offset`. -/
def writeWord (m : ByteMap) (segment offset value : UInt16) : ByteMap := fun a =>
  if a = linear segment (offset + 1) then (value >>> 8).toUInt8
  else if a = linear segment offset then value.toUInt8
  else m a

/-- The `n` words from `segment:offset` up. -/
def readWords (m : ByteMap) (segment : UInt16) : UInt16 → ℕ → List UInt16
  | _, 0 => []
  | offset, n + 1 => readWord m segment offset :: readWords m segment (offset + 2) n

variable {m m' : ByteMap} {segment a b : UInt16}

theorem linear_inj : linear segment a = linear segment b ↔ a = b := by
  constructor
  · intro h
    have ha := a.toNat_lt
    have hb := b.toNat_lt
    unfold linear at h
    exact UInt16.toNat_inj.mp (by omega)
  · intro h
    rw [h]

/-- A word store keeps every other byte of the segment. -/
theorem writeWord_of_ne {value : UInt16} (hlo : b ≠ a) (hhi : b ≠ a + 1) :
    writeWord m segment a value (linear segment b) = m (linear segment b) := by
  unfold writeWord
  rw [if_neg (fun h => hhi (linear_inj.mp h)), if_neg (fun h => hlo (linear_inj.mp h))]

theorem readWord_congr (hlo : m' (linear segment a) = m (linear segment a))
    (hhi : m' (linear segment (a + 1)) = m (linear segment (a + 1))) :
    readWord m' segment a = readWord m segment a := by
  unfold readWord
  rw [hlo, hhi]

theorem toUInt8_or_shiftLeft (w : UInt16) :
    w.toUInt8.toUInt16 ||| (w >>> 8).toUInt8.toUInt16 <<< 8 = w := by
  have hw := w.toNat_lt
  have h8 : (8 : UInt16).toNat = 8 := rfl
  apply UInt16.toNat_inj.mp
  rw [UInt16.toNat_or, UInt16.toNat_shiftLeft, UInt8.toNat_toUInt16, UInt8.toNat_toUInt16,
    UInt16.toNat_toUInt8, UInt16.toNat_toUInt8, UInt16.toNat_shiftRight, h8,
    Nat.shiftLeft_eq, Nat.shiftRight_eq_div_pow]
  have hhi : w.toNat / 2 ^ (8 % 16) % 2 ^ 8 * 2 ^ (8 % 16) % 2 ^ 16 = (w.toNat / 2 ^ 8) <<< 8 := by
    have hmod : 8 % 16 = 8 := rfl
    rw [Nat.shiftLeft_eq, hmod]
    omega
  have hlo : w.toNat % 2 ^ 8 < 2 ^ 8 := Nat.mod_lt _ (by decide)
  rw [hhi, Nat.or_comm, ← Nat.shiftLeft_add_eq_or_of_lt hlo, Nat.shiftLeft_eq]
  omega

theorem readWord_writeWord_self (m : ByteMap) (segment a value : UInt16) :
    readWord (writeWord m segment a value) segment a = value := by
  have hne : a ≠ a + 1 := by
    intro h
    have := congrArg UInt16.toNat h
    rw [UInt16.toNat_add] at this
    have h1 : (1 : UInt16).toNat = 1 := rfl
    have := a.toNat_lt
    omega
  unfold readWord writeWord
  rw [if_pos rfl, if_neg (fun h => hne (linear_inj.mp h)), if_pos rfl]
  exact toUInt8_or_shiftLeft value

/-- A run of words depends only on the bytes under it. -/
theorem readWords_congr (n : ℕ)
    (h : ∀ b : UInt16, (b - a).toNat < 2 * n → m' (linear segment b) = m (linear segment b)) :
    readWords m' segment a n = readWords m segment a n := by
  induction n generalizing a with
  | zero => rfl
  | succ n ih =>
    have h1 : (1 : UInt16).toNat = 1 := rfl
    have h2 : (2 : UInt16).toNat = 2 := rfl
    have ha := a.toNat_lt
    unfold readWords
    congr 1
    · refine readWord_congr (h _ ?_) (h _ ?_)
      · rw [UInt16.toNat_sub]
        omega
      · rw [UInt16.toNat_sub, UInt16.toNat_add]
        omega
    · refine ih fun b hb => h b ?_
      rw [UInt16.toNat_sub, UInt16.toNat_add] at hb
      rw [UInt16.toNat_sub]
      omega

/-- A word stored just below a run of words is read as its first word. -/
theorem readWords_writeWord_below {ws : List UInt16} {n : ℕ} (value : UInt16)
    (h : readWords m segment a n = ws) (hn : 2 * n + 2 ≤ 65536) :
    readWords (writeWord m segment (a - 2) value) segment (a - 2) (n + 1) = value :: ws := by
  have ha : a - 2 + 2 = a := UInt16.sub_add_cancel a 2
  unfold readWords
  rw [readWord_writeWord_self, ha]
  congr 1
  rw [← h]
  refine readWords_congr n fun b hb => ?_
  have h1 : (1 : UInt16).toNat = 1 := rfl
  have h2 : (2 : UInt16).toNat = 2 := rfl
  have hal := a.toNat_lt
  rw [UInt16.toNat_sub] at hb
  refine writeWord_of_ne ?_ ?_
  · rintro rfl
    rw [UInt16.toNat_sub] at hb
    omega
  · rintro rfl
    rw [UInt16.toNat_add, UInt16.toNat_sub] at hb
    omega

/-! ### Words as linear bytes -/

/-- Addresses that wrap neither in the segment nor at 1 MiB are consecutive. -/
theorem linear_add {k : UInt16} (hoffset : a.toNat + k.toNat < 65536)
    (hlinear : linear segment a + k.toNat < 2 ^ 20) :
    linear segment (a + k) = linear segment a + k.toNat := by
  have hadd : (a + k).toNat = a.toNat + k.toNat := by
    rw [UInt16.toNat_add]
    omega
  unfold linear at hlinear ⊢
  rw [hadd]
  omega

theorem readWord_eq_le16 (h : linear segment (a + 1) = linear segment a + 1) :
    readWord m segment a = le16 (readBytes m (linear segment a) 2) 0 := by
  have hlo := (m (linear segment a)).toNat_lt
  have hhi := (m (linear segment a + 1)).toNat_lt
  have hbytes : readBytes m (linear segment a) 2
      = [m (linear segment a), m (linear segment a + 1)] := rfl
  apply UInt16.toNat_inj.mp
  rw [toNat_le16, hbytes]
  unfold readWord
  rw [h]
  generalize m (linear segment a) = lo at hlo ⊢
  generalize m (linear segment a + 1) = hi at hhi ⊢
  have h8 : (8 : UInt16).toNat = 8 := rfl
  have hshift : (hi.toNat <<< (8 % 16)) % 2 ^ 16 = hi.toNat <<< 8 := by
    have hmod : 8 % 16 = 8 := rfl
    rw [hmod, Nat.shiftLeft_eq]
    omega
  rw [UInt16.toNat_or, UInt16.toNat_shiftLeft, UInt8.toNat_toUInt16, UInt8.toNat_toUInt16, h8,
    hshift, Nat.or_comm, ← Nat.shiftLeft_add_eq_or_of_lt (by omega), Nat.shiftLeft_eq]
  show hi.toNat * 2 ^ 8 + lo.toNat = lo.toNat + 256 * (hi.toNat + 256 * 0)
  omega

theorem leBytes_two (value : UInt16) :
    leBytes 2 value.toNat = [value.toUInt8, (value >>> 8).toUInt8] := by
  have hlo : UInt8.ofNat (value.toNat % 256) = value.toUInt8 := by
    apply UInt8.toNat_inj.mp
    simp
  have hhi : UInt8.ofNat (value.toNat / 256 % 256) = (value >>> 8).toUInt8 := by
    have h8 : (8 : UInt16).toNat = 8 := rfl
    apply UInt8.toNat_inj.mp
    rw [UInt16.toNat_toUInt8, UInt16.toNat_shiftRight, h8, Nat.shiftRight_eq_div_pow]
    simp
  show [UInt8.ofNat (value.toNat % 256), UInt8.ofNat (value.toNat / 256 % 256)] = _
  rw [hlo, hhi]

theorem writeWord_eq_writeBytes (value : UInt16)
    (h : linear segment (a + 1) = linear segment a + 1) :
    writeWord m segment a value = writeBytes m (linear segment a) (leBytes 2 value.toNat) := by
  funext i
  unfold writeWord
  rw [h, leBytes_two]
  by_cases h1 : i = linear segment a + 1
  · rw [if_pos h1, writeBytes_of_mem (by omega) (by simp; omega), h1, Nat.add_sub_cancel_left]
    rfl
  · rw [if_neg h1]
    by_cases h0 : i = linear segment a
    · rw [if_pos h0, writeBytes_of_mem (by omega) (by simp; omega), h0, Nat.sub_self]
      rfl
    · rw [if_neg h0, writeBytes_of_not_mem (by simp; omega)]

theorem writeWord_of_le {value : UInt16} {i : ℕ} (hi : 2 ^ 20 ≤ i) :
    writeWord m segment a value i = m i := by
  have hlt : ∀ offset, i ≠ linear segment offset := by
    intro offset h
    have := Nat.mod_lt (segment.toNat * 16 + offset.toNat) (by decide : 0 < 2 ^ 20)
    unfold linear at h
    omega
  unfold writeWord
  rw [if_neg (hlt _), if_neg (hlt _)]

end Rp86.Lib
