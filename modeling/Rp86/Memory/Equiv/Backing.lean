import Rp86.Memory.Backing

/-!
# The backing's range check and accesses

`memoryBackingRangeValid_iff`: the check accepts exactly the ranges that lie inside the storage,
for every 32-bit address and every length, with no wrap-around.  A successful write changes the
storage only inside its range (`memoryBackingWrite_frame`) and keeps the geometry of the backing
(`SameGeometry`), which is all that the range check reads.
-/

namespace Rp86

open Lib

variable {backing b b' backing' : Backing} {address : UInt32} {length : ℕ} {source : List UInt8}

/-- A length that fits behind an offset, without a sum that could wrap. -/
theorem fits_iff {offset size : UInt32} :
    offset ≤ size ∧ length ≤ (size - offset).toNat ↔ offset.toNat + length ≤ size.toNat := by
  rw [UInt32.le_iff_toNat_le]
  constructor
  · rintro ⟨h1, h2⟩
    rw [UInt32.toNat_sub_of_le _ _ (UInt32.le_iff_toNat_le.mpr h1)] at h2
    omega
  · intro h
    have h1 : offset.toNat ≤ size.toNat := by omega
    refine ⟨h1, ?_⟩
    rw [UInt32.toNat_sub_of_le _ _ (UInt32.le_iff_toNat_le.mpr h1)]
    omega

/-- The range check, in natural numbers. -/
theorem memoryBackingRangeValid_iff : memoryBackingRangeValid backing address length = true ↔
      backing.available = true ∧ backing.processorBase ≤ address ∧
        backing.offset address + length ≤ backing.size.toNat := by
  unfold memoryBackingRangeValid Backing.offset
  cases backing.available with
  | false => simp
  | true =>
    by_cases hlt : address < backing.processorBase
    · simp [hlt, UInt32.not_le.mpr hlt]
    · have hle : backing.processorBase ≤ address := UInt32.not_lt.mp hlt
      simp only [Bool.not_true, hlt, decide_false, Bool.or_false, Bool.false_eq_true, ↓reduceIte,
        Bool.and_eq_true, decide_eq_true_eq, hle, true_and]
      exact fits_iff

theorem Backing.offset_add {backing : Backing} {address k : UInt32}
    (h : backing.offset address + k.toNat < 2 ^ 32) :
    backing.offset (address + k) = backing.offset address + k.toNat := by
  unfold Backing.offset at h ⊢
  rw [UInt32.toNat_sub] at h ⊢
  rw [UInt32.toNat_sub, UInt32.toNat_add]
  have := address.toNat_lt
  have := k.toNat_lt
  have := backing.processorBase.toNat_lt
  omega

/-! ### Geometry -/

structure SameGeometry (b b' : Backing) : Prop where
  processorBase : b'.processorBase = b.processorBase
  size : b'.size = b.size
  available : b'.available = b.available

theorem SameGeometry.refl (b : Backing) : SameGeometry b b := ⟨rfl, rfl, rfl⟩

theorem SameGeometry.trans {b₁ b₂ b₃ : Backing} (h : SameGeometry b₁ b₂)
    (h' : SameGeometry b₂ b₃) : SameGeometry b₁ b₃ :=
  ⟨h'.processorBase.trans h.processorBase, h'.size.trans h.size, h'.available.trans h.available⟩

theorem SameGeometry.eq (h : SameGeometry b b') : b' = { b with storage := b'.storage } := by
  obtain ⟨base, size, available, storage⟩ := b'
  obtain ⟨rfl, rfl, rfl⟩ := h
  rfl

theorem SameGeometry.offset (h : SameGeometry b b') (address : UInt32) :
    b'.offset address = b.offset address := by
  rw [Backing.offset, Backing.offset, h.processorBase]

theorem SameGeometry.rangeValid (h : SameGeometry b b') (address : UInt32) (length : ℕ) :
    memoryBackingRangeValid b' address length = memoryBackingRangeValid b address length := by
  rw [memoryBackingRangeValid, memoryBackingRangeValid, h.processorBase, h.size, h.available]

/-- A backing that presents the whole of Internal SRAM. -/
abbrev Backing.IsInternalSram (backing : Backing) : Prop :=
  SameGeometry internalSramBackingInit backing

theorem offset_internalSram (h : backing.IsInternalSram) :
    backing.offset address = address.toNat := by
  rw [h.offset, Backing.offset]
  exact congrArg UInt32.toNat (UInt32.sub_zero address)

/-- The range check against Internal SRAM. -/
theorem rangeValid_internalSram (h : backing.IsInternalSram) :
    memoryBackingRangeValid backing address length = true ↔ address.toNat + length ≤ 0x40000 := by
  have hbase : backing.processorBase ≤ address := by
    rw [h.processorBase]
    exact UInt32.le_iff_toNat_le.mpr (Nat.zero_le _)
  have hsize : backing.size.toNat = 0x40000 := congrArg UInt32.toNat h.size
  rw [memoryBackingRangeValid_iff, offset_internalSram h, hsize]
  exact ⟨fun hv => hv.2.2, fun hle => ⟨h.available, hbase, hle⟩⟩

/-! ### Accesses -/

theorem memoryBackingRead_of_valid (h : memoryBackingRangeValid backing address length = true) :
    memoryBackingRead backing address length
      = some (readBytes backing.storage (backing.offset address) length) := by
  simp [memoryBackingRead, h]

theorem memoryBackingRead_eq_some {data : List UInt8}
    (h : memoryBackingRead backing address length = some data) :
    memoryBackingRangeValid backing address length = true ∧
      data = readBytes backing.storage (backing.offset address) length := by
  unfold memoryBackingRead at h
  split at h
  · cases h
  · next hv => exact ⟨by simpa using hv, by simpa using h.symm⟩

theorem memoryBackingWrite_of_valid
    (h : memoryBackingRangeValid backing address source.length = true) :
    memoryBackingWrite backing address source = some { backing with
      storage := writeBytes backing.storage (backing.offset address) source } := by
  simp [memoryBackingWrite, h]

theorem memoryBackingWrite_eq_some (h : memoryBackingWrite backing address source = some backing') :
    memoryBackingRangeValid backing address source.length = true ∧
      backing' = { backing with
        storage := writeBytes backing.storage (backing.offset address) source } := by
  unfold memoryBackingWrite at h
  split at h
  · cases h
  · next hv => exact ⟨by simpa using hv, by simpa using h.symm⟩

theorem memoryBackingWrite_sameGeometry
    (h : memoryBackingWrite backing address source = some backing') :
    SameGeometry backing backing' := by
  obtain ⟨-, rfl⟩ := memoryBackingWrite_eq_some h
  exact ⟨rfl, rfl, rfl⟩

/-- A successful write changes no byte outside its range. -/
theorem memoryBackingWrite_frame (h : memoryBackingWrite backing address source = some backing')
    {i : ℕ} (hi : ¬ (backing.offset address ≤ i ∧ i < backing.offset address + source.length)) :
    backing'.storage i = backing.storage i := by
  obtain ⟨-, rfl⟩ := memoryBackingWrite_eq_some h
  exact writeBytes_of_not_mem hi

end Rp86
