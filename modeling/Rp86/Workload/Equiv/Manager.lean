import Rp86.Memory.Equiv.Backing
import Rp86.Workload.Equiv.Crc32
import Rp86.Workload.Manager

/-!
# What the manager's operations do

One inversion lemma for each operation of the manager, with all the guards it checked.  The
results about runs use these and never unfold the operations.
-/

namespace Rp86

open Lib

/-! ### Packed manifests -/

theorem Manifest.ofBytes_toBytes (m : Manifest) (front back : List UInt8) :
    Manifest.ofBytes (front ++ (m.toBytes ++ back)) front.length = m := by
  cases m
  simp [Manifest.ofBytes, Manifest.toBytes, le32_leBytes, le16_leBytes, le32_append_of_le,
    le16_append_of_le]

theorem Manifest.length_toBytes (m : Manifest) : m.toBytes.length = manifestSize := by
  simp [Manifest.toBytes, manifestSize]

/-! ### `manifestValid` -/

/-- What a valid manifest says about its image: not empty, inside the 20-bit address space and
inside the backing. -/
structure ImageFits (manifest : Manifest) (backing : Backing) : Prop where
  size_pos : 0 < manifest.imageSize.toNat
  fits : manifest.loadAddress.toNat + manifest.imageSize.toNat ≤ 0x100000
  rangeValid : memoryBackingRangeValid backing manifest.loadAddress manifest.imageSize.toNat = true
  avoidsMailbox : manifest.loadAddress.toNat + manifest.imageSize.toNat ≤ 0x3F000 ∨
    0x40000 ≤ manifest.loadAddress.toNat

/-- A 32-bit sum that did not wrap, as the source tests it. -/
theorem toNat_add_of_not_lt {a b : UInt32} (h : ¬ a + b < a) :
    (a + b).toNat = a.toNat + b.toNat := by
  rw [UInt32.lt_iff_toNat_lt, UInt32.toNat_add] at h
  rw [UInt32.toNat_add]
  have := a.toNat_lt
  have := b.toNat_lt
  omega

/-- A test that refuses was passed, and so was what follows it. -/
theorem check_passed {p : Prop} [Decidable p] {b : Bool} (h : (if p then false else b) = true) :
    ¬ p ∧ b = true := by
  by_cases hp : p
  · rw [if_pos hp] at h
    cases h
  · rw [if_neg hp] at h
    exact ⟨hp, h⟩

theorem imageFits_of_manifestValid {manifest : Manifest} {backing : Backing}
    (h : manifestValid manifest backing = true) : ImageFits manifest backing := by
  unfold manifestValid at h
  obtain ⟨h0, h⟩ := check_passed h
  obtain ⟨h1, h⟩ := check_passed h
  obtain ⟨h2, -⟩ := check_passed h
  simp only [not_or] at h0 h1
  obtain ⟨-, h1b, h1c, h1d⟩ := h1
  have hend := toNat_add_of_not_lt h1b
  have h1c := UInt32.le_iff_toNat_le.mp (UInt32.not_lt.mp h1c)
  rw [hend] at h1c
  refine ⟨?_, h1c, by simpa using h1d, ?_⟩
  · have : manifest.imageSize.toNat ≠ 0 := fun hz =>
      h0.2.2.2.1 (UInt32.toNat_inj.mp hz)
    omega
  · rw [UInt32.lt_iff_toNat_lt, gt_iff_lt, UInt32.lt_iff_toNat_lt, hend] at h2
    have hb : sharedMailboxBase.toNat = 0x3F000 := rfl
    have hs : (sharedMailboxBase + sharedMailboxSize).toNat = 0x40000 := rfl
    omega

theorem SameGeometry.manifestValid {b b' : Backing} (h : SameGeometry b b')
    (manifest : Manifest) : manifestValid manifest b' = manifestValid manifest b := by
  unfold Rp86.manifestValid
  simp only [h.available, h.rangeValid]

/-! ### Upload -/

variable {m m' : WorkloadManager} {t : UInt32}

theorem workloadBegin_eq_some {b : Backing} {manifest : Option Manifest}
    (h : workloadBegin m b t manifest = some m') :
    ∃ mf, manifest = some mf ∧ manifestValid mf b = true ∧ m.state ≠ .running ∧
      m.state ≠ .completed ∧
      m' = { m with manifest := mf, transferId := t, received := 0, runningCrc32 := 0,
                    state := .receiving } := by
  cases manifest with
  | none => cases h
  | some mf =>
    simp only [workloadBegin] at h
    split at h
    · cases h
    · next hg =>
      simp only [Bool.or_eq_true, Bool.not_eq_true', beq_iff_eq, not_or,
        Bool.not_eq_false] at hg
      exact ⟨mf, rfl, hg.1.2, hg.2.1, hg.2.2, (Option.some.inj h).symm⟩

theorem workloadBegin_of_valid {b : Backing} {mf : Manifest} (hv : manifestValid mf b = true)
    (hrun : m.state ≠ .running) (hcomp : m.state ≠ .completed) :
    workloadBegin m b t (some mf) = some { m with
      manifest := mf, transferId := t, received := 0, runningCrc32 := 0, state := .receiving } := by
  have havail := (memoryBackingRangeValid_iff.mp (imageFits_of_manifestValid hv).rangeValid).1
  simp [workloadBegin, havail, hv, hrun, hcomp]

theorem workloadWrite_eq_some {b b' : Backing} {offset : UInt32} {data : Option (List UInt8)}
    (h : workloadWrite m b t offset data = some (m', b')) :
    ∃ d, data = some d ∧ m.state = .receiving ∧ t = m.transferId ∧ offset = m.received ∧
      d ≠ [] ∧ d.length ≤ (m.manifest.imageSize - m.received).toNat ∧
      memoryBackingWrite b (m.manifest.loadAddress + offset) d = some b' ∧
      m' = { m with runningCrc32 := crc32Update m.runningCrc32 d,
                    received := m.received + UInt32.ofNat d.length } := by
  cases data with
  | none => cases h
  | some d =>
    simp only [workloadWrite] at h
    split at h
    · cases h
    · next hg =>
      simp only [not_or, ne_eq, Decidable.not_not] at hg
      split at h
      · cases h
      · next b'' hb =>
        obtain ⟨hm, rfl⟩ := Prod.mk.inj (Option.some.inj h)
        have hd : d ≠ [] := fun hz => hg.2.2.2.1 (by rw [hz]; rfl)
        exact ⟨d, rfl, hg.1, hg.2.1, hg.2.2.1, hd, Nat.not_lt.mp hg.2.2.2.2, hb, hm.symm⟩

theorem workloadWrite_of_valid {b : Backing} {d : List UInt8} (hst : m.state = .receiving)
    (hd : d ≠ []) (hlen : d.length ≤ (m.manifest.imageSize - m.received).toNat)
    (hv : memoryBackingRangeValid b (m.manifest.loadAddress + m.received) d.length = true) :
    workloadWrite m b m.transferId m.received (some d)
      = some ({ m with runningCrc32 := crc32Update m.runningCrc32 d,
                       received := m.received + UInt32.ofNat d.length },
          { b with storage :=
              writeBytes b.storage (b.offset (m.manifest.loadAddress + m.received)) d }) := by
  have hpos : ¬ d.length = 0 := fun h => hd (List.length_eq_zero_iff.mp h)
  simp only [workloadWrite]
  rw [if_neg, memoryBackingWrite_of_valid hv]
  simp only [hst, ne_eq, not_true_eq_false, false_or, hpos]
  exact Nat.not_lt.mpr hlen

/-- A commit is refused outside `RECEIVING`, fails into `FAULTED`, or stages the image after all
its checks. -/
theorem workloadCommit_cases (m : WorkloadManager) (t c : UInt32) :
    (m.state ≠ .receiving ∧ workloadCommit m t c = (false, m)) ∨
    (m.state = .receiving ∧ workloadCommit m t c = (false, { m with state := .faulted })) ∨
    (m.state = .receiving ∧ t = m.transferId ∧ m.received = m.manifest.imageSize ∧
      c = m.manifest.imageCrc32 ∧ m.runningCrc32 = c ∧
      workloadCommit m t c
        = (true, { m with workloadId := nextWorkloadId m.workloadId, state := .staged })) := by
  unfold workloadCommit
  split
  · next hs => exact Or.inl ⟨hs, rfl⟩
  · next hs =>
    rw [ne_eq, Decidable.not_not] at hs
    split
    · exact Or.inr (Or.inl ⟨hs, rfl⟩)
    · next hg =>
      simp only [not_or, ne_eq, Decidable.not_not] at hg
      exact Or.inr (Or.inr ⟨hs, hg.1, hg.2.1, hg.2.2.1, hg.2.2.2, rfl⟩)

theorem workloadCommit_true {c : UInt32} (h : workloadCommit m t c = (true, m')) :
    m.state = .receiving ∧
      m' = { m with workloadId := nextWorkloadId m.workloadId, state := .staged } := by
  rcases workloadCommit_cases m t c with ⟨-, heq⟩ | ⟨-, heq⟩ | ⟨hst, -, -, -, -, heq⟩ <;>
    rw [heq] at h
  · cases h
  · cases h
  · exact ⟨hst, (Prod.mk.inj h).2.symm⟩

theorem workloadCommit_false {c : UInt32} (hst : m.state = .receiving)
    (h : workloadCommit m t c = (false, m')) : m' = { m with state := .faulted } := by
  rcases workloadCommit_cases m t c with ⟨hne, -⟩ | ⟨-, heq⟩ | ⟨-, -, -, -, -, heq⟩
  · exact absurd hst hne
  · rw [heq] at h
    exact (Prod.mk.inj h).2.symm
  · rw [heq] at h
    cases h

theorem nextWorkloadId_ne_zero (id : UInt32) : nextWorkloadId id ≠ 0 := by
  unfold nextWorkloadId
  split
  · decide
  · assumption

/-! ### Control -/

theorem workloadTransition_eq_some {sources : List WorkloadState} {target : WorkloadState}
    {id : UInt32} (h : workloadTransition sources target m id = some m') :
    workloadIdMatches m id = true ∧ m.state ∈ sources ∧ m' = { m with state := target } := by
  unfold workloadTransition at h
  split at h
  · cases h
  · next hg =>
    simp only [Bool.or_eq_true, Bool.not_eq_true', not_or, Bool.not_eq_false,
      List.contains_iff_mem] at hg
    exact ⟨hg.1, hg.2, (Option.some.inj h).symm⟩

end Rp86
