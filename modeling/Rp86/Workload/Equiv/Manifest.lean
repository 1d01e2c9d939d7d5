import Rp86.Lib.SegmentedMemory
import Rp86.Workload.Equiv.Manager

/-!
# Which manifests the firmware accepts

`manifestValid_iff` says in natural numbers what `manifest_valid` accepts for the 256 KiB of
Internal SRAM at address 0: none of the 32-bit sums in it wraps.  An accepted initial stack is
checked at the linear address of `SS:SP` itself, while the processor pushes below `SP` inside its
64 KiB segment; `first_push_usable_iff` says when the first word pushed is in the space that was
checked.
-/

namespace Rp86

open Lib

theorem toNat_linearAddress (segment offset : UInt16) :
    (linearAddress segment offset).toNat = segment.toNat * 16 + offset.toNat := by
  have hs := segment.toNat_lt
  have ho := offset.toNat_lt
  have h4 : (4 : UInt32).toNat % 32 = 4 := rfl
  unfold linearAddress
  rw [UInt32.toNat_add, UInt32.toNat_shiftLeft, UInt16.toNat_toUInt32, UInt16.toNat_toUInt32, h4,
    Nat.shiftLeft_eq]
  omega

/-- What the firmware accepts, with Internal SRAM as the backing. -/
structure ManifestAccepted (m : Manifest) : Prop where
  magic : m.magic = workloadMagic
  version : m.version = workloadFormatVersion
  headerSize : m.headerSize = UInt16.ofNat manifestSize
  imageSize : 0 < m.imageSize.toNat
  imageEnd : m.loadAddress.toNat + m.imageSize.toNat ≤ 0x3F000
  entry : m.loadAddress.toNat ≤ m.entrySegment.toNat * 16 + m.entryOffset.toNat ∧
    m.entrySegment.toNat * 16 + m.entryOffset.toNat < m.loadAddress.toNat + m.imageSize.toNat
  stack : (m.stackSegment = 0 ∧ m.stackOffset = 0) ∨
    m.stackSegment.toNat * 16 + m.stackOffset.toNat < 0x3F000
  known : m.flags &&& ~~~ knownFlags = 0
  clock : ¬ (m.flags &&& flagClockFreeRunning ≠ 0 ∧ m.flags &&& flagClockStepped ≠ 0)
  tick : m.flags &&& flagPeriodicTick ≠ 0 → m.flags &&& flagClockStepped ≠ 0
  shared : m.sharedSize = 0 ↔ m.flags &&& flagSharedMemory = 0
  sharedEnd : m.sharedSize ≠ 0 → m.sharedBase.toNat + m.sharedSize.toNat ≤ 0x40000

section

variable {m : Manifest} {backing : Backing}

/-- The checks of the image, for a size that is not zero. -/
theorem image_checked_iff (hgeometry : backing.IsInternalSram) (hsize : 0 < m.imageSize.toNat) :
    (¬ (m.loadAddress ≥ processorAddressSpaceSize ∨ m.loadAddress + m.imageSize < m.loadAddress ∨
        m.loadAddress + m.imageSize > processorAddressSpaceSize ∨
        memoryBackingRangeValid backing m.loadAddress m.imageSize.toNat = false) ∧
      ¬ (m.loadAddress < sharedMailboxBase + sharedMailboxSize ∧
        m.loadAddress + m.imageSize > sharedMailboxBase)) ↔
      m.loadAddress.toNat + m.imageSize.toNat ≤ 0x3F000 := by
  have hspace : processorAddressSpaceSize.toNat = 0x100000 := rfl
  have hbase : sharedMailboxBase.toNat = 0x3F000 := rfl
  have hend : (sharedMailboxBase + sharedMailboxSize).toNat = 0x40000 := rfl
  simp only [← Bool.not_eq_true, rangeValid_internalSram hgeometry, ge_iff_le, gt_iff_lt,
    UInt32.le_iff_toNat_le, UInt32.lt_iff_toNat_lt, UInt32.toNat_add, hspace, hbase, hend]
  omega

/-- The check of the entry point, for an image that fits. -/
theorem entry_checked_iff (hfits : m.loadAddress.toNat + m.imageSize.toNat ≤ 0x3F000) :
    ¬ (linearAddress m.entrySegment m.entryOffset < m.loadAddress ∨
        linearAddress m.entrySegment m.entryOffset ≥ m.loadAddress + m.imageSize) ↔
      m.loadAddress.toNat ≤ m.entrySegment.toNat * 16 + m.entryOffset.toNat ∧
        m.entrySegment.toNat * 16 + m.entryOffset.toNat
          < m.loadAddress.toNat + m.imageSize.toNat := by
  simp only [ge_iff_le, UInt32.le_iff_toNat_le, UInt32.lt_iff_toNat_lt, UInt32.toNat_add,
    toNat_linearAddress]
  omega

/-- The check of the initial stack. -/
theorem stack_checked_iff (hgeometry : backing.IsInternalSram) :
    ¬ ((m.stackSegment ≠ 0 ∨ m.stackOffset ≠ 0) ∧
        (linearAddress m.stackSegment m.stackOffset ≥ processorAddressSpaceSize ∨
          linearAddress m.stackSegment m.stackOffset ≥ sharedMailboxBase ∨
          memoryBackingRangeValid backing (linearAddress m.stackSegment m.stackOffset) 2
            = false)) ↔
      (m.stackSegment = 0 ∧ m.stackOffset = 0) ∨
        m.stackSegment.toNat * 16 + m.stackOffset.toNat < 0x3F000 := by
  have hspace : processorAddressSpaceSize.toNat = 0x100000 := rfl
  have hbase : sharedMailboxBase.toNat = 0x3F000 := rfl
  rw [not_and_or, not_or, not_not, not_not]
  refine or_congr_right ?_
  simp only [← Bool.not_eq_true, rangeValid_internalSram hgeometry, ge_iff_le,
    UInt32.le_iff_toNat_le, toNat_linearAddress, hspace, hbase]
  omega

/-- The check of the shared range. -/
theorem shared_checked_iff (hgeometry : backing.IsInternalSram) :
    ¬ (m.sharedSize ≠ 0 ∧ (m.sharedBase + m.sharedSize < m.sharedBase ∨
        m.sharedBase + m.sharedSize > processorAddressSpaceSize ∨
        memoryBackingRangeValid backing m.sharedBase m.sharedSize.toNat = false)) ↔
      (m.sharedSize ≠ 0 → m.sharedBase.toNat + m.sharedSize.toNat ≤ 0x40000) := by
  have hspace : processorAddressSpaceSize.toNat = 0x100000 := rfl
  rw [not_and]
  refine imp_congr_right fun _ => ?_
  simp only [← Bool.not_eq_true, rangeValid_internalSram hgeometry, gt_iff_lt,
    UInt32.lt_iff_toNat_lt, UInt32.toNat_add, hspace]
  omega

/-- **What `manifest_valid` accepts.** -/
theorem manifestValid_iff (hgeometry : backing.IsInternalSram) :
    manifestValid m backing = true ↔ ManifestAccepted m := by
  have havail : backing.available = true := hgeometry.available
  have hzero : m.imageSize ≠ 0 ↔ 0 < m.imageSize.toNat := by
    rw [Nat.pos_iff_ne_zero, ne_eq, ne_eq, ← UInt32.toNat_inj]
    rfl
  -- the tests of the source one by one, those on ranges by their own lemmas
  unfold manifestValid
  simp only [Bool.if_false_left, Bool.if_true_right, Bool.and_eq_true, Bool.not_eq_true',
    decide_eq_false_iff_not, havail, Bool.or_false, Bool.true_eq_false, or_false]
  rw [stack_checked_iff hgeometry, shared_checked_iff hgeometry]
  constructor
  · rintro ⟨hhead, himage, hmailbox, hentry, hstack, hknown, hclock, htick, hshared, hend⟩
    simp only [not_or, not_not] at hhead
    obtain ⟨hmagic, hversion, hheader, hsize⟩ := hhead
    have hpos := hzero.mp hsize
    have hfits := (image_checked_iff hgeometry hpos).mp ⟨himage, hmailbox⟩
    refine ⟨hmagic, hversion, hheader, hpos, hfits, (entry_checked_iff hfits).mp hentry, hstack,
      not_not.mp hknown, hclock, fun h hz => htick ⟨h, hz⟩, ?_, hend⟩
    by_cases h1 : m.sharedSize = 0 <;> by_cases h2 : m.flags &&& flagSharedMemory = 0 <;>
      simp_all
  · intro h
    obtain ⟨himage, hmailbox⟩ := (image_checked_iff hgeometry h.imageSize).mpr h.imageEnd
    refine ⟨?_, himage, hmailbox, (entry_checked_iff h.imageEnd).mpr h.entry, h.stack,
      not_not.mpr h.known, h.clock, fun ht => h.tick ht.1 ht.2, ?_, h.sharedEnd⟩
    · simp only [not_or, not_not]
      exact ⟨h.magic, h.version, h.headerSize, hzero.mpr h.imageSize⟩
    · have hshared := h.shared
      by_cases h1 : m.sharedSize = 0 <;> by_cases h2 : m.flags &&& flagSharedMemory = 0 <;>
        simp_all

/-! ### The first push -/

/-- The physical addresses of the word that the first `PUSH` after the reset handoff writes: the
handoff loads `SS:SP` from the manifest, and the offsets below `SP` wrap in the segment. -/
def Manifest.firstPush (m : Manifest) : List ℕ :=
  [linear m.stackSegment (m.stackOffset - 2), linear m.stackSegment (m.stackOffset - 1)]

/-- A physical address that a workload may use: inside the backing and below the mailbox page. -/
def WorkloadSpace (backing : Backing) (address : ℕ) : Prop :=
  memoryBackingRangeValid backing (UInt32.ofNat address) 1 = true ∧
    address < sharedMailboxBase.toNat

theorem workloadSpace_iff (hgeometry : backing.IsInternalSram) {address : ℕ}
    (haddress : address < 2 ^ 20) : WorkloadSpace backing address ↔ address < 0x3F000 := by
  have hbase : sharedMailboxBase.toNat = 0x3F000 := rfl
  unfold WorkloadSpace
  rw [rangeValid_internalSram hgeometry, UInt32.toNat_ofNat', hbase]
  omega

/-- **When an accepted initial stack takes a push.**  The word that the first push writes lies in
the backing below the mailbox page exactly when the push does not wrap in its segment, or the
segment ends below the mailbox page. -/
theorem first_push_usable_iff (hgeometry : SameGeometry internalSramBackingInit backing)
    (hvalid : manifestValid m backing = true)
    (hexplicit : m.stackSegment ≠ 0 ∨ m.stackOffset ≠ 0) :
    (∀ address ∈ m.firstPush, WorkloadSpace backing address) ↔
      2 ≤ m.stackOffset ∨ m.stackSegment ≤ 0x2F00 := by
  have hstack : m.stackSegment.toNat * 16 + m.stackOffset.toNat < 0x3F000 := by
    rcases ((manifestValid_iff hgeometry).mp hvalid).stack with ⟨hs, ho⟩ | h
    · rcases hexplicit with h | h
      · exact absurd hs h
      · exact absurd ho h
    · exact h
  have h1 : (1 : UInt16).toNat = 1 := rfl
  have h2 : (2 : UInt16).toNat = 2 := rfl
  have hlast : (0x2F00 : UInt16).toNat = 0x2F00 := rfl
  have hs := m.stackSegment.toNat_lt
  have ho := m.stackOffset.toNat_lt
  have hlt : ∀ segment offset : UInt16, linear segment offset < 2 ^ 20 := fun _ _ =>
    Nat.mod_lt _ (by decide)
  unfold Manifest.firstPush
  rw [List.forall_mem_cons, List.forall_mem_singleton, workloadSpace_iff hgeometry (hlt _ _),
    workloadSpace_iff hgeometry (hlt _ _), UInt16.le_iff_toNat_le, UInt16.le_iff_toNat_le, h2,
    hlast]
  unfold linear
  rw [UInt16.toNat_sub, UInt16.toNat_sub, h1, h2]
  omega

/-- A manifest with a one-byte image at address 0 and its initial stack at `SS:SP`. -/
def stackManifest (stackSegment stackOffset : UInt16) : Manifest where
  magic := workloadMagic
  version := workloadFormatVersion
  headerSize := UInt16.ofNat manifestSize
  imageSize := 1
  imageCrc32 := 0
  loadAddress := 0
  entrySegment := 0
  entryOffset := 0
  stackSegment := stackSegment
  stackOffset := stackOffset
  sharedBase := 0
  sharedSize := 0
  flags := 0

theorem first_push_usable_top :
    manifestValid (stackManifest 0x3000 0xEFFE) internalSramBackingInit = true ∧
      ((∀ address ∈ (stackManifest 0x3000 0xEFFE).firstPush,
        WorkloadSpace internalSramBackingInit address) ↔
      2 ≤ (stackManifest 0x3000 0xEFFE).stackOffset ∨
        (stackManifest 0x3000 0xEFFE).stackSegment ≤ 0x2F00) :=
  ⟨by decide, first_push_usable_iff (.refl _) (by decide) (Or.inl (by decide))⟩

/-- The stack at `3000:0000` is accepted, for address `30000h` is free; the first push then wraps to
the top of the segment and writes the last word of the mailbox page. -/
theorem first_push_in_mailbox :
    manifestValid (stackManifest 0x3000 0) internalSramBackingInit = true ∧
      (stackManifest 0x3000 0).firstPush = [0x3FFFE, 0x3FFFF] ∧
      ∀ address ∈ (stackManifest 0x3000 0).firstPush,
        ¬ WorkloadSpace internalSramBackingInit address := by
  refine ⟨by decide, by decide, ?_⟩
  intro address haddress
  rw [show (stackManifest 0x3000 0).firstPush = [0x3FFFE, 0x3FFFF] by decide] at haddress
  rintro ⟨-, hlt⟩
  have hbase : sharedMailboxBase.toNat = 0x3F000 := rfl
  simp only [List.mem_cons, List.not_mem_nil, or_false] at haddress
  omega

end

end Rp86
