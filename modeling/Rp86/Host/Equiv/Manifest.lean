import Rp86.Host.Equiv.Protocol
import Rp86.Host.Workload
import Rp86.Workload.Equiv.Manifest

/-!
# The Host's manifests on the device

`validated_eq_ok` says what `WorkloadManifest.validated` accepts and `decode_eq_ok` what
`WorkloadManifest.decode` reads from forty bytes: the fields that the firmware reads, as integers.
-/

namespace Rp86.Host

open Lib

/-! ### The Host's validator -/

theorem linear_eq_ok {segment offset address : ℤ} :
    linear segment offset = .ok address ↔
      (0 ≤ segment ∧ segment ≤ 0xFFFF) ∧ (0 ≤ offset ∧ offset ≤ 0xFFFF) ∧
        segment * 16 + offset < processorAddressSpaceSize ∧ address = segment * 16 + offset := by
  unfold linear
  split_ifs with hrange hspace
  · refine ⟨nofun, fun h => ?_⟩
    omega
  · refine ⟨nofun, fun h => ?_⟩
    omega
  · rw [Except.ok.injEq]
    omega

structure WorkloadManifest.Accepted (m : WorkloadManifest) : Prop where
  imageSize : 0 < m.imageSize
  imageCrc32 : 0 ≤ m.imageCrc32 ∧ m.imageCrc32 ≤ 0xFFFFFFFF
  loadAddress : 0 ≤ m.loadAddress ∧ m.loadAddress < processorAddressSpaceSize
  imageEnd : m.loadAddress + m.imageSize ≤ processorAddressSpaceSize
  entry : ∃ entry, linear m.entrySegment m.entryOffset = .ok entry ∧
    m.loadAddress ≤ entry ∧ entry < m.loadAddress + m.imageSize
  stack : ∃ stack, linear m.stackSegment m.stackOffset = .ok stack
  shared : m.sharedSize ≠ 0 →
    (0 ≤ m.sharedBase ∧ m.sharedBase < processorAddressSpaceSize) ∧
      m.sharedBase + m.sharedSize ≤ processorAddressSpaceSize ∧ m.has flagSharedMemory
  unshared : m.sharedSize = 0 → m.sharedBase = 0 ∧ ¬ m.has flagSharedMemory
  known : ¬ m.has (Int.lnot knownFlags)
  clock : ¬ (m.has flagClockFreeRunning ∧ m.has flagClockStepped)
  tick : m.has flagPeriodicTick → m.has flagClockStepped

theorem validated_eq_ok {m m' : WorkloadManifest} :
    m.validated = .ok m' ↔ m' = m ∧ m.Accepted := by
  have hpure : (pure m : Except HostError WorkloadManifest) = .ok m' ↔ m' = m := by
    rw [show (pure m : Except HostError WorkloadManifest) = .ok m from rfl, Except.ok.injEq,
      eq_comm]
  unfold WorkloadManifest.validated
  by_cases hs : m.sharedSize = 0
  · simp only [hs, ne_eq, not_true_eq_false, if_false, check_eq_ok, bind_eq_ok, hpure, not_not,
      not_or, Int.not_le, gt_iff_lt, Int.not_lt]
    constructor
    · rintro ⟨hsize, hcrc, hload, hend, entry, hentry, hin, stack, hstack, hshared, hknown, hclock,
        htick, hm⟩
      exact ⟨hm, hsize, hcrc, hload, hend, ⟨entry, hentry, hin⟩, ⟨stack, hstack⟩,
        fun h => absurd hs h, fun _ => hshared, hknown, hclock,
        fun h => by_contra fun hn => htick ⟨h, hn⟩⟩
    · rintro ⟨hm, h⟩
      obtain ⟨entry, hentry, hin⟩ := h.entry
      obtain ⟨stack, hstack⟩ := h.stack
      exact ⟨h.imageSize, h.imageCrc32, h.loadAddress, h.imageEnd, entry, hentry, hin, stack,
        hstack, h.unshared hs, h.known, h.clock, fun ht => ht.2 (h.tick ht.1), hm⟩
  · simp only [hs, ne_eq, not_false_eq_true, if_true, check_eq_ok, bind_eq_ok, hpure, not_not,
      Int.not_le, gt_iff_lt, Int.not_lt]
    constructor
    · rintro ⟨hsize, hcrc, hload, hend, entry, hentry, hin, stack, hstack, hbase, hsharedEnd, hflag,
        hknown, hclock, htick, hm⟩
      exact ⟨hm, hsize, hcrc, hload, hend, ⟨entry, hentry, hin⟩, ⟨stack, hstack⟩,
        fun _ => ⟨hbase, hsharedEnd, hflag⟩, fun h => absurd h hs, hknown, hclock,
        fun h => by_contra fun hn => htick ⟨h, hn⟩⟩
    · rintro ⟨hm, h⟩
      obtain ⟨entry, hentry, hin⟩ := h.entry
      obtain ⟨stack, hstack⟩ := h.stack
      obtain ⟨hbase, hsharedEnd, hflag⟩ := h.shared hs
      exact ⟨h.imageSize, h.imageCrc32, h.loadAddress, h.imageEnd, entry, hentry, hin, stack,
        hstack, hbase, hsharedEnd, hflag, h.known, h.clock, fun ht => ht.2 (h.tick ht.1), hm⟩

/-! ### The fields that both read -/

/-- The firmware's fields as the integers of the Host. -/
def hostFields (m : Manifest) : WorkloadManifest where
  imageSize := m.imageSize.toNat
  imageCrc32 := m.imageCrc32.toNat
  loadAddress := m.loadAddress.toNat
  entrySegment := m.entrySegment.toNat
  entryOffset := m.entryOffset.toNat
  stackSegment := m.stackSegment.toNat
  stackOffset := m.stackOffset.toNat
  sharedBase := m.sharedBase.toNat
  sharedSize := m.sharedSize.toNat
  flags := m.flags.toNat

/-- **What `decode` accepts.** -/
theorem decode_eq_ok {encoded : List UInt8} {m : WorkloadManifest} :
    WorkloadManifest.decode encoded = .ok m ↔
      encoded.length = 40 ∧ (Manifest.ofBytes encoded 0).magic = workloadMagic ∧
        (Manifest.ofBytes encoded 0).version = workloadFormatVersion ∧
        (Manifest.ofBytes encoded 0).headerSize = UInt16.ofNat Rp86.manifestSize ∧
        m = hostFields (Manifest.ofBytes encoded 0) ∧
        (hostFields (Manifest.ofBytes encoded 0)).Accepted := by
  have hlength : (encoded.length : ℤ) ≠ manifestSize ↔ encoded.length ≠ 40 := by
    have h40 : manifestSize = 40 := rfl
    omega
  have hmagic : ((le32 encoded 0).toNat : ℤ) ≠ magic ↔ le32 encoded 0 ≠ workloadMagic := by
    rw [ne_eq, ne_eq, ← UInt32.toNat_inj, ← Int.ofNat_inj]
    rfl
  have hversion : ((le16 encoded 4).toNat : ℤ) ≠ formatVersion ↔
      le16 encoded 4 ≠ workloadFormatVersion := by
    rw [ne_eq, ne_eq, ← UInt16.toNat_inj, ← Int.ofNat_inj]
    rfl
  have hheader : ((le16 encoded 6).toNat : ℤ) ≠ manifestSize ↔
      le16 encoded 6 ≠ UInt16.ofNat Rp86.manifestSize := by
    rw [ne_eq, ne_eq, ← UInt16.toNat_inj, ← Int.ofNat_inj]
    rfl
  unfold WorkloadManifest.decode
  simp only [check_eq_ok, hlength, hmagic, hversion, hheader, not_or, ne_eq, not_not,
    validated_eq_ok, and_assoc]
  rfl

theorem has_hostFields {m : Manifest} {flag : UInt32} {f : ℤ} (hf : f = flag.toNat) :
    (hostFields m).has f = true ↔ m.flags &&& flag ≠ 0 := by
  rw [hf, WorkloadManifest.has, decide_eq_true_eq]
  exact land_toNat_ne_zero

theorem has_hostFields_lnot {m : Manifest} {mask : UInt32} {f : ℤ} (hf : f = mask.toNat) :
    (hostFields m).has (Int.lnot f) = true ↔ m.flags &&& ~~~ mask ≠ 0 := by
  rw [hf, WorkloadManifest.has, decide_eq_true_eq]
  exact land_lnot_toNat_ne_zero

/-! ### The two validators -/

section

variable {m : Manifest}

theorem toNat_cast_eq_zero {x : UInt32} : (x.toNat : ℤ) = 0 ↔ x = 0 := by
  rw [← UInt32.toNat_inj, UInt32.toNat_zero, Int.natCast_eq_zero]

/-- The addresses that the Host checks, for the fields of the firmware. -/
theorem linear_hostFields {segment offset : UInt16}
    (h : segment.toNat * 16 + offset.toNat < 0x100000) :
    linear (segment.toNat : ℤ) (offset.toNat : ℤ)
      = .ok ((segment.toNat * 16 + offset.toNat : ℕ) : ℤ) := by
  have ho := offset.toNat_lt
  have hspace : processorAddressSpaceSize = 0x100000 := rfl
  refine linear_eq_ok.mpr ⟨?_, ?_, ?_, ?_⟩ <;> omega

/-- **A manifest that the firmware accepts** is accepted by the Host, unless it names a shared base
without a shared range. -/
theorem accepted_hostFields_iff (h : ManifestAccepted m) :
    (hostFields m).Accepted ↔ (m.sharedSize = 0 → m.sharedBase = 0) := by
  have hspace : processorAddressSpaceSize = 0x100000 := rfl
  have hend := h.imageEnd
  have hentry := h.entry
  -- both kinds of stack lie in the address space that the Host checks
  have hstack : m.stackSegment.toNat * 16 + m.stackOffset.toNat < 0x3F000 := by
    rcases h.stack with ⟨hs, ho⟩ | hstack
    · rw [hs, ho]
      decide
    · exact hstack
  constructor
  · intro hhost hsize
    exact toNat_cast_eq_zero.mp (hhost.unshared (toNat_cast_eq_zero.mpr hsize)).1
  · intro hshared
    have hsize : 0 < (m.imageSize.toNat : ℤ) := by
      have := h.imageSize
      omega
    have hcrc := m.imageCrc32.toNat_lt
    refine {
      imageSize := hsize
      imageCrc32 := ⟨Int.natCast_nonneg _, by simp only [hostFields]; omega⟩
      loadAddress := ⟨Int.natCast_nonneg _, by simp only [hostFields, hspace]; omega⟩
      imageEnd := by simp only [hostFields, hspace]; omega
      entry := ⟨_, linear_hostFields (by omega), by simp only [hostFields]; omega⟩
      stack := ⟨_, linear_hostFields (by omega)⟩
      shared := fun hrange => ?_
      unshared := fun hrange => ?_
      known := fun hflag => (has_hostFields_lnot rfl).mp hflag h.known
      clock := fun hflags => h.clock
        ⟨(has_hostFields rfl).mp hflags.1, (has_hostFields rfl).mp hflags.2⟩
      tick := fun hflag => (has_hostFields rfl).mpr (h.tick ((has_hostFields rfl).mp hflag)) }
    · have hne : m.sharedSize ≠ 0 := fun hz => hrange (toNat_cast_eq_zero.mpr hz)
      have hsharedEnd := h.sharedEnd hne
      have hrange' : (m.sharedSize.toNat : ℤ) ≠ 0 := hrange
      refine ⟨⟨Int.natCast_nonneg _, ?_⟩, ?_,
        (has_hostFields rfl).mpr fun hz => hne (h.shared.mpr hz)⟩
      · simp only [hostFields, hspace]
        omega
      · simp only [hostFields, hspace]
        omega
    · have hz := toNat_cast_eq_zero.mp hrange
      exact ⟨toNat_cast_eq_zero.mpr (hshared hz),
        fun hflag => (has_hostFields rfl).mp hflag (h.shared.mp hz)⟩

/-- **A manifest that the Host accepts** is accepted by the firmware when its image, stack and
shared range are in the memory that is there. -/
theorem manifestAccepted_of_hostFields (h : (hostFields m).Accepted)
    (hmagic : m.magic = workloadMagic) (hversion : m.version = workloadFormatVersion)
    (hheader : m.headerSize = UInt16.ofNat Rp86.manifestSize)
    (himage : m.loadAddress.toNat + m.imageSize.toNat ≤ 0x3F000)
    (hstack : m.stackSegment ≠ 0 ∨ m.stackOffset ≠ 0 →
      m.stackSegment.toNat * 16 + m.stackOffset.toNat < 0x3F000)
    (hshared : m.sharedSize ≠ 0 → m.sharedBase.toNat + m.sharedSize.toNat ≤ 0x40000) :
    ManifestAccepted m := by
  have hsize : 0 < (m.imageSize.toNat : ℤ) := h.imageSize
  obtain ⟨entry, hentry, hin⟩ := h.entry
  obtain ⟨-, -, -, rfl⟩ := linear_eq_ok.mp hentry
  simp only [hostFields] at hin
  refine ⟨hmagic, hversion, hheader, by omega, himage, by omega, ?_, ?_, ?_, ?_, ?_, hshared⟩
  · by_cases hzero : m.stackSegment = 0 ∧ m.stackOffset = 0
    · exact Or.inl hzero
    · exact Or.inr (hstack (not_and_or.mp hzero))
  · exact by_contra fun hknown => h.known ((has_hostFields_lnot rfl).mpr hknown)
  · exact fun hflags => h.clock
      ⟨(has_hostFields rfl).mpr hflags.1, (has_hostFields rfl).mpr hflags.2⟩
  · exact fun hflag => (has_hostFields rfl).mp (h.tick ((has_hostFields rfl).mpr hflag))
  · constructor
    · intro hz
      exact by_contra fun hflag =>
        (h.unshared (toNat_cast_eq_zero.mpr hz)).2 ((has_hostFields rfl).mpr hflag)
    · intro hflag
      by_contra hne
      have hset := (h.shared fun hz => hne (toNat_cast_eq_zero.mp hz)).2.2
      exact (has_hostFields rfl).mp hset hflag

end

/-- **The two validators on every string of forty bytes.**  A string that the firmware accepts is
decoded by the Host to the same values exactly when it does not name a shared base with a shared
size of zero; a string that the Host decodes is accepted by the firmware when the image, an explicit
stack and any shared range are in the memory of the firmware. -/
theorem manifest_validators_agree {encoded : List UInt8} {backing : Backing}
    (hlength : encoded.length = 40) (hgeometry : SameGeometry internalSramBackingInit backing) :
    (manifestValid (Manifest.ofBytes encoded 0) backing = true →
      (WorkloadManifest.decode encoded = .ok (hostFields (Manifest.ofBytes encoded 0)) ↔
        ¬ ((Manifest.ofBytes encoded 0).sharedSize = 0 ∧
          (Manifest.ofBytes encoded 0).sharedBase ≠ 0))) ∧
    ∀ m, WorkloadManifest.decode encoded = .ok m →
      m.loadAddress + m.imageSize ≤ 0x3F000 →
      (m.stackSegment ≠ 0 ∨ m.stackOffset ≠ 0 → m.stackSegment * 16 + m.stackOffset < 0x3F000) →
      (m.sharedSize ≠ 0 → m.sharedBase + m.sharedSize ≤ 0x40000) →
      m = hostFields (Manifest.ofBytes encoded 0) ∧
        manifestValid (Manifest.ofBytes encoded 0) backing = true := by
  constructor
  · intro hvalid
    have haccepted := (manifestValid_iff hgeometry).mp hvalid
    rw [decode_eq_ok, accepted_hostFields_iff haccepted, not_and, not_not]
    constructor
    · exact fun h => h.2.2.2.2.2
    · exact fun h => ⟨hlength, haccepted.magic, haccepted.version, haccepted.headerSize, rfl, h⟩
  · intro m hdecode himage hstack hshared
    obtain ⟨-, hmagic, hversion, hheader, rfl, hhost⟩ := decode_eq_ok.mp hdecode
    refine ⟨rfl, (manifestValid_iff hgeometry).mpr (manifestAccepted_of_hostFields hhost hmagic
      hversion hheader ?_ ?_ ?_)⟩
    · simp only [hostFields] at himage
      omega
    · intro hexplicit
      have hnonzero : ∀ {x : UInt16}, x ≠ 0 → (x.toNat : ℤ) ≠ 0 := fun hne hz =>
        hne (UInt16.toNat_inj.mp (Int.ofNat_inj.mp hz))
      have hbelow := hstack (hexplicit.imp hnonzero hnonzero)
      simp only [hostFields] at hbelow
      omega
    · intro hrange
      have hend := hshared fun hz => hrange (toNat_cast_eq_zero.mp hz)
      simp only [hostFields] at hend
      omega

theorem manifest_validators_agree_stack :
    manifestValid (Manifest.ofBytes (stackManifest 0x3000 0xEFFE).toBytes 0)
        internalSramBackingInit = true ∧
      WorkloadManifest.decode (stackManifest 0x3000 0xEFFE).toBytes
        = .ok (hostFields (Manifest.ofBytes (stackManifest 0x3000 0xEFFE).toBytes 0)) :=
  ⟨by decide, ((manifest_validators_agree (by decide) (.refl _)).1 (by decide)).mpr (by decide)⟩

/-- The string of a manifest with a shared base and no shared range. -/
def unusedBaseString : List UInt8 := { stackManifest 0 0 with sharedBase := 0x1000 }.toBytes

/-- The firmware does not look at the base of a range of no bytes; the Host refuses it. -/
theorem unused_base_refused :
    unusedBaseString.length = 40 ∧
      manifestValid (Manifest.ofBytes unusedBaseString 0) internalSramBackingInit = true ∧
      ∀ m, WorkloadManifest.decode unusedBaseString ≠ .ok m := by
  refine ⟨by decide, by decide, fun m hdecode => ?_⟩
  obtain ⟨-, -, -, -, -, hhost⟩ := decode_eq_ok.mp hdecode
  exact absurd (hhost.unshared (by decide)).1 (by decide)

end Rp86.Host
