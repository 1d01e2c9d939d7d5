import Rp86.Lib.Refinement
import Rp86.Storage.FlashDisk

/-!
# The flash disk is a flat array of sectors

What the Host of the driver sees is the volume with the cached block laid over it
(`FlashDisk.view`).  A flush leaves the view alone, whether it succeeds or not, because the cache
still covers a block that was only partly programmed; a sector write goes to the view.  So the
driver refines a flat sector array (`sector_cache_transparent`), and it never touches the chip
outside the volume.
-/

namespace Rp86

open Lib

/-! ### The flat array -/

/-- The first chip offset of the volume. -/
def volumeStart : ℕ := 4 * 1024 * 1024
def chipEnd : ℕ := 16 * 1024 * 1024

/-- What a flat array `v` of sectors may answer to a call, and the array after it.  A write that
fails has stored some of its sectors, from the first one on. -/
inductive SectorArray : ByteMap → DiskOp → DiskReply → ByteMap → Prop
  | read (v : ByteMap) (pdrv : UInt8) (buffer : Bool) (sector count : UInt32) :
      SectorArray v (.read pdrv buffer sector count)
        (.read .ok (readBytes v (sector.toNat * 512) (count.toNat * 512))) v
  | readRefused (v : ByteMap) (pdrv : UInt8) (buffer : Bool) (sector count : UInt32) :
      SectorArray v (.read pdrv buffer sector count) (.read .parameterError []) v
  | write (v : ByteMap) (pdrv : UInt8) (buffer : ByteMap) (sector count : UInt32) :
      SectorArray v (.write pdrv (some buffer) sector count) (.write .ok)
        (writeBytes v (sector.toNat * 512) (readBytes buffer 0 (count.toNat * 512)))
  | writeFailed (v : ByteMap) (pdrv : UInt8) (buffer : ByteMap) (sector count : UInt32) (k : ℕ)
      (hk : k < count.toNat) :
      SectorArray v (.write pdrv (some buffer) sector count) (.write .error)
        (writeBytes v (sector.toNat * 512) (readBytes buffer 0 (k * 512)))
  | writeRefused (v : ByteMap) (pdrv : UInt8) (buffer : Option ByteMap) (sector count : UInt32) :
      SectorArray v (.write pdrv buffer sector count) (.write .parameterError) v
  | init (v : ByteMap) (pdrv value : UInt8) : SectorArray v (.init pdrv) (.status value) v
  | status (v : ByteMap) (pdrv value : UInt8) : SectorArray v (.status pdrv) (.status value) v
  | ioctl (v : ByteMap) (pdrv : UInt8) (command : DiskCommand) (buffer : Bool) (result : DResult)
      (value : Option UInt32) :
      SectorArray v (.ioctl pdrv command buffer) (.ioctl result value) v
  | flush (v : ByteMap) (flushed : Bool) : SectorArray v .flush (.flush flushed) v

/-- A call has written the cache back. -/
def Flushed : DiskOp → DiskReply → Prop
  | .flush, .flush flushed => flushed = true
  | .ioctl _ .ctrlSync _, .ioctl result _ => result = .ok
  | _, _ => False

/-- An erase block of the volume, by its chip offset. -/
def IsVolumeBlock (offset : UInt32) : Prop :=
  offset.toNat % 4096 = 0 ∧ volumeStart ≤ offset.toNat ∧ offset.toNat + 4096 ≤ chipEnd

/-! ### The view -/

/-- The volume as the chip holds it. -/
def FlashDisk.volume (d : FlashDisk) : ByteMap := fun i => d.chip (volumeStart + i)

/-- The volume with the cached block laid over it. -/
def FlashDisk.view (d : FlashDisk) : ByteMap :=
  if d.cacheValid then writeBytes d.volume (d.cacheBlock.toNat * 4096) d.cacheBytes
  else d.volume

/-- The invariant of the driver. -/
structure FlashDisk.Inv (d : FlashDisk) : Prop where
  valid_of_dirty : d.cacheDirty = true → d.cacheValid = true
  block_lt : d.cacheValid = true → d.cacheBlock.toNat < 3072
  clean : d.cacheDirty = false → d.cacheValid = true →
    readBytes d.volume (d.cacheBlock.toNat * 4096) 4096 = d.cacheBytes
  issued : ∀ offset ∈ d.issued, IsVolumeBlock offset

section

variable {d : FlashDisk} {env : FlashEnv}

theorem cacheBytes_eq (d : FlashDisk) : d.cacheBytes = readBytes d.cache 0 4096 := rfl

theorem length_cacheBytes (d : FlashDisk) : d.cacheBytes.length = 4096 :=
  length_readBytes ..

theorem FlashDisk.view_of_valid (h : d.cacheValid = true) :
    d.view = writeBytes d.volume (d.cacheBlock.toNat * 4096) d.cacheBytes :=
  if_pos h

theorem readBytes_volume (d : FlashDisk) (a n : ℕ) :
    readBytes d.volume a n = readBytes d.chip (volumeStart + a) n := by
  simp only [readBytes, FlashDisk.volume, Nat.add_assoc]

/-- With nothing to write back, the chip holds the view. -/
theorem FlashDisk.Inv.view_eq_volume (h : d.Inv) (hclean : d.cacheDirty = false) :
    d.view = d.volume := by
  rw [FlashDisk.view]
  split_ifs with hvalid
  · rw [← h.clean hclean hvalid, writeBytes_readBytes]
  · rfl

theorem toNat_flashXip {block : UInt32} (h : block.toNat < 3072) :
    flashXip (block * flashEraseBytes) = volumeStart + block.toNat * 4096 := by
  have h4096 : flashEraseBytes.toNat = 4096 := rfl
  have h4 : flashVolumeOffset.toNat = 4194304 := rfl
  rw [flashXip, UInt32.toNat_add, UInt32.toNat_mul, h4096, h4, volumeStart]
  omega

/-! ### Flush -/

/-- The disk after its block has been programmed with some bytes. -/
def FlashDisk.programmed (d : FlashDisk) (content : List UInt8) : FlashDisk :=
  { d with
    chip := writeBytes d.chip (volumeStart + d.cacheBlock.toNat * 4096) content
    issued := d.issued ++ [flashVolumeOffset + d.cacheBlock * flashEraseBytes] }

theorem FlashDisk.volume_programmed (d : FlashDisk) (content : List UInt8) :
    (d.programmed content).volume
      = writeBytes d.volume (d.cacheBlock.toNat * 4096) content := by
  funext i
  simp [FlashDisk.volume, FlashDisk.programmed, writeBytes, Nat.add_assoc, Nat.add_sub_add_left]

/-- What a flush can do: nothing, when the block is clean or the chip already holds it; or one
request, after which the block is clean only if the chip holds it. -/
theorem flashDiskFlush_cases (env : FlashEnv) (h : d.Inv) :
    (d.cacheDirty = false ∧ flashDiskFlush env d = (true, d)) ∨
    (d.cacheDirty = true ∧
      readBytes d.volume (d.cacheBlock.toNat * 4096) 4096 = d.cacheBytes ∧
      flashDiskFlush env d = (true, { d with cacheDirty := false })) ∨
    ∃ content, content.length = 4096 ∧ d.cacheDirty = true ∧
      (flashDiskFlush env d = (false, { d.programmed content with diskHealthy := false }) ∨
        (content = d.cacheBytes ∧
          flashDiskFlush env d = (true, { d.programmed content with cacheDirty := false }))) := by
  cases hdirty : d.cacheDirty with
  | false =>
    refine Or.inl ⟨rfl, ?_⟩
    rw [flashDiskFlush, hdirty]
    rfl
  | true =>
    have hblock := h.block_lt (h.valid_of_dirty hdirty)
    have hxip := toNat_flashXip hblock
    set content := readBytes (env d.issued.length).content 0 4096 with hcontent
    have hprogram : programEraseBlock env (flashVolumeOffset + d.cacheBlock * flashEraseBytes) d
        = ((env d.issued.length).ok, d.programmed content) := by
      rw [programEraseBlock, ← flashXip, hxip]
      rfl
    have hread : readBytes (d.programmed content).chip (volumeStart + d.cacheBlock.toNat * 4096)
        4096 = content := by
      have hlen : content.length = 4096 := length_readBytes ..
      have hself := readBytes_writeBytes_self d.chip
        (volumeStart + d.cacheBlock.toNat * 4096) content
      rwa [hlen] at hself
    unfold flashDiskFlush
    simp only [hdirty, hxip, hprogram, hread, Bool.not_true, Bool.false_eq_true, if_false]
    rw [← readBytes_volume]
    -- a block that the chip already holds is not programmed
    by_cases heq : readBytes d.volume (d.cacheBlock.toNat * 4096) 4096 = d.cacheBytes
    · rw [if_pos heq]
      exact Or.inr (Or.inl ⟨trivial, heq, rfl⟩)
    · rw [if_neg heq]
      refine Or.inr (Or.inr ⟨content, length_readBytes .., trivial, ?_⟩)
      split_ifs with hfailed
      · exact Or.inl rfl
      · rw [not_or, ne_eq, Decidable.not_not] at hfailed
        exact Or.inr ⟨hfailed.2, rfl⟩

theorem isVolumeBlock_of_lt {block : UInt32} (h : block.toNat < 3072) :
    IsVolumeBlock (flashVolumeOffset + block * flashEraseBytes) := by
  have hxip := toNat_flashXip h
  rw [flashXip] at hxip
  rw [IsVolumeBlock, hxip, volumeStart, chipEnd]
  omega

/-- A programmed block is still covered by the cache. -/
theorem FlashDisk.view_programmed (hvalid : d.cacheValid = true) {content : List UInt8}
    (hlength : content.length = 4096) : (d.programmed content).view = d.view := by
  rw [FlashDisk.view_of_valid hvalid, FlashDisk.view_of_valid (d := d.programmed content) hvalid,
    FlashDisk.volume_programmed]
  exact writeBytes_writeBytes_of_length (hlength.trans (length_cacheBytes d).symm)

theorem FlashDisk.Inv.programmed (h : d.Inv) (hdirty : d.cacheDirty = true)
    (content : List UInt8) : (d.programmed content).Inv := by
  have hvalid := h.valid_of_dirty hdirty
  refine ⟨h.valid_of_dirty, h.block_lt, fun hclean => absurd (hdirty.symm.trans hclean) (by simp),
    fun offset hoffset => ?_⟩
  rcases List.mem_append.mp hoffset with hoffset | hoffset
  · exact h.issued offset hoffset
  · rw [List.mem_singleton.mp hoffset]
    exact isVolumeBlock_of_lt (h.block_lt hvalid)

/-- A flush leaves the view alone; when it succeeds, nothing is left to write back. -/
theorem flashDiskFlush_spec (env : FlashEnv) (h : d.Inv) :
    (flashDiskFlush env d).2.Inv ∧ (flashDiskFlush env d).2.view = d.view ∧
      ((flashDiskFlush env d).1 = true → (flashDiskFlush env d).2.cacheDirty = false) := by
  rcases flashDiskFlush_cases env h with
    ⟨hclean, heq⟩ | ⟨hdirty, hsame, heq⟩ | ⟨content, hlength, hdirty, heq | ⟨hcontent, heq⟩⟩
  · rw [heq]
    exact ⟨h, rfl, fun _ => hclean⟩
  · rw [heq]
    exact ⟨⟨nofun, h.block_lt, fun _ _ => hsame, h.issued⟩, rfl, fun _ => rfl⟩
  · rw [heq]
    have hp := h.programmed hdirty content
    exact ⟨⟨hp.valid_of_dirty, hp.block_lt, hp.clean, hp.issued⟩,
      FlashDisk.view_programmed (h.valid_of_dirty hdirty) hlength, nofun⟩
  · rw [heq]
    have hp := h.programmed hdirty content
    refine ⟨⟨nofun, hp.block_lt, fun _ _ => ?_, hp.issued⟩,
      FlashDisk.view_programmed (h.valid_of_dirty hdirty) hlength, fun _ => rfl⟩
    change readBytes (d.programmed content).volume (d.cacheBlock.toNat * 4096) 4096
      = d.cacheBytes
    rw [FlashDisk.volume_programmed, ← hlength, readBytes_writeBytes_self, hcontent]

/-! ### Reads -/

/-- The numbers that a sector is split into. -/
theorem toNat_sector {sector : UInt32} (h : sector.toNat < 24576) :
    (sector * flashSectorBytes).toNat = sector.toNat * 512 ∧
      (sector * flashSectorBytes / flashEraseBytes).toNat
        = sector.toNat * 512 / 4096 ∧
      (sector * flashSectorBytes % flashEraseBytes).toNat
        = sector.toNat * 512 % 4096 := by
  have h512 : flashSectorBytes.toNat = 512 := rfl
  have h4096 : flashEraseBytes.toNat = 4096 := rfl
  have hmul : (sector * flashSectorBytes).toNat = sector.toNat * 512 := by
    rw [UInt32.toNat_mul, h512]
    omega
  rw [UInt32.toNat_div, UInt32.toNat_mod, hmul, h4096]
  exact ⟨rfl, rfl, rfl⟩

theorem diskReadSector_eq {sector : UInt32} (hsector : sector.toNat < 24576) :
    diskReadSector d sector = readBytes d.view (sector.toNat * 512) 512 := by
  obtain ⟨hbyte, hblock, hwithin⟩ := toNat_sector hsector
  have hxip : flashXip (sector * flashSectorBytes) = volumeStart + sector.toNat * 512 := by
    have h4 : flashVolumeOffset.toNat = 4194304 := rfl
    rw [flashXip, UInt32.toNat_add, hbyte, h4, volumeStart]
    omega
  rw [diskReadSector]
  split_ifs with hcached
  · obtain ⟨hvalid, heq⟩ := hcached
    have hbase : d.cacheBlock.toNat * 4096 + sector.toNat * 512 % 4096
        = sector.toNat * 512 := by
      rw [heq, hblock]
      omega
    rw [FlashDisk.view_of_valid hvalid, hwithin, ← hbase, cacheBytes_eq,
      readBytes_writeBytes_readBytes _ _ (by omega), Nat.zero_add]
    rw [hbase]
  · rw [hxip, ← readBytes_volume, FlashDisk.view]
    split_ifs with hvalid
    · have hne : d.cacheBlock.toNat ≠ sector.toNat * 512 / 4096 := by
        rw [← hblock]
        exact fun heq => hcached ⟨hvalid, UInt32.toNat_inj.mp heq⟩
      refine (readBytes_writeBytes_of_disjoint ?_).symm
      rw [length_cacheBytes]
      omega
    · rfl

theorem flatMap_readBytes (v : ByteMap) (a n : ℕ) :
    ((List.range n).flatMap fun i => readBytes v (a + i * 512) 512)
      = readBytes v a (n * 512) := by
  induction n with
  | zero => rw [Nat.zero_mul]; rfl
  | succ n ih =>
    rw [List.range_succ, List.flatMap_append, ih, List.flatMap_singleton, Nat.succ_mul,
      readBytes_add]

theorem lbaRangeValid_iff {sector count : UInt32} :
    lbaRangeValid sector count = true ↔ count ≠ 0 ∧ sector.toNat < 24576 ∧
      sector.toNat + count.toNat ≤ 24576 := by
  have hsectors : flashVolumeSectors.toNat = 24576 := by decide
  simp only [lbaRangeValid, Bool.and_eq_true, decide_eq_true_eq, UInt32.lt_iff_toNat_lt,
    UInt32.le_iff_toNat_le, hsectors, and_assoc]
  refine and_congr_right fun _ => and_congr_right fun hlt => ?_
  rw [UInt32.toNat_sub_of_le _ _ (UInt32.le_iff_toNat_le.mpr (by omega)), hsectors]
  omega

/-- **A read is a read of the view.** -/
theorem diskRead_spec (d : FlashDisk) (pdrv : UInt8) (buffer : Bool) (sector count : UInt32) :
    diskRead pdrv buffer sector count d = (.parameterError, []) ∨
      diskRead pdrv buffer sector count d
        = (.ok, readBytes d.view (sector.toNat * 512) (count.toNat * 512)) := by
  rw [diskRead]
  split_ifs with hbad
  · exact Or.inl rfl
  · refine Or.inr (Prod.ext rfl ?_)
    simp only [not_or, Bool.not_eq_true, Bool.not_eq_false'] at hbad
    obtain ⟨-, -, -, hrange⟩ := hbad
    obtain ⟨-, hsector, hend⟩ := lbaRangeValid_iff.mp hrange
    rw [← flatMap_readBytes, List.flatMap_def, List.flatMap_def]
    refine congrArg List.flatten (List.map_congr_left fun i hi => ?_)
    have hi := List.mem_range.mp hi
    have hnext : (sector + UInt32.ofNat i).toNat = sector.toNat + i := by
      rw [UInt32.toNat_add, UInt32.toNat_ofNat']
      omega
    rw [diskReadSector_eq (by omega), hnext, Nat.add_mul]

/-! ### Writes -/

/-- The disk after a block has been loaded into the cache. -/
def FlashDisk.loaded (d : FlashDisk) (block : UInt32) : FlashDisk :=
  { d with
    cache := writeBytes d.cache 0 (readBytes d.chip (flashXip (block * flashEraseBytes)) 4096)
    cacheBlock := block
    cacheValid := true }

theorem FlashDisk.volume_loaded (d : FlashDisk) (block : UInt32) :
    (d.loaded block).volume = d.volume := by
  funext i
  simp only [FlashDisk.volume, FlashDisk.loaded]

theorem FlashDisk.cacheBytes_loaded (d : FlashDisk) {block : UInt32} (h : block.toNat < 3072) :
    (d.loaded block).cacheBytes = readBytes d.volume (block.toNat * 4096) 4096 := by
  have hself := readBytes_writeBytes_self d.cache 0
    (readBytes d.volume (block.toNat * 4096) 4096)
  rw [length_readBytes] at hself
  simp only [cacheBytes_eq, FlashDisk.loaded, toNat_flashXip h, ← readBytes_volume, hself]

/-- Loading a block over a clean one leaves the view alone. -/
theorem FlashDisk.Inv.loaded (h : d.Inv) (hclean : d.cacheDirty = false) {block : UInt32}
    (hblock : block.toNat < 3072) :
    (d.loaded block).Inv ∧ (d.loaded block).view = d.view := by
  have hbytes := d.cacheBytes_loaded hblock
  have hvolume := d.volume_loaded block
  have hdirty : (d.loaded block).cacheDirty = false := by
    simp only [FlashDisk.loaded, hclean]
  have hissued : (d.loaded block).issued = d.issued := by
    simp only [FlashDisk.loaded]
  refine ⟨⟨fun hd => absurd (hdirty.symm.trans hd) (by simp), fun _ => hblock, fun _ _ => ?_, ?_⟩,
    ?_⟩
  · rw [hbytes, hvolume]
    rfl
  · rw [hissued]
    exact h.issued
  · rw [h.view_eq_volume hclean, FlashDisk.view_of_valid rfl, hbytes, hvolume]
    exact writeBytes_readBytes d.volume (block.toNat * 4096) 4096

theorem selectCacheBlock_spec (env : FlashEnv) (h : d.Inv) {block : UInt32}
    (hblock : block.toNat < 3072) :
    (selectCacheBlock env block d).2.Inv ∧ (selectCacheBlock env block d).2.view = d.view ∧
      ((selectCacheBlock env block d).1 = true →
        (selectCacheBlock env block d).2.cacheValid = true ∧
        (selectCacheBlock env block d).2.cacheBlock = block) := by
  rw [selectCacheBlock]
  split_ifs with hcached
  · exact ⟨h, rfl, fun _ => hcached⟩
  · obtain ⟨hinv, hview, hclean⟩ := flashDiskFlush_spec env h
    rcases hflush : flashDiskFlush env d with ⟨_ | _, d'⟩ <;> rw [hflush] at hinv hview hclean
    · exact ⟨hinv, hview, nofun⟩
    · obtain ⟨hinv', hview'⟩ := hinv.loaded (hclean rfl) hblock
      exact ⟨hinv', hview'.trans hview, fun _ => ⟨rfl, rfl⟩⟩

/-- The disk after bytes have been put in the cache. -/
def FlashDisk.cacheWrite (d : FlashDisk) (within : ℕ) (data : List UInt8) : FlashDisk :=
  { d with cache := writeBytes d.cache within data, cacheDirty := true }

theorem FlashDisk.view_cacheWrite (hvalid : d.cacheValid = true) {within : ℕ} {data : List UInt8}
    (hfits : within + data.length ≤ 4096) :
    (d.cacheWrite within data).view
      = writeBytes d.view (d.cacheBlock.toNat * 4096 + within) data := by
  rw [FlashDisk.view_of_valid hvalid,
    FlashDisk.view_of_valid (d := d.cacheWrite within data) hvalid]
  exact (writeBytes_writeBytes_readBytes d.volume d.cache hfits).symm

theorem FlashDisk.Inv.cacheWrite (h : d.Inv) (hvalid : d.cacheValid = true) (within : ℕ)
    (data : List UInt8) : (d.cacheWrite within data).Inv :=
  ⟨fun _ => hvalid, h.block_lt, nofun, h.issued⟩

/-- The loop of `disk_write` stores sectors from the first one on, all of them when it succeeds. -/
theorem diskWriteLoop_spec (env : FlashEnv) (buffer : ByteMap) (sector : UInt32) (left : ℕ)
    (i : UInt32) (h : d.Inv) (hend : sector.toNat + i.toNat + left ≤ 24576) :
    (diskWriteLoop env buffer sector left i d).2.Inv ∧
      ∃ k, (diskWriteLoop env buffer sector left i d).2.view
          = writeBytes d.view ((sector.toNat + i.toNat) * 512)
            (readBytes buffer (i.toNat * 512) (k * 512)) ∧
        (((diskWriteLoop env buffer sector left i d).1 = .ok ∧ k = left) ∨
          ((diskWriteLoop env buffer sector left i d).1 = .error ∧ k < left)) := by
  -- on the sectors that are left; `k` of them are stored before the loop ends
  induction left generalizing i d with
  | zero =>
    refine ⟨h, 0, ?_, Or.inl ⟨rfl, rfl⟩⟩
    rw [Nat.zero_mul]
    exact (writeBytes_nil ..).symm
  | succ left ih =>
    -- no 32-bit sum or product of the loop wraps inside the volume
    have hsum : (sector + i).toNat = sector.toNat + i.toNat := by
      rw [UInt32.toNat_add]
      omega
    obtain ⟨hbyte, hblock, hwithin⟩ := @toNat_sector (sector + i) (by omega)
    obtain ⟨hinv, hview, hselected⟩ := @selectCacheBlock_spec d env h
      ((sector + i) * flashSectorBytes / flashEraseBytes) (by omega)
    rw [diskWriteLoop]
    rcases hselect : selectCacheBlock env ((sector + i) * flashSectorBytes / flashEraseBytes) d
      with ⟨_ | _, d'⟩ <;> rw [hselect] at hinv hview hselected
    -- the flush of the block that was cached before has failed
    · refine ⟨hinv, 0, ?_, Or.inr ⟨rfl, Nat.succ_pos left⟩⟩
      rw [Nat.zero_mul, hview]
      exact (writeBytes_nil ..).symm
    · obtain ⟨hvalid, hcached⟩ := hselected rfl
      have hnext : (i + 1).toNat = i.toNat + 1 := by
        have h1 : (1 : UInt32).toNat = 1 := rfl
        rw [UInt32.toNat_add, h1]
        omega
      have hbuffer : (i * flashSectorBytes).toNat = i.toNat * 512 := by
        have h512 : flashSectorBytes.toNat = 512 := rfl
        rw [UInt32.toNat_mul, h512]
        omega
      set within := (sector + i) * flashSectorBytes % flashEraseBytes with hw
      set data := readBytes buffer (i.toNat * 512) 512 with hdata
      have hlength : data.length = 512 := length_readBytes ..
      -- the sector lies in the cached block, at its place of the view
      have hbase : d'.cacheBlock.toNat * 4096 + within.toNat
          = (sector.toNat + i.toNat) * 512 := by
        rw [hcached, hblock, hwithin, hsum]
        omega
      obtain ⟨hinv', k, hview', hresult⟩ := ih (d := d'.cacheWrite within.toNat data) (i + 1)
        (hinv.cacheWrite hvalid _ _) (by omega)
      rw [FlashDisk.view_cacheWrite hvalid (by omega), hbase, hview, hnext] at hview'
      simp only [hbuffer]
      refine ⟨hinv', k + 1, ?_, ?_⟩
      -- the sectors of the other rounds follow this one
      · refine hview'.trans ?_
        have hnext₁ : (sector.toNat + (i.toNat + 1)) * 512
            = (sector.toNat + i.toNat) * 512 + 512 := by omega
        have hnext₂ : (i.toNat + 1) * 512 = i.toNat * 512 + 512 := Nat.succ_mul i.toNat 512
        rw [Nat.succ_mul k, Nat.add_comm (k * 512), readBytes_add, ← hdata,
          ← writeBytes_writeBytes_append, hlength]
        simp only [hnext₁, hnext₂]
      · rcases hresult with ⟨hok, hk⟩ | ⟨herror, hk⟩
        · exact Or.inl ⟨hok, by omega⟩
        · exact Or.inr ⟨herror, by omega⟩

/-! ### Calls -/

theorem diskWrite_spec (env : FlashEnv) (h : d.Inv) (pdrv : UInt8) (buffer : Option ByteMap)
    (sector count : UInt32) :
    (diskWrite env pdrv buffer sector count d).2.Inv ∧
      SectorArray d.view (.write pdrv buffer sector count)
        (.write (diskWrite env pdrv buffer sector count d).1)
        (diskWrite env pdrv buffer sector count d).2.view := by
  cases buffer with
  | none => exact ⟨h, .writeRefused ..⟩
  | some buffer =>
    rw [diskWrite]
    split_ifs with hbad
    · exact ⟨h, .writeRefused ..⟩
    · simp only [not_or, Bool.not_eq_true, Bool.not_eq_false'] at hbad
      obtain ⟨-, -, hrange⟩ := hbad
      obtain ⟨-, -, hend⟩ := lbaRangeValid_iff.mp hrange
      have h0 : (0 : UInt32).toNat = 0 := rfl
      obtain ⟨hinv, k, hview, hresult⟩ :=
        diskWriteLoop_spec env buffer sector count.toNat 0 h (by omega)
      rw [h0, Nat.add_zero, Nat.zero_mul] at hview
      refine ⟨hinv, ?_⟩
      rw [hview]
      rcases hresult with ⟨hok, rfl⟩ | ⟨herror, hk⟩
      · rw [hok]
        exact .write ..
      · rw [herror]
        exact .writeFailed _ _ _ _ _ k hk

theorem diskIoctl_spec (env : FlashEnv) (h : d.Inv) (pdrv : UInt8) (command : DiskCommand)
    (buffer : Bool) :
    (diskIoctl env pdrv command buffer d).2.Inv ∧
      (diskIoctl env pdrv command buffer d).2.view = d.view := by
  unfold diskIoctl
  by_cases hbad : pdrv ≠ flashDrive ∨ !d.diskInitialized
  · rw [if_pos hbad]
    exact ⟨h, rfl⟩
  · rw [if_neg hbad]
    obtain ⟨hinv, hview, -⟩ := flashDiskFlush_spec env h
    cases command with
    | ctrlSync => exact ⟨hinv, hview⟩
    | _ => exact ⟨h, rfl⟩

theorem diskCall_spec (env : FlashEnv) (h : d.Inv) (op : DiskOp) :
    (diskCall env d op).2.Inv ∧
      SectorArray d.view op (diskCall env d op).1 (diskCall env d op).2.view := by
  cases op with
  | init pdrv =>
    rw [diskCall, diskInitialize]
    split_ifs
    · exact ⟨h, .init ..⟩
    · exact ⟨⟨h.valid_of_dirty, h.block_lt, h.clean, h.issued⟩, .init ..⟩
  | status pdrv => exact ⟨h, .status ..⟩
  | read pdrv buffer sector count =>
    refine ⟨h, ?_⟩
    rw [diskCall]
    rcases diskRead_spec d pdrv buffer sector count with heq | heq <;> rw [heq]
    · exact .readRefused ..
    · exact .read ..
  | write pdrv buffer sector count => exact diskWrite_spec env h pdrv buffer sector count
  | ioctl pdrv command buffer =>
    obtain ⟨hinv, hview⟩ := diskIoctl_spec env h pdrv command buffer
    refine ⟨hinv, ?_⟩
    rw [diskCall, hview]
    exact .ioctl ..
  | flush =>
    obtain ⟨hinv, hview, -⟩ := flashDiskFlush_spec env h
    refine ⟨hinv, ?_⟩
    rw [diskCall, hview]
    exact .flush ..

/-- A call that has written the cache back leaves the view in the chip. -/
theorem volume_of_flushed (env : FlashEnv) (h : d.Inv) {op : DiskOp}
    (hflushed : Flushed op (diskCall env d op).1) : (diskCall env d op).2.volume = d.view := by
  obtain ⟨hinv, hview, hclean⟩ := flashDiskFlush_spec env h
  cases op with
  | flush =>
    have hclean := hclean hflushed
    exact (hinv.view_eq_volume hclean).symm.trans hview
  | ioctl pdrv command buffer =>
    cases command with
    | ctrlSync =>
      rw [diskCall, diskIoctl] at hflushed ⊢
      by_cases hbad : pdrv ≠ flashDrive ∨ !d.diskInitialized
      · rw [if_pos hbad] at hflushed
        cases hflushed
      · rw [if_neg hbad] at hflushed ⊢
        cases hflush : (flashDiskFlush env d).1 with
        | true => exact (hinv.view_eq_volume (hclean hflush)).symm.trans hview
        | false =>
          simp only [Flushed, hflush] at hflushed
          cases hflushed
    | _ => exact hflushed.elim
  | _ => exact hflushed.elim

theorem flashDiskReset_inv (chip : ByteMap) : (flashDiskReset chip).Inv :=
  ⟨nofun, nofun, nofun, nofun⟩

end

/-- **The sector cache is transparent.**  From `disk_initialize` on, whatever the erase and program
requests do to their block, the calls are answered as by a flat array of sectors that starts with
the content of the chip; a call that reports the cache written back leaves that array in the
chip; and requests are only issued for erase blocks of the volume. -/
theorem sector_cache_transparent (env : FlashEnv) (chip : ByteMap) (ops : List DiskOp) :
    let start := (diskInitialize flashDrive (flashDiskReset chip)).2
    ∃ v, Allowed SectorArray (fun i => chip (volumeStart + i)) (answers (diskCall env) start ops)
        v ∧
      (∀ op, Flushed op (diskCall env (diskRun env start ops) op).1 →
        ∀ i, (diskCall env (diskRun env start ops) op).2.chip (volumeStart + i) = v i) ∧
      ∀ offset ∈ (diskRun env start ops).issued,
        offset.toNat % 4096 = 0 ∧ volumeStart ≤ offset.toNat ∧ offset.toNat + 4096 ≤ chipEnd := by
  intro start
  have hstart := (diskCall_spec env (flashDiskReset_inv chip) (.init flashDrive)).1
  have hstep : ∀ (d : FlashDisk) (v : ByteMap) (op : DiskOp), d.Inv ∧ d.view = v →
      ∃ v', SectorArray v op (diskCall env d op).1 v' ∧
        (diskCall env d op).2.Inv ∧ (diskCall env d op).2.view = v' := by
    rintro d _ op ⟨hinv, rfl⟩
    obtain ⟨hinv', hspec⟩ := diskCall_spec env hinv op
    exact ⟨_, hspec, hinv', rfl⟩
  obtain ⟨v, hallowed, hinv, hview⟩ := allowed_answers hstep ops ⟨hstart, rfl⟩
  refine ⟨v, hallowed, fun op hflushed i => ?_, hinv.issued⟩
  have hvolume := volume_of_flushed env hinv hflushed
  rw [hview] at hvolume
  exact congrFun hvolume i

/-- The disk over an erased chip. -/
def erasedDisk : FlashDisk := (diskInitialize flashDrive (flashDiskReset fun _ => 0xFF)).2

/-- A chip on which every request fails and leaves zeros in its block. -/
def failingChip : FlashEnv := fun _ => ⟨false, fun _ => 0⟩

/-- A sector is written, cannot be flushed, and is read again. -/
def failedFlushRun : List DiskOp :=
  [.write flashDrive (some fun _ => 0x5A) 8 1, .flush, .read flashDrive true 8 1]

theorem sector_cache_transparent_erasedDisk :
    (∃ v, Allowed SectorArray (fun _ => 0xFF)
        (answers (diskCall failingChip) erasedDisk failedFlushRun) v ∧
      (answers (diskCall failingChip) erasedDisk failedFlushRun).map Prod.snd
        = [.write .ok, .flush false, .read .ok (List.replicate 512 0x5A)] ∧
      (diskRun failingChip erasedDisk failedFlushRun).issued = [0x401000]) ∧
    Flushed (.ioctl flashDrive .ctrlSync false)
      (diskCall failingChip erasedDisk (.ioctl flashDrive .ctrlSync false)).1 ∧
    ∀ i, erasedDisk.chip (volumeStart + i) = 0xFF := by
  obtain ⟨v, hallowed, -⟩ := sector_cache_transparent failingChip (fun _ => 0xFF) failedFlushRun
  obtain ⟨_, hnothing, hflushed, -⟩ := sector_cache_transparent failingChip (fun _ => 0xFF) []
  refine ⟨⟨v, hallowed, ?_, by decide +kernel⟩, rfl, ?_⟩
  · change Allowed SectorArray _ (answers (diskCall failingChip) erasedDisk failedFlushRun) v
      at hallowed
    have hwrite : (diskCall failingChip erasedDisk (.write flashDrive (some fun _ => 0x5A) 8 1)).1
        = .write .ok := by decide +kernel
    set written := (diskCall failingChip erasedDisk
      (.write flashDrive (some fun _ => 0x5A) 8 1)).2 with hwritten
    have hflush : (diskCall failingChip written .flush).1 = .flush false := by decide +kernel
    have haccepted : (diskCall failingChip (diskCall failingChip written .flush).2
        (.read flashDrive true 8 1)).1 ≠ .read .parameterError [] := by decide +kernel
    simp only [failedFlushRun, answers, hwrite, ← hwritten, hflush] at hallowed ⊢
    generalize (diskCall failingChip (diskCall failingChip written .flush).2
      (.read flashDrive true 8 1)).1 = reply at hallowed haccepted ⊢
    -- what is read follows from the array that the two answers before it leave
    obtain _ | ⟨hstep, _ | ⟨hstep', _ | ⟨hstep'', -⟩⟩⟩ := hallowed
    cases hstep
    cases hstep'
    cases hstep'' with
    | read =>
      have hdata := readBytes_writeBytes_self (fun _ => 0xFF) (8 * 512)
        (readBytes (fun _ => 0x5A) 0 512)
      rw [length_readBytes] at hdata
      have hconst : readBytes (fun _ => 0x5A) 0 512 = List.replicate 512 0x5A := by
        rw [readBytes, List.map_const', List.length_range]
      exact congrArg (fun data => [_, _, DiskReply.read .ok data]) (hdata.trans hconst)
    | readRefused => exact absurd rfl haccepted
  · cases hnothing
    exact hflushed (.ioctl flashDrive .ctrlSync false) rfl

end Rp86
