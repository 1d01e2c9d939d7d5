import Rp86.Memory.Equiv.Backing
import Rp86.Memory.SharedMailbox

/-!
# The mailbox page

What `rp86_shared_mailbox_init` writes, and that a header is read back from its packed bytes.
-/

namespace Rp86

open Lib

theorem SharedMailboxHeader.ofBytes_toBytes (h : SharedMailboxHeader) :
    SharedMailboxHeader.ofBytes h.toBytes = h := by
  obtain ⟨magic, version, headerSize, owner, status, generation, requestLength, responseLength,
    flags, reserved0, reserved1⟩ := h
  have hlast := le32_leBytes reserved1.toNat []
  rw [List.append_nil] at hlast
  simp [SharedMailboxHeader.ofBytes, SharedMailboxHeader.toBytes, le32_leBytes, le16_leBytes,
    le32_append_of_le, le16_append_of_le, hlast]

theorem SharedMailboxHeader.length_toBytes (h : SharedMailboxHeader) : h.toBytes.length = 32 := by
  simp [SharedMailboxHeader.toBytes]

/-- The header in the storage of Internal SRAM. -/
def Backing.mailboxHeader (backing : Backing) : SharedMailboxHeader :=
  SharedMailboxHeader.ofBytes (readBytes backing.storage 0x3F000 sharedMailboxDataOffset)

/-- The Host owns the page exactly if the header is well formed and says so. -/
theorem sharedMailboxHostOwned_iff {backing : Backing} (hgeometry : backing.IsInternalSram) :
    sharedMailboxHostOwned backing = true ↔
      backing.mailboxHeader.magic = sharedMailboxMagic ∧
      backing.mailboxHeader.version = sharedMailboxVersion ∧
      backing.mailboxHeader.headerSize = UInt16.ofNat sharedMailboxDataOffset ∧
      backing.mailboxHeader.owner = sharedMailboxOwnerHost := by
  have hvalid : memoryBackingRangeValid backing sharedMailboxBase sharedMailboxDataOffset
      = true := by
    rw [hgeometry.rangeValid]
    rfl
  have hoffset : backing.offset sharedMailboxBase = 0x3F000 := hgeometry.offset sharedMailboxBase
  rw [sharedMailboxHostOwned, memoryBackingRead_of_valid hvalid, hoffset]
  simp [and_assoc, Backing.mailboxHeader]

theorem sharedMailboxInit_eq_some {backing backing' : Backing}
    (h : sharedMailboxInit backing = some backing') :
    memoryBackingRangeValid backing sharedMailboxBase sharedMailboxSize.toNat = true ∧
      backing' = { backing with
        storage := writeBytes
          (fillBytes backing.storage (backing.offset sharedMailboxBase) 0 sharedMailboxSize.toNat)
          (backing.offset sharedMailboxBase) sharedMailboxInitHeader.toBytes } := by
  unfold sharedMailboxInit memoryBackingFill at h
  cases hv : memoryBackingRangeValid backing sharedMailboxBase sharedMailboxSize.toNat with
  | false => simp [hv] at h
  | true =>
    simp only [hv, Bool.not_true, Bool.false_eq_true, ↓reduceIte, Option.bind_eq_bind,
      Option.bind_some] at h
    rw [Option.bind_eq_some_iff] at h
    obtain ⟨written, hw, hp⟩ := h
    obtain ⟨-, rfl⟩ := memoryBackingWrite_eq_some hw
    simp only [memoryBackingPublish, Backing.offset, Option.pure_def, Option.some.injEq] at hp
    exact ⟨rfl, by rw [← hp, Backing.offset]⟩

theorem sharedMailboxInit_sameGeometry {backing backing' : Backing}
    (h : sharedMailboxInit backing = some backing') : SameGeometry backing backing' := by
  obtain ⟨-, rfl⟩ := sharedMailboxInit_eq_some h
  exact ⟨rfl, rfl, rfl⟩

theorem sharedMailboxInit_frame {backing backing' : Backing}
    (h : sharedMailboxInit backing = some backing') {i : ℕ}
    (hi : ¬ (0x3F000 ≤ backing.processorBase.toNat + i ∧
      backing.processorBase.toNat + i < 0x40000)) :
    backing'.storage i = backing.storage i := by
  obtain ⟨hv, rfl⟩ := sharedMailboxInit_eq_some h
  obtain ⟨-, hbase, -⟩ := memoryBackingRangeValid_iff.mp hv
  have hbase' := UInt32.le_iff_toNat_le.mp hbase
  have hoff : backing.offset sharedMailboxBase = 0x3F000 - backing.processorBase.toNat :=
    UInt32.toNat_sub_of_le _ _ hbase
  have hmb : sharedMailboxBase.toNat = 0x3F000 := rfl
  have hms : sharedMailboxSize.toNat = 0x1000 := rfl
  have hlen : sharedMailboxInitHeader.toBytes.length = 32 := by decide
  simp only
  rw [writeBytes_of_not_mem (by omega), fillBytes_of_not_mem (by omega)]

end Rp86
