import Rp86.Memory.Backing
import Rp86.Lib.LittleEndian

/-!
# Shared mailbox

`memory/shared_mailbox.c`: the page at the top of Internal SRAM whose header carries the owner of
the page.  `owner` is the commit word: the current owner writes every other field and the data
area first, then transfers ownership with one final word write.
-/

namespace Rp86

open Lib

def sharedMailboxBase : UInt32 := 0x3F000
def sharedMailboxSize : UInt32 := 0x1000
/-- `RP86_SHARED_MAILBOX_DATA_OFFSET`, which is the size of the header. -/
def sharedMailboxDataOffset : ℕ := 32
/-- `RP86_SHARED_MAILBOX_MAGIC`, "R86M". -/
def sharedMailboxMagic : UInt32 := 0x4D363852
def sharedMailboxVersion : UInt16 := 1
def sharedMailboxOwnerHost : UInt16 := 1
def sharedMailboxOwnerProcessor : UInt16 := 2
def sharedMailboxEmpty : UInt16 := 0
def sharedMailboxRequestReady : UInt16 := 1

structure SharedMailboxHeader where
  magic : UInt32
  version : UInt16
  headerSize : UInt16
  owner : UInt16
  status : UInt16
  generation : UInt32
  requestLength : UInt16
  responseLength : UInt16
  flags : UInt32
  reserved0 : UInt32
  reserved1 : UInt32
  deriving DecidableEq, Repr

def SharedMailboxHeader.toBytes (h : SharedMailboxHeader) : List UInt8 :=
  leBytes 4 h.magic.toNat ++ leBytes 2 h.version.toNat ++ leBytes 2 h.headerSize.toNat ++
  leBytes 2 h.owner.toNat ++ leBytes 2 h.status.toNat ++ leBytes 4 h.generation.toNat ++
  leBytes 2 h.requestLength.toNat ++ leBytes 2 h.responseLength.toNat ++
  leBytes 4 h.flags.toNat ++ leBytes 4 h.reserved0.toNat ++ leBytes 4 h.reserved1.toNat

def SharedMailboxHeader.ofBytes (l : List UInt8) : SharedMailboxHeader where
  magic := le32 l 0
  version := le16 l 4
  headerSize := le16 l 6
  owner := le16 l 8
  status := le16 l 10
  generation := le32 l 12
  requestLength := le16 l 16
  responseLength := le16 l 18
  flags := le32 l 20
  reserved0 := le32 l 24
  reserved1 := le32 l 28

def sharedMailboxInitHeader : SharedMailboxHeader where
  magic := sharedMailboxMagic
  version := sharedMailboxVersion
  headerSize := UInt16.ofNat sharedMailboxDataOffset
  owner := sharedMailboxOwnerHost
  status := sharedMailboxEmpty
  generation := 0
  requestLength := 0
  responseLength := 0
  flags := 0
  reserved0 := 0
  reserved1 := 0

def sharedMailboxInit (backing : Backing) : Option Backing := do
  let filled ← memoryBackingFill backing sharedMailboxBase 0 sharedMailboxSize.toNat
  let written ← memoryBackingWrite filled sharedMailboxBase sharedMailboxInitHeader.toBytes
  return memoryBackingPublish written

def sharedMailboxHostOwned (backing : Backing) : Bool :=
  match memoryBackingRead backing sharedMailboxBase sharedMailboxDataOffset with
  | none => false
  | some bytes =>
    let header := SharedMailboxHeader.ofBytes bytes
    header.magic == sharedMailboxMagic && header.version == sharedMailboxVersion &&
      header.headerSize == UInt16.ofNat sharedMailboxDataOffset &&
      header.owner == sharedMailboxOwnerHost

end Rp86
