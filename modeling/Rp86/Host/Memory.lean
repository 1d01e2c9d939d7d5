import Rp86.Host.Protocol

/-!
# The Host's memory and mailbox requests

The record builders of `host/rp86/memory.py` and `host/rp86/mailbox.py`: a write of any length is
cut into records of at most 40 bytes, and a mailbox request is three such writes, of which the last
hands the page over.
-/

namespace Rp86.Host

open Lib

def internalSramProcessorBase : ℤ := 0x00000
def internalSramProcessorSize : ℤ := 256 * 1024

def memoryEnd : ℤ := internalSramProcessorBase + internalSramProcessorSize

/-- `_address`. -/
def checkAddress (value : ℤ) : Except HostError ℤ :=
  if internalSramProcessorBase ≤ value ∧ value < memoryEnd then .ok value
  else .error (.valueError "Internal SRAM address must be within 0x00000-0x3FFFF")

def memoryWriteLoop (address : ℤ) (data : List UInt8) (offset : ℕ) (sequence : ℤ) :
    Except HostError (List Message) :=
  if offset < data.length then do
    let chunk := (data.drop offset).take memoryDataBytes
    let header ← structPack [(1, memoryWrite), (3, 0), (4, address + offset), (4, chunk.length)]
    let message : Message :=
      { messageType := typeMemoryRequest, sequence := sequence, payload := header ++ chunk }
    let records ← memoryWriteLoop address data (offset + chunk.length) (nextSequence sequence)
    return message :: records
  else return []
termination_by data.length - offset
decreasing_by
  simp only [List.length_take, List.length_drop, memoryDataBytes]
  omega

def memoryWriteRecords (address : ℤ) (data : List UInt8) (firstSequence : ℤ) :
    Except HostError (List Message) := do
  let _ ← checkAddress address
  if data = [] ∨ address + data.length > memoryEnd then
    throw (.valueError "memory write is empty or outside Internal SRAM")
  memoryWriteLoop address data 0 firstSequence

/-! ### Mailbox -/

def mailboxBase : ℤ := 0x3F000
/-- `MAILBOX_DATA_OFFSET`, which is the size of the header. -/
def mailboxDataOffset : ℤ := 32
def mailboxDataSize : ℕ := 0x1000 - 32
/-- `MAILBOX_MAGIC`, "R86M". -/
def mailboxMagic : List UInt8 := [0x52, 0x38, 0x36, 0x4D]
def mailboxVersion : ℤ := 1
def ownerHost : ℤ := 1
def ownerProcessor : ℤ := 2
def statusRequestReady : ℤ := 1

/-- The sequence that follows the last record, `records[-1]`. -/
def followingSequence (records : List Message) : Except HostError ℤ :=
  match records.getLast? with
  | some record => .ok (nextSequence record.sequence)
  | none => .error .indexError

def mailboxCommitRecords (data : List UInt8) (generation firstSequence : ℤ) :
    Except HostError (List Message) := do
  if data = [] ∨ data.length > mailboxDataSize then
    throw (.valueError "mailbox request must contain 1-4064 bytes")
  -- the owner stays HOST while data and metadata change; the last write is the publication
  let fields ← structPack [(2, mailboxVersion), (2, mailboxDataOffset), (2, ownerHost),
    (2, statusRequestReady), (4, generation), (2, data.length), (2, 0), (4, 0), (4, 0), (4, 0)]
  let records ← memoryWriteRecords (mailboxBase + mailboxDataOffset) data firstSequence
  let sequence ← followingSequence records
  let headerRecords ← memoryWriteRecords mailboxBase (mailboxMagic ++ fields) sequence
  let records := records ++ headerRecords
  let sequence ← followingSequence records
  let owner ← structPack [(2, ownerProcessor)]
  let ownerRecords ← memoryWriteRecords (mailboxBase + 8) owner sequence
  return records ++ ownerRecords

end Rp86.Host
