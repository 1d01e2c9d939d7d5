import Mathlib.Data.Int.Bitwise
import Rp86.Host.Protocol
import Rp86.Workload.Crc32

/-!
# The Host's workload format and upload

`host/rp86/workload.py`: the manifest with its checks over unbounded integers, the workload file and
the records of an upload.  `zlib.crc32` is `crc32`.
-/

namespace Rp86.Host

open Lib

def magic : ℤ := 0x57363850
def formatVersion : ℤ := 1
def processorAddressSpaceSize : ℤ := 0x100000
def manifestSize : ℤ := 40
def dataBytes : ℕ := 52 - 8
def flagPersistent : ℤ := 1
def flagStdio : ℤ := 2
def flagSharedMemory : ℤ := 4
def flagClockFreeRunning : ℤ := 8
def flagClockStepped : ℤ := 16
def flagPeriodicTick : ℤ := 32

def knownFlags : ℤ :=
  Int.lor (Int.lor (Int.lor (Int.lor (Int.lor flagPersistent flagStdio) flagSharedMemory)
    flagClockFreeRunning) flagClockStepped) flagPeriodicTick

def linear (segment offset : ℤ) : Except HostError ℤ :=
  if ¬ (0 ≤ segment ∧ segment ≤ 0xFFFF) ∨ ¬ (0 ≤ offset ∧ offset ≤ 0xFFFF) then
    .error (.valueError "segment and offset must be 16-bit values")
  else if segment * 16 + offset ≥ processorAddressSpaceSize then
    .error (.valueError "segment:offset is outside the 20-bit processor address space")
  else .ok (segment * 16 + offset)

structure WorkloadManifest where
  imageSize : ℤ
  imageCrc32 : ℤ
  loadAddress : ℤ
  entrySegment : ℤ
  entryOffset : ℤ
  stackSegment : ℤ := 0
  stackOffset : ℤ := 0
  sharedBase : ℤ := 0
  sharedSize : ℤ := 0
  flags : ℤ := 0
  deriving DecidableEq, Repr

def WorkloadManifest.has (m : WorkloadManifest) (flag : ℤ) : Bool := Int.land m.flags flag ≠ 0

def WorkloadManifest.validated (m : WorkloadManifest) : Except HostError WorkloadManifest := do
  if m.imageSize ≤ 0 then throw (.valueError "workload image is empty")
  if ¬ (0 ≤ m.imageCrc32 ∧ m.imageCrc32 ≤ 0xFFFFFFFF) then
    throw (.valueError "image CRC is not a 32-bit value")
  if ¬ (0 ≤ m.loadAddress ∧ m.loadAddress < processorAddressSpaceSize) then
    throw (.valueError "load address is outside the 20-bit processor address space")
  let imageEnd := m.loadAddress + m.imageSize
  if imageEnd > processorAddressSpaceSize then
    throw (.valueError "workload image crosses the 20-bit processor address-space limit")
  let entry ← linear m.entrySegment m.entryOffset
  if ¬ (m.loadAddress ≤ entry ∧ entry < imageEnd) then
    throw (.valueError "entry point is outside the workload image")
  let _ ← linear m.stackSegment m.stackOffset
  if m.sharedSize ≠ 0 then
    if ¬ (0 ≤ m.sharedBase ∧ m.sharedBase < processorAddressSpaceSize) then
      throw (.valueError "shared-memory base is outside the 20-bit processor address space")
    if m.sharedBase + m.sharedSize > processorAddressSpaceSize then
      throw (.valueError "shared-memory range crosses the 20-bit processor address-space limit")
    if ¬ m.has flagSharedMemory then
      throw (.valueError "shared-memory range requires FLAG_SHARED_MEMORY")
  else if m.sharedBase ≠ 0 ∨ m.has flagSharedMemory then
    throw (.valueError "shared-memory flag, base, and size are inconsistent")
  if m.has (Int.lnot knownFlags) then throw (.valueError "workload uses unknown flags")
  if m.has flagClockFreeRunning ∧ m.has flagClockStepped then
    throw (.valueError "workload requests two execution clock modes")
  if m.has flagPeriodicTick ∧ ¬ m.has flagClockStepped then
    throw (.valueError "periodic tick currently requires clock-stepped execution")
  return m

def WorkloadManifest.encode (m : WorkloadManifest) : Except HostError (List UInt8) := do
  let _ ← m.validated
  structPack [(4, magic), (2, formatVersion), (2, manifestSize), (4, m.imageSize),
    (4, m.imageCrc32), (4, m.loadAddress), (2, m.entrySegment), (2, m.entryOffset),
    (2, m.stackSegment), (2, m.stackOffset), (4, m.sharedBase), (4, m.sharedSize), (4, m.flags)]

def WorkloadManifest.decode (encoded : List UInt8) : Except HostError WorkloadManifest := do
  if (encoded.length : ℤ) ≠ manifestSize then
    throw (.valueError "workload manifest has the wrong size")
  if ((le32 encoded 0).toNat : ℤ) ≠ magic ∨ ((le16 encoded 4).toNat : ℤ) ≠ formatVersion ∨
      ((le16 encoded 6).toNat : ℤ) ≠ manifestSize then
    throw (.valueError "unsupported workload manifest")
  let fields : WorkloadManifest :=
    { imageSize := (le32 encoded 8).toNat
      imageCrc32 := (le32 encoded 12).toNat
      loadAddress := (le32 encoded 16).toNat
      entrySegment := (le16 encoded 20).toNat
      entryOffset := (le16 encoded 22).toNat
      stackSegment := (le16 encoded 24).toNat
      stackOffset := (le16 encoded 26).toNat
      sharedBase := (le32 encoded 28).toNat
      sharedSize := (le32 encoded 32).toNat
      flags := (le32 encoded 36).toNat }
  fields.validated

def encodeWorkloadFile (manifest : WorkloadManifest) (image : List UInt8) :
    Except HostError (List UInt8) := do
  let _ ← manifest.validated
  if (image.length : ℤ) ≠ manifest.imageSize ∨ ((crc32 image).toNat : ℤ) ≠ manifest.imageCrc32 then
    throw (.valueError "image does not match its workload manifest")
  return (← manifest.encode) ++ image

def decodeWorkloadFile (encoded : List UInt8) :
    Except HostError (WorkloadManifest × List UInt8) := do
  if (encoded.length : ℤ) < manifestSize then throw (.valueError "workload file is truncated")
  let manifest ← WorkloadManifest.decode (encoded.take manifestSize.toNat)
  let image := encoded.drop manifestSize.toNat
  if (image.length : ℤ) ≠ manifest.imageSize ∨ ((crc32 image).toNat : ℤ) ≠ manifest.imageCrc32 then
    throw (.valueError "workload image size or CRC is invalid")
  return (manifest, image)

/-- The loop of `upload_records` from an offset on, with the sequence behind its last record. -/
def uploadDataLoop (transferId : ℤ) (image : List UInt8) (offset : ℕ) (sequence : ℤ) :
    Except HostError (List Message × ℤ) :=
  if offset < image.length then do
    let fields ← structPack [(4, transferId), (4, offset)]
    let message : Message :=
      { messageType := typeWorkloadData
        sequence := sequence
        payload := fields ++ (image.drop offset).take dataBytes }
    let (records, sequence) ← uploadDataLoop transferId image (offset + dataBytes) (sequence + 1)
    return (message :: records, sequence)
  else return ([], sequence)
termination_by image.length - offset
decreasing_by
  simp only [dataBytes]
  omega

def uploadRecords (manifest : WorkloadManifest) (image : List UInt8)
    (transferId firstSequence : ℤ) : Except HostError (List Message) := do
  let _ ← encodeWorkloadFile manifest image
  if ¬ (0 ≤ transferId ∧ transferId ≤ 0xFFFFFFFF) then
    throw (.valueError "transfer id is not a 32-bit value")
  let transfer ← structPack [(4, transferId)]
  let encoded ← manifest.encode
  let begin : Message :=
    { messageType := typeWorkloadBegin, sequence := firstSequence, payload := transfer ++ encoded }
  let (records, sequence) ← uploadDataLoop transferId image 0 (firstSequence + 1)
  let fields ← structPack [(4, transferId), (4, manifest.imageCrc32)]
  let commit : Message :=
    { messageType := typeWorkloadCommit, sequence := sequence, payload := fields }
  return begin :: (records ++ [commit])

end Rp86.Host
