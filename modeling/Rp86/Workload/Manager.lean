import Rp86.Memory.SharedMailbox
import Rp86.Workload.Crc32
import Rp86.Workload.Protocol

/-!
# Workload manager

`runtime/workload_manager.c`: stages one flat image in the backing and owns the lifecycle state.
The backing is shared with the memory service and the executor, so it is an argument here and not
a field.  An operation that answers `false` without touching the manager is `none`; a commit can
answer `false` and still move to `FAULTED`, so it returns its answer beside the manager.
-/

namespace Rp86

open Lib

structure WorkloadManager where
  manifest : Manifest
  transferId : UInt32
  workloadId : UInt32
  received : UInt32
  runningCrc32 : UInt32
  state : WorkloadState
  deriving DecidableEq, Repr

/-- The flags a manifest may carry. -/
def knownFlags : UInt32 :=
  flagPersistent ||| flagStdio ||| flagSharedMemory ||| flagClockFreeRunning |||
    flagClockStepped ||| flagPeriodicTick

/-- `manifest_valid` on a non-null manifest. -/
def manifestValid (manifest : Manifest) (backing : Backing) : Bool :=
  if manifest.magic ≠ workloadMagic ∨ manifest.version ≠ workloadFormatVersion ∨
      manifest.headerSize ≠ UInt16.ofNat manifestSize ∨ manifest.imageSize = 0 ∨
      !backing.available then false
  else
    let imageEnd := manifest.loadAddress + manifest.imageSize
    let entry := linearAddress manifest.entrySegment manifest.entryOffset
    let stack := linearAddress manifest.stackSegment manifest.stackOffset
    let sharedEnd := manifest.sharedBase + manifest.sharedSize
    if manifest.loadAddress ≥ processorAddressSpaceSize ∨ imageEnd < manifest.loadAddress ∨
        imageEnd > processorAddressSpaceSize ∨
        !memoryBackingRangeValid backing manifest.loadAddress manifest.imageSize.toNat then false
    else if manifest.loadAddress < sharedMailboxBase + sharedMailboxSize ∧
        imageEnd > sharedMailboxBase then false
    else if entry < manifest.loadAddress ∨ entry ≥ imageEnd then false
    -- 0000:0000 requests no initial stack; any other stack must be writable for one word
    else if (manifest.stackSegment ≠ 0 ∨ manifest.stackOffset ≠ 0) ∧
        (stack ≥ processorAddressSpaceSize ∨ stack ≥ sharedMailboxBase ∨
          !memoryBackingRangeValid backing stack 2) then false
    else if manifest.flags &&& ~~~ knownFlags ≠ 0 then false
    else if manifest.flags &&& flagClockFreeRunning ≠ 0 ∧
        manifest.flags &&& flagClockStepped ≠ 0 then false
    else if manifest.flags &&& flagPeriodicTick ≠ 0 ∧
        manifest.flags &&& flagClockStepped = 0 then false
    else if (manifest.sharedSize == 0) != (manifest.flags &&& flagSharedMemory == 0) then false
    else if manifest.sharedSize ≠ 0 ∧
        (sharedEnd < manifest.sharedBase ∨ sharedEnd > processorAddressSpaceSize ∨
          !memoryBackingRangeValid backing manifest.sharedBase manifest.sharedSize.toNat)
      then false
    else true

def workloadManagerInit : WorkloadManager where
  manifest := Manifest.zero
  transferId := 0
  workloadId := 0
  received := 0
  runningCrc32 := 0
  state := .empty

/-- `rp86_workload_begin`; a null manifest is `none`. -/
def workloadBegin (manager : WorkloadManager) (backing : Backing) (transferId : UInt32)
    (manifest : Option Manifest) : Option WorkloadManager :=
  match manifest with
  | none => none
  | some manifest =>
    if !backing.available || !manifestValid manifest backing ||
        (manager.state == .running || manager.state == .completed) then none
    else some { manager with
      manifest := manifest
      transferId := transferId
      received := 0
      runningCrc32 := 0
      state := .receiving }

/-- `rp86_workload_write`; a null data pointer is `none`. -/
def workloadWrite (manager : WorkloadManager) (backing : Backing) (transferId offset : UInt32)
    (data : Option (List UInt8)) : Option (WorkloadManager × Backing) :=
  match data with
  | none => none
  | some data =>
    if manager.state ≠ .receiving ∨ transferId ≠ manager.transferId ∨
        offset ≠ manager.received ∨ data.length = 0 ∨
        data.length > (manager.manifest.imageSize - manager.received).toNat then none
    else
      let address := manager.manifest.loadAddress + offset
      match memoryBackingWrite backing address data with
      | none => none
      | some backing => some ({ manager with
          runningCrc32 := crc32Update manager.runningCrc32 data
          received := manager.received + UInt32.ofNat data.length }, backing)

/-- The identifier after `workload_id++`, which skips zero. -/
def nextWorkloadId (workloadId : UInt32) : UInt32 :=
  if workloadId + 1 = 0 then 1 else workloadId + 1

def workloadCommit (manager : WorkloadManager) (transferId expectedCrc32 : UInt32) :
    Bool × WorkloadManager :=
  if manager.state ≠ .receiving then (false, manager)
  else if transferId ≠ manager.transferId ∨ manager.received ≠ manager.manifest.imageSize ∨
      expectedCrc32 ≠ manager.manifest.imageCrc32 ∨ manager.runningCrc32 ≠ expectedCrc32 then
    (false, { manager with state := .faulted })
  else
    (true, { manager with workloadId := nextWorkloadId manager.workloadId, state := .staged })

def workloadIdMatches (manager : WorkloadManager) (workloadId : UInt32) : Bool :=
  manager.workloadId != 0 && (workloadId == 0 || workloadId == manager.workloadId)

/-- The common shape of `run`, `stop`, `complete` and `restart`: a transition to `target` that is
legal for a matching identifier in the states `sources`. -/
def workloadTransition (sources : List WorkloadState) (target : WorkloadState)
    (manager : WorkloadManager) (workloadId : UInt32) : Option WorkloadManager :=
  if !workloadIdMatches manager workloadId || !sources.contains manager.state then none
  else some { manager with state := target }

def workloadRun : WorkloadManager → UInt32 → Option WorkloadManager :=
  workloadTransition [.staged, .stopped] .running

def workloadStop : WorkloadManager → UInt32 → Option WorkloadManager :=
  workloadTransition [.running, .completed] .stopped

def workloadComplete : WorkloadManager → UInt32 → Option WorkloadManager :=
  workloadTransition [.running] .completed

def workloadRestart : WorkloadManager → UInt32 → Option WorkloadManager :=
  workloadTransition [.staged, .running, .stopped, .completed] .running

def workloadDiscard (manager : WorkloadManager) : WorkloadManager := { manager with
  manifest := Manifest.zero
  transferId := 0
  workloadId := 0
  received := 0
  runningCrc32 := 0
  state := .empty }

end Rp86
