import Rp86.Lib.LittleEndian

/-!
# Workload contract

The constants, enumerations and packed records of `runtime/workload_protocol.h`.
-/

namespace Rp86

open Lib

/-- `RP86_WORKLOAD_MAGIC`, "P86W" in little endian. -/
def workloadMagic : UInt32 := 0x57363850
def workloadFormatVersion : UInt16 := 1
def processorAddressSpaceSize : UInt32 := 0x100000
def flagPersistent : UInt32 := (1 : UInt32) <<< 0
def flagStdio : UInt32 := (1 : UInt32) <<< 1
def flagSharedMemory : UInt32 := (1 : UInt32) <<< 2
def flagClockFreeRunning : UInt32 := (1 : UInt32) <<< 3
def flagClockStepped : UInt32 := (1 : UInt32) <<< 4
def flagPeriodicTick : UInt32 := (1 : UInt32) <<< 5

inductive WorkloadClockMode where
  | auto
  | freeRunning
  | stepped
  | stopped
  deriving DecidableEq, Repr

inductive WorkloadState where
  | empty
  | receiving
  | staged
  | running
  | stopped
  | completed
  | faulted
  | timedOut
  deriving DecidableEq, Repr

inductive CompletionReason where
  | none
  | stopRequested
  | nativeHlt
  | noBusCycle
  | busFault
  | startFailure
  | executionDeadline
  deriving DecidableEq, Repr

def WorkloadClockMode.code : WorkloadClockMode → UInt32
  | .auto => 0
  | .freeRunning => 1
  | .stepped => 2
  | .stopped => 3

def WorkloadState.code : WorkloadState → UInt32
  | .empty => 0
  | .receiving => 1
  | .staged => 2
  | .running => 3
  | .stopped => 4
  | .completed => 5
  | .faulted => 6
  | .timedOut => 7

def CompletionReason.code : CompletionReason → UInt32
  | .none => 0
  | .stopRequested => 1
  | .nativeHlt => 2
  | .noBusCycle => 3
  | .busFault => 4
  | .startFailure => 5
  | .executionDeadline => 6

structure Manifest where
  magic : UInt32
  version : UInt16
  headerSize : UInt16
  imageSize : UInt32
  imageCrc32 : UInt32
  loadAddress : UInt32
  entrySegment : UInt16
  entryOffset : UInt16
  stackSegment : UInt16
  stackOffset : UInt16
  sharedBase : UInt32
  sharedSize : UInt32
  flags : UInt32
  deriving DecidableEq, Repr

/-- `sizeof(rp86_workload_manifest_t)`. -/
def manifestSize : ℕ := 40

/-- The manifest of all-zero bytes that `memset` leaves. -/
def Manifest.zero : Manifest := ⟨0, 0, 0, 0, 0, 0, 0, 0, 0, 0, 0, 0, 0⟩

/-- The packed manifest at byte offset `i` of a payload. -/
def Manifest.ofBytes (l : List UInt8) (i : ℕ) : Manifest where
  magic := le32 l i
  version := le16 l (i + 4)
  headerSize := le16 l (i + 6)
  imageSize := le32 l (i + 8)
  imageCrc32 := le32 l (i + 12)
  loadAddress := le32 l (i + 16)
  entrySegment := le16 l (i + 20)
  entryOffset := le16 l (i + 22)
  stackSegment := le16 l (i + 24)
  stackOffset := le16 l (i + 26)
  sharedBase := le32 l (i + 28)
  sharedSize := le32 l (i + 32)
  flags := le32 l (i + 36)

def Manifest.toBytes (m : Manifest) : List UInt8 :=
  leBytes 4 m.magic.toNat ++ leBytes 2 m.version.toNat ++ leBytes 2 m.headerSize.toNat ++
  leBytes 4 m.imageSize.toNat ++ leBytes 4 m.imageCrc32.toNat ++ leBytes 4 m.loadAddress.toNat ++
  leBytes 2 m.entrySegment.toNat ++ leBytes 2 m.entryOffset.toNat ++
  leBytes 2 m.stackSegment.toNat ++ leBytes 2 m.stackOffset.toNat ++
  leBytes 4 m.sharedBase.toNat ++ leBytes 4 m.sharedSize.toNat ++ leBytes 4 m.flags.toNat

/-- `((uint32_t)segment << 4u) + offset`. -/
def linearAddress (segment offset : UInt16) : UInt32 :=
  (segment.toUInt32 <<< 4) + offset.toUInt32

end Rp86
