import Rp86.Lib.Run
import Rp86.Workload.Manager

/-!
# Lifecycle of the manager

Every way the manager's record can change: its eight operations with arbitrary arguments, and the
two writes that other modules make to `state`.  The record handler sets `FAULTED` after a failed
start of a workload that it has just put in `RUNNING`; the executor sets `FAULTED` or `TIMED_OUT`
while the state is `RUNNING`.

`Lifecycle` pairs the manager and the backing with the bytes accepted since the last accepted
begin.  The bytes are a ghost: no operation reads them.
-/

namespace Rp86

open Lib

/-- A call of the manager, or an outside write to its state. -/
inductive WorkloadOp where
  | begin (transferId : UInt32) (manifest : Option Manifest)
  | write (transferId offset : UInt32) (data : Option (List UInt8))
  | commit (transferId expectedCrc32 : UInt32)
  | run (workloadId : UInt32)
  | stop (workloadId : UInt32)
  | complete (workloadId : UInt32)
  | restart (workloadId : UInt32)
  | discard
  | setFaulted
  | setTimedOut
  deriving DecidableEq, Repr

/-- The manager, its backing, and the data of the writes accepted since the last accepted begin. -/
structure Lifecycle where
  manager : WorkloadManager
  backing : Backing
  accepted : List UInt8

/-- An operation that leaves the manager alone when it answers `false`. -/
def Lifecycle.update (s : Lifecycle) (manager : Option WorkloadManager) : Lifecycle :=
  { s with manager := manager.getD s.manager }

/-- An outside write to `state`, which only happens while it is `RUNNING`. -/
def Lifecycle.setState (s : Lifecycle) (state : WorkloadState) : Lifecycle :=
  if s.manager.state = .running then { s with manager := { s.manager with state := state } } else s

def lifecycleStep (s : Lifecycle) : WorkloadOp → Lifecycle
  | .begin transferId manifest =>
    match workloadBegin s.manager s.backing transferId manifest with
    | none => s
    | some manager => { s with manager := manager, accepted := [] }
  | .write transferId offset data =>
    match workloadWrite s.manager s.backing transferId offset data with
    | none => s
    | some (manager, backing) =>
      { manager := manager, backing := backing, accepted := s.accepted ++ data.getD [] }
  | .commit transferId expectedCrc32 =>
    { s with manager := (workloadCommit s.manager transferId expectedCrc32).2 }
  | .run workloadId => s.update (workloadRun s.manager workloadId)
  | .stop workloadId => s.update (workloadStop s.manager workloadId)
  | .complete workloadId => s.update (workloadComplete s.manager workloadId)
  | .restart workloadId => s.update (workloadRestart s.manager workloadId)
  | .discard => { s with manager := workloadDiscard s.manager }
  | .setFaulted => s.setState .faulted
  | .setTimedOut => s.setState .timedOut

/-- The manager as `rp86_workload_manager_init` leaves it. -/
def lifecycleInit (backing : Backing) : Lifecycle where
  manager := workloadManagerInit
  backing := backing
  accepted := []

def lifecycleRun (backing : Backing) (ops : List WorkloadOp) : Lifecycle :=
  run lifecycleStep (lifecycleInit backing) ops

/-- The states whose image has been verified. -/
def WorkloadState.verified : WorkloadState → Bool
  | .staged | .running | .stopped | .completed => true
  | _ => false

/-- The states without an image or an upload in progress. -/
def WorkloadState.inert : WorkloadState → Bool
  | .empty | .faulted | .timedOut => true
  | _ => false

/-- What is known of the image in a verified state. -/
structure Lifecycle.Verified (s : Lifecycle) : Prop where
  workloadId_ne_zero : s.manager.workloadId ≠ 0
  manifestValid : manifestValid s.manager.manifest s.backing = true
  received_eq : s.manager.received = s.manager.manifest.imageSize
  runningCrc32_eq : s.manager.runningCrc32 = s.manager.manifest.imageCrc32
  imageCrc32_eq : s.manager.manifest.imageCrc32 = crc32 s.accepted
  length_accepted : s.accepted.length = s.manager.manifest.imageSize.toNat

/-- What is known of an upload in progress. -/
structure Lifecycle.Receiving (s : Lifecycle) : Prop where
  manifestValid : Rp86.manifestValid s.manager.manifest s.backing = true
  received_eq : s.manager.received.toNat = s.accepted.length
  received_le : s.accepted.length ≤ s.manager.manifest.imageSize.toNat
  runningCrc32_eq : s.manager.runningCrc32 = crc32 s.accepted

structure Lifecycle.Inv (s : Lifecycle) : Prop where
  receiving : s.manager.state = .receiving → s.Receiving
  verified : s.manager.state.verified = true → s.Verified

end Rp86
