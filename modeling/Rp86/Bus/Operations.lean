import Rp86.Bus.ClockStepped
import Rp86.Lib.Run

/-!
# The operations of a bus cycle

The sequence of bus operations that a service of the bus or a halt carries out, one after the other,
so that the board can be watched while the call is under way.  Each function follows the control
flow of the one it is named after; running its operations gives the board which that one returns.
-/

namespace Rp86

open Lib

inductive BusOp where
  | step
  | drive (value : UInt16) (lanes : BusLanes)
  | release
  /-- The call of an I/O handler. -/
  | handler (effect : Board → Board)
  | setMode (mode : ExecutionClockMode)
  | setFaulted (faulted : Bool)
  | holdReset
  | forceSafeState

def busOp (env : Env) (b : Board) : BusOp → Board
  | .step => (processorBusStep env b).2
  | .drive value lanes => processorBusDriveData value lanes b
  | .release => processorBusReleaseAd b
  | .handler effect => effect b
  | .setMode mode => (processorBusSetExecutionClockMode env mode b).2
  | .setFaulted faulted => { b with faulted := faulted }
  | .holdReset => processorBusHoldReset true b
  | .forceSafeState => processorBusForceSafeState env b

def waitAleOps (env : Env) : ℕ → Board → List BusOp
  | 0, _ => []
  | n + 1, b =>
    let (t1, b) := processorBusStep env b
    .step :: if b.faulted then []
      else if sampleBit t1 pinAle ≠ 0 then []
      else waitAleOps env n b

def waitCycleOps (env : Env) (maxIdleSteps : ℕ) (b : Board) : List BusOp :=
  match waitAle env maxIdleSteps 0 b with
  | (none, _) => waitAleOps env maxIdleSteps b
  | (some _, _) => waitAleOps env maxIdleSteps b ++ [.step]

/-- Two clock steps, of which the second is left out when the first faults the bus, and what
follows either. -/
def twoSteps (env : Env) (b : Board) (failed completed : List BusOp) : List BusOp :=
  let (_, b) := processorBusStep env b
  .step :: if b.faulted then failed
    else
      let (_, b) := processorBusStep env b
      .step :: if b.faulted then failed else completed

def completeReadOps (env : Env) (driven : UInt16) (lanes : BusLanes) (b : Board) : List BusOp :=
  .drive driven lanes :: twoSteps env (processorBusDriveData driven lanes b) [] [.release]

def completeInterruptAckOps (env : Env) (driveVector : Bool) (vector : UInt8) (b : Board) :
    List BusOp :=
  if driveVector then
    .drive vector.toUInt16 .low ::
      twoSteps env (processorBusDriveData vector.toUInt16 .low b) [.release] [.release]
  else .release :: twoSteps env (processorBusReleaseAd b) [.release] [.release]

/-- The operations of `processorBusCompleteWrite`, and `completed` when it succeeds. -/
def completeWriteOps (env : Env) (b : Board) (completed : List BusOp) : List BusOp :=
  .release :: twoSteps env (processorBusReleaseAd b) [] completed

variable {κ : Type*}

def identifiedOps (env : Env) (memory : Memory) (rom : List UInt8) (io : ClockSteppedIo κ)
    (cycle : BusCycle) (s : CycleState κ) : List BusOp :=
  if cycle.type = .interruptAck then
    .handler (fun b => (io.interruptAck s.context b).2.2) ::
      match io.interruptAck s.context s.board with
      | (none, _, _) => []
      | (some (driveVector, vector), _, board) =>
        completeInterruptAckOps env driveVector vector board
  else if cycle.lanes = .none then []
  else match cycle.type with
    | .memRead => match laneRead memory s.ram rom cycle with
      | none => []
      | some driven => completeReadOps env driven cycle.lanes s.board
    | .memWrite => completeWriteOps env s.board []
    | .ioRead => match io.read cycle.address.toUInt16 cycle.lanes with
      | none => []
      | some driven => completeReadOps env driven cycle.lanes s.board
    | .ioWrite =>
      let d0 := decodeAd cycle.controlSample
      completeWriteOps env s.board [.handler fun b => (io.write env (s.stats.withData d0)
        cycle.address.toUInt16 cycle.lanes d0 s.context b).2.2]
    | _ => []

def serviceCycleOps (env : Env) (memory : Memory) (rom : List UInt8) (io : ClockSteppedIo κ)
    (maxIdleSteps : ℕ) (s : CycleState κ) : List BusOp :=
  waitCycleOps env maxIdleSteps s.board ++
    match processorBusWaitCycle env maxIdleSteps s.board with
    | (none, _) => []
    | (some cycle, board) => identifiedOps env memory rom io cycle
        { s with stats := s.stats.clearFlags.observe cycle, board := board }

def stepsOps (env : Env) : ℕ → Board → List BusOp
  | 0, _ => []
  | n + 1, b =>
    let (_, b) := processorBusStep env b
    .step :: if b.faulted then [] else stepsOps env n b

def safeHaltOps (env : Env) (resetClocks : ℕ) (b : Board) : List BusOp :=
  .release :: .setMode .clockStepped ::
    match processorBusSetExecutionClockMode env .clockStepped (processorBusReleaseAd b) with
    | (false, _) => [.setFaulted true, .forceSafeState]
    | (true, b) =>
      .setFaulted false :: .holdReset ::
        (stepsOps env resetClocks (processorBusHoldReset true (processorBusClearFault b)) ++
          [.forceSafeState])

end Rp86
