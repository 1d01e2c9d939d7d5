import Rp86.Bus.ProcessorBus
import Rp86.Memory.Memory

/-!
# Clock-stepped bus controller

`runtime/clock_stepped_bus_controller.c`: one complete processor bus cycle, with its memory access
or the call of an I/O handler.  The handlers work on a context `κ`, which the executor
instantiates with its own state; `stats` is passed to the write handler because the context of the
source holds the very record that the controller updates.
-/

namespace Rp86

open Lib

structure ClockSteppedStats where
  cycles : UInt32
  memoryReads : UInt32
  memoryWrites : UInt32
  ioReads : UInt32
  ioWrites : UInt32
  interruptAcks : UInt32
  firstAddress : UInt32
  lastAddress : UInt32
  lastType : BusCycleType
  lastLanes : BusLanes
  lastData : UInt16
  lastDataValid : Bool
  firstCycleSeen : Bool
  unmapped : Bool
  invalidLane : Bool
  padMismatch : Bool
  noCycle : Bool
  clockFailure : Bool
  interruptAck : Bool
  deriving DecidableEq, Repr

/-- The statistics that `memset` leaves. -/
def ClockSteppedStats.zero : ClockSteppedStats :=
  ⟨0, 0, 0, 0, 0, 0, 0, 0, .memRead, .none, 0, false, false, false, false, false, false, false,
    false⟩

/-- `rp86_clock_stepped_io_t` with non-null handlers. -/
structure ClockSteppedIo (κ : Type*) where
  read : UInt16 → BusLanes → Option UInt16
  write : Env → ClockSteppedStats → UInt16 → BusLanes → UInt16 → κ → Board → Bool × κ × Board
  /-- Whether to drive the vector, and the vector. -/
  interruptAck : κ → Board → Option (Bool × UInt8) × κ × Board

structure CycleState (κ : Type*) where
  stats : ClockSteppedStats
  ram : ByteMap
  context : κ
  board : Board

variable {κ : Type*}

def laneRead (memory : Memory) (ram : ByteMap) (rom : List UInt8) (cycle : BusCycle) :
    Option UInt16 :=
  match cycle.lanes with
  | .word => memoryRead16 memory ram rom cycle.address
  | .low => (memoryRead8 memory ram rom cycle.address).map fun value => value.toUInt16
  | .high => (memoryRead8 memory ram rom cycle.address).map fun value : UInt8 =>
      value.toUInt16 <<< (8 : UInt16)
  | .none => none

def laneWrite (memory : Memory) (ram : ByteMap) (cycle : BusCycle) (value : UInt16) :
    Option ByteMap :=
  match cycle.lanes with
  | .word => memoryWrite16 memory ram cycle.address value
  | .low => memoryWrite8 memory ram cycle.address value.toUInt8
  | .high => memoryWrite8 memory ram cycle.address (value >>> 8).toUInt8
  | .none => none

def readbackMatches (lanes : BusLanes) (driven sampled : UInt16) : Bool :=
  match lanes with
  | .word => driven == sampled
  | .low => driven.toUInt8 == sampled.toUInt8
  | .high => (driven >>> 8).toUInt8 == (sampled >>> 8).toUInt8
  | .none => false

/-- `complete_read`: the answer with the two failure flags it may set. -/
def completeRead (env : Env) (cycle : BusCycle) (driven : UInt16) (stats : ClockSteppedStats)
    (board : Board) : Bool × ClockSteppedStats × Board :=
  let board := processorBusDriveData driven cycle.lanes board
  match processorBusCompleteRead env board with
  | (none, board) => (false, { stats with clockFailure := true }, board)
  | (some (rb1, rb2), board) =>
    if !readbackMatches cycle.lanes driven rb1 || !readbackMatches cycle.lanes driven rb2 then
      (false, { stats with padMismatch := true }, board)
    else (true, stats, board)

/-- The statistics at the start of a cycle: the failure flags are cleared. -/
def ClockSteppedStats.clearFlags (stats : ClockSteppedStats) : ClockSteppedStats := { stats with
  unmapped := false
  invalidLane := false
  padMismatch := false
  noCycle := false
  clockFailure := false
  interruptAck := false }

/-- The statistics once a cycle has been identified. -/
def ClockSteppedStats.observe (stats : ClockSteppedStats) (cycle : BusCycle) :
    ClockSteppedStats := { stats with
  firstCycleSeen := true
  firstAddress := if stats.firstCycleSeen then stats.firstAddress else cycle.address
  lastAddress := cycle.address
  lastType := cycle.type
  lastLanes := cycle.lanes
  lastDataValid := false }

def ClockSteppedStats.withData (stats : ClockSteppedStats) (value : UInt16) : ClockSteppedStats :=
  { stats with lastData := value, lastDataValid := true }

def interruptAckCycle (env : Env) (io : ClockSteppedIo κ) (s : CycleState κ) :
    Bool × CycleState κ :=
  let s := { s with stats := { s.stats with interruptAck := true } }
  match io.interruptAck s.context s.board with
  | (none, context, board) => (false, { s with context := context, board := board })
  | (some (driveVector, vector), context, board) =>
    match processorBusCompleteInterruptAck env driveVector vector board with
    | (false, board) => (false, { s with
        stats := { s.stats with clockFailure := true }, context := context, board := board })
    | (true, board) => (true, { s with
        stats := { s.stats with
          lastData := if driveVector then vector.toUInt16 else 0
          lastDataValid := driveVector
          interruptAcks := s.stats.interruptAcks + 1
          cycles := s.stats.cycles + 1 }
        context := context
        board := board })

def memReadCycle (env : Env) (memory : Memory) (rom : List UInt8) (cycle : BusCycle)
    (s : CycleState κ) : Bool × CycleState κ :=
  match laneRead memory s.ram rom cycle with
  | none => (false, { s with stats := { s.stats with unmapped := true } })
  | some driven =>
    match completeRead env cycle driven (s.stats.withData driven) s.board with
    | (false, stats, board) => (false, { s with stats := stats, board := board })
    | (true, stats, board) => (true, { s with
        stats := { stats with memoryReads := stats.memoryReads + 1, cycles := stats.cycles + 1 }
        board := board })

def memWriteCycle (env : Env) (memory : Memory) (cycle : BusCycle) (s : CycleState κ) :
    Bool × CycleState κ :=
  match processorBusCompleteWrite env cycle s.board with
  | (none, board) =>
    (false, { s with stats := { s.stats with clockFailure := true }, board := board })
  | (some (d0, _), board) =>
    let stats := s.stats.withData d0
    match laneWrite memory s.ram cycle d0 with
    | none => (false, { s with stats := { stats with unmapped := true }, board := board })
    | some ram => (true, { s with
        stats := { stats with memoryWrites := stats.memoryWrites + 1, cycles := stats.cycles + 1 }
        ram := ram
        board := board })

def ioReadCycle (env : Env) (io : ClockSteppedIo κ) (cycle : BusCycle) (s : CycleState κ) :
    Bool × CycleState κ :=
  match io.read cycle.address.toUInt16 cycle.lanes with
  | none => (false, { s with stats := { s.stats with unmapped := true } })
  | some driven =>
    match completeRead env cycle driven (s.stats.withData driven) s.board with
    | (false, stats, board) => (false, { s with stats := stats, board := board })
    | (true, stats, board) => (true, { s with
        stats := { stats with ioReads := stats.ioReads + 1, cycles := stats.cycles + 1 }
        board := board })

def ioWriteCycle (env : Env) (io : ClockSteppedIo κ) (cycle : BusCycle) (s : CycleState κ) :
    Bool × CycleState κ :=
  match processorBusCompleteWrite env cycle s.board with
  | (none, board) =>
    (false, { s with stats := { s.stats with clockFailure := true }, board := board })
  | (some (d0, _), board) =>
    let stats := s.stats.withData d0
    match io.write env stats cycle.address.toUInt16 cycle.lanes d0 s.context board with
    | (false, context, board) => (false, { s with
        stats := { stats with unmapped := true }, context := context, board := board })
    | (true, context, board) => (true, { s with
        stats := { stats with ioWrites := stats.ioWrites + 1, cycles := stats.cycles + 1 }
        context := context
        board := board })

def serviceIdentified (env : Env) (memory : Memory) (rom : List UInt8) (io : ClockSteppedIo κ)
    (cycle : BusCycle) (s : CycleState κ) : Bool × CycleState κ :=
  if cycle.type = .interruptAck then interruptAckCycle env io s
  else if cycle.lanes = .none then
    (false, { s with stats := { s.stats with invalidLane := true } })
  else match cycle.type with
    | .memRead => memReadCycle env memory rom cycle s
    | .memWrite => memWriteCycle env memory cycle s
    | .ioRead => ioReadCycle env io cycle s
    | .ioWrite => ioWriteCycle env io cycle s
    | _ => (false, { s with stats := { s.stats with unmapped := true } })

def clockSteppedServiceCycle (env : Env) (memory : Memory) (rom : List UInt8)
    (io : ClockSteppedIo κ) (maxIdleSteps : ℕ) (s : CycleState κ) : Bool × CycleState κ :=
  let s := { s with stats := s.stats.clearFlags }
  match processorBusWaitCycle env maxIdleSteps s.board with
  | (none, board) => (false, { s with
      stats := { s.stats with clockFailure := board.faulted, noCycle := !board.faulted }
      board := board })
  | (some cycle, board) =>
    serviceIdentified env memory rom io cycle
      { s with stats := s.stats.observe cycle, board := board }

end Rp86
