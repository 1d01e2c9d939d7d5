import Rp86.Bus.ProcessorBus
import Rp86.HostProtocol.Message
import Rp86.Runtime.LiveRound
import Rp86.Workload.Manager

/-!
# The physical processor

The processor side of `runtime/canonical_runtime.c` and `runtime/prepared_runtime.c`: parking the
processor, handing the bus from the prepared responder to the executor, and starting the prepared
calculator.  The PIO and DMA streams of the prepared responder are not modelled beyond the outcome
of each wait on them and the words of the observer; the responder answers from those streams, so the
prepared calculator never writes the backing, which these functions only read.
-/

namespace Rp86

open Lib

structure PreparedRuntime where
  initialized : Bool
  available : Bool
  processorSignature : UInt16
  processorIdentityValid : Bool
  deriving DecidableEq, Repr

/-- The globals of the canonical runtime that describe the physical processor. -/
structure Machine where
  board : Board
  busActive : Bool
  processorBootId : UInt32
  prepared : PreparedRuntime
  calculatorOpcode : UInt16
  calculatorEntryLinear : UInt32
  deriving DecidableEq, Repr

/-- `++g_processor_boot_id`, which skips zero. -/
def nextBootId (bootId : UInt32) : UInt32 := if bootId + 1 = 0 then 1 else bootId + 1

def parkPhysicalProcessor (env : Env) (m : Machine) : Machine :=
  let board := (m.board.putIntr false).putReset true
  let board := executionClockStopLow env board
  let board := preparedRouteAdToSioHighZ board
  { m with board := { board with clk := .sioLow }, busActive := false }

def disablePreparedRuntime (env : Env) (m : Machine) : Bool × Machine :=
  let board := (m.board.putIntr false).putReset true
  match processorBusSetExecutionClockMode env .clockStepped board with
  | (false, board) => (false, { m with board := processorBusForceSafeState env board })
  | (true, board) => (true, { m with
      board := preparedRouteAdToSioHighZ board
      busActive := false
      prepared := { m.prepared with available := false } })

def prepareGeneralWorkloadBus (env : Env) (m : Machine) : Bool × Machine :=
  if m.prepared.available then disablePreparedRuntime env m
  else
    let board := processorBusHoldReset true m.board
    match processorBusSetExecutionClockMode env .clockStepped board with
    | (false, board) => (false, { m with board := processorBusForceSafeState env board })
    | (true, board) => (true, { m with board := preparedRouteAdToSioHighZ board })

/-! ### The prepared calculator -/

def calculatorWorkloadSize : UInt32 := 16
def calculatorEntryStride : UInt32 := 4
def calculatorOpcodeAdd : UInt16 := 0xC801
def calculatorOpcodeSub : UInt16 := 0xC829
def calculatorOpcodeMul : UInt16 := 0xE1F7
def calculatorOpcodeDiv : UInt16 := 0xF1F7

def calculatorWorkloadContract : List UInt8 :=
  [0x01, 0xC8, 0xCB, 0x90, 0x29, 0xC8, 0xCB, 0x90, 0xF7, 0xE1, 0xCB, 0x90, 0xF7, 0xF1, 0xCB, 0x90]

def calculatorWorkloadValid (manager : WorkloadManager) (backing : Backing) : Bool :=
  let manifest := manager.manifest
  if (manager.state ≠ .staged ∧ manager.state ≠ .stopped ∧ manager.state ≠ .running) ∨
      manifest.imageSize ≠ calculatorWorkloadSize ∨
      linearAddress manifest.entrySegment manifest.entryOffset ≠ manifest.loadAddress then false
  else match memoryBackingRead backing manifest.loadAddress calculatorWorkloadSize.toNat with
    | none => false
    | some image => image == calculatorWorkloadContract

def preparedRuntimeObserveProcessor (prepared : PreparedRuntime) (signature : UInt16) :
    PreparedRuntime := { prepared with
  processorSignature := signature
  processorIdentityValid := preparedProcessorSignatureValid signature }

/-- `g_host_words`, as `stage_live_payload` packs them. -/
def hostWord (record : Message) (i : ℕ) : UInt16 :=
  le16 (record.payload.take (min record.length.toNat 14) ++ List.replicate 14 0) (2 * i)

def hostWords (record : Message) : List UInt16 := (List.range 7).map (hostWord record)

/-- The witness that `stage_live_payload` returns. -/
def expectedWitness (record : Message) : UInt16 := (hostWords record).foldl (· ^^^ ·) 0

/-- The operation of a calculator command: its opcode and the offset of its entry. -/
def calculatorOperation (record : Message) : Option (UInt16 × UInt32) :=
  if hostWord record 1 = 1 then some (calculatorOpcodeAdd, 0)
  else if hostWord record 1 = 2 then some (calculatorOpcodeSub, calculatorEntryStride)
  else if hostWord record 1 = 3 then some (calculatorOpcodeMul, calculatorEntryStride * 2)
  else if hostWord record 1 = 4 then
    if hostWord record 3 = 0 then none else some (calculatorOpcodeDiv, calculatorEntryStride * 3)
  else none

/-- `calculator_requested` of a live round. -/
def calculatorRequested (record : Message) : Bool :=
  record.type == typeCommand && hostWord record 0 == calculatorMagic

def selectCalculatorOpcode (manager : WorkloadManager) (backing : Backing) (record : Message)
    (m : Machine) : Bool × Machine :=
  let m := { m with
    calculatorOpcode := calculatorOpcodeAdd
    calculatorEntryLinear := manager.manifest.loadAddress }
  if !calculatorRequested record then (false, m)
  else match calculatorOperation record with
    | none => (false, m)
    | some (opcode, offset) =>
      let m := { m with calculatorOpcode := opcode }
      if manager.state = .running then
        if !calculatorWorkloadValid manager backing then (false, m)
        else (true, { m with calculatorEntryLinear := m.calculatorEntryLinear + offset })
      else (true, m)

/-- `rearm_exact_stream` for the three streams; `false` at the first that is not primed. -/
def rearmExactStreams (env : Env) (b : Board) : Bool × Board :=
  if !env.streamPrimed b.reads then (false, b.next)
  else if !env.streamPrimed b.next.reads then (false, b.next.next)
  else (env.streamPrimed b.next.next.reads, b.next.next.next)

/-- `run_live_round` from its first rearmed stream on: `INTR` is raised, and it is low again on
every path. -/
def liveRound (env : Env) (record : Message) (m : Machine) : Bool × Machine :=
  match rearmExactStreams env m.board with
  | (false, board) => (false, { m with board := board })
  | (true, board) =>
    let board := board.putIntr true
    let passed := pollLiveRound (hostWords record) (expectedWitness record)
      (.zero (calculatorRequested record)) (env.livePolls board.reads)
    let board := board.next.putIntr false
    match passed with
    | none => (false, { m with board := board })
    | some round => (true, { m with
        board := board
        prepared := preparedRuntimeObserveProcessor m.prepared round.processorSignature })

def runLiveRound (env : Env) (manager : WorkloadManager) (backing : Backing) (record : Message)
    (m : Machine) : Bool × Machine :=
  let m := { m with
    calculatorOpcode := calculatorOpcodeAdd
    calculatorEntryLinear := manager.manifest.loadAddress }
  if calculatorRequested record then
    match selectCalculatorOpcode manager backing record m with
    | (false, m) => (false, m)
    | (true, m) => liveRound env record m
  else liveRound env record m

def preparedRuntimePhysicallyRunning (m : Machine) : Bool :=
  m.prepared.available && m.busActive && m.board.clock.mode == .freeRunning && !m.board.reset

/-- The heartbeat record that `start_calculator_workload` proves a round with. -/
def proofRecord : Message where
  version := hostProtocolVersion
  type := typeHeartbeat
  flags := 0
  sequence := 0
  length := 0
  status := HostStatus.ok.code
  payload := padPayload []
  length_payload := length_padPayload []

/-- The clock sequence of `start_calculator_workload` under `RESET`. -/
def calculatorResetClocks (env : Env) (b : Board) : Bool × Board :=
  let (ready, b) := if b.clock.mode = .stopped then
    processorBusSetExecutionClockMode env .clockStepped b else (true, b)
  if !ready then (false, b)
  else match processorBusSetExecutionClockMode env .freeRunning b with
    | (false, b) => (false, b)
    | (true, b) =>
      if !env.resetClocks b.reads then (false, b.next)
      else processorBusSetExecutionClockMode env .clockStepped b.next

def startCalculatorWorkload (env : Env) (manager : WorkloadManager) (backing : Backing)
    (m : Machine) : Bool × Machine :=
  if !m.prepared.initialized || !calculatorWorkloadValid manager backing then (false, m)
  else
    let m := { m with
      board := (m.board.putIntr false).putReset true
      busActive := false
      calculatorOpcode := calculatorOpcodeAdd
      calculatorEntryLinear := manager.manifest.loadAddress }
    match rearmExactStreams env m.board with
    | (false, board) => (false, parkPhysicalProcessor env { m with board := board })
    | (true, board) =>
      let board := preparedRouteAdToResponder board
      match calculatorResetClocks env board with
      | (false, board) => (false, parkPhysicalProcessor env { m with board := board })
      | (true, board) =>
        let m := { m with board := board, processorBootId := nextBootId m.processorBootId }
        match processorBusSetExecutionClockMode env .freeRunning m.board with
        | (false, board) => (false, parkPhysicalProcessor env { m with board := board })
        | (true, board) =>
          let m := { m with
            board := board.putReset false
            prepared := { m.prepared with available := true }
            busActive := true }
          match runLiveRound env manager backing proofRecord m with
          | (false, m) => (false, parkPhysicalProcessor env m)
          | (true, m) => (preparedRuntimePhysicallyRunning m, m)

end Rp86
