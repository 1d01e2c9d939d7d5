import Rp86.Memory.MemoryService
import Rp86.Runtime.ExecutorIo
import Rp86.Runtime.Machine

/-!
# Workload executor

`runtime/workload_executor.c`: reset handoff, start, stop and the Host requests that read or set
the executor.  The service step, which drives the lifecycle as well, is in `Runtime.Service`.

The trace of the last cycles and the evidence text only reach the serial console and are not
modelled.
-/

namespace Rp86

open Lib

def resetHandoffBase : UInt32 := 0xFFFF0
def resetHandoffSize : ℕ := 16
def generalBusStarvationTimeoutUs : UInt64 := 100000
def workloadTimeoutGet : UInt32 := 0
def workloadTimeoutSet : UInt32 := 1
def workloadTimeoutMaxMs : UInt32 := 86400000

structure Executor where
  processorMemory : Memory
  busStats : ClockSteppedStats
  resetHandoff : List UInt8
  io : IoState
  completionReason : CompletionReason
  active : Bool
  processorIdle : Bool
  starvationStartedUs : UInt64
  timeoutMs : UInt32
  executionStartedUs : UInt64
  executionDeadlineUs : UInt64
  clockMode : WorkloadClockMode
  diagnosticWorkloadId : UInt32
  diagnosticBootId : UInt32
  deriving DecidableEq, Repr

def workloadExecutorInit : Executor where
  processorMemory := ⟨0, 0, 0, 0⟩
  busStats := ClockSteppedStats.zero
  resetHandoff := List.replicate resetHandoffSize 0
  io := ⟨TickState.fresh false, false, ⟨[], [], 0⟩⟩
  completionReason := .none
  active := false
  processorIdle := false
  starvationStartedUs := 0
  timeoutMs := 0
  executionStartedUs := 0
  executionDeadlineUs := 0
  clockMode := .stopped
  diagnosticWorkloadId := 0
  diagnosticBootId := 0

/-! ### Start -/

/-- The stack setup of the reset code: `CLI; MOV AX, imm16; MOV SS, AX; MOV SP, imm16`. -/
def resetStackCode (manifest : Manifest) : List UInt8 :=
  if manifest.stackSegment ≠ 0 ∨ manifest.stackOffset ≠ 0 then
    [0xFA, 0xB8, manifest.stackSegment.toUInt8, (manifest.stackSegment >>> 8).toUInt8, 0x8E, 0xD0,
      0xBC, manifest.stackOffset.toUInt8, (manifest.stackOffset >>> 8).toUInt8]
  else []

/-- The far jump to the entry point. -/
def resetJumpCode (manifest : Manifest) : List UInt8 :=
  [0xEA, manifest.entryOffset.toUInt8, (manifest.entryOffset >>> 8).toUInt8,
    manifest.entrySegment.toUInt8, (manifest.entrySegment >>> 8).toUInt8]

/-- The reset code behind `code`, filled up with `NOP`. -/
def padResetHandoff (code : List UInt8) : List UInt8 :=
  code ++ List.replicate (resetHandoffSize - code.length) 0x90

def buildResetHandoff (manifest : Manifest) : Bool × List UInt8 :=
  let stack := resetStackCode manifest
  if stack.length + 5 > resetHandoffSize then (false, padResetHandoff stack)
  else (true, padResetHandoff (stack ++ resetJumpCode manifest))

/-- The executor at the head of a new attempt, which inherits no result. -/
def Executor.newAttempt (x : Executor) (workloadId : UInt32) : Executor := { x with
  io := { x.io with output := { x.io.output with nativeOutput := [], resultFlags := 0 } }
  completionReason := .none
  executionDeadlineUs := 0
  busStats := ClockSteppedStats.zero
  diagnosticWorkloadId := workloadId
  diagnosticBootId := 0 }

def Executor.startFailure (x : Executor) : Executor := { x with completionReason := .startFailure }

/-- The start from the released reset on: the attempt's clock, tick phase and deadline. -/
def Executor.released (x : Executor) (now : UInt64) : Executor := { x with
  executionStartedUs := now
  io := if x.io.tick.enabled then
    { x.io with tick := { x.io.tick with nextUs := now + periodicTickUs } } else x.io
  executionDeadlineUs := if x.timeoutMs ≠ 0 then now + x.timeoutMs.toUInt64 * 1000
    else x.executionDeadlineUs }

/-- The processor memory over the backing and the reset code. -/
def Backing.processorMemory (backing : Backing) : Memory where
  ramBase := backing.processorBase
  ramSize := backing.size
  romBase := resetHandoffBase
  romSize := UInt32.ofNat resetHandoffSize

/-- `rp86_workload_executor_start` from the prepared bus on. -/
def startPrepared (env : Env) (flags : UInt32) (backing : Backing) (x : Executor) (m : Machine) :
    Bool × Executor × Backing × Machine :=
  let (tick, board) := resetTickAttempt (flags &&& flagPeriodicTick ≠ 0) m.board
  let board := processorBusClearFault board
  let x := { x with io := { x.io with tick := tick }, processorMemory := backing.processorMemory }
  match sharedMailboxInit backing with
  | none => (false, x.startFailure, backing,
      { m with board := processorBusForceSafeState env board })
  | some backing =>
    let bootId := nextBootId m.processorBootId
    let x := { x with
      io := { x.io with idleArmed := false, output := { x.io.output with diagnosticLine := [] } }
      processorIdle := false
      starvationStartedUs := 0
      clockMode := .stepped
      active := true
      diagnosticBootId := bootId }
    let m := { m with busActive := true, processorBootId := bootId }
    match processorBusResetSequence env processorResetClocks board with
    | (false, board) => (false, { x.startFailure with active := false, clockMode := .stopped },
        backing, { m with board := processorBusForceSafeState env board, busActive := false })
    | (true, board) =>
      let (now, board) := timeUs64 env (processorBusResetStepTiming board)
      (true, x.released now, backing, { m with board := board })

def workloadExecutorStart (env : Env) (manager : WorkloadManager) (backing : Backing)
    (x : Executor) (m : Machine) : Bool × Executor × Backing × Machine :=
  let x := x.newAttempt manager.workloadId
  if manager.manifest.flags &&& flagClockFreeRunning ≠ 0 then (false, x.startFailure, backing, m)
  else
    let (built, code) := buildResetHandoff manager.manifest
    let x := { x with resetHandoff := code }
    if !built then (false, x.startFailure, backing, m)
    else match prepareGeneralWorkloadBus env m with
      | (false, m) => (false, x.startFailure, backing, m)
      | (true, m) => startPrepared env manager.manifest.flags backing x m

/-! ### Stop and stage -/

def workloadExecutorClearDiagnostics (x : Executor) : Executor :=
  { x with diagnosticWorkloadId := 0, diagnosticBootId := 0 }

def workloadExecutorStage (flags : UInt32) (x : Executor) : Executor :=
  { workloadExecutorClearDiagnostics x with
    busStats := ClockSteppedStats.zero
    processorIdle := false
    io := { x.io with output := { x.io.output with nativeOutput := [], resultFlags := 0 } }
    completionReason := .none
    clockMode := if flags &&& flagClockFreeRunning ≠ 0 then .freeRunning
      else if flags &&& flagClockStepped ≠ 0 then .stepped else .auto }

/-- What `rp86_workload_executor_stop` leaves of an active executor. -/
def Executor.halt (x : Executor) : Executor := { x with
  executionDeadlineUs := 0
  completionReason :=
    if x.completionReason = .none then .stopRequested else x.completionReason
  io := ⟨x.io.tick.quiesce, false, flushDiagnosticLine x.io.output⟩
  processorIdle := false
  starvationStartedUs := 0
  clockMode := .stopped
  active := false }

def workloadExecutorStop (env : Env) (x : Executor) (m : Machine) : Executor × Machine :=
  if !x.active then ({ x with executionDeadlineUs := 0 }, m)
  else
    let board := processorBusSetIntr false m.board
    let board := processorBusSafeHalt env processorResetClocks board
    (x.halt, { m with board := board, busActive := false })

/-! ### Host requests -/

/-- The deadline of an attempt that started at `startedUs`, if the executor is supervised. -/
def Executor.deadline (x : Executor) (timeoutMs : UInt32) : UInt64 :=
  if timeoutMs ≠ 0 ∧ x.active ∧ !x.processorIdle then
    x.executionStartedUs + timeoutMs.toUInt64 * 1000
  else 0

/-- The result of a timeout request: `rp86_workload_timeout_payload_t`. -/
def timeoutPayload (manager : WorkloadManager) (x : Executor) (now : UInt64) : List UInt8 :=
  let remainingUs := if x.executionDeadlineUs > now then x.executionDeadlineUs - now else 0
  leBytes 4 x.timeoutMs.toNat ++ leBytes 4 ((remainingUs + 999) / 1000).toUInt32.toNat ++
    leBytes 4 manager.workloadId.toNat ++ leBytes 4 x.diagnosticBootId.toNat ++
    leBytes 4 (if x.executionDeadlineUs ≠ 0 then 1 else 0)

/-- A SET of the timeout that the executor accepts. -/
def Executor.setTimeout (x : Executor) (timeoutMs : UInt32) : Executor :=
  { x with timeoutMs := timeoutMs, executionDeadlineUs := x.deadline timeoutMs }

def workloadExecutorTimeoutRequest (env : Env) (manager : WorkloadManager) (request : Message)
    (x : Executor) (b : Board) : Option Message × Executor × Board :=
  if request.type ≠ typeWorkloadTimeoutRequest then (none, x, b)
  else
    let refuse (status : HostStatus) :=
      some (Message.reply typeWorkloadTimeoutResult request status 0 [])
    if request.version ≠ hostProtocolVersion then (refuse .badVersion, x, b)
    else if request.length ≠ 8 ∨ request.status ≠ 0 ∨ request.flags ≠ 0 then
      (refuse .badLength, x, b)
    else
      let operation := request.word 0
      let value := request.word 4
      if operation > workloadTimeoutSet ∨ value > workloadTimeoutMaxMs ∨
          (operation = workloadTimeoutGet ∧ value ≠ 0) then (refuse .badLength, x, b)
      else if operation = workloadTimeoutSet ∧ value ≠ 0 ∧ manager.state = .running ∧ !x.active
      then (refuse .badState, x, b)
      else
        let x := if operation = workloadTimeoutSet then x.setTimeout value else x
        let (now, b) := timeUs64 env b
        (some (Message.reply typeWorkloadTimeoutResult request .ok 52
          (timeoutPayload manager x now)), x, b)

/-- A diagnostics flag at a bit position. -/
def diagnosticsFlag (set : Bool) (bit : UInt32) : UInt32 := if set then (1 : UInt32) <<< bit else 0

/-- The result of a diagnostics request: `rp86_diagnostics_payload_t`. -/
def diagnosticsPayload (manager : WorkloadManager) (x : Executor) : List UInt8 :=
  let stats := x.busStats
  let seen := stats.firstCycleSeen
  let flags := diagnosticsFlag seen 0 ||| diagnosticsFlag (seen && stats.lastDataValid) 1 |||
    diagnosticsFlag stats.noCycle 2 ||| diagnosticsFlag stats.unmapped 3 |||
    diagnosticsFlag stats.invalidLane 4 ||| diagnosticsFlag stats.padMismatch 5 |||
    diagnosticsFlag stats.clockFailure 6 ||| diagnosticsFlag stats.interruptAck 7
  leBytes 4 x.diagnosticWorkloadId.toNat ++ leBytes 4 x.diagnosticBootId.toNat ++
    leBytes 4 manager.state.code.toNat ++ leBytes 4 x.completionReason.code.toNat ++
    leBytes 4 stats.cycles.toNat ++
    leBytes 4 (if seen then stats.lastAddress.toNat else 0) ++
    leBytes 4 (if seen && stats.lastDataValid then stats.lastData.toNat else 0) ++
    leBytes 4 (if seen then stats.lastType.code.toNat else 0) ++
    leBytes 4 (if seen then stats.lastLanes.code.toNat else 0) ++ leBytes 4 flags.toNat

def workloadExecutorDiagnostics (manager : WorkloadManager) (x : Executor) (request : Message) :
    Option Message :=
  if request.type ≠ typeDiagnosticsRequest then none
  else
    let refuse (status : HostStatus) :=
      some (Message.reply typeDiagnosticsResult request status 0 [])
    if request.version ≠ hostProtocolVersion then refuse .badVersion
    else if request.length ≠ 4 ∨ request.flags ≠ 0 ∨ request.status ≠ HostStatus.ok.code then
      refuse .badLength
    else if request.word 0 ≠ 0 ∧ request.word 0 ≠ manager.workloadId then refuse .badWorkload
    else if (x.active ∧ !x.processorIdle) ∨ manager.state = .running then refuse .badState
    else if manager.state.code < WorkloadState.stopped.code ∨ x.diagnosticWorkloadId = 0 ∨
        x.diagnosticWorkloadId ≠ manager.workloadId then refuse .serviceUnavailable
    else some (Message.reply typeDiagnosticsResult request .ok 52 (diagnosticsPayload manager x))

end Rp86
