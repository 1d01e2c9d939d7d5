import Rp86.Lib.Run
import Rp86.Runtime.Service

/-!
# Canonical runtime

The record handlers and the main loop of `runtime/canonical_runtime.c`.  A handler returns the
reply it builds; whether the transport delivers it is not modelled, except where the firmware acts
on the answer (`handle_runtime_control`).  Filesystem records only reach the flash service and
change nothing here.

A run is a list of actions on one environment.  The actions are the calls that the main loop
makes, in any order, and calls of the handlers on arbitrary messages; `mainLoopIteration` is one
turn of the loop itself.
-/

namespace Rp86

open Lib

/-! ### Workload records -/

def physicalWorkloadClockMode (b : Board) : WorkloadClockMode :=
  match b.clock.mode with
  | .freeRunning => .freeRunning
  | .clockStepped => .stepped
  | .stopped => .stopped

/-- The `workload` part of `rp86_runtime_status_capture`: `rp86_workload_result_payload_t`. -/
def workloadResultPayload (fw : Firmware) : List UInt8 :=
  let x := fw.executor
  let prepared := fw.machine.prepared
  let processorFlags : UInt32 :=
    (if x.processorIdle then (1 : UInt32) <<< 0 else 0) |||
      (if prepared.initialized then (1 : UInt32) <<< 1 else 0)
  let resultFlags := if prepared.processorIdentityValid then
    x.io.output.resultFlags ||| resultProcessorIdentified else x.io.output.resultFlags
  leBytes 4 fw.manager.workloadId.toNat ++ leBytes 4 fw.manager.state.code.toNat ++
    leBytes 4 fw.manager.received.toNat ++
    leBytes 4 (physicalWorkloadClockMode fw.machine.board).code.toNat ++
    leBytes 4 x.busStats.cycles.toNat ++ leBytes 4 processorFlags.toNat ++
    leBytes 4 resultFlags.toNat ++ leBytes 4 x.completionReason.code.toNat ++
    leBytes 2 prepared.processorSignature.toNat ++ leBytes 2 x.io.output.nativeOutput.length ++
    x.io.output.nativeOutput

/-- The reply that `send_workload_reply` sends. -/
def workloadReply (fw : Firmware) (request : Message) (status : HostStatus) (statusReply : Bool) :
    Message :=
  Message.reply (if statusReply then typeWorkloadStatus else typeWorkloadResult) request status 52
    (workloadResultPayload fw)

def workloadControlRun : UInt8 := 1
def workloadControlStop : UInt8 := 2
def workloadControlRestart : UInt8 := 3
def workloadControlStatus : UInt8 := 4

def handleBegin (request : Message) (fw : Firmware) : HostStatus × Firmware :=
  match workloadBegin fw.manager fw.backing (request.word 0)
      (some (Manifest.ofBytes request.payload 4)) with
  | none => (.badWorkload, fw)
  | some manager => (.ok, { fw with
      manager := manager
      executor := workloadExecutorClearDiagnostics fw.executor })

/-- The image bytes of a DATA record. -/
def Message.workloadData (m : Message) : List UInt8 :=
  (m.payload.drop 8).take (m.length.toNat - 8)

def handleData (request : Message) (fw : Firmware) : HostStatus × Firmware :=
  match workloadWrite fw.manager fw.backing (request.word 0) (request.word 4)
      (some request.workloadData) with
  | none => (.badSequence, fw)
  | some (manager, backing) => (.ok, { fw with manager := manager, backing := backing })

def handleCommit (request : Message) (fw : Firmware) : HostStatus × Firmware :=
  let wasReceiving := fw.manager.state = .receiving
  let (committed, manager) := workloadCommit fw.manager (request.word 0) (request.word 4)
  let fw := { fw with manager := manager }
  if committed then
    (.ok, { fw with executor := workloadExecutorStage manager.manifest.flags fw.executor })
  else (if wasReceiving then .badCrc else .badSequence, fw)

/-- The start of a workload that has just been put in `RUNNING`: the prepared calculator or the
general executor, with `FAULTED` after a failed start. -/
def startWorkload (env : Env) (calculator : Bool) (fw : Firmware) : HostStatus × Firmware :=
  if calculator then
    match startCalculatorWorkload env fw.manager fw.backing fw.machine with
    | (true, m) => (.ok, { fw with machine := m })
    | (false, m) => (.badWorkload, { fw with
        manager := { fw.manager with state := .faulted }, machine := m })
  else
    match workloadExecutorStart env fw.manager fw.backing fw.executor fw.machine with
    | (true, x, backing, m) => (.ok, { fw with backing := backing, executor := x, machine := m })
    | (false, x, backing, m) => (.badWorkload, { fw with
        manager := { fw.manager with state := .faulted }
        backing := backing
        executor := x
        machine := m })

/-- `stop_general_workload` if the executor is active. -/
def stopIfActive (env : Env) (fw : Firmware) : Firmware :=
  if fw.executor.active then
    let (x, m) := workloadExecutorStop env fw.executor fw.machine
    { fw with executor := x, machine := m }
  else fw

def handleRun (env : Env) (workloadId : UInt32) (fw : Firmware) : HostStatus × Firmware :=
  let calculator := calculatorWorkloadValid fw.manager fw.backing
  match workloadRun fw.manager workloadId with
  | none => (.badWorkload, fw)
  | some manager => startWorkload env calculator { fw with manager := manager }

def handleStop (env : Env) (workloadId : UInt32) (fw : Firmware) : HostStatus × Firmware :=
  let calculator := calculatorWorkloadValid fw.manager fw.backing
  match workloadStop fw.manager workloadId with
  | none => (.badState, fw)
  | some manager =>
    let fw := { fw with manager := manager }
    if fw.executor.active then (.ok, stopIfActive env fw)
    else if calculator then (.ok, { fw with machine := parkPhysicalProcessor env fw.machine })
    else (.ok, fw)

def handleRestart (env : Env) (workloadId : UInt32) (fw : Firmware) : HostStatus × Firmware :=
  let calculator := calculatorWorkloadValid fw.manager fw.backing
  match workloadRestart fw.manager workloadId with
  | none => (.badWorkload, fw)
  | some manager => startWorkload env calculator (stopIfActive env { fw with manager := manager })

def handleControl (env : Env) (request : Message) (fw : Firmware) : HostStatus × Firmware :=
  let operation := request.payload.getD 0 0
  let workloadId := request.word 4
  if operation = workloadControlStatus ∧ (workloadId = 0 ∨ workloadId = fw.manager.workloadId) then
    (.ok, fw)
  -- the prepared calculator is not supervised by the general executor
  else if (operation = workloadControlRun ∨ operation = workloadControlRestart) ∧
      calculatorWorkloadValid fw.manager fw.backing ∧ fw.executor.timeoutMs ≠ 0 then
    (.badState, fw)
  else if operation = workloadControlRun then handleRun env workloadId fw
  else if operation = workloadControlStop then handleStop env workloadId fw
  else if operation = workloadControlRestart then handleRestart env workloadId fw
  else (.badWorkload, fw)

/-- The status that `handle_workload_record` answers, whether as a status reply, and the state
after it. -/
def workloadRecord (env : Env) (request : Message) (fw : Firmware) :
    HostStatus × Bool × Firmware :=
  if !payloadLengthValid request then (.badLength, false, fw)
  else if request.status ≠ HostStatus.ok.code then (.badWorkload, false, fw)
  else if request.type = typeWorkloadBegin ∧ request.length = 44 then
    let (status, fw) := handleBegin request fw
    (status, false, fw)
  else if request.type = typeWorkloadData ∧ request.length > 8 then
    let (status, fw) := handleData request fw
    (status, false, fw)
  else if request.type = typeWorkloadCommit ∧ request.length = 8 then
    let (status, fw) := handleCommit request fw
    (status, false, fw)
  else if request.type = typeWorkloadControl ∧ request.length = 8 then
    let (status, fw) := handleControl env request fw
    (status, true, fw)
  else (.badLength, false, fw)

def handleWorkloadRecord (env : Env) (request : Message) (fw : Firmware) : Message × Firmware :=
  let (status, statusReply, fw) := workloadRecord env request fw
  (workloadReply fw request status statusReply, fw)

/-! ### Other records -/

def handleMemoryRecord (request : Message) (fw : Firmware) : Message × Firmware :=
  let (reply, service, backing) := hostServiceDispatchMemory fw.manager.state fw.backing request
  (reply, { fw with memoryService := service, backing := backing })

def handleTimeoutRequest (env : Env) (request : Message) (fw : Firmware) :
    Option Message × Firmware :=
  let (reply, x, board) := workloadExecutorTimeoutRequest env fw.manager request fw.executor
    fw.machine.board
  (reply, { fw with executor := x, machine := { fw.machine with board := board } })

def runtimeControlEnterBootloader : UInt8 := 1
def runtimeControlReboot : UInt8 := 3

/-- `handle_runtime_control`: after a delivered acknowledge the firmware leaves its main loop. -/
def handleRuntimeControl (env : Env) (request : Message) (fw : Firmware) :
    Option Message × Firmware :=
  let operation := request.payload.getD 0 0
  if request.status ≠ HostStatus.ok.code ∨ request.length ≠ 1 then (none, fw)
  else if operation ≠ runtimeControlEnterBootloader ∧ operation ≠ runtimeControlReboot then
    (none, fw)
  else
    let m := parkPhysicalProcessor env fw.machine
    let sent := env.recordSent m.board.reads
    (some (Message.reply typeRuntimeStatus request .ok 1 [operation]),
      { fw with machine := { m with board := m.board.next }, halted := sent })

/-- The types from `WORKLOAD_BEGIN` to `WORKLOAD_CONTROL`. -/
def isWorkloadType (type : UInt8) : Bool :=
  typeWorkloadBegin ≤ type && type ≤ typeWorkloadControl

/-- `take_non_control_record` on a received record: whether the record is left to the caller, the
reply, and the state after it. -/
def takeNonControlRecord (env : Env) (record : Message) (fw : Firmware) :
    Bool × Option Message × Firmware :=
  if record.type = typeWorkloadTimeoutRequest then
    let (reply, fw) := handleTimeoutRequest env record fw
    (false, reply, fw)
  else if record.type = typeDiagnosticsRequest then
    (false, workloadExecutorDiagnostics fw.manager fw.executor record, fw)
  else if !payloadLengthValid record then
    if record.version = hostProtocolVersion ∧ isWorkloadType record.type then
      let (reply, fw) := handleWorkloadRecord env record fw
      (false, some reply, fw)
    else (false, none, fw)
  else if record.version = hostProtocolVersion ∧ record.type = typeRuntimeControl then
    let (reply, fw) := handleRuntimeControl env record fw
    (false, reply, fw)
  else if record.version = hostProtocolVersion ∧ record.type = typeFilesystemRequest then
    (false, none, fw)
  else if record.version = hostProtocolVersion ∧ record.type = typeMemoryRequest then
    let (reply, fw) := handleMemoryRecord record fw
    (false, some reply, fw)
  else if record.version = hostProtocolVersion ∧ isWorkloadType record.type then
    let (reply, fw) := handleWorkloadRecord env record fw
    (false, some reply, fw)
  else (true, none, fw)

def takeLiveRecord (env : Env) (record : Message) (fw : Firmware) :
    Bool × Option Message × Firmware :=
  match takeNonControlRecord env record fw with
  | (false, reply, fw) => (false, reply, fw)
  | (true, reply, fw) =>
    (record.version = hostProtocolVersion ∧ record.status = HostStatus.ok.code ∧
      payloadLengthValid record ∧ (record.type = typeHeartbeat ∨ record.type = typeCommand),
      reply, fw)

/-- A live round of the prepared runtime. -/
def liveRoundStep (env : Env) (record : Message) (fw : Firmware) : Firmware :=
  { fw with machine := (runLiveRound env fw.manager fw.backing record fw.machine).2 }

/-! ### Runs -/

/-- `rp86_runtime_context_init` and `rp86_workload_executor_init`, over any processor state. -/
def firmwareInit (machine : Machine) : Firmware :=
  let backing := (sharedMailboxInit internalSramBackingInit).getD internalSramBackingInit
  { manager := workloadManagerInit
    backing := backing
    memoryService := memoryServiceInit backing
    executor := workloadExecutorInit
    machine := machine
    halted := false }

/-- A call that the main loop makes, or a call of a handler on an arbitrary message. -/
inductive FirmwareAction where
  /-- `take_non_control_record` on a received record. -/
  | record (record : Record)
  /-- `handle_workload_record` on an arbitrary message. -/
  | workloadRecord (request : Message)
  /-- `rp86_workload_executor_timeout_request` on an arbitrary message. -/
  | timeoutRequest (request : Message)
  /-- `handle_memory_record` on an arbitrary message. -/
  | memoryRecord (request : Message)
  /-- `run_live_round` on an arbitrary message. -/
  | liveRound (request : Message)
  | service
  deriving DecidableEq, Repr

/-- The effect of an action on a firmware that is in its main loop. -/
def firmwareAct (env : Env) (fw : Firmware) : FirmwareAction → Firmware
  | .record record => (takeNonControlRecord env (Message.ofRecord record) fw).2.2
  | .workloadRecord request => (handleWorkloadRecord env request fw).2
  | .timeoutRequest request => (handleTimeoutRequest env request fw).2
  | .memoryRecord request => (handleMemoryRecord request fw).2
  | .liveRound request => liveRoundStep env request fw
  | .service => workloadExecutorService env fw

def FirmwareAction.message : FirmwareAction → Option Message
  | .record received => some (Message.ofRecord received)
  | .workloadRecord request | .timeoutRequest request | .memoryRecord request
  | .liveRound request => some request
  | .service => none

/-- The reply that an action sends.  The text of a live reply is not modelled. -/
def firmwareReply (env : Env) (fw : Firmware) : FirmwareAction → Option Message
  | .record record => (takeNonControlRecord env (Message.ofRecord record) fw).2.1
  | .workloadRecord request => some (handleWorkloadRecord env request fw).1
  | .timeoutRequest request => (handleTimeoutRequest env request fw).1
  | .memoryRecord request => some (handleMemoryRecord request fw).1
  | .liveRound _ | .service => none

/-- What the Host learns from a reply with status `OK`. -/
inductive HostEvent where
  /-- No reply, a refusal, or a reply that concerns neither the upload nor the backing. -/
  | none
  | begun
  | data (bytes : List UInt8)
  | committed
  /-- An accepted CONTROL operation. -/
  | control (operation : UInt8)
  /-- A memory request that was served. -/
  | memory
  deriving DecidableEq, Repr

def Message.event (request : Message) : HostEvent :=
  if request.type = typeWorkloadBegin then .begun
  else if request.type = typeWorkloadData then .data request.workloadData
  else if request.type = typeWorkloadCommit then .committed
  else if request.type = typeWorkloadControl then .control (request.payload.getD 0 0)
  else if request.type = typeMemoryRequest then .memory
  else .none

def hostEvent (request reply : Option Message) : HostEvent :=
  match request, reply with
  | some request, some reply =>
    if reply.status = HostStatus.ok.code then request.event else .none
  | _, _ => .none

def firmwareEvent (env : Env) (fw : Firmware) (action : FirmwareAction) : HostEvent :=
  if fw.halted then .none else hostEvent action.message (firmwareReply env fw action)

/-- One action; a firmware that has left its main loop takes none. -/
def firmwareStep (env : Env) (fw : Firmware) (action : FirmwareAction) : Firmware :=
  if fw.halted then fw else firmwareAct env fw action

def firmwareRun (env : Env) (machine : Machine) (actions : List FirmwareAction) : Firmware :=
  run (firmwareStep env) (firmwareInit machine) actions

/-- One turn of the main loop of `rp86_canonical_runtime_run`, with the next two records that the
transport holds.  The second is taken only when the first has retired the prepared runtime. -/
def mainLoopIteration (env : Env) (first second : Option Record) (fw : Firmware) : Firmware :=
  let take (record : Option Record) (fw : Firmware) : Firmware :=
    match record with
    | none => fw
    | some record => firmwareStep env fw (.record record)
  if fw.executor.active then firmwareStep env (take first fw) .service
  else if fw.machine.prepared.available then
    match first with
    | none => fw
    | some record =>
      match takeLiveRecord env (Message.ofRecord record) fw with
      | (true, _, fw) => liveRoundStep env (Message.ofRecord record) fw
      | (false, _, fw) => if fw.machine.prepared.available then fw else take second fw
  else take first fw

end Rp86
