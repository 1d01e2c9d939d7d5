import Rp86.Lib.LittleEndian

/-!
# Telemetry of the FreeRTOS system workload

`processor/workloads/validation/freertos_system/main.c`.  The workload keeps eight words in RAM and
updates them in critical sections.  The processor makes each update as a sequence of 16-bit writes,
and the Host may read the words between any two of them; the block is word-aligned, so that each
write is one bus cycle.

The scheduler and the queue decide only which updates the tasks make and when, so the updates are
data of a run here.
-/

namespace Rp86.Processor

open Lib

/-- `rp86_freertos_telemetry_t`, in the order of its words; `seq`, `event` and `arg` are those of
`last_event`. -/
structure Telemetry where
  ledState : UInt16 := 0
  ledToggleCount : UInt16 := 0
  queueTxCount : UInt16 := 0
  queueRxCount : UInt16 := 0
  seq : UInt16 := 0
  event : UInt16 := 0
  arg : UInt16 := 0
  errorCount : UInt16 := 0
  deriving DecidableEq, Repr

def Telemetry.bytes (t : Telemetry) : List UInt8 :=
  [t.ledState, t.ledToggleCount, t.queueTxCount, t.queueRxCount, t.seq, t.event, t.arg,
    t.errorCount].flatMap fun word => leBytes 2 word.toNat

def evtBoot : UInt16 := 1
def evtLedOn : UInt16 := 2
def evtLedOff : UInt16 := 3
def evtQueueSend : UInt16 := 4
def evtQueueRecv : UInt16 := 5
def evtError : UInt16 := 6

/-! ### Updates -/

/-- One 16-bit write of an update. -/
inductive TelemetryStore where
  | telemetrySequence
  | seq
  | ledState
  | ledToggleCount
  | queueTxCount
  | queueRxCount
  | errorCount
  /-- `gRp86Telemetry.last_event.event = usEvent`, for an argument computed from the block. -/
  | event (usEvent : Telemetry → UInt16)
  | arg (usArg : Telemetry → UInt16)

def beginTelemetryUpdateLocked : List TelemetryStore := [.telemetrySequence, .seq]

def commitEventLocked (usEvent usArg : Telemetry → UInt16) : List TelemetryStore :=
  [.event usEvent, .arg usArg, .telemetrySequence, .seq]

inductive TelemetryUpdate where
  /-- `prvPublishBootStage`, also in the critical section of `prvPublishTaskStage`. -/
  | bootStage (usStage : UInt16)
  /-- `prvPreSchedulerFail` and `prvFatal`. -/
  | error (usCode : UInt16)
  /-- A round of `prvLedTask`. -/
  | led
  /-- A round of `prvProducerTask`. -/
  | queueSend (usValue : UInt16)
  /-- A round of `prvConsumerTask`. -/
  | queueRecv (usValue : UInt16)
  deriving DecidableEq, Repr

def TelemetryUpdate.stores : TelemetryUpdate → List TelemetryStore
  | bootStage usStage =>
    beginTelemetryUpdateLocked ++ commitEventLocked (fun _ => evtBoot) (fun _ => usStage)
  | error usCode =>
    beginTelemetryUpdateLocked ++ [.errorCount] ++
      commitEventLocked (fun _ => evtError) (fun _ => usCode)
  | led =>
    beginTelemetryUpdateLocked ++ [.ledState, .ledToggleCount] ++
      commitEventLocked (fun t => if t.ledState ≠ 0 then evtLedOn else evtLedOff)
        (fun t => t.ledToggleCount)
  | queueSend usValue =>
    beginTelemetryUpdateLocked ++ [.queueTxCount] ++
      commitEventLocked (fun _ => evtQueueSend) (fun _ => usValue)
  | queueRecv usValue =>
    beginTelemetryUpdateLocked ++ [.queueRxCount] ++
      commitEventLocked (fun _ => evtQueueRecv) (fun _ => usValue)

/-! ### The workload -/

/-- The workload as far as its telemetry goes: the block, `usTelemetrySequence` and the writes that
are left of the update in progress.  The default is the state in which
`rp86_freertos_system_main` makes its first update: the startup code has cleared the block. -/
structure TelemetryWorkload where
  telemetry : Telemetry := {}
  usTelemetrySequence : UInt16 := 0
  pending : List TelemetryStore := []

def TelemetryWorkload.store (w : TelemetryWorkload) : TelemetryStore → TelemetryWorkload
  | .telemetrySequence => { w with usTelemetrySequence := w.usTelemetrySequence + 1 }
  | .seq => { w with telemetry.seq := w.usTelemetrySequence }
  | .ledState => { w with telemetry.ledState := w.telemetry.ledState ^^^ 1 }
  | .ledToggleCount => { w with telemetry.ledToggleCount := w.telemetry.ledToggleCount + 1 }
  | .queueTxCount => { w with telemetry.queueTxCount := w.telemetry.queueTxCount + 1 }
  | .queueRxCount => { w with telemetry.queueRxCount := w.telemetry.queueRxCount + 1 }
  | .errorCount => { w with telemetry.errorCount := w.telemetry.errorCount + 1 }
  | .event usEvent => { w with telemetry.event := usEvent w.telemetry }
  | .arg usArg => { w with telemetry.arg := usArg w.telemetry }

/-- A task enters the critical section of an update.  While an update is in progress no other one
can begin: interrupts are disabled until its `taskEXIT_CRITICAL`, and before the scheduler starts
there is one thread of control. -/
def TelemetryWorkload.enter (w : TelemetryWorkload) (u : TelemetryUpdate) : TelemetryWorkload :=
  match w.pending with
  | [] => { w with pending := u.stores }
  | _ :: _ => w

def TelemetryWorkload.next (w : TelemetryWorkload) : TelemetryWorkload :=
  match w.pending with
  | [] => w
  | store :: pending => { w.store store with pending := pending }

end Rp86.Processor
