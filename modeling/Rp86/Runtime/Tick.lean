import Rp86.Bus.Board
import Rp86.Runtime.ProcessorAbi

/-!
# Periodic tick

The 100 Hz tick source of `runtime/workload_executor.c`.  `update_periodic_tick` runs before every
bus cycle: it counts the periods that have passed and, when both recovery gates are open, asserts
`INTR` for a pending request.  The two acknowledge cycles and the end-of-interrupt write come from
the processor.
-/

namespace Rp86

def periodicTickUs : UInt64 := 10000
def periodicTickRecoveryCycles : UInt32 := 64

/-- The `tick_` fields of `rp86_workload_executor_t`. -/
structure TickState where
  enabled : Bool
  pending : Bool
  inService : Bool
  intrAsserted : Bool
  ackPhase : UInt8
  nextUs : UInt64
  deliveryNotBeforeUs : UInt64
  deliveryNotBeforeCycle : UInt32
  generated : UInt32
  delivered : UInt32
  acknowledged : UInt32
  delayed : UInt32
  coalesced : UInt32
  eoi : UInt32
  deriving DecidableEq, Repr

/-- The tick state with every field zero but `enabled`. -/
def TickState.fresh (enabled : Bool) : TickState :=
  ⟨enabled, false, false, false, 0, 0, 0, 0, 0, 0, 0, 0, 0, 0⟩

def resetTickAttempt (enabled : Bool) (b : Board) : TickState × Board :=
  (TickState.fresh enabled, processorBusSetIntr false b)

/-- `cycle_deadline_reached`; the signed comparison is that of the top bit. -/
def cycleDeadlineReached (current deadline : UInt32) : Bool :=
  deadline == 0 || (current - deadline) < 0x80000000

/-- The first half of `update_periodic_tick`: count the periods that have passed at `now`. -/
def generateTicks (now : UInt64) (t : TickState) : TickState :=
  if now < t.nextUs then t
  else
    let elapsed := 1 + (now - t.nextUs) / periodicTickUs
    let t := { t with
      nextUs := t.nextUs + elapsed * periodicTickUs
      generated := t.generated + elapsed.toUInt32 }
    -- once INTA has started, the current interrupt owns the delivery slot until its EOI
    if t.ackPhase ≠ 0 ∨ t.inService then { t with
      delayed := t.delayed + elapsed.toUInt32
      coalesced := t.coalesced + elapsed.toUInt32 }
    else if !t.pending then { t with
      pending := true
      coalesced := if elapsed > 1 then t.coalesced + (elapsed - 1).toUInt32 else t.coalesced }
    else { t with coalesced := t.coalesced + elapsed.toUInt32 }

/-- Both recovery gates are open. -/
def deliveryRecovered (now : UInt64) (cycles : UInt32) (t : TickState) : Bool :=
  (t.deliveryNotBeforeUs == 0 || t.deliveryNotBeforeUs ≤ now) &&
    cycleDeadlineReached cycles t.deliveryNotBeforeCycle

/-- The second half of `update_periodic_tick`: assert `INTR` for a deliverable request. -/
def deliverTick (now : UInt64) (cycles : UInt32) (t : TickState) (b : Board) : TickState × Board :=
  if t.pending ∧ !t.intrAsserted ∧ t.ackPhase = 0 ∧ !t.inService ∧ deliveryRecovered now cycles t
  then ({ t with intrAsserted := true }, processorBusSetIntr true b)
  else (t, b)

def updatePeriodicTick (env : Env) (idleArmed : Bool) (cycles : UInt32) (t : TickState)
    (b : Board) : TickState × Board :=
  if !t.enabled || idleArmed || t.nextUs == 0 then (t, b)
  else
    let (now, b) := timeUs64 env b
    deliverTick now cycles (generateTicks now t) b

/-- `interrupt_ack`: whether to drive the vector and the vector, or `none` when the acknowledge is
not expected. -/
def tickInterruptAck (t : TickState) (b : Board) : Option (Bool × UInt8) × TickState × Board :=
  if !t.enabled then (none, t, b)
  else if t.ackPhase = 0 then
    if !t.intrAsserted then (none, t, b)
    -- INTA #1 accepts the request and carries no vector
    else (some (false, 0),
      { t with
        intrAsserted := false
        pending := false
        ackPhase := 1
        delivered := t.delivered + 1 },
      processorBusSetIntr false b)
  else if t.ackPhase = 1 then
    -- INTA #2 samples the vector
    (some (true, interruptVectorTick),
      { t with ackPhase := 0, inService := true, acknowledged := t.acknowledged + 1 }, b)
  else (none, t, b)

/-- The retraction of a still pending request by an end-of-interrupt write. -/
def retractTick (t : TickState) (b : Board) : TickState × Board :=
  if !t.inService ∧ t.ackPhase = 0 ∧ t.intrAsserted then
    ({ t with intrAsserted := false }, processorBusSetIntr false b)
  else (t, b)

/-- The end of the interrupt in service, which restarts the wall-time gate. -/
def closeService (env : Env) (t : TickState) (b : Board) : TickState × Board :=
  if t.inService then
    let (now, b) := timeUs64 env b
    ({ t with
      inService := false
      deliveryNotBeforeUs := now + periodicTickUs
      eoi := t.eoi + 1 }, b)
  else (t, b)

/-- The end-of-interrupt write of `io_write`, `cycles` being the cycles completed before it. -/
def tickEoi (env : Env) (cycles : UInt32) (t : TickState) (b : Board) : TickState × Board :=
  if t.enabled then
    let (t, b) := retractTick t b
    let (t, b) := closeService env t b
    ({ t with deliveryNotBeforeCycle := cycles + periodicTickRecoveryCycles + 1 }, b)
  else (t, b)

/-- The tick state with its source silenced; the counters stay. -/
def TickState.quiesce (t : TickState) : TickState := { t with
  enabled := false
  pending := false
  inService := false
  intrAsserted := false
  ackPhase := 0
  deliveryNotBeforeUs := 0
  deliveryNotBeforeCycle := 0 }

/-- The tick part of the `IDLE_PREPARE` write of `io_write`. -/
def tickIdlePrepare (t : TickState) (b : Board) : TickState × Board :=
  if t.enabled then (t.quiesce, processorBusSetIntr false b) else (t, b)

end Rp86
