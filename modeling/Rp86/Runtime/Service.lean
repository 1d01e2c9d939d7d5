import Rp86.Runtime.Executor

/-!
# Executor service

`rp86_workload_executor_service`: one supervised bus cycle of the running workload.  The step is
split in two: `serviceCycle` makes the checks before the cycle, updates the tick and runs the
cycle, and says how it went; `serviceOutcome` acts on that.
-/

namespace Rp86

open Lib

/-- The state of the canonical runtime. -/
structure Firmware where
  manager : WorkloadManager
  backing : Backing
  memoryService : MemoryService
  executor : Executor
  machine : Machine
  /-- The firmware has left its main loop for the bootloader or a reboot. -/
  halted : Bool

/-- How the supervised part of a service step ended. -/
inductive ServiceOutcome where
  /-- The executor has nothing to supervise. -/
  | inactive
  | deadline
  | completed
  /-- The armed halt indication: no further cycle after `IDLE_PREPARE`. -/
  | armedHalt
  /-- No bus cycle, and no fault either. -/
  | noCycle
  | fault
  /-- A failed cycle that is neither. -/
  | none
  deriving DecidableEq, Repr

/-- `execution_deadline_us != 0 && time_us_64() >= execution_deadline_us`. -/
def executionDeadlineReached (env : Env) (x : Executor) (b : Board) : Bool × Board :=
  if x.executionDeadlineUs = 0 then (false, b)
  else
    let (now, b) := timeUs64 env b
    (x.executionDeadlineUs ≤ now, b)

def ClockSteppedStats.immediateFault (s : ClockSteppedStats) : Bool :=
  s.unmapped || s.invalidLane || s.padMismatch || s.clockFailure || s.interruptAck

/-- The kind of a cycle that did not complete. -/
def failedCycleOutcome (idleArmed : Bool) (s : ClockSteppedStats) : ServiceOutcome :=
  if idleArmed && !s.padMismatch && !s.clockFailure && !s.interruptAck &&
      (s.noCycle || s.unmapped || s.invalidLane) then .armedHalt
  else if s.noCycle && !s.immediateFault then .noCycle
  else if s.immediateFault then .fault
  else .none

/-- The bus cycle of a service step, on the executor, the backing and the board. -/
def executorBusCycle (env : Env) (fw : Firmware) : Bool × Firmware :=
  let x := fw.executor
  let (tick, board) := updatePeriodicTick env x.io.idleArmed x.busStats.cycles x.io.tick
    fw.machine.board
  let (completed, s) := clockSteppedServiceCycle env x.processorMemory x.resetHandoff
    (executorIo x.clockMode) 32
    { stats := x.busStats
      ram := fw.backing.storage
      context := { x.io with tick := tick }
      board := board }
  (completed, { fw with
    backing := { fw.backing with storage := s.ram }
    executor := { x with busStats := s.stats, io := s.context }
    machine := { fw.machine with board := s.board } })

/-- The bus cycle of a service step and how it went. -/
def supervisedCycle (env : Env) (fw : Firmware) : ServiceOutcome × Firmware :=
  match executorBusCycle env fw with
  | (true, fw) => (.completed, fw)
  | (false, fw) => (failedCycleOutcome fw.executor.io.idleArmed fw.executor.busStats, fw)

/-- The guards, the deadline check and the bus cycle of a service step. -/
def serviceCycle (env : Env) (fw : Firmware) : ServiceOutcome × Firmware :=
  if !fw.executor.active || fw.executor.clockMode ≠ .stepped || fw.executor.processorIdle then
    (.inactive, fw)
  else
    let (expired, board) := executionDeadlineReached env fw.executor fw.machine.board
    let fw := { fw with machine := { fw.machine with board := board } }
    if expired then (.deadline, fw) else supervisedCycle env fw

/-- Stop the executor for `reason` and move the lifecycle to `state`. -/
def endAttempt (env : Env) (reason : CompletionReason) (state : WorkloadState) (fw : Firmware) :
    Firmware :=
  let (x, m) := workloadExecutorStop env { fw.executor with completionReason := reason } fw.machine
  { fw with manager := { fw.manager with state := state }, executor := x, machine := m }

/-- The executor after an accepted halt indication. -/
def Executor.nativeHalt (x : Executor) : Executor := { x with
  io := { x.io with idleArmed := false }
  processorIdle := true
  executionDeadlineUs := 0
  completionReason := .nativeHlt
  starvationStartedUs := 0
  busStats := { x.busStats with unmapped := false, invalidLane := false, noCycle := false } }

/-- The armed halt indication of a service step. -/
def serviceArmedHalt (env : Env) (fw : Firmware) : Firmware :=
  match workloadComplete fw.manager fw.manager.workloadId with
  | none =>
    let x := { fw.executor with io := { fw.executor.io with idleArmed := false } }
    let (x, m) := workloadExecutorStop env x fw.machine
    { fw with manager := { fw.manager with state := .faulted }, executor := x, machine := m }
  | some manager => { fw with manager := manager, executor := fw.executor.nativeHalt }

/-- A service step without a bus cycle: starvation supervision. -/
def serviceNoCycle (env : Env) (fw : Firmware) : Firmware :=
  let (now, board) := timeUs64 env fw.machine.board
  let started := if fw.executor.starvationStartedUs = 0 then now
    else fw.executor.starvationStartedUs
  let fw := { fw with
    executor := { fw.executor with starvationStartedUs := started }
    machine := { fw.machine with board := board } }
  if now - started < generalBusStarvationTimeoutUs then fw
  else endAttempt env .noBusCycle .timedOut fw

/-- `starvation_started_us = 0`. -/
def Firmware.clearStarvation (fw : Firmware) : Firmware :=
  { fw with executor := { fw.executor with starvationStartedUs := 0 } }

/-- What a service step does after its cycle. -/
def serviceOutcome (env : Env) : ServiceOutcome → Firmware → Firmware
  | .inactive, fw => fw
  | .deadline, fw => endAttempt env .executionDeadline .timedOut fw
  | .completed, fw => fw.clearStarvation
  | .armedHalt, fw => serviceArmedHalt env fw
  | .noCycle, fw => serviceNoCycle env fw
  | .fault, fw => endAttempt env .busFault .faulted fw.clearStarvation
  | .none, fw => fw.clearStarvation

def workloadExecutorService (env : Env) (fw : Firmware) : Firmware :=
  let (outcome, fw) := serviceCycle env fw
  serviceOutcome env outcome fw

end Rp86
