import Rp86.Bus.ExecutionClock

/-!
# Processor bus

`bus/processor_bus.c`: the clock-stepped cycle primitives.  Every failed clock step forces the
safe state (AD released, `RESET` asserted, clock stopped low) before it returns.
-/

namespace Rp86

def processorResetClocks : ℕ := 20

def processorBusForceSafeState (env : Env) (b : Board) : Board :=
  let b := processorBusReleaseAd b
  let b := processorBusHoldReset true b
  let b := executionClockStopLow env b
  { b with clk := .sioLow }

/-- The step-interval statistics that `rp86_processor_bus_step` keeps. -/
def recordStepTime (now : UInt64) (b : Board) : Board :=
  let maxStepIntervalUs :=
    if b.lastStepUs ≠ 0 then
      let interval := now - b.lastStepUs
      let bounded : UInt32 := if interval > 0xFFFFFFFF then 0xFFFFFFFF else interval.toUInt32
      if bounded > b.maxStepIntervalUs then bounded else b.maxStepIntervalUs
    else b.maxStepIntervalUs
  { b with maxStepIntervalUs := maxStepIntervalUs, lastStepUs := now }

def processorBusStep (env : Env) (b : Board) : UInt32 × Board :=
  let (now, b) := timeUs64 env b
  let b := recordStepTime now b
  let b := match executionClockStep env b with
    | (true, b) => b
    | (false, b) => processorBusForceSafeState env { b with faulted := true }
  (env.gpioIn b.reads, b.next)

def processorBusSetExecutionClockMode (env : Env) (mode : ExecutionClockMode) (b : Board) :
    Bool × Board :=
  executionClockSetMode env mode b

def processorBusClearFault (b : Board) : Board := { b with faulted := false }

def processorBusResetStepTiming (b : Board) : Board :=
  { b with lastStepUs := 0, maxStepIntervalUs := 0 }

/-- Up to `n` clock steps; `false` at the first that faults the bus. -/
def processorBusSteps (env : Env) : ℕ → Board → Bool × Board
  | 0, b => (true, b)
  | n + 1, b =>
    let (_, b) := processorBusStep env b
    if b.faulted then (false, b) else processorBusSteps env n b

def processorBusResetSequence (env : Env) (resetClocks : ℕ) (b : Board) : Bool × Board :=
  let b := processorBusClearFault b
  let b := processorBusReleaseAd b
  let b := processorBusHoldReset true b
  match processorBusSteps env resetClocks b with
  | (false, b) => (false, b)
  | (true, b) => (true, processorBusHoldReset false b)

/-- The idle loop of `rp86_processor_bus_wait_cycle`: the `T1` sample with the number of steps
taken, or `none` when the bus faulted or no `ALE` came. -/
def waitAle (env : Env) : ℕ → ℕ → Board → Option (UInt32 × ℕ) × Board
  | 0, _, b => (none, b)
  | n + 1, idleSteps, b =>
    let (t1, b) := processorBusStep env b
    if b.faulted then (none, b)
    else if sampleBit t1 pinAle ≠ 0 then (some (t1, idleSteps + 1), b)
    else waitAle env n (idleSteps + 1) b

/-- The cycle that a `T1` sample and a control sample describe. -/
def decodeCycle (t1 control : UInt32) (idleSteps : ℕ) : BusCycle :=
  let a0 := sampleBit t1 pinAd0
  let bheN := sampleBit t1 pinBhe
  let lanes := decodeLanes a0 bheN
  let iom := sampleBit control pinIom
  let dtr := sampleBit control pinDtr
  let intaN := sampleBit control pinInta
  let type := decodeCycleType iom dtr intaN
  { t1Sample := t1
    controlSample := control
    address := decodeAddress t1
    idleSteps := idleSteps
    a0 := a0
    bheN := bheN
    iom := iom
    dtr := dtr
    intaN := intaN
    lanes := lanes
    -- A0 and BHE carry no lanes during INTA
    type := if type ≠ .interruptAck ∧ lanes = .none then .unsupported else type }

def processorBusWaitCycle (env : Env) (maxIdleSteps : ℕ) (b : Board) : Option BusCycle × Board :=
  match waitAle env maxIdleSteps 0 b with
  | (none, b) => (none, b)
  | (some (t1, idleSteps), b) =>
    let (control, b) := processorBusStep env b
    if b.faulted then (none, b) else (some (decodeCycle t1 control idleSteps), b)

def processorBusDriveData (value : UInt16) (lanes : BusLanes) (b : Board) : Board :=
  let encoded := (if lanes.hasLow then dataLoLut value.toUInt8 else 0) |||
    (if lanes.hasHigh then dataHiLut (value >>> 8).toUInt8 else 0)
  let oeMask := (if lanes.hasLow then lowLaneMask else 0) |||
    (if lanes.hasHigh then highLaneMask else 0)
  { b with adOut := (b.adOut &&& ~~~ adBusMask) ||| encoded, adOe := b.adOe ||| oeMask }

/-- `rp86_processor_bus_complete_read`: the two readbacks. -/
def processorBusCompleteRead (env : Env) (b : Board) : Option (UInt16 × UInt16) × Board :=
  let (sample1, b) := processorBusStep env b
  if b.faulted then (none, b)
  else
    let (sample2, b) := processorBusStep env b
    if b.faulted then (none, b)
    else (some (decodeAd sample1, decodeAd sample2), processorBusReleaseAd b)

def processorBusCompleteInterruptAck (env : Env) (driveVector : Bool) (vector : UInt8) (b : Board) :
    Bool × Board :=
  let b := if driveVector then processorBusDriveData vector.toUInt16 .low b
    else processorBusReleaseAd b
  let (_, b) := processorBusStep env b
  if b.faulted then (false, processorBusReleaseAd b)
  else
    let (_, b) := processorBusStep env b
    if b.faulted then (false, processorBusReleaseAd b)
    else (true, processorBusReleaseAd b)

/-- `rp86_processor_bus_complete_write`: the three samples of the written word. -/
def processorBusCompleteWrite (env : Env) (cycle : BusCycle) (b : Board) :
    Option (UInt16 × UInt16 × UInt16) × Board :=
  let b := processorBusReleaseAd b
  let (sample1, b) := processorBusStep env b
  if b.faulted then (none, b)
  else
    let (sample2, b) := processorBusStep env b
    if b.faulted then (none, b)
    else (some (decodeAd cycle.controlSample, decodeAd sample1, decodeAd sample2), b)

def processorBusSafeHalt (env : Env) (resetClocks : ℕ) (b : Board) : Board :=
  let b := processorBusReleaseAd b
  match processorBusSetExecutionClockMode env .clockStepped b with
  | (false, b) => processorBusForceSafeState env { b with faulted := true }
  | (true, b) =>
    let b := processorBusClearFault b
    let b := processorBusHoldReset true b
    let (_, b) := processorBusSteps env resetClocks b
    processorBusForceSafeState env b

end Rp86
