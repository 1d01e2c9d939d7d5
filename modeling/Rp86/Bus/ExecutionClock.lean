import Rp86.Bus.Board

/-!
# Execution clock

`runtime/execution_clock_controller.c`: one PIO state machine that either steps the processor
clock on request or runs it freely.  A polling loop with a deadline is one read of the
environment, which says whether the loop ends before the deadline.
-/

namespace Rp86

def forceClockLow (b : Board) : Board := { b with clk := .sioLow }

/-- `prepare_common`: disable the state machine, clear its FIFOs and hand `CLK` to PIO. -/
def prepareCommon (b : Board) : Board :=
  { b with
    clk := .pio
    clock := { b.clock with smEnabled := false, issued := 0, acknowledged := 0 } }

def prepareClockStepped (env : Env) (b : Board) : Bool × Board :=
  let b := prepareCommon b
  if env.smInit b.reads then
    (true, { b.next with clock := { b.clock with
      mode := .clockStepped, smEnabled := true, program := some .clockStepped } })
  else (false, b.next)

def prepareFreeRunning (env : Env) (b : Board) : Bool × Board :=
  if env.clkHigh b.reads then (false, b.next)
  else
    let b := prepareCommon b.next
    if env.smInit b.reads then
      (true, { b.next with clock := { b.clock with
        mode := .freeRunning, smEnabled := true, program := some .freeRunning } })
    else (false, b.next)

/-- Wait for room in the transmit FIFO, put a token, wait for the answer in the receive FIFO and
take it. -/
def exchangeToken (env : Env) (b : Board) : Bool × Board :=
  if !env.fifoReady b.reads then (false, b.next)
  else
    let b := { b.next with clock := { b.clock with issued := b.clock.issued + 1 } }
    if !env.fifoReady b.reads then (false, b.next)
    else (true, { b.next with clock := { b.clock with
      acknowledged := b.clock.acknowledged + 1 } })

def stopFreeRunningLow (env : Env) (b : Board) : Bool × Board :=
  match exchangeToken env b with
  | (false, b) => (false, b)
  | (true, b) =>
    let b := { b with clock := { b.clock with smEnabled := false } }
    let b := forceClockLow b
    (true, { b with clock := { b.clock with mode := .stopped } })

def executionClockSetMode (env : Env) (mode : ExecutionClockMode) (b : Board) : Bool × Board :=
  if b.clock.mode = mode then (true, b)
  else match mode with
    | .clockStepped =>
      if b.clock.mode = .freeRunning then
        match stopFreeRunningLow env b with
        | (false, b) => (false, b)
        | (true, b) => prepareClockStepped env b
      else prepareClockStepped env b
    | .freeRunning =>
      if b.clock.mode ≠ .clockStepped then (false, b) else prepareFreeRunning env b
    | .stopped => (false, b)

def executionClockStep (env : Env) (b : Board) : Bool × Board :=
  if b.clock.mode ≠ .clockStepped then (false, b)
  else match exchangeToken env b with
    | (false, b) => (false, b)
    | (true, b) => (!env.clkHigh b.reads, b.next)

def executionClockStopLow (env : Env) (b : Board) : Board :=
  let b := if b.clock.mode = .freeRunning then (stopFreeRunningLow env b).2
    else { b with clock := { b.clock with smEnabled := false } }
  let b := forceClockLow b
  { b with clock := { b.clock with mode := .stopped } }

/-- `rp86_execution_clock_init`, behind the check of the requested rates. -/
def executionClockInit (env : Env) (b : Board) : Bool × Board :=
  prepareClockStepped env { b with clock := { b.clock with mode := .stopped } }

/-! ### Calls -/

inductive ClockCall where
  | setMode (mode : ExecutionClockMode)
  | step
  | stopLow
  deriving DecidableEq, Repr

def clockCall (env : Env) (b : Board) : ClockCall → Board
  | .setMode mode => (executionClockSetMode env mode b).2
  | .step => (executionClockStep env b).2
  | .stopLow => executionClockStopLow env b

end Rp86
