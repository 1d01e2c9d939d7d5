import Rp86.Bus.Pins

/-!
# The board

`Env` is everything the firmware cannot choose: the microsecond timer, the sampled pins and the
outcome of each bounded wait on the PIO blocks.  Every read takes the next index of the
environment (`Board.reads`), so a fixed `Env` is one arbitrary behaviour of the hardware, and
"for every environment" is every behaviour.

`Board` is the hardware state the firmware sets: the `INTR`, `RESET` and `CLK` lines, the routing
and output enables of the AD pins, the execution clock's state machine, and the record of
`bus/processor_bus.h` that goes with them.
-/

namespace Rp86

/-- The behaviour of the hardware, by the number of the read. -/
structure Env where
  timeUs : ℕ → UInt64
  /-- Whether a wait for a PIO FIFO ends before its deadline. -/
  fifoReady : ℕ → Bool
  /-- Whether `pio_sm_init` returns `PICO_OK`. -/
  smInit : ℕ → Bool
  /-- `gpio_get(RP86_PROCESSOR_PIN_CLK)`. -/
  clkHigh : ℕ → Bool
  /-- `sio_hw->gpio_in`. -/
  gpioIn : ℕ → UInt32
  /-- Whether `rearm_exact_stream` finds its FIFO primed. -/
  streamPrimed : ℕ → Bool
  resetClocks : ℕ → Bool
  /-- The polls of a prepared live round whose interrupt is acknowledged: the words of the observer
  and how many of them are complete. -/
  livePolls : ℕ → List (List UInt32 × UInt32)
  /-- Whether a record is taken by the Host before the transport's timeout. -/
  recordSent : ℕ → Bool

inductive ExecutionClockMode where
  | stopped
  | freeRunning
  | clockStepped
  deriving DecidableEq, Repr

/-- The program a clock state machine was initialised with. -/
inductive ClockProgram where
  | clockStepped
  | freeRunning
  deriving DecidableEq, Repr

/-- Who drives the `CLK` pin: SIO, which only ever drives it low, or the clock's PIO block. -/
inductive ClkDriver where
  | sioLow
  | pio
  deriving DecidableEq, Repr

/-- The function selected for the AD pins. -/
inductive AdRoute where
  | sio
  | responder
  deriving DecidableEq, Repr

/-- `rp86_execution_clock_t` with its PIO state machine.  `issued` counts the tokens put into the
transmit FIFO since it was last cleared and `acknowledged` those taken from the receive FIFO. -/
structure ExecutionClock where
  mode : ExecutionClockMode
  smEnabled : Bool
  program : Option ClockProgram
  issued : ℕ
  acknowledged : ℕ
  deriving DecidableEq, Repr

/-- The hardware state, with `rp86_processor_bus_t`. -/
structure Board where
  /-- How many reads of the environment have been made. -/
  reads : ℕ
  intr : Bool
  /-- The last value passed to `rp86_processor_bus_set_intr`. -/
  intrRequest : Bool
  reset : Bool
  clk : ClkDriver
  adRoute : AdRoute
  /-- The SIO output enables of the AD pins. -/
  adOe : UInt32
  /-- The SIO output levels of the AD pins. -/
  adOut : UInt32
  clock : ExecutionClock
  faulted : Bool
  lastStepUs : UInt64
  maxStepIntervalUs : UInt32
  deriving DecidableEq, Repr

/-- The board after one read of the environment. -/
def Board.next (b : Board) : Board := { b with reads := b.reads + 1 }

def timeUs64 (env : Env) (b : Board) : UInt64 × Board := (env.timeUs b.reads, b.next)

def Board.putIntr (b : Board) (level : Bool) : Board := { b with intr := level }

def Board.putReset (b : Board) (level : Bool) : Board := { b with reset := level }

def processorBusSetIntr (asserted : Bool) (b : Board) : Board :=
  { b with intr := asserted, intrRequest := asserted }

def processorBusHoldReset (asserted : Bool) (b : Board) : Board := { b with reset := asserted }

def processorBusReleaseAd (b : Board) : Board := { b with adOe := b.adOe &&& ~~~ adBusMask }

def preparedRouteAdToSioHighZ (b : Board) : Board :=
  { b with adRoute := .sio, adOe := b.adOe &&& ~~~ adBusMask }

def preparedRouteAdToResponder (b : Board) : Board := { b with adRoute := .responder }

end Rp86
