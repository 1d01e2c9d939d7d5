import Mathlib.Tactic.Common

/-!
# Processor bus pins

The GPIO numbers of `bus/processor_bus_pins.h` and the conversions of `bus/processor_bus.c`
between pin samples and bus words.  `AD0`–`AD15` are scattered over the GPIO range, so a data word
is never a packed field of a sample.
-/

namespace Rp86

/-- `RP86_PROCESSOR_PIN_ALE` (`ASTB`). -/
def pinAle : UInt32 := 9
def pinIom : UInt32 := 8
/-- `RP86_PROCESSOR_PIN_DTR` (`BUFRW`). -/
def pinDtr : UInt32 := 7
/-- `RP86_PROCESSOR_PIN_BHE` (`UBE`). -/
def pinBhe : UInt32 := 25
/-- `RP86_PROCESSOR_PIN_INTA` (`INTAK`). -/
def pinInta : UInt32 := 1
def pinAd0 : UInt32 := 26

/-- `ad_gpio`: the pins of `AD0`–`AD7` and `AD8`–`AD15`. -/
def adGpio : List UInt32 := [26, 19, 13, 6, 15, 0, 10, 12, 11, 22, 27, 17, 14, 3, 2, 4]

/-- The pins of `A16`–`A19`. -/
def highAddressGpio : List UInt32 := [5, 18, 23, 24]

/-- `1u << gpio` for each pin of a list. -/
def pinMask (gpios : List UInt32) : UInt32 :=
  gpios.foldl (fun mask gpio => mask ||| (1 : UInt32) <<< gpio) 0

def adBusMask : UInt32 := pinMask adGpio
def lowLaneMask : UInt32 := pinMask (adGpio.take 8)
def highLaneMask : UInt32 := pinMask (adGpio.drop 8)

def sampleBit (sample gpio : UInt32) : UInt32 := (sample >>> gpio) &&& 1

/-- The sampled bits of a list of pins, packed from bit 0 up. -/
def packSample (sample : UInt32) (gpios : List UInt32) : UInt32 :=
  gpios.zipIdx.foldl (fun value p => value ||| sampleBit sample p.1 <<< UInt32.ofNat p.2) 0

def decodeAd (sample : UInt32) : UInt16 := (packSample sample adGpio).toUInt16

def decodeAddress (sample : UInt32) : UInt32 :=
  ((decodeAd sample).toUInt32 ||| packSample sample highAddressGpio <<< 16) &&& 0xFFFFF

/-- An entry of `data_lo_lut` or `data_hi_lut`: the pins of a lane that a byte drives high. -/
def dataLut (gpios : List UInt32) (value : UInt8) : UInt32 :=
  gpios.zipIdx.foldl (fun mask p =>
    if (value.toUInt32 >>> UInt32.ofNat p.2) &&& 1 ≠ 0 then mask ||| (1 : UInt32) <<< p.1
    else mask) 0

def dataLoLut (value : UInt8) : UInt32 := dataLut (adGpio.take 8) value

def dataHiLut (value : UInt8) : UInt32 := dataLut (adGpio.drop 8) value

/-- `data_lo_lut`, `data_hi_lut` and `data_luts_ready`. -/
structure DataLuts where
  lo : List UInt32
  hi : List UInt32
  ready : Bool
  deriving DecidableEq, Repr

/-- The tables before `rp86_processor_bus_init`. -/
def DataLuts.zeroed : DataLuts where
  lo := List.replicate 256 0
  hi := List.replicate 256 0
  ready := false

def initDataLuts (luts : DataLuts) : DataLuts :=
  if luts.ready then luts
  else
    { lo := (List.range 256).map fun value => dataLoLut (UInt8.ofNat value)
      hi := (List.range 256).map fun value => dataHiLut (UInt8.ofNat value)
      ready := true }

inductive BusLanes where
  | none
  | low
  | high
  | word
  deriving DecidableEq, Repr

def BusLanes.hasLow : BusLanes → Bool
  | .low | .word => true
  | _ => false

def BusLanes.hasHigh : BusLanes → Bool
  | .high | .word => true
  | _ => false

inductive BusCycleType where
  | memRead
  | memWrite
  | ioRead
  | ioWrite
  | interruptAck
  | unsupported
  deriving DecidableEq, Repr

def BusLanes.code : BusLanes → UInt32
  | .none => 0
  | .low => 1
  | .high => 2
  | .word => 3

def BusCycleType.code : BusCycleType → UInt32
  | .memRead => 0
  | .memWrite => 1
  | .ioRead => 2
  | .ioWrite => 3
  | .interruptAck => 4
  | .unsupported => 5

structure BusCycle where
  t1Sample : UInt32
  controlSample : UInt32
  address : UInt32
  idleSteps : ℕ
  a0 : UInt32
  bheN : UInt32
  iom : UInt32
  dtr : UInt32
  intaN : UInt32
  lanes : BusLanes
  type : BusCycleType
  deriving DecidableEq, Repr

def decodeLanes (a0 bheN : UInt32) : BusLanes :=
  if a0 = 0 ∧ bheN = 0 then .word
  else if a0 = 0 ∧ bheN = 1 then .low
  else if a0 = 1 ∧ bheN = 0 then .high
  else .none

def decodeCycleType (iom dtr intaN : UInt32) : BusCycleType :=
  if intaN = 0 then .interruptAck
  else if iom ≠ 0 then (if dtr = 0 then .memRead else .memWrite)
  else (if dtr = 0 then .ioRead else .ioWrite)

end Rp86
