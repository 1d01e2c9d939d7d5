import Rp86.HostProtocol.Message
import Rp86.Lib.ByteMap
import Rp86.Lib.Run

/-!
# The record slot between the two cores

`spsc_record_slot.h`, as `usb_transport.c` uses it for `g_hid_out_slot`: the callback
`tud_hid_set_report_cb` publishes a HID report on Core0, `rp86_host_protocol_hid_take_record` takes
it on Core1.  Neither call is atomic.  One action is one access of a core to the slot: the load of
`ready`, one byte of a `memcpy`, or the store to `ready`; the barriers keep each core's accesses in
this order, and a list of actions is any interleaving of the two cores.
-/

namespace Rp86

open Lib

structure RecordSlot where
  record : ByteMap
  ready : Bool
  producerDrops : UInt32

/-- Where Core0 is: outside of the callback, or in its `memcpy` with `i` bytes copied. -/
inductive SlotProducer
  | idle
  | copying (record : Record) (i : ℕ)

/-- Where Core1 is: outside of the call, or in its `memcpy` with these bytes copied. -/
inductive SlotConsumer
  | idle
  | copying (bytes : List UInt8)

/-- The slot and both cores, with what has happened so far: the reports of a record's size that
reached the callback, and the calls that returned `true` on either side. -/
structure SlotSystem extends RecordSlot where
  producer : SlotProducer
  consumer : SlotConsumer
  offered : List Record
  published : List Record
  taken : List (List UInt8)

/-- The zeroed slot of the program's start. -/
def slotReset : SlotSystem := ⟨⟨fun _ => 0, false, 0⟩, .idle, .idle, [], [], []⟩

inductive SlotAction
  | setReport (buffer : List UInt8)
  | publish
  | takeRecord
  | take

/-- `tud_hid_set_report_cb` up to the load of `ready`.  The callback is not entered twice. -/
def SlotSystem.setReport (s : SlotSystem) (buffer : List UInt8) : SlotSystem :=
  match s.producer with
  | .copying _ _ => s
  | .idle =>
    if h : buffer.length = messageSize then
      let offered := s.offered ++ [⟨buffer, h⟩]
      if s.ready then { s with producerDrops := s.producerDrops + 1, offered := offered }
      else { s with producer := .copying ⟨buffer, h⟩ 0, offered := offered }
    else s

/-- The rest of `rp86_spsc_record_try_publish`: a byte of the copy, or the store to `ready`. -/
def SlotSystem.publish (s : SlotSystem) : SlotSystem :=
  match s.producer with
  | .idle => s
  | .copying record i =>
    if i < messageSize then
      { s with
        record := writeBytes s.record i [record.bytes.getD i 0]
        producer := .copying record (i + 1) }
    else { s with ready := true, producer := .idle, published := s.published ++ [record] }

/-- `rp86_spsc_record_try_take` up to the load of `ready`. -/
def SlotSystem.takeRecord (s : SlotSystem) : SlotSystem :=
  match s.consumer with
  | .copying _ => s
  | .idle => if s.ready then { s with consumer := .copying [] } else s

/-- The rest of `rp86_spsc_record_try_take`: a byte of the copy, or the store to `ready`. -/
def SlotSystem.take (s : SlotSystem) : SlotSystem :=
  match s.consumer with
  | .idle => s
  | .copying bytes =>
    if bytes.length < messageSize then
      { s with consumer := .copying (bytes ++ [s.record bytes.length]) }
    else { s with ready := false, consumer := .idle, taken := s.taken ++ [bytes] }

def slotStep (s : SlotSystem) : SlotAction → SlotSystem
  | .setReport buffer => s.setReport buffer
  | .publish => s.publish
  | .takeRecord => s.takeRecord
  | .take => s.take

def RecordSlot.pending (slot : RecordSlot) : List (List UInt8) :=
  if slot.ready then [readBytes slot.record 0 messageSize] else []

def SlotProducer.inFlight : SlotProducer → List Record
  | .idle => []
  | .copying record _ => [record]

end Rp86
