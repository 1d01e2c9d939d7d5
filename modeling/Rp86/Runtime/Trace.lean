import Rp86.Runtime.Firmware

/-!
# Runs with a record of the upload

A run of the firmware beside what the Host's records have said so far: the data of the DATA
records accepted since the last accepted BEGIN, and whether a memory request has since changed an
image byte that had already been received.  The firmware reads neither.
-/

namespace Rp86

open Lib

/-- The accepted data after an event. -/
def HostEvent.accepted (accepted : List UInt8) : HostEvent → List UInt8
  | .begun => []
  | .data bytes => accepted ++ bytes
  | _ => accepted

/-- An image byte that has been received differs between two states of the backing. -/
def WorkloadManager.overwritten (manager : WorkloadManager) (backing backing' : Backing) : Bool :=
  manager.state == .receiving && (List.range manager.received.toNat).any fun i =>
    let offset := backing.offset manager.manifest.loadAddress + i
    backing'.storage offset != backing.storage offset

/-- The firmware with the record of the upload. -/
structure Trace where
  firmware : Firmware
  accepted : List UInt8
  disturbed : Bool

def traceStep (env : Env) (t : Trace) (action : FirmwareAction) : Trace :=
  let event := firmwareEvent env t.firmware action
  let fw := firmwareStep env t.firmware action
  { firmware := fw
    accepted := event.accepted t.accepted
    disturbed := match event with
      | .begun => false
      | .memory => t.disturbed ||
          t.firmware.manager.overwritten t.firmware.backing fw.backing
      | _ => t.disturbed }

/-- The trace of a sequence of actions. -/
def traceRun (env : Env) (machine : Machine) (actions : List FirmwareAction) : Trace :=
  run (traceStep env) { firmware := firmwareInit machine, accepted := [], disturbed := false }
    actions

end Rp86
