import Rp86.Host.RequestChannel
import Rp86.Runtime.Firmware

/-!
# A native command from the Web

One call of `WebApi.processor_command` (`host/apps/web/rp86_web_api.py`) with everything between it
and the physical processor: the broker that queues its record (`host/rp86/broker.py`), the device
actor that exchanges it over HID (`service_broker_requests`), and the main loop of the firmware,
which runs a native interrupt round for a live record.  Each link takes a step when it likes; the
call may give up while its record is still under way.
-/

namespace Rp86.Host

open Lib

/-- `run_live_round` raises `INTR` for this record. -/
def raisesIntr (env : Env) (record : Rp86.Message) (fw : Firmware) : Bool :=
  let m := fw.machine
  let selected := if calculatorRequested record then
    selectCalculatorOpcode fw.manager fw.backing record m else (true, m)
  selected.1 && (rearmExactStreams env m.board).1

/-- The live record that the main loop takes, with the firmware that has taken it. -/
def takenLive (env : Env) (record : Rp86.Message) (fw : Firmware) : Option Firmware :=
  if !fw.executor.active ∧ fw.machine.prepared.available then
    match takeLiveRecord env record fw with
    | (true, _, fw) => some fw
    | (false, _, _) => none
  else none

/-- The main loop runs a native interrupt round for this record. -/
def nativeRound (env : Env) (record : Rp86.Message) (fw : Firmware) : Bool :=
  match takenLive env record fw with
  | some fw => raisesIntr env record fw
  | none => false

/-- The status `OK` of the live reply, if the main loop sends one. -/
def liveReply (env : Env) (record : Rp86.Message) (fw : Firmware) : Option Bool :=
  (takenLive env record fw).map fun fw =>
    (runLiveRound env fw.manager fw.backing record fw.machine).1

inductive CommandPhase where
  /-- Before `client.hello()` of an attempt. -/
  | hello (attempt : ℕ)
  /-- In `client.exchange` of an attempt. -/
  | exchange (attempt : ℕ)
  | returned (ok : Bool)
  deriving DecidableEq, Repr

/-- The call with the records of its attempts, and the firmware. -/
structure CommandSystem where
  payload : List UInt8
  phase : CommandPhase
  /-- `DeviceBroker.requests`. -/
  queue : List (ℕ × Record)
  /-- The request that the actor has taken and not yet written. -/
  taken : Option (ℕ × Record)
  /-- The attempt whose reply the actor waits for. -/
  awaiting : Option ℕ
  /-- The records that were written and that the firmware has not taken yet. -/
  device : List Record
  /-- The live replies that the Host has not read yet, each with whether its status is `OK`. -/
  input : List Bool
  firmware : Firmware
  /-- How many native rounds the records of this call have had. -/
  rounds : ℕ

/-- `processor_command` up to its first attempt. -/
def CommandSystem.start (text : List Char) (firmware : Firmware) : CommandSystem where
  payload := utf8Encode text
  phase := if utf8Encode text = [] ∨ (utf8Encode text).length > 14 then .returned false
    else .hello 0
  queue := []
  taken := none
  awaiting := none
  device := []
  input := []
  firmware := firmware
  rounds := 0

/-- `Message(TYPE_COMMAND, sequence, payload)` under the sequence of the broker's snapshot. -/
def commandRequest (payload : List UInt8) (snapshot : ℤ) : Message where
  messageType := typeCommand
  sequence := requestSequence snapshot
  payload := payload

/-- The encoded request as the device will see it. -/
def commandRecord (payload : List UInt8) (snapshot : ℤ) : Option Record :=
  match (commandRequest payload snapshot).encode with
  | .ok bytes => if h : bytes.length = Rp86.messageSize then some ⟨bytes, h⟩ else none
  | .error _ => none

def CommandSystem.failed (attempt : ℕ) (s : CommandSystem) : CommandSystem :=
  { s with phase := if attempt = 0 then .hello 1 else .returned false }

/-- `pending.future.set_result`: it reaches the call only while it still waits for it. -/
def CommandSystem.setResult (attempt : ℕ) (ok : Bool) (s : CommandSystem) : CommandSystem :=
  if s.phase = .exchange attempt then
    if ok then { s with phase := .returned true } else s.failed attempt
  else s

inductive CommandAction where
  /-- `client.hello()` returns the sequence of the snapshot, or fails. -/
  | hello (snapshot : Option ℤ)
  /-- `client.exchange` raises, for instance when the broker is too slow. -/
  | giveUp
  /-- The actor takes the next request and drains the input. -/
  | take
  /-- `hid_device.write`; it may be short or raise. -/
  | write (written : Bool)
  /-- The main loop takes the next record. -/
  | deviceTurn
  /-- Anything else that the firmware does. -/
  | traffic (action : FirmwareAction)
  /-- The Host reads the next reply, and takes it or passes it over. -/
  | read (accepted : Bool)
  | lose
  /-- `exchange_hid_request` ends without a reply. -/
  | timeout

/-- One step; a step that does not apply changes nothing. -/
def commandStep (env : Env) (s : CommandSystem) : CommandAction → CommandSystem
  | .hello snapshot =>
    match s.phase with
    | .hello attempt =>
      match snapshot.bind (commandRecord s.payload) with
      | none => s.failed attempt
      | some record => { s with
          queue := s.queue ++ [(attempt, record)]
          phase := .exchange attempt }
    | _ => s
  | .giveUp =>
    match s.phase with
    | .exchange attempt => s.failed attempt
    | _ => s
  | .take =>
    match s.taken, s.awaiting, s.queue with
    | none, none, request :: queue => { s with queue := queue, taken := some request, input := [] }
    | _, _, _ => s
  | .write written =>
    match s.taken with
    | none => s
    | some (attempt, record) =>
      if written then { s with
        taken := none
        awaiting := some attempt
        device := s.device ++ [record] }
      else CommandSystem.setResult attempt false { s with taken := none }
  | .deviceTurn =>
    match s.device with
    | [] => s
    | record :: device =>
      let message := Rp86.Message.ofRecord record
      { s with
        device := device
        input := s.input ++ (liveReply env message s.firmware).toList
        firmware := mainLoopIteration env (some record) none s.firmware
        rounds := if nativeRound env message s.firmware then s.rounds + 1 else s.rounds }
  | .traffic action => { s with firmware := firmwareStep env s.firmware action }
  | .read accepted =>
    match s.awaiting, s.input with
    | some attempt, passed :: input =>
      if accepted && passed then
        CommandSystem.setResult attempt true { s with awaiting := none, input := input }
      else { s with input := input }
    | _, _ => s
  | .lose => { s with input := s.input.drop 1 }
  | .timeout =>
    match s.awaiting with
    | some attempt => CommandSystem.setResult attempt false { s with awaiting := none }
    | none => s

end Rp86.Host
