import Rp86.Host.Replies
import Rp86.Host.RequestChannel

/-!
# The broker between clients and the device actor

`DeviceBroker` (`host/rp86/broker.py`) runs in a network thread: it queues the records of clients,
writes the responses that the device actor sets, and answers `hello` with the last published
snapshot.  The device actor is the loop of the session (`host/rp86/session.py`): it takes the queued
records, exchanges them with the device, and publishes a new snapshot at the end of each
`service_broker_requests`.  What the actor does between two accesses to the shared data is one step.

The requests of the control queue, the audit of control records, UDP subscribers and the fields of
the snapshot that no client decides by are not modelled.
-/

namespace Rp86.Host

def workloadStateName (state : ℤ) : String :=
  match state with
  | 0 => "EMPTY"
  | 1 => "RECEIVING"
  | 2 => "STAGED"
  | 3 => "RUNNING"
  | 4 => "STOPPED"
  | 5 => "COMPLETED"
  | 6 => "FAULTED"
  | 7 => "TIMED_OUT"
  | state => "UNKNOWN(" ++ toString state ++ ")"

/-- The keys `request_sequence` and `workload_state` of a published snapshot. -/
structure BrokerSnapshot where
  requestSequence : ℤ
  workloadState : String
  deriving DecidableEq, Repr

structure BrokerRequest where
  client : ℕ
  record : List UInt8
  deriving DecidableEq, Repr

/-- The successful reply to a client's workload exchange: the sequence of the exchange, and the
position of the state that it carries among the states of all replies. -/
structure WorkloadReply where
  client : ℕ
  sequence : ℤ
  index : ℕ
  deriving DecidableEq, Repr

/-- A result that the actor has set; `reply` is `none` for `"ok": False`. -/
structure BrokerResult where
  client : ℕ
  reply : Option Message
  workload : Option WorkloadReply
  deriving DecidableEq, Repr

/-- A `hello` that a client has sent, with the replies that it had received then. -/
structure Hello where
  client : ℕ
  known : List WorkloadReply
  deriving DecidableEq, Repr

inductive DeviceActor where
  /-- In the loop of the session, outside `service_broker_requests`. -/
  | loop
  /-- In `service_broker_requests`, with the requests that are left and the workload replies whose
  results it has set so far. -/
  | serving (pending : List BrokerRequest) (released : List WorkloadReply)
  deriving DecidableEq, Repr

/-- The workload replies whose results were set since the last `publish`. -/
def DeviceActor.released : DeviceActor → List WorkloadReply
  | loop => []
  | serving _ released => released

structure BrokerSystem where
  /-- `DeviceBroker.requests`. -/
  requests : List BrokerRequest := []
  actor : DeviceActor := .loop
  /-- `RequestSequence.value`. -/
  requestSequence : ℤ
  /-- `WorkloadRuntimeState.lifecycle`. -/
  lifecycle : ℤ := 0
  /-- `DeviceBroker.snapshot`; before the first `publish` it has neither key. -/
  snapshot : Option BrokerSnapshot := none
  /-- The results whose responses the network thread has not written yet. -/
  resolved : List BrokerResult := []
  /-- The workload replies that clients have received. -/
  received : List WorkloadReply := []
  /-- The `hello` requests that the network thread has not answered yet. -/
  hellos : List Hello := []
  /-- The lifecycle states that the replies to workload exchanges carried, in order. -/
  states : List ℤ := []
  deriving DecidableEq, Repr

/-- `RequestSequence(sequence)` and `WorkloadRuntimeState()`. -/
def BrokerSystem.start (sequence : ℤ) : BrokerSystem :=
  { requestSequence := Host.requestSequence sequence }

def BrokerSystem.brokerSnapshot (s : BrokerSystem) : BrokerSnapshot where
  requestSequence := s.requestSequence
  workloadState := workloadStateName s.lifecycle

/-- The `try` block of `service_broker_requests`, for what `exchange` returned: the reply and, for a
workload exchange, its sequence with the state that the reply carries.  `none` stands for
`"ok": False`. -/
def brokerExchange (record : List UInt8) (reply : Option Message) :
    Option (Message × Option (ℤ × StructuredStatus)) := do
  let request ← (Message.decode record).toOption
  let reply ← reply
  if isWorkloadType request.messageType then
    let status ← (decodeStructuredStatusPayload reply.payload).toOption
    return (reply, some (request.sequence, status))
  else return (reply, none)

/-- One round of the loop over `pending()`, up to `pending.future.set_result`. -/
def BrokerSystem.serve (s : BrokerSystem) (request : BrokerRequest) (pending : List BrokerRequest)
    (released : List WorkloadReply) (reply : Option Message) : BrokerSystem :=
  match brokerExchange request.record reply with
  | none => { s with
      actor := .serving pending released
      resolved := s.resolved ++ [⟨request.client, none, none⟩] }
  | some (reply, none) => { s with
      actor := .serving pending released
      resolved := s.resolved ++ [⟨request.client, some reply, none⟩] }
  | some (reply, some (sequence, status)) =>
    let workload : WorkloadReply := ⟨request.client, sequence, s.states.length⟩
    { s with
      lifecycle := status.state
      requestSequence := nextSequence sequence
      states := s.states ++ [status.state]
      actor := .serving pending (released ++ [workload])
      resolved := s.resolved ++ [⟨request.client, some reply, some workload⟩] }

inductive BrokerAction where
  /-- The network thread takes an `exchange` request and queues its record. -/
  | request (client : ℕ) (record : List UInt8)
  /-- The network thread writes a response, and the client receives it. -/
  | respond (i : ℕ)
  | hello (client : ℕ)
  /-- The network thread answers a `hello` with the snapshot. -/
  | answer (i : ℕ)
  /-- The actor enters `service_broker_requests` and calls `pending()`. -/
  | pending
  /-- The actor serves the next request; `reply` is what `exchange` returns. -/
  | serve (reply : Option Message)
  /-- The actor calls `publish`, at the end of `service_broker_requests` or of a round of its
  loop. -/
  | publish
  /-- An exchange of the actor's own (a command of the shell, a poll, a probe, the diagnostics that
  `accept_workload_state` reads), with the state that its reply carries, if it is a workload
  reply. -/
  | own (sequence : ℤ) (state : Option ℤ)
  deriving DecidableEq, Repr

/-- One step; a step that does not apply changes nothing. -/
def brokerStep (s : BrokerSystem) : BrokerAction → BrokerSystem
  | .request client record =>
    if record.length = messageSize then { s with requests := s.requests ++ [⟨client, record⟩] }
    else s
  | .respond i =>
    match s.resolved[i]? with
    | none => s
    | some result => { s with
        resolved := s.resolved.eraseIdx i
        received := s.received ++ result.workload.toList }
  | .hello client => { s with
      hellos := s.hellos ++ [⟨client, s.received.filter (·.client = client)⟩] }
  | .answer i => { s with hellos := s.hellos.eraseIdx i }
  | .pending =>
    match s.actor with
    | .loop => { s with requests := [], actor := .serving s.requests [] }
    | .serving _ _ => s
  | .serve reply =>
    match s.actor with
    | .serving (request :: pending) released => s.serve request pending released reply
    | _ => s
  | .publish =>
    match s.actor with
    | .serving (_ :: _) _ => s
    | _ => { s with actor := .loop, snapshot := some s.brokerSnapshot }
  | .own sequence state => { s with
      requestSequence := nextSequence sequence
      lifecycle := state.getD s.lifecycle
      states := s.states ++ state.toList }

/-- The snapshot is not older than a reply: its sequence is past that of the exchange, and its state
is the one that the reply carried or that a later one did. -/
def BrokerSystem.Fresh (s : BrokerSystem) (r : WorkloadReply) : Prop :=
  ∃ snapshot ∈ s.snapshot, r.sequence < snapshot.requestSequence ∧
    ∃ state ∈ s.states.drop r.index, snapshot.workloadState = workloadStateName state

/-- Read your writes: a `hello` is answered with a snapshot that is not older than any reply that
its client had received when it sent it. -/
def AnswersFresh (s : BrokerSystem) (action : BrokerAction) : Prop :=
  ∀ i hello, action = .answer i → s.hellos[i]? = some hello → ∀ r ∈ hello.known, s.Fresh r

/-! ### What a client takes from `hello` -/

def sequenceFromHello (snapshot : Option BrokerSnapshot) : ℤ :=
  Host.requestSequence ((snapshot.map BrokerSnapshot.requestSequence).getD 1)

/-- `WebApi.workload_upload` stops the processor before it loads. -/
def stopsBeforeLoad (snapshot : Option BrokerSnapshot) : Bool :=
  (snapshot.map BrokerSnapshot.workloadState).getD "" ∈ ["RUNNING", "COMPLETED"]

end Rp86.Host
