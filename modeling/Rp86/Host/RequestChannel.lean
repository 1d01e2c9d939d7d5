import Rp86.Host.Core

/-!
# The Host's request channel

`host/rp86/request_channel.py` with the three clients that share one `RequestSequence`
(`host/rp86/workload_client.py`, `host/rp86/service_client.py` and `service_broker_requests` of
`host/rp86/session.py`), and a device that answers the delivered requests in order, each at most
once, whenever it likes.  The requests are numbered as they are issued, and a record of the device
keeps the request it was made for; neither the Host nor the device looks at these.
-/

namespace Rp86.Host

inductive Client where
  | workload
  | service
  | broker
  deriving DecidableEq, Repr

structure Issued where
  number : ℕ
  client : Client
  message : Message
  deriving DecidableEq, Repr

/-- A record that the device has sent, with the request that it answers. -/
structure InputRecord where
  origin : Issued
  record : List UInt8
  deriving DecidableEq, Repr

/-- A reply that `exchange_hid_request` returned. -/
structure Returned where
  request : Issued
  origin : Issued
  reply : Message
  deriving DecidableEq, Repr

/-- Where the Host is in `exchange_hid_request`. -/
inductive ExchangePhase where
  | idle
  /-- Between the drain and the write. -/
  | drained (request : Issued)
  /-- In the loop that reads the reply. -/
  | sent (request : Issued)
  deriving DecidableEq, Repr

/-- The Host and the device with what is between them. -/
structure RequestChannel where
  /-- `RequestSequence.value`. -/
  sequence : ℤ
  issued : ℕ
  /-- The delivered requests that the device has not come to yet. -/
  device : List Issued
  /-- The records that the Host has not read yet. -/
  input : List InputRecord
  phase : ExchangePhase
  returned : List Returned
  deriving DecidableEq, Repr

/-- `RequestSequence.__post_init__`. -/
def requestSequence (value : ℤ) : ℤ := if value % 2 ^ 32 = 0 then 1 else value % 2 ^ 32

def advanceAfter (sequence : ℤ) : ℤ := nextSequence sequence

/-- The channel of a session that starts with `sequence`. -/
def RequestChannel.start (sequence : ℤ) : RequestChannel :=
  ⟨requestSequence sequence, 0, [], [], .idle, []⟩

inductive ChannelAction where
  /-- A client calls `exchange_hid_request`, which drains the records that are waiting. -/
  | request (client : Client) (message : Message)
  /-- `hid_device.write`; it may be short or raise. -/
  | write (written : Bool)
  | read
  /-- The deadline passes, or the transport fails. -/
  | fail
  /-- The device answers the next request. -/
  | answer (record : List UInt8)
  /-- The device gives the next request up. -/
  | drop

/-- A record that is decoded at all echoes the sequence of the request. -/
def echoes (record : List UInt8) (sequence : ℤ) : Bool :=
  match normalizeHidInput record >>= Message.decode with
  | .ok reply => reply.sequence == sequence
  | .error _ => true

/-- Whether the client calls `advance_after`, given the reply it got.  `statusDecodes` says which
payloads `update_from_payload` accepts; the broker calls it first. -/
def Client.advances (statusDecodes : List UInt8 → Bool) (request : Message) :
    Client → Option Message → Bool
  | .workload, reply => reply.isSome
  | .service, _ => true
  | .broker, none => false
  | .broker, some reply => isWorkloadType request.messageType && statusDecodes reply.payload

/-- `exchange_hid_request` returns, and the client goes on. -/
def RequestChannel.finish (statusDecodes : List UInt8 → Bool) (request : Issued)
    (reply : Option Message) (c : RequestChannel) : RequestChannel := { c with
  phase := .idle
  sequence := if request.client.advances statusDecodes request.message reply then
    nextSequence request.message.sequence else c.sequence }

/-- One step of the Host or of the device; a step that does not apply changes nothing. -/
def channelStep (statusDecodes : List UInt8 → Bool) (expectedProcessor : Option NativeProcessor)
    (c : RequestChannel) : ChannelAction → RequestChannel
  | .request client message =>
    match c.phase with
    | .idle => { c with
        issued := c.issued + 1
        input := []
        phase := .drained ⟨c.issued, client, message⟩ }
    | _ => c
  | .write written =>
    match c.phase with
    | .drained request =>
      match request.message.encode >>= hidOutputReport with
      -- the exception ends the call before the client can advance
      | .error _ => { c with phase := .idle }
      | .ok _ =>
        if written then { c with device := c.device ++ [request], phase := .sent request }
        else c.finish statusDecodes request none
    | _ => c
  | .read =>
    match c.phase, c.input with
    | .sent request, d :: input =>
      match validateDeviceReply d.record request.message expectedProcessor with
      | .error _ => { c with input := input }
      | .ok reply =>
        let returned := c.returned ++ [⟨request, d.origin, reply⟩]
        RequestChannel.finish statusDecodes request (some reply)
          { c with input := input, returned := returned }
    | _, _ => c
  | .fail =>
    match c.phase with
    | .sent request => c.finish statusDecodes request none
    | _ => c
  | .answer record =>
    match c.device with
    | [] => c
    | request :: device =>
      if echoes record request.message.sequence then
        { c with device := device, input := c.input ++ [⟨request, record⟩] }
      else c
  | .drop => { c with device := c.device.drop 1 }

end Rp86.Host
