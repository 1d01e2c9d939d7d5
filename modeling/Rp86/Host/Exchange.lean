import Rp86.Host.Core

/-!
# One exchange of the Host

`exchange_hid_request` of `host/rp86/request_channel.py`.  The loop that waits for the reply is
given the rounds that it makes before the deadline; behind the last of them the deadline has passed.
The latency and the rounds of `service_transport` behind a reply are not modelled: the result does
not depend on them.
-/

namespace Rp86.Host

structure ExchangePoll where
  /-- What `service_transport` returns. -/
  transport : Option String
  /-- What the read gives, which is nothing when it is empty, or the text of its `OSError`. -/
  input : Except String (List UInt8)

structure ExchangeResult where
  reply : Option Message
  error : Option String
  deriving DecidableEq, Repr

/-- The result of an exchange that ends in an `OSError`. -/
def disconnected (text : String) : ExchangeResult :=
  ⟨none, some ("USB HID disconnected: " ++ text)⟩

/-- The loop of `exchange_hid_request`, with `stale_reply_error`. -/
def exchangeLoop (request : Message) (expectedProcessor : Option NativeProcessor) :
    Option String → List ExchangePoll → Except HostError ExchangeResult
  | stale, [] =>
    .ok ⟨none, some (match stale with
      | none => "device reply timeout"
      | some text => "device reply timeout after stale HID reply: " ++ text)⟩
  | stale, poll :: polls =>
    match poll.transport with
    | some error => .ok ⟨none, some error⟩
    | none =>
      match poll.input with
      | .error text => .ok (disconnected text)
      | .ok [] => exchangeLoop request expectedProcessor stale polls
      | .ok (byte :: rest) =>
        match validateDeviceReply (byte :: rest) request expectedProcessor with
        | .ok reply => .ok ⟨some reply, none⟩
        | .error (.valueError text) => exchangeLoop request expectedProcessor (some text) polls
        -- only `ValueError` is caught
        | .error e => .error e

/-- `exchange_hid_request`: `drained` is the end of the reads before the request, `written` what the
write returns. -/
def exchangeHidRequest (request : Message) (expectedProcessor : Option NativeProcessor)
    (drained : Except String Unit) (written : Except String ℤ) (polls : List ExchangePoll) :
    Except HostError ExchangeResult :=
  match drained with
  | .error text => .ok (disconnected text)
  | .ok () => do
    let _ ← hidOutputReport (← request.encode)
    match written with
    | .error text => .ok (disconnected text)
    | .ok written =>
      if written ≠ messageSize + 1 then
        .ok ⟨none, some ("short HID write: " ++ toString written ++ "/65 bytes")⟩
      else exchangeLoop request expectedProcessor none polls

end Rp86.Host
