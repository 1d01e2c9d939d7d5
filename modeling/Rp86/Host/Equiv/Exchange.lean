import Rp86.Host.Equiv.DeviceReply
import Rp86.Host.Exchange

/-!
# When an exchange ends

The loop of `exchange_hid_request` takes every `ValueError` for a sign that the record belongs to an
earlier request.  For most requests the validator raises only then; but for workload and live
requests it also raises on a reply to the very request, when its status is not OK or its witness
does not fit.
-/

namespace Rp86.Host

open Lib

variable {request : Message} {expectedProcessor : Option NativeProcessor}

/-- A round that neither ends the exchange nor brings a matching record. -/
structure ExchangePoll.Passes (poll : ExchangePoll) (request : Message) : Prop where
  transport : poll.transport = none
  input : ∃ record, poll.input = .ok record ∧ ∀ reply, ¬ Matches request record reply

/-- The exchange has ended with this result by the end of the rounds, whatever comes after. -/
def EndsWith (request : Message) (expectedProcessor : Option NativeProcessor)
    (polls : List ExchangePoll) (result : ExchangeResult) : Prop :=
  ∀ after, exchangeHidRequest request expectedProcessor (.ok ()) (.ok 65) (polls ++ after)
    = .ok result

/-- Once the request is written the exchange is its loop. -/
theorem exchangeHidRequest_written {record : List UInt8} (hencode : request.encode = .ok record)
    (polls : List ExchangePoll) :
    exchangeHidRequest request expectedProcessor (.ok ()) (.ok 65) polls
      = exchangeLoop request expectedProcessor none polls := by
  have hdecode := Message.decode_of_encode hencode
  have hsize : record.length = messageSize := (Message.decode_eq_ok_iff.mp hdecode).1.size
  have hreport : hidOutputReport record = .ok (0 :: record) := by
    rw [hidOutputReport, if_neg (not_not.mpr hsize)]
  have h65 : (65 : ℤ) = messageSize + 1 := rfl
  simp only [exchangeHidRequest, hencode, bind, Except.bind, hreport]
  rw [if_neg (not_not.mpr h65)]

/-- A record that is not taken is passed over. -/
theorem exchangeLoop_passes {poll : ExchangePoll} {record : List UInt8}
    (htransport : poll.transport = none) (hinput : poll.input = .ok record)
    (hrefused : ∀ reply, validateDeviceReply record request expectedProcessor ≠ .ok reply)
    (stale : Option String) :
    ∃ stale', ∀ polls, exchangeLoop request expectedProcessor stale (poll :: polls)
      = exchangeLoop request expectedProcessor stale' polls := by
  cases record with
  | nil =>
    refine ⟨stale, fun polls => ?_⟩
    rw [exchangeLoop, htransport, hinput]
  | cons byte rest =>
    cases hvalidate : validateDeviceReply (byte :: rest) request expectedProcessor with
    | ok reply => exact absurd hvalidate (hrefused reply)
    | error e =>
      obtain ⟨text, rfl⟩ := validateDeviceReply_onlyValueErrors _ hvalidate
      refine ⟨some text, fun polls => ?_⟩
      rw [exchangeLoop, htransport, hinput]
      simp only [hvalidate]

/-- The loop reaches the first matching record. -/
theorem exchangeLoop_reaches {before : List ExchangePoll}
    (hbefore : ∀ poll ∈ before, poll.Passes request) (stale : Option String) :
    ∃ stale', ∀ polls, exchangeLoop request expectedProcessor stale (before ++ polls)
      = exchangeLoop request expectedProcessor stale' polls := by
  induction before generalizing stale with
  | nil => exact ⟨stale, fun _ => rfl⟩
  | cons poll before ih =>
    obtain ⟨hpoll, hbefore⟩ := List.forall_mem_cons.mp hbefore
    obtain ⟨record, hinput, hnone⟩ := hpoll.input
    have hrefused : ∀ reply, validateDeviceReply record request expectedProcessor ≠ .ok reply := by
      intro reply h
      exact hnone reply (validateDeviceReply_eq_ok_iff.mp h).1
    obtain ⟨stale₁, hstep⟩ := exchangeLoop_passes hpoll.transport hinput hrefused stale
    obtain ⟨stale₂, hrest⟩ := ih hbefore stale₁
    refine ⟨stale₂, fun polls => ?_⟩
    rw [List.cons_append, hstep, hrest]

theorem exchangeLoop_takes {poll : ExchangePoll} {record : List UInt8} {reply : Message}
    (htransport : poll.transport = none) (hinput : poll.input = .ok record)
    (hvalidate : validateDeviceReply record request expectedProcessor = .ok reply)
    (stale : Option String) (polls : List ExchangePoll) :
    exchangeLoop request expectedProcessor stale (poll :: polls) = .ok ⟨some reply, none⟩ := by
  cases record with
  | nil =>
    obtain ⟨hmatch, -⟩ := validateDeviceReply_eq_ok_iff.mp hvalidate
    obtain ⟨report, hreport, -⟩ := bind_eq_ok.mp hmatch.decodes
    cases hreport
  | cons byte rest =>
    rw [exchangeLoop, htransport, hinput]
    simp only [hvalidate]

/-- **When a matching record ends the exchange.**  Let the request be written, and let the first
matching record arrive before the deadline.  The exchange ends on it exactly when the record is
`Credible`, and then it returns the reply; in the other cases it waits on. -/
theorem exchange_ends_iff (request : Message) (expectedProcessor : Option NativeProcessor)
    (encoded : List UInt8) (hencode : request.encode = .ok encoded) (before : List ExchangePoll)
    (hbefore : ∀ poll ∈ before, poll.Passes request) (poll : ExchangePoll)
    (htransport : poll.transport = none) (record : List UInt8) (hinput : poll.input = .ok record)
    (reply : Message) (hmatch : Matches request record reply) :
    ((∃ result, EndsWith request expectedProcessor (before ++ [poll]) result) ↔
        Credible request expectedProcessor reply) ∧
      (Credible request expectedProcessor reply →
        EndsWith request expectedProcessor (before ++ [poll]) ⟨some reply, none⟩) := by
  obtain ⟨stale, hreach⟩ := @exchangeLoop_reaches request expectedProcessor before hbefore none
  have hloop : ∀ after, exchangeHidRequest request expectedProcessor (.ok ()) (.ok 65)
      (before ++ [poll] ++ after)
      = exchangeLoop request expectedProcessor stale (poll :: after) := by
    intro after
    rw [exchangeHidRequest_written hencode, List.append_assoc, hreach]
    rfl
  have hends : Credible request expectedProcessor reply →
      EndsWith request expectedProcessor (before ++ [poll]) ⟨some reply, none⟩ := by
    intro hcredible after
    rw [hloop]
    exact exchangeLoop_takes htransport hinput
      (validateDeviceReply_eq_ok_iff.mpr ⟨hmatch, hcredible⟩) stale after
  refine ⟨⟨?_, fun hcredible => ⟨_, hends hcredible⟩⟩, hends⟩
  rintro ⟨result, hresult⟩
  by_contra hcredible
  have hrefused : ∀ m, validateDeviceReply record request expectedProcessor ≠ .ok m := by
    intro m h
    obtain ⟨hm, hsound⟩ := validateDeviceReply_eq_ok_iff.mp h
    obtain rfl := Except.ok.inj (hm.decodes.symm.trans hmatch.decodes)
    exact hcredible hsound
  obtain ⟨stale', hpass⟩ := exchangeLoop_passes htransport hinput hrefused stale
  -- two ways to go on, with different results
  have hlink : ∀ text, exchangeLoop request expectedProcessor stale' [⟨some text, .ok []⟩]
      = .ok ⟨none, some text⟩ := by
    intro text
    rw [exchangeLoop]
  have hone := hresult [⟨some "", .ok []⟩]
  have htwo := hresult [⟨some "x", .ok []⟩]
  rw [hloop, hpass, hlink] at hone htwo
  exact absurd (hone.trans htwo.symm) (by decide)

/-! ### A workload request -/

def statusRequest : Message := { messageType := typeWorkloadControl, sequence := 7 }

/-- A workload status under a sequence. -/
def statusReply (sequence status : ℤ) : Message :=
  { messageType := typeWorkloadStatus, sequence := sequence, status := status }

/-- A round that reads the record of a message. -/
def reads (m : Message) : ExchangePoll :=
  ⟨none, .ok (m.header.flatMap IntField.bytes ++ ljust m.payload payloadSize)⟩

/-- The reply to an earlier request is passed over, and the reply to this one returned. -/
theorem exchange_ends_status :
    EndsWith statusRequest none ([reads (statusReply 6 8)] ++ [reads (statusReply 7 0)])
      ⟨some (statusReply 7 0), none⟩ := by
  have hencode : ∀ m : Message, m.version = protocolVersion → m.Fits → m.encode
      = .ok (m.header.flatMap IntField.bytes ++ ljust m.payload payloadSize) :=
    fun m hversion hfits => Message.encode_eq_ok_iff.mpr ⟨hversion, hfits, rfl⟩
  obtain ⟨-, hends⟩ := exchange_ends_iff statusRequest none _
    (hencode statusRequest rfl ⟨by decide, by decide⟩) [reads (statusReply 6 8)] (by
      rw [List.forall_mem_singleton]
      refine ⟨rfl, _, rfl, ?_⟩
      rintro reply ⟨hdecodes, -, hsequence⟩
      have hdecodes' : (normalizeHidInput ((statusReply 6 8).header.flatMap IntField.bytes ++
          ljust (statusReply 6 8).payload payloadSize) >>= Message.decode)
          = .ok (statusReply 6 8) := by decide +kernel
      obtain rfl := Except.ok.inj (hdecodes.symm.trans hdecodes')
      exact absurd hsequence (by decide))
    (reads (statusReply 7 0)) rfl _ rfl (statusReply 7 0) ⟨by decide +kernel, by decide, rfl⟩
  exact hends ⟨fun _ => rfl, fun hlive => absurd hlive (by unfold Message.IsLive; decide)⟩

/-- A negative reply to the request itself (`BAD_STATE`) is taken for a stale one: the exchange
times out, or returns a later record. -/
theorem exchange_passes_negative :
    Matches statusRequest ((statusReply 7 8).header.flatMap IntField.bytes ++
        ljust (statusReply 7 8).payload payloadSize) (statusReply 7 8) ∧
      exchangeHidRequest statusRequest none (.ok ()) (.ok 65) [reads (statusReply 7 8)]
        = .ok ⟨none, some ("device reply timeout after stale HID reply: " ++
            "workload request status is not OK: 8")⟩ ∧
      exchangeHidRequest statusRequest none (.ok ()) (.ok 65)
          [reads (statusReply 7 8), reads (statusReply 7 0)]
        = .ok ⟨some (statusReply 7 0), none⟩ := by
  refine ⟨⟨?_, ?_, rfl⟩, ?_, ?_⟩
  · decide +kernel
  · decide
  · decide +kernel
  · decide +kernel

end Rp86.Host
