import Rp86.Host.Equiv.Codec

/-!
# Which records are replies

A record matches a request when it decodes to a message of a type that answers the request, under
the sequence of the request (`Matches`).  `validate_device_reply` takes a record exactly when it
matches and is `Credible` (`validateDeviceReply_eq_ok_iff`).
-/

namespace Rp86.Host

open Lib

/-- The types of the records that answer a request. -/
def replyTypes (messageType : ℤ) : List ℤ :=
  if messageType = typeCommand then [typeResult]
  else if messageType = typeHeartbeat then [typeHeartbeat]
  else if messageType = typeWorkloadTimeoutRequest then [typeWorkloadTimeoutResult]
  else if messageType = typeDiagnosticsRequest then [typeDiagnosticsResult]
  else if messageType = typeFilesystemRequest then [typeFilesystemResult]
  else if messageType = typeMemoryRequest then [typeMemoryResult]
  else if isWorkloadType messageType then [typeWorkloadResult, typeWorkloadStatus]
  else []

/-- A record decodes to a message of the reply type of the request, under its sequence. -/
structure Matches (request : Message) (record : List UInt8) (reply : Message) : Prop where
  decodes : (normalizeHidInput record >>= Message.decode) = .ok reply
  type_mem : reply.messageType ∈ replyTypes request.messageType
  sequence_eq : reply.sequence = request.sequence

/-- A request to the processor itself. -/
def Message.IsLive (request : Message) : Prop :=
  request.messageType = typeCommand ∨ request.messageType = typeHeartbeat

def liveReplyText (request : Message) : List UInt8 :=
  if request.messageType = typeCommand then commandReply else heartbeatReply

/-- The native witness in a reply fits the request and the expected processor. -/
def WitnessFits (request : Message) (expectedProcessor : Option NativeProcessor)
    (reply : Message) : Prop :=
  ∃ witness, NativeServiceWitness.decode reply.payload = .ok witness ∧
    witness.serviceType = request.messageType ∧
    (witness.text = liveReplyText request ∨
      request.messageType = typeCommand ∧ isCalculatorPayload request.payload = true ∧
        [0x43, 0x41, 0x4C, 0x43, 0x20] <+: witness.text) ∧
    ∀ expected, expectedProcessor = some expected → witness.processor = some expected

/-- What the Host asks of a matching reply before it takes it. -/
structure Credible (request : Message) (expectedProcessor : Option NativeProcessor)
    (reply : Message) : Prop where
  workload : isWorkloadType request.messageType = true → reply.status = statusOk
  live : request.IsLive → reply.status = statusOk ∧ WitnessFits request expectedProcessor reply

section

variable {record : List UInt8} {request reply : Message}
  {expectedProcessor : Option NativeProcessor}

/-! ### Decoding first -/

theorem decoded {f : Message → Except HostError Message} :
    (normalizeHidInput record >>= fun report => Message.decode report >>= f) = .ok reply ↔
      ∃ m, (normalizeHidInput record >>= Message.decode) = .ok m ∧ f m = .ok reply := by
  simp only [bind_eq_ok]
  constructor
  · rintro ⟨report, hreport, m, hm, h⟩
    exact ⟨m, ⟨report, hreport, hm⟩, h⟩
  · rintro ⟨m, ⟨report, hreport, hm⟩, h⟩
    exact ⟨report, hreport, m, hm, h⟩

theorem normalizeHidInput_onlyValueErrors (record : List UInt8) :
    OnlyValueErrors (normalizeHidInput record) := by
  have hcheck : ∀ report : List UInt8, OnlyValueErrors (if report.length ≠ messageSize then
      Except.error (.valueError ("HID reply must contain exactly 64 ABI bytes; got "
        ++ toString report.length)) else .ok report) := by
    intro report
    split_ifs
    · exact onlyValueErrors_raise _
    · exact onlyValueErrors_ok report
  exact hcheck _

/-- The decoders raise only `ValueError`. -/
theorem onlyValueErrors_decoded {f : Message → Except HostError Message}
    (hf : ∀ m, OnlyValueErrors (f m)) :
    OnlyValueErrors (normalizeHidInput record >>= fun report => Message.decode report >>= f) :=
  (normalizeHidInput_onlyValueErrors record).bind fun report =>
    (Message.decode_onlyValueErrors report).bind hf

/-! ### Live replies -/

/-- The checks of a live reply behind its type and sequence. -/
theorem validateLiveReply_eq_ok_iff (hlive : request.IsLive) :
    validateLiveReply record request expectedProcessor = .ok reply ↔
      Matches request record reply ∧ reply.status = statusOk ∧
        WitnessFits request expectedProcessor reply := by
  have htypes : replyTypes request.messageType
      = [if request.messageType = typeCommand then typeResult else typeHeartbeat] := by
    rcases hlive with h | h <;> rw [h] <;> decide
  have hmatches : ∀ m, Matches request record m ↔
      (normalizeHidInput record >>= Message.decode) = .ok m ∧
        m.messageType = (if request.messageType = typeCommand then typeResult else typeHeartbeat) ∧
        m.sequence = request.sequence := by
    intro m
    constructor
    · rintro ⟨hdecodes, htype, hsequence⟩
      rw [htypes, List.mem_singleton] at htype
      exact ⟨hdecodes, htype, hsequence⟩
    · rintro ⟨hdecodes, htype, hsequence⟩
      exact ⟨hdecodes, by rw [htypes, List.mem_singleton]; exact htype, hsequence⟩
  unfold validateLiveReply
  rw [decoded]
  constructor
  · rintro ⟨m, hdecodes, h⟩
    obtain ⟨htype, h⟩ := check_eq_ok.mp h
    obtain ⟨hsequence, h⟩ := check_eq_ok.mp h
    obtain ⟨hstatus, h⟩ := check_eq_ok.mp h
    obtain ⟨witness, hwitness, h⟩ := bind_eq_ok.mp h
    obtain ⟨hservice, h⟩ := check_eq_ok.mp h
    obtain ⟨htext, h⟩ := check_eq_ok.mp h
    rw [not_not] at htype hsequence hstatus hservice
    -- the processor is only compared if one is expected
    have hprocessor : m = reply ∧
        ∀ expected, expectedProcessor = some expected → witness.processor = some expected := by
      cases expectedProcessor with
      | none => exact ⟨Except.ok.inj h, fun _ heq => nomatch heq⟩
      | some expected =>
        obtain ⟨hprocessor, h⟩ := check_eq_ok.mp h
        refine ⟨Except.ok.inj h, ?_⟩
        rintro _ ⟨⟩
        exact not_not.mp hprocessor
    obtain ⟨rfl, hprocessor⟩ := hprocessor
    refine ⟨(hmatches m).mpr ⟨hdecodes, htype, hsequence⟩, hstatus, witness, hwitness, hservice, ?_,
      hprocessor⟩
    by_contra hnone
    rw [not_or] at hnone
    exact htext hnone
  · rintro ⟨hmatch, hstatus, witness, hwitness, hservice, htext, hprocessor⟩
    obtain ⟨hdecodes, htype, hsequence⟩ := (hmatches reply).mp hmatch
    refine ⟨reply, hdecodes, check_eq_ok.mpr ⟨not_not.mpr htype, check_eq_ok.mpr
      ⟨not_not.mpr hsequence, check_eq_ok.mpr ⟨not_not.mpr hstatus, bind_eq_ok.mpr
        ⟨witness, hwitness, check_eq_ok.mpr ⟨not_not.mpr hservice, check_eq_ok.mpr ⟨?_, ?_⟩⟩⟩⟩⟩⟩⟩
    · rintro ⟨hplain, hcalculator⟩
      exact htext.elim hplain hcalculator
    · cases expectedProcessor with
      | none => rfl
      | some expected =>
        exact check_eq_ok.mpr ⟨not_not.mpr (hprocessor expected rfl), rfl⟩

/-! ### All requests -/

/-- What a request that is neither live nor a workload request asks of its reply. -/
theorem credible_of_not (hlive : ¬ request.IsLive)
    (hworkload : isWorkloadType request.messageType = false) :
    Credible request expectedProcessor reply :=
  ⟨fun h => absurd (hworkload.symm.trans h) Bool.noConfusion, fun h => absurd h hlive⟩

theorem matches_singleton {messageType : ℤ}
    (htypes : replyTypes request.messageType = [messageType])
    (hcredible : Credible request expectedProcessor reply) :
    (∃ m, (normalizeHidInput record >>= Message.decode) = .ok m ∧ m.messageType = messageType ∧
        m.sequence = request.sequence ∧ (pure m : Except HostError Message) = .ok reply) ↔
      Matches request record reply ∧ Credible request expectedProcessor reply := by
  constructor
  · rintro ⟨m, hdecodes, htype, hsequence, h⟩
    obtain rfl := Except.ok.inj h
    exact ⟨⟨hdecodes, by rw [htypes, List.mem_singleton]; exact htype, hsequence⟩, hcredible⟩
  · rintro ⟨⟨hdecodes, htype, hsequence⟩, -⟩
    rw [htypes, List.mem_singleton] at htype
    exact ⟨reply, hdecodes, htype, hsequence, rfl⟩

/-- **What `validate_device_reply` takes.** -/
theorem validateDeviceReply_eq_ok_iff :
    validateDeviceReply record request expectedProcessor = .ok reply ↔
      Matches request record reply ∧ Credible request expectedProcessor reply := by
  unfold validateDeviceReply
  by_cases hlive : request.IsLive
  · have hworkload : isWorkloadType request.messageType = false := by
      rcases hlive with h | h <;> rw [h] <;> decide
    rw [if_pos (show request.messageType = typeCommand ∨ _ from hlive),
      validateLiveReply_eq_ok_iff hlive]
    constructor
    · rintro ⟨hmatch, hsound⟩
      refine ⟨hmatch, fun h => ?_, fun _ => hsound⟩
      exact absurd (hworkload.symm.trans h) Bool.noConfusion
    · rintro ⟨hmatch, hcredible⟩
      exact ⟨hmatch, hcredible.live hlive⟩
  rw [if_neg (show ¬ (request.messageType = typeCommand ∨ _) from hlive)]
  -- the next four kinds of requests have one reply type and no further check
  by_cases htimeout : request.messageType = typeWorkloadTimeoutRequest
  · rw [if_pos htimeout]
    simp only [decoded, check_eq_ok, not_or, not_not, and_assoc]
    exact matches_singleton (by rw [htimeout]; decide)
      (credible_of_not hlive (by rw [htimeout]; decide))
  rw [if_neg htimeout]
  by_cases hdiagnostics : request.messageType = typeDiagnosticsRequest
  · rw [if_pos hdiagnostics]
    simp only [decoded, check_eq_ok, not_or, not_not, and_assoc]
    exact matches_singleton (by rw [hdiagnostics]; decide)
      (credible_of_not hlive (by rw [hdiagnostics]; decide))
  rw [if_neg hdiagnostics]
  by_cases hfilesystem : request.messageType = typeFilesystemRequest
  · rw [if_pos hfilesystem]
    simp only [decoded, check_eq_ok, not_not]
    exact matches_singleton (by rw [hfilesystem]; decide)
      (credible_of_not hlive (by rw [hfilesystem]; decide))
  rw [if_neg hfilesystem]
  by_cases hmemory : request.messageType = typeMemoryRequest
  · rw [if_pos hmemory]
    simp only [decoded, check_eq_ok, not_not]
    exact matches_singleton (by rw [hmemory]; decide)
      (credible_of_not hlive (by rw [hmemory]; decide))
  rw [if_neg hmemory]
  -- what is left are the workload requests, and the types that no reply answers
  have hlive' := not_or.mp hlive
  have htypes : replyTypes request.messageType = if isWorkloadType request.messageType then
      [typeWorkloadResult, typeWorkloadStatus] else [] := by
    rw [replyTypes, if_neg hlive'.1, if_neg hlive'.2, if_neg htimeout, if_neg hdiagnostics,
      if_neg hfilesystem, if_neg hmemory]
  cases hworkload : isWorkloadType request.messageType with
  | false =>
    rw [if_pos rfl]
    constructor
    · intro h
      cases h
    · rintro ⟨hmatch, -⟩
      have htype := hmatch.type_mem
      rw [htypes, hworkload, if_neg Bool.noConfusion] at htype
      exact absurd htype List.not_mem_nil
  | true =>
    rw [if_neg Bool.noConfusion]
    rw [hworkload, if_pos rfl] at htypes
    simp only [decoded, check_eq_ok, not_not, not_and_or]
    constructor
    · rintro ⟨m, hdecodes, htype, hsequence, hstatus, h⟩
      obtain rfl := Except.ok.inj h
      refine ⟨⟨hdecodes, ?_, hsequence⟩, fun _ => hstatus, fun h => absurd h hlive⟩
      rw [htypes, List.mem_cons, List.mem_singleton]
      exact htype
    · rintro ⟨⟨hdecodes, htype, hsequence⟩, hcredible⟩
      rw [htypes, List.mem_cons, List.mem_singleton] at htype
      exact ⟨reply, hdecodes, htype, hsequence, hcredible.workload hworkload, rfl⟩

theorem validateLiveReply_onlyValueErrors :
    OnlyValueErrors (validateLiveReply record request expectedProcessor) := by
  refine onlyValueErrors_decoded fun m => ?_
  refine .check (.check (.check ?_))
  refine (NativeServiceWitness.decode_onlyValueErrors m.payload).bind fun witness => ?_
  refine .check (.check ?_)
  cases expectedProcessor with
  | none => exact onlyValueErrors_ok m
  | some expected => exact .check (onlyValueErrors_ok m)

theorem validateDeviceReply_onlyValueErrors :
    OnlyValueErrors (validateDeviceReply record request expectedProcessor) := by
  unfold validateDeviceReply
  split
  · exact validateLiveReply_onlyValueErrors
  split
  · exact onlyValueErrors_decoded fun m => .check (onlyValueErrors_ok m)
  split
  · exact onlyValueErrors_decoded fun m => .check (onlyValueErrors_ok m)
  split
  · exact onlyValueErrors_decoded fun m => .check (.check (onlyValueErrors_ok m))
  split
  · exact onlyValueErrors_decoded fun m => .check (.check (onlyValueErrors_ok m))
  split
  · exact onlyValueErrors_raise _
  · exact onlyValueErrors_decoded fun m => .check (.check (.check (onlyValueErrors_ok m)))

end

end Rp86.Host
