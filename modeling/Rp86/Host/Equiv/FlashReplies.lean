import Rp86.Host.Equiv.Filesystem
import Rp86.Host.Equiv.ServiceClient
import Rp86.Storage.Equiv.ReadRequests

/-!
# Replies of the flash service

An exchange with the flash service (`FlashServes`) returns what the service answers in some state,
or nothing.  A reply that passes the Host's check is the answer `OK` of the operation's handler
(`FlashAnswers.accepted`).
-/

namespace Rp86.Host

open Lib

variable {ν : Type} [DecidableEq ν] {σ : Type}

/-- The flash service gives this reply to the request, in a state that meets `P`. -/
def FlashAnswers (env : FatEnv ν) (P : Flash ν → Prop) (request reply : Message) : Prop :=
  ∃ (s : Flash ν) (record : Record) (answer : Rp86.Message),
    P s ∧ request.encode = .ok record.bytes ∧ flashReply env s record = some answer ∧
      Message.decode answer.toRecord.bytes = .ok reply

/-- An exchange with the flash service.  As long as only this operation is requested, the device
keeps an invariant, and each reply is the answer of the service in a state that meets `P`. -/
structure FlashServes (env : FatEnv ν) (P : Flash ν → Prop) (operation : UInt8)
    (exchange : RequestExchange σ) (Inv : σ → Prop) : Prop where
  kept : ∀ device sequence fields, Inv device →
    Inv (exchange device (filesystemRequest operation sequence fields)).2
  answers : ∀ device sequence fields reply, Inv device →
    (exchange device (filesystemRequest operation sequence fields)).1.1 = some reply →
    FlashAnswers env P (filesystemRequest operation sequence fields) reply

variable {env : FatEnv ν} {P : Flash ν → Prop}

/-- An exchange that succeeds has an answer of the service that passes the check. -/
theorem FlashServes.returned {operation : UInt8} {exchange : RequestExchange σ} {Inv : σ → Prop}
    (h : FlashServes env P operation exchange Inv) {c c' : ServiceClient σ} {sequence : ℤ}
    {fields : List UInt8} {reply : Message} (hc : Inv c.device)
    (hreply : serviceFilesystemRequest exchange (filesystemRequest operation sequence fields) c
      = (.returned reply, c')) :
    Inv c'.device ∧ FlashAnswers env P (filesystemRequest operation sequence fields) reply ∧
      ∃ payload, validateReply reply (filesystemRequest operation sequence fields)
        = .ok payload := by
  obtain ⟨hanswer, hvalid, rfl⟩ := serviceRequest_eq_returned.mp hreply
  exact ⟨h.kept _ _ _ hc, h.answers _ _ _ _ hc hanswer, hvalid⟩

/-- **A reply that passes the check is the answer `OK` of the handler.** -/
theorem FlashAnswers.accepted {operation : UInt8} {sequence : ℤ} {fields payload : List UInt8}
    {reply : Message} (h : FlashAnswers env P (filesystemRequest operation sequence fields) reply)
    (hvalid : validateReply reply (filesystemRequest operation sequence fields) = .ok payload) :
    ∃ (s : Flash ν) (answer : FilesystemReply), P s ∧
      (handleOperation env (Rp86.Message.request Rp86.typeFilesystemRequest
        (UInt32.ofNat sequence.toNat) (operation :: fields)) s).1 = some answer ∧
      answer.status = .ok ∧
      payload = (padPayload ((Rp86.Message.request Rp86.typeFilesystemRequest
        (UInt32.ofNat sequence.toNat) (operation :: fields)).byte 0 :: answer.data)).take
          answer.length.toNat := by
  obtain ⟨s, record, answer, hP, hencode, hanswer, hdecode⟩ := h
  obtain ⟨-, -, rfl⟩ := decode_toRecord_iff.mp hdecode
  obtain ⟨-, -, hstatus, -, -, rfl⟩ := validateReply_eq_ok.mp hvalid
  obtain ⟨hrecord, -⟩ := ofRecord_of_encode hencode
  have htype : UInt8.ofNat typeFilesystemRequest.toNat = Rp86.typeFilesystemRequest := rfl
  rw [htype] at hrecord
  -- the status of the reply is that of the answer
  have hok : ∀ fields : FilesystemReply, answer = filesystemReply (Message.ofRecord record) fields →
      fields.status = .ok := by
    rintro fields rfl
    have hcode : (fields.status.code.toNat : ℤ) = 0 := hstatus
    exact HostStatus.code_eq_ok.mp (UInt16.toNat_inj.mp (Int.ofNat_inj.mp hcode))
  unfold flashReply flashServiceHandle at hanswer
  split_ifs at hanswer
  · exact absurd (hok _ (Option.some.inj hanswer).symm) (by decide)
  · have hfields := (Option.some.inj hanswer).symm
    cases hhandled : (handleOperation env (Message.ofRecord record) s).1 with
    | none =>
      simp only [hhandled] at hfields
      exact absurd (hok _ hfields) (by decide)
    | some fields =>
      simp only [hhandled] at hfields
      rw [hrecord] at hhandled
      refine ⟨s, fields, hP, hhandled, hok _ hfields, ?_⟩
      rw [hfields, ← hrecord]
      rfl

/-! ### The service behind an exchange -/

/-- The exchange that hands each record to the flash service and decodes its answer. -/
def flashExchange (env : FatEnv ν) : RequestExchange (Flash ν) := fun s request =>
  match request.encode with
  | .error _ => ((none, none), s)
  | .ok bytes =>
    if h : bytes.length = Rp86.messageSize then
      (((flashReply env s ⟨bytes, h⟩).bind fun answer =>
        (Message.decode answer.toRecord.bytes).toOption, none), flashStep env s ⟨bytes, h⟩)
    else ((none, none), s)

/-- **The flash service behind the exchange serves it**, with what its steps keep. -/
theorem flashExchange_serves {operation : UInt8}
    (hkept : ∀ s record, P s → (Message.ofRecord record).byte 0 = operation →
      P (flashStep env s record)) :
    FlashServes env P operation (flashExchange env) P := by
  refine ⟨fun s sequence fields hs => ?_, fun s sequence fields reply hs hreply => ?_⟩
  · unfold flashExchange
    cases hencode : (filesystemRequest operation sequence fields).encode with
    | error exception => exact hs
    | ok bytes =>
      simp only
      split_ifs with hlength
      · obtain ⟨hrecord, -⟩ := @ofRecord_of_encode _ _ _ ⟨bytes, hlength⟩ hencode
        refine hkept s ⟨bytes, hlength⟩ hs ?_
        rw [hrecord]
        rfl
      · exact hs
  · unfold flashExchange at hreply
    cases hencode : (filesystemRequest operation sequence fields).encode with
    | error exception =>
      rw [hencode] at hreply
      cases hreply
    | ok bytes =>
      simp only [hencode] at hreply
      split_ifs at hreply with hlength
      obtain ⟨answer, hanswer, hdecode⟩ := Option.bind_eq_some_iff.mp hreply
      refine ⟨s, ⟨bytes, hlength⟩, answer, hs, hencode, hanswer, ?_⟩
      cases hmessage : Message.decode answer.toRecord.bytes with
      | error exception =>
        rw [hmessage] at hdecode
        cases hdecode
      | ok message =>
        rw [hmessage] at hdecode
        cases hdecode
        rfl

end Rp86.Host
