import Rp86.Host.Equiv.Core
import Rp86.Host.ServiceClient

/-!
# Exchanges of the service client

What one exchange of the client does (`serviceRequest_eq_returned`), and the exchanges that a method
makes one after the other (`Exchanges`).
-/

namespace Rp86.Host

open Lib

variable {σ : Type} {exchange : RequestExchange σ}

/-! ### One exchange -/

section

variable {validate : Message → Message → Except HostError (List UInt8)} {missing : String}
  {request reply : Message} {c c' : ServiceClient σ}

/-- An exchange succeeds when there is a reply that passes the check. -/
theorem serviceRequest_eq_returned :
    serviceRequest exchange validate missing request c = (.returned reply, c') ↔
      (exchange c.device request).1.1 = some reply ∧
        (∃ payload, validate reply request = .ok payload) ∧
        c' = ⟨(exchange c.device request).2, nextSequence request.sequence⟩ := by
  unfold serviceRequest
  cases hreply : (exchange c.device request).1.1 with
  | none => simp [hreply]
  | some received =>
    cases hvalidate : validate received request with
    | error exception =>
      simp only [hreply, hvalidate]
      constructor
      · intro h
        cases exception <;> cases congrArg Prod.fst h
      · rintro ⟨rfl | -, ⟨payload, hpayload⟩, -⟩
        rw [hvalidate] at hpayload
        cases hpayload
    | ok payload =>
      simp only [hreply, hvalidate, Prod.mk.injEq, ServiceResult.returned.injEq, Option.some.injEq]
      constructor
      · rintro ⟨rfl, rfl⟩
        exact ⟨rfl, ⟨payload, hvalidate⟩, rfl⟩
      · rintro ⟨rfl, -, rfl⟩
        exact ⟨rfl, rfl⟩

/-- With a check that raises nothing but `ValueError`, an exchange succeeds or fails with a
text. -/
theorem serviceRequest_cases (exchange : RequestExchange σ) (missing : String) (c : ServiceClient σ)
    (hvalidate : ∀ reply exception, validate reply request = .error exception →
      ∃ text, exception = .valueError text) :
    (∃ reply c', serviceRequest exchange validate missing request c = (.returned reply, c')) ∨
      ∃ error c', serviceRequest exchange validate missing request c = (.failed error, c') := by
  unfold serviceRequest
  cases hreply : (exchange c.device request).1.1 with
  | none =>
    simp only [hreply]
    exact Or.inr ⟨_, _, rfl⟩
  | some received =>
    cases hcheck : validate received request with
    | error exception =>
      obtain ⟨text, rfl⟩ := hvalidate received exception hcheck
      simp only [hreply, hcheck]
      exact Or.inr ⟨text, _, rfl⟩
    | ok payload =>
      simp only [hreply, hcheck]
      exact Or.inl ⟨received, _, rfl⟩

end

theorem validateReply_error {reply request : Message} {exception : HostError}
    (h : validateReply reply request = .error exception) :
    ∃ text, exception = .valueError text := by
  unfold validateReply at h
  simp only [check_eq_error] at h
  rcases h with ⟨-, rfl⟩ | ⟨-, ⟨-, rfl⟩ | ⟨-, ⟨-, rfl⟩ | ⟨-, ⟨-, rfl⟩ | ⟨-, h⟩⟩⟩⟩
  · exact ⟨_, rfl⟩
  · exact ⟨_, rfl⟩
  · exact ⟨_, rfl⟩
  · exact ⟨_, rfl⟩
  · cases h

theorem validateReply_eq_ok {reply request : Message} {payload : List UInt8} :
    validateReply reply request = .ok payload ↔
      reply.messageType = typeFilesystemResult ∧ reply.sequence = request.sequence ∧
        reply.status = statusOk ∧ reply.payload ≠ [] ∧
        reply.payload.head? = request.payload.head? ∧ payload = reply.payload := by
  unfold validateReply
  simp only [check_eq_ok, not_not, not_or]
  constructor
  · rintro ⟨htype, hsequence, hstatus, ⟨hne, hecho⟩, hreturn⟩
    exact ⟨htype, hsequence, hstatus, hne, hecho, (Except.ok.inj hreturn).symm⟩
  · rintro ⟨htype, hsequence, hstatus, hne, hecho, rfl⟩
    exact ⟨htype, hsequence, hstatus, ⟨hne, hecho⟩, rfl⟩

theorem serviceFilesystemRequest_cases (exchange : RequestExchange σ) (request : Message)
    (c : ServiceClient σ) :
    (∃ reply c', serviceFilesystemRequest exchange request c = (.returned reply, c')) ∨
      ∃ error c', serviceFilesystemRequest exchange request c = (.failed error, c') :=
  serviceRequest_cases exchange _ c fun _ _ => validateReply_error

/-! ### Exchanges one after the other -/

/-- The requests of a client, with their replies, that succeed one after the other. -/
inductive Exchanges (step : Message → ServiceClient σ → ServiceResult Message × ServiceClient σ) :
    ServiceClient σ → List (Message × Message) → ServiceClient σ → Prop
  | nil (c : ServiceClient σ) : Exchanges step c [] c
  | cons {c c₁ c₂ : ServiceClient σ} {request reply : Message} {rest : List (Message × Message)}
      (hstep : step request c = (.returned reply, c₁)) (hrest : Exchanges step c₁ rest c₂) :
      Exchanges step c ((request, reply) :: rest) c₂

end Rp86.Host
