import Rp86.Host.Remote
import Rp86.Lib.Run

/-!
# Exclusive remote ownership

One token at a time is authorised, and only the request that presents it gives it up.  But a command
is authorised first and posted afterwards, and in between the token may be released and the
processor acquired by somebody else (`command_after_release`).
-/

namespace Rp86.Host

open Lib

theorem eq_of_compareDigest {a b : List Char} (h : compareDigest a b = some true) : a = b := by
  unfold compareDigest at h
  split_ifs at h
  exact of_decide_eq_true (Option.some.inj h)

theorem eq_of_presents {token : Option (List Char)} {current : List Char}
    (h : presents token current = some true) : token = some current := by
  unfold presents at h
  split at h
  · cases h
  · cases h
  · rw [eq_of_compareDigest h]

/-! ### The session -/

section

variable {s s' : PublicSession} {token owner : Option (List Char)} {fresh : List Char} {now : ℚ}
  {reply : GatewayReply} {accepted : Bool}

/-- A processor that is owned stays with its owner; a free one is handed out under `fresh`. -/
theorem acquire_token (h : s.acquire fresh now token owner = some (reply, s')) :
    s'.token = if s.token.isNone then some fresh else s.token := by
  unfold PublicSession.acquire at h
  cases htoken : s.token with
  | none =>
    simp only [htoken] at h
    cases h
    rfl
  | some current =>
    simp only [htoken, Option.map_eq_some_iff] at h
    obtain ⟨mine, -, hresult⟩ := h
    split_ifs at hresult <;> cases hresult
    · rfl
    · exact htoken

/-- Only the token itself is released. -/
theorem release_token (h : s.release token = some (reply, s')) :
    s'.token = s.token ∨ ∃ current, s.token = some current ∧ token = some current ∧
      s'.token = none := by
  unfold PublicSession.release at h
  cases htoken : s.token with
  | none =>
    simp only [htoken] at h
    cases h
    exact Or.inl htoken
  | some current =>
    simp only [htoken, Option.map_eq_some_iff] at h
    obtain ⟨mine, hmine, hresult⟩ := h
    split_ifs at hresult with htrue
    · subst htrue
      cases hresult
      exact Or.inr ⟨current, rfl, eq_of_presents hmine, rfl⟩
    · cases hresult
      exact Or.inl htoken

/-- Only the token itself is authorised, and it stays. -/
theorem authorize_token (h : s.authorize now token = some (accepted, s')) :
    s'.token = s.token ∧ (accepted = true → token = s.token ∧ s.token.isSome = true) := by
  unfold PublicSession.authorize at h
  cases htoken : s.token with
  | none =>
    simp only [htoken] at h
    cases h
    exact ⟨htoken, fun hfalse => by cases hfalse⟩
  | some current =>
    simp only [htoken, Option.map_eq_some_iff] at h
    obtain ⟨mine, hmine, hresult⟩ := h
    split_ifs at hresult with htrue
    · subst htrue
      cases hresult
      exact ⟨rfl, fun _ => ⟨eq_of_presents hmine, rfl⟩⟩
    · cases hresult
      exact ⟨htoken, fun hfalse => by cases hfalse⟩

end

/-! ### Commands in flight -/

/-- The token under which a thread's command was authorised, until `API.post` has returned. -/
def PostThread.flight : PostThread → Option (List Char)
  | .authorized token _ | .posting token _ => some token
  | _ => none

/-- The token of the command that a thread has in flight. -/
def Gateway.flight (g : Gateway) (id : ℕ) : Option (List Char) :=
  (g.threads id).bind PostThread.flight

/-- The thread is about to release `token`, which it presents. -/
def Gateway.Releases (g : Gateway) (a : GatewayAction) (token : List Char) : Prop :=
  ∃ id now r payloadToken owner, a = .session id now ∧ g.threads id = some (.arrived r) ∧
    r.path = .release ∧ r.body = some (payloadToken, owner) ∧
    r.sessionToken payloadToken = some token

/-- What a step does to the ownership and to the commands in flight. -/
inductive GatewayEffect (tokens : ℕ → List Char) (g : Gateway) (a : GatewayAction) (g' : Gateway) :
    Prop
  | keep (htoken : g'.session.token = g.session.token) (hissued : g'.issued = g.issued)
      (hflight : ∀ id token, g'.flight id = some token →
        g.flight id = some token ∨ g.session.token = some token)
  | acquire (hfree : g.session.token = none) (htoken : g'.session.token = some (tokens g.issued))
      (hissued : g'.issued = g.issued + 1)
      (hflight : ∀ id token, g'.flight id = some token → g.flight id = some token)
  | release (token : List Char) (howned : g.session.token = some token)
      (hreleases : g.Releases a token) (htoken : g'.session.token = none)
      (hissued : g'.issued = g.issued)
      (hflight : ∀ id token, g'.flight id = some token → g.flight id = some token)

theorem flight_setThread (g : Gateway) (id : ℕ) (thread : PostThread) (id' : ℕ) :
    (g.setThread id thread).flight id' = if id' = id then thread.flight else g.flight id' := by
  unfold Gateway.flight Gateway.setThread
  by_cases h : id' = id
  · subst h
    simp
  · simp [h]

/-- A thread that has nothing in flight any more. -/
theorem flight_of_setThread {g : Gateway} {id id' : ℕ} {thread : PostThread} {token : List Char}
    (hthread : thread.flight = none) (h : (g.setThread id thread).flight id' = some token) :
    g.flight id' = some token := by
  rw [flight_setThread] at h
  split_ifs at h
  · rw [hthread] at h
    cases h
  · exact h

section

variable {tokens : ℕ → List Char} {g : Gateway} {id : ℕ}

/-- The call of the session that a thread makes. -/
theorem doPost_effect {r : PostRequest} {now : ℚ} (hthread : g.threads id = some (.arrived r)) :
    GatewayEffect tokens g (.session id now) (doPost (tokens g.issued) now id r g) := by
  unfold doPost
  cases hbody : r.body with
  -- a body that cannot be read is refused before the session is called
  | none =>
    exact .keep rfl rfl fun id' token h => Or.inl (flight_of_setThread rfl h)
  | some body =>
    obtain ⟨payloadToken, owner⟩ := body
    have hraised : GatewayEffect tokens g (.session id now) (g.setThread id .raised) :=
      .keep rfl rfl fun id' token h => Or.inl (flight_of_setThread rfl h)
    cases hpath : r.path with
    | acquire =>
      simp only
      rcases hacquire : g.session.acquire (tokens g.issued) now (r.sessionToken payloadToken) owner
        with _ | ⟨reply, session⟩
      · exact hraised
      · have htoken := acquire_token hacquire
        -- an owned processor stays with its owner, whatever token is presented
        cases hfree : g.session.token with
        | none =>
          rw [hfree] at htoken
          exact .acquire hfree htoken (by simp [Gateway.setThread])
            fun id' token h => flight_of_setThread rfl h
        | some current =>
          rw [hfree] at htoken
          exact .keep (htoken.trans hfree.symm) (by simp [Gateway.setThread])
            fun id' token h => Or.inl (flight_of_setThread rfl h)
    | release =>
      simp only
      rcases hrelease : g.session.release (r.sessionToken payloadToken)
        with _ | ⟨reply, session⟩
      · exact hraised
      · rcases release_token hrelease with hkeep | ⟨current, howned, hpresents, hnone⟩
        · exact .keep hkeep rfl fun id' token h => Or.inl (flight_of_setThread rfl h)
        · exact .release current howned
            ⟨id, now, r, payloadToken, owner, rfl, hthread, hpath, hbody, hpresents⟩ hnone rfl
            fun id' token h => flight_of_setThread rfl h
    | command path =>
      simp only
      rcases hauthorize : g.session.authorize now (r.sessionToken payloadToken)
        with _ | ⟨_ | _, session⟩
      · exact hraised
      · exact .keep (authorize_token hauthorize).1 rfl
          fun id' token h => Or.inl (flight_of_setThread rfl h)
      -- the command is in flight from here on, under the token of the owner
      · obtain ⟨hkeep, haccepted⟩ := authorize_token hauthorize
        obtain ⟨hpresents, howned⟩ := haccepted rfl
        refine .keep hkeep rfl fun id' token h => ?_
        rw [flight_setThread] at h
        split_ifs at h
        · obtain ⟨current, hcurrent⟩ := Option.isSome_iff_exists.mp howned
          rw [hpresents, hcurrent] at h
          exact Or.inr (hcurrent.trans h)
        · exact Or.inl h

theorem gatewayStep_effect (a : GatewayAction) :
    GatewayEffect tokens g a (gatewayStep tokens g a) := by
  have hidle : GatewayEffect tokens g a g := .keep rfl rfl fun _ _ => Or.inl
  unfold gatewayStep
  cases a with
  | arrive id request =>
    simp only
    split
    · exact .keep rfl rfl fun id' token h => Or.inl (flight_of_setThread rfl h)
    · exact hidle
  | session id now =>
    simp only
    split
    · next request hthread => exact doPost_effect hthread
    · exact hidle
  | post id =>
    simp only
    split
    · next token path hthread =>
      -- the command was already in flight under this token
      refine .keep rfl rfl fun id' token' h => Or.inl ?_
      rw [flight_setThread] at h
      split_ifs at h with hid
      · unfold Gateway.flight
        rw [hid, hthread]
        exact h
      · exact h
    · exact hidle
  | finish id status =>
    simp only
    split
    · exact .keep rfl rfl fun id' token h => Or.inl (flight_of_setThread rfl h)
    · exact hidle

end

/-! ### Runs -/

/-- Every command in flight was authorised by the owner's token. -/
def Gateway.FlightsOwned (g : Gateway) : Prop :=
  ∀ id token, g.flight id = some token → g.session.token = some token

/-- Every call of `API.post` that is under way was authorised by the owner's token. -/
def Gateway.Exclusive (g : Gateway) : Prop :=
  ∀ id token path, g.threads id = some (.posting token path) → g.session.token = some token

/-- The step releases the owner's token while a command that it authorised is in flight. -/
def ReleasedInFlight (g : Gateway) (a : GatewayAction) : Prop :=
  ∃ token, g.session.token = some token ∧ g.Releases a token ∧ ∃ id, g.flight id = some token

section

variable {tokens : ℕ → List Char}

theorem flightsOwned_step (g : Gateway) (a : GatewayAction) (ha : ¬ ReleasedInFlight g a)
    (h : g.FlightsOwned) : (gatewayStep tokens g a).FlightsOwned := by
  intro id token hflight'
  rcases @gatewayStep_effect tokens g a with
    ⟨htoken, -, hflight⟩ | ⟨hfree, -, -, hflight⟩ | ⟨current, howned, hreleases, -, -, hflight⟩
  · rw [htoken]
    exact (hflight id token hflight').elim (h id token) fun howner => howner
  · have howner := h id token (hflight id token hflight')
    rw [hfree] at howner
    cases howner
  · have howner := h id token (hflight id token hflight')
    obtain rfl := Option.some.inj (howned.symm.trans howner)
    exact absurd ⟨current, howned, hreleases, id, hflight id current hflight'⟩ ha

theorem Gateway.FlightsOwned.exclusive {g : Gateway} (h : g.FlightsOwned) : g.Exclusive := by
  intro id token path hthread
  refine h id token ?_
  unfold Gateway.flight
  rw [hthread]
  rfl

/-- A token that was handed out and given up. -/
def Gateway.Retired (tokens : ℕ → List Char) (k : ℕ) (g : Gateway) : Prop :=
  k < g.issued ∧ g.session.token ≠ some (tokens k)

theorem retired_step (hunique : Function.Injective tokens) (k : ℕ) (g : Gateway)
    (a : GatewayAction) (h : g.Retired tokens k) : (gatewayStep tokens g a).Retired tokens k := by
  obtain ⟨hissued, hnot⟩ := h
  rcases @gatewayStep_effect tokens g a with
    ⟨htoken, hcount, -⟩ | ⟨-, htoken, hcount, -⟩ | ⟨-, -, -, htoken, hcount, -⟩
  · exact ⟨hcount ▸ hissued, htoken ▸ hnot⟩
  · refine ⟨by omega, fun heq => ?_⟩
    have hsame := hunique (Option.some.inj (htoken.symm.trans heq))
    omega
  · exact ⟨hcount ▸ hissued, fun heq => by rw [htoken] at heq; cases heq⟩

end

/-- **Exclusive ownership.**

At any time at most one token is authorised; an owned processor changes hands only by a release that
presents its token; and a token that was given up is never the owner's again.  If no token is
released while a command that it authorised is in flight, every call of `API.post` is under way
only while its token is the owner's. -/
theorem exclusive_ownership (tokens : ℕ → List Char) (hunique : Function.Injective tokens)
    (actions : List GatewayAction) :
    let g := run (gatewayStep tokens) .start actions
    (∀ now now' token token' s s', g.session.authorize now token = some (true, s) →
        g.session.authorize now' token' = some (true, s') → token = token') ∧
      (∀ a token, g.session.token = some token →
        (gatewayStep tokens g a).session.token ≠ some token → g.Releases a token) ∧
      (∀ k more, k < g.issued → g.session.token ≠ some (tokens k) →
        (run (gatewayStep tokens) g more).session.token ≠ some (tokens k)) ∧
      (StepsMeet (gatewayStep tokens) (fun g a => ¬ ReleasedInFlight g a) .start actions →
        g.Exclusive) := by
  intro g
  refine ⟨fun now now' token token' s s' h h' => ?_, fun a token howned hlost => ?_,
    fun k more hissued hnot => ?_, fun hsteps => ?_⟩
  · exact ((authorize_token h).2 rfl).1.trans ((authorize_token h').2 rfl).1.symm
  · rcases @gatewayStep_effect tokens g a with
      ⟨htoken, -, -⟩ | ⟨hfree, -, -, -⟩ | ⟨current, howned', hreleases, -, -, -⟩
    · exact absurd (htoken.trans howned) hlost
    · rw [hfree] at howned
      cases howned
    · obtain rfl := Option.some.inj (howned.symm.trans howned')
      exact hreleases
  · exact (run_invariant (retired_step hunique k) more ⟨hissued, hnot⟩).2
  · have hstart : Gateway.start.FlightsOwned := fun id token h => by cases h
    exact (run_invariant_of_stepsMeet flightsOwned_step actions hsteps hstart).exclusive

/-- Tokens that never repeat. -/
def countedTokens (n : ℕ) : List Char := List.replicate (n + 1) 'a'

theorem countedTokens_injective : Function.Injective countedTokens := by
  intro m n h
  have hlength := congrArg List.length h
  simp only [countedTokens, List.length_replicate] at hlength
  omega

/-- A request with `token` in its header and an empty body. -/
def plainRequest (path : PostPath) (token : Option (List Char)) : PostRequest :=
  ⟨path, token, some (none, none)⟩

/-- A browser acquires the processor, and its command is authorised. -/
def authorizedCommand : List GatewayAction :=
  [.arrive 0 (plainRequest .acquire none), .session 0 0,
    .arrive 1 (plainRequest (.command ['r', 'u', 'n']) (some (countedTokens 0))), .session 1 1]

theorem exclusive_ownership_command :
    let g := run (gatewayStep countedTokens) .start (authorizedCommand ++ [.post 1])
    Function.Injective countedTokens ∧
      g.threads 1 = some (.posting (countedTokens 0) ['r', 'u', 'n']) ∧ g.Exclusive := by
  intro g
  refine ⟨countedTokens_injective, rfl, ?_⟩
  obtain ⟨-, -, -, hexclusive⟩ := exclusive_ownership countedTokens countedTokens_injective
    (authorizedCommand ++ [.post 1])
  refine hexclusive ?_
  -- no thread of this run is about to release anything
  have hnone : ∀ (g : Gateway) a, (∀ id now r, a = .session id now →
      g.threads id = some (.arrived r) → r.path ≠ .release) → ¬ ReleasedInFlight g a := by
    rintro g a hpath ⟨token, -, ⟨id, now, r, -, -, ha, hthread, hrelease, -⟩, -⟩
    exact hpath id now r ha hthread hrelease
  unfold authorizedCommand
  simp only [List.cons_append, List.nil_append, stepsMeet_cons]
  refine ⟨hnone _ _ ?_, hnone _ _ ?_, hnone _ _ ?_, hnone _ _ ?_, hnone _ _ ?_, stepsMeet_nil⟩ <;>
    intro id now r ha hthread <;> cases ha <;> cases hthread <;> decide

/-- The owner gives the processor up before the authorised command is posted, and somebody else
acquires it. -/
theorem command_after_release :
    let g := run (gatewayStep countedTokens) .start (authorizedCommand ++
      [.arrive 2 (plainRequest .release (some (countedTokens 0))), .session 2 2,
        .arrive 3 (plainRequest .acquire none), .session 3 3, .post 1])
    Function.Injective countedTokens ∧
      g.threads 1 = some (.posting (countedTokens 0) ['r', 'u', 'n']) ∧
      g.session.token = some (countedTokens 1) ∧ ¬ g.Exclusive := by
  intro g
  have hthread : g.threads 1 = some (.posting (countedTokens 0) ['r', 'u', 'n']) := rfl
  have htoken : g.session.token = some (countedTokens 1) := rfl
  refine ⟨countedTokens_injective, hthread, htoken, fun hexclusive => ?_⟩
  have howned := hexclusive 1 _ _ hthread
  rw [htoken] at howned
  exact absurd (countedTokens_injective (Option.some.inj howned)) (by decide)

end Rp86.Host
