import Rp86.Host.Broker
import Rp86.Lib.Run

/-!
# What a client reads after its own exchange

`hello` need not reflect an exchange whose reply the client already has: the actor sets the result
before it publishes, and the network thread can respond to the exchange and answer a `hello` in
between (`hello_before_publish`).  `answers_fresh`: in a run in which no `hello` is answered in that
window, and in which no exchange moves the shared sequence back, it always does.
-/

namespace Rp86.Host

open Lib

namespace BrokerSystem

/-- A reply whose result has been set. -/
def Known (s : BrokerSystem) (r : WorkloadReply) : Prop :=
  (∃ result ∈ s.resolved, result.workload = some r) ∨ r ∈ s.received ∨
    ∃ hello ∈ s.hellos, r ∈ hello.known

/-- Where the state of the actor and the snapshot are with respect to the replies. -/
structure BrokerInv (s : BrokerSystem) : Prop where
  sequence_lt : ∀ r, s.Known r → r.sequence < s.requestSequence
  lifecycle_mem : ∀ r, s.Known r → s.lifecycle ∈ s.states.drop r.index
  fresh : ∀ r, s.Known r → r ∉ s.actor.released → s.Fresh r

variable {s s' : BrokerSystem}

/-- Everything but a `publish`: the actor's state moves on by at most one reply, and a client knows
at most one reply more, whose result was set in this step. -/
structure BrokerMove (s s' : BrokerSystem) (later : Option ℤ) : Prop where
  sequence_le : s.requestSequence ≤ s'.requestSequence
  lifecycle_eq : s'.lifecycle = later.getD s.lifecycle
  states_eq : s'.states = s.states ++ later.toList
  snapshot_eq : s'.snapshot = s.snapshot
  released : ∀ r ∈ s.actor.released, r ∈ s'.actor.released
  known : ∀ r, s'.Known r → s.Known r ∨
    (r.sequence < s'.requestSequence ∧ s'.lifecycle ∈ s'.states.drop r.index ∧
      r ∈ s'.actor.released)

theorem BrokerMove.fresh {later : Option ℤ} (hmove : BrokerMove s s' later) {r : WorkloadReply}
    (h : s.Fresh r) : s'.Fresh r := by
  obtain ⟨snapshot, hmem, hsequence, state, hstate, hname⟩ := h
  refine ⟨snapshot, hmove.snapshot_eq ▸ hmem, hsequence, state, ?_, hname⟩
  rw [hmove.states_eq, List.drop_append]
  exact List.mem_append_left _ hstate

/-- The state of the actor is that of the last reply. -/
theorem BrokerMove.lifecycle_mem {later : Option ℤ} (hmove : BrokerMove s s' later) {n : ℕ}
    (h : s.lifecycle ∈ s.states.drop n) : s'.lifecycle ∈ s'.states.drop n := by
  rw [hmove.lifecycle_eq, hmove.states_eq]
  cases later with
  | none => simpa using h
  | some state =>
    have hn : n ≤ s.states.length := by
      by_contra hn
      rw [List.drop_eq_nil_of_le (by omega)] at h
      exact List.not_mem_nil h
    rw [List.drop_append_of_le_length hn]
    exact List.mem_append_right _ (List.mem_singleton.mpr rfl)

theorem BrokerInv.move {later : Option ℤ} (h : BrokerInv s) (hmove : BrokerMove s s' later) :
    BrokerInv s' := by
  refine ⟨fun r hr => ?_, fun r hr => ?_, fun r hr hreleased => ?_⟩
  · rcases hmove.known r hr with hold | ⟨hsequence, -, -⟩
    · exact Int.lt_of_lt_of_le (h.sequence_lt r hold) hmove.sequence_le
    · exact hsequence
  · rcases hmove.known r hr with hold | ⟨-, hlifecycle, -⟩
    · exact hmove.lifecycle_mem (h.lifecycle_mem r hold)
    · exact hlifecycle
  · rcases hmove.known r hr with hold | ⟨-, -, hnew⟩
    · exact hmove.fresh (h.fresh r hold fun hr => hreleased (hmove.released r hr))
    · exact absurd hnew hreleased

/-- From `publish` on the snapshot is not older than any reply. -/
theorem BrokerInv.publish (h : BrokerInv s) :
    BrokerInv { s with actor := .loop, snapshot := some s.brokerSnapshot } where
  sequence_lt := h.sequence_lt
  lifecycle_mem := h.lifecycle_mem
  fresh r hr _ :=
    ⟨s.brokerSnapshot, rfl, h.sequence_lt r hr, s.lifecycle, h.lifecycle_mem r hr, rfl⟩

/-! ### Steps -/

/-- A step of the network thread. -/
theorem BrokerMove.network {s' : BrokerSystem} (hsequence : s'.requestSequence = s.requestSequence)
    (hlifecycle : s'.lifecycle = s.lifecycle) (hstates : s'.states = s.states)
    (hsnapshot : s'.snapshot = s.snapshot) (hactor : s'.actor.released = s.actor.released)
    (hknown : ∀ r, s'.Known r → s.Known r) : BrokerMove s s' none where
  sequence_le := Int.le_of_eq hsequence.symm
  lifecycle_eq := hlifecycle
  states_eq := by rw [hstates, Option.toList_none, List.append_nil]
  snapshot_eq := hsnapshot
  released r hr := hactor ▸ hr
  known r hr := .inl (hknown r hr)

theorem known_respond {i : ℕ} {result : BrokerResult} (hresult : s.resolved[i]? = some result)
    {r : WorkloadReply}
    (h : Known { s with
      resolved := s.resolved.eraseIdx i
      received := s.received ++ result.workload.toList } r) : s.Known r := by
  rcases h with ⟨other, hother, hr⟩ | hr | hr
  · exact .inl ⟨other, List.mem_of_mem_eraseIdx hother, hr⟩
  · rcases List.mem_append.mp hr with hr | hr
    · exact .inr (.inl hr)
    · exact .inl ⟨result, List.mem_of_getElem? hresult, Option.mem_toList.mp hr⟩
  · exact .inr (.inr hr)

theorem known_hello {client : ℕ} {r : WorkloadReply}
    (h : Known { s with
      hellos := s.hellos ++ [⟨client, s.received.filter (·.client = client)⟩] } r) :
    s.Known r := by
  rcases h with hr | hr | ⟨hello, hhello, hr⟩
  · exact .inl hr
  · exact .inr (.inl hr)
  · rcases List.mem_append.mp hhello with hhello | hhello
    · exact .inr (.inr ⟨hello, hhello, hr⟩)
    · obtain rfl := List.mem_singleton.mp hhello
      exact .inr (.inl (List.mem_of_mem_filter hr))

theorem known_answer {i : ℕ} {r : WorkloadReply}
    (h : Known { s with hellos := s.hellos.eraseIdx i } r) : s.Known r := by
  rcases h with hr | hr | ⟨hello, hhello, hr⟩
  · exact .inl hr
  · exact .inr (.inl hr)
  · exact .inr (.inr ⟨hello, List.mem_of_mem_eraseIdx hhello, hr⟩)

/-- An exchange under this sequence does not move the shared sequence back. -/
def Ascends (s : BrokerSystem) (sequence : ℤ) : Prop :=
  0 ≤ sequence ∧ sequence + 1 < 2 ^ 32 ∧ s.requestSequence ≤ sequence + 1

theorem Ascends.nextSequence_eq {sequence : ℤ} (h : s.Ascends sequence) :
    nextSequence sequence = sequence + 1 := by
  obtain ⟨hlo, hhi, -⟩ := h
  unfold nextSequence
  rw [Int.emod_eq_of_lt (by omega) hhi, if_neg (by omega)]

/-- A workload exchange is made under the sequence of its record. -/
theorem brokerExchange_workload {record : List UInt8} {reply : Option Message} {message : Message}
    {sequence : ℤ} {status : StructuredStatus}
    (h : brokerExchange record reply = some (message, some (sequence, status))) :
    ∃ request, Message.decode record = .ok request ∧ isWorkloadType request.messageType = true ∧
      request.sequence = sequence := by
  unfold brokerExchange at h
  simp only [Option.bind_eq_bind, Option.bind_eq_some_iff] at h
  obtain ⟨request, hrequest, reply', -, h⟩ := h
  cases hdecode : Message.decode record with
  | error error =>
    rw [hdecode] at hrequest
    exact absurd hrequest (by simp [Except.toOption])
  | ok request' =>
    rw [hdecode] at hrequest
    obtain rfl := Option.some.inj hrequest
    split_ifs at h with htype
    · obtain ⟨status', -, hresult⟩ := Option.bind_eq_some_iff.mp h
      simp only [Option.pure_def, Option.some.injEq, Prod.mk.injEq] at hresult
      exact ⟨request', rfl, htype, hresult.2.1⟩
    · simp at h

end BrokerSystem

open BrokerSystem

/-- The steps that keep the snapshot ahead of the replies: a `hello` is not answered between the
`set_result` of a reply that its client has received and the next `publish`, and no exchange moves
the shared sequence back. -/
def BrokerAction.Orderly (s : BrokerSystem) : BrokerAction → Prop
  | .answer i => ∀ hello, s.hellos[i]? = some hello → ∀ r ∈ hello.known, r ∉ s.actor.released
  | .serve _ => ∀ request pending released, s.actor = .serving (request :: pending) released →
      ∀ message, Message.decode request.record = .ok message →
        isWorkloadType message.messageType = true → s.Ascends message.sequence
  | .own sequence _ => s.Ascends sequence
  | _ => True

theorem brokerMove_serve {s : BrokerSystem} {request : BrokerRequest}
    {pending : List BrokerRequest} {released : List WorkloadReply}
    (hactor : s.actor = .serving (request :: pending) released)
    (hascends : ∀ message, Message.decode request.record = .ok message →
      isWorkloadType message.messageType = true → s.Ascends message.sequence)
    (reply : Option Message) :
    ∃ later, BrokerMove s (s.serve request pending released reply) later := by
  -- A result without a workload reply tells the client nothing that counts.
  have hother (result : Option Message) : BrokerMove s { s with
      actor := .serving pending released
      resolved := s.resolved ++ [⟨request.client, result, none⟩] } none := by
    refine .network rfl rfl rfl rfl (by rw [hactor]; rfl) fun r hr => ?_
    rcases hr with ⟨other, hmem, hr⟩ | hr
    · rcases List.mem_append.mp hmem with hmem | hmem
      · exact .inl ⟨other, hmem, hr⟩
      · obtain rfl := List.mem_singleton.mp hmem
        exact absurd hr (by simp)
    · exact .inr hr
  unfold serve
  split
  next => exact ⟨none, hother none⟩
  next reply _ => exact ⟨none, hother (some reply)⟩
  next reply sequence status hexchange =>
    obtain ⟨message, hdecode, htype, rfl⟩ := brokerExchange_workload hexchange
    have hascend := hascends message hdecode htype
    refine ⟨some status.state, ?_, rfl, rfl, rfl, fun r hr => ?_, fun r hr => ?_⟩
    · show s.requestSequence ≤ nextSequence message.sequence
      rw [hascend.nextSequence_eq]
      exact hascend.2.2
    · rw [hactor] at hr
      exact List.mem_append_left _ hr
    · rcases hr with ⟨other, hmem, hr⟩ | hr
      · rcases List.mem_append.mp hmem with hmem | hmem
        · exact .inl (.inl ⟨other, hmem, hr⟩)
        · -- The reply whose result this step sets.
          obtain rfl := List.mem_singleton.mp hmem
          obtain rfl := Option.some.inj hr
          refine .inr ⟨?_, ?_, List.mem_append_right _ (List.mem_singleton.mpr rfl)⟩
          · show message.sequence < nextSequence message.sequence
            rw [hascend.nextSequence_eq]
            omega
          · show status.state ∈ (s.states ++ [status.state]).drop s.states.length
            rw [List.drop_left]
            exact List.mem_singleton.mpr rfl
      · exact .inl (.inr hr)

theorem brokerInv_step {s : BrokerSystem} (h : BrokerInv s) {action : BrokerAction}
    (horderly : action.Orderly s) : BrokerInv (brokerStep s action) := by
  cases action with
  | request client record =>
    simp only [brokerStep]
    split_ifs
    · exact h.move (.network rfl rfl rfl rfl rfl fun r hr => hr)
    · exact h
  | respond i =>
    simp only [brokerStep]
    split
    next => exact h
    next result hresult =>
      exact h.move (.network rfl rfl rfl rfl rfl fun r => known_respond hresult)
  | hello client => exact h.move (.network rfl rfl rfl rfl rfl fun r => known_hello)
  | answer i => exact h.move (.network rfl rfl rfl rfl rfl fun r => known_answer)
  | pending =>
    simp only [brokerStep]
    split
    next hactor => exact h.move (.network rfl rfl rfl rfl (by rw [hactor]; rfl) fun r hr => hr)
    next => exact h
  | serve reply =>
    simp only [brokerStep]
    split
    next request pending released hactor =>
      obtain ⟨later, hmove⟩ :=
        brokerMove_serve hactor (horderly request pending released hactor) reply
      exact h.move hmove
    next => exact h
  | publish =>
    simp only [brokerStep]
    split
    · exact h
    · exact h.publish
  -- an exchange of its own does not move the sequence of the actor back
  | own sequence state =>
    have hascend : s.Ascends sequence := horderly
    have hmove : BrokerMove s (brokerStep s (.own sequence state)) state := by
      refine ⟨?_, rfl, rfl, rfl, fun r hr => hr, fun r hr => .inl hr⟩
      show s.requestSequence ≤ nextSequence sequence
      rw [hascend.nextSequence_eq]
      exact hascend.2.2
    exact h.move hmove

/-- **Read your writes**: in every run whose steps are orderly, every `hello` is answered with a
snapshot that is not older than any reply that its client had received. -/
theorem answers_fresh (sequence : ℤ) (actions : List BrokerAction)
    (horderly : StepsMeet brokerStep (fun s action => action.Orderly s) (.start sequence) actions) :
    StepsMeet brokerStep AnswersFresh (.start sequence) actions := by
  have hstart : BrokerInv (.start sequence) := by
    have hnone (r : WorkloadReply) : ¬ (BrokerSystem.start sequence).Known r := by
      rintro (⟨_, hmem, _⟩ | hmem | ⟨_, hmem, _⟩) <;> exact List.not_mem_nil hmem
    exact ⟨fun r hr => absurd hr (hnone r), fun r hr => absurd hr (hnone r),
      fun r hr => absurd hr (hnone r)⟩
  rintro pre action hpre i hello rfl hhello r hr
  have hinv : BrokerInv (run brokerStep (.start sequence) pre) := by
    have hstep : ∀ s action, BrokerAction.Orderly s action → BrokerInv s →
        BrokerInv (brokerStep s action) := fun s action ha h => brokerInv_step h ha
    refine run_invariant_of_stepsMeet hstep pre (fun before b hbefore => ?_) hstart
    exact horderly before b (hbefore.trans ((List.prefix_append pre _).trans hpre))
  refine hinv.fresh r (.inr (.inr ⟨hello, List.mem_of_getElem? hhello, hr⟩)) ?_
  exact horderly pre (.answer i) hpre hello hhello r hr

/-- `control_record("run", workload_id=0, sequence=2)`, encoded. -/
def runRecord : List UInt8 :=
  [1, 0x23, 0, 0, 2, 0, 0, 0, 8, 0, 0, 0, 1] ++ List.replicate 51 0

/-- The device's reply to it, from a workload that now runs. -/
def runReply : Message where
  messageType := typeWorkloadStatus
  sequence := 2
  payload := [7, 0, 0, 0, 3] ++ List.replicate 47 0

/-- A session that has found a staged workload, and a client that runs it, up to the client's next
`hello`. -/
def runThenHello : List BrokerAction :=
  [.own 1 (some 2), .pending, .publish, .request 0 runRecord, .pending, .serve (some runReply),
    .respond 0, .hello 0]

/-- The same `hello`, answered after the `publish`. -/
theorem answers_fresh_run :
    StepsMeet brokerStep AnswersFresh (.start 1) (runThenHello ++ [.publish, .answer 0]) := by
  refine answers_fresh 1 _ ?_
  have hserve : BrokerAction.Orderly
      (run brokerStep (.start 1) [.own 1 (some 2), .pending, .publish, .request 0 runRecord,
        .pending]) (.serve (some runReply)) := by
    intro request pending released hactor message hdecode _
    have hpending : (run brokerStep (.start 1) [.own 1 (some 2), .pending, .publish,
        .request 0 runRecord, .pending]).actor = .serving [⟨0, runRecord⟩] [] := by decide +kernel
    rw [hpending] at hactor
    injection hactor with hrequests _
    obtain ⟨rfl, -⟩ := List.cons.inj hrequests
    have hmessage : Message.decode runRecord
        = .ok ⟨typeWorkloadControl, 2, [1, 0, 0, 0, 0, 0, 0, 0], 0, 0, 1⟩ := by decide +kernel
    obtain rfl := Except.ok.inj (hmessage.symm.trans hdecode)
    exact ⟨by decide, by decide, by decide +kernel⟩
  have hanswer : BrokerAction.Orderly
      (run brokerStep (.start 1) (runThenHello ++ [.publish])) (.answer 0) := by
    intro hello _ r _
    have hloop : (run brokerStep (.start 1) (runThenHello ++ [.publish])).actor = .loop := by
      decide +kernel
    rw [hloop]
    exact List.not_mem_nil
  exact stepsMeet_cons.mpr ⟨⟨by decide, by decide, by decide⟩, stepsMeet_cons.mpr ⟨trivial,
    stepsMeet_cons.mpr ⟨trivial, stepsMeet_cons.mpr ⟨trivial, stepsMeet_cons.mpr ⟨trivial,
    stepsMeet_cons.mpr ⟨hserve, stepsMeet_cons.mpr ⟨trivial, stepsMeet_cons.mpr ⟨trivial,
    stepsMeet_cons.mpr ⟨trivial, stepsMeet_cons.mpr ⟨hanswer, stepsMeet_nil⟩⟩⟩⟩⟩⟩⟩⟩⟩⟩

/-- The client has the reply that says RUNNING, but the snapshot still says STAGED and still has the
sequence of the exchange: it would upload without a stop, under a sequence that is used. -/
theorem hello_before_publish :
    run brokerStep (.start 1) runThenHello
      = { requestSequence := 3, lifecycle := 3, snapshot := some ⟨2, "STAGED"⟩, states := [2, 3],
          actor := .serving [] [⟨0, 2, 1⟩], received := [⟨0, 2, 1⟩]
          hellos := [⟨0, [⟨0, 2, 1⟩]⟩] } ∧
      sequenceFromHello (some ⟨2, "STAGED"⟩) = 2 ∧
      stopsBeforeLoad (some ⟨2, "STAGED"⟩) = false ∧ stopsBeforeLoad (some ⟨3, "RUNNING"⟩) = true ∧
      ¬ StepsMeet brokerStep AnswersFresh (.start 1) (runThenHello ++ [.answer 0]) := by
  have hrun : run brokerStep (.start 1) runThenHello
      = { requestSequence := 3, lifecycle := 3, snapshot := some ⟨2, "STAGED"⟩, states := [2, 3],
          actor := .serving [] [⟨0, 2, 1⟩], received := [⟨0, 2, 1⟩],
          hellos := [⟨0, [⟨0, 2, 1⟩]⟩] } := by decide +kernel
  refine ⟨hrun, by decide, by decide, by decide, fun h => ?_⟩
  have hfresh := h runThenHello (.answer 0) List.prefix_rfl 0 ⟨0, [⟨0, 2, 1⟩]⟩ rfl
    (by rw [hrun]; rfl) ⟨0, 2, 1⟩ (List.mem_singleton.mpr rfl)
  rw [hrun] at hfresh
  obtain ⟨snapshot, hmem, hsequence, -⟩ := hfresh
  obtain rfl := Option.some.inj hmem
  exact absurd hsequence (by decide)

end Rp86.Host
