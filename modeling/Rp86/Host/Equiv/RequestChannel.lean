import Rp86.Host.Equiv.DeviceReply
import Rp86.Host.RequestChannel
import Rp86.Lib.Run

/-!
# Replies and requests

The Host knows a reply by its sequence (`validateDeviceReply_eq_ok_iff`).  So a late reply to a
request that timed out is taken for the reply to a later request under the same sequence, which the
workload client and the broker issue, because they keep the sequence after a failure
(`late_reply_misattributed`).  `reply_attribution` says when every reply is that of its request.
-/

namespace Rp86.Host

open Lib

/-! ### Validated replies -/

section

variable {record : List UInt8} {request reply : Message}

/-- A record that echoes a sequence is taken only for a reply under it. -/
theorem Matches.sequence_eq_of_echoes (h : Matches request record reply) {sequence : ℤ}
    (hecho : echoes record sequence = true) : sequence = request.sequence := by
  unfold echoes at hecho
  rw [h.decodes] at hecho
  exact (eq_of_beq hecho).symm.trans h.sequence_eq

end

/-! ### Steps -/

def ExchangePhase.current : ExchangePhase → Option Issued
  | .idle => none
  | .drained request | .sent request => some request

/-- Every reply that was returned answers the request it was returned for. -/
def RequestChannel.Attributed (c : RequestChannel) : Prop :=
  ∀ r ∈ c.returned, r.origin.number = r.request.number

/-- A request is issued under the sequence of one that is still with the device. -/
def ReusesSequence (c : RequestChannel) (a : ChannelAction) : Prop :=
  ∃ client message, a = .request client message ∧ c.phase = .idle ∧
    ∃ p ∈ c.device, p.message.sequence = message.sequence

/-- What identifies the reply to the current request. -/
structure RequestChannel.Inv (c : RequestChannel) : Prop where
  echoed : ∀ d ∈ c.input, echoes d.record d.origin.message.sequence = true
  device : ∀ request, c.phase.current = some request → ∀ p ∈ c.device,
    p.message.sequence = request.message.sequence → p.number = request.number
  input : ∀ request, c.phase.current = some request → ∀ d ∈ c.input,
    d.origin.message.sequence = request.message.sequence → d.origin.number = request.number
  attributed : c.Attributed

section

variable {statusDecodes : List UInt8 → Bool} {expectedProcessor : Option NativeProcessor}

theorem RequestChannel.Inv.idle {c c' : RequestChannel} (h : c.Inv) (hphase : c'.phase = .idle)
    (hinput : ∀ d ∈ c'.input, d ∈ c.input) (hattributed : c'.Attributed) : c'.Inv := by
  have hcurrent : ∀ request, c'.phase.current ≠ some request := fun request heq => by
    rw [hphase] at heq
    cases heq
  exact ⟨fun d hd => h.echoed d (hinput d hd), fun request heq => absurd heq (hcurrent request),
    fun request heq => absurd heq (hcurrent request), hattributed⟩

theorem RequestChannel.Inv.finish {c : RequestChannel} (h : c.Inv) (request : Issued)
    (reply : Option Message) : (c.finish statusDecodes request reply).Inv :=
  h.idle rfl (fun _ hd => hd) h.attributed

/-- Reading a record: it is passed over, or it answers the current request. -/
theorem channelInv_read {c : RequestChannel} (h : c.Inv) :
    (channelStep statusDecodes expectedProcessor c .read).Inv := by
  obtain ⟨sequence, issued, device, input, phase, returned⟩ := c
  cases phase with
  | idle | drained request => exact h
  | sent request =>
    cases input with
    | nil => exact h
    | cons d input =>
      have htail : RequestChannel.Inv ⟨sequence, issued, device, input, .sent request, returned⟩ :=
        ⟨fun d' hd' => h.echoed d' (List.mem_cons_of_mem d hd'), h.device,
          fun r hr d' hd' => h.input r hr d' (List.mem_cons_of_mem d hd'), h.attributed⟩
      unfold channelStep
      simp only
      cases hvalidate : validateDeviceReply d.record request.message expectedProcessor with
      | error e => exact htail
      | ok reply =>
        have hsequence := (validateDeviceReply_eq_ok_iff.mp hvalidate).1.sequence_eq_of_echoes
          (h.echoed d (List.mem_cons_self ..))
        have horigin := h.input request rfl d (List.mem_cons_self ..) hsequence
        refine htail.idle rfl (fun _ hd' => hd') fun r hr => ?_
        rcases List.mem_append.mp hr with hr | hr
        · exact h.attributed r hr
        · rw [List.mem_singleton.mp hr]
          exact horigin

theorem channelInv_write {c : RequestChannel} (h : c.Inv) (written : Bool) :
    (channelStep statusDecodes expectedProcessor c (.write written)).Inv := by
  unfold channelStep
  cases hphase : c.phase with
  | idle | sent request => exact h
  | drained request =>
    have hcurrent : c.phase.current = some request := by rw [hphase]; rfl
    simp only
    split
    · exact h.idle rfl (fun _ hd => hd) h.attributed
    · split_ifs
      · refine ⟨h.echoed, fun r hr p hp hsequence => ?_, fun r hr => ?_, h.attributed⟩
        · cases hr
          rcases List.mem_append.mp hp with hp | hp
          · exact h.device request hcurrent p hp hsequence
          · rw [List.mem_singleton.mp hp]
        · cases hr
          exact h.input request hcurrent
      · exact h.finish request none

/-- The device takes the next request up. -/
theorem channelInv_answer {c : RequestChannel} (h : c.Inv) (record : List UInt8) :
    (channelStep statusDecodes expectedProcessor c (.answer record)).Inv := by
  unfold channelStep
  cases hdevice : c.device with
  | nil => exact h
  | cons p device =>
    have hmem : p ∈ c.device := hdevice ▸ List.mem_cons_self ..
    simp only
    split_ifs with hecho
    · refine ⟨fun d hd => ?_, fun r hr p' hp' => ?_, fun r hr d hd => ?_, h.attributed⟩
      · rcases List.mem_append.mp hd with hd | hd
        · exact h.echoed d hd
        · rw [List.mem_singleton.mp hd]
          exact hecho
      · exact h.device r hr p' (hdevice ▸ List.mem_cons_of_mem p hp')
      · rcases List.mem_append.mp hd with hd | hd
        · exact h.input r hr d hd
        · rw [List.mem_singleton.mp hd]
          exact h.device r hr p hmem
    · exact h

theorem channelInv_step (c : RequestChannel) (a : ChannelAction) (ha : ¬ ReusesSequence c a)
    (h : c.Inv) : (channelStep statusDecodes expectedProcessor c a).Inv := by
  cases a with
  | request client message =>
    unfold channelStep
    cases hphase : c.phase with
    | idle =>
      refine ⟨fun d hd => (by cases hd), fun request hcurrent p hp hsequence => ?_,
        fun request _ d hd => (by cases hd), h.attributed⟩
      exact absurd ⟨client, message, rfl, hphase, p, hp, by cases hcurrent; exact hsequence⟩ ha
    | drained request | sent request => exact h
  | write written => exact channelInv_write h written
  | read => exact channelInv_read h
  | fail =>
    unfold channelStep
    cases hphase : c.phase with
    | idle | drained request => exact h
    | sent request => exact h.finish request none
  | answer record => exact channelInv_answer h record
  | drop =>
    exact ⟨h.echoed, fun r hr p hp => h.device r hr p (List.mem_of_mem_drop hp), h.input,
      h.attributed⟩

end

/-! ### The service client -/

/-- The sequences of one session run through all nonzero 32-bit values in turn. -/
theorem nextSequence_iterate {v : ℤ} (hlo : 1 ≤ v) (hhi : v < 2 ^ 32) (k : ℕ) :
    nextSequence^[k] v = (v - 1 + k) % (2 ^ 32 - 1) + 1 := by
  induction k with
  | zero =>
    rw [Function.iterate_zero_apply]
    omega
  | succ k ih =>
    rw [Function.iterate_succ_apply', ih]
    unfold nextSequence
    split_ifs <;> push_cast <;> omega

theorem nextSequence_iterate_ne {v : ℤ} (hlo : 1 ≤ v) (hhi : v < 2 ^ 32) {j k : ℕ} (hjk : j < k)
    (hk : k < 2 ^ 32 - 1) : nextSequence^[j] v ≠ nextSequence^[k] v := by
  rw [nextSequence_iterate hlo hhi, nextSequence_iterate hlo hhi]
  omega

theorem requestSequence_range (value : ℤ) :
    1 ≤ requestSequence value ∧ requestSequence value < 2 ^ 32 := by
  unfold requestSequence
  split_ifs <;> omega

/-- A request of the service client under the shared sequence, if the step issues one. -/
def ServiceRequest (c : RequestChannel) (a : ChannelAction) : Prop :=
  ∀ client message, a = .request client message →
    client = .service ∧ message.sequence = c.sequence

/-- The request was issued under one of the first `n` sequences from `v` on. -/
def Issued.Within (v : ℤ) (n : ℕ) (p : Issued) : Prop :=
  ∃ k < n, p.message.sequence = nextSequence^[k] v

theorem Issued.Within.succ {v : ℤ} {n : ℕ} {p : Issued} (h : p.Within v n) :
    p.Within v (n + 1) := by
  obtain ⟨k, hk, hsequence⟩ := h
  exact ⟨k, by omega, hsequence⟩

/-- After `m` sequences, only those are with the device, and that of the request under way. -/
def RequestChannel.Cursor (v : ℤ) (m : ℕ) (c : RequestChannel) : Prop :=
  c.sequence = nextSequence^[m] v ∧
    match c.phase with
    | .idle => m ≤ c.issued ∧ ∀ p ∈ c.device, p.Within v m
    | .drained request => m < c.issued ∧ request.client = .service ∧
        request.message.sequence = c.sequence ∧ ∀ p ∈ c.device, p.Within v m
    | .sent request => m < c.issued ∧ request.client = .service ∧
        request.message.sequence = c.sequence ∧ ∀ p ∈ c.device, p.Within v (m + 1)

section

variable {statusDecodes : List UInt8 → Bool} {expectedProcessor : Option NativeProcessor} {v : ℤ}

/-- The service client advances, whatever it got. -/
theorem cursor_finish {m : ℕ} {c : RequestChannel} {request : Issued}
    (hsequence : c.sequence = nextSequence^[m] v) (hissued : m < c.issued)
    (hclient : request.client = .service) (hshared : request.message.sequence = c.sequence)
    (hdevice : ∀ p ∈ c.device, p.Within v (m + 1)) (reply : Option Message) :
    (c.finish statusDecodes request reply).Cursor v (m + 1) := by
  refine ⟨?_, hissued, hdevice⟩
  unfold RequestChannel.finish
  rw [hclient]
  simp only [Client.advances, if_true]
  rw [hshared, hsequence, Function.iterate_succ_apply']

/-- The device moves on. -/
theorem RequestChannel.Cursor.device {m : ℕ} {c : RequestChannel} (h : c.Cursor v m)
    {device : List Issued} (hdevice : ∀ p ∈ device, p ∈ c.device) (input : List InputRecord) :
    ({ c with device := device, input := input } : RequestChannel).Cursor v m := by
  obtain ⟨sequence, issued, device', input', phase, returned⟩ := c
  obtain ⟨hsequence, hphase⟩ := h
  cases phase with
  | idle => exact ⟨hsequence, hphase.1, fun p hp => hphase.2 p (hdevice p hp)⟩
  | drained request | sent request =>
    obtain ⟨hissued, hclient, hshared, hwithin⟩ := hphase
    exact ⟨hsequence, hissued, hclient, hshared, fun p hp => hwithin p (hdevice p hp)⟩

theorem cursor_step (c : RequestChannel) (a : ChannelAction) (ha : ServiceRequest c a)
    (h : ∃ m, c.Cursor v m) :
    ∃ m, (channelStep statusDecodes expectedProcessor c a).Cursor v m := by
  -- `m` sequences are used up: the shared one is the `m`-th successor of the first
  obtain ⟨m, hsequence, hphase⟩ := h
  obtain ⟨sequence, issued, device, input, phase, returned⟩ := c
  cases a with
  | request client message =>
    cases phase with
    | idle =>
      -- the service client issues under the shared sequence, and does not advance it yet
      obtain ⟨hclient, hshared⟩ := ha client message rfl
      exact ⟨m, hsequence, Nat.lt_succ_of_le hphase.1, hclient, hshared, hphase.2⟩
    | drained request | sent request => exact ⟨m, hsequence, hphase⟩
  | write written =>
    cases phase with
    | idle | sent request => exact ⟨m, hsequence, hphase⟩
    | drained request =>
      obtain ⟨hissued, hclient, hshared, hdevice⟩ := hphase
      unfold channelStep
      simp only
      split
      -- a message that is not encoded raises before the write, with the sequence kept
      · exact ⟨m, hsequence, Nat.le_of_lt hissued, hdevice⟩
      · split_ifs
        -- written: the request joins those with the device, as the last one
        · refine ⟨m, hsequence, hissued, hclient, hshared, fun p hp => ?_⟩
          rcases List.mem_append.mp hp with hp | hp
          · exact (hdevice p hp).succ
          · rw [List.mem_singleton.mp hp]
            exact ⟨m, Nat.lt_succ_self m, hshared.trans hsequence⟩
        -- a short write ends the exchange, and the client advances
        · exact ⟨m + 1, cursor_finish hsequence hissued hclient hshared
            (fun p hp => (hdevice p hp).succ) none⟩
  | read =>
    cases phase with
    | idle | drained request => exact ⟨m, hsequence, hphase⟩
    | sent request =>
      obtain ⟨hissued, hclient, hshared, hdevice⟩ := hphase
      cases input with
      | nil => exact ⟨m, hsequence, hissued, hclient, hshared, hdevice⟩
      | cons d input =>
        unfold channelStep
        simp only
        -- a record is passed over, or ends the exchange with its reply
        split
        · exact ⟨m, hsequence, hissued, hclient, hshared, hdevice⟩
        · exact ⟨m + 1, cursor_finish hsequence hissued hclient hshared hdevice _⟩
  | fail =>
    cases phase with
    | idle | drained request => exact ⟨m, hsequence, hphase⟩
    | sent request =>
      obtain ⟨hissued, hclient, hshared, hdevice⟩ := hphase
      exact ⟨m + 1, cursor_finish hsequence hissued hclient hshared hdevice none⟩
  | answer record =>
    -- the device only takes requests off its list
    have hcursor : RequestChannel.Cursor v m ⟨sequence, issued, device, input, phase, returned⟩ :=
      ⟨hsequence, hphase⟩
    unfold channelStep
    cases device with
    | nil => exact ⟨m, hcursor⟩
    | cons p device =>
      simp only
      split_ifs
      · exact ⟨m, hcursor.device (fun p' hp' => List.mem_cons_of_mem p hp') _⟩
      · exact ⟨m, hcursor⟩
  | drop =>
    have hcursor : RequestChannel.Cursor v m ⟨sequence, issued, device, input, phase, returned⟩ :=
      ⟨hsequence, hphase⟩
    exact ⟨m, hcursor.device (fun p hp => List.mem_of_mem_drop hp) input⟩

/-- Within one round of the sequence, the service client uses none that is with the device. -/
theorem not_reusesSequence_of_cursor (hlo : 1 ≤ v) (hhi : v < 2 ^ 32) {c : RequestChannel}
    {a : ChannelAction} (ha : ServiceRequest c a) (hissued : c.issued < 2 ^ 32 - 1)
    (h : ∃ m, c.Cursor v m) : ¬ ReusesSequence c a := by
  obtain ⟨m, hsequence, hcursor⟩ := h
  rintro ⟨client, message, rfl, hphase, p, hp, hsame⟩
  rw [hphase] at hcursor
  obtain ⟨k, hk, hwithin⟩ := hcursor.2 p hp
  obtain ⟨-, hshared⟩ := ha client message rfl
  refine nextSequence_iterate_ne hlo hhi hk (Nat.lt_of_le_of_lt hcursor.1 hissued) ?_
  rw [← hwithin, hsame, hshared, hsequence]

theorem issued_le_step (n : ℕ) (c : RequestChannel) (a : ChannelAction) (h : n ≤ c.issued) :
    n ≤ (channelStep statusDecodes expectedProcessor c a).issued := by
  unfold channelStep RequestChannel.finish
  cases a <;> simp only <;> (repeat' split) <;> first | exact h | exact Nat.le_succ_of_le h

/-- The steps of a run of the service client within one round. -/
theorem stepsMeet_service (hlo : 1 ≤ v) (hhi : v < 2 ^ 32) (actions : List ChannelAction)
    {c : RequestChannel} (h : ∃ m, c.Cursor v m)
    (hissued : (run (channelStep statusDecodes expectedProcessor) c actions).issued < 2 ^ 32 - 1)
    (hservice : StepsMeet (channelStep statusDecodes expectedProcessor) ServiceRequest c actions) :
    StepsMeet (channelStep statusDecodes expectedProcessor) (fun c a => ¬ ReusesSequence c a) c
      actions := by
  induction actions generalizing c with
  | nil => exact stepsMeet_nil
  | cons a actions ih =>
    obtain ⟨ha, hactions⟩ := stepsMeet_cons.mp hservice
    have hmono := run_invariant (@issued_le_step statusDecodes expectedProcessor c.issued)
      (a :: actions) (Nat.le_refl c.issued)
    exact stepsMeet_cons.mpr ⟨not_reusesSequence_of_cursor hlo hhi ha
      (Nat.lt_of_le_of_lt hmono hissued) h, ih (cursor_step c a ha h) hissued hactions⟩

end

/-! ### Runs -/

theorem channelInv_start (sequence : ℤ) : (RequestChannel.start sequence).Inv :=
  ⟨fun d hd => (by cases hd), fun request hcurrent => (by cases hcurrent),
    fun request hcurrent => (by cases hcurrent), fun r hr => (by cases hr)⟩

/-- **Every reply is that of its request**, in a run in which no request is issued under the
sequence of one that is still with the device.

Every run of the service client over the shared sequence is such a run, as long as it issues fewer
than `2 ^ 32 - 1` requests. -/
theorem reply_attribution (statusDecodes : List UInt8 → Bool)
    (expectedProcessor : Option NativeProcessor) (sequence : ℤ) (actions : List ChannelAction) :
    let step := channelStep statusDecodes expectedProcessor
    let c := run step (.start sequence) actions
    (StepsMeet step (fun c a => ¬ ReusesSequence c a) (.start sequence) actions → c.Attributed) ∧
      (StepsMeet step ServiceRequest (.start sequence) actions → c.issued < 2 ^ 32 - 1 →
        c.Attributed) := by
  intro step c
  have hrun : StepsMeet step (fun c a => ¬ ReusesSequence c a) (.start sequence) actions →
      c.Attributed := fun hsteps =>
    (run_invariant_of_stepsMeet channelInv_step actions hsteps
      (channelInv_start sequence)).attributed
  refine ⟨hrun, fun hservice hissued => hrun ?_⟩
  obtain ⟨hlo, hhi⟩ := requestSequence_range sequence
  exact stepsMeet_service hlo hhi actions
    ⟨0, rfl, Nat.le_refl 0, fun p hp => (by cases hp)⟩ hissued hservice

/-- An empty record of the device under a small sequence, with status `OK`. -/
def emptyReply (messageType sequence : UInt8) : List UInt8 :=
  [1, messageType, 0, 0, sequence, 0, 0, 0, 0, 0, 0, 0] ++ List.replicate 52 0

def answeredRun : List ChannelAction :=
  [.request .service { messageType := typeMemoryRequest, sequence := 1 }, .write true,
    .answer (emptyReply 0x51 1), .read]

theorem reply_attribution_answered :
    let c := run (channelStep (fun _ => true) none) (.start 1) answeredRun
    c.returned.length = 1 ∧ c.issued = 1 ∧ c.Attributed := by
  intro c
  have hreturned : c.returned.length = 1 := by decide +kernel
  have hissued : c.issued = 1 := by decide +kernel
  refine ⟨hreturned, hissued,
    (reply_attribution (fun _ => true) none 1 answeredRun).2 ?_ (hissued ▸ by decide)⟩
  unfold answeredRun
  simp only [stepsMeet_cons]
  refine ⟨?_, ?_, ?_, ?_, stepsMeet_nil⟩ <;> intro client message heq <;> cases heq
  exact ⟨rfl, rfl⟩

/-- Two workload requests of which the first times out; its reply comes when the second, under the
same sequence, has been sent. -/
def lateReplyRun : List ChannelAction :=
  let control (operation : UInt8) : Message :=
    { messageType := typeWorkloadControl
      sequence := 1
      payload := [operation, 0, 0, 0, 0, 0, 0, 0] }
  [.request .workload (control 4), .write true, .fail,
    .request .workload (control 2), .write true, .answer (emptyReply 0x24 1), .read]

theorem late_reply_misattributed :
    let c := run (channelStep (fun _ => true) none) (.start 1)
    (c (lateReplyRun.take 3)).sequence = 1 ∧
      (c lateReplyRun).returned.map (fun r => (r.request.number, r.origin.number)) = [(1, 0)] ∧
      ¬ (c lateReplyRun).Attributed := by
  intro c
  have hreturned : (c lateReplyRun).returned.map (fun r => (r.request.number, r.origin.number))
      = [(1, 0)] := by decide +kernel
  refine ⟨by decide +kernel, hreturned, fun hattributed => ?_⟩
  have hmem : ((1, 0) : ℕ × ℕ) ∈
      (c lateReplyRun).returned.map fun r => (r.request.number, r.origin.number) := by
    rw [hreturned]
    exact List.mem_singleton.mpr rfl
  obtain ⟨r, hr, hpair⟩ := List.mem_map.mp hmem
  obtain ⟨hrequest, horigin⟩ := Prod.mk.inj hpair
  exact absurd (hattributed r hr) (by rw [hrequest, horigin]; decide)

end Rp86.Host
