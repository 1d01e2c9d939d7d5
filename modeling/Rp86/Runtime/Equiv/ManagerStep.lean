import Rp86.Runtime.Equiv.Agreement
import Rp86.Runtime.Equiv.CycleOutcome

/-!
# What an action does to the manager and the backing

`HandlerStep.manager`: every action leaves the manager and the backing alone, makes one call of
the manager (with an outside write to the state after a failed start), serves a memory request, or
supervises a running workload.  A workload that is left in `RUNNING` without the executor is the
prepared calculator.
-/

namespace Rp86

open Lib

/-- An event that says nothing about the upload or the backing. -/
def HostEvent.Neutral (event : HostEvent) : Prop :=
  event = .none ∨ ∃ operation, event = .control operation

theorem HostStatus.neutral_event (status : HostStatus) (operation : UInt8) :
    (status.event (.control operation)).Neutral := by
  unfold HostStatus.event
  split
  · exact Or.inr ⟨operation, rfl⟩
  · exact Or.inl rfl

/-- The effect of an action on the manager and the backing, with its event. -/
inductive ManagerStep (fw : Firmware) : HostEvent → Firmware → Prop
  | same {event : HostEvent} {fw' : Firmware} (hevent : event.Neutral)
      (hm : fw'.manager = fw.manager) (hb : fw'.backing = fw.backing)
      (hactive : fw'.executor.active = fw.executor.active) : ManagerStep fw event fw'
  | begun {fw' : Firmware} (t : UInt32) (manifest : Manifest)
      (hm : workloadBegin fw.manager fw.backing t (some manifest) = some fw'.manager)
      (hb : fw'.backing = fw.backing) : ManagerStep fw .begun fw'
  | data {fw' : Firmware} (t o : UInt32) (d : List UInt8)
      (hw : workloadWrite fw.manager fw.backing t o (some d) = some (fw'.manager, fw'.backing)) :
      ManagerStep fw (.data d) fw'
  | committed {fw' : Firmware} (t c : UInt32)
      (hm : workloadCommit fw.manager t c = (true, fw'.manager))
      (hb : fw'.backing = fw.backing) : ManagerStep fw .committed fw'
  | rejected {fw' : Firmware} (t c : UInt32) (hst : fw.manager.state = .receiving)
      (hm : workloadCommit fw.manager t c = (false, fw'.manager))
      (hb : fw'.backing = fw.backing) : ManagerStep fw .none fw'
  | memory {fw' : Firmware} (request : Message) (hm : fw'.manager = fw.manager)
      (hb : fw'.backing
        = (hostServiceDispatchMemory fw.manager.state fw.backing request).2.2)
      (hactive : fw'.executor.active = fw.executor.active) : ManagerStep fw .memory fw'
  | started {event : HostEvent} {fw' : Firmware} (id : UInt32) (manager : WorkloadManager)
      (hevent : event.Neutral)
      (hrun : workloadRun fw.manager id = some manager ∨
        workloadRestart fw.manager id = some manager)
      (hm : fw'.manager = manager ∨ fw'.manager = { manager with state := .faulted })
      (hb : fw'.backing = fw.backing ∨ sharedMailboxInit fw.backing = some fw'.backing)
      (hprepared : fw'.manager.state = .running → fw'.executor.active = false →
        calculatorWorkloadValid fw'.manager fw'.backing = true) : ManagerStep fw event fw'
  | stopped {event : HostEvent} {fw' : Firmware} (id : UInt32) (hevent : event.Neutral)
      (hm : workloadStop fw.manager id = some fw'.manager)
      (hb : fw'.backing = fw.backing) : ManagerStep fw event fw'
  | service {fw' : Firmware} (hx : fw.executor.Supervised) (hst : fw.manager.state = .running)
      (hm : fw'.manager = fw.manager ∨
        workloadComplete fw.manager fw.manager.workloadId = some fw'.manager ∨
        fw'.manager = { fw.manager with state := .faulted } ∨
        fw'.manager = { fw.manager with state := .timedOut })
      (hb : SameGeometry fw.backing fw'.backing)
      (hactive : fw'.manager.state = .running → fw'.executor.active = true) :
      ManagerStep fw .none fw'

/-! ### The state after a step -/

theorem started_state {m m' manager : WorkloadManager} {id : UInt32}
    (hrun : workloadRun m id = some manager ∨ workloadRestart m id = some manager)
    (hm : m' = manager ∨ m' = { manager with state := .faulted }) :
    m'.state = .running ∨ m'.state = .faulted := by
  rcases hm with rfl | rfl
  · rcases hrun with h | h <;> exact Or.inl (by rw [(workloadTransition_eq_some h).2.2])
  · exact Or.inr rfl

theorem service_state {m m' : WorkloadManager} (hst : m.state = .running)
    (hm : m' = m ∨ workloadComplete m m.workloadId = some m' ∨
      m' = { m with state := .faulted } ∨ m' = { m with state := .timedOut }) :
    m'.state = .running ∨ m'.state = .completed ∨ m'.state = .faulted ∨ m'.state = .timedOut := by
  rcases hm with rfl | h | rfl | rfl
  · exact Or.inl hst
  · exact Or.inr (Or.inl (by rw [(workloadTransition_eq_some h).2.2]))
  · exact Or.inr (Or.inr (Or.inl rfl))
  · exact Or.inr (Or.inr (Or.inr rfl))

/-! ### Handlers -/

theorem Agrees.running {fw : Firmware} (h : Agrees fw) (hx : fw.executor.Supervised) :
    fw.manager.state = .running := by
  refine (h.active hx.active).resolve_right fun hc => ?_
  have hidle := h.idle.mpr hc
  rw [hx.notIdle] at hidle
  cases hidle

/-- A start leaves the manager or faults it, and at most initialises the mailbox; without the
executor only a recognised calculator is left running. -/
theorem StartEffect.manager {env : Env} {fw fw' : Firmware} {calculator : Bool}
    {status : HostStatus} (h : StartEffect env fw calculator status fw') :
    (fw'.manager = fw.manager ∨ fw'.manager = { fw.manager with state := .faulted }) ∧
      (fw'.backing = fw.backing ∨ sharedMailboxInit fw.backing = some fw'.backing) ∧
      (fw'.manager.state = .running → fw'.executor.active = false →
        calculatorWorkloadValid fw'.manager fw'.backing = true) := by
  cases h with
  | calculator m hvalid hframe => exact ⟨Or.inl rfl, Or.inl rfl, fun _ _ => hvalid⟩
  | calculatorFailed m hframe => exact ⟨Or.inr rfl, Or.inl rfl, fun hst => by cases hst⟩
  | general x backing m hspec =>
    refine ⟨Or.inl rfl, hspec.backing_cases, fun _ hactive => ?_⟩
    obtain ⟨hstarted, -, -⟩ := hspec.success rfl
    exact absurd hstarted.active (Bool.eq_false_iff.mp hactive)
  | generalFailed x backing m hspec =>
    exact ⟨Or.inr rfl, hspec.backing_cases, fun hst => by cases hst⟩

section Handlers

variable {env : Env} {fw : Firmware}

theorem handleMemoryRecord_manager (request : Message) :
    ManagerStep fw (hostEvent (some request) (some (handleMemoryRecord request fw).1))
      (handleMemoryRecord request fw).2 := by
  rcases handleMemoryRecord_event request fw with he | ⟨he, hb⟩
  · rw [he]
    exact .memory request rfl rfl rfl
  · rw [he]
    exact .same (Or.inl rfl) rfl hb rfl

theorem workloadExecutorService_manager (hagrees : Agrees fw) :
    ManagerStep fw .none (workloadExecutorService env fw) := by
  have hgeo := (workloadExecutorService_frame env fw).geometry
  cases workloadExecutorService_effect env fw with
  | skipped hfw hx => exact .same (Or.inl rfl) (by rw [hfw]) (by rw [hfw]) (by rw [hfw])
  | continued hx hm hsame =>
    exact .service hx (hagrees.running hx) (Or.inl hm) hgeo fun _ => hsame.active.trans hx.active
  | completed hx hm hidle =>
    exact .service hx (hagrees.running hx) (Or.inr (Or.inl hm)) hgeo fun _ =>
      hidle.active.trans hx.active
  | ended hx state hstate hm hhalted hparked hreason =>
    refine .service hx (hagrees.running hx) (Or.inr (Or.inr ?_)) hgeo fun hst => ?_
    · rcases hstate with rfl | rfl
      · exact Or.inl hm
      · exact Or.inr hm
    · rw [hm] at hst
      rcases hstate with rfl | rfl <;> cases hst

end Handlers

theorem RecordStep.manager {env : Env} {fw fw' : Firmware} {request : Message} {event : HostEvent}
    (hstep : RecordStep env fw request event fw') (hagrees : Agrees fw) :
    ManagerStep fw event fw' := by
  cases hstep.effect hagrees with
  | unchanged event hevent => exact .same (hevent.imp id fun h => ⟨_, h⟩) rfl rfl rfl
  | begun manifest hactive hcomp hbegin => exact .begun _ manifest hbegin rfl
  | received manager backing hst hst' hwrite => exact .data _ _ _ hwrite
  | rejected hst hactive hcommit => exact .rejected _ _ hst hcommit rfl
  | staged hactive hcommit => exact .committed _ _ hcommit rfl
  | started operation fw₁ hfrom hguard =>
    obtain ⟨hm, hb, hprepared⟩ := (hfrom.effect _).manager
    rw [hfrom.backing] at hb
    refine .started (request.word 4) fw₁.manager (HostStatus.neutral_event _ _) ?_ hm hb hprepared
    rw [hfrom.manager]
    cases hfrom with
    | run hcontrol hmanager hactive => exact Or.inl hmanager
    | restart hcontrol hmanager hactive | halted m hcontrol hmanager hactive hstops =>
      exact Or.inr hmanager
  | halted m hactive hstops hmanager | stopped m hactive hframe hmanager =>
    exact .stopped _ (Or.inr ⟨_, rfl⟩) hmanager rfl
  | memory => exact handleMemoryRecord_manager request
  | timeout | quiet => exact .same (Or.inl rfl) rfl rfl rfl

/-- **What an action does to the manager and the backing.** -/
theorem HandlerStep.manager {env : Env} {fw fw' : Firmware} {event : HostEvent}
    (hstep : HandlerStep env fw event fw') (hagrees : Agrees fw) : ManagerStep fw event fw' := by
  cases hstep with
  | record hrecord => exact hrecord.manager hagrees
  | service => exact workloadExecutorService_manager hagrees

end Rp86
