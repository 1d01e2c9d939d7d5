import Rp86.Runtime.Equiv.Lifecycle

/-!
# The execution deadline

The deadline is armed by a start, recomputed by a timeout request, and cleared by a stop, by a
halt indication and at the head of every attempt.  `DeadlineInv` says what all of these keep: the
deadline is always the one that the executor's flags, its start time and the current timeout
determine.  A prepared calculator, which no deadline supervises, only runs without a timeout.
-/

namespace Rp86

open Lib

/-- What holds of the deadline after every action. -/
structure DeadlineInv (env : Env) (fw : Firmware) : Prop where
  deadline : fw.executor.executionDeadlineUs = fw.executor.deadline fw.executor.timeoutMs
  timeoutMs_le : fw.executor.timeoutMs ≤ workloadTimeoutMaxMs
  started : fw.executor.active = true → ∃ n, fw.executor.executionStartedUs = env.timeUs n
  prepared : fw.manager.state = .running → fw.executor.active = false → fw.executor.timeoutMs = 0

theorem Executor.deadline_of_inactive {x : Executor} (h : x.active = false) (timeoutMs : UInt32) :
    x.deadline timeoutMs = 0 := by
  simp [Executor.deadline, h]

section

variable {env : Env} {fw fw' : Firmware}

theorem DeadlineInv.of_inactive (hactive : fw.executor.active = false)
    (hdeadline : fw.executor.executionDeadlineUs = 0)
    (hle : fw.executor.timeoutMs ≤ workloadTimeoutMaxMs)
    (hprepared : fw.manager.state = .running → fw.executor.timeoutMs = 0) :
    DeadlineInv env fw where
  deadline := by rw [hdeadline, Executor.deadline_of_inactive hactive]
  timeoutMs_le := hle
  started := fun h => absurd h (Bool.eq_false_iff.mp hactive)
  prepared := fun hst _ => hprepared hst

theorem DeadlineInv.zero_of_inactive (h : DeadlineInv env fw)
    (hactive : fw.executor.active = false) : fw.executor.executionDeadlineUs = 0 := by
  rw [h.deadline, Executor.deadline_of_inactive hactive]

/-- The invariant only depends on the control fields and on whether the workload runs. -/
theorem DeadlineInv.congr (h : DeadlineInv env fw)
    (hst : fw'.manager.state = .running → fw.manager.state = .running)
    (hactive : fw'.executor.active = fw.executor.active)
    (hidle : fw'.executor.processorIdle = fw.executor.processorIdle)
    (htimeout : fw'.executor.timeoutMs = fw.executor.timeoutMs)
    (hstarted : fw'.executor.executionStartedUs = fw.executor.executionStartedUs)
    (hdeadline : fw'.executor.executionDeadlineUs = fw.executor.executionDeadlineUs) :
    DeadlineInv env fw' where
  deadline := by
    rw [hdeadline, h.deadline, Executor.deadline, Executor.deadline, hactive, hidle, htimeout,
      hstarted]
  timeoutMs_le := htimeout ▸ h.timeoutMs_le
  started := fun hact => hstarted ▸ h.started (hactive ▸ hact)
  prepared := fun hst' hact => htimeout ▸ h.prepared (hst hst') (hactive ▸ hact)

/-! ### Handlers -/

/-- A start, of an inactive executor without a deadline. -/
theorem StartEffect.deadline {calculator : Bool} {status : HostStatus}
    (heffect : StartEffect env fw calculator status fw') (hactive : fw.executor.active = false)
    (hdeadline : fw.executor.executionDeadlineUs = 0)
    (hle : fw.executor.timeoutMs ≤ workloadTimeoutMaxMs)
    (hcalculator : calculator = true → fw.executor.timeoutMs = 0) : DeadlineInv env fw' := by
  cases heffect with
  | calculator m hvalid hframe =>
    exact .of_inactive hactive hdeadline hle fun _ => hcalculator rfl
  | calculatorFailed m hframe => exact .of_inactive hactive hdeadline hle fun hst => by cases hst
  | general x backing m hspec =>
    obtain ⟨hstarted, -, -⟩ := hspec.success rfl
    obtain ⟨n, -, hn⟩ := hstarted.started
    refine ⟨hstarted.deadline, ?_, fun _ => ⟨n, hn⟩, fun _ hinactive => ?_⟩
    · simp only [hspec.timeoutMs]
      exact hle
    · exact absurd hstarted.active (Bool.eq_false_iff.mp hinactive)
  | generalFailed x backing m hspec =>
    obtain ⟨hx, hdl, -⟩ := hspec.failure rfl
    refine .of_inactive (hx.trans hactive) hdl ?_ fun hst => by cases hst
    simp only [hspec.timeoutMs]
    exact hle

theorem StartsFrom.executionDeadlineUs {fw₁ : Firmware} {request : Message}
    (hfrom : StartsFrom fw request fw₁) (h : DeadlineInv env fw) :
    fw₁.executor.executionDeadlineUs = 0 := by
  cases hfrom with
  | run _ _ hactive | restart _ _ hactive => exact h.zero_of_inactive hactive
  | halted => rfl

theorem ServiceEffect.deadline (heffect : ServiceEffect env fw fw') (h : DeadlineInv env fw) :
    DeadlineInv env fw' := by
  cases heffect with
  | skipped hfw hx =>
    rw [hfw]
    exact h
  | continued hx hm hsame =>
    exact h.congr (by rw [hm]; exact id) hsame.active hsame.processorIdle hsame.timeoutMs
      hsame.executionStartedUs hsame.executionDeadlineUs
  | completed hx hm hidle =>
    refine ⟨?_, hidle.timeoutMs ▸ h.timeoutMs_le,
      fun hact => hidle.executionStartedUs ▸ h.started (hidle.active ▸ hact), fun _ hinactive => ?_⟩
    · rw [hidle.executionDeadlineUs, Executor.deadline, hidle.processorIdle]
      simp
    · rw [hidle.active, hx.active] at hinactive
      cases hinactive
  | ended hx state hstate hm hhalted hparked hreason =>
    refine .of_inactive hhalted.active hhalted.executionDeadlineUs
      (hhalted.timeoutMs ▸ h.timeoutMs_le) fun hst => ?_
    rw [hm] at hst
    rcases hstate with rfl | rfl <;> cases hst

theorem RecordStep.deadline {request : Message} {event : HostEvent}
    (hstep : RecordStep env fw request event fw') (hagrees : Agrees fw) (h : DeadlineInv env fw) :
    DeadlineInv env fw' := by
  cases hstep.effect hagrees with
  | unchanged => exact h
  | begun => exact h.congr (fun hst => by cases hst) rfl rfl rfl rfl rfl
  | received manager backing hst hst' =>
    exact h.congr (fun hrun => hst'.symm.trans hrun) rfl rfl rfl rfl rfl
  | rejected => exact h.congr (fun hst => by cases hst) rfl rfl rfl rfl rfl
  | staged hactive =>
    exact .of_inactive hactive (h.zero_of_inactive hactive) h.timeoutMs_le fun hst => by cases hst
  | started operation fw₁ hfrom hguard =>
    refine (hfrom.effect _).deadline hfrom.active (hfrom.executionDeadlineUs h) ?_ ?_
    · rw [hfrom.timeoutMs]
      exact h.timeoutMs_le
    · rw [hfrom.timeoutMs]
      exact hguard
  | halted => exact .of_inactive rfl rfl h.timeoutMs_le fun hst => by cases hst
  | stopped => exact h.congr (fun hst => by cases hst) rfl rfl rfl rfl rfl
  | memory => exact h.congr id rfl rfl rfl rfl rfl
  | timeout value m hframe hle hprepared => exact ⟨rfl, hle, h.started, hprepared⟩
  | quiet => exact h.congr id rfl rfl rfl rfl rfl

theorem HandlerStep.deadline {event : HostEvent} (hstep : HandlerStep env fw event fw')
    (hagrees : Agrees fw) (h : DeadlineInv env fw) : DeadlineInv env fw' := by
  cases hstep with
  | record hrecord => exact hrecord.deadline hagrees h
  | service => exact (workloadExecutorService_effect env fw).deadline h

end

/-- **The deadline of every run.** -/
theorem firmwareRun_deadline (env : Env) (machine : Machine) (actions : List FirmwareAction) :
    DeadlineInv env (firmwareRun env machine actions) := by
  refine run_invariant_of_reached ?_ (fun actions action h => ?_) actions
  · have hle : (0 : UInt32) ≤ workloadTimeoutMaxMs := by decide
    exact .of_inactive rfl rfl hle fun hst => by cases hst
  · exact (firmwareStep_step env _ action).deadline (firmwareRun_agrees env machine actions) h

/-! ### Reports -/

theorem StartEffect.completionReason {env : Env} {fw fw' : Firmware} {calculator : Bool}
    {status : HostStatus} (heffect : StartEffect env fw calculator status fw')
    (hne : fw.executor.completionReason ≠ .executionDeadline) :
    fw'.executor.completionReason ≠ .executionDeadline := by
  cases heffect with
  | calculator m hvalid hframe | calculatorFailed m hframe => exact hne
  | general x backing m hspec =>
    rw [(hspec.success rfl).1.noResult.completionReason]
    decide
  | generalFailed x backing m hspec =>
    obtain ⟨-, -, -, -, hreason, -⟩ := hspec.failure rfl
    rw [hreason]
    decide

theorem Executor.halt_completionReason {x : Executor}
    (hne : x.completionReason ≠ .executionDeadline) :
    x.halt.completionReason ≠ .executionDeadline := by
  simp only [Executor.halt]
  split_ifs
  · decide
  · exact hne

theorem RecordStep.deadline_reported {env : Env} {fw fw' : Firmware} {request : Message}
    {event : HostEvent} (hstep : RecordStep env fw request event fw') (hagrees : Agrees fw)
    (hne : fw.executor.completionReason ≠ .executionDeadline) :
    fw'.executor.completionReason ≠ .executionDeadline := by
  cases hstep.effect hagrees with
  | staged => exact CompletionReason.noConfusion
  | started operation fw₁ hfrom =>
    refine (hfrom.effect _).completionReason ?_
    cases hfrom with
    | run | restart => exact hne
    | halted => exact Executor.halt_completionReason hne
  | halted => exact Executor.halt_completionReason hne
  | unchanged | begun | received | rejected | stopped | memory | timeout | quiet => exact hne

/-- Only a service step that has read a time past the deadline reports it. -/
theorem HandlerStep.deadline_reported {env : Env} {fw fw' : Firmware} {event : HostEvent}
    (hstep : HandlerStep env fw event fw') (hagrees : Agrees fw)
    (hne : fw.executor.completionReason ≠ .executionDeadline)
    (hreport : fw'.executor.completionReason = .executionDeadline) :
    fw.executor.executionDeadlineUs ≠ 0 ∧
      fw.executor.executionDeadlineUs ≤ env.timeUs fw.machine.board.reads := by
  cases hstep with
  | record hrecord => exact absurd hreport (hrecord.deadline_reported hagrees hne)
  | service =>
    cases workloadExecutorService_effect env fw with
    | skipped hfw hx =>
      rw [hfw] at hreport
      exact absurd hreport hne
    | continued hx hm hsame =>
      rw [hsame.completionReason] at hreport
      exact absurd hreport hne
    | completed hx hm hidle =>
      rw [hidle.completionReason] at hreport
      cases hreport
    | ended hx state hstate hm hhalted hparked hreason =>
      exact (hreason hreport).resolve_left hne

/-! ### The deadline theorem -/

/-- Without overflow the deadline is the start time plus the timeout, and it is not zero. -/
theorem DeadlineInv.toNat_deadline {env : Env} {fw : Firmware} (h : DeadlineInv env fw)
    (hclock : ∀ n, (env.timeUs n).toNat + 1000 * workloadTimeoutMaxMs.toNat < 2 ^ 64)
    (hsupervised : fw.executor.active = true ∧ fw.executor.processorIdle = false ∧
      fw.executor.timeoutMs ≠ 0) :
    fw.executor.executionDeadlineUs.toNat
        = fw.executor.executionStartedUs.toNat + 1000 * fw.executor.timeoutMs.toNat ∧
      fw.executor.executionDeadlineUs ≠ 0 := by
  obtain ⟨hactive, hidle, htimeout⟩ := hsupervised
  obtain ⟨n, hn⟩ := h.started hactive
  have hle := UInt32.le_iff_toNat_le.mp h.timeoutMs_le
  have hn' := hclock n
  have hpos : fw.executor.timeoutMs.toNat ≠ 0 := fun hz => htimeout (UInt32.toNat_inj.mp hz)
  have heq : fw.executor.executionDeadlineUs.toNat
      = fw.executor.executionStartedUs.toNat + 1000 * fw.executor.timeoutMs.toNat := by
    rw [h.deadline, Executor.deadline, if_pos (by simp [htimeout, hactive, hidle]),
      UInt64.toNat_add, UInt64.toNat_mul, UInt32.toNat_toUInt64, hn]
    have hthousand : (1000 : UInt64).toNat = 1000 := rfl
    rw [hthousand]
    omega
  refine ⟨heq, fun hz => ?_⟩
  rw [hz] at heq
  have hzero : (0 : UInt64).toNat = 0 := rfl
  omega

/-- **Execution deadline.**  On a clock that stays one longest timeout below `2 ^ 64`, after every
run: the deadline is set exactly while the executor is active, not idle and has a timeout, and it
is then the attempt's start plus the timeout; a workload that runs without the executor has no
timeout; a GET leaves the executor alone; and an action that reports `EXECUTION_DEADLINE` has read
a time that is not before the attempt's start plus the timeout. -/
theorem execution_deadline (env : Env) (machine : Machine) (actions : List FirmwareAction)
    (hclock : ∀ n, (env.timeUs n).toNat + 1000 * workloadTimeoutMaxMs.toNat < 2 ^ 64) :
    ((firmwareRun env machine actions).executor.executionDeadlineUs ≠ 0 ↔
      (firmwareRun env machine actions).executor.active = true ∧
      (firmwareRun env machine actions).executor.processorIdle = false ∧
      (firmwareRun env machine actions).executor.timeoutMs ≠ 0) ∧
    ((firmwareRun env machine actions).executor.executionDeadlineUs ≠ 0 →
      (firmwareRun env machine actions).executor.executionDeadlineUs.toNat
        = (firmwareRun env machine actions).executor.executionStartedUs.toNat +
          1000 * (firmwareRun env machine actions).executor.timeoutMs.toNat) ∧
    ((firmwareRun env machine actions).manager.state = .running →
      (firmwareRun env machine actions).executor.active = false →
      (firmwareRun env machine actions).executor.timeoutMs = 0) ∧
    (∀ request : Message, request.word 0 = workloadTimeoutGet →
      (handleTimeoutRequest env request (firmwareRun env machine actions)).2.executor
        = (firmwareRun env machine actions).executor) ∧
    (∀ action : FirmwareAction,
      (firmwareRun env machine actions).executor.completionReason ≠ .executionDeadline →
      (firmwareRun env machine (actions ++ [action])).executor.completionReason
        = .executionDeadline →
      (firmwareRun env machine actions).executor.executionStartedUs.toNat +
          1000 * (firmwareRun env machine actions).executor.timeoutMs.toNat
        ≤ (env.timeUs (firmwareRun env machine actions).machine.board.reads).toNat) := by
  have hinv := firmwareRun_deadline env machine actions
  have hagrees := firmwareRun_agrees env machine actions
  have hsupervised : (firmwareRun env machine actions).executor.executionDeadlineUs ≠ 0 →
      (firmwareRun env machine actions).executor.active = true ∧
      (firmwareRun env machine actions).executor.processorIdle = false ∧
      (firmwareRun env machine actions).executor.timeoutMs ≠ 0 := by
    intro hne
    rw [hinv.deadline, Executor.deadline] at hne
    split_ifs at hne with hguard
    · exact ⟨hguard.2.1, by simpa using hguard.2.2, hguard.1⟩
    · exact absurd rfl hne
  refine ⟨⟨hsupervised, fun h => (hinv.toNat_deadline hclock h).2⟩,
    fun hne => (hinv.toNat_deadline hclock (hsupervised hne)).1, hinv.prepared, ?_, ?_⟩
  -- only a SET changes the executor
  · intro request hget
    obtain ⟨x, b, heq, -, hx⟩ :=
      handleTimeoutRequest_cases env request (firmwareRun env machine actions)
    rw [heq]
    rcases hx with rfl | ⟨value, hset, -⟩
    · rfl
    · rw [hget] at hset
      cases hset
  -- the service step that reports the deadline has read the clock
  · intro action hne hreport
    rw [firmwareRun, run_append, run_cons, run_nil, ← firmwareRun] at hreport
    obtain ⟨hset, hle⟩ := (firmwareStep_step env _ action).deadline_reported hagrees hne hreport
    rw [← (hinv.toNat_deadline hclock (hsupervised hset)).1]
    exact UInt64.le_iff_toNat_le.mp hle

/-- A board without bus cycles, whose clock stops at 100 ms. -/
def idleEnv : Env := { scriptedEnv 0 [] with timeUs := fun n => UInt64.ofNat (min n 100000) }

/-- A start under a timeout of one millisecond, and service steps up to its deadline. -/
def timedRun : List FirmwareAction :=
  .record (Message.request typeWorkloadTimeoutRequest 5 (leBytes 4 1 ++ leBytes 4 1)).toRecord ::
    haltStart ++ List.replicate 7 .service

theorem execution_deadline_timedRun :
    (firmwareRun idleEnv coldMachine timedRun).executor.executionDeadlineUs.toNat
        = (firmwareRun idleEnv coldMachine timedRun).executor.executionStartedUs.toNat + 1000 ∧
      (firmwareRun idleEnv coldMachine (timedRun ++ [.service])).executor.completionReason
        = .executionDeadline ∧
      (firmwareRun idleEnv coldMachine timedRun).executor.executionStartedUs.toNat + 1000
        ≤ (idleEnv.timeUs
            (firmwareRun idleEnv coldMachine timedRun).machine.board.reads).toNat := by
  have hclock : ∀ n, (idleEnv.timeUs n).toNat + 1000 * workloadTimeoutMaxMs.toNat < 2 ^ 64 := by
    intro n
    have hmax : workloadTimeoutMaxMs.toNat = 86400000 := rfl
    have htime : (idleEnv.timeUs n).toNat = min n 100000 % 2 ^ 64 := UInt64.toNat_ofNat'
    omega
  have hmillisecond : (firmwareRun idleEnv coldMachine timedRun).executor.timeoutMs = 1 := by
    decide +kernel
  have hreport :
      (firmwareRun idleEnv coldMachine (timedRun ++ [.service])).executor.completionReason
      = .executionDeadline := by decide +kernel
  obtain ⟨-, hdeadline, -, -, hlate⟩ := execution_deadline idleEnv coldMachine timedRun hclock
  have heq := hdeadline (by decide +kernel)
  have hle := hlate .service (by decide +kernel) hreport
  have hone : (1 : UInt32).toNat = 1 := rfl
  rw [hmillisecond, hone, Nat.mul_one] at heq hle
  exact ⟨heq, hreport, hle⟩

end Rp86
