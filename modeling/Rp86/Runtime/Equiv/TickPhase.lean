import Rp86.Runtime.Equiv.Attempt

/-!
# The phase of the periodic tick

The tick is generated at the multiples of its period after the start of the attempt.  `TickPhase`
says that `g` periods have been counted and the next one is due; the count catches up with the clock
in one division, however long the executor has not been served (`generateTicks_phase`), and neither
a bus cycle nor the end of an attempt moves it.
-/

namespace Rp86

open Lib

/-- `g` periods have been counted since `startedUs`, and the next one ends at `nextUs`. -/
structure TickPhase (startedUs : UInt64) (g : ℕ) (t : TickState) : Prop where
  nextUs : t.nextUs.toNat = startedUs.toNat + 10000 * (g + 1)
  generated : t.generated = UInt32.ofNat g

section

variable {env : Env} {startedUs now : UInt64} {g : ℕ} {t t' : TickState} {b b' : Board}

/-! ### One update -/

theorem TickPhase.congr (h : TickPhase startedUs g t) (hnext : t'.nextUs = t.nextUs)
    (hgenerated : t'.generated = t.generated) : TickPhase startedUs g t' :=
  ⟨by rw [hnext]; exact h.nextUs, hgenerated.trans h.generated⟩

/-- The periods that have passed when the next one was due at `nextUs`. -/
theorem generateTicks_fields (hdue : ¬ now < t.nextUs) :
    (generateTicks now t).nextUs
        = t.nextUs + (1 + (now - t.nextUs) / periodicTickUs) * periodicTickUs ∧
      (generateTicks now t).generated
        = t.generated + (1 + (now - t.nextUs) / periodicTickUs).toUInt32 := by
  unfold generateTicks
  rw [if_neg hdue]
  simp only
  split_ifs <;> exact ⟨rfl, rfl⟩

/-- **The count catches up with the clock.** -/
theorem generateTicks_phase (h : TickPhase startedUs g t)
    (hnow : startedUs.toNat + 10000 * g ≤ now.toNat) (hrange : now.toNat + 10000 < 2 ^ 64) :
    TickPhase startedUs ((now.toNat - startedUs.toNat) / 10000) (generateTicks now t) := by
  obtain ⟨hnext, hgenerated⟩ := h
  by_cases hdue : now < t.nextUs
  · have hlt := UInt64.lt_iff_toNat_lt.mp hdue
    have hcount : (now.toNat - startedUs.toNat) / 10000 = g := by omega
    rw [hcount, generateTicks, if_pos hdue]
    exact ⟨hnext, hgenerated⟩
  · have hle : t.nextUs.toNat ≤ now.toNat := UInt64.le_iff_toNat_le.mp (UInt64.not_lt.mp hdue)
    obtain ⟨hnext', hgenerated'⟩ := generateTicks_fields hdue
    have hperiod : periodicTickUs.toNat = 10000 := rfl
    -- the periods that passed at once, as the firmware divides them
    have helapsed : (1 + (now - t.nextUs) / periodicTickUs).toNat
        = 1 + (now.toNat - t.nextUs.toNat) / 10000 := by
      rw [UInt64.toNat_add, UInt64.toNat_div, UInt64.toNat_sub_of_le _ _ hle, hperiod]
      have hone : (1 : UInt64).toNat = 1 := rfl
      rw [hone, Nat.mod_eq_of_lt (by omega)]
    have hcount : (now.toNat - startedUs.toNat) / 10000
        = g + (1 + (now.toNat - t.nextUs.toNat) / 10000) := by omega
    refine ⟨?_, ?_⟩
    · rw [hnext', UInt64.toNat_add, UInt64.toNat_mul, helapsed, hperiod, hcount,
        Nat.mod_eq_of_lt
          (show (1 + (now.toNat - t.nextUs.toNat) / 10000) * 10000 < 2 ^ 64 by omega),
        Nat.mod_eq_of_lt (by omega)]
      omega
    · apply UInt32.toNat_inj.mp
      rw [hgenerated', hgenerated, hcount, UInt32.toNat_add, UInt64.toNat_toUInt32, helapsed,
        UInt32.toNat_ofNat', UInt32.toNat_ofNat', Nat.add_mod g]

theorem deliverTick_phase {cycles : UInt32} (h : TickPhase startedUs g t) :
    TickPhase startedUs g (deliverTick now cycles t b).1 := by
  unfold deliverTick
  split_ifs
  · exact h.congr rfl rfl
  · exact h

/-- An update of an enabled tick, which reads the clock. -/
theorem updatePeriodicTick_phase {cycles : UInt32} (h : TickPhase startedUs g t)
    (henabled : t.enabled = true)
    (hnow : startedUs.toNat + 10000 * g ≤ (env.timeUs b.reads).toNat)
    (hrange : (env.timeUs b.reads).toNat + 10000 < 2 ^ 64) :
    TickPhase startedUs (((env.timeUs b.reads).toNat - startedUs.toNat) / 10000)
      (updatePeriodicTick env false cycles t b).1 := by
  have hset : t.nextUs ≠ 0 := by
    intro hzero
    have hnext := h.nextUs
    rw [hzero] at hnext
    have h0 : (0 : UInt64).toNat = 0 := rfl
    omega
  have hguard : (!t.enabled || false || t.nextUs == 0) = false := by simp [henabled, hset]
  unfold updatePeriodicTick timeUs64
  rw [hguard]
  exact deliverTick_phase (generateTicks_phase h hnow hrange)

/-! ### One service step -/

/-- Acknowledge, end-of-interrupt and `IDLE_PREPARE` cycles leave the phase alone. -/
theorem TickCycle.phase {cycles : UInt32} {eoi : Bool} (hcycle : TickCycle env cycles t b eoi t' b')
    (h : TickPhase startedUs g t) : TickPhase startedUs g t' := by
  cases hcycle with
  | same b' hframe => exact h
  | ack b₁ b' hframe hframe' =>
    unfold tickInterruptAck
    split_ifs <;> exact h.congr rfl rfl
  | eoi b₁ hframe =>
    unfold tickEoi retractTick closeService
    simp only
    split_ifs <;> exact h.congr rfl rfl
  | idlePrepare b₁ hframe =>
    unfold tickIdlePrepare
    split_ifs <;> exact h.congr rfl rfl

end

section

variable {env : Env} {startedUs : UInt64} {g : ℕ}

/-- What is done after the cycle leaves the phase alone, also if it ends the attempt. -/
theorem OutcomeStep.phase {outcome : ServiceOutcome} {fw fw' : Firmware}
    (hstep : OutcomeStep fw outcome fw') (h : TickPhase startedUs g fw.executor.io.tick) :
    TickPhase startedUs g fw'.executor.io.tick ∧
      fw'.executor.executionStartedUs = fw.executor.executionStartedUs := by
  cases hstep with
  | goesOn | completes => exact ⟨h, rfl⟩
  | ends => exact ⟨h.congr rfl rfl, rfl⟩

/-- The tick after the bus cycle of a service step, if `g` periods are counted before the cycle. -/
theorem executorBusCycle_phase {fw fw₁ fw' : Firmware} {completed : Bool}
    {outcome : ServiceOutcome}
    (hbus : executorBusCycle env (fw.deadlineChecked env) = (completed, fw₁))
    (hstep : OutcomeStep fw₁ outcome fw')
    (h : TickPhase fw.executor.executionStartedUs g ((fw.deadlineChecked env).tickUpdate env).1) :
    TickPhase fw.executor.executionStartedUs g fw'.executor.io.tick ∧
      fw'.executor.executionStartedUs = fw.executor.executionStartedUs := by
  obtain ⟨hphase, hstarted⟩ := hstep.phase ((executorBusCycle_tick hbus).1.phase h)
  exact ⟨hphase, hstarted.trans (executorBusCycle_kept hbus).control.executionStartedUs⟩

/-! ### The phase over runs -/

/-- The phase of an attempt whose tick is enabled, with every later reading of the clock past the
periods that have been counted. -/
def PhaseInv (env : Env) (fw : Firmware) : Prop :=
  fw.executor.io.tick.enabled = true →
    ∃ g, TickPhase fw.executor.executionStartedUs g fw.executor.io.tick ∧
      ∀ n ≥ fw.machine.board.reads,
        fw.executor.executionStartedUs.toNat + 10000 * g ≤ (env.timeUs n).toNat

/-- The clock never goes back, and is far from its end. -/
structure Env.ClockOk (env : Env) : Prop where
  mono : ∀ n m, n ≤ m → env.timeUs n ≤ env.timeUs m
  range : ∀ n, (env.timeUs n).toNat + 10000 < 2 ^ 64

theorem PhaseInv.of_start {fw : Firmware} (hclock : env.ClockOk)
    (hstart : fw.executor.AttemptStart env fw.machine.board) : PhaseInv env fw := by
  intro henabled
  obtain ⟨enabled, htick⟩ := hstart.tick
  obtain ⟨n₀, hn₀, hstarted⟩ := hstart.started
  obtain rfl : enabled = true := by rw [htick] at henabled; exact henabled
  have hperiod : periodicTickUs.toNat = 10000 := rfl
  refine ⟨0, ⟨?_, by rw [htick]; rfl⟩, fun n hn => ?_⟩
  · have hrange := hclock.range n₀
    rw [htick, hstarted]
    show (env.timeUs n₀ + periodicTickUs).toNat = _
    rw [UInt64.toNat_add, hperiod, Nat.mod_eq_of_lt hrange]
  · rw [hstarted]
    exact UInt64.le_iff_toNat_le.mp (hclock.mono n₀ n (by omega))

theorem PhaseInv.of_same {fw fw' : Firmware} (hsame : fw.executor.SameAttempt fw'.executor)
    (hreads : fw.machine.board.reads ≤ fw'.machine.board.reads) (h : PhaseInv env fw) :
    PhaseInv env fw' := by
  unfold PhaseInv
  rw [hsame.io, hsame.executionStartedUs]
  intro henabled
  obtain ⟨g, hphase, hlater⟩ := h henabled
  exact ⟨g, hphase, fun n hn => hlater n (Nat.le_trans hreads hn)⟩

/-- A bus cycle keeps the phase, and what is counted is still in the past. -/
theorem PhaseInv.cycle {fw fw₁ fw' : Firmware} {completed : Bool} {outcome : ServiceOutcome}
    (hclock : env.ClockOk) (hcycle : AttemptCycle env fw completed fw₁ outcome fw')
    (h : PhaseInv env fw) : PhaseInv env fw' := by
  intro henabled
  have htick := (executorBusCycle_tick hcycle.bus).1
  have hkept := hcycle.kept
  have hsame := tickUpdate_sameFence env fw
  have hon : fw.executor.io.tick.enabled = true :=
    hsame.enabled ▸ htick.enabled (hkept.tick ▸ henabled)
  obtain ⟨g, hphase, hlater⟩ := h hon
  have hchecked : fw.machine.board.reads ≤ (fw.deadlineChecked env).machine.board.reads :=
    (executionDeadlineReached_frame env fw.executor fw.machine.board).reads
  have hupdate : ((fw.deadlineChecked env).machine.board).reads
      ≤ ((fw.deadlineChecked env).tickUpdate env).2.reads := updatePeriodicTick_reads _
  have hreads : ((fw.deadlineChecked env).tickUpdate env).2.reads
      ≤ fw'.machine.board.reads :=
    Nat.le_trans (executorBusCycle_effect hcycle.bus).reads hkept.frame.reads
  -- an armed halt stops the counting; otherwise the update catches up with the clock
  cases harmed : fw.executor.io.idleArmed with
  | true =>
    have hskip : ((fw.deadlineChecked env).tickUpdate env).1 = fw.executor.io.tick := by
      simp [Firmware.tickUpdate, Firmware.deadlineChecked, updatePeriodicTick, harmed]
    obtain ⟨hphase', hstarted⟩ := executorBusCycle_phase hcycle.bus hcycle.step (hskip ▸ hphase)
    refine ⟨g, hstarted ▸ hphase', fun n hn => ?_⟩
    rw [hstarted]
    exact hlater n (Nat.le_trans hchecked (by omega))
  | false =>
    set now := env.timeUs (fw.deadlineChecked env).machine.board.reads with hnow
    have hupdated : TickPhase fw.executor.executionStartedUs
        ((now.toNat - fw.executor.executionStartedUs.toNat) / 10000)
        ((fw.deadlineChecked env).tickUpdate env).1 := by
      rw [Firmware.tickUpdate,
        show (fw.deadlineChecked env).executor.io.idleArmed = false from harmed]
      exact updatePeriodicTick_phase hphase hon (hlater _ hchecked) (hclock.range _)
    obtain ⟨hphase', hstarted⟩ := executorBusCycle_phase hcycle.bus hcycle.step hupdated
    refine ⟨_, hstarted ▸ hphase', fun n hn => ?_⟩
    have hpast : fw.executor.executionStartedUs.toNat + 10000 * g ≤ now.toNat :=
      hlater _ hchecked
    have hmono : now.toNat ≤ (env.timeUs n).toNat :=
      UInt64.le_iff_toNat_le.mp (hclock.mono _ n (by omega))
    rw [hstarted]
    show fw.executor.executionStartedUs.toNat
      + 10000 * ((now.toNat - fw.executor.executionStartedUs.toNat) / 10000) ≤ (env.timeUs n).toNat
    omega

theorem firmwareRun_phase (hclock : env.ClockOk) (machine : Machine)
    (actions : List FirmwareAction)
    (hactive : (firmwareRun env machine actions).executor.active = true) :
    PhaseInv env (firmwareRun env machine actions) :=
  @firmwareRun_attempt env machine (fun fw _ => PhaseInv env fw)
    (fun _ hstart => .of_start hclock hstart)
    (fun _ _ _ hsame hline h => h.of_same hsame hline.request.reads)
    (fun _ _ _ _ _ _ hcycle h => h.cycle hclock hcycle) actions hactive

end

/-- The reading of the clock that `update_periodic_tick` makes in a service step. -/
def Firmware.tickNowUs (env : Env) (fw : Firmware) : ℕ :=
  (env.timeUs (fw.deadlineChecked env).machine.board.reads).toNat

/-- **The tick is phase-locked.**  After every service step that reaches `update_periodic_tick` with
the tick enabled and the halt not armed, whatever the step's bus cycle was and however it went:
`k` being the number of whole periods between the start of the attempt and the clock, the next tick
is due one period after the last of them, which is ahead of the clock, and `k` periods have been
counted. -/
theorem tick_phase_locked {env : Env} (hclock : env.ClockOk) {machine : Machine}
    {actions : List FirmwareAction} {fw : Firmware} (hrun : fw = firmwareRun env machine actions)
    (hx : fw.executor.Supervised) (hdeadline : ¬ fw.Expired env)
    (henabled : fw.executor.io.tick.enabled = true) (harmed : fw.executor.io.idleArmed = false)
    {startedUs k : ℕ} (hstartedUs : startedUs = fw.executor.executionStartedUs.toNat)
    (hk : k = (fw.tickNowUs env - startedUs) / 10000) :
    startedUs ≤ fw.tickNowUs env ∧
      (workloadExecutorService env fw).executor.executionStartedUs.toNat = startedUs ∧
      (workloadExecutorService env fw).executor.io.tick.nextUs.toNat
        = startedUs + 10000 * (k + 1) ∧
      fw.tickNowUs env < (workloadExecutorService env fw).executor.io.tick.nextUs.toNat ∧
      (workloadExecutorService env fw).executor.io.tick.generated.toNat = k % 2 ^ 32 := by
  have hinv := firmwareRun_phase hclock machine actions (hrun ▸ hx.active)
  rw [← hrun] at hinv
  obtain ⟨g, hphase, hlater⟩ := hinv henabled
  subst hstartedUs
  -- `g` periods were counted by earlier steps, and all of them have passed
  have hpast : fw.executor.executionStartedUs.toNat + 10000 * g ≤ fw.tickNowUs env :=
    hlater _ (executionDeadlineReached_frame env fw.executor fw.machine.board).reads
  -- the update counts up to the current period, and the bus cycle leaves that alone
  have hupdated : TickPhase fw.executor.executionStartedUs k
      ((fw.deadlineChecked env).tickUpdate env).1 := by
    rw [hk, Firmware.tickUpdate,
      show (fw.deadlineChecked env).executor.io.idleArmed = false from harmed]
    exact updatePeriodicTick_phase hphase henabled hpast (hclock.range _)
  have hservice : TickPhase fw.executor.executionStartedUs k
        (workloadExecutorService env fw).executor.io.tick ∧
      (workloadExecutorService env fw).executor.executionStartedUs
        = fw.executor.executionStartedUs := by
    cases workloadExecutorService_cycle env fw with
    | skipped hno hcycle h => exact absurd hx hno
    | expired hx hexpired => exact absurd hexpired hdeadline
    | cycle completed fw₁ hx hdeadline hbus hcycle h hstep =>
      exact executorBusCycle_phase hbus hstep hupdated
  obtain ⟨hphase', hstarted⟩ := hservice
  refine ⟨by omega, by rw [hstarted], hphase'.nextUs, ?_, ?_⟩
  · rw [hphase'.nextUs, hk]
    omega
  · rw [hphase'.generated, UInt32.toNat_ofNat']

/-- The board of `tickEnv`, with a clock that stops after 1000 seconds. -/
def phaseEnv : Env := { tickEnv with timeUs := fun n => UInt64.ofNat (min (1000 * n) 1000000000) }

theorem phaseEnv_clockOk : phaseEnv.ClockOk := by
  have htime : ∀ n, (phaseEnv.timeUs n).toNat = min (1000 * n) 1000000000 := by
    intro n
    show (UInt64.ofNat (min (1000 * n) 1000000000)).toNat = _
    rw [UInt64.toNat_ofNat', Nat.mod_eq_of_lt (by omega)]
  refine ⟨fun n m hnm => ?_, fun n => ?_⟩
  · rw [UInt64.le_iff_toNat_le, htime, htime]
    omega
  · rw [htime]
    omega

/-- The acknowledge cycles of a tick, 30 ms after the tick was due for the first time. -/
theorem tick_phase_locked_phaseEnv :
    (workloadExecutorService phaseEnv (firmwareRun phaseEnv coldMachine
        (tickStart ++ [.service, .service]))).executor.io.tick.nextUs.toNat
      = 101000 + 10000 * (4 + 1) := by
  have hsupervised : (firmwareRun phaseEnv coldMachine
      (tickStart ++ [.service, .service])).executor.Supervised :=
    ⟨by decide +kernel, by decide +kernel, by decide +kernel⟩
  exact (tick_phase_locked phaseEnv_clockOk rfl hsupervised
    (fun h => h.1 (by decide +kernel)) (by decide +kernel) (by decide +kernel)
    (show 101000 = _ by decide +kernel) (show 4 = _ by decide +kernel)).2.2.1

end Rp86
