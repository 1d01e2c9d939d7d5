import Mathlib.Data.List.DropRight
import Rp86.Runtime.Equiv.Attempt

/-!
# The starvation timeout

`starvation_started_us` is the clock of the first service step without a bus cycle since the last
cycle that completed, with zero for none (`StarveInv`).
-/

namespace Rp86

open Lib

/-- The clock of the first service step without a bus cycle since the last completed cycle. -/
def starvationSince (cycles : List CycleRecord) : Option UInt64 :=
  ((cycles.rtakeWhile (·.outcome ≠ .completed)).find? (·.outcome = .noCycle)).map (·.nowUs)

section

variable {cycles : List CycleRecord} {r : CycleRecord} {t : UInt64}

theorem starvationSince_completed (h : r.outcome = .completed) :
    starvationSince (cycles ++ [r]) = none := by
  rw [starvationSince, List.rtakeWhile_concat_neg _ _ _ (by simp [h])]
  rfl

theorem starvationSince_noCycle (h : r.outcome = .noCycle) :
    starvationSince (cycles ++ [r]) = some ((starvationSince cycles).getD r.nowUs) := by
  rw [starvationSince, List.rtakeWhile_concat_pos _ _ _ (by simp [h]), List.find?_append,
    starvationSince]
  cases (cycles.rtakeWhile (·.outcome ≠ .completed)).find? (·.outcome = .noCycle) with
  | none => simp [h]
  | some first => rfl

theorem starvationSince_other (hcompleted : r.outcome ≠ .completed)
    (hcycle : r.outcome ≠ .noCycle) :
    starvationSince (cycles ++ [r]) = starvationSince cycles := by
  rw [starvationSince, List.rtakeWhile_concat_pos _ _ _ (by simp [hcompleted]), List.find?_append,
    starvationSince]
  simp [hcycle]

theorem exists_of_starvationSince (h : starvationSince cycles = some t) :
    ∃ r ∈ cycles, r.nowUs = t := by
  obtain ⟨r, hfind, rfl⟩ := Option.map_eq_some_iff.mp h
  have hmem := List.mem_of_find?_eq_some hfind
  exact ⟨r, (List.rtakeWhile_suffix _ _).subset hmem, rfl⟩

end

/-- The clock never goes back, and is never zero. -/
structure Env.ClockPositive (env : Env) : Prop where
  mono : ∀ n m, n ≤ m → env.timeUs n ≤ env.timeUs m
  ne_zero : ∀ n, env.timeUs n ≠ 0

/-- The step was 100 ms late, in a run with these cycles before it. -/
def CycleRecord.Starved (r : CycleRecord) (cycles : List CycleRecord) : Prop :=
  r.outcome = .noCycle ∧
    ∃ t, starvationSince (cycles ++ [r]) = some t ∧ t.toNat + 100000 ≤ r.nowUs.toNat

/-- What holds of the starvation timer of an attempt with its bus cycles. -/
structure StarveInv (env : Env) (fw : Firmware) (cycles : List CycleRecord) : Prop where
  started : fw.executor.processorIdle = false →
    fw.executor.starvationStartedUs = (starvationSince cycles).getD 0
  ne_zero : ∀ r ∈ cycles, r.nowUs ≠ 0
  past : ∀ r ∈ cycles, ∀ n ≥ fw.machine.board.reads, r.nowUs ≤ env.timeUs n
  after : ∀ t, starvationSince cycles = some t →
    ∀ r ∈ cycles, r.outcome = .completed → r.nowUs ≤ t
  waiting : ∀ pre r, pre ++ [r] <+: cycles → ¬ r.Starved pre

section

variable {env : Env} {fw fw' : Firmware} {cycles : List CycleRecord}

theorem StarveInv.of_start (hstart : fw.executor.AttemptStart env fw.machine.board) :
    StarveInv env fw [] where
  started := fun _ => hstart.starvationStartedUs
  ne_zero := fun r hr => absurd hr List.not_mem_nil
  past := fun r hr => absurd hr List.not_mem_nil
  after := fun t ht => by cases ht
  waiting := fun pre r hpre => absurd (List.prefix_nil.mp hpre) (by simp)

theorem StarveInv.of_same (hsame : fw.executor.SameAttempt fw'.executor)
    (hline : LineFrame fw.machine.board fw'.machine.board) (h : StarveInv env fw cycles) :
    StarveInv env fw' cycles where
  started := by
    rw [hsame.processorIdle, hsame.starvationStartedUs]
    exact h.started
  ne_zero := h.ne_zero
  past := fun r hr n hn => h.past r hr n (Nat.le_trans hline.request.reads hn)
  after := h.after
  waiting := h.waiting

/-- The timer that a service step without a bus cycle leaves is the one its history asks for. -/
theorem StarveInv.starving {fw fw₁ : Firmware} {cycles : List CycleRecord} {r : CycleRecord}
    (h : StarveInv env fw cycles) (hidle : fw.executor.processorIdle = false)
    (hsame : fw₁.executor.starvationStartedUs = fw.executor.starvationStartedUs)
    (hnow : r.nowUs = env.timeUs fw₁.machine.board.reads) (hr : r.outcome = .noCycle) :
    starvationSince (cycles ++ [r]) = some (fw₁.starving env).executor.starvationStartedUs := by
  have hstarted := h.started hidle
  rw [starvationSince_noCycle hr]
  simp only [Firmware.starving, hsame, hstarted, ← hnow]
  cases hsince : starvationSince cycles with
  | none => rfl
  | some t =>
    obtain ⟨first, hfirst, rfl⟩ := exists_of_starvationSince hsince
    simp [h.ne_zero first hfirst]

/-- The clock of a new cycle is past every cycle before it. -/
theorem StarveInv.past_append {r : CycleRecord} {n₁ : ℕ} (hclock : env.ClockPositive)
    (h : StarveInv env fw cycles) (hreads : fw.machine.board.reads ≤ n₁)
    (hnow : r.nowUs = env.timeUs n₁) : ∀ c ∈ cycles ++ [r], ∀ n ≥ n₁, c.nowUs ≤ env.timeUs n := by
  intro c hc n hn
  rcases List.mem_append.mp hc with hc | hc
  · exact h.past c hc n (Nat.le_trans hreads hn)
  · obtain rfl := List.mem_singleton.mp hc
    rw [hnow]
    exact hclock.mono n₁ n hn

/-- **The firmware's comparison is the one of its history.** -/
theorem StarveInv.starved_iff {fw fw₁ : Firmware} {cycles : List CycleRecord} {r : CycleRecord}
    (hclock : env.ClockPositive) (h : StarveInv env fw cycles)
    (hidle : fw.executor.processorIdle = false)
    (hsame : fw₁.executor.starvationStartedUs = fw.executor.starvationStartedUs)
    (hreads : fw.machine.board.reads ≤ fw₁.machine.board.reads)
    (hnow : r.nowUs = env.timeUs fw₁.machine.board.reads) (hr : r.outcome = .noCycle) :
    r.Starved cycles ↔
      ¬ env.timeUs fw₁.machine.board.reads - (fw₁.starving env).executor.starvationStartedUs
        < generalBusStarvationTimeoutUs := by
  have hsince := h.starving hidle hsame hnow hr
  obtain ⟨first, hfirst, hstarted⟩ := exists_of_starvationSince hsince
  have hle := h.past_append hclock hreads hnow first hfirst _ (Nat.le_refl _)
  have hbound : generalBusStarvationTimeoutUs.toNat = 100000 := rfl
  rw [hstarted] at hle
  rw [UInt64.lt_iff_toNat_lt, UInt64.toNat_sub_of_le _ _ hle, hbound, CycleRecord.Starved, hsince,
    hnow]
  simp only [hr, Option.some.injEq, exists_eq_left', true_and]
  rw [UInt64.le_iff_toNat_le] at hle
  omega

/-- A further cycle, made at read `n₁`. -/
theorem StarveInv.append {r : CycleRecord} {n₁ : ℕ} (hclock : env.ClockPositive)
    (h : StarveInv env fw cycles) (hreads : fw.machine.board.reads ≤ n₁)
    (hreads' : n₁ ≤ fw'.machine.board.reads) (hnow : r.nowUs = env.timeUs n₁)
    (hstarted : fw'.executor.processorIdle = false →
      fw'.executor.starvationStartedUs = (starvationSince (cycles ++ [r])).getD 0)
    (hsince : ∀ t, starvationSince (cycles ++ [r]) = some t →
      r.outcome ≠ .completed ∧ (starvationSince cycles = some t ∨ t = r.nowUs))
    (hwait : ¬ r.Starved cycles) : StarveInv env fw' (cycles ++ [r]) := by
  refine ⟨hstarted, fun c hc => ?_, fun c hc n hn => ?_, fun t ht c hc hcompleted => ?_,
    fun pre c hpre => ?_⟩
  · rcases List.mem_append.mp hc with hc | hc
    · exact h.ne_zero c hc
    · obtain rfl := List.mem_singleton.mp hc
      rw [hnow]
      exact hclock.ne_zero _
  · exact h.past_append hclock hreads hnow c hc n (Nat.le_trans hreads' hn)
  · obtain ⟨hne, ht⟩ := hsince t ht
    rcases List.mem_append.mp hc with hc | hc
    · rcases ht with ht | rfl
      · exact h.after t ht c hc hcompleted
      · rw [hnow]
        exact h.past c hc n₁ hreads
    · obtain rfl := List.mem_singleton.mp hc
      exact absurd hcompleted hne
  · rcases List.prefix_concat_iff.mp hpre with heq | hpre
    · obtain ⟨rfl, hlast⟩ := List.append_inj' heq rfl
      obtain rfl := List.head_eq_of_cons_eq hlast
      exact hwait
    · exact h.waiting pre c hpre

theorem StarveInv.cycle {fw₁ : Firmware} {completed : Bool} {outcome : ServiceOutcome}
    (hclock : env.ClockPositive) (hcycle : AttemptCycle env fw completed fw₁ outcome fw')
    (h : StarveInv env fw cycles) : StarveInv env fw' (cycles ++
      [⟨outcome, fw₁.executor.busStats, env.timeUs fw₁.machine.board.reads⟩]) := by
  have hbus := executorBusCycle_kept hcycle.bus
  have hreads := hcycle.kept.frame.reads
  obtain ⟨hx, -, hout, heq, hstep, hafter⟩ := hcycle
  cases hout with
  | completed =>
    have hnone := @starvationSince_completed cycles
      ⟨.completed, fw₁.executor.busStats, env.timeUs fw₁.machine.board.reads⟩ rfl
    exact h.append hclock hbus.frame.reads hreads rfl (fun _ => by rw [hnone, heq]; rfl)
      (fun t ht => by rw [hnone] at ht; cases ht) (fun hstarved => by cases hstarved.1)
  | armedHalt =>
    have hother := @starvationSince_other cycles
      ⟨.armedHalt, fw₁.executor.busStats, env.timeUs fw₁.machine.board.reads⟩ (by simp) (by simp)
    refine h.append hclock hbus.frame.reads hreads rfl (fun hidle => ?_)
      (fun t ht => ⟨by simp, Or.inl (hother ▸ ht)⟩) (fun hstarved => by cases hstarved.1)
    -- the executor that has seen the halt is idle
    cases hstep with
    | goesOn us b hframe houtcome => exact absurd (by decide) houtcome
    | completes => cases hidle
    | ends => cases hafter
  | noCycle =>
    set r : CycleRecord := ⟨.noCycle, fw₁.executor.busStats, env.timeUs fw₁.machine.board.reads⟩
    have hsince := @StarveInv.starving env fw fw₁ cycles r h hx.notIdle hbus.starvationStartedUs
      rfl rfl
    have hiff := @StarveInv.starved_iff env fw fw₁ cycles r hclock h hx.notIdle
      hbus.starvationStartedUs hbus.frame.reads rfl rfl
    rw [serviceOutcome, serviceNoCycle_eq] at heq
    -- the attempt is still active, so this step was not late
    have hwait : ¬ r.Starved cycles := by
      intro hstarved
      obtain ⟨m, -, hend⟩ := @endAttempt_eq env (fw₁.starving env)
        (hbus.control.active.trans hx.active) .noBusCycle .timedOut
      rw [heq, if_neg (hiff.mp hstarved), hend] at hafter
      cases hafter
    rw [if_pos (not_not.mp (mt hiff.mpr hwait))] at heq
    refine h.append hclock hbus.frame.reads hreads rfl (fun _ => ?_) (fun t ht => ?_) hwait
    · rw [heq, hsince]
      rfl
    · rw [@starvationSince_noCycle cycles r rfl, Option.some.injEq] at ht
      refine ⟨by simp [r], ?_⟩
      cases hbefore : starvationSince cycles with
      | none => exact Or.inr (by rw [← ht, hbefore]; rfl)
      | some first => exact Or.inl (by rw [← ht, hbefore]; rfl)
  | fault =>
    cases hstep with
    | goesOn us b hframe houtcome => exact absurd (by decide) houtcome
    | completes manager houtcome => cases houtcome
    | ends => cases hafter

theorem firmwareRun_starveInv (hclock : env.ClockPositive) (machine : Machine)
    (actions : List FirmwareAction)
    (hactive : (firmwareRun env machine actions).executor.active = true) :
    StarveInv env (firmwareRun env machine actions) (attemptCycles env machine actions) :=
  firmwareRun_attempt (fun _ hstart => .of_start hstart)
    (fun _ _ _ hsame hline h => h.of_same hsame hline)
    (fun _ _ _ _ _ _ hcycle h => h.cycle hclock hcycle) actions hactive

/-! ### The timeout -/

/-- The workload has timed out for want of bus cycles. -/
def Firmware.StarvedOut (fw : Firmware) : Prop :=
  fw.manager.state = .timedOut ∧ fw.executor.completionReason = .noBusCycle

theorem RecordStep.not_starvedOut {request : Message} {event : HostEvent} (hagrees : Agrees fw)
    (hstep : RecordStep env fw request event fw') (hbefore : ¬ fw.StarvedOut) :
    ¬ fw'.StarvedOut := by
  rintro ⟨hst, hreason⟩
  have hsame := hstep.not_fromService hagrees (Or.inr hst)
  have hst' : fw.manager.state = .timedOut := hsame.symm.trans hst
  have hactive : fw.executor.active = false :=
    hagrees.not_active (by rw [hst']; decide) (by rw [hst']; decide)
  cases hstep.report hagrees with
  | same h hreads => exact hbefore ⟨hst', h.completionReason.symm.trans hreason⟩
  | cleared hoff h =>
    rw [h] at hreason
    exact hbefore ⟨hst', hreason⟩
  | staged flags hoff h =>
    rw [h] at hreason
    cases hreason
  | halted hon h hcause => exact absurd hon (Bool.eq_false_iff.mp hactive)
  | started h =>
    rw [h.noResult.completionReason] at hreason
    cases hreason
  | startFailed h =>
    rw [h.completionReason] at hreason
    cases hreason

/-- A service step times the workload out exactly if its bus cycle was 100 ms late. -/
theorem workloadExecutorService_starvedOut (hclock : env.ClockPositive) (hagrees : Agrees fw)
    (hbefore : ¬ fw.StarvedOut) (hinv : fw.executor.active = true → StarveInv env fw cycles) :
    (workloadExecutorService env fw).StarvedOut ↔
      ∃ r, serviceRecord env fw = some r ∧ r.Starved cycles := by
  cases workloadExecutorService_cycle env fw with
  | skipped hx hcycle h =>
    rw [h, serviceRecord, hcycle]
    refine ⟨fun hc => absurd hc hbefore, ?_⟩
    rintro ⟨r, ⟨⟩, -⟩
  | expired hx hexpired hcycle m h hstep =>
    rw [h, serviceRecord, hcycle]
    refine ⟨fun hc => (by cases hc.2), ?_⟩
    rintro ⟨r, ⟨⟩, -⟩
  | cycle completed fw₁ hx hdeadline hbus hcycle h hstep =>
    have hkept := executorBusCycle_kept hbus
    have hout := executorBusCycle_outcome hbus
    have hrunning : fw₁.manager.state = .running := by
      rw [hkept.manager]
      exact hagrees.running hx
    rw [serviceRecord_of_cycle hcycle]
    simp only [Option.some.injEq, exists_eq_left']
    generalize workloadExecutorService env fw = fw' at h hstep ⊢
    generalize fw₁.cycleOutcome completed = outcome at h hout hstep ⊢
    cases hout with
    | noCycle =>
      have hiff := @StarveInv.starved_iff env fw fw₁ cycles
        ⟨.noCycle, fw₁.executor.busStats, env.timeUs fw₁.machine.board.reads⟩ hclock
        (hinv hx.active) hx.notIdle hkept.starvationStartedUs hkept.frame.reads rfl rfl
      rw [h, hiff, serviceOutcome, serviceNoCycle_eq]
      split
      · next hwait =>
        exact ⟨fun hc => absurd (hrunning.symm.trans hc.1) (by decide), fun hc => absurd hwait hc⟩
      · next hlate =>
        obtain ⟨m, -, hend⟩ := @endAttempt_eq env (fw₁.starving env)
          (hkept.control.active.trans hx.active) .noBusCycle .timedOut
        rw [hend]
        exact ⟨fun _ => hlate, fun _ => ⟨rfl, rfl⟩⟩
    | completed | armedHalt | fault =>
      -- a cycle that went otherwise is not late, and does not lead to `TIMED_OUT`
      refine ⟨fun hc => absurd hc.1 ?_, fun hc => by cases hc.1⟩
      cases hstep with
      | goesOn =>
        rw [hrunning]
        decide
      | completes manager houtcome hcomplete =>
        rw [(workloadTransition_eq_some hcomplete).2.2]
        exact WorkloadState.noConfusion
      | ends reason state m hend hstops => cases hend <;> exact WorkloadState.noConfusion

end

/-- **The starvation timeout is exact.**  An action takes the workload to `TIMED_OUT` with reason
`NO_BUS_CYCLE` exactly if it is a service step without a bus cycle that is at least 100 ms behind
the first such step since the last completed bus cycle of the attempt.  No earlier step of the
attempt was, and a bus cycle that completed within the last 100 ms rules it out. -/
theorem starvation_timeout_exact {env : Env} (hclock : env.ClockPositive) (machine : Machine)
    (actions : List FirmwareAction) (action : FirmwareAction) {fw : Firmware}
    (hrun : fw = firmwareRun env machine actions) (hbefore : ¬ fw.StarvedOut) :
    ((firmwareStep env fw action).StarvedOut ↔
      fw.halted = false ∧ action = .service ∧ ∃ r, serviceRecord env fw = some r ∧
        r.Starved (attemptCycles env machine actions)) ∧
    (fw.executor.active = true → ∀ pre r, pre ++ [r] <+: attemptCycles env machine actions →
      ¬ r.Starved pre) ∧
    (∀ r, serviceRecord env fw = some r →
      (∃ c ∈ attemptCycles env machine actions, c.outcome = .completed ∧
        r.nowUs.toNat < c.nowUs.toNat + 100000) → ¬ (firmwareStep env fw action).StarvedOut) := by
  have hagrees : Agrees fw := hrun ▸ firmwareRun_agrees env machine actions
  have hinv : fw.executor.active = true →
      StarveInv env fw (attemptCycles env machine actions) := by
    rw [hrun]
    exact firmwareRun_starveInv hclock machine actions
  have hiff : (firmwareStep env fw action).StarvedOut ↔
      fw.halted = false ∧ action = .service ∧ ∃ r, serviceRecord env fw = some r ∧
        r.Starved (attemptCycles env machine actions) := by
    cases hmessage : action.message with
    -- no record times a workload out
    | some request =>
      have hno := (firmwareStep_record env fw hmessage).not_starvedOut hagrees hbefore
      refine ⟨fun hc => absurd hc hno, fun ⟨_, hservice, _⟩ => ?_⟩
      rw [hservice] at hmessage
      cases hmessage
    | none =>
      obtain rfl : action = .service := by cases action <;> first | rfl | cases hmessage
      unfold firmwareStep
      split
      · next hhalted =>
        exact ⟨fun hc => absurd hc hbefore, fun hc => absurd hhalted (Bool.eq_false_iff.mp hc.1)⟩
      · next hhalted =>
        rw [show firmwareAct env fw .service = workloadExecutorService env fw from rfl,
          workloadExecutorService_starvedOut hclock hagrees hbefore hinv]
        simp [hhalted]
  refine ⟨hiff, fun hactive => (hinv hactive).waiting, ?_⟩
  -- a completed cycle of the last 100 ms contradicts the first step without one
  rintro r hr ⟨c, hc, hcompleted, hrecent⟩ hout
  obtain ⟨-, -, r', hr', hcycle, t, ht, hlate⟩ := hiff.mp hout
  obtain rfl := Option.some.inj (hr.symm.trans hr')
  have hactive : fw.executor.active = true := by
    cases workloadExecutorService_cycle env fw with
    | skipped hx hcycle' h =>
      rw [serviceRecord, hcycle'] at hr
      cases hr
    | expired hx | cycle _ _ hx => exact hx.active
  rw [starvationSince_noCycle hcycle, Option.some.injEq] at ht
  cases hsince : starvationSince (attemptCycles env machine actions) with
  | none =>
    rw [hsince] at ht
    have hnow : r.nowUs = t := ht
    rw [hnow] at hlate
    omega
  | some first =>
    -- the timer was started after the cycle that completed
    have hafter := UInt64.le_iff_toNat_le.mp ((hinv hactive).after first hsince c hc hcompleted)
    rw [hsince] at ht
    have hfirst : first = t := ht
    rw [hfirst] at hafter
    omega

/-- A board on which the processor never makes a bus cycle, with 30 ms between the reads of the
clock and a clock that stops after 1000 seconds. -/
def silentEnv : Env :=
  { scriptedEnv 0 [] with timeUs := fun n => UInt64.ofNat (min (30000 * n + 1) 1000000000) }

theorem silentEnv_clockPositive : silentEnv.ClockPositive := by
  have htime : ∀ n, (silentEnv.timeUs n).toNat = min (30000 * n + 1) 1000000000 := by
    intro n
    show (UInt64.ofNat (min (30000 * n + 1) 1000000000)).toNat = _
    rw [UInt64.toNat_ofNat', Nat.mod_eq_of_lt (by omega)]
  refine ⟨fun n m hnm => ?_, fun n hzero => ?_⟩
  · rw [UInt64.le_iff_toNat_le, htime, htime]
    omega
  · have h := htime n
    rw [hzero] at h
    have h0 : (0 : UInt64).toNat = 0 := rfl
    omega

theorem starvation_timeout_exact_silent :
    ∃ r, serviceRecord silentEnv (firmwareRun silentEnv coldMachine (haltStart ++ [.service]))
        = some r ∧
      r.Starved (attemptCycles silentEnv coldMachine (haltStart ++ [.service])) := by
  have hbefore : ¬ (firmwareRun silentEnv coldMachine (haltStart ++ [.service])).StarvedOut :=
    fun h => absurd h.1 (by decide +kernel)
  have hout : (firmwareStep silentEnv (firmwareRun silentEnv coldMachine
      (haltStart ++ [.service])) .service).StarvedOut :=
    ⟨by decide +kernel, by decide +kernel⟩
  have h := starvation_timeout_exact silentEnv_clockPositive coldMachine (haltStart ++ [.service])
    .service rfl
  exact ((h hbefore).1.mp hout).2.2

end Rp86
