import Rp86.Runtime.Equiv.TickStep

/-!
# The delivery fence

An end-of-interrupt write asks for 64 further bus cycles before the next interrupt, by a deadline
in the 32-bit count of completed cycles that is one past the count of the cycle itself.  Zero is
the deadline of an open gate, so the fence holds for every count but the one whose deadline is
zero (`fenceGap`): there the next service step may assert `INTR` at once.  An end-of-interrupt
write that closes an interrupt in service also asks for one period of wall time.
-/

namespace Rp86

open Lib

/-- The count of completed cycles at which the fence of an end-of-interrupt write wraps to zero. -/
def fenceGap : UInt32 := 0xFFFFFFBF

/-! ### The deadline in cycles -/

theorem fence_ne_zero {cycles : UInt32} (h : cycles ≠ fenceGap) :
    cycles + periodicTickRecoveryCycles + 1 ≠ 0 := by
  unfold fenceGap at h
  unfold periodicTickRecoveryCycles
  grind

theorem fence_sub (cycles : UInt32) :
    cycles + periodicTickRecoveryCycles + 1 - (cycles + 1) = 64 := by
  unfold periodicTickRecoveryCycles
  grind

/-- The fence of an end-of-interrupt write is 64 cycles ahead of the count after it. -/
theorem fence_ahead {cycles : UInt32} (hgap : cycles ≠ fenceGap) (n : ℕ) :
    cycles + periodicTickRecoveryCycles + 1 ≠ 0 ∧
      64 - n ≤ (cycles + periodicTickRecoveryCycles + 1 - (cycles + 1)).toNat ∧
      (cycles + periodicTickRecoveryCycles + 1 - (cycles + 1)).toNat ≤ 64 := by
  have hsub : (cycles + periodicTickRecoveryCycles + 1 - (cycles + 1)).toNat = 64 := by
    rw [fence_sub]
    rfl
  exact ⟨fence_ne_zero hgap, by omega, by omega⟩

/-- A completed cycle brings a deadline one cycle closer. -/
theorem toNat_sub_add_one {current deadline : UInt32} (h : 1 ≤ (deadline - current).toNat) :
    (deadline - (current + 1)).toNat = (deadline - current).toNat - 1 := by
  have hsub : deadline - (current + 1) = deadline - current - 1 := by grind
  have hle : (1 : UInt32) ≤ deadline - current := UInt32.le_iff_toNat_le.mpr h
  rw [hsub, UInt32.toNat_sub_of_le _ _ hle]
  rfl

/-- A deadline that is ahead by at most 64 cycles has not been reached. -/
theorem cycleDeadlineReached_of_ahead {current deadline : UInt32} (hne : deadline ≠ 0)
    (hpos : 1 ≤ (deadline - current).toNat) (hle : (deadline - current).toNat ≤ 64) :
    cycleDeadlineReached current deadline = false := by
  have hneg : current - deadline = 0 - (deadline - current) := by grind
  have hdiff : (current - deadline).toNat = 2 ^ 32 - (deadline - current).toNat := by
    rw [hneg, UInt32.toNat_sub]
    have hz : (0 : UInt32).toNat = 0 := rfl
    omega
  have hlt : ¬ current - deadline < 0x80000000 := by
    rw [UInt32.lt_iff_toNat_lt, hdiff]
    have hhalf : (0x80000000 : UInt32).toNat = 2 ^ 31 := rfl
    omega
  simp [cycleDeadlineReached, hne, hlt]

/-! ### The update of the tick -/

/-- An update only asserts `INTR` when both gates are open. -/
theorem updatePeriodicTick_asserts {env : Env} {idleArmed : Bool} {cycles : UInt32}
    {t : TickState} {b : Board} (hlow : t.intrAsserted = false)
    (h : (updatePeriodicTick env idleArmed cycles t b).1.intrAsserted = true) :
    t.enabled = true ∧ deliveryRecovered (env.timeUs b.reads) cycles t = true := by
  have hsame := generateTicks_sameFence (env.timeUs b.reads) t
  have hintr := generateTicks_intrAsserted (env.timeUs b.reads) t
  unfold updatePeriodicTick timeUs64 deliverTick at h
  simp only at h
  split_ifs at h with hoff hdue
  · exact absurd (hlow.symm.trans h) (by decide)
  · refine ⟨?_, ?_⟩
    · simp only [Bool.or_eq_true, Bool.not_eq_true', not_or, Bool.not_eq_false] at hoff
      exact hoff.1.1
    · have hrecovered := hdue.2.2.2.2
      unfold deliveryRecovered at hrecovered ⊢
      rw [hsame.deliveryNotBeforeUs, hsame.deliveryNotBeforeCycle] at hrecovered
      exact hrecovered
  · rw [hintr] at h
    exact absurd (hlow.symm.trans h) (by decide)

/-! ### The fence -/

/-- The fence after `n` completed cycles.  `closed` is the clock at the end of interrupt, if it
closed an interrupt in service. -/
structure Fenced (closed : Option UInt64) (n : ℕ) (t : TickState) (cycles : UInt32) : Prop where
  intrAsserted : t.intrAsserted = false
  ahead : n < 64 → t.deliveryNotBeforeCycle ≠ 0 ∧
    64 - n ≤ (t.deliveryNotBeforeCycle - cycles).toNat ∧
    (t.deliveryNotBeforeCycle - cycles).toNat ≤ 64
  closed : ∀ now, closed = some now →
    t.ackPhase = 0 ∧ t.inService = false ∧ t.deliveryNotBeforeUs = now + periodicTickUs

section

variable {env : Env} {closed : Option UInt64} {n : ℕ} {t t' : TickState} {cycles : UInt32}
  {b b' : Board}

theorem Fenced.congr (h : Fenced closed n t cycles) (hsame : t.SameFence t')
    (hintr : t'.intrAsserted = false) : Fenced closed n t' cycles where
  intrAsserted := hintr
  ahead := by
    rw [hsame.deliveryNotBeforeCycle]
    exact h.ahead
  closed := by
    rw [hsame.ackPhase, hsame.inService, hsame.deliveryNotBeforeUs]
    exact h.closed

/-- A completed cycle counts once on both sides. -/
theorem Fenced.advance (h : Fenced closed n t cycles) (completed : Bool) :
    Fenced closed (n + if completed then 1 else 0) t
      (if completed then cycles + 1 else cycles) := by
  cases completed with
  | false => exact h
  | true =>
    refine ⟨h.intrAsserted, fun hn => ?_, h.closed⟩
    simp only [↓reduceIte] at hn ⊢
    obtain ⟨hne, hge, hle⟩ := h.ahead (by omega)
    rw [toNat_sub_add_one (by omega)]
    exact ⟨hne, by omega, by omega⟩

/-- While `INTR` is low only the second acknowledge cycle changes the tick. -/
theorem Fenced.interruptAck (h : Fenced closed n t cycles) :
    Fenced closed n (tickInterruptAck t b).2.1 cycles := by
  unfold tickInterruptAck
  split_ifs with hoff hphase hintr hphase'
  · exact h
  · exact h
  · exact absurd h.intrAsserted (by simpa using hintr)
  · refine ⟨h.intrAsserted, h.ahead, fun now hnow => ?_⟩
    exact absurd (h.closed now hnow).1 hphase
  · exact h

/-- A further end-of-interrupt write moves the fence. -/
theorem Fenced.eoi (h : Fenced closed n t cycles) (henabled : t.enabled = true)
    (hgap : cycles ≠ fenceGap) :
    Fenced closed (n + 1) (tickEoi env cycles t b).1 (cycles + 1) := by
  have hretract : retractTick t b = (t, b) := by simp [retractTick, h.intrAsserted]
  unfold tickEoi
  simp only [henabled, ↓reduceIte, hretract]
  unfold closeService
  split_ifs with hservice
  · refine ⟨h.intrAsserted, fun _ => fence_ahead hgap _, fun now hnow => ?_⟩
    exact absurd hservice (Bool.eq_false_iff.mp (h.closed now hnow).2.1)
  · exact ⟨h.intrAsserted, fun _ => fence_ahead hgap _, h.closed⟩

/-- A bus cycle keeps the fence of a tick that stays enabled. -/
theorem TickCycle.fenced {eoi completed : Bool} (hcycle : TickCycle env cycles t b eoi t' b')
    (heoi : eoi = true → completed = true ∧ cycles ≠ fenceGap) (henabled : t'.enabled = true)
    (h : Fenced closed n t cycles) :
    Fenced closed (n + if completed then 1 else 0) t'
      (if completed then cycles + 1 else cycles) := by
  have hon := hcycle.enabled henabled
  cases hcycle with
  | same b' hframe => exact h.advance completed
  | ack b₁ b' hframe hframe' => exact h.interruptAck.advance completed
  | eoi b₁ hframe =>
    obtain ⟨rfl, hgap⟩ := heoi rfl
    exact h.eoi hon hgap
  | idlePrepare b₁ hframe =>
    rw [tickIdlePrepare, if_pos hon] at henabled
    cases henabled

/-- An end-of-interrupt write retracts a request on the line, unless it closes a service. -/
theorem TickLedger.retract_low (hledger : TickLedger t) (hservice : t.inService = false) :
    (retractTick t b).1.intrAsserted = false ∧ (retractTick t b).1.inService = false := by
  unfold retractTick
  split_ifs with hretract
  · exact ⟨rfl, hservice⟩
  · refine ⟨?_, hservice⟩
    by_contra hc
    have hasserted : t.intrAsserted = true := by simpa using hc
    exact hretract ⟨by simp [hservice], hledger.phase_of_intr hasserted, hasserted⟩

/-- The end-of-interrupt write that sets the fence, on a tick whose ledger is in order. -/
theorem TickCycle.fenced_of_eoi (hcycle : TickCycle env cycles t b true t' b')
    (hledger : TickLedger t) (henabled : t.enabled = true) (hgap : cycles ≠ fenceGap) :
    Fenced (if t.inService then some (env.timeUs (b'.reads - 1)) else none) 0 t' (cycles + 1) := by
  cases hcycle with
  | eoi b₁ hframe =>
    cases hservice : t.inService with
    | true =>
      have hintr : t.intrAsserted = false := by
        by_contra hc
        have hidle := hledger.service_of_intr (by simpa using hc)
        exact absurd (hservice.symm.trans hidle) (by decide)
      have hphase : t.ackPhase = 0 := by
        refine hledger.phase.resolve_right fun hc => ?_
        exact absurd (hservice.symm.trans (hledger.service_of_phase hc)) (by decide)
      have heq : tickEoi env cycles t b₁ = ({ t with
          inService := false
          deliveryNotBeforeUs := env.timeUs b₁.reads + periodicTickUs
          eoi := t.eoi + 1
          deliveryNotBeforeCycle := cycles + periodicTickRecoveryCycles + 1 }, b₁.next) := by
        simp [tickEoi, henabled, retractTick, hservice, closeService, timeUs64]
      rw [heq]
      refine ⟨hintr, fun _ => fence_ahead hgap _, fun now hnow => ⟨hphase, rfl, ?_⟩⟩
      have hnow : env.timeUs (b₁.reads + 1 - 1) = now := Option.some.inj hnow
      rw [← hnow, Nat.add_sub_cancel]
    | false =>
      obtain ⟨hlow, hidle⟩ := @TickLedger.retract_low t b₁ hledger hservice
      unfold tickEoi closeService
      simp only [henabled, ↓reduceIte, hidle]
      exact ⟨hlow, fun _ => fence_ahead hgap _, fun now hnow => by cases hnow⟩

end

/-! ### Runs -/

/-- The update of the tick in a service step asserts `INTR`. -/
def Firmware.assertsIntr (env : Env) (fw : Firmware) : Bool :=
  fw.executor.active && fw.executor.clockMode = .stepped && !fw.executor.processorIdle &&
    !(executionDeadlineReached env fw.executor fw.machine.board).1 &&
    !fw.executor.io.tick.intrAsserted &&
    ((fw.deadlineChecked env).tickUpdate env).1.intrAsserted

/-- A run within one attempt up to the next assertion of `INTR`, with the number of bus cycles that
it completes.  No end-of-interrupt write in it comes at `fenceGap`. -/
inductive FenceRun (env : Env) (fw : Firmware) : ℕ → Firmware → Prop
  | refl : FenceRun env fw 0 fw
  | record {n : ℕ} {fw' : Firmware} (h : FenceRun env fw n fw') (action : FirmwareAction)
      (request : Message) (haction : action.message = some request)
      (hattempt : (firmwareStep env fw' action).machine.processorBootId
        = fw'.machine.processorBootId) :
      FenceRun env fw n (firmwareStep env fw' action)
  | service {n : ℕ} {fw' : Firmware} (h : FenceRun env fw n fw')
      (hquiet : fw'.assertsIntr env = false)
      (hgap : fw'.acceptsEoi env = true → fw'.executor.busStats.cycles ≠ fenceGap) :
      FenceRun env fw (n + if fw'.completesCycle env then 1 else 0)
        (workloadExecutorService env fw')

/-- What a run keeps until `INTR` is asserted. -/
structure FenceInv (closed : Option UInt64) (n : ℕ) (fw : Firmware) : Prop where
  agrees : Agrees fw
  tickOk : fw.TickOk
  fenced : fw.executor.active = true → fw.executor.io.tick.enabled = true →
    Fenced closed n fw.executor.io.tick fw.executor.busStats.cycles

section

variable {env : Env} {fw fw' : Firmware} {closed : Option UInt64} {n : ℕ}

/-- Every action but a service step keeps the fence. -/
theorem FenceInv.record (h : FenceInv closed n fw) {action : FirmwareAction} {request : Message}
    (haction : action.message = some request)
    (hattempt : (firmwareStep env fw action).machine.processorBootId
      = fw.machine.processorBootId) :
    FenceInv closed n (firmwareStep env fw action) := by
  have hstep := firmwareStep_record env fw haction
  have htick := hstep.tick h.agrees
  refine ⟨hstep.agrees h.agrees, htick.ok h.tickOk, fun hactive henabled => ?_⟩
  cases htick with
  | kept htick hframe hcontinues =>
    rcases hcontinues with hcontinues | hbegins
    · obtain ⟨hactive', hcycles⟩ := hcontinues hactive
      rw [htick] at henabled ⊢
      rw [hcycles]
      exact h.fenced hactive' henabled
    · exact absurd hattempt (hbegins hactive)
  | silenced hoff => exact absurd henabled (Bool.eq_false_iff.mp hoff)
  | reset hreset hbegins => exact absurd hattempt (hbegins hactive)

/-- A service step that does not assert `INTR` keeps the fence. -/
theorem FenceInv.service (h : FenceInv closed n fw) (hquiet : fw.assertsIntr env = false)
    (hgap : fw.acceptsEoi env = true → fw.executor.busStats.cycles ≠ fenceGap) :
    FenceInv closed (n + if fw.completesCycle env then 1 else 0)
      (workloadExecutorService env fw) := by
  have htick := workloadExecutorService_tick env fw
  refine ⟨(workloadExecutorService_effect env fw).agrees h.agrees, htick.ok h.tickOk,
    fun hactive henabled => ?_⟩
  cases htick with
  | skipped hfw hx hcycle =>
    rw [hfw] at hactive henabled ⊢
    rw [hcycle]
    exact h.fenced hactive henabled
  | silenced hoff => exact absurd henabled (Bool.eq_false_iff.mp hoff)
  | cycle b hx hdeadline htick hframe hboard hcycles =>
    have hsame := tickUpdate_sameFence env fw
    have hon : fw.executor.io.tick.enabled = true :=
      hsame.enabled.symm.trans (htick.enabled henabled)
    have hfenced := h.fenced hx.active hon
    have hlow : ((fw.deadlineChecked env).tickUpdate env).1.intrAsserted = false := by
      have hguard := hquiet
      simp only [Firmware.assertsIntr, hx.active, hx.stepped, hx.notIdle, hdeadline,
        hfenced.intrAsserted, decide_true, Bool.not_false, Bool.and_true, Bool.true_and] at hguard
      exact hguard
    rw [hcycles]
    refine htick.fenced (fun heoi => ?_) henabled (hfenced.congr hsame hlow)
    exact ⟨(Bool.and_eq_true_iff.mp heoi).1, hgap heoi⟩

theorem FenceRun.inv (hrun : FenceRun env fw n fw') (h : FenceInv closed 0 fw) :
    FenceInv closed n fw' := by
  induction hrun with
  | refl => exact h
  | record hrun action request haction hattempt ih => exact ih.record haction hattempt
  | service hrun hquiet hgap ih => exact ih.service hquiet hgap

/-- The clock at an end of interrupt, which the service step reads last. -/
def Firmware.eoiTime (env : Env) (fw : Firmware) : UInt64 :=
  env.timeUs ((workloadExecutorService env fw).machine.board.reads - 1)

/-- The service step that accepts an end-of-interrupt write sets the fence. -/
theorem fenceInv_of_eoi (hagrees : Agrees fw) (hok : fw.TickOk) (heoi : fw.acceptsEoi env = true)
    (henabled : fw.executor.io.tick.enabled = true)
    (hgap : fw.executor.busStats.cycles ≠ fenceGap) :
    FenceInv (if fw.executor.io.tick.inService then some (fw.eoiTime env) else none) 0
      (workloadExecutorService env fw) := by
  have htick := workloadExecutorService_tick env fw
  have hcompleted : fw.completesCycle env = true := (Bool.and_eq_true_iff.mp heoi).1
  refine ⟨(workloadExecutorService_effect env fw).agrees hagrees, htick.ok hok, fun _ hon => ?_⟩
  unfold Firmware.eoiTime
  cases htick with
  | skipped hfw hx hcycle => exact absurd (hcycle.symm.trans hcompleted) (by decide)
  | silenced hoff => exact absurd hon (Bool.eq_false_iff.mp hoff)
  | cycle b hx hdeadline htick hframe hboard hcycles =>
    have hsame := tickUpdate_sameFence env fw
    have hok₀ : (fw.deadlineChecked env).TickOk :=
      TickOk.request hok (executionDeadlineReached_frame env _ _).request
    have hledger := (TickOk.update hok₀ env fw.executor.io.idleArmed fw.executor.busStats.cycles
      (hsame.enabled.trans henabled)).1
    rw [heoi] at htick
    rw [hcycles, hcompleted, hboard hcompleted, ← hsame.inService]
    exact htick.fenced_of_eoi hledger (hsame.enabled.trans henabled) hgap

/-- No assertion before the cycles of the fence have completed, nor before the period after a
closed interrupt has passed. -/
theorem FenceInv.asserts (h : FenceInv closed n fw) (hassert : fw.assertsIntr env = true) :
    64 ≤ n ∧ ∀ now, closed = some now → now + periodicTickUs = 0 ∨
      now + periodicTickUs ≤ env.timeUs (fw.deadlineChecked env).machine.board.reads := by
  simp only [Firmware.assertsIntr, Bool.and_eq_true, Bool.not_eq_true'] at hassert
  obtain ⟨⟨⟨⟨⟨hactive, -⟩, -⟩, -⟩, hlow⟩, hhigh⟩ := hassert
  obtain ⟨henabled, hrecovered⟩ := updatePeriodicTick_asserts hlow hhigh
  have hfenced := h.fenced hactive henabled
  obtain ⟨hus, hcycle⟩ := Bool.and_eq_true_iff.mp hrecovered
  refine ⟨?_, fun now hnow => ?_⟩
  · by_contra hn
    obtain ⟨hne, hge, hle⟩ := hfenced.ahead (by omega)
    have hclosed := cycleDeadlineReached_of_ahead hne (by omega) hle
    exact absurd (hcycle.symm.trans hclosed) (by decide)
  · obtain ⟨-, -, hdeadline⟩ := hfenced.closed now hnow
    rw [hdeadline] at hus
    simpa using hus

end

/-- **The delivery fence.**  From every reachable state in which the tick is enabled and a service
step accepts an end-of-interrupt write at a count of cycles other than `fenceGap`: `INTR` is low
after it, and a later service step of the attempt only asserts it after 64 further bus cycles have
completed; if the write closed an interrupt in service, on a clock that does not wrap within the
period, also not before 10000 us have passed. -/
theorem tick_fence (env : Env) (machine : Machine) (actions : List FirmwareAction) (fw : Firmware)
    (hreached : fw = firmwareRun env machine actions)
    (henabled : fw.executor.io.tick.enabled = true) (heoi : fw.acceptsEoi env = true)
    (hgap : fw.executor.busStats.cycles ≠ fenceGap)
    (hclock : fw.executor.io.tick.inService = true → (fw.eoiTime env).toNat + 10000 < 2 ^ 64) :
    ∀ n fw', FenceRun env (workloadExecutorService env fw) n fw' →
      (fw'.executor.active = true → fw'.executor.io.tick.enabled = true →
        fw'.machine.board.intrRequest = false) ∧
      (fw'.assertsIntr env = true → 64 ≤ n ∧
        (fw.executor.io.tick.inService = true → (fw.eoiTime env).toNat + 10000
          ≤ (env.timeUs (fw'.deadlineChecked env).machine.board.reads).toNat)) := by
  subst hreached
  intro n fw' hrun
  have hinv := hrun.inv (fenceInv_of_eoi (firmwareRun_agrees env machine actions)
    (firmwareRun_tickOk env machine actions) heoi henabled hgap)
  refine ⟨fun hactive hon => ?_, fun hassert => ?_⟩
  · rw [(hinv.tickOk hon).2]
    exact (hinv.fenced hactive hon).intrAsserted
  · obtain ⟨hcycles, hus⟩ := hinv.asserts hassert
    refine ⟨hcycles, fun hservice => ?_⟩
    have hsum : ((firmwareRun env machine actions).eoiTime env + periodicTickUs).toNat
        = ((firmwareRun env machine actions).eoiTime env).toNat + 10000 := by
      have hlt := hclock hservice
      rw [UInt64.toNat_add]
      have hperiod : periodicTickUs.toNat = 10000 := rfl
      omega
    rcases hus _ (if_pos hservice) with hzero | hle
    · rw [hzero] at hsum
      have hz : (0 : UInt64).toNat = 0 := rfl
      omega
    · rw [← hsum]
      exact UInt64.le_iff_toNat_le.mp hle

/-- Service steps that complete a cycle and do not assert `INTR`, none of them at `fenceGap`. -/
def quietServices (env : Env) : ℕ → Firmware → Bool
  | 0, _ => true
  | m + 1, fw => !fw.assertsIntr env && fw.completesCycle env &&
      fw.executor.busStats.cycles ≠ fenceGap && quietServices env m (workloadExecutorService env fw)

theorem FenceRun.services {env : Env} {fw : Firmware} (m : ℕ) {n : ℕ} {fw' : Firmware}
    (h : FenceRun env fw n fw') (hquiet : quietServices env m fw' = true) :
    FenceRun env fw (n + m) ((workloadExecutorService env)^[m] fw') := by
  induction m generalizing n fw' with
  | zero => exact h
  | succ m ih =>
    simp only [quietServices, Bool.and_eq_true, Bool.not_eq_true', decide_eq_true_eq] at hquiet
    obtain ⟨⟨⟨hlow, hcompletes⟩, hgap⟩, hrest⟩ := hquiet
    have hnext := ih (h.service hlow fun _ => hgap) hrest
    rw [hcompletes, if_pos rfl, Nat.add_right_comm, Nat.add_assoc] at hnext
    exact hnext

/-- The pins of a processor that repeats one I/O write of `value` to port `value`. -/
def repeatedWrite (value : UInt8) : UInt32 :=
  (1 : UInt32) <<< pinAle ||| (1 : UInt32) <<< pinBhe ||| (1 : UInt32) <<< pinDtr |||
    (1 : UInt32) <<< pinInta ||| dataLoLut value

/-- The board of `tickEnv` up to its end-of-interrupt write, then writes to the result port. -/
def fencedEnv : Env :=
  { tickEnv with gpioIn := fun n =>
      if n < 186 then tickEnv.gpioIn n else repeatedWrite ioPortResult.toUInt8 }

/-- The state in which the processor is about to end its first tick interrupt. -/
def fencedState : Firmware :=
  firmwareRun fencedEnv coldMachine (tickStart ++ List.replicate 3 .service)

/-- The state 64 bus cycles after the end of that interrupt. -/
def releasedState : Firmware :=
  (workloadExecutorService fencedEnv)^[64] (workloadExecutorService fencedEnv fencedState)

theorem tick_fence_fencedState :
    fencedState.executor.io.tick.inService = true ∧
      releasedState.assertsIntr fencedEnv = true ∧
      (fencedState.eoiTime fencedEnv).toNat + 10000 ≤ (fencedEnv.timeUs
        (releasedState.deadlineChecked fencedEnv).machine.board.reads).toNat := by
  have hservice : fencedState.executor.io.tick.inService = true := by decide +kernel
  have hassert : releasedState.assertsIntr fencedEnv = true := by decide +kernel
  have hrun : FenceRun fencedEnv (workloadExecutorService fencedEnv fencedState) (0 + 64)
      releasedState := FenceRun.services 64 .refl (by decide +kernel)
  have htime : fencedState.eoiTime fencedEnv = 186000 := by decide +kernel
  have hclock : (fencedState.eoiTime fencedEnv).toNat + 10000 < 2 ^ 64 := by
    rw [htime]
    decide
  obtain ⟨-, hfence⟩ := tick_fence fencedEnv coldMachine (tickStart ++ List.replicate 3 .service)
    fencedState (by rw [fencedState]) (by decide +kernel) (by decide +kernel) (by decide +kernel)
    (fun _ => hclock) _ _ hrun
  exact ⟨hservice, hassert, (hfence hassert).2 hservice⟩

/-! ### The gap

A processor that writes end of interrupt in every bus cycle, with a tick pending, keeps its request
fenced off for the 2 ^ 32 - 65 cycles up to the gap.  The step lemmas run this loop for a symbolic
count of cycles.
-/

/-- A board on which two periods pass after the start and then no time, and on which the processor
repeats the end-of-interrupt write. -/
def yieldEnv : Env :=
  { scriptedEnv 0 [] with
    timeUs := fun n => if n < 102 then 0 else 20000
    gpioIn := fun _ => repeatedWrite picCommandEoi.toUInt8 }

/-- The tick of the loop: a pending request behind a fence. -/
def yieldTick (deadline : UInt32) : TickState :=
  ⟨true, true, false, false, 0, 30000, 0, deadline, 2, 0, 0, 0, 1, 0⟩

/-- The cycle that the loop repeats. -/
def yieldCycle : BusCycle :=
  decodeCycle (repeatedWrite picCommandEoi.toUInt8) (repeatedWrite picCommandEoi.toUInt8) 1

/-- A board whose clock is being stepped on `yieldEnv`. -/
structure Board.Yielding (b : Board) : Prop where
  reads : 102 ≤ b.reads
  mode : b.clock.mode = .clockStepped
  faulted : b.faulted = false

theorem executionClockStep_yielding {b : Board} (h : b.Yielding) :
    ∃ b', executionClockStep yieldEnv b = (true, b') ∧ b'.Yielding := by
  have hready : ∀ n, yieldEnv.fifoReady n = true := fun _ => rfl
  have hclk : ∀ n, yieldEnv.clkHigh n = false := fun _ => rfl
  have hreads := h.reads
  refine ⟨{ b with
    reads := b.reads + 3
    clock := { b.clock with
      issued := b.clock.issued + 1, acknowledged := b.clock.acknowledged + 1 } }, ?_, ?_⟩
  · simp [executionClockStep, exchangeToken, h.mode, hready, hclk, Board.next]
  · exact ⟨Nat.le_add_right_of_le hreads, h.mode, h.faulted⟩

theorem processorBusStep_yielding {b : Board} (h : b.Yielding) :
    ∃ b', processorBusStep yieldEnv b = (repeatedWrite picCommandEoi.toUInt8, b') ∧
      b'.Yielding := by
  obtain ⟨b₁, h1, hb₁⟩ := @executionClockStep_yielding
    (recordStepTime (yieldEnv.timeUs b.reads) b.next) ⟨Nat.le_succ_of_le h.reads, h.mode, h.faulted⟩
  refine ⟨b₁.next, ?_, Nat.le_succ_of_le hb₁.reads, hb₁.mode, hb₁.faulted⟩
  simp only [processorBusStep, timeUs64, h1]
  rfl

theorem processorBusWaitCycle_yielding {b : Board} (h : b.Yielding) :
    ∃ b', processorBusWaitCycle yieldEnv 32 b = (some yieldCycle, b') ∧ b'.Yielding := by
  obtain ⟨b₁, h1, hb₁⟩ := processorBusStep_yielding h
  obtain ⟨b₂, h2, hb₂⟩ := processorBusStep_yielding hb₁
  have hale : sampleBit (repeatedWrite picCommandEoi.toUInt8) pinAle ≠ 0 := by decide
  refine ⟨b₂, ?_, hb₂⟩
  simp only [processorBusWaitCycle, waitAle, h1, hb₁.faulted, Bool.false_eq_true, ↓reduceIte, hale,
    ne_eq, not_false_eq_true, h2, hb₂.faulted]
  rfl

theorem processorBusCompleteWrite_yielding {b : Board} (h : b.Yielding) :
    ∃ d b', processorBusCompleteWrite yieldEnv yieldCycle b = (some (picCommandEoi, d), b') ∧
      b'.Yielding := by
  obtain ⟨b₁, h1, hb₁⟩ :=
    @processorBusStep_yielding (processorBusReleaseAd b) ⟨h.reads, h.mode, h.faulted⟩
  obtain ⟨b₂, h2, hb₂⟩ := processorBusStep_yielding hb₁
  have hdata : decodeAd yieldCycle.controlSample = picCommandEoi := by decide
  refine ⟨(picCommandEoi, picCommandEoi), b₂, ?_, hb₂⟩
  have hsample : decodeAd (repeatedWrite picCommandEoi.toUInt8) = picCommandEoi := by decide
  simp [processorBusCompleteWrite, h1, hb₁.faulted, h2, hb₂.faulted, hdata, hsample]

theorem tickEoi_yieldTick (cycles deadline : UInt32) (b : Board) :
    tickEoi yieldEnv cycles (yieldTick deadline) b = (yieldTick (cycles + 64 + 1), b) := rfl

theorem ioWrite_yielding {clockMode : WorkloadClockMode} {s : IoState} {deadline : UInt32}
    (htick : s.tick = yieldTick deadline) (stats : ClockSteppedStats) (b : Board) :
    ioWrite clockMode yieldEnv stats yieldCycle.address.toUInt16 yieldCycle.lanes picCommandEoi s b
      = (true, { s with tick := yieldTick (stats.cycles + 64 + 1) }, b) := by
  have hport : yieldCycle.address.toUInt16 = ioPortPicCommand := by decide
  have hlanes : yieldCycle.lanes = .low := by decide
  unfold ioWrite
  rw [hport, hlanes, htick, tickEoi_yieldTick]
  rfl

theorem clockSteppedServiceCycle_yielding {memory : Memory} {rom : List UInt8}
    {clockMode : WorkloadClockMode} {s : CycleState IoState} {deadline : UInt32}
    (hboard : s.board.Yielding) (htick : s.context.tick = yieldTick deadline) :
    ∃ s', clockSteppedServiceCycle yieldEnv memory rom (executorIo clockMode) 32 s = (true, s') ∧
      s'.board.Yielding ∧ s'.stats.cycles = s.stats.cycles + 1 ∧ s'.stats.isEoi = true ∧
      s'.context = { s.context with tick := yieldTick (s.stats.cycles + 64 + 1) } := by
  obtain ⟨b₁, h1, hb₁⟩ := processorBusWaitCycle_yielding hboard
  obtain ⟨d, b₂, h2, hb₂⟩ := processorBusCompleteWrite_yielding hb₁
  have hwrite := fun stats => @ioWrite_yielding clockMode s.context deadline htick stats b₂
  have htype : yieldCycle.type = .ioWrite := by decide
  have hlanes : yieldCycle.lanes ≠ .none := by decide
  have hack : BusCycleType.ioWrite ≠ .interruptAck := by decide
  have hcycle : clockSteppedServiceCycle yieldEnv memory rom (executorIo clockMode) 32 s
      = ioWriteCycle yieldEnv (executorIo clockMode) yieldCycle
        { s with stats := s.stats.clearFlags.observe yieldCycle, board := b₁ } := by
    simp only [clockSteppedServiceCycle, h1, serviceIdentified, if_neg hack, if_neg hlanes, htype]
  rw [hcycle]
  unfold ioWriteCycle
  simp only [h2, executorIo, hwrite]
  refine ⟨_, rfl, hb₂, rfl, ?_, rfl⟩
  have heoi : (yieldCycle.type = .ioWrite ∧ yieldCycle.address.toUInt16 = ioPortPicCommand ∧
      laneValue yieldCycle.lanes picCommandEoi &&& 0xFF = picCommandEoi) := by decide
  exact decide_eq_true heoi

theorem timeUs_yielding {b : Board} (h : b.Yielding) : yieldEnv.timeUs b.reads = 20000 :=
  if_neg (Nat.not_lt.mpr h.reads)

/-- The update of the tick in the loop: only a fence of zero lets the request through. -/
theorem updatePeriodicTick_yielding {cycles : UInt32} {b : Board} (h : b.Yielding) :
    (cycles + 64 ≠ 0 → updatePeriodicTick yieldEnv false cycles (yieldTick (cycles + 64)) b
      = (yieldTick (cycles + 64), b.next)) ∧
    (cycles + 64 = 0 → (updatePeriodicTick yieldEnv false cycles
      (yieldTick (cycles + 64)) b).1.intrAsserted = true) := by
  have hupdate : updatePeriodicTick yieldEnv false cycles (yieldTick (cycles + 64)) b
      = deliverTick 20000 cycles (yieldTick (cycles + 64)) b.next := by
    have hguard : (!(yieldTick (cycles + 64)).enabled || false ||
        (yieldTick (cycles + 64)).nextUs == 0) = false := rfl
    unfold updatePeriodicTick timeUs64
    rw [hguard, timeUs_yielding h]
    rfl
  have hfence : deliveryRecovered 20000 cycles (yieldTick (cycles + 64))
      = cycleDeadlineReached cycles (cycles + 64) := rfl
  rw [hupdate]
  refine ⟨fun hne => ?_, fun hzero => ?_⟩
  · have hsub : (cycles + 64 - cycles).toNat = 64 := by
      have heq : cycles + 64 - cycles = 64 := by grind
      rw [heq]
      rfl
    unfold deliverTick
    rw [hfence, cycleDeadlineReached_of_ahead hne (by omega) (by omega)]
    rfl
  · unfold deliverTick
    rw [hfence, hzero]
    rfl

/-- The firmware in the loop, after `k` cycles. -/
structure Firmware.Yielding (fw : Firmware) (k : UInt32) : Prop where
  running : fw.halted = false
  supervised : fw.executor.Supervised
  deadline : fw.executor.executionDeadlineUs = 0
  idleArmed : fw.executor.io.idleArmed = false
  board : fw.machine.board.Yielding
  cycles : fw.executor.busStats.cycles = k
  tick : fw.executor.io.tick = yieldTick (k + 64)

section

variable {fw : Firmware} {k : UInt32}

theorem Firmware.Yielding.deadlineChecked (h : fw.Yielding k) :
    executionDeadlineReached yieldEnv fw.executor fw.machine.board = (false, fw.machine.board) := by
  rw [executionDeadlineReached, if_pos h.deadline]

/-- A service step in the loop, whose fence is not zero, ends an interrupt and stays in the loop. -/
theorem Firmware.Yielding.serviceCycle (h : fw.Yielding k) (hne : k + 64 ≠ 0) :
    ∃ fw', serviceCycle yieldEnv fw = (.completed, fw') ∧ fw'.Yielding (k + 1) ∧
      fw'.executor.busStats.isEoi = true := by
  obtain ⟨s', hcycle, hb, hcycles, heoi, hcontext⟩ := @clockSteppedServiceCycle_yielding
    fw.executor.processorMemory fw.executor.resetHandoff fw.executor.clockMode
    { stats := fw.executor.busStats
      ram := fw.backing.storage
      context := { fw.executor.io with tick := yieldTick (k + 64) }
      board := fw.machine.board.next } (k + 64)
    ⟨Nat.le_succ_of_le h.board.reads, h.board.mode, h.board.faulted⟩ rfl
  have hupdate : updatePeriodicTick yieldEnv fw.executor.io.idleArmed fw.executor.busStats.cycles
      fw.executor.io.tick fw.machine.board = (yieldTick (k + 64), fw.machine.board.next) := by
    rw [h.idleArmed, h.cycles, h.tick]
    exact (updatePeriodicTick_yielding h.board).1 hne
  refine ⟨{ fw with
    backing := { fw.backing with storage := s'.ram }
    executor := { fw.executor with busStats := s'.stats, io := s'.context }
    machine := { fw.machine with board := s'.board } }, ?_, ?_, heoi⟩
  · have hguard : (!fw.executor.active || decide (fw.executor.clockMode ≠ .stepped) ||
        fw.executor.processorIdle) = false := by
      simp [h.supervised.active, h.supervised.stepped, h.supervised.notIdle]
    unfold Rp86.serviceCycle
    rw [hguard, h.deadlineChecked]
    simp [supervisedCycle, executorBusCycle, hupdate, hcycle]
  · have hsum : k + 64 + 1 = k + 1 + 64 := by grind
    exact {
      running := h.running
      supervised := ⟨h.supervised.active, h.supervised.stepped, h.supervised.notIdle⟩
      deadline := h.deadline
      idleArmed := by rw [hcontext]; exact h.idleArmed
      board := hb
      cycles := by rw [hcycles, h.cycles]
      tick := by rw [hcontext]; simp only [h.cycles, hsum] }

theorem Firmware.Yielding.service (h : fw.Yielding k) (hne : k + 64 ≠ 0) :
    (firmwareStep yieldEnv fw .service).Yielding (k + 1) ∧ fw.acceptsEoi yieldEnv = true := by
  obtain ⟨fw', hcycle, h', heoi⟩ := h.serviceCycle hne
  refine ⟨?_, ?_⟩
  · have hstep : firmwareStep yieldEnv fw .service = fw'.clearStarvation := by
      simp [firmwareStep, h.running, firmwareAct, workloadExecutorService, hcycle, serviceOutcome]
    rw [hstep]
    exact ⟨h'.running, ⟨h'.supervised.active, h'.supervised.stepped, h'.supervised.notIdle⟩,
      h'.deadline, h'.idleArmed, h'.board, h'.cycles, h'.tick⟩
  · simp [Firmware.acceptsEoi, Firmware.completesCycle, hcycle, heoi]

/-- A fence of zero lets the pending request through. -/
theorem Firmware.Yielding.asserts (h : fw.Yielding k) (hzero : k + 64 = 0) :
    fw.assertsIntr yieldEnv = true := by
  have hlow : fw.executor.io.tick.intrAsserted = false := by rw [h.tick]; rfl
  have hhigh : ((fw.deadlineChecked yieldEnv).tickUpdate yieldEnv).1.intrAsserted = true := by
    simp only [Firmware.tickUpdate, Firmware.deadlineChecked, h.deadlineChecked, h.idleArmed,
      h.cycles, h.tick]
    exact (updatePeriodicTick_yielding h.board).2 hzero
  simp [Firmware.assertsIntr, h.supervised.active, h.supervised.stepped, h.supervised.notIdle,
    h.deadlineChecked, hlow, hhigh]

end

/-- The loop after `n` service steps. -/
def yieldState (n : ℕ) : Firmware :=
  firmwareRun yieldEnv coldMachine (tickStart ++ List.replicate n .service)

theorem yieldState_succ (n : ℕ) :
    yieldState (n + 1) = firmwareStep yieldEnv (yieldState n) .service := by
  rw [yieldState, List.replicate_succ', ← List.append_assoc, firmwareRun, run_append, ← firmwareRun,
    ← yieldState]
  rfl

/-- The loop goes on until its fence is zero. -/
theorem yieldState_yielding (n : ℕ) (hn : n + 65 < 2 ^ 32) :
    (yieldState (n + 1)).Yielding (UInt32.ofNat (n + 1)) := by
  induction n with
  | zero =>
    exact {
      running := by decide +kernel
      supervised := ⟨by decide +kernel, by decide +kernel, by decide +kernel⟩
      deadline := by decide +kernel
      idleArmed := by decide +kernel
      board := ⟨by decide +kernel, by decide +kernel, by decide +kernel⟩
      cycles := by decide +kernel
      tick := by decide +kernel }
  | succ n ih =>
    have hne : UInt32.ofNat (n + 1) + 64 ≠ 0 := by
      intro hzero
      have h := congrArg UInt32.toNat hzero
      rw [UInt32.toNat_add, UInt32.toNat_ofNat'] at h
      have h64 : (64 : UInt32).toNat = 64 := rfl
      have h0 : (0 : UInt32).toNat = 0 := rfl
      omega
    have hcast : UInt32.ofNat (n + 1 + 1) = UInt32.ofNat (n + 1) + 1 := by
      rw [UInt32.ofNat_add]
      rfl
    rw [yieldState_succ, hcast]
    exact ((ih (by omega)).service hne).1

/-- The service step before the gap accepts an end of interrupt, and the next one asserts `INTR`
without a single bus cycle between them. -/
theorem tick_fence_gap :
    (yieldState 4294967231).executor.busStats.cycles = fenceGap ∧
      (yieldState 4294967231).executor.io.tick.enabled = true ∧
      (yieldState 4294967231).acceptsEoi yieldEnv = true ∧
      FenceRun yieldEnv (workloadExecutorService yieldEnv (yieldState 4294967231)) 0
        (workloadExecutorService yieldEnv (yieldState 4294967231)) ∧
      (workloadExecutorService yieldEnv (yieldState 4294967231)).assertsIntr yieldEnv = true := by
  have h : (yieldState 4294967231).Yielding fenceGap := yieldState_yielding 4294967230 (by decide)
  obtain ⟨hnext, heoi⟩ := h.service (by decide)
  rw [firmwareStep, if_neg (by rw [h.running]; decide)] at hnext
  exact ⟨h.cycles, by rw [h.tick]; rfl, heoi, .refl, hnext.asserts (by decide)⟩

end Rp86
