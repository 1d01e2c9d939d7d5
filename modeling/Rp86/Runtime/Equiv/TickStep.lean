import Rp86.Runtime.Equiv.Lifecycle
import Rp86.Runtime.Equiv.Tick

/-!
# What an action does to the tick

`executorBusCycle_tick`: after the update of the tick, a bus cycle acknowledges an interrupt, ends
one, silences the tick or leaves it alone, and an end-of-interrupt write is the only way to the
second.  `RecordStep.tick`: every record leaves the tick alone, silences it, or resets it for a new
attempt.
-/

namespace Rp86

/-! ### Bus cycles -/

/-- The last cycle was a write of the end-of-interrupt command to the PIC. -/
def ClockSteppedStats.isEoi (s : ClockSteppedStats) : Bool :=
  s.lastType = .ioWrite ∧ s.lastAddress.toUInt16 = ioPortPicCommand ∧
    laneValue s.lastLanes s.lastData &&& 0xFF = picCommandEoi

/-- What a bus cycle does to the updated tick; `eoi` says whether it was an end-of-interrupt
write. -/
inductive TickCycle (env : Env) (cycles : UInt32) (t : TickState) (b : Board) :
    Bool → TickState → Board → Prop
  | same (b' : Board) (hframe : BusFrame b b') : TickCycle env cycles t b false t b'
  | ack (b₁ b' : Board) (hframe : BusFrame b b₁)
      (hframe' : BusFrame (tickInterruptAck t b₁).2.2 b') :
      TickCycle env cycles t b false (tickInterruptAck t b₁).2.1 b'
  | eoi (b₁ : Board) (hframe : BusFrame b b₁) :
      TickCycle env cycles t b true (tickEoi env cycles t b₁).1 (tickEoi env cycles t b₁).2
  | idlePrepare (b₁ : Board) (hframe : BusFrame b b₁) :
      TickCycle env cycles t b false (tickIdlePrepare t b₁).1 (tickIdlePrepare t b₁).2

theorem TickCycle.enabled {env : Env} {cycles : UInt32} {t t' : TickState} {b b' : Board}
    {eoi : Bool} (hcycle : TickCycle env cycles t b eoi t' b')
    (henabled : t'.enabled = true) : t.enabled = true := by
  cases hcycle with
  | same b' hframe => exact henabled
  | ack b₁ b' hframe hframe' =>
    unfold tickInterruptAck at henabled
    split_ifs at henabled <;> exact henabled
  | eoi b₁ hframe =>
    unfold tickEoi retractTick closeService at henabled
    simp only at henabled
    split_ifs at henabled <;> exact henabled
  | idlePrepare b₁ hframe =>
    unfold tickIdlePrepare at henabled
    split_ifs at henabled with hon
    · cases henabled
    · exact henabled

/-- What an I/O write does to the tick. -/
theorem ioWrite_tick {clockMode : WorkloadClockMode} {env : Env} {stats s' : ClockSteppedStats}
    {s io' : IoState} {b₀ b b' : Board} {completed : Bool} (hframe : BusFrame b₀ b)
    (htype : s'.lastType = .ioWrite)
    (h : ioWrite clockMode env stats s'.lastAddress.toUInt16 s'.lastLanes s'.lastData s b
      = (completed, io', b')) :
    TickCycle env stats.cycles s.tick b₀ (completed && s'.isEoi) io'.tick b' := by
  have hwritten := ioWrite_written clockMode env stats s'.lastAddress.toUInt16 s'.lastLanes
    s'.lastData s b
  rw [h] at hwritten
  -- a write to another port than that of the interrupt controller
  have hother : ∀ {p : UInt16}, s'.lastAddress.toUInt16 = p → p ≠ ioPortPicCommand →
      (completed && s'.isEoi) = false := by
    intro p hp hne
    simp [ClockSteppedStats.isEoi, hp, hne]
  cases hwritten with
  | diagnostic hport =>
    rw [hother hport (by decide)]
    exact .same _ hframe
  | eoi hport hvalue =>
    have hyes : s'.isEoi = true := by simp [ClockSteppedStats.isEoi, htype, hport, hvalue]
    rw [hyes]
    exact .eoi b hframe
  | idlePrepare hport hvalue =>
    rw [hother hport (by decide)]
    exact .idlePrepare b hframe
  | other _ hdiagnostic heoi hidle =>
    have hno : s'.isEoi = false := by
      simp only [ClockSteppedStats.isEoi, decide_eq_false_iff_not]
      exact fun hc => heoi hc.2
    rw [hno, Bool.and_false]
    exact .same _ hframe

theorem CycleEffect.tick {env : Env} {clockMode : WorkloadClockMode} {s s' : CycleState IoState}
    {completed : Bool} (h : CycleEffect env (executorIo clockMode) s completed s') :
    TickCycle env s.stats.cycles s.context.tick s.board (completed && s'.stats.isEoi)
        s'.context.tick s'.board ∧
      s'.stats.cycles = if completed then s.stats.cycles + 1 else s.stats.cycles := by
  cases h with
  | plain hcontext hframe hcycles htype hram =>
    refine ⟨?_, hcycles⟩
    have hno : (completed && s'.stats.isEoi) = false := by
      cases completed with
      | false => rfl
      | true => simp [ClockSteppedStats.isEoi, (htype rfl).1]
    rw [hno, hcontext]
    exact .same _ hframe
  | ack answer b b' hframe hack hframe' hcycles htype hram =>
    refine ⟨?_, hcycles⟩
    have hno : (completed && s'.stats.isEoi) = false := by
      simp [ClockSteppedStats.isEoi, htype]
    have htick : s'.context.tick = (tickInterruptAck s.context.tick b).2.1 :=
      (congrArg (fun r => r.2.1.tick) hack).symm
    have hboard : b' = (tickInterruptAck s.context.tick b).2.2 :=
      (congrArg (fun r => r.2.2) hack).symm
    rw [hno, htick]
    rw [hboard] at hframe'
    exact .ack b _ hframe hframe'
  | write stats b hframe hstats hwrite hcycles htype hram =>
    refine ⟨?_, hcycles⟩
    rw [← hstats]
    exact ioWrite_tick hframe htype hwrite

/-- **What the bus cycle of a service step does to the tick.** -/
theorem executorBusCycle_tick {env : Env} {fw fw₁ : Firmware} {completed : Bool}
    (hbus : executorBusCycle env fw = (completed, fw₁)) :
    TickCycle env fw.executor.busStats.cycles (fw.tickUpdate env).1 (fw.tickUpdate env).2
        (completed && fw₁.executor.busStats.isEoi) fw₁.executor.io.tick fw₁.machine.board ∧
      fw₁.executor.busStats.cycles
        = if completed then fw.executor.busStats.cycles + 1 else fw.executor.busStats.cycles :=
  (executorBusCycle_effect hbus).tick

/-! ### Service steps -/

theorem OutcomeStep.tick {outcome : ServiceOutcome} {fw fw' : Firmware}
    (h : OutcomeStep fw outcome fw') : fw'.executor.io.tick.enabled = false ∨
      (fw'.executor.io.tick = fw.executor.io.tick ∧
        fw'.executor.busStats.cycles = fw.executor.busStats.cycles ∧
        BusFrame fw.machine.board fw'.machine.board) := by
  cases h with
  | goesOn us b hframe houtcome => exact Or.inr ⟨rfl, rfl, hframe⟩
  | completes => exact Or.inr ⟨rfl, rfl, .refl _⟩
  | ends => exact Or.inl rfl

def Firmware.completesCycle (env : Env) (fw : Firmware) : Bool :=
  (serviceCycle env fw).1 = .completed

def Firmware.acceptsEoi (env : Env) (fw : Firmware) : Bool :=
  fw.completesCycle env && (serviceCycle env fw).2.executor.busStats.isEoi

theorem tickUpdate_sameFence (env : Env) (fw : Firmware) :
    fw.executor.io.tick.SameFence ((fw.deadlineChecked env).tickUpdate env).1 :=
  updatePeriodicTick_sameFence env _ _ _ _

inductive ServiceTick (env : Env) (fw fw' : Firmware) : Prop
  | skipped (hfw : fw' = fw) (hx : ¬ fw.executor.Supervised)
      (hcycle : fw.completesCycle env = false)
  | silenced (hoff : fw'.executor.io.tick.enabled = false)
  | cycle (b : Board) (hx : fw.executor.Supervised)
      (hdeadline : (executionDeadlineReached env fw.executor fw.machine.board).1 = false)
      (htick : TickCycle env fw.executor.busStats.cycles ((fw.deadlineChecked env).tickUpdate env).1
        ((fw.deadlineChecked env).tickUpdate env).2 (fw.acceptsEoi env) fw'.executor.io.tick b)
      (hframe : BusFrame b fw'.machine.board)
      (hboard : fw.completesCycle env = true → fw'.machine.board = b)
      (hcycles : fw'.executor.busStats.cycles = if fw.completesCycle env
        then fw.executor.busStats.cycles + 1 else fw.executor.busStats.cycles)

/-- **What a service step does to the tick.** -/
theorem workloadExecutorService_tick (env : Env) (fw : Firmware) :
    ServiceTick env fw (workloadExecutorService env fw) := by
  cases workloadExecutorService_cycle env fw with
  | skipped hx hcycle h =>
    refine .skipped h hx ?_
    rw [Firmware.completesCycle, hcycle]
    rfl
  | expired hx hexpired hcycle m h hstep =>
    refine .silenced ?_
    rw [h]
    rfl
  | cycle completed fw₁ hx hdeadline hbus hcycle h hstep =>
    obtain ⟨htick, hcycles⟩ := executorBusCycle_tick hbus
    have hcompleted : fw.completesCycle env = completed := by
      rw [Firmware.completesCycle, hcycle]
      exact (executorBusCycle_outcome hbus).decide_completed
    have heoi : fw.acceptsEoi env = (completed && fw₁.executor.busStats.isEoi) := by
      rw [Firmware.acceptsEoi, hcompleted, hcycle]
    rw [← heoi] at htick
    rcases hstep.tick with hoff | ⟨htick', hcycles', hframe⟩
    · exact .silenced hoff
    · refine .cycle fw₁.machine.board hx hdeadline (htick' ▸ htick) hframe (fun hc => ?_)
        (hcompleted ▸ hcycles'.trans hcycles)
      rw [h, (hcompleted.symm.trans hc : completed = true)]
      rfl

theorem TickCycle.ok {env : Env} {cycles : UInt32} {t t' : TickState} {b b' : Board} {eoi : Bool}
    (h : TickCycle env cycles t b eoi t' b') (hok : TickOk t b) : TickOk t' b' := by
  cases h with
  | same b' hframe => exact hok.request hframe.request
  | ack b₁ b' hframe hframe' =>
    exact (hok.request hframe.request).interruptAck.request hframe'.request
  | eoi b₁ hframe => exact (hok.request hframe.request).eoi env cycles
  | idlePrepare b₁ hframe => exact .idlePrepare

def Firmware.TickOk (fw : Firmware) : Prop := Rp86.TickOk fw.executor.io.tick fw.machine.board

theorem ServiceTick.ok {env : Env} {fw fw' : Firmware} (h : ServiceTick env fw fw')
    (hok : fw.TickOk) : fw'.TickOk := by
  cases h with
  | skipped hfw hx hcycle =>
    rw [hfw]
    exact hok
  | silenced hoff => exact .of_disabled hoff
  | cycle b hx hdeadline htick hframe hboard hcycles =>
    have hok₀ : (fw.deadlineChecked env).TickOk :=
      TickOk.request hok (executionDeadlineReached_frame env _ _).request
    exact (htick.ok (TickOk.update hok₀ env _ _)).request hframe.request

/-! ### The other actions -/

/-- An executor that is active after an action belongs to the attempt that the action found. -/
def Firmware.Continues (fw fw' : Firmware) : Prop :=
  fw'.executor.active = true →
    fw.executor.active = true ∧ fw'.executor.busStats.cycles = fw.executor.busStats.cycles

/-- An executor that is active after an action belongs to a new attempt. -/
def Firmware.Begins (fw fw' : Firmware) : Prop :=
  fw'.executor.active = true → fw'.machine.processorBootId ≠ fw.machine.processorBootId

inductive TickStep (fw fw' : Firmware) : Prop
  | kept (htick : fw'.executor.io.tick = fw.executor.io.tick)
      (hframe : RequestFrame fw.machine.board fw'.machine.board)
      (hattempt : fw.Continues fw' ∨ fw.Begins fw')
  | silenced (hoff : fw'.executor.io.tick.enabled = false)
  | reset (hreset : TickReset fw'.executor.io.tick fw'.machine.board) (hattempt : fw.Begins fw')

theorem nextBootId_ne (bootId : UInt32) : nextBootId bootId ≠ bootId := by
  unfold nextBootId
  split_ifs with h
  · grind
  · grind

section

variable {env : Env} {fw fw' : Firmware}

/-- A start of an executor that is not active leaves it inactive or begins an attempt. -/
theorem StartEffect.begins {calculator : Bool} {status : HostStatus}
    (heffect : StartEffect env fw calculator status fw') (hactive : fw.executor.active = false) :
    fw.Begins fw' := by
  intro hc
  cases heffect with
  | calculator m hvalid hframe | calculatorFailed m hframe =>
    exact absurd hc (Bool.eq_false_iff.mp hactive)
  | general x backing m hspec =>
    obtain ⟨-, -, hboot⟩ := hspec.success rfl
    exact fun heq => nextBootId_ne _ (hboot.symm.trans heq)
  | generalFailed x backing m hspec =>
    obtain ⟨hx, -, -⟩ := hspec.failure rfl
    exact absurd hc (Bool.eq_false_iff.mp (hx.trans hactive))

/-- A start leaves the tick alone or resets it. -/
theorem StartEffect.tick {calculator : Bool} {status : HostStatus}
    (heffect : StartEffect env fw calculator status fw') :
    (fw'.executor.io.tick = fw.executor.io.tick ∧
      RequestFrame fw.machine.board fw'.machine.board) ∨
    TickReset fw'.executor.io.tick fw'.machine.board := by
  cases heffect with
  | calculator m hvalid hframe | calculatorFailed m hframe => exact Or.inl ⟨rfl, hframe⟩
  | general x backing m hspec | generalFailed x backing m hspec =>
    exact hspec.tick_cases.imp (fun h => ⟨h.1, h.2, hspec.reads⟩) id

theorem TickStep.of_same (htick : fw'.executor.io.tick = fw.executor.io.tick)
    (hframe : RequestFrame fw.machine.board fw'.machine.board)
    (hactive : fw'.executor.active = fw.executor.active)
    (hstats : fw'.executor.busStats = fw.executor.busStats) : TickStep fw fw' :=
  .kept htick hframe (Or.inl fun h => ⟨hactive ▸ h, by rw [hstats]⟩)

/-- **What a record does to the tick.** -/
theorem RecordStep.tick {request : Message} {event : HostEvent}
    (hstep : RecordStep env fw request event fw') (hagrees : Agrees fw) : TickStep fw fw' := by
  cases hstep.effect hagrees with
  | unchanged | begun | received | rejected | memory => exact .of_same rfl (.refl _) rfl rfl
  | staged hactive =>
    -- staging clears the count of cycles, but of an executor that is not active
    exact .kept rfl (.refl _) (Or.inl fun h => absurd h (Bool.eq_false_iff.mp hactive))
  | started operation fw₁ hfrom =>
    have heffect := @StartsFrom.effect env fw fw₁ request hfrom
      (calculatorWorkloadValid fw.manager fw.backing)
    have hbegins := heffect.begins hfrom.active
    rw [Firmware.Begins, hfrom.processorBootId] at hbegins
    rcases heffect.tick with ⟨htick, hframe⟩ | hreset
    · cases hfrom with
      | run | restart => exact .kept htick hframe (Or.inr hbegins)
      | halted => exact .silenced (by rw [htick]; rfl)
    · exact .reset hreset hbegins
  | halted => exact .silenced rfl
  | stopped m hactive hframe | timeout value m hframe | quiet m halted hframe =>
    exact .of_same rfl hframe.line.request rfl rfl

/-! ### The ledger over runs -/

theorem TickReset.ok {t : TickState} {b : Board} (h : TickReset t b) : TickOk t b := by
  obtain ⟨⟨enabled, nextUs, rfl⟩, hline⟩ := h
  exact fun _ => ⟨tickLedger_fresh enabled nextUs, hline⟩

theorem TickStep.ok (h : TickStep fw fw') (hok : fw.TickOk) : fw'.TickOk := by
  cases h with
  | kept htick hframe hattempt =>
    rw [Firmware.TickOk, htick]
    exact TickOk.request hok hframe
  | silenced hoff => exact .of_disabled hoff
  | reset hreset hattempt => exact hreset.ok

theorem HandlerStep.tickOk {event : HostEvent} (hstep : HandlerStep env fw event fw')
    (hagrees : Agrees fw) (hok : fw.TickOk) : fw'.TickOk := by
  cases hstep with
  | record hrecord => exact (hrecord.tick hagrees).ok hok
  | service => exact (workloadExecutorService_tick env fw).ok hok

end

theorem firmwareRun_tickOk (env : Env) (machine : Machine) (actions : List FirmwareAction) :
    (firmwareRun env machine actions).TickOk := by
  refine Lib.run_invariant_of_reached ?_ (fun actions action h => ?_) actions
  · exact .of_disabled rfl
  · exact (firmwareStep_step env _ action).tickOk (firmwareRun_agrees env machine actions) h

/-- **The tick ledger.**  After every run of service steps, over any bus cycles and readings of the
clock, interleaved with any records: while the tick is enabled its counts and flags satisfy
`TickLedger`, and the last value passed to `rp86_processor_bus_set_intr` is
`tick_intr_asserted`. -/
theorem tick_ledger (env : Env) (machine : Machine) (actions : List FirmwareAction)
    (henabled : (firmwareRun env machine actions).executor.io.tick.enabled = true) :
    TickLedger (firmwareRun env machine actions).executor.io.tick ∧
      (firmwareRun env machine actions).machine.board.intrRequest
        = (firmwareRun env machine actions).executor.io.tick.intrAsserted :=
  firmwareRun_tickOk env machine actions henabled

/-- `haltManifest` with a periodic tick. -/
def tickManifest : Manifest := { haltManifest with flags := flagClockStepped ||| flagPeriodicTick }

def tickStart : List FirmwareAction :=
  [beginAction tickManifest, dataAction [0xF4], commitAction tickManifest,
    controlAction workloadControlRun]

/-- The pins during an interrupt acknowledge cycle. -/
def ackSamples : List UInt32 := [(1 : UInt32) <<< pinAle, 0, 0, 0]

/-- A millisecond passes at each read; the processor makes an I/O write, the two acknowledge cycles
and the end-of-interrupt write.  The sample between the first two cycles goes with the reads of the
clock that precede them. -/
def tickEnv : Env :=
  { scriptedEnv 103 (ioWriteSamples ioPortStatus 0 ++ [0] ++ ackSamples ++ ackSamples ++
      ioWriteSamples ioPortPicCommand picCommandEoi) with
    timeUs := fun n => UInt64.ofNat (1000 * n) }

theorem tick_ledger_tickEnv :
    (firmwareRun tickEnv coldMachine (tickStart ++ List.replicate 3 .service)).executor.io.tick
        = ⟨true, false, true, false, 0, 151000, 0, 0, 4, 1, 1, 2, 3, 0⟩ ∧
      TickLedger (firmwareRun tickEnv coldMachine
        (tickStart ++ List.replicate 3 .service)).executor.io.tick ∧
      (firmwareRun tickEnv coldMachine
        (tickStart ++ List.replicate 3 .service)).machine.board.intrRequest = false := by
  have htick : (firmwareRun tickEnv coldMachine
      (tickStart ++ List.replicate 3 .service)).executor.io.tick
      = ⟨true, false, true, false, 0, 151000, 0, 0, 4, 1, 1, 2, 3, 0⟩ := by decide +kernel
  obtain ⟨hledger, hline⟩ := tick_ledger tickEnv coldMachine
    (tickStart ++ List.replicate 3 .service) (by rw [htick])
  exact ⟨htick, hledger, by rw [hline, htick]⟩

end Rp86
