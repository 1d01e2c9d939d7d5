import Rp86.Runtime.Equiv.TickStep

/-!
# What the executor reports

Replies report the native output, the completion reason, the bus statistics and the attempt of the
executor.  `ReportStep` says what a record can do to them, and `ServiceReport` what a service step
can do.
-/

namespace Rp86

open Lib

/-- The fields that replies report, with those that say whether the attempt goes on. -/
structure Executor.SameReport (x x' : Executor) : Prop where
  output : x'.io.output = x.io.output
  completionReason : x'.completionReason = x.completionReason
  busStats : x'.busStats = x.busStats
  diagnosticBootId : x'.diagnosticBootId = x.diagnosticBootId
  active : x'.active = x.active
  processorIdle : x'.processorIdle = x.processorIdle
  executionStartedUs : x'.executionStartedUs = x.executionStartedUs

theorem Executor.SameReport.refl (x : Executor) : x.SameReport x :=
  ⟨rfl, rfl, rfl, rfl, rfl, rfl, rfl⟩

/-- An attempt whose start failed. -/
structure Executor.FailedStart (x : Executor) : Prop where
  nativeOutput : x.io.output.nativeOutput = []
  completionReason : x.completionReason = .startFailure
  busStats : x.busStats = .zero
  active : x.active = false

/-! ### Starts -/

/-- What a start of an inactive executor does to its report: the prepared calculator leaves it
alone. -/
inductive StartReport (env : Env) (fw : Firmware) (calculator : Bool) (status : HostStatus)
    (fw' : Firmware) : Prop
  | calculator (hcalculator : calculator = true) (h : fw'.executor = fw.executor)
      (hreads : fw.machine.board.reads ≤ fw'.machine.board.reads)
  | started (hcalculator : calculator = false) (hstatus : status = .ok)
      (h : fw'.executor.Started env fw'.machine)
  | failed (hcalculator : calculator = false) (hstatus : status ≠ .ok)
      (h : fw'.executor.FailedStart)

theorem startWorkload_report (env : Env) (calculator : Bool) (fw : Firmware)
    (hactive : fw.executor.active = false) :
    StartReport env fw calculator (startWorkload env calculator fw).1
      (startWorkload env calculator fw).2 := by
  have heffect := startWorkload_effect env calculator fw hactive
  generalize startWorkload env calculator fw = r at heffect ⊢
  obtain ⟨status, fw'⟩ := r
  cases heffect with
  | calculator m hvalid hframe | calculatorFailed m hframe => exact .calculator rfl rfl hframe.reads
  | general x backing m hspec => exact .started rfl rfl (hspec.success rfl).1
  | generalFailed x backing m hspec =>
    obtain ⟨hx, -, -, houtput, hreason, hstats⟩ := hspec.failure rfl
    exact .failed rfl HostStatus.noConfusion ⟨houtput, hreason, hstats, hx.trans hactive⟩

/-! ### Records -/

/-- What a record with the given event does to the report of the executor.  A RESTART halts the
executor for good only if it starts the prepared calculator. -/
inductive ReportStep (env : Env) (fw : Firmware) (request : Message) (event : HostEvent)
    (fw' : Firmware) : Prop
  | same (h : fw.executor.SameReport fw'.executor)
      (hreads : fw.machine.board.reads ≤ fw'.machine.board.reads)
  | cleared (hactive : fw.executor.active = false)
      (h : fw'.executor = workloadExecutorClearDiagnostics fw.executor)
  | staged (flags : UInt32) (hactive : fw.executor.active = false)
      (h : fw'.executor = workloadExecutorStage flags fw.executor)
  | halted (hactive : fw.executor.active = true) (h : fw'.executor = fw.executor.halt)
      (hcause : event = .control workloadControlStop ∨
        (request.IsControl workloadControlRestart ∧
          calculatorWorkloadValid fw.manager fw.backing = true))
  | started (h : fw'.executor.Started env fw'.machine)
  | startFailed (h : fw'.executor.FailedStart)

section

variable {env : Env} {fw fw' : Firmware} {request : Message} {event : HostEvent}

/-- **What a record does to the report.** -/
theorem RecordStep.report (hagrees : Agrees fw) (hstep : RecordStep env fw request event fw') :
    ReportStep env fw request event fw' := by
  cases hstep.effect hagrees with
  | unchanged | received | rejected | memory => exact .same (.refl _) (Nat.le_refl _)
  | begun manifest hactive => exact .cleared hactive rfl
  | staged hactive => exact .staged _ hactive rfl
  | started operation fw₁ hfrom =>
    have h := startWorkload_report env (calculatorWorkloadValid fw.manager fw.backing) fw₁
      hfrom.active
    cases h with
    | calculator hcalculator h hreads =>
      cases hfrom with
      | run | restart => exact .same (by rw [h]; exact .refl _) hreads
      | halted m hcontrol hmanager hactive =>
        exact .halted hactive h (Or.inr ⟨hcontrol, hcalculator⟩)
    | started hcalculator hstatus h => exact .started h
    | failed hcalculator hstatus h => exact .startFailed h
  | halted m hactive => exact .halted hactive rfl (Or.inl rfl)
  | stopped m hactive hframe => exact .same (.refl _) hframe.line.request.reads
  | timeout value m hframe =>
    exact .same ⟨rfl, rfl, rfl, rfl, rfl, rfl, rfl⟩ hframe.line.request.reads
  | quiet m halted hframe => exact .same (.refl _) hframe.line.request.reads

end

/-! ### Service steps -/

structure CycleReport (completed : Bool) (x x' : Executor) : Prop where
  output : x'.io.output = x.io.output ∨ ∃ c, x'.io.output = writeDiagnostic c x.io.output
  lastAddress : x.busStats.lastAddress.toNat ≤ 0xFFFFF → x'.busStats.lastAddress.toNat ≤ 0xFFFFF
  noFailure : completed = true → x'.busStats.NoFailure
  diagnosticBootId : x'.diagnosticBootId = x.diagnosticBootId
  active : x'.active = x.active
  processorIdle : x'.processorIdle = x.processorIdle
  executionStartedUs : x'.executionStartedUs = x.executionStartedUs

theorem executorBusCycle_report {env : Env} {fw fw₁ : Firmware} {completed : Bool}
    (hbus : executorBusCycle env fw = (completed, fw₁)) :
    CycleReport completed fw.executor fw₁.executor := by
  have houtput := (executorBusCycle_effect hbus).io.output_cases
  have hstats := clockSteppedServiceCycle_stats env fw.executor.processorMemory
    fw.executor.resetHandoff (executorIo fw.executor.clockMode) 32 (fw.updatedState env)
  obtain ⟨rfl, rfl⟩ := Prod.mk.inj hbus
  exact ⟨houtput, hstats.1, hstats.2, rfl, rfl, rfl, rfl⟩

/-- What a service step does to the report, if `expired` says whether the deadline has passed. -/
inductive ServiceReport (expired : Prop) (x x' : Executor) : Prop
  | skipped (hx : ¬ x.Supervised) (h : x' = x)
  | deadline (hx : x.Supervised) (hexpired : expired)
      (h : x' = Executor.halt { x with completionReason := .executionDeadline })
  | continued (hx : x.Supervised) (completed : Bool) (x₁ : Executor)
      (hcycle : CycleReport completed x x₁) (hflags : x₁.busStats.NoFailure)
      (h : x₁.SameReport x')
  | completed (hx : x.Supervised) (completed : Bool) (x₁ : Executor)
      (hcycle : CycleReport completed x x₁) (hpad : x₁.busStats.padMismatch = false)
      (hclock : x₁.busStats.clockFailure = false) (hack : x₁.busStats.interruptAck = false)
      (h : x' = x₁.nativeHalt)
  | faulted (hx : x.Supervised) (completed : Bool) (x₁ : Executor)
      (hcycle : CycleReport completed x x₁)
      (h : Executor.SameReport (Executor.halt { x₁ with completionReason := .busFault }) x')
  | starved (hx : x.Supervised) (completed : Bool) (x₁ : Executor)
      (hcycle : CycleReport completed x x₁) (hflags : x₁.busStats.immediateFault = false)
      (h : Executor.SameReport (Executor.halt { x₁ with completionReason := .noBusCycle }) x')

theorem ClockSteppedStats.NoFailure.of_immediateFault {stats : ClockSteppedStats}
    (h : stats.immediateFault = false) : stats.NoFailure := by
  simp only [ClockSteppedStats.immediateFault, Bool.or_eq_false_iff] at h
  exact ⟨h.1.1.1.1, h.1.1.1.2, h.1.1.2, h.1.2⟩

/-- **What a service step does to the report**, for a workload that may complete. -/
theorem workloadExecutorService_report (env : Env) {fw : Firmware}
    (hcomplete : fw.executor.Supervised →
      workloadComplete fw.manager fw.manager.workloadId ≠ none) :
    ServiceReport (fw.Expired env) fw.executor (workloadExecutorService env fw).executor := by
  cases workloadExecutorService_cycle env fw with
  | skipped hx hcycle h => exact .skipped hx (by rw [h])
  | expired hx hexpired hcycle m h hstep => exact .deadline hx hexpired (by rw [h])
  | cycle completed fw₁ hx hdeadline hbus hcycle h hstep =>
    have hreport := executorBusCycle_report hbus
    have hout := executorBusCycle_outcome hbus
    generalize fw₁.cycleOutcome completed = outcome at hout hstep
    generalize workloadExecutorService env fw = fw' at hstep ⊢
    cases hstep with
    | goesOn us b hframe houtcome =>
      refine .continued hx completed _ hreport ?_ ⟨rfl, rfl, rfl, rfl, rfl, rfl, rfl⟩
      cases hout with
      | completed => exact hreport.noFailure rfl
      | noCycle hfault => exact .of_immediateFault hfault
      | armedHalt | fault => exact absurd (by decide) houtcome
    | completes manager houtcome hdone =>
      subst houtcome
      cases hout with
      | armedHalt harmed hpad hclock hack =>
        exact .completed hx false _ hreport hpad hclock hack rfl
    | ends reason state m hend hstops =>
      cases hend with
      | deadline => cases hout
      | noCycle =>
        cases hout with
        | noCycle hfault => exact .starved hx false _ hreport hfault (.refl _)
      | fault =>
        cases hout
        exact .faulted hx false _ hreport (.refl _)
      -- the lifecycle does not refuse the halt of a supervised workload
      | rejected hnone =>
        rw [(executorBusCycle_kept hbus).manager] at hnone
        exact absurd hnone (hcomplete hx)

/-! ### The report over runs -/

/-- What holds of the report after every run. -/
structure ReportInv (env : Env) (fw : Firmware) : Prop where
  length_nativeOutput : fw.executor.io.output.nativeOutput.length ≤ workloadResultTextBytes
  lastAddress : fw.executor.busStats.lastAddress.toNat ≤ 0xFFFFF
  bootId : fw.executor.active = true → fw.executor.diagnosticBootId ≠ 0
  started : fw.executor.active = true →
    ∃ n < fw.machine.board.reads, fw.executor.executionStartedUs = env.timeUs n

theorem length_flushDiagnosticLine {o : NativeOutput}
    (h : o.nativeOutput.length ≤ workloadResultTextBytes) :
    (flushDiagnosticLine o).nativeOutput.length ≤ workloadResultTextBytes := by
  unfold flushDiagnosticLine
  split
  · exact h
  · exact List.length_take_le _ _

theorem length_writeDiagnostic {o : NativeOutput}
    (h : o.nativeOutput.length ≤ workloadResultTextBytes) (c : UInt8) :
    (writeDiagnostic c o).nativeOutput.length ≤ workloadResultTextBytes := by
  unfold writeDiagnostic
  split_ifs
  · exact length_flushDiagnosticLine h
  · exact h
  · exact h

section

variable {env : Env} {fw fw' : Firmware}

theorem ReportInv.of_inactive (houtput : fw.executor.io.output.nativeOutput.length ≤
    workloadResultTextBytes) (haddress : fw.executor.busStats.lastAddress.toNat ≤ 0xFFFFF)
    (hactive : fw.executor.active = false) : ReportInv env fw where
  length_nativeOutput := houtput
  lastAddress := haddress
  bootId := fun h => absurd h (Bool.eq_false_iff.mp hactive)
  started := fun h => absurd h (Bool.eq_false_iff.mp hactive)

theorem ReportStep.inv {request : Message} {event : HostEvent}
    (hstep : ReportStep env fw request event fw') (h : ReportInv env fw) : ReportInv env fw' := by
  cases hstep with
  | same hsame hreads =>
    refine ⟨by rw [hsame.output]; exact h.length_nativeOutput,
      by rw [hsame.busStats]; exact h.lastAddress, fun hactive => ?_, fun hactive => ?_⟩
    · rw [hsame.diagnosticBootId]
      exact h.bootId (hsame.active ▸ hactive)
    · obtain ⟨n, hn, hstarted⟩ := h.started (hsame.active ▸ hactive)
      exact ⟨n, Nat.lt_of_lt_of_le hn hreads, hsame.executionStartedUs.trans hstarted⟩
  | cleared hactive heq =>
    exact .of_inactive (by rw [heq]; exact h.length_nativeOutput)
      (by rw [heq]; exact h.lastAddress) (by rw [heq]; exact hactive)
  | staged flags hactive heq =>
    exact .of_inactive (by rw [heq]; exact Nat.zero_le _) (by rw [heq]; exact Nat.zero_le _)
      (by rw [heq]; exact hactive)
  | halted hactive heq hcause =>
    exact .of_inactive (by rw [heq]; exact length_flushDiagnosticLine h.length_nativeOutput)
      (by rw [heq]; exact h.lastAddress) (by rw [heq]; rfl)
  | started hfresh =>
    exact ⟨by rw [hfresh.noResult.nativeOutput]; exact Nat.zero_le _,
      by rw [hfresh.busStats]; exact Nat.zero_le _, fun _ => hfresh.diagnosticBootId,
      fun _ => hfresh.started⟩
  | startFailed hfailed =>
    exact .of_inactive (by rw [hfailed.nativeOutput]; exact Nat.zero_le _)
      (by rw [hfailed.busStats]; exact Nat.zero_le _) hfailed.active

theorem CycleReport.bounds {completed : Bool} {x x' : Executor}
    (hcycle : CycleReport completed x x')
    (houtput : x.io.output.nativeOutput.length ≤ workloadResultTextBytes)
    (haddress : x.busStats.lastAddress.toNat ≤ 0xFFFFF) :
    x'.io.output.nativeOutput.length ≤ workloadResultTextBytes ∧
      x'.busStats.lastAddress.toNat ≤ 0xFFFFF := by
  refine ⟨?_, hcycle.lastAddress haddress⟩
  rcases hcycle.output with heq | ⟨c, heq⟩
  · rw [heq]
    exact houtput
  · rw [heq]
    exact length_writeDiagnostic houtput c

theorem ServiceReport.inv {expired : Prop}
    (hservice : ServiceReport expired fw.executor fw'.executor)
    (hreads : fw.machine.board.reads ≤ fw'.machine.board.reads) (h : ReportInv env fw) :
    ReportInv env fw' := by
  obtain ⟨houtput, haddress, hboot, hstart⟩ := h
  -- an attempt that goes on keeps its identity and its start
  have hgoes : ∀ x : Executor, x.io.output.nativeOutput.length ≤ workloadResultTextBytes →
      x.busStats.lastAddress.toNat ≤ 0xFFFFF → x.active = fw.executor.active →
      x.diagnosticBootId = fw.executor.diagnosticBootId →
      x.executionStartedUs = fw.executor.executionStartedUs → fw'.executor = x →
      ReportInv env fw' := by
    rintro x ho ha hact hbt hst heq
    refine ⟨heq ▸ ho, heq ▸ ha, fun hactive => ?_, fun hactive => ?_⟩
    · rw [heq, hbt]
      exact hboot (by rw [← hact, ← heq]; exact hactive)
    · obtain ⟨n, hn, hstarted⟩ := hstart (by rw [← hact, ← heq]; exact hactive)
      exact ⟨n, Nat.lt_of_lt_of_le hn hreads, by rw [heq, hst, hstarted]⟩
  cases hservice with
  | skipped hx heq => exact hgoes _ houtput haddress rfl rfl rfl heq
  | deadline hx hexpired heq =>
    exact .of_inactive (by rw [heq]; exact length_flushDiagnosticLine houtput)
      (by rw [heq]; exact haddress) (by rw [heq]; rfl)
  | continued hx completed x₁ hcycle hflags hsame =>
    obtain ⟨ho, ha⟩ := hcycle.bounds houtput haddress
    refine hgoes _ (by rw [hsame.output]; exact ho) (by rw [hsame.busStats]; exact ha) ?_ ?_ ?_ rfl
    · exact hsame.active.trans hcycle.active
    · exact hsame.diagnosticBootId.trans hcycle.diagnosticBootId
    · exact hsame.executionStartedUs.trans hcycle.executionStartedUs
  | completed hx completed x₁ hcycle hpad hclock hack heq =>
    obtain ⟨ho, ha⟩ := hcycle.bounds houtput haddress
    exact hgoes x₁.nativeHalt ho ha hcycle.active hcycle.diagnosticBootId hcycle.executionStartedUs
      heq
  | faulted hx completed x₁ hcycle hsame | starved hx completed x₁ hcycle hflags hsame =>
    obtain ⟨ho, ha⟩ := hcycle.bounds houtput haddress
    exact .of_inactive (by rw [hsame.output]; exact length_flushDiagnosticLine ho)
      (by rw [hsame.busStats]; exact ha) (by rw [hsame.active]; rfl)

end

theorem firmwareRun_may_complete (env : Env) (machine : Machine) (actions : List FirmwareAction) :
    (firmwareRun env machine actions).executor.Supervised →
      workloadComplete (firmwareRun env machine actions).manager
        (firmwareRun env machine actions).manager.workloadId ≠ none := by
  intro hx
  have hrun := (firmwareRun_agrees env machine actions).running hx
  have hid := (@firmwareRun_verified env machine actions (by rw [hrun]; rfl)).1
  simp [workloadComplete, workloadTransition, workloadIdMatches, hrun, hid]

/-- An invariant of the steps that records and service steps take with the report holds after
every run whose steps meet `K`. -/
theorem firmwareRun_report_of_stepsMeet {env : Env} {K : Firmware → FirmwareAction → Prop}
    {Inv : Firmware → Prop} (machine : Machine) (hinit : Inv (firmwareInit machine))
    (hrecord : ∀ fw action request fw', Agrees fw → Inv fw → K fw action →
      action.message = some request →
        ReportStep env fw request (firmwareEvent env fw action) fw' → Inv fw')
    (hservice : ∀ fw, Agrees fw → Inv fw → K fw .service →
      ServiceReport (fw.Expired env) fw.executor (workloadExecutorService env fw).executor →
        Inv (workloadExecutorService env fw))
    (actions : List FirmwareAction)
    (hsteps : StepsMeet (firmwareStep env) K (firmwareInit machine) actions) :
    Inv (firmwareRun env machine actions) := by
  refine run_invariant_of_reached_stepsMeet hinit (fun actions action hK h => ?_) actions hsteps
  have hagrees := firmwareRun_agrees env machine actions
  have hcomplete := firmwareRun_may_complete env machine actions
  change K (firmwareRun env machine actions) action at hK
  change Inv (firmwareRun env machine actions) at h
  change Inv (firmwareStep env (firmwareRun env machine actions) action)
  generalize firmwareRun env machine actions = fw at *
  cases hmessage : action.message with
  | some request =>
    exact hrecord fw action request _ hagrees h hK hmessage
      ((firmwareStep_record env fw hmessage).report hagrees)
  | none =>
    obtain rfl : action = .service := by cases action <;> first | rfl | cases hmessage
    unfold firmwareStep
    split
    · exact h
    · exact hservice fw hagrees h hK (workloadExecutorService_report env hcomplete)

/-- An invariant of the steps that records and service steps take with the report holds after
every run. -/
theorem firmwareRun_report {env : Env} {Inv : Firmware → Prop} (machine : Machine)
    (hinit : Inv (firmwareInit machine))
    (hrecord : ∀ fw request event fw', Agrees fw → Inv fw →
      ReportStep env fw request event fw' → Inv fw')
    (hservice : ∀ fw, Agrees fw → Inv fw →
      ServiceReport (fw.Expired env) fw.executor (workloadExecutorService env fw).executor →
        Inv (workloadExecutorService env fw))
    (actions : List FirmwareAction) : Inv (firmwareRun env machine actions) :=
  firmwareRun_report_of_stepsMeet (K := fun _ _ => True) machine hinit
    (fun fw _ request fw' hagrees h _ _ => hrecord fw request _ fw' hagrees h)
    (fun fw hagrees h _ => hservice fw hagrees h) actions (fun _ _ _ => trivial)

/-- **The report is well formed** after every run. -/
theorem firmwareRun_reportInv (env : Env) (machine : Machine) (actions : List FirmwareAction) :
    ReportInv env (firmwareRun env machine actions) :=
  firmwareRun_report machine (.of_inactive (Nat.zero_le _) (Nat.zero_le _) rfl)
    (fun _ _ _ _ _ h hstep => hstep.inv h)
    (fun fw _ h hservice => hservice.inv (workloadExecutorService_frame env fw).reads h) actions

end Rp86
