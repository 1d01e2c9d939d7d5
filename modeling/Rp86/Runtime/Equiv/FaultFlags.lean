import Rp86.Runtime.Equiv.Snapshot

/-!
# The failure flags of the diagnostics

An attempt that ends shows the flags of its last bus cycle.  A cycle that fails for good ends the
attempt with `BUS_FAULT`, and a cycle that completes leaves no flag behind, with one exception: a
completed interrupt acknowledge keeps `INTERRUPT_ACK` until the next cycle.
-/

namespace Rp86

open Lib

/-- `UNMAPPED`, `INVALID_LANE`, `PAD_MISMATCH` and `CLOCK_FAILURE`. -/
def cycleFailureFlags : UInt32 := 0x78

/-- The failure flags that belong to a bus fault: `cycleFailureFlags` and `INTERRUPT_ACK`. -/
def busFaultFlags : UInt32 := 0xF8

theorem ClockSteppedStats.NoFailure.diagnosticsFlags {stats : ClockSteppedStats}
    (h : stats.NoFailure) : stats.diagnosticsFlags &&& cycleFailureFlags = 0 := by
  unfold ClockSteppedStats.diagnosticsFlags
  rw [h.unmapped, h.invalidLane, h.padMismatch, h.clockFailure]
  generalize (stats.firstCycleSeen && stats.lastDataValid) = valid
  generalize stats.firstCycleSeen = seen
  generalize stats.noCycle = none
  generalize stats.interruptAck = ack
  revert seen valid none ack
  decide

theorem ClockSteppedStats.NoFailure.busFaultFlags {stats : ClockSteppedStats}
    (h : stats.NoFailure) (hack : stats.interruptAck = false) :
    stats.diagnosticsFlags &&& busFaultFlags = 0 := by
  unfold ClockSteppedStats.diagnosticsFlags
  rw [h.unmapped, h.invalidLane, h.padMismatch, h.clockFailure, hack]
  generalize (stats.firstCycleSeen && stats.lastDataValid) = valid
  generalize stats.firstCycleSeen = seen
  generalize stats.noCycle = none
  revert seen valid none
  decide

/-! ### The flags of failed cycles -/

/-- Only a bus fault leaves the flag of a failed cycle. -/
structure FailureInv (fw : Firmware) : Prop where
  active : fw.executor.active = true → fw.executor.busStats.NoFailure
  ended : fw.executor.active = false →
    fw.executor.completionReason = .busFault ∨ fw.executor.busStats.NoFailure

theorem FailureInv.of_noFailure {fw : Firmware} (h : fw.executor.busStats.NoFailure) :
    FailureInv fw := ⟨fun _ => h, fun _ => Or.inr h⟩

theorem ClockSteppedStats.noFailure_zero : ClockSteppedStats.zero.NoFailure := ⟨rfl, rfl, rfl, rfl⟩

theorem ReportStep.failureInv {env : Env} {fw fw' : Firmware} {request : Message}
    {event : HostEvent} (hstep : ReportStep env fw request event fw') (h : FailureInv fw) :
    FailureInv fw' := by
  cases hstep with
  | same hsame hreads =>
    constructor
    · rw [hsame.active, hsame.busStats]
      exact h.active
    · rw [hsame.active, hsame.busStats, hsame.completionReason]
      exact h.ended
  | cleared hactive heq =>
    constructor
    · rw [heq]
      exact h.active
    · rw [heq]
      exact h.ended
  | staged flags hactive heq =>
    refine .of_noFailure ?_
    rw [heq]
    exact ClockSteppedStats.noFailure_zero
  | halted hactive heq hcause =>
    refine .of_noFailure ?_
    rw [heq]
    exact h.active hactive
  | started hfresh =>
    refine .of_noFailure ?_
    rw [hfresh.busStats]
    exact ClockSteppedStats.noFailure_zero
  | startFailed hfailed =>
    refine .of_noFailure ?_
    rw [hfailed.busStats]
    exact ClockSteppedStats.noFailure_zero

theorem ServiceReport.failureInv {expired : Prop} {fw fw' : Firmware}
    (hservice : ServiceReport expired fw.executor fw'.executor) (h : FailureInv fw) :
    FailureInv fw' := by
  cases hservice with
  | skipped hx heq =>
    constructor
    · rw [heq]
      exact h.active
    · rw [heq]
      exact h.ended
  | deadline hx hexpired heq =>
    refine .of_noFailure ?_
    rw [heq]
    exact h.active hx.active
  | continued hx completed x₁ hcycle hflags hsame =>
    refine .of_noFailure ?_
    rw [hsame.busStats]
    exact hflags
  | completed hx completed x₁ hcycle hpad hclock hack heq =>
    refine .of_noFailure ?_
    rw [heq]
    exact ⟨rfl, rfl, hpad, hclock⟩
  | faulted hx completed x₁ hcycle hsame =>
    constructor
    · rw [hsame.active]
      exact fun h => Bool.noConfusion h
    · exact fun _ => Or.inl hsame.completionReason
  | starved hx completed x₁ hcycle hflags hsame =>
    refine .of_noFailure ?_
    rw [hsame.busStats]
    exact .of_immediateFault hflags

theorem firmwareRun_failureInv (env : Env) (machine : Machine) (actions : List FirmwareAction) :
    FailureInv (firmwareRun env machine actions) :=
  firmwareRun_report machine (.of_noFailure ClockSteppedStats.noFailure_zero)
    (fun _ _ _ _ _ h hstep => hstep.failureInv h) (fun _ _ h hservice => hservice.failureInv h)
    actions

/-! ### The flag of an acknowledge -/

/-- The action ends an attempt between two bus cycles: a STOP that is accepted, a RESTART that hands
over to the prepared calculator, or a service step behind the deadline. -/
def FirmwareAction.EndsAttempt (env : Env) (fw : Firmware) (action : FirmwareAction) : Prop :=
  firmwareEvent env fw action = .control workloadControlStop ∨
  (∃ request, action.message = some request ∧ request.IsControl workloadControlRestart ∧
    calculatorWorkloadValid fw.manager fw.backing = true) ∨
  (action = .service ∧ fw.Expired env)

/-- No attempt is ended right behind an interrupt acknowledge. -/
def FirmwareAction.SparesAck (env : Env) (fw : Firmware) (action : FirmwareAction) : Prop :=
  fw.executor.active = true → fw.executor.busStats.interruptAck = true →
    ¬ action.EndsAttempt env fw

/-- Only a bus fault leaves the flag of an acknowledge. -/
def AckInv (fw : Firmware) : Prop :=
  fw.executor.active = false ∨ fw.executor.processorIdle = true →
    fw.executor.completionReason = .busFault ∨ fw.executor.busStats.interruptAck = false

theorem ReportStep.ackInv {env : Env} {fw fw' : Firmware} {action : FirmwareAction}
    {request : Message} (hstep : ReportStep env fw request (firmwareEvent env fw action) fw')
    (hmessage : action.message = some request) (hspares : action.SparesAck env fw)
    (h : AckInv fw) : AckInv fw' := by
  cases hstep with
  | same hsame hreads =>
    unfold AckInv
    rw [hsame.active, hsame.processorIdle, hsame.completionReason, hsame.busStats]
    exact h
  | cleared hactive heq =>
    unfold AckInv
    rw [heq]
    exact h
  | staged flags hactive heq =>
    refine fun _ => Or.inr ?_
    rw [heq]
    rfl
  | halted hactive heq hcause =>
    refine fun _ => Or.inr ?_
    rw [heq]
    refine Bool.eq_false_iff.mpr fun hack => hspares hactive hack ?_
    rcases hcause with hstop | ⟨hcontrol, hvalid⟩
    · exact Or.inl hstop
    · exact Or.inr (Or.inl ⟨request, hmessage, hcontrol, hvalid⟩)
  | started hfresh =>
    refine fun _ => Or.inr ?_
    rw [hfresh.busStats]
    rfl
  | startFailed hfailed =>
    refine fun _ => Or.inr ?_
    rw [hfailed.busStats]
    rfl

theorem ServiceReport.ackInv {env : Env} {fw fw' : Firmware}
    (hservice : ServiceReport (fw.Expired env) fw.executor fw'.executor)
    (hspares : FirmwareAction.service.SparesAck env fw) (h : AckInv fw) : AckInv fw' := by
  cases hservice with
  | skipped hx heq =>
    unfold AckInv
    rw [heq]
    exact h
  | deadline hx hexpired heq =>
    refine fun _ => Or.inr ?_
    rw [heq]
    exact Bool.eq_false_iff.mpr fun hack =>
      hspares hx.active hack (Or.inr (Or.inr ⟨rfl, hexpired⟩))
  | continued hx completed x₁ hcycle hflags hsame =>
    unfold AckInv
    rw [hsame.active, hsame.processorIdle, hcycle.active, hcycle.processorIdle, hx.active,
      hx.notIdle]
    exact fun hc => absurd hc (by decide)
  | completed hx completed x₁ hcycle hpad hclock hack heq =>
    refine fun _ => Or.inr ?_
    rw [heq]
    exact hack
  | faulted hx completed x₁ hcycle hsame => exact fun _ => Or.inl hsame.completionReason
  | starved hx completed x₁ hcycle hflags hsame =>
    refine fun _ => Or.inr ?_
    simp only [ClockSteppedStats.immediateFault, Bool.or_eq_false_iff] at hflags
    rw [hsame.busStats]
    exact hflags.2

theorem firmwareRun_ackInv {env : Env} {machine : Machine} {actions : List FirmwareAction}
    (hspares : StepsMeet (firmwareStep env) (FirmwareAction.SparesAck env) (firmwareInit machine)
      actions) : AckInv (firmwareRun env machine actions) :=
  firmwareRun_report_of_stepsMeet machine (fun _ => Or.inr rfl)
    (fun _ _ _ _ _ h hK hmessage hstep => hstep.ackInv hmessage hK h)
    (fun _ _ h hK hservice => hservice.ackInv hK h) actions hspares

/-- **Diagnostics report real faults**, if no attempt is ended right behind an interrupt
acknowledge.  In every state that a run reaches, a diagnostics reply that is `OK` has the flag of a
failed cycle only for an attempt that ended with `BUS_FAULT`; and `INTERRUPT_ACK` as well only then,
if every step of the run spares acknowledges. -/
theorem diagnostics_report_faults (env : Env) (machine : Machine) (actions : List FirmwareAction)
    (record : Record) (reply : Message)
    (htype : (Message.ofRecord record).type = typeDiagnosticsRequest)
    (hreply : firmwareReply env (firmwareRun env machine actions) (.record record) = some reply)
    (hok : reply.status = HostStatus.ok.code) :
    (le32 reply.payload 36 &&& cycleFailureFlags ≠ 0 →
      le32 reply.payload 12 = CompletionReason.busFault.code) ∧
    (StepsMeet (firmwareStep env) (FirmwareAction.SparesAck env) (firmwareInit machine) actions →
      le32 reply.payload 36 &&& busFaultFlags ≠ 0 →
        le32 reply.payload 12 = CompletionReason.busFault.code) := by
  have hfailure := firmwareRun_failureInv env machine actions
  have hack := @firmwareRun_ackInv env machine actions
  generalize firmwareRun env machine actions = fw at hreply hfailure hack
  have hdiagnostics : workloadExecutorDiagnostics fw.manager fw.executor (Message.ofRecord record)
      = some reply := by
    rw [← hreply, firmwareReply, takeNonControlRecord, if_neg (by rw [htype]; decide),
      if_pos htype]
  obtain ⟨hdiagnosable, -, rfl⟩ := workloadExecutorDiagnostics_ok hdiagnostics hok
  have hsnapshot := diagnosticsSnapshot_reply fw (Message.ofRecord record)
  have hnoFailure : fw.executor.completionReason = .busFault ∨ fw.executor.busStats.NoFailure := by
    cases hactive : fw.executor.active with
    | true => exact Or.inr (hfailure.active hactive)
    | false => exact hfailure.ended hactive
  rw [hsnapshot.flags, hsnapshot.completionReason]
  constructor
  · intro hflags
    rcases hnoFailure with hreason | hnone
    · rw [hreason]
    · exact absurd hnone.diagnosticsFlags hflags
  · intro hspares hflags
    -- the firmware answers `OK` only for an attempt that is over
    have hover : fw.executor.active = false ∨ fw.executor.processorIdle = true := by
      cases hactive : fw.executor.active with
      | true => exact Or.inr (hdiagnosable.idle hactive)
      | false => exact Or.inl rfl
    rcases hnoFailure with hreason | hnone
    · rw [hreason]
    · rcases hack hspares hover with hreason | hno
      · rw [hreason]
      · exact absurd (hnone.busFaultFlags hno) hflags

def diagnosticsRecord : Record := (Message.request typeDiagnosticsRequest 5 (leBytes 4 0)).toRecord

/-- The board of a workload that writes to a port without a handler. -/
def unmappedEnv : Env := scriptedEnv 102 (ioWriteSamples 0x10 0)

/-- The write to an unmapped port ends the attempt with `BUS_FAULT` and `UNMAPPED`. -/
theorem diagnostics_report_faults_unmapped :
    ∃ reply, firmwareReply unmappedEnv
        (firmwareRun unmappedEnv coldMachine (haltStart ++ [.service]))
        (.record diagnosticsRecord) = some reply ∧
      le32 reply.payload 36 &&& cycleFailureFlags = 0x08 ∧
      le32 reply.payload 12 = CompletionReason.busFault.code := by
  have hreply : (firmwareReply unmappedEnv
      (firmwareRun unmappedEnv coldMachine (haltStart ++ [.service]))
      (.record diagnosticsRecord)).map
        (fun reply => (reply.status, le32 reply.payload 36 &&& cycleFailureFlags))
        = some (HostStatus.ok.code, 0x08) := by decide +kernel
  obtain ⟨reply, hreply, heq⟩ := Option.map_eq_some_iff.mp hreply
  obtain ⟨hok, hflags⟩ := Prod.mk.inj heq
  have h := diagnostics_report_faults unmappedEnv coldMachine (haltStart ++ [.service])
    diagnosticsRecord reply (by decide)
  exact ⟨reply, hreply, hflags, (h hreply hok).1 (by rw [hflags]; decide)⟩

/-- A STOP right behind the first interrupt acknowledge: the attempt reports `STOP_REQUESTED` with
the failure flag `INTERRUPT_ACK`. -/
theorem stop_reports_ack :
    ∃ reply, firmwareReply tickEnv
        (firmwareRun tickEnv coldMachine
          (tickStart ++ [.service, .service, controlAction workloadControlStop]))
        (.record diagnosticsRecord) = some reply ∧
      reply.status = HostStatus.ok.code ∧
      le32 reply.payload 36 &&& busFaultFlags = 0x80 ∧
      le32 reply.payload 12 = CompletionReason.stopRequested.code := by
  have hreply : (firmwareReply tickEnv
      (firmwareRun tickEnv coldMachine
        (tickStart ++ [.service, .service, controlAction workloadControlStop]))
      (.record diagnosticsRecord)).map
        (fun reply => (reply.status, le32 reply.payload 36 &&& busFaultFlags,
          le32 reply.payload 12))
        = some (HostStatus.ok.code, 0x80, CompletionReason.stopRequested.code) := by
    decide +kernel
  obtain ⟨reply, hreply, heq⟩ := Option.map_eq_some_iff.mp hreply
  simp only [Prod.mk.injEq] at heq
  exact ⟨reply, hreply, heq.1, heq.2.1, heq.2.2⟩

end Rp86
