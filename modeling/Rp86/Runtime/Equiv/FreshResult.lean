import Rp86.Runtime.Equiv.Snapshot
import Rp86.Runtime.Equiv.StagedImage

/-!
# The result at the start of an attempt

The general executor clears the result of the previous attempt before it starts a new one.  The
prepared calculator is started without the executor, whose result stays as it is.
-/

namespace Rp86

open Lib

/-- The flags of a result that a workload has produced. -/
def producedFlags : UInt32 := resultPass ||| resultNativeOutput ||| resultNativeOutputTruncated

def ClearSnapshot (payload : List UInt8) : Prop :=
  le32 payload 24 &&& producedFlags = 0 ∧ le32 payload 28 = CompletionReason.none.code ∧
    le16 payload 34 = 0

def Executor.ResultClear (x : Executor) : Prop :=
  x.io.output.resultFlags &&& producedFlags = 0 ∧ x.completionReason = .none ∧
    x.io.output.nativeOutput = []

theorem Executor.NoResult.resultClear {x : Executor} (h : x.NoResult) : x.ResultClear :=
  ⟨by rw [h.resultFlags]; rfl, h.completionReason, h.nativeOutput⟩

theorem CompletionReason.code_eq_none {reason : CompletionReason} :
    reason.code = CompletionReason.none.code ↔ reason = .none := by
  cases reason <;> decide

/-- A snapshot shows no result exactly if the executor holds none. -/
theorem Snapshot.clear_iff {payload : List UInt8} {fw : Firmware} (h : Snapshot payload fw) :
    ClearSnapshot payload ↔ fw.executor.ResultClear := by
  have hflags : fw.resultFlags &&& producedFlags
      = fw.executor.io.output.resultFlags &&& producedFlags := by
    unfold Firmware.resultFlags
    split_ifs
    · rw [← UInt32.toNat_inj, UInt32.toNat_and, UInt32.toNat_or, Nat.and_or_distrib_right,
        show resultProcessorIdentified.toNat &&& producedFlags.toNat = 0 by decide, Nat.or_zero,
        UInt32.toNat_and]
    · rfl
  have hlength : le16 payload 34 = 0 ↔ fw.executor.io.output.nativeOutput = [] := by
    rw [← List.length_eq_zero_iff, ← h.nativeOutputLength, ← UInt16.toNat_inj]
    rfl
  unfold ClearSnapshot Executor.ResultClear
  rw [h.resultFlags, hflags, h.completionReason, hlength, CompletionReason.code_eq_none]

/-- A stopped executor has a completion reason. -/
theorem Executor.halt_not_clear (x : Executor) : ¬ x.halt.ResultClear := by
  rintro ⟨-, hreason, -⟩
  simp only [Executor.halt] at hreason
  split_ifs at hreason with hnone
  exact hnone hreason

section

variable {env : Env} {fw : Firmware}

/-- The result after a start of an inactive executor that succeeded. -/
theorem startWorkload_clear_iff {calculator : Bool}
    (hok : (startWorkload env calculator fw).1 = .ok) (hactive : fw.executor.active = false) :
    (startWorkload env calculator fw).2.executor.ResultClear ↔
      calculator = false ∨ fw.executor.ResultClear := by
  have hreport := startWorkload_report env calculator fw hactive
  rw [hok] at hreport
  cases hreport with
  | calculator hcalculator hsame hreads =>
    rw [hsame, hcalculator]
    exact ⟨Or.inr, fun h => h.resolve_left (by decide)⟩
  | started hcalculator hstatus hfresh =>
    exact ⟨fun _ => Or.inl hcalculator, fun _ => hfresh.noResult.resultClear⟩
  | failed hcalculator hstatus hfailed => exact absurd rfl hstatus

/-- The result after a RUN or RESTART whose start succeeded. -/
theorem StartsFrom.clear_iff {request : Message} {fw₁ : Firmware} {calculator : Bool}
    (hfrom : StartsFrom fw request fw₁) (hok : (startWorkload env calculator fw₁).1 = .ok) :
    (startWorkload env calculator fw₁).2.executor.ResultClear ↔
      calculator = false ∨ (fw.executor.active = false ∧ fw.executor.ResultClear) := by
  rw [startWorkload_clear_iff hok hfrom.active]
  cases hfrom with
  | run _ _ hactive | restart _ _ hactive => rw [and_iff_right hactive]
  | halted m hcontrol hmanager hactive hstops =>
    -- a calculator that takes over from an attempt reports how that attempt was stopped
    have hhalt := fw.executor.halt_not_clear
    rw [hactive]
    constructor
    · exact fun h => Or.inl (h.resolve_right hhalt)
    · exact fun h => Or.inl (h.resolve_right fun h => absurd h.1 (by decide))

/-- The handler that a control request answered `OK` reached. -/
theorem workloadRecord_control_ok {request : Message}
    (htype : request.type = typeWorkloadControl)
    (hok : (workloadRecord env request fw).1 = .ok) :
    (workloadRecord env request fw).2.2 = (handleControl env request fw).2 ∧
      (handleControl env request fw).1 = .ok := by
  unfold workloadRecord at hok ⊢
  simp only [htype] at hok ⊢
  split_ifs at hok ⊢ with hlength hstatus hbegin hdata hcommit hcontrol
  · exact absurd hbegin.1 (by decide)
  · exact absurd hdata.1 (by decide)
  · exact absurd hcommit.1 (by decide)
  · exact ⟨rfl, hok⟩

/-- The executor after a RUN or RESTART that is answered `OK`. -/
theorem handleControl_clear_iff (hagrees : Agrees fw) {request : Message}
    (hstart : request.IsControl workloadControlRun ∨ request.IsControl workloadControlRestart)
    (hok : (handleControl env request fw).1 = .ok) :
    (handleControl env request fw).2.executor.ResultClear ↔
      calculatorWorkloadValid fw.manager fw.backing = false ∨
        (fw.executor.active = false ∧ fw.executor.ResultClear) := by
  have htype : request.type = typeWorkloadControl := hstart.elim (·.1) (·.1)
  have hop : request.payload.getD 0 0 = workloadControlRun ∨
      request.payload.getD 0 0 = workloadControlRestart := hstart.imp (·.2) (·.2)
  unfold handleControl at hok ⊢
  simp only at hok ⊢
  split_ifs at hok ⊢ with hstatus hguard hrun hstop hrestart
  · rw [hstatus.1] at hop
    exact absurd hop (by decide)
  · rcases handleRun_starts hagrees ⟨htype, hrun⟩ with heq | ⟨fw₁, hfrom, heq⟩ <;>
      rw [heq] at hok ⊢
    · cases hok
    · exact hfrom.clear_iff hok
  · rw [hstop] at hop
    exact absurd hop (by decide)
  · rcases handleRestart_starts ⟨htype, hrestart⟩ with heq | ⟨fw₁, hfrom, heq⟩ <;>
      rw [heq] at hok ⊢
    · cases hok
    · exact hfrom.clear_iff hok

end

/-- **No attempt inherits a result**, unless the prepared calculator is started: in every state that
a run of the firmware reaches, a RUN or RESTART that is answered `OK` is answered with a snapshot
without a result exactly if the image is not the calculator's, or the executor is inactive and holds
no result. -/
theorem fresh_result_iff (env : Env) (machine : Machine) (actions : List FirmwareAction)
    (record : Record) (reply : Message)
    (hstart : (Message.ofRecord record).IsControl workloadControlRun ∨
      (Message.ofRecord record).IsControl workloadControlRestart)
    (hreply : firmwareReply env (firmwareRun env machine actions) (.record record) = some reply)
    (hok : reply.status = HostStatus.ok.code) :
    ClearSnapshot reply.payload ↔
      calculatorWorkloadValid (firmwareRun env machine actions).manager
          (firmwareRun env machine actions).backing = false ∨
        ((firmwareRun env machine actions).executor.active = false ∧
          (firmwareRun env machine actions).executor.ResultClear) := by
  have hagrees := firmwareRun_agrees env machine actions
  have hinv := firmwareRun_reportInv env machine actions
  generalize firmwareRun env machine actions = fw at hreply hagrees hinv ⊢
  have htype : (Message.ofRecord record).type = typeWorkloadControl := hstart.elim (·.1) (·.1)
  rw [firmwareReply, takeNonControlRecord_workload (by rw [htype]; rfl)] at hreply
  split_ifs at hreply
  obtain rfl := Option.some.inj hreply
  have hstatus : (workloadRecord env (Message.ofRecord record) fw).1 = .ok :=
    HostStatus.code_eq_ok.mp hok
  obtain ⟨hafter, hcontrol⟩ := workloadRecord_control_ok htype hstatus
  rw [(snapshot_handleWorkloadRecord hagrees hinv _).clear_iff, ← handleControl_clear_iff hagrees
    hstart hcontrol, ← hafter]
  rfl

/-- The first RUN of a staged image. -/
theorem fresh_result_iff_halt :
    ∃ reply, firmwareReply haltEnv (firmwareRun haltEnv coldMachine
        [beginAction haltManifest, dataAction [0xF4], commitAction haltManifest])
        (controlAction workloadControlRun) = some reply ∧
      reply.status = HostStatus.ok.code ∧ ClearSnapshot reply.payload := by
  have hstatus : (firmwareReply haltEnv (firmwareRun haltEnv coldMachine
      [beginAction haltManifest, dataAction [0xF4], commitAction haltManifest])
      (controlAction workloadControlRun)).map Message.status
        = some HostStatus.ok.code := by decide +kernel
  obtain ⟨reply, hreply, hok⟩ := Option.map_eq_some_iff.mp hstatus
  have h := fresh_result_iff haltEnv coldMachine
    [beginAction haltManifest, dataAction [0xF4], commitAction haltManifest] _ reply
    (Or.inl ⟨by decide, by decide⟩) hreply hok
  exact ⟨reply, hreply, hok, h.mpr (Or.inl (by decide +kernel))⟩

/-- Sixteen `NOP`s at the entry. -/
def nopManifest : Manifest :=
  { haltManifest with imageSize := 16, imageCrc32 := crc32 (List.replicate 16 0x90) }

/-- A stopped workload whose image the Host replaces by that of the calculator: the RUN that starts
the calculator is answered with the completion reason of the stopped workload. -/
theorem calculator_inherits_reason :
    ∃ fw, fw = firmwareRun haltEnv { coldMachine with prepared := ⟨true, false, 0, false⟩ }
        [beginAction nopManifest, dataAction (List.replicate 16 0x90), commitAction nopManifest,
          controlAction workloadControlRun, controlAction workloadControlStop,
          .record (memoryWriteRecord 0x10000 calculatorWorkloadContract)] ∧
      ∃ reply, firmwareReply haltEnv fw (controlAction workloadControlRun) = some reply ∧
        reply.status = HostStatus.ok.code ∧
        le32 reply.payload 28 = CompletionReason.stopRequested.code ∧
        ¬ ClearSnapshot reply.payload := by
  refine ⟨_, rfl, ?_⟩
  have hreply : (firmwareReply haltEnv
      (firmwareRun haltEnv { coldMachine with prepared := ⟨true, false, 0, false⟩ }
        [beginAction nopManifest, dataAction (List.replicate 16 0x90), commitAction nopManifest,
          controlAction workloadControlRun, controlAction workloadControlStop,
          .record (memoryWriteRecord 0x10000 calculatorWorkloadContract)])
      (controlAction workloadControlRun)).map (fun reply => (reply.status, le32 reply.payload 28))
        = some (HostStatus.ok.code, CompletionReason.stopRequested.code) := by decide +kernel
  obtain ⟨reply, hreply, heq⟩ := Option.map_eq_some_iff.mp hreply
  obtain ⟨hok, hreason⟩ := Prod.mk.inj heq
  refine ⟨reply, hreply, hok, hreason, fun hclear => ?_⟩
  rw [hclear.2.1] at hreason
  exact absurd hreason (by decide)

end Rp86
