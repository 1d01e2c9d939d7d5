import Rp86.Runtime.Equiv.Deadline
import Rp86.Runtime.Equiv.Report

/-!
# The fields of the replies

The status snapshot that `rp86_runtime_status_capture` fills in and every workload reply carries,
and the payloads of diagnostics and timeout replies.
-/

namespace Rp86

open Lib

def Firmware.processorFlags (fw : Firmware) : UInt32 :=
  (if fw.executor.processorIdle then (1 : UInt32) <<< 0 else 0) |||
    (if fw.machine.prepared.initialized then (1 : UInt32) <<< 1 else 0)

def Firmware.resultFlags (fw : Firmware) : UInt32 :=
  if fw.machine.prepared.processorIdentityValid then
    fw.executor.io.output.resultFlags ||| resultProcessorIdentified
  else fw.executor.io.output.resultFlags

/-- A payload with the fields of a status snapshot. -/
structure Snapshot (payload : List UInt8) (fw : Firmware) : Prop where
  workloadId : le32 payload 0 = fw.manager.workloadId
  state : le32 payload 4 = fw.manager.state.code
  received : le32 payload 8 = fw.manager.received
  clockMode : le32 payload 12 = (physicalWorkloadClockMode fw.machine.board).code
  cycles : le32 payload 16 = fw.executor.busStats.cycles
  processorFlags : le32 payload 20 = fw.processorFlags
  resultFlags : le32 payload 24 = fw.resultFlags
  completionReason : le32 payload 28 = fw.executor.completionReason.code
  processorSignature : le16 payload 32 = fw.machine.prepared.processorSignature
  nativeOutputLength : (le16 payload 34).toNat = fw.executor.io.output.nativeOutput.length
  nativeOutput : (payload.drop 36).take fw.executor.io.output.nativeOutput.length
    = fw.executor.io.output.nativeOutput

/-- **Every workload reply carries a snapshot** of the firmware. -/
theorem snapshot_workloadReply {fw : Firmware}
    (h : fw.executor.io.output.nativeOutput.length ≤ workloadResultTextBytes) (request : Message)
    (status : HostStatus) (statusReply : Bool) :
    Snapshot (workloadReply fw request status statusReply).payload fw := by
  have h16 : workloadResultTextBytes = 16 := rfl
  have h52 : payloadSize = 52 := rfl
  have hlength : (workloadResultPayload fw).length
      = 36 + fw.executor.io.output.nativeOutput.length := by
    simp only [workloadResultPayload, List.length_append, length_leBytes]
  have hpayload : (workloadReply fw request status statusReply).payload
      = workloadResultPayload fw ++ List.replicate (payloadSize - (workloadResultPayload fw).length)
        0 :=
    padPayload_of_le (by omega)
  have houtput : (UInt16.ofNat fw.executor.io.output.nativeOutput.length).toNat
      = fw.executor.io.output.nativeOutput.length :=
    Nat.mod_eq_of_lt (by omega)
  rw [hpayload]
  generalize List.replicate (payloadSize - (workloadResultPayload fw).length) (0 : UInt8) = rest
  unfold workloadResultPayload
  constructor
  case nativeOutput =>
    rw [List.append_assoc _ fw.executor.io.output.nativeOutput,
      List.drop_left' (by simp only [List.length_append, length_leBytes]), List.take_left' rfl]
  all_goals
    simp only [List.append_assoc, le32_leBytes, le16_leBytes, le32_append_of_le,
      le16_append_of_le, length_leBytes, Nat.reduceLeDiff, Nat.reduceSub, UInt32.ofNat_toNat,
      UInt16.ofNat_toNat, Nat.le_refl]
  · rfl
  · rfl
  · exact houtput

/-- The reply to a workload record carries a snapshot of the state after the record. -/
theorem snapshot_handleWorkloadRecord {env : Env} {fw : Firmware} (hagrees : Agrees fw)
    (hinv : ReportInv env fw) (request : Message) :
    Snapshot (handleWorkloadRecord env request fw).1.payload
      (handleWorkloadRecord env request fw).2 :=
  snapshot_workloadReply
    (((workloadRecord_step env request fw).report hagrees).inv hinv).length_nativeOutput _ _ _

/-! ### Diagnostics -/

/-- The flags of a diagnostics reply. -/
def ClockSteppedStats.diagnosticsFlags (stats : ClockSteppedStats) : UInt32 :=
  diagnosticsFlag stats.firstCycleSeen 0 |||
    diagnosticsFlag (stats.firstCycleSeen && stats.lastDataValid) 1 |||
    diagnosticsFlag stats.noCycle 2 ||| diagnosticsFlag stats.unmapped 3 |||
    diagnosticsFlag stats.invalidLane 4 ||| diagnosticsFlag stats.padMismatch 5 |||
    diagnosticsFlag stats.clockFailure 6 ||| diagnosticsFlag stats.interruptAck 7

/-- A payload with the fields of a diagnostics reply. -/
structure DiagnosticsSnapshot (payload : List UInt8) (fw : Firmware) : Prop where
  workloadId : le32 payload 0 = fw.executor.diagnosticWorkloadId
  bootId : le32 payload 4 = fw.executor.diagnosticBootId
  lifecycle : le32 payload 8 = fw.manager.state.code
  completionReason : le32 payload 12 = fw.executor.completionReason.code
  cycles : le32 payload 16 = fw.executor.busStats.cycles
  lastAddress : le32 payload 20 = if fw.executor.busStats.firstCycleSeen then
    fw.executor.busStats.lastAddress else 0
  lastData : le32 payload 24 =
    if fw.executor.busStats.firstCycleSeen && fw.executor.busStats.lastDataValid then
      fw.executor.busStats.lastData.toUInt32 else 0
  lastType : le32 payload 28 = if fw.executor.busStats.firstCycleSeen then
    fw.executor.busStats.lastType.code else 0
  lastLanes : le32 payload 32 = if fw.executor.busStats.firstCycleSeen then
    fw.executor.busStats.lastLanes.code else 0
  flags : le32 payload 36 = fw.executor.busStats.diagnosticsFlags
  reserved : payload.drop 40 = List.replicate 12 0

theorem reply_ne_of_ok {type : UInt8} {request reply : Message} {status : HostStatus}
    (hok : reply.status = HostStatus.ok.code) (hne : status ≠ .ok) :
    some (Message.reply type request status 0 []) ≠ some reply := by
  intro heq
  obtain rfl := Option.some.inj heq
  exact hne (HostStatus.code_eq_ok.mp hok)

/-- The conditions under which a diagnostics request is answered `OK`. -/
structure Firmware.Diagnosable (fw : Firmware) : Prop where
  idle : fw.executor.active = true → fw.executor.processorIdle = true
  lifecycle : fw.manager.state ∈
    ([.stopped, .completed, .faulted, .timedOut] : List WorkloadState)
  workloadId : fw.executor.diagnosticWorkloadId ≠ 0
  current : fw.executor.diagnosticWorkloadId = fw.manager.workloadId

/-- **A diagnostics reply** that is `OK` carries the statistics of an attempt that is over or
idle. -/
theorem workloadExecutorDiagnostics_ok {fw : Firmware} {request reply : Message}
    (h : workloadExecutorDiagnostics fw.manager fw.executor request = some reply)
    (hok : reply.status = HostStatus.ok.code) :
    fw.Diagnosable ∧ (request.word 0 = 0 ∨ request.word 0 = fw.manager.workloadId) ∧
      reply = Message.reply typeDiagnosticsResult request .ok 52
        (diagnosticsPayload fw.manager fw.executor) := by
  unfold workloadExecutorDiagnostics at h
  split_ifs at h with htype hversion hlength hid hbusy hstate
  · exact absurd h (reply_ne_of_ok hok (by decide))
  · exact absurd h (reply_ne_of_ok hok (by decide))
  · exact absurd h (reply_ne_of_ok hok (by decide))
  · exact absurd h (reply_ne_of_ok hok (by decide))
  · exact absurd h (reply_ne_of_ok hok (by decide))
  · obtain rfl := Option.some.inj h
    simp only [not_or, not_and, not_not] at hid hbusy hstate
    obtain ⟨hcode, hne, hcurrent⟩ := hstate
    refine ⟨⟨fun hactive => ?_, ?_, hne, hcurrent⟩, ?_, rfl⟩
    · simpa [hactive] using hbusy.1
    · generalize fw.manager.state = state at hcode hbusy ⊢
      cases state <;> first | decide | exact absurd hcode (by decide)
    · exact or_iff_not_imp_left.mpr hid

theorem diagnosticsSnapshot_reply (fw : Firmware) (request : Message) :
    DiagnosticsSnapshot (Message.reply typeDiagnosticsResult request .ok 52
      (diagnosticsPayload fw.manager fw.executor)).payload fw := by
  have hlength : (diagnosticsPayload fw.manager fw.executor).length = 40 := by
    simp [diagnosticsPayload]
  have hpayload : (Message.reply typeDiagnosticsResult request .ok 52
      (diagnosticsPayload fw.manager fw.executor)).payload
      = diagnosticsPayload fw.manager fw.executor ++ List.replicate 12 0 := by
    show padPayload _ = _
    rw [padPayload_of_le (by rw [hlength]; decide), hlength]
    rfl
  rw [hpayload]
  constructor
  case reserved => exact List.drop_left' hlength
  all_goals
    unfold diagnosticsPayload
    simp [le32_leBytes, le32_append_of_le]
  case lastData =>
    split_ifs
    · exact UInt32.ofNat_uInt16ToNat _
    · rfl
  case flags => rfl
  all_goals
    split_ifs
    · exact UInt32.ofNat_toNat
    · rfl

/-! ### Timeout -/

/-- The milliseconds until the deadline, rounded up. -/
def Executor.remainingMs (x : Executor) (now : UInt64) : ℕ :=
  (x.executionDeadlineUs.toNat - now.toNat + 999) / 1000

/-- A payload with the fields of a timeout reply. -/
structure TimeoutSnapshot (payload : List UInt8) (fw : Firmware) (now : UInt64) : Prop where
  timeoutMs : le32 payload 0 = fw.executor.timeoutMs
  remainingMs : (le32 payload 4).toNat = fw.executor.remainingMs now
  workloadId : le32 payload 8 = fw.manager.workloadId
  bootId : le32 payload 12 = fw.executor.diagnosticBootId
  armed : le32 payload 16 = if fw.executor.executionDeadlineUs ≠ 0 then 1 else 0
  reserved : payload.drop 20 = List.replicate 32 0

/-- No more than the timeout remains, if the attempt has started by `now`.  A deadline that wraps
around lies before the start. -/
theorem DeadlineInv.remainingMs_le {env : Env} {fw : Firmware} (h : DeadlineInv env fw)
    {now : UInt64} (hnow : fw.executor.active = true → fw.executor.executionStartedUs ≤ now) :
    fw.executor.remainingMs now ≤ fw.executor.timeoutMs.toNat := by
  have hzero : (0 : UInt64).toNat = 0 := rfl
  have hthousand : (1000 : UInt64).toNat = 1000 := rfl
  unfold Executor.remainingMs
  rw [h.deadline, Executor.deadline]
  split_ifs with hsupervised
  · have hstarted := UInt64.le_iff_toNat_le.mp (hnow hsupervised.2.1)
    rw [UInt64.toNat_add, UInt64.toNat_mul, UInt32.toNat_toUInt64, hthousand]
    omega
  · omega

theorem timeoutSnapshot_reply {fw : Firmware} {now : UInt64}
    (hle : fw.executor.remainingMs now ≤ fw.executor.timeoutMs.toNat) (request : Message) :
    TimeoutSnapshot (Message.reply typeWorkloadTimeoutResult request .ok 52
      (timeoutPayload fw.manager fw.executor now)).payload fw now := by
  have hlength : (timeoutPayload fw.manager fw.executor now).length = 20 := by
    simp only [timeoutPayload, List.length_append, length_leBytes]
  have hpayload : (Message.reply typeWorkloadTimeoutResult request .ok 52
      (timeoutPayload fw.manager fw.executor now)).payload
      = timeoutPayload fw.manager fw.executor now ++ List.replicate 32 0 := by
    show padPayload _ = _
    rw [padPayload_of_le (by rw [hlength]; decide), hlength]
    rfl
  rw [hpayload]
  constructor
  case reserved => exact List.drop_left' hlength
  all_goals
    unfold timeoutPayload
    simp only [List.append_assoc, le32_leBytes, le32_append_of_le, length_leBytes,
      Nat.reduceLeDiff, Nat.reduceSub, UInt32.ofNat_toNat, Nat.le_refl]
  case armed => split_ifs <;> rfl
  case remainingMs =>
    unfold Executor.remainingMs at hle ⊢
    have hlimit := fw.executor.timeoutMs.toNat_lt
    have hrounding : (999 : UInt64).toNat = 999 := rfl
    have hthousand : (1000 : UInt64).toNat = 1000 := rfl
    -- the device counts in 64 bits and rounds up; nothing is cut off
    have hremaining : (if fw.executor.executionDeadlineUs > now then
        fw.executor.executionDeadlineUs - now else 0).toNat
          = fw.executor.executionDeadlineUs.toNat - now.toNat := by
      split_ifs with hgt
      · exact UInt64.toNat_sub_of_le _ _ (UInt64.le_of_lt hgt)
      · have := UInt64.le_iff_toNat_le.mp (UInt64.not_lt.mp hgt)
        exact (Nat.sub_eq_zero_of_le this).symm
    generalize fw.executor.executionDeadlineUs.toNat - now.toNat = left at hle hremaining ⊢
    rw [UInt64.toNat_toUInt32, UInt64.toNat_div, UInt64.toNat_add, hremaining, hrounding,
      hthousand, Nat.mod_eq_of_lt (show left + 999 < 2 ^ 64 by omega)]
    exact Nat.mod_eq_of_lt (by omega)

/-- **A timeout reply** that is `OK` carries the limit and the deadline after the request. -/
theorem handleTimeoutRequest_ok {env : Env} {fw : Firmware} {request reply : Message}
    (h : (handleTimeoutRequest env request fw).1 = some reply)
    (hok : reply.status = HostStatus.ok.code) :
    reply = Message.reply typeWorkloadTimeoutResult request .ok 52
      (timeoutPayload (handleTimeoutRequest env request fw).2.manager
        (handleTimeoutRequest env request fw).2.executor (env.timeUs fw.machine.board.reads)) ∧
    (request.word 0 = workloadTimeoutSet →
      (handleTimeoutRequest env request fw).2.executor.timeoutMs = request.word 4) := by
  unfold handleTimeoutRequest workloadExecutorTimeoutRequest timeUs64 at h ⊢
  simp only at h ⊢
  split_ifs at h ⊢ with htype hversion hlength hvalue hprepared hset
  · exact absurd h (reply_ne_of_ok hok (by decide))
  · exact absurd h (reply_ne_of_ok hok (by decide))
  · exact absurd h (reply_ne_of_ok hok (by decide))
  · exact absurd h (reply_ne_of_ok hok (by decide))
  · exact ⟨(Option.some.inj h).symm, fun _ => rfl⟩
  · exact ⟨(Option.some.inj h).symm, fun hc => absurd hc hset⟩

end Rp86
