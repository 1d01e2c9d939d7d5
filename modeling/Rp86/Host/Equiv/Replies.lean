import Rp86.Host.Equiv.Core
import Rp86.Host.Replies
import Rp86.Runtime.Equiv.Snapshot

/-!
# Replies of the device and decoders of the Host

`replies_agree`: the decoders of `Rp86.Host.Replies` accept every reply that the firmware sends with
status `OK`, in every state that it can reach, and return the values of the firmware.  The decoders
check relations between the fields that the firmware never checks; they are the invariants
`DeadlineInv`, `ReportInv` and `Agrees` of every run.
-/

namespace Rp86.Host

open Lib

/-! ### Timeout -/

def timeoutStatus (fw : Firmware) (now : UInt64) : WorkloadTimeout where
  timeoutMs := fw.executor.timeoutMs.toNat
  remainingMs := fw.executor.remainingMs now
  workloadId := fw.manager.workloadId.toNat
  bootId := fw.executor.diagnosticBootId.toNat
  armed := if fw.executor.executionDeadlineUs ≠ 0 then 1 else 0

variable {env : Env} {fw : Firmware} {request : Message}

/-- A deadline is only set for an attempt of a verified workload under a limit. -/
theorem armed_fields (hagrees : Agrees fw) (hdeadline : DeadlineInv env fw)
    (hreport : ReportInv env fw) (hid : fw.manager.state = .running → fw.manager.workloadId ≠ 0)
    (harmed : fw.executor.executionDeadlineUs ≠ 0) :
    fw.executor.timeoutMs ≠ 0 ∧ fw.manager.workloadId ≠ 0 ∧ fw.executor.diagnosticBootId ≠ 0 := by
  rw [hdeadline.deadline, Executor.deadline] at harmed
  split_ifs at harmed with hsupervised
  · obtain ⟨htimeout, hactive, hidle⟩ := hsupervised
    refine ⟨htimeout, hid ?_, hreport.bootId hactive⟩
    refine (hagrees.active hactive).resolve_right fun hcompleted => ?_
    rw [hagrees.idle.mpr hcompleted] at hidle
    exact absurd hidle (by decide)
  · exact absurd rfl harmed

theorem timeoutStatus_consistent {now : UInt64} (hagrees : Agrees fw)
    (hdeadline : DeadlineInv env fw) (hreport : ReportInv env fw)
    (hid : fw.manager.state = .running → fw.manager.workloadId ≠ 0)
    (hnow : fw.executor.active = true → fw.executor.executionStartedUs ≤ now) :
    ¬ (timeoutStatus fw now).Inconsistent := by
  have hle := hdeadline.remainingMs_le hnow
  have hmax := UInt32.le_iff_toNat_le.mp hdeadline.timeoutMs_le
  have harmed := armed_fields hagrees hdeadline hreport hid
  have hmax' : Rp86.workloadTimeoutMaxMs.toNat = 86400000 := rfl
  have hmax'' : workloadTimeoutMaxMs = 86400000 := rfl
  simp only [← UInt32.toNat_inj, ne_eq] at harmed
  have hzero : (0 : UInt32).toNat = 0 := rfl
  unfold WorkloadTimeout.Inconsistent timeoutStatus
  simp only
  split_ifs with hset
  · obtain ⟨ht, hw, hb⟩ := harmed hset
    omega
  · have hremaining : fw.executor.remainingMs now = 0 := by
      have hz : (0 : UInt64).toNat = 0 := rfl
      unfold Executor.remainingMs
      rw [not_not.mp hset]
      omega
    omega

theorem fromReply_timeout {now : UInt64} {m : Rp86.Message}
    (htype : m.type = Rp86.typeWorkloadTimeoutResult)
    (hsequence : (m.sequence.toNat : ℤ) = request.sequence) (hok : m.status = HostStatus.ok.code)
    (hlength : m.length = 52) (hsnapshot : TimeoutSnapshot m.payload fw now)
    (hconsistent : ¬ (timeoutStatus fw now).Inconsistent) (hpayload : request.payload.length = 8)
    (hset : unpack32 request.payload 0 = workloadTimeoutSet →
      unpack32 request.payload 4 = fw.executor.timeoutMs.toNat) :
    WorkloadTimeout.fromReply (ofDevice m) request = .ok (timeoutStatus fw now) := by
  have hstatus : ({ timeoutMs := unpack32 (ofDevice m).payload 0
                    remainingMs := unpack32 (ofDevice m).payload 4
                    workloadId := unpack32 (ofDevice m).payload 8
                    bootId := unpack32 (ofDevice m).payload 12
                    armed := unpack32 (ofDevice m).payload 16 } : WorkloadTimeout)
      = timeoutStatus fw now := by
    rw [ofDevice_payload hlength]
    simp only [unpack32, timeoutStatus, hsnapshot.timeoutMs, hsnapshot.remainingMs,
      hsnapshot.workloadId, hsnapshot.bootId, hsnapshot.armed, WorkloadTimeout.mk.injEq, true_and]
    split_ifs <;> rfl
  unfold WorkloadTimeout.fromReply
  simp only [check_eq_ok, hstatus]
  refine ⟨not_or.mpr ⟨not_not.mpr ?_, not_not.mpr hsequence⟩, not_not.mpr ?_, not_not.mpr ?_, ?_,
    hconsistent, not_not.mpr hpayload, ?_, rfl⟩
  · exact congrArg (fun t : UInt8 => (t.toNat : ℤ)) htype
  · exact congrArg (fun t : UInt16 => (t.toNat : ℤ)) hok
  · rw [ofDevice_payload hlength, m.length_payload]
    rfl
  · rintro ⟨i, -, hi⟩
    rw [ofDevice_payload hlength] at hi
    rw [unpack32, le32_eq_zero hsnapshot.reserved (4 * i)] at hi
    exact hi rfl
  · rintro ⟨hop, hvalue⟩
    refine hvalue ?_
    rw [ofDevice_payload hlength, hset hop, unpack32, hsnapshot.timeoutMs]

/-! ### Diagnostics -/

def busDiagnostics (fw : Firmware) : BusDiagnostics where
  workloadId := fw.executor.diagnosticWorkloadId.toNat
  bootId := fw.executor.diagnosticBootId.toNat
  lifecycle := fw.manager.state.code.toNat
  completionReason := fw.executor.completionReason.code.toNat
  cycles := fw.executor.busStats.cycles.toNat
  lastAddress := if fw.executor.busStats.firstCycleSeen then
    fw.executor.busStats.lastAddress.toNat else 0
  lastData := if fw.executor.busStats.firstCycleSeen && fw.executor.busStats.lastDataValid then
    fw.executor.busStats.lastData.toNat else 0
  cycleType := if fw.executor.busStats.firstCycleSeen then
    fw.executor.busStats.lastType.code.toNat else 0
  lanes := if fw.executor.busStats.firstCycleSeen then
    fw.executor.busStats.lastLanes.code.toNat else 0
  flags := fw.executor.busStats.diagnosticsFlags.toNat

/-- The bits of the flags that the Host tests. -/
theorem diagnosticsFlags_bits (stats : ClockSteppedStats) :
    stats.diagnosticsFlags &&& ~~~ 0xFF = 0 ∧
      (stats.diagnosticsFlags &&& 1 ≠ 0 ↔ stats.firstCycleSeen = true) ∧
      (stats.diagnosticsFlags &&& 2 ≠ 0 ↔
        (stats.firstCycleSeen && stats.lastDataValid) = true) := by
  unfold ClockSteppedStats.diagnosticsFlags
  generalize stats.firstCycleSeen = seen
  generalize stats.lastDataValid = valid
  generalize stats.noCycle = none
  generalize stats.unmapped = unmapped
  generalize stats.invalidLane = lane
  generalize stats.padMismatch = pad
  generalize stats.clockFailure = clock
  generalize stats.interruptAck = ack
  clear stats
  revert seen valid none unmapped lane pad clock ack
  decide +kernel

theorem busDiagnostics_has {fw : Firmware} {flag : UInt32} {f : ℤ} (hf : f = flag.toNat) :
    (busDiagnostics fw).has f = true ↔ fw.executor.busStats.diagnosticsFlags &&& flag ≠ 0 := by
  rw [hf, BusDiagnostics.has, decide_eq_true_eq]
  exact land_toNat_ne_zero

theorem busDiagnostics_has_lnot : (busDiagnostics fw).has (Int.lnot 0xFF) = false := by
  have hbits := (diagnosticsFlags_bits fw.executor.busStats).1
  rw [Bool.eq_false_iff, ne_eq, BusDiagnostics.has, decide_eq_true_eq]
  exact fun h => (@land_lnot_toNat_ne_zero _ 0xFF).mp h hbits

/-- Data are only valid with their cycle. -/
theorem busDiagnostics_dataValid (h : (busDiagnostics fw).has diagnosticsDataValid = true) :
    (busDiagnostics fw).has diagnosticsCycleValid = true := by
  obtain ⟨-, hcycle, hdata⟩ := diagnosticsFlags_bits fw.executor.busStats
  have hseen := hdata.mp ((@busDiagnostics_has fw 2 diagnosticsDataValid rfl).mp h)
  exact (@busDiagnostics_has fw 1 diagnosticsCycleValid rfl).mpr
    (hcycle.mpr (Bool.and_eq_true_iff.mp hseen).1)

structure BusDiagnostics.InRange (d : BusDiagnostics) : Prop where
  lifecycle : d.lifecycle ∈ ([4, 5, 6, 7] : List ℤ)
  completionReason : d.completionReason ∈ completionReasons
  cycleType : d.cycleType ∈ cycleNames
  lastAddress : d.lastAddress ≤ 0xFFFFF
  lanes : d.lanes ≤ 3
  lastData : d.lastData ≤ 0xFFFF

theorem busDiagnostics_inRange (hreport : ReportInv env fw) (hdiagnosable : fw.Diagnosable) :
    (busDiagnostics fw).InRange := by
  constructor
  · have hstate := hdiagnosable.lifecycle
    show (fw.manager.state.code.toNat : ℤ) ∈ ([4, 5, 6, 7] : List ℤ)
    generalize fw.manager.state = state at hstate
    revert state
    decide
  · show (fw.executor.completionReason.code.toNat : ℤ) ∈ completionReasons
    cases fw.executor.completionReason <;> decide
  · simp only [busDiagnostics]
    split_ifs
    · cases fw.executor.busStats.lastType <;> decide
    · decide
  · have haddress := hreport.lastAddress
    simp only [busDiagnostics]
    split_ifs
    · omega
    · decide
  · simp only [busDiagnostics]
    split_ifs
    · cases fw.executor.busStats.lastLanes <;> decide
    · decide
  · have hdata := fw.executor.busStats.lastData.toNat_lt
    simp only [busDiagnostics]
    split_ifs
    · omega
    · decide

theorem fromReply_diagnostics {m : Rp86.Message} (hreport : ReportInv env fw)
    (hdiagnosable : fw.Diagnosable) (htype : m.type = Rp86.typeDiagnosticsResult)
    (hsequence : (m.sequence.toNat : ℤ) = request.sequence) (hok : m.status = HostStatus.ok.code)
    (hlength : m.length = 52) (hsnapshot : DiagnosticsSnapshot m.payload fw)
    (hpayload : request.payload.length = 4)
    (hexpected : unpack32 request.payload 0 = 0 ∨
      unpack32 request.payload 0 = fw.executor.diagnosticWorkloadId.toNat) :
    BusDiagnostics.fromReply (ofDevice m) request = .ok (busDiagnostics fw) := by
  have hfields : ({ workloadId := unpack32 (ofDevice m).payload 0
                    bootId := unpack32 (ofDevice m).payload 4
                    lifecycle := unpack32 (ofDevice m).payload 8
                    completionReason := unpack32 (ofDevice m).payload 12
                    cycles := unpack32 (ofDevice m).payload 16
                    lastAddress := unpack32 (ofDevice m).payload 20
                    lastData := unpack32 (ofDevice m).payload 24
                    cycleType := unpack32 (ofDevice m).payload 28
                    lanes := unpack32 (ofDevice m).payload 32
                    flags := unpack32 (ofDevice m).payload 36 } : BusDiagnostics)
      = busDiagnostics fw := by
    rw [ofDevice_payload hlength]
    simp only [unpack32, busDiagnostics, hsnapshot.workloadId, hsnapshot.bootId,
      hsnapshot.lifecycle, hsnapshot.completionReason, hsnapshot.cycles, hsnapshot.lastAddress,
      hsnapshot.lastData, hsnapshot.lastType, hsnapshot.lastLanes, hsnapshot.flags,
      BusDiagnostics.mk.injEq, true_and, and_true]
    refine ⟨?_, ?_, ?_, ?_⟩ <;> split_ifs <;> rfl
  have hrange := busDiagnostics_inRange hreport hdiagnosable
  have hid : (busDiagnostics fw).workloadId ≠ 0 := fun hz =>
    hdiagnosable.workloadId (UInt32.toNat_inj.mp (Int.ofNat_inj.mp hz))
  have hexpected : unpack32 request.payload 0 = 0 ∨
    unpack32 request.payload 0 = (busDiagnostics fw).workloadId := hexpected
  have hlnot := @busDiagnostics_has_lnot fw
  have hdataValid := @busDiagnostics_dataValid fw
  -- from here on the diagnostics are the fields of the reply
  generalize busDiagnostics fw = d at *
  subst hfields
  unfold BusDiagnostics.fromReply
  simp only [check_eq_ok]
  -- the checks of the header, the reserved words, the request and the ranges
  refine ⟨not_or.mpr ⟨not_not.mpr ?_, not_not.mpr hsequence⟩, not_not.mpr ?_, not_not.mpr ?_, ?_,
    not_not.mpr hpayload, ?_, not_not.mpr hrange.lifecycle,
    not_or.mpr ⟨not_not.mpr hrange.completionReason, Bool.eq_false_iff.mp hlnot⟩, ?_⟩
  · exact congrArg (fun t : UInt8 => (t.toNat : ℤ)) htype
  · exact congrArg (fun t : UInt16 => (t.toNat : ℤ)) hok
  · rw [ofDevice_payload hlength, m.length_payload]
    rfl
  · rintro ⟨i, -, hi⟩
    rw [ofDevice_payload hlength] at hi
    rw [unpack32, le32_eq_zero hsnapshot.reserved (4 * i)] at hi
    exact hi rfl
  · rintro (hz | ⟨hne, hmismatch⟩)
    · exact hid hz
    · exact hmismatch (hexpected.resolve_left hne).symm
  -- a cycle that is reported has its fields in range, and data come with a cycle
  · rw [if_neg (Int.not_lt.mpr hrange.lastData)]
    split_ifs with hcycle hbad hdv
    · rcases hbad with hbad | hbad | hbad
      · exact absurd hrange.cycleType hbad
      · exact absurd hrange.lastAddress (Int.not_le.mpr hbad)
      · exact absurd hrange.lanes (Int.not_le.mpr hbad)
    · rfl
    · exact absurd (hdataValid hdv) hcycle
    · rfl

/-! ### Status -/

def structuredStatus (fw : Firmware) : StructuredStatus where
  workloadId := fw.manager.workloadId.toNat
  state := fw.manager.state.code.toNat
  received := fw.manager.received.toNat
  clockMode := (physicalWorkloadClockMode fw.machine.board).code.toNat
  cycles := fw.executor.busStats.cycles.toNat
  processorFlags := fw.processorFlags.toNat
  resultFlags := fw.resultFlags.toNat
  completionReason := fw.executor.completionReason.code.toNat
  signature := fw.machine.prepared.processorSignature.toNat
  output := fw.executor.io.output.nativeOutput
  structured := true

theorem decodeStructuredStatus_snapshot {payload : List UInt8} (hsnapshot : Snapshot payload fw)
    (hlength : payload.length = 52)
    (houtput : fw.executor.io.output.nativeOutput.length ≤ workloadResultTextBytes) :
    decodeStructuredStatusPayload payload = .ok (structuredStatus fw) := by
  have h16 : workloadResultTextBytes = 16 := rfl
  have htext : ((payload.drop 36).take 16).length = 16 := by
    rw [List.length_take, List.length_drop, hlength]
    rfl
  unfold decodeStructuredStatusPayload
  simp only [check_eq_ok]
  refine ⟨not_not.mpr hlength, ?_, ?_⟩
  · rw [htext, hsnapshot.nativeOutputLength]
    omega
  · have htake : ((payload.drop 36).take 16).take (le16 payload 34).toNat
        = fw.executor.io.output.nativeOutput := by
      rw [List.take_take, hsnapshot.nativeOutputLength, Nat.min_eq_left (by omega)]
      exact hsnapshot.nativeOutput
    rw [htake]
    simp only [unpack32, hsnapshot.workloadId, hsnapshot.state, hsnapshot.received,
      hsnapshot.clockMode, hsnapshot.cycles, hsnapshot.processorFlags, hsnapshot.resultFlags,
      hsnapshot.completionReason, hsnapshot.processorSignature]
    rfl

/-! ### Replies -/

theorem timeoutRequest_eq_ok {timeoutMs : Option ℤ} {sequence : ℤ}
    (h : timeoutRequest timeoutMs sequence = .ok request) :
    ∃ payload : List UInt8, payload.length = 8 ∧ request =
      { messageType := typeWorkloadTimeoutRequest, sequence := sequence, payload := payload } := by
  unfold timeoutRequest at h
  simp only [check_eq_ok, bind_eq_ok, structPack_eq_ok_iff] at h
  obtain ⟨-, payload, ⟨-, hpayload⟩, hrequest⟩ := h
  refine ⟨payload, ?_, (Except.ok.inj hrequest).symm⟩
  rw [hpayload]
  simp [IntField.bytes]

theorem diagnosticsRequest_eq_ok {workloadId sequence : ℤ}
    (h : diagnosticsRequest workloadId sequence = .ok request) :
    ∃ payload : List UInt8, payload.length = 4 ∧ request =
      { messageType := typeDiagnosticsRequest, sequence := sequence, payload := payload } := by
  unfold diagnosticsRequest at h
  simp only [bind_eq_ok, structPack_eq_ok_iff] at h
  obtain ⟨payload, ⟨-, hpayload⟩, hrequest⟩ := h
  refine ⟨payload, ?_, (Except.ok.inj hrequest).symm⟩
  rw [hpayload]
  simp [IntField.bytes]

section

variable {env : Env} {fw : Firmware} {record : Record} {reply : Rp86.Message} {request : Message}

/-- A timeout reply of a firmware in a state with its invariants. -/
theorem timeout_reply_agrees (hagrees : Agrees fw) (hdeadline : DeadlineInv env fw)
    (hreport : ReportInv env fw) (hid : fw.manager.state = .running → fw.manager.workloadId ≠ 0)
    (hclock : ∀ m n, m ≤ n → n ≤ fw.machine.board.reads → env.timeUs m ≤ env.timeUs n)
    (hreply : firmwareReply env fw (.record record) = some reply)
    (hok : reply.status = HostStatus.ok.code) {timeoutMs : Option ℤ} {sequence : ℤ}
    (hrequest : timeoutRequest timeoutMs sequence = .ok request)
    (hencode : request.encode = .ok record.bytes) :
    ∃ message, Message.decode reply.toRecord.bytes = .ok message ∧
      WorkloadTimeout.fromReply message request = .ok (timeoutStatus
        (firmwareAct env fw (.record record)) (env.timeUs fw.machine.board.reads)) ∧
      ¬ (timeoutStatus (firmwareAct env fw (.record record))
        (env.timeUs fw.machine.board.reads)).Inconsistent := by
  obtain ⟨payload, hlength, rfl⟩ := timeoutRequest_eq_ok hrequest
  obtain ⟨hrecord, hsequence⟩ := ofRecord_of_encode hencode
  have htype : (Message.ofRecord record).type = Rp86.typeWorkloadTimeoutRequest := by
    rw [hrecord]
    rfl
  have htake : takeNonControlRecord env (Message.ofRecord record) fw
      = (false, handleTimeoutRequest env (Message.ofRecord record) fw) := by
    rw [takeNonControlRecord, if_pos htype]
  simp only [firmwareReply, firmwareAct, htake] at hreply ⊢
  obtain ⟨rfl, hset⟩ := handleTimeoutRequest_ok hreply hok
  -- the invariants hold behind the request as well, and the reply is made there
  have hstep := @RecordStep.timeout env fw (Message.ofRecord record)
  have hagrees' := hstep.agrees hagrees
  have hdeadline' := hstep.deadline hagrees hdeadline
  have hreport' := (hstep.report hagrees).inv hreport
  have hreads : (handleTimeoutRequest env (Message.ofRecord record) fw).2.machine.board.reads
      ≤ fw.machine.board.reads + 1 := by
    obtain ⟨x, b, heq, hb, -⟩ := handleTimeoutRequest_cases env (Message.ofRecord record) fw
    rw [heq]
    rcases hb with rfl | rfl
    · exact Nat.le_succ _
    · exact Nat.le_refl _
  have hid' : (handleTimeoutRequest env (Message.ofRecord record) fw).2.manager.state = .running →
      (handleTimeoutRequest env (Message.ofRecord record) fw).2.manager.workloadId ≠ 0 := hid
  generalize (handleTimeoutRequest env (Message.ofRecord record) fw).2 = fw' at *
  have hnow : fw'.executor.active = true →
      fw'.executor.executionStartedUs ≤ env.timeUs fw.machine.board.reads := fun hactive => by
    obtain ⟨n, hn, hstarted⟩ := hreport'.started hactive
    rw [hstarted]
    exact hclock n _ (by omega) (Nat.le_refl _)
  have hconsistent := timeoutStatus_consistent hagrees' hdeadline' hreport' hid' hnow
  have hpayload : payload.length ≤ payloadSize := by
    rw [hlength]
    decide
  refine ⟨_, decode_toRecord rfl (show (52 : UInt16).toNat ≤ 52 by decide),
    fromReply_timeout rfl hsequence rfl rfl
    (timeoutSnapshot_reply (hdeadline'.remainingMs_le hnow) _) hconsistent hlength fun hop => ?_,
    hconsistent⟩
  -- a SET is answered with the timeout that it has set
  have hvalue := hset (by
    rw [hrecord, Rp86.Message.request_word hpayload (by omega)]
    exact UInt32.toNat_inj.mp (Int.ofNat_inj.mp hop))
  rw [hvalue, hrecord, Rp86.Message.request_word hpayload (by omega)]
  rfl

theorem diagnostics_reply_agrees (hreport : ReportInv env fw)
    (hreply : firmwareReply env fw (.record record) = some reply)
    (hok : reply.status = HostStatus.ok.code) {workloadId sequence : ℤ}
    (hrequest : diagnosticsRequest workloadId sequence = .ok request)
    (hencode : request.encode = .ok record.bytes) :
    ∃ message, Message.decode reply.toRecord.bytes = .ok message ∧
      BusDiagnostics.fromReply message request
        = .ok (busDiagnostics (firmwareAct env fw (.record record))) := by
  obtain ⟨payload, hlength, rfl⟩ := diagnosticsRequest_eq_ok hrequest
  obtain ⟨hrecord, hsequence⟩ := ofRecord_of_encode hencode
  have htype : (Message.ofRecord record).type = Rp86.typeDiagnosticsRequest := by
    rw [hrecord]
    rfl
  have htake : takeNonControlRecord env (Message.ofRecord record) fw
      = (false, workloadExecutorDiagnostics fw.manager fw.executor (Message.ofRecord record),
          fw) := by
    rw [takeNonControlRecord, if_neg (by rw [htype]; decide), if_pos htype]
  simp only [firmwareReply, firmwareAct, htake] at hreply ⊢
  obtain ⟨hdiagnosable, hexpected, rfl⟩ := workloadExecutorDiagnostics_ok hreply hok
  have hpayload : payload.length ≤ payloadSize := by
    rw [hlength]
    decide
  refine ⟨_, decode_toRecord rfl (show (52 : UInt16).toNat ≤ 52 by decide),
    fromReply_diagnostics hreport hdiagnosable rfl hsequence rfl rfl
      (diagnosticsSnapshot_reply fw _) hlength ?_⟩
  rw [hrecord, Rp86.Message.request_word hpayload (by omega), ← hdiagnosable.current] at hexpected
  rcases hexpected with hz | heq
  · exact Or.inl (by rw [unpack32, hz]; rfl)
  · exact Or.inr (by rw [unpack32, heq])

theorem workload_reply_agrees (hagrees : Agrees fw) (hreport : ReportInv env fw)
    (htype : Rp86.isWorkloadType (Message.ofRecord record).type = true)
    (hreply : firmwareReply env fw (.record record) = some reply) :
    ∃ message, Message.decode reply.toRecord.bytes = .ok message ∧
      decodeStructuredStatusPayload message.payload
        = .ok (structuredStatus (firmwareAct env fw (.record record))) ∧
      (structuredStatus (firmwareAct env fw (.record record))).output.length ≤ 16 := by
  simp only [firmwareReply, firmwareAct, takeNonControlRecord_workload htype] at hreply ⊢
  split_ifs at hreply ⊢
  obtain rfl := Option.some.inj hreply
  have houtput := (((handleWorkloadRecord_step env (Message.ofRecord record) fw).report hagrees).inv
    hreport).length_nativeOutput
  have hlength : (handleWorkloadRecord env (Message.ofRecord record) fw).1.length = 52 := rfl
  refine ⟨_, decode_toRecord rfl (by rw [hlength]; decide), ?_, houtput⟩
  rw [ofDevice_payload hlength]
  refine decodeStructuredStatus_snapshot (snapshot_handleWorkloadRecord hagrees hreport _) ?_
    houtput
  exact Rp86.Message.length_payload _

end

/-- **Device and Host agree on replies.**  In every state that a run of the firmware reaches on a
clock that has not run backwards, the Host accepts every timeout reply with status `OK` to a request
of `timeout_request`, every diagnostics reply with status `OK` to a request of
`diagnostics_request`, and every workload reply; and it decodes them to the values that the firmware
holds after the record. -/
theorem replies_agree (env : Env) (machine : Machine) (actions : List FirmwareAction)
    (record : Record) (reply : Rp86.Message)
    (hclock : ∀ m n, m ≤ n → n ≤ (firmwareRun env machine actions).machine.board.reads →
      env.timeUs m ≤ env.timeUs n)
    (hreply : firmwareReply env (firmwareRun env machine actions) (.record record) = some reply) :
    let fw := firmwareRun env machine actions
    let fw' := firmwareAct env fw (.record record)
    (∀ timeoutMs sequence request, timeoutRequest timeoutMs sequence = .ok request →
      request.encode = .ok record.bytes → reply.status = HostStatus.ok.code →
      ∃ message, Message.decode reply.toRecord.bytes = .ok message ∧
        WorkloadTimeout.fromReply message request
          = .ok (timeoutStatus fw' (env.timeUs fw.machine.board.reads)) ∧
        ¬ (timeoutStatus fw' (env.timeUs fw.machine.board.reads)).Inconsistent) ∧
    (∀ workloadId sequence request, diagnosticsRequest workloadId sequence = .ok request →
      request.encode = .ok record.bytes → reply.status = HostStatus.ok.code →
      ∃ message, Message.decode reply.toRecord.bytes = .ok message ∧
        BusDiagnostics.fromReply message request = .ok (busDiagnostics fw') ∧
        ((busDiagnostics fw').has diagnosticsDataValid = true →
          (busDiagnostics fw').has diagnosticsCycleValid = true)) ∧
    (Rp86.isWorkloadType (Message.ofRecord record).type = true →
      ∃ message, Message.decode reply.toRecord.bytes = .ok message ∧
        decodeStructuredStatusPayload message.payload = .ok (structuredStatus fw') ∧
        (structuredStatus fw').output.length ≤ 16) := by
  intro fw fw'
  have hagrees := firmwareRun_agrees env machine actions
  have hdeadline := firmwareRun_deadline env machine actions
  have hreport := firmwareRun_reportInv env machine actions
  have hid : fw.manager.state = .running → fw.manager.workloadId ≠ 0 := fun hrunning =>
    (@firmwareRun_verified env machine actions (by rw [hrunning]; rfl)).1
  refine ⟨fun timeoutMs sequence request hrequest hencode hok => ?_,
    fun workloadId sequence request hrequest hencode hok => ?_, fun htype => ?_⟩
  · exact timeout_reply_agrees hagrees hdeadline hreport hid hclock hreply hok hrequest hencode
  · obtain ⟨message, hdecode, hfields⟩ :=
      diagnostics_reply_agrees hreport hreply hok hrequest hencode
    exact ⟨message, hdecode, hfields, busDiagnostics_dataValid⟩
  · exact workload_reply_agrees hagrees hreport htype hreply

/-- A limit of one second, set while the workload runs: the Host reads back that the deadline is
armed. -/
theorem replies_agree_timeout :
    ∃ request record reply message, timeoutRequest (some 1000) 5 = .ok request ∧
      request.encode = .ok (Record.bytes record) ∧
      firmwareReply haltEnv (firmwareRun haltEnv coldMachine haltStart) (.record record)
        = some reply ∧
      Message.decode reply.toRecord.bytes = .ok message ∧
      WorkloadTimeout.fromReply message request = .ok ⟨1000, 1000, 1, 1, 1⟩ := by
  have hreads : (firmwareRun haltEnv coldMachine haltStart).machine.board.reads = 102 := by
    decide +kernel
  have hrequest : timeoutRequest (some 1000) 5 = .ok { messageType := typeWorkloadTimeoutRequest
                                                       sequence := 5
                                                       payload := [1, 0, 0, 0, 0xE8, 3, 0, 0] } :=
    rfl
  have hencode := @Message.encode_request typeWorkloadTimeoutRequest 5
    [1, 0, 0, 0, 0xE8, 3, 0, 0] (by decide) (by decide) (by decide)
  have hstatus : (firmwareReply haltEnv (firmwareRun haltEnv coldMachine haltStart)
      (.record (Rp86.Message.request 0x26 5 [1, 0, 0, 0, 0xE8, 3, 0, 0]).toRecord)).map
        Rp86.Message.status = some HostStatus.ok.code := by decide +kernel
  obtain ⟨reply, hreply, hok⟩ := Option.map_eq_some_iff.mp hstatus
  have hclock : ∀ m n, m ≤ n →
      n ≤ (firmwareRun haltEnv coldMachine haltStart).machine.board.reads →
        haltEnv.timeUs m ≤ haltEnv.timeUs n := by
    intro m n hmn hn
    rw [hreads] at hn
    show UInt64.ofNat m ≤ UInt64.ofNat n
    rw [UInt64.le_iff_toNat_le, UInt64.toNat_ofNat', UInt64.toNat_ofNat']
    omega
  have h := (replies_agree haltEnv coldMachine haltStart _ reply hclock hreply).1 (some 1000) 5 _
    hrequest hencode hok
  obtain ⟨message, hdecode, hstatus, -⟩ := h
  refine ⟨_, _, reply, message, hrequest, hencode, hreply, hdecode, hstatus.trans ?_⟩
  decide +kernel

end Rp86.Host
