import Rp86.Runtime.Equiv.LiveRound
import Rp86.Runtime.Equiv.ManagerStep
import Rp86.Runtime.Trace
import Rp86.Workload.Equiv.Lifecycle

/-!
# The firmware refines the lifecycle

Whatever the Host and the processor do, the manager inside the firmware is the manager of some
sequence of calls and outside writes (`traceRun_simulates`), with the accepted data of the trace as
the ghost bytes.  The two backings differ in their contents, since the memory service and the
processor write the one in the firmware, but they have the same geometry, which is all that the
manager's checks read.
-/

namespace Rp86

open Lib

/-! ### Geometry -/

variable {b b' : Backing} {s : Lifecycle} {fw fw' : Firmware}

/-- The manager's begin only reads the geometry of the backing. -/
theorem SameGeometry.workloadBegin (h : SameGeometry b b') (m : WorkloadManager) (t : UInt32)
    (mf : Option Manifest) : workloadBegin m b' t mf = workloadBegin m b t mf := by
  cases mf with
  | none => rfl
  | some mf => simp only [Rp86.workloadBegin, h.available, h.manifestValid]

/-- The manager's write succeeds alike on backings of one geometry. -/
theorem SameGeometry.workloadWrite (h : SameGeometry b b') {m m' : WorkloadManager} {t o : UInt32}
    {data : Option (List UInt8)} {c : Backing} (hw : workloadWrite m b t o data = some (m', c)) :
    ∃ c', workloadWrite m b' t o data = some (m', c') ∧ SameGeometry c' c := by
  obtain ⟨d, rfl, hst, rfl, rfl, hd, hlen, hb, rfl⟩ := workloadWrite_eq_some hw
  obtain ⟨hv, rfl⟩ := memoryBackingWrite_eq_some hb
  rw [← h.rangeValid] at hv
  exact ⟨_, workloadWrite_of_valid hst hd hlen hv,
    ⟨h.processorBase.symm, h.size.symm, h.available.symm⟩⟩

/-! ### The simulation -/

/-- The lifecycle `s` has the manager, the geometry and the accepted bytes of the firmware. -/
structure Simulates (s : Lifecycle) (fw : Firmware) (accepted : List UInt8) : Prop where
  manager : s.manager = fw.manager
  geometry : SameGeometry s.backing fw.backing
  accepted : s.accepted = accepted

theorem HostEvent.Neutral.accepted {event : HostEvent} (h : event.Neutral)
    (accepted : List UInt8) : event.accepted accepted = accepted := by
  rcases h with rfl | ⟨operation, rfl⟩ <;> rfl

theorem Simulates.update {accepted : List UInt8} (h : Simulates s fw accepted)
    {call : WorkloadManager → UInt32 → Option WorkloadManager} {id : UInt32}
    {manager : WorkloadManager} (hcall : call fw.manager id = some manager)
    (hm : fw'.manager = manager) (hb : SameGeometry fw.backing fw'.backing) :
    Simulates (s.update (call s.manager id)) fw' accepted := by
  rw [h.manager, hcall]
  exact ⟨hm.symm, h.geometry.trans hb, h.accepted⟩

/-- An outside write to the state of a running workload. -/
theorem Simulates.setState {accepted : List UInt8} (h : Simulates s fw accepted)
    {state : WorkloadState} (hst : fw.manager.state = .running)
    (hm : fw'.manager = { fw.manager with state := state })
    (hb : SameGeometry fw.backing fw'.backing) : Simulates (s.setState state) fw' accepted := by
  rw [Lifecycle.setState, if_pos (by rw [h.manager, hst])]
  exact ⟨by rw [hm, ← h.manager], h.geometry.trans hb, h.accepted⟩

/-- A start simulates as a call, followed by an outside write if it failed. -/
theorem Simulates.started {accepted : List UInt8} (h : Simulates s fw accepted) (op : WorkloadOp)
    {manager : WorkloadManager} {call : WorkloadManager → UInt32 → Option WorkloadManager}
    {id : UInt32} (hcall : call fw.manager id = some manager)
    (hop : lifecycleStep s op = s.update (call s.manager id)) (hrun : manager.state = .running)
    (hm : fw'.manager = manager ∨ fw'.manager = { manager with state := .faulted })
    (hb : SameGeometry fw.backing fw'.backing) :
    ∃ ops, Simulates (run lifecycleStep s ops) fw' accepted := by
  rcases hm with hm | hm
  · refine ⟨[op], ?_⟩
    rw [run_cons, run_nil, hop]
    exact h.update hcall hm hb
  · refine ⟨[op, .setFaulted], ?_⟩
    rw [run_cons, run_cons, run_nil, hop]
    have hmid : Simulates (s.update (call s.manager id)) { fw with manager := manager } accepted :=
      h.update hcall rfl (.refl _)
    exact hmid.setState hrun hm hb

theorem sameGeometry_of_init (h : b' = b ∨ sharedMailboxInit b = some b') : SameGeometry b b' := by
  rcases h with rfl | h
  · exact .refl _
  · exact sharedMailboxInit_sameGeometry h

/-- Every action is a sequence of calls and outside writes. -/
theorem ManagerStep.simulates {event : HostEvent} (hstep : ManagerStep fw event fw')
    {accepted : List UInt8} (h : Simulates s fw accepted) :
    ∃ ops, Simulates (run lifecycleStep s ops) fw' (event.accepted accepted) := by
  cases hstep with
  | same hevent hm hb hactive =>
    rw [hevent.accepted]
    exact ⟨[], h.manager.trans hm.symm, by rw [hb]; exact h.geometry, h.accepted⟩
  | begun t manifest hm hb =>
    rw [h.geometry.workloadBegin, ← h.manager] at hm
    refine ⟨[.begin t (some manifest)], ?_⟩
    rw [run_cons, run_nil, lifecycleStep, hm]
    exact ⟨rfl, by rw [hb]; exact h.geometry, rfl⟩
  -- the write is accepted by any backing of the same geometry
  | data t o d hw =>
    have hgeo : SameGeometry fw.backing s.backing :=
      ⟨h.geometry.processorBase.symm, h.geometry.size.symm, h.geometry.available.symm⟩
    obtain ⟨c, hs, hc⟩ := hgeo.workloadWrite hw
    rw [← h.manager] at hs
    refine ⟨[.write t o (some d)], ?_⟩
    rw [run_cons, run_nil, lifecycleStep, hs]
    exact ⟨rfl, hc, by rw [h.accepted]; rfl⟩
  | committed t c hm hb | rejected t c hst hm hb =>
    refine ⟨[.commit t c], ?_, by rw [hb]; exact h.geometry, h.accepted⟩
    rw [run_cons, run_nil, lifecycleStep, h.manager, hm]
  | memory request hm hb hactive =>
    have hgeo := hostServiceDispatchMemory_sameGeometry fw.manager.state fw.backing request
    rw [← hb] at hgeo
    exact ⟨[], h.manager.trans hm.symm, h.geometry.trans hgeo, h.accepted⟩
  | started id manager hevent hrun hm hb hprepared =>
    rw [hevent.accepted]
    have hst : manager.state = .running := by
      rcases hrun with hrun | hrun <;> rw [(workloadTransition_eq_some hrun).2.2]
    rcases hrun with hrun | hrun
    · exact h.started (.run id) hrun rfl hst hm (sameGeometry_of_init hb)
    · exact h.started (.restart id) hrun rfl hst hm (sameGeometry_of_init hb)
  | stopped id hevent hm hb =>
    rw [hevent.accepted]
    have hgeo : SameGeometry fw.backing fw'.backing := by
      rw [hb]
      exact .refl _
    exact ⟨[.stop id], h.update hm rfl hgeo⟩
  | service hx hst hm hb hactive =>
    -- a service step leaves the manager, completes the workload or ends it from outside
    rcases hm with hm | hm | hm | hm
    · exact ⟨[], h.manager.trans hm.symm, h.geometry.trans hb, h.accepted⟩
    · exact ⟨[.complete fw.manager.workloadId], h.update hm rfl hb⟩
    · exact ⟨[.setFaulted], h.setState hst hm hb⟩
    · exact ⟨[.setTimedOut], h.setState hst hm hb⟩

/-! ### Runs -/

variable (env : Env) (machine : Machine) (actions : List FirmwareAction)

theorem traceRun_firmware :
    (traceRun env machine actions).firmware = firmwareRun env machine actions := by
  have h : ∀ t : Trace, (run (traceStep env) t actions).firmware
      = run (firmwareStep env) t.firmware actions := by
    induction actions with
    | nil => exact fun _ => rfl
    | cons action actions ih => exact fun t => ih (traceStep env t action)
  exact h _

/-- **The firmware refines the lifecycle**: after every run the manager and the accepted data are
those of some sequence of calls and outside writes. -/
theorem traceRun_simulates :
    ∃ ops, Simulates (lifecycleRun (firmwareInit machine).backing ops)
      (traceRun env machine actions).firmware (traceRun env machine actions).accepted := by
  have hstep : ∀ (t : Trace) (action : FirmwareAction),
      (Agrees t.firmware ∧ ∃ ops, Simulates (lifecycleRun (firmwareInit machine).backing ops)
        t.firmware t.accepted) →
      (Agrees (traceStep env t action).firmware ∧
        ∃ ops, Simulates (lifecycleRun (firmwareInit machine).backing ops)
          (traceStep env t action).firmware (traceStep env t action).accepted) := by
    rintro t action ⟨hagrees, ops, hsim⟩
    have h := firmwareStep_step env t.firmware action
    obtain ⟨ops', hsim'⟩ := (h.manager hagrees).simulates hsim
    refine ⟨h.agrees hagrees, ops ++ ops', ?_⟩
    rw [lifecycleRun, run_append]
    exact hsim'
  refine (run_invariant hstep actions ?_).2
  exact ⟨firmwareRun_agrees env machine [], [], rfl, .refl _, rfl⟩

/-- The lifecycle that a trace shows. -/
def Trace.lifecycle (t : Trace) : Lifecycle where
  manager := t.firmware.manager
  backing := t.firmware.backing
  accepted := t.accepted

/-- The invariant of the lifecycle only reads the geometry of the backing. -/
theorem Simulates.inv {t : Trace} (h : Simulates s t.firmware t.accepted) (hs : s.Inv) :
    t.lifecycle.Inv := by
  obtain ⟨manager, backing, accepted⟩ := s
  obtain ⟨rfl, hgeo, rfl⟩ := h
  refine ⟨fun hst => ?_, fun hst => ?_⟩
  · have hr := hs.receiving hst
    refine ⟨?_, hr.received_eq, hr.received_le, hr.runningCrc32_eq⟩
    exact (hgeo.manifestValid _).trans hr.manifestValid
  · have hv := hs.verified hst
    refine ⟨hv.workloadId_ne_zero, ?_, hv.received_eq, hv.runningCrc32_eq, hv.imageCrc32_eq,
      hv.length_accepted⟩
    exact (hgeo.manifestValid _).trans hv.manifestValid

/-- **The invariant of the lifecycle holds after every run of the firmware.** -/
theorem traceRun_inv : (traceRun env machine actions).lifecycle.Inv := by
  obtain ⟨ops, h⟩ := traceRun_simulates env machine actions
  exact h.inv (lifecycleRun_inv _ ops)

theorem firmwareRun_sameGeometry : (firmwareRun env machine actions).backing.IsInternalSram := by
  obtain ⟨ops, h⟩ := traceRun_simulates env machine actions
  rw [traceRun_firmware] at h
  have hinit : (firmwareInit machine).backing.IsInternalSram := by
    simp only [firmwareInit]
    cases hmb : sharedMailboxInit internalSramBackingInit with
    | none => exact .refl _
    | some backing => exact sharedMailboxInit_sameGeometry hmb
  exact hinit.trans ((lifecycleRun_sameGeometry _ ops).trans h.geometry)

/-- A verified state in the firmware has a workload identifier and a valid manifest. -/
theorem firmwareRun_verified {env : Env} {machine : Machine} {actions : List FirmwareAction}
    (h : (firmwareRun env machine actions).manager.state.verified = true) :
    (firmwareRun env machine actions).manager.workloadId ≠ 0 ∧
      manifestValid (firmwareRun env machine actions).manager.manifest
        (firmwareRun env machine actions).backing = true := by
  have hinv := traceRun_inv env machine actions
  rw [← traceRun_firmware] at h ⊢
  have hv := hinv.verified h
  exact ⟨hv.workloadId_ne_zero, hv.manifestValid⟩

/-! ### Executor and lifecycle -/

/-- The halt indication of a service step finds a workload that may complete. -/
theorem workloadComplete_of_armedHalt {env : Env} {machine : Machine}
    {actions : List FirmwareAction}
    (h : serviceCycle env (firmwareRun env machine actions) = (.armedHalt, fw')) :
    (workloadComplete fw'.manager fw'.manager.workloadId).isSome = true := by
  have hagrees := firmwareRun_agrees env machine actions
  have hverified := @firmwareRun_verified env machine actions
  set fw := firmwareRun env machine actions
  -- the cycle leaves the manager alone, and only a supervised executor runs one
  have hcycle : fw'.manager = fw.manager ∧ fw.executor.Supervised := by
    cases workloadExecutorService_cycle env fw with
    | skipped hx hcycle | expired hx hexpired hcycle =>
      rw [hcycle] at h
      cases h
    | cycle completed fw₁ hx hdeadline hbus hcycle =>
      obtain ⟨-, rfl⟩ := Prod.mk.inj (hcycle.symm.trans h)
      exact ⟨(executorBusCycle_kept hbus).manager, hx⟩
  obtain ⟨hm, hx⟩ := hcycle
  have hrun := hagrees.running hx
  have hid : fw.manager.workloadId ≠ 0 := (hverified (by rw [hrun]; rfl)).1
  rw [hm]
  simp [workloadComplete, workloadTransition, workloadIdMatches, hrun, hid]

/-- **Executor and lifecycle agree** after every run: an active executor has a workload in
`RUNNING` or `COMPLETED`, the processor is idle exactly in `COMPLETED` and then the executor is
active, every other state has an inactive executor, and a service step that sees the halt
indication never has its completion rejected. -/
theorem executor_agrees (env : Env) (machine : Machine) (actions : List FirmwareAction) :
    ((firmwareRun env machine actions).executor.active = true →
      (firmwareRun env machine actions).manager.state = .running ∨
        (firmwareRun env machine actions).manager.state = .completed) ∧
    ((firmwareRun env machine actions).executor.processorIdle = true ↔
      (firmwareRun env machine actions).manager.state = .completed) ∧
    ((firmwareRun env machine actions).executor.processorIdle = true →
      (firmwareRun env machine actions).executor.active = true) ∧
    ((firmwareRun env machine actions).manager.state ∈
        ([.empty, .receiving, .staged, .stopped, .faulted, .timedOut] : List WorkloadState) →
      (firmwareRun env machine actions).executor.active = false) ∧
    (∀ fw', serviceCycle env (firmwareRun env machine actions) = (.armedHalt, fw') →
      (workloadComplete fw'.manager fw'.manager.workloadId).isSome = true) := by
  have h := firmwareRun_agrees env machine actions
  refine ⟨h.active, h.idle, h.active_of_idle, fun hst => ?_,
    fun fw' hhalt => workloadComplete_of_armedHalt hhalt⟩
  refine h.not_active (fun hc => ?_) (fun hc => ?_)
  · rw [hc] at hst
    simp at hst
  · rw [hc] at hst
    simp at hst

/-! ### A run on a scripted board -/

/-- The observer words of a live round without a payload, and the witness of the payload `go`. -/
def liveRoundWords : List UInt32 :=
  ioWriteWords ioPortResult 0 ++ irqReplyWords 7 ++ returnWords ++ ioWriteWords ioPortResult 0x6F67

/-- A board on which every wait ends in time and a microsecond passes at each read.  From read
`base` on, the pins show one sample of `samples` at each clock step, then nothing. -/
def scriptedEnv (base : ℕ) (samples : List UInt32) : Env where
  timeUs n := UInt64.ofNat n
  fifoReady _ := true
  smInit _ := true
  clkHigh _ := false
  -- a clock step reads the timer, the two FIFOs, `CLK` and then the pins
  gpioIn n := if n < base then 0 else samples.getD ((n - base) / 5) 0
  streamPrimed _ := true
  resetClocks _ := true
  livePolls _ := [(liveRoundWords, 36), (liveRoundWords, 38)]
  recordSent _ := true

/-- The processor held in reset, with nothing prepared. -/
def coldMachine : Machine where
  board :=
    { reads := 0
      intr := false
      intrRequest := false
      reset := true
      clk := .sioLow
      adRoute := .sio
      adOe := 0
      adOut := 0
      clock := ⟨.stopped, false, none, 0, 0⟩
      faulted := false
      lastStepUs := 0
      maxStepIntervalUs := 0 }
  busActive := false
  processorBootId := 0
  prepared := ⟨false, false, 0, false⟩
  calculatorOpcode := 0
  calculatorEntryLinear := 0

/-- A clock-stepped workload before its first bus cycle. -/
def steppedStart : CycleState IoState where
  stats := .zero
  ram := fun _ => 0
  context := ⟨.fresh false, false, ⟨[], [], 0⟩⟩
  board := { coldMachine.board with
    reset := false, clock := ⟨.clockStepped, true, some .clockStepped, 0, 0⟩ }

/-- The pins during a processor write of `value` to the even port `port`, on the low lane. -/
def ioWriteSamples (port value : UInt16) : List UInt32 :=
  let ad (word : UInt16) : UInt32 := dataLoLut word.toUInt8 ||| dataHiLut (word >>> 8).toUInt8
  [(1 : UInt32) <<< pinAle ||| (1 : UInt32) <<< pinBhe ||| ad port,
    (1 : UInt32) <<< pinDtr ||| (1 : UInt32) <<< pinInta ||| ad value, 0, 0]

/-- A BEGIN of `manifest` under transfer 7. -/
def beginAction (manifest : Manifest) : FirmwareAction :=
  .record (beginRequest 1 7 manifest).toRecord

/-- DATA at the start of the image under transfer 7. -/
def dataAction (data : List UInt8) : FirmwareAction :=
  .record (dataRequest 2 7 (0, data)).toRecord

/-- A COMMIT of `manifest` under transfer 7. -/
def commitAction (manifest : Manifest) : FirmwareAction :=
  .record (commitRequest 3 7 manifest.imageCrc32.toNat).toRecord

def controlAction (operation : UInt8) : FirmwareAction :=
  .record (Message.request typeWorkloadControl 4 ([operation, 0, 0, 0] ++ leBytes 4 0)).toRecord

def haltStart : List FirmwareAction :=
  [beginAction haltManifest, dataAction [0xF4], commitAction haltManifest,
    controlAction workloadControlRun]

/-- The board of a workload that announces its halt with its first bus cycle. -/
def haltEnv : Env := scriptedEnv 102 (ioWriteSamples ioPortControl controlIdlePrepare)

theorem executor_agrees_halt :
    (firmwareRun haltEnv coldMachine (haltStart ++ [.service, .service])).manager.state
        = .completed ∧
      (firmwareRun haltEnv coldMachine (haltStart ++ [.service, .service])).executor.active
        = true ∧
      ∃ fw', serviceCycle haltEnv (firmwareRun haltEnv coldMachine (haltStart ++ [.service]))
          = (.armedHalt, fw') ∧
        (workloadComplete fw'.manager fw'.manager.workloadId).isSome = true := by
  have hst : (firmwareRun haltEnv coldMachine (haltStart ++ [.service, .service])).manager.state
      = .completed := by decide +kernel
  have hhalt : (serviceCycle haltEnv (firmwareRun haltEnv coldMachine
      (haltStart ++ [.service]))).1 = .armedHalt := by decide +kernel
  have hpair : ∀ p : ServiceOutcome × Firmware, p.1 = .armedHalt → p = (.armedHalt, p.2) :=
    fun p h => by rw [← h]
  obtain ⟨-, hidle, hactive, -, -⟩ :=
    executor_agrees haltEnv coldMachine (haltStart ++ [.service, .service])
  obtain ⟨-, -, -, -, hcomplete⟩ := executor_agrees haltEnv coldMachine (haltStart ++ [.service])
  exact ⟨hst, hactive (hidle.mpr hst), _, hpair _ hhalt, hcomplete _ (hpair _ hhalt)⟩

end Rp86
