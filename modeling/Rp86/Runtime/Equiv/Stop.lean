import Rp86.Runtime.Equiv.Lifecycle

/-!
# Stop parks the processor

The STOP handler halts the executor if it is active, and parks the prepared calculator only if its
image is still recognised in the backing at that moment.  `firmwareRun_prepared`: a workload that
runs without the executor is always recognised, because the Host's window is the mailbox page
while it runs and the image lies outside that page.  So an accepted STOP always parks the
processor (`stop_parks`).
-/

namespace Rp86

open Lib

/-- The calculator is recognised alike in two backings that agree on the image. -/
theorem calculatorWorkloadValid_congr {m : WorkloadManager} {b b' : Backing}
    (hgeo : SameGeometry b b')
    (h : ∀ i, b.offset m.manifest.loadAddress ≤ i →
      i < b.offset m.manifest.loadAddress + m.manifest.imageSize.toNat →
      b'.storage i = b.storage i) :
    calculatorWorkloadValid m b' = calculatorWorkloadValid m b := by
  unfold calculatorWorkloadValid
  simp only
  split_ifs with hguard
  · rfl
  · simp only [not_or, ne_eq, Decidable.not_not] at hguard
    obtain ⟨-, hsize, -⟩ := hguard
    rw [hsize] at h
    have hread : memoryBackingRead b' m.manifest.loadAddress calculatorWorkloadSize.toNat
        = memoryBackingRead b m.manifest.loadAddress calculatorWorkloadSize.toNat := by
      unfold memoryBackingRead
      rw [hgeo.rangeValid, hgeo.offset, readBytes_congr h]
    rw [hread]

/-- A memory request while the workload runs leaves its image alone. -/
theorem dispatch_running_image {m : WorkloadManager} {b : Backing}
    (hvalid : manifestValid m.manifest b = true) (request : Message) (i : ℕ)
    (hlo : b.offset m.manifest.loadAddress ≤ i)
    (hhi : i < b.offset m.manifest.loadAddress + m.manifest.imageSize.toNat) :
    (hostServiceDispatchMemory .running b request).2.2.storage i = b.storage i := by
  by_contra hchanged
  obtain ⟨-, hlo', hhi'⟩ := dispatch_running_frame hchanged
  have hfits := imageFits_of_manifestValid hvalid
  have havoid := hfits.avoidsMailbox
  obtain ⟨-, hbase, -⟩ := memoryBackingRangeValid_iff.mp hfits.rangeValid
  have hoff : b.offset m.manifest.loadAddress
      = m.manifest.loadAddress.toNat - b.processorBase.toNat := UInt32.toNat_sub_of_le _ _ hbase
  have hbase' := UInt32.le_iff_toNat_le.mp hbase
  omega

/-- A workload that runs without the executor is a recognised calculator. -/
def Firmware.Prepared (fw : Firmware) : Prop :=
  fw.manager.state = .running → fw.executor.active = false →
    calculatorWorkloadValid fw.manager fw.backing = true

theorem ManagerStep.prepared {fw fw' : Firmware} {event : HostEvent}
    (hstep : ManagerStep fw event fw')
    (hvalid : fw.manager.state = .running → manifestValid fw.manager.manifest fw.backing = true)
    (h : fw.Prepared) : fw'.Prepared := by
  intro hst hinactive
  cases hstep with
  | same hevent hm hb hactive =>
    rw [hm] at hst ⊢
    rw [hb]
    exact h hst (hactive ▸ hinactive)
  | memory request hm hb hactive =>
    rw [hm] at hst ⊢
    have hgeo := hostServiceDispatchMemory_sameGeometry fw.manager.state fw.backing request
    rw [hb, calculatorWorkloadValid_congr hgeo]
    · exact h hst (hactive ▸ hinactive)
    -- the image lies outside the page that the Host may write
    · intro i hlo hhi
      rw [hst]
      exact dispatch_running_image (hvalid hst) request i hlo hhi
  | started id manager hevent hrun hm hb hprepared => exact hprepared hst hinactive
  | service hx hrun hm hb hactive =>
    exact absurd (hactive hst) (Bool.eq_false_iff.mp hinactive)
  -- no other step ends in `RUNNING`
  | begun t manifest hm hb =>
    obtain ⟨_, _, _, _, _, hm'⟩ := workloadBegin_eq_some hm
    rw [hm'] at hst
    cases hst
  | data t o d hw =>
    obtain ⟨_, _, hrec, _, _, _, _, _, hm'⟩ := workloadWrite_eq_some hw
    rw [hm', hrec] at hst
    cases hst
  | committed t c hm hb =>
    rw [(workloadCommit_true hm).2] at hst
    cases hst
  | rejected t c hrec hm hb =>
    rw [workloadCommit_false hrec hm] at hst
    cases hst
  | stopped id hevent hm hb =>
    rw [(workloadTransition_eq_some hm).2.2] at hst
    cases hst

/-- **While a workload runs without the executor, its image is recognised.** -/
theorem firmwareRun_prepared (env : Env) (machine : Machine) (actions : List FirmwareAction) :
    (firmwareRun env machine actions).Prepared := by
  refine run_invariant_of_reached ?_ (fun actions action h => ?_) actions
  · intro hst
    cases hst
  · have hstep := (firmwareStep_step env (firmwareRun env machine actions) action).manager
      (firmwareRun_agrees env machine actions)
    refine hstep.prepared (fun hst => ?_) h
    have hverified := @firmwareRun_verified env machine actions
    exact (hverified (by rw [hst]; rfl)).2

/-! ### The STOP record -/

/-- An accepted STOP is an accepted call of the STOP handler. -/
theorem RecordStep.stop_of_event {env : Env} {fw fw' : Firmware} {request : Message}
    (hstep : RecordStep env fw request (.control workloadControlStop) fw') :
    handleStop env (request.word 4) fw = (.ok, fw') := by
  have hne : ∀ {status : HostStatus} {event : HostEvent}, event ≠ .control workloadControlStop →
      status.event event ≠ .control workloadControlStop := by
    intro status event hne
    unfold HostStatus.event
    split
    · exact hne
    · exact fun h => by cases h
  generalize hevent : HostEvent.control workloadControlStop = event at hstep
  cases hstep with
  | unchanged event h => rcases h with rfl | rfl <;> cases hevent
  | begin | data | commit => exact absurd hevent.symm (hne (by simp))
  | run hcontrol hguard | restart hcontrol hguard => exact absurd hevent.symm (hne (by decide))
  | stop hcontrol =>
    refine Prod.ext ?_ rfl
    unfold HostStatus.event at hevent
    split at hevent
    · assumption
    · cases hevent
  | memory =>
    rcases handleMemoryRecord_event request fw with he | ⟨he, -⟩ <;> rw [he] at hevent <;>
      cases hevent
  | timeout | runtimeControl | live => cases hevent

theorem HandlerStep.stop_of_event {env : Env} {fw fw' : Firmware}
    (hstep : HandlerStep env fw (.control workloadControlStop) fw') :
    ∃ workloadId, handleStop env workloadId fw = (.ok, fw') := by
  cases hstep with
  | record hrecord => exact ⟨_, hrecord.stop_of_event⟩

/-- **Stop always parks the processor.**  After every run, a workload that is `RUNNING` without
the executor is a recognised calculator; and a STOP record that is answered `OK` leaves the
processor in reset, with its clock stopped low, `INTR` low, the AD pins undriven and the physical
bus inactive. -/
theorem stop_parks (env : Env) (machine : Machine) (actions : List FirmwareAction) :
    ((firmwareRun env machine actions).manager.state = .running →
      (firmwareRun env machine actions).executor.active = false →
      calculatorWorkloadValid (firmwareRun env machine actions).manager
        (firmwareRun env machine actions).backing = true) ∧
    (∀ (action : FirmwareAction) (request reply : Message),
      (firmwareRun env machine actions).halted = false →
      action.message = some request → request.type = typeWorkloadControl →
      request.payload.getD 0 0 = workloadControlStop →
      firmwareReply env (firmwareRun env machine actions) action = some reply →
      reply.status = HostStatus.ok.code →
      (firmwareRun env machine (actions ++ [action])).machine.Parked) := by
  have hprepared := firmwareRun_prepared env machine actions
  have hagrees := firmwareRun_agrees env machine actions
  refine ⟨hprepared, ?_⟩
  intro action request reply hrunning hmessage htype hoperation hreply hok
  rw [firmwareRun, run_append, run_cons, run_nil, ← firmwareRun]
  have hstep := firmwareStep_step env (firmwareRun env machine actions) action
  have hevent : firmwareEvent env (firmwareRun env machine actions) action
      = .control workloadControlStop := by
    simp only [firmwareEvent, hrunning, hmessage, hreply, hostEvent, hok,
      Message.event_of_control htype, hoperation, Bool.false_eq_true, ↓reduceIte]
  rw [hevent] at hstep
  obtain ⟨workloadId, hstop⟩ := hstep.stop_of_event
  rcases handleStop_cases env workloadId (firmwareRun env machine actions) with
    heq | ⟨hst, ⟨-, m, hstops, heq⟩ | ⟨hinactive, m, -, hpark, heq⟩⟩
  · rw [heq] at hstop
    cases hstop
  · rw [heq] at hstop
    rw [← (Prod.mk.inj hstop).2]
    exact hstops.parked
  · rw [heq] at hstop
    rw [← (Prod.mk.inj hstop).2]
    -- without the executor the workload is the running calculator
    obtain ⟨-, hsource, -⟩ := workloadTransition_eq_some hst
    simp only [List.mem_cons, List.not_mem_nil, or_false] at hsource
    rcases hsource with hrun | hcomp
    · rw [hpark (hprepared hrun hinactive)]
      exact parkPhysicalProcessor_parked env _
    · have hactive := hagrees.active_of_idle (hagrees.idle.mpr hcomp)
      rw [hinactive] at hactive
      cases hactive

theorem stop_parks_halt :
    (firmwareRun haltEnv coldMachine haltStart).executor.active = true ∧
      (firmwareRun haltEnv coldMachine
        (haltStart ++ [controlAction workloadControlStop])).machine.Parked := by
  have hreply : (firmwareReply haltEnv (firmwareRun haltEnv coldMachine haltStart)
      (controlAction workloadControlStop)).map Message.status = some HostStatus.ok.code := by
    decide +kernel
  obtain ⟨reply, hreply, hok⟩ := Option.map_eq_some_iff.mp hreply
  refine ⟨by decide +kernel, ?_⟩
  exact (stop_parks haltEnv coldMachine haltStart).2 (controlAction workloadControlStop) _ reply
    (by decide +kernel) rfl (by decide +kernel) (by decide +kernel) hreply hok

end Rp86
