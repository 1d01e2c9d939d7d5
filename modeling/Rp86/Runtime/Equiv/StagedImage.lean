import Rp86.Runtime.Equiv.Lifecycle

/-!
# The staged image

The checksum of an upload is folded over the DATA records while the bytes go to a backing that the
memory service may write as well: before `RUNNING` the Host's write window is the whole backing.
`staged_image_verified`: when an action stages the image, the backing holds the accepted data and
its checksum is that of the manifest, unless a memory request has changed an image byte after it
was received.
-/

namespace Rp86

open Lib

/-- During an undisturbed upload the backing holds the accepted data. -/
def Trace.ImageHeld (t : Trace) : Prop :=
  t.firmware.manager.state = .receiving → t.disturbed = false →
    readBytes t.firmware.backing.storage
      (t.firmware.backing.offset t.firmware.manager.manifest.loadAddress) t.accepted.length
      = t.accepted

/-! ### Steps of an upload -/

/-- Accepted data goes behind the data accepted before it. -/
theorem readBytes_workloadWrite {s : Lifecycle} (hr : s.Receiving) {t o : UInt32} {d : List UInt8}
    {m' : WorkloadManager} {b' : Backing}
    (hw : workloadWrite s.manager s.backing t o (some d) = some (m', b'))
    (hheld : readBytes s.backing.storage (s.backing.offset s.manager.manifest.loadAddress)
      s.accepted.length = s.accepted) :
    readBytes b'.storage (b'.offset m'.manifest.loadAddress) (s.accepted ++ d).length
      = s.accepted ++ d := by
  obtain ⟨_, hd, -, -, rfl, -, -, hb, rfl⟩ := workloadWrite_eq_some hw
  obtain rfl := Option.some.inj hd
  have hgeo := memoryBackingWrite_sameGeometry hb
  obtain ⟨-, rfl⟩ := memoryBackingWrite_eq_some hb
  have hfits := imageFits_of_manifestValid hr.manifestValid
  obtain ⟨-, -, hrange⟩ := memoryBackingRangeValid_iff.mp hfits.rangeValid
  have hsize := s.backing.size.toNat_lt
  have hlen := hr.received_le
  have hreceived := hr.received_eq
  have hoff := @Backing.offset_add s.backing s.manager.manifest.loadAddress s.manager.received
    (by omega)
  rw [hgeo.offset, hoff, hreceived, List.length_append, readBytes_add,
    readBytes_writeBytes_of_disjoint (Or.inl (Nat.le_refl _)), readBytes_writeBytes_self, hheld]

/-- An undisturbed memory request leaves the received bytes in place. -/
theorem readBytes_of_not_overwritten {m : WorkloadManager} {b b' : Backing} {n : ℕ}
    (hst : m.state = .receiving) (hn : m.received.toNat = n) (hgeo : SameGeometry b b')
    (h : m.overwritten b b' = false) :
    readBytes b'.storage (b'.offset m.manifest.loadAddress) n
      = readBytes b.storage (b.offset m.manifest.loadAddress) n := by
  rw [hgeo.offset]
  refine readBytes_congr fun i hlo hhi => ?_
  simp only [WorkloadManager.overwritten, hst, beq_self_eq_true, Bool.true_and,
    List.any_eq_false, List.mem_range, bne_iff_ne, ne_eq, Decidable.not_not] at h
  have hi := h (i - b.offset m.manifest.loadAddress) (by omega)
  rwa [Nat.add_sub_cancel' hlo] at hi

theorem traceStep_imageHeld {env : Env} {t : Trace} (hagrees : Agrees t.firmware)
    (hinv : t.lifecycle.Inv) (action : FirmwareAction) (h : t.ImageHeld) :
    (traceStep env t action).ImageHeld := by
  intro hst hdisturbed
  have hstep := (firmwareStep_step env t.firmware action).manager hagrees
  simp only [traceStep] at hst hdisturbed ⊢
  generalize firmwareEvent env t.firmware action = event at hstep hdisturbed ⊢
  generalize firmwareStep env t.firmware action = fw' at hstep hst hdisturbed ⊢
  cases hstep with
  | same hevent hm hb hactive =>
    rw [hevent.accepted, hm, hb]
    rw [hm] at hst
    refine h hst ?_
    rcases hevent with rfl | ⟨operation, rfl⟩ <;> exact hdisturbed
  | begun t' manifest hm hb => rfl
  | data t' o d hw =>
    obtain ⟨_, _, hst', _⟩ := workloadWrite_eq_some hw
    exact readBytes_workloadWrite (hinv.receiving hst') hw (h hst' hdisturbed)
  -- an undisturbed memory request has left the received bytes alone
  | memory request hm hb hactive =>
    have hgeo :=
      hostServiceDispatchMemory_sameGeometry t.firmware.manager.state t.firmware.backing request
    rw [← hb] at hgeo
    rw [hm] at hst ⊢
    obtain ⟨hd, hover⟩ := Bool.or_eq_false_iff.mp hdisturbed
    have hr := hinv.receiving hst
    exact (readBytes_of_not_overwritten hst hr.received_eq hgeo hover).trans (h hst hd)
  -- the other steps leave `RECEIVING`
  | committed t' c hm hb =>
    rw [(workloadCommit_true hm).2] at hst
    cases hst
  | rejected t' c hrec hm hb =>
    rw [workloadCommit_false hrec hm] at hst
    cases hst
  | started id manager hevent hrun hm hb hprepared =>
    rcases started_state hrun hm with hc | hc <;> rw [hc] at hst <;> cases hst
  | stopped id hevent hm hb =>
    rw [(workloadTransition_eq_some hm).2.2] at hst
    cases hst
  | service hx hrun hm hb hactive =>
    rcases service_state hrun hm with hc | hc | hc | hc <;> rw [hc] at hst <;> cases hst

theorem traceRun_imageHeld (env : Env) (machine : Machine) (actions : List FirmwareAction) :
    (traceRun env machine actions).ImageHeld := by
  refine run_invariant_of_reached ?_ (fun actions action h => ?_) actions
  · intro hst
    cases hst
  · have hagrees := firmwareRun_agrees env machine actions
    rw [← traceRun_firmware] at hagrees
    exact traceStep_imageHeld hagrees (traceRun_inv env machine actions) action h

/-! ### The commit -/

/-- Only a commit stages an image, and it leaves the backing alone. -/
theorem ManagerStep.staged {fw fw' : Firmware} {event : HostEvent}
    (hstep : ManagerStep fw event fw') (hst : fw.manager.state ≠ .staged)
    (hst' : fw'.manager.state = .staged) :
    fw.manager.state = .receiving ∧ fw'.backing = fw.backing ∧
      fw'.manager.manifest = fw.manager.manifest ∧ event = .committed := by
  cases hstep with
  | same hevent hm hb hactive =>
    rw [hm] at hst'
    exact absurd hst' hst
  | begun t manifest hm hb =>
    obtain ⟨_, _, _, _, _, hm'⟩ := workloadBegin_eq_some hm
    rw [hm'] at hst'
    cases hst'
  | data t o d hw =>
    obtain ⟨_, _, _, _, _, _, _, _, hm'⟩ := workloadWrite_eq_some hw
    rw [hm'] at hst'
    exact absurd hst' hst
  | memory request hm hb hactive =>
    rw [hm] at hst'
    exact absurd hst' hst
  -- the only step to `STAGED`
  | committed t c hm hb =>
    obtain ⟨hrec, hm'⟩ := workloadCommit_true hm
    exact ⟨hrec, hb, by rw [hm'], rfl⟩
  | rejected t c hrec hm hb =>
    rw [workloadCommit_false hrec hm] at hst'
    cases hst'
  | started id manager hevent hrun hm hb hprepared =>
    rcases started_state hrun hm with hc | hc <;> rw [hc] at hst' <;> cases hst'
  | stopped id hevent hm hb =>
    rw [(workloadTransition_eq_some hm).2.2] at hst'
    cases hst'
  | service hx hrun hm hb hactive =>
    rcases service_state hrun hm with hc | hc | hc | hc <;> rw [hc] at hst' <;> cases hst'

/-- **Staged image integrity.**  When an action moves the manager to `STAGED`, and no memory
request since the last accepted BEGIN has changed an image byte that had already been received,
the bytes of the image in the backing are the accepted data, and their CRC-32 is that of the
manifest. -/
theorem staged_image_verified (env : Env) (machine : Machine) (actions : List FirmwareAction)
    (action : FirmwareAction)
    (hst : (firmwareRun env machine actions).manager.state ≠ .staged)
    (hstaged : (firmwareRun env machine (actions ++ [action])).manager.state = .staged)
    (hundisturbed : (traceRun env machine actions).disturbed = false) :
    ∃ image,
      memoryBackingRead (firmwareRun env machine (actions ++ [action])).backing
        (firmwareRun env machine (actions ++ [action])).manager.manifest.loadAddress
        (firmwareRun env machine (actions ++ [action])).manager.manifest.imageSize.toNat
        = some image ∧
      image = (traceRun env machine actions).accepted ∧
      crc32 image
        = (firmwareRun env machine (actions ++ [action])).manager.manifest.imageCrc32 := by
  have hrun : firmwareRun env machine (actions ++ [action])
      = firmwareStep env (firmwareRun env machine actions) action := by
    rw [firmwareRun, run_append]
    rfl
  have hstep := (firmwareStep_step env (firmwareRun env machine actions) action).manager
    (firmwareRun_agrees env machine actions)
  rw [← hrun] at hstep
  obtain ⟨hrec, hb, hmanifest, hevent⟩ := hstep.staged hst hstaged
  have hheld := traceRun_imageHeld env machine actions
  -- after the commit the accepted data are still those of the trace
  have hverified := (traceRun_inv env machine (actions ++ [action])).verified (by
    rw [Trace.lifecycle, traceRun_firmware, hstaged]
    rfl)
  have haccepted : (traceRun env machine (actions ++ [action])).accepted
      = (traceRun env machine actions).accepted := by
    rw [traceRun, run_append, run_cons, run_nil, ← traceRun, traceStep, traceRun_firmware, hevent]
    rfl
  have hvalid := hverified.manifestValid
  have hcrc := hverified.imageCrc32_eq
  have hlen := hverified.length_accepted
  simp only [Trace.lifecycle, traceRun_firmware, haccepted] at hvalid hcrc hlen
  have hread := hheld (by rw [traceRun_firmware]; exact hrec) hundisturbed
  rw [traceRun_firmware, ← hb, ← hmanifest, hlen] at hread
  refine ⟨_, ?_, rfl, hcrc.symm⟩
  rw [memoryBackingRead_of_valid (imageFits_of_manifestValid hvalid).rangeValid, hread]

def memoryWriteRecord (address : UInt32) (data : List UInt8) : Record :=
  (memoryWriteRequest 5 (address.toNat, data)).toRecord

/-- The Host writes a byte behind the image before the image has arrived, and another one after. -/
theorem staged_image_verified_halt :
    ∃ fw, fw = firmwareRun haltEnv coldMachine ([beginAction haltManifest,
        .record (memoryWriteRecord 0x10001 [0x90]), dataAction [0xF4],
        .record (memoryWriteRecord 0x20000 [0x91])] ++ [commitAction haltManifest]) ∧
      memoryBackingRead fw.backing 0x10001 1 = some [0x90] ∧
      memoryBackingRead fw.backing 0x20000 1 = some [0x91] ∧
      ∃ image, memoryBackingRead fw.backing 0x10000 1 = some image ∧ image = [0xF4] ∧
        crc32 image = 0x68D2D988 :=
  ⟨_, rfl, by decide +kernel, by decide +kernel,
    staged_image_verified haltEnv coldMachine [beginAction haltManifest,
      .record (memoryWriteRecord 0x10001 [0x90]), dataAction [0xF4],
      .record (memoryWriteRecord 0x20000 [0x91])]
      (commitAction haltManifest) (by decide +kernel) (by decide +kernel) (by decide +kernel)⟩

/-- A memory write behind the DATA record: the COMMIT stages `NOP` under the checksum of `HLT`. -/
theorem staged_image_overwritten :
    ∃ fw, fw = firmwareRun haltEnv coldMachine [beginAction haltManifest, dataAction [0xF4],
        .record (memoryWriteRecord 0x10000 [0x90]), commitAction haltManifest] ∧
      fw.manager.state = .staged ∧ fw.manager.manifest.loadAddress = 0x10000 ∧
      fw.manager.manifest.imageSize = 1 ∧
      memoryBackingRead fw.backing 0x10000 1 = some [0x90] ∧
      crc32 [0x90] ≠ fw.manager.manifest.imageCrc32 :=
  ⟨_, rfl, by decide +kernel, by decide +kernel, by decide +kernel, by decide +kernel,
    by decide +kernel⟩

end Rp86
