import Rp86.Workload.Equiv.Manager
import Rp86.Workload.Lifecycle

/-!
# The verified-image lifecycle

`lifecycle_verified`: after any sequence of calls and outside writes, a state in which the image may
be started carries a valid manifest whose size and checksum are those of the bytes accepted since
the last accepted begin.

The invariant is `Lifecycle.Inv`.  During an upload it ties the counter and the running checksum
to the accepted bytes (`Lifecycle.Receiving`); the length check of `rp86_workload_write` keeps
the counter at most `image_size`, so its 32-bit subtraction never wraps.
-/

namespace Rp86

open Lib

/-! ### The invariant by kind of state -/

theorem WorkloadState.verified_of_inert {st : WorkloadState} (h : st.inert = true) :
    st.verified = false := by
  cases st <;> first | rfl | cases h

variable {s : Lifecycle}

theorem Lifecycle.Inv.of_inert (h : s.manager.state.inert = true) : s.Inv := by
  refine ⟨fun hc => ?_, fun hc => ?_⟩
  · rw [hc] at h
    cases h
  · rw [WorkloadState.verified_of_inert h] at hc
    cases hc

theorem Lifecycle.Inv.of_receiving (hst : s.manager.state = .receiving) (h : s.Receiving) :
    s.Inv := by
  refine ⟨fun _ => h, fun hc => ?_⟩
  rw [hst] at hc
  cases hc

theorem Lifecycle.Inv.of_verified (hst : s.manager.state ≠ .receiving) (h : s.Verified) : s.Inv :=
  ⟨fun hc => absurd hc hst, fun _ => h⟩

/-! ### Upload steps -/

theorem Lifecycle.Inv.begin (hs : s.Inv) (t : UInt32) (mf : Option Manifest) :
    (lifecycleStep s (.begin t mf)).Inv := by
  simp only [lifecycleStep]
  cases h : workloadBegin s.manager s.backing t mf with
  | none => exact hs
  | some m' =>
    obtain ⟨mf', rfl, hv, -, -, rfl⟩ := workloadBegin_eq_some h
    exact .of_receiving rfl ⟨hv, rfl, Nat.zero_le _, crc32_nil.symm⟩

theorem Lifecycle.Inv.write (hs : s.Inv) (t o : UInt32) (data : Option (List UInt8)) :
    (lifecycleStep s (.write t o data)).Inv := by
  simp only [lifecycleStep]
  cases h : workloadWrite s.manager s.backing t o data with
  | none => exact hs
  | some p =>
    obtain ⟨m', b'⟩ := p
    obtain ⟨d, rfl, hst, -, -, -, hlen, hb, rfl⟩ := workloadWrite_eq_some h
    have hr := hs.receiving hst
    have hle : s.manager.received ≤ s.manager.manifest.imageSize := by
      rw [UInt32.le_iff_toNat_le, hr.received_eq]
      exact hr.received_le
    -- the bytes still missing, without wrap-around
    rw [UInt32.toNat_sub_of_le _ _ hle, hr.received_eq] at hlen
    have hsize := s.manager.manifest.imageSize.toNat_lt
    have hbound := hr.received_le
    refine .of_receiving hst ⟨?_, ?_, ?_, ?_⟩
    · rw [(memoryBackingWrite_sameGeometry hb).manifestValid]
      exact hr.manifestValid
    · simp only [Option.getD_some, List.length_append, UInt32.toNat_add, UInt32.toNat_ofNat',
        hr.received_eq]
      omega
    · simp only [Option.getD_some, List.length_append]
      omega
    · simp only [Option.getD_some]
      rw [hr.runningCrc32_eq, crc32Update_crc32]

theorem Lifecycle.Inv.commit (hs : s.Inv) (t c : UInt32) : (lifecycleStep s (.commit t c)).Inv := by
  simp only [lifecycleStep]
  rcases workloadCommit_cases s.manager t c with ⟨-, h⟩ | ⟨-, h⟩ | ⟨hst, -, hrec, hc, hcrc, h⟩
  · rw [h]
    exact hs
  · rw [h]
    exact .of_inert rfl
  · rw [h]
    have hr := hs.receiving hst
    exact .of_verified (by simp) {
      workloadId_ne_zero := nextWorkloadId_ne_zero _
      manifestValid := hr.manifestValid
      received_eq := hrec
      runningCrc32_eq := hcrc.trans hc
      imageCrc32_eq := by rw [← hr.runningCrc32_eq, hcrc, hc]
      length_accepted := by rw [← hr.received_eq, hrec] }

/-! ### Control steps and outside writes -/

theorem Lifecycle.Verified.setState (hs : s.Verified) (state : WorkloadState) :
    Lifecycle.Verified { s with manager := { s.manager with state := state } } :=
  ⟨hs.workloadId_ne_zero, hs.manifestValid, hs.received_eq, hs.runningCrc32_eq, hs.imageCrc32_eq,
    hs.length_accepted⟩

/-- A transition whose sources are verified states keeps the invariant. -/
theorem Lifecycle.Inv.transition (hs : s.Inv) {sources : List WorkloadState}
    {target : WorkloadState} (hsrc : ∀ st ∈ sources, st.verified = true)
    (htgt : target ≠ .receiving) (id : UInt32) :
    (s.update (workloadTransition sources target s.manager id)).Inv := by
  cases h : workloadTransition sources target s.manager id with
  | none => exact hs
  | some m' =>
    obtain ⟨-, hmem, rfl⟩ := workloadTransition_eq_some h
    exact .of_verified htgt ((hs.verified (hsrc _ hmem)).setState target)

theorem Lifecycle.Inv.setState (hs : s.Inv) {state : WorkloadState} (hinert : state.inert = true) :
    (s.setState state).Inv := by
  unfold Lifecycle.setState
  split
  · exact .of_inert hinert
  · exact hs

theorem lifecycleStep_inv (s : Lifecycle) (op : WorkloadOp) (hs : s.Inv) :
    (lifecycleStep s op).Inv := by
  cases op with
  | begin t mf => exact hs.begin t mf
  | write t o d => exact hs.write t o d
  | commit t c => exact hs.commit t c
  | run id | stop id | complete id | restart id => exact hs.transition (by decide) (by decide) id
  | discard => exact .of_inert rfl
  | setFaulted | setTimedOut => exact hs.setState rfl

theorem lifecycleStep_sameGeometry (s : Lifecycle) (op : WorkloadOp) :
    SameGeometry s.backing (lifecycleStep s op).backing := by
  cases op with
  | begin t mf =>
    simp only [lifecycleStep]
    split <;> exact .refl _
  | write t o d =>
    simp only [lifecycleStep]
    cases h : workloadWrite s.manager s.backing t o d with
    | none => exact .refl _
    | some p =>
      obtain ⟨_, _, _, _, _, _, _, hb, _⟩ := workloadWrite_eq_some h
      exact memoryBackingWrite_sameGeometry hb
  | setFaulted | setTimedOut =>
    simp only [lifecycleStep, Lifecycle.setState]
    split <;> exact .refl _
  | commit | run | stop | complete | restart | discard => exact .refl _

theorem lifecycleRun_sameGeometry (backing : Backing) (ops : List WorkloadOp) :
    SameGeometry backing (lifecycleRun backing ops).backing := by
  have hstep : ∀ (s : Lifecycle) (op : WorkloadOp), SameGeometry backing s.backing →
      SameGeometry backing (lifecycleStep s op).backing :=
    fun s op h => h.trans (lifecycleStep_sameGeometry s op)
  exact run_invariant hstep ops (SameGeometry.refl backing : SameGeometry backing
    (lifecycleInit backing).backing)

theorem lifecycleInit_inv (backing : Backing) : (lifecycleInit backing).Inv :=
  .of_inert rfl

theorem lifecycleRun_inv (backing : Backing) (ops : List WorkloadOp) :
    (lifecycleRun backing ops).Inv :=
  run_invariant lifecycleStep_inv ops (lifecycleInit_inv backing)

/-! ### Ways back to `RUNNING` -/

/-- What an operation does to the state, as far as verified images and inert states go. -/
inductive StateStep (s : Lifecycle) : WorkloadOp → WorkloadState → Prop
  | same {op : WorkloadOp} : StateStep s op s.manager.state
  | begun {t : UInt32} {mf : Option Manifest}
      (h : (workloadBegin s.manager s.backing t mf).isSome = true) :
      StateStep s (.begin t mf) .receiving
  | committed {t c : UInt32} (hst : s.manager.state = .receiving)
      (h : (workloadCommit s.manager t c).1 = true) : StateStep s (.commit t c) .staged
  | rejected {t c : UInt32} (hst : s.manager.state = .receiving) :
      StateStep s (.commit t c) .faulted
  | discarded : StateStep s .discard .empty
  | moved {op : WorkloadOp} {state : WorkloadState} (hverified : s.manager.state.verified = true)
      (hinert : ¬ s.manager.state.inert = true) : StateStep s op state

theorem StateStep.transition {op : WorkloadOp} {sources : List WorkloadState}
    {target : WorkloadState} {id : UInt32}
    (h : ∀ st ∈ sources, st.verified = true ∧ ¬ st.inert = true) :
    StateStep s op (s.update (workloadTransition sources target s.manager id)).manager.state := by
  cases htrans : workloadTransition sources target s.manager id with
  | none => exact .same
  | some m' =>
    obtain ⟨hverified, hinert⟩ := h _ (workloadTransition_eq_some htrans).2.1
    exact .moved hverified hinert

theorem StateStep.setState {op : WorkloadOp} (state : WorkloadState) :
    StateStep s op (s.setState state).manager.state := by
  unfold Lifecycle.setState
  split_ifs with hrunning
  · exact .moved (by rw [hrunning]; rfl) (by rw [hrunning]; decide)
  · exact .same

theorem lifecycleStep_state (s : Lifecycle) (op : WorkloadOp) :
    StateStep s op (lifecycleStep s op).manager.state := by
  cases op with
  | begin t mf =>
    simp only [lifecycleStep]
    cases h : workloadBegin s.manager s.backing t mf with
    | none => exact .same
    | some m' =>
      obtain ⟨_, _, _, _, _, rfl⟩ := workloadBegin_eq_some h
      exact .begun (by rw [h]; rfl)
  | write t o d =>
    simp only [lifecycleStep]
    cases h : workloadWrite s.manager s.backing t o d with
    | none => exact .same
    | some p =>
      obtain ⟨m', b'⟩ := p
      obtain ⟨_, _, hst, _, _, _, _, _, rfl⟩ := workloadWrite_eq_some h
      exact .same
  | commit t c =>
    simp only [lifecycleStep]
    rcases workloadCommit_cases s.manager t c with ⟨-, h⟩ | ⟨hst, h⟩ | ⟨hst, -, -, -, -, h⟩
    · rw [h]
      exact .same
    · rw [h]
      exact .rejected hst
    · rw [h]
      exact .committed hst (by rw [h])
  | run id | stop id | complete id | restart id => exact .transition (by decide)
  | discard => exact .discarded
  | setFaulted | setTimedOut => exact .setState _

/-- Only a successful commit makes an image verified. -/
theorem commit_of_verified {op : WorkloadOp} (hs : ¬ s.manager.state.verified = true)
    (hs' : (lifecycleStep s op).manager.state.verified = true) : s.manager.state = .receiving ∧
      ∃ t c, op = .commit t c ∧ (workloadCommit s.manager t c).1 = true := by
  have h := lifecycleStep_state s op
  generalize (lifecycleStep s op).manager.state = state at h hs'
  cases h with
  | same => exact absurd hs' hs
  | begun | rejected | discarded => cases hs'
  | committed hst h => exact ⟨hst, _, _, rfl, h⟩
  | moved hverified => exact absurd hverified hs

/-- Only an accepted begin leaves the inert states. -/
theorem begin_of_inert {op : WorkloadOp} (hs : s.manager.state.inert = true)
    (hs' : ¬ (lifecycleStep s op).manager.state.inert = true) :
    ∃ t mf, op = .begin t mf ∧ (workloadBegin s.manager s.backing t mf).isSome = true := by
  have h := lifecycleStep_state s op
  generalize (lifecycleStep s op).manager.state = state at h hs'
  cases h with
  | same => exact absurd hs hs'
  | begun h => exact ⟨_, _, rfl, h⟩
  | committed hst | rejected hst =>
    rw [hst] at hs
    cases hs
  | discarded => exact absurd rfl hs'
  | moved _ hinert => exact absurd hs hinert

/-- From an inert state a verified one is reached only through an accepted begin followed by a
successful commit. -/
theorem begin_commit_of_verified (hs : s.manager.state.inert = true) (ops : List WorkloadOp)
    (hv : (run lifecycleStep s ops).manager.state.verified = true) : ∃ ops₁ ops₂ ops₃ t mf t' c,
      ops = ops₁ ++ .begin t mf :: (ops₂ ++ .commit t' c :: ops₃) ∧
      (workloadBegin (run lifecycleStep s ops₁).manager (run lifecycleStep s ops₁).backing t
        mf).isSome = true ∧
      (workloadCommit (run lifecycleStep s (ops₁ ++ .begin t mf :: ops₂)).manager t' c).1
        = true := by
  have hnv : ¬ s.manager.state.verified = true := by
    rw [WorkloadState.verified_of_inert hs]
    decide
  obtain ⟨pre, op, post, rfl, hpre, hop⟩ :=
    exists_step_of_run (P := fun s : Lifecycle => s.manager.state.verified = true) ops hnv hv
  obtain ⟨hrec, t', c, rfl, hcommit⟩ := commit_of_verified hpre hop
  -- before the commit the manager was receiving, so an earlier step left the inert states
  have hleft : ¬ (run lifecycleStep s pre).manager.state.inert = true := by
    rw [hrec]
    decide
  obtain ⟨ops₁, op', ops₂, rfl, hin, hop'⟩ :=
    exists_step_of_run (P := fun s : Lifecycle => ¬ s.manager.state.inert = true) pre
      (not_not.mpr hs) hleft
  obtain ⟨t, mf, rfl, hbegin⟩ := begin_of_inert (not_not.mp hin) hop'
  exact ⟨ops₁, ops₂, post, t, mf, t', c, by simp, hbegin, hcommit⟩

/-! ### The lifecycle theorem -/

/-- **Verified-image lifecycle.**  After any sequence of calls and outside writes, a state in
`STAGED`, `RUNNING`, `STOPPED` or `COMPLETED` has a verified image; and between any earlier
`FAULTED` or `TIMED_OUT` and a later `RUNNING` lie an accepted begin and a successful commit. -/
theorem lifecycle_verified (backing : Backing) (ops : List WorkloadOp) :
    ((lifecycleRun backing ops).manager.state.verified = true →
      (lifecycleRun backing ops).Verified) ∧
    (∀ pre mid, ops = pre ++ mid →
      (lifecycleRun backing pre).manager.state = .faulted ∨
        (lifecycleRun backing pre).manager.state = .timedOut →
      (lifecycleRun backing ops).manager.state = .running →
      ∃ mid₁ mid₂ mid₃ t mf t' c,
        mid = mid₁ ++ .begin t mf :: (mid₂ ++ .commit t' c :: mid₃) ∧
        (workloadBegin (lifecycleRun backing (pre ++ mid₁)).manager
          (lifecycleRun backing (pre ++ mid₁)).backing t mf).isSome = true ∧
        (workloadCommit (lifecycleRun backing (pre ++ (mid₁ ++ .begin t mf :: mid₂))).manager
          t' c).1 = true) := by
  refine ⟨(lifecycleRun_inv backing ops).verified, ?_⟩
  rintro pre mid rfl hpre hrun
  have hinert : (lifecycleRun backing pre).manager.state.inert = true := by
    rcases hpre with h | h <;> rw [h] <;> rfl
  have hv : (run lifecycleStep (lifecycleRun backing pre) mid).manager.state.verified = true := by
    rw [lifecycleRun, ← run_append, ← lifecycleRun, hrun]
    rfl
  obtain ⟨mid₁, mid₂, mid₃, t, mf, t', c, rfl, hb, hc⟩ := begin_commit_of_verified hinert mid hv
  rw [lifecycleRun, ← run_append, ← lifecycleRun] at hb hc
  exact ⟨mid₁, mid₂, mid₃, t, mf, t', c, rfl, hb, hc⟩

/-- A one-byte image, `HLT`, loaded and entered at `1000:0000`. -/
def haltManifest : Manifest where
  magic := workloadMagic
  version := workloadFormatVersion
  headerSize := 40
  imageSize := 1
  imageCrc32 := 0x68D2D988
  loadAddress := 0x10000
  entrySegment := 0x1000
  entryOffset := 0
  stackSegment := 0
  stackOffset := 0
  sharedBase := 0
  sharedSize := 0
  flags := flagClockStepped

/-- The upload and the start of `haltManifest`. -/
def haltUpload : List WorkloadOp :=
  [.begin 7 (some haltManifest), .write 7 0 (some [0xF4]), .commit 7 0x68D2D988, .run 1]

theorem lifecycle_verified_haltUpload :
    (lifecycleRun internalSramBackingInit haltUpload).manager.state = .running ∧
      (lifecycleRun internalSramBackingInit haltUpload).Verified :=
  ⟨by decide +kernel, (lifecycle_verified internalSramBackingInit haltUpload).1 (by decide +kernel)⟩

end Rp86
