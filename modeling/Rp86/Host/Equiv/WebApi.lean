import Rp86.Host.WebApi
import Rp86.Runtime.Equiv.Lifecycle

/-!
# How often a native command runs

The firmware runs a native round for every live record that it takes, and the Web sends a second
record when the first attempt fails, under no other identity than a sequence which may be the same.
So a command whose reply is late or lost runs twice (`command_runs_twice`).
-/

namespace Rp86.Host

open Lib

/-- The records of the call that may still run. -/
def CommandSystem.outstanding (s : CommandSystem) : ℕ :=
  s.queue.length + s.taken.toList.length + s.device.length

/-- The records of the call that have run or may still run. -/
def CommandSystem.total (s : CommandSystem) : ℕ := s.outstanding + s.rounds

def CommandPhase.afterFailure (attempt : ℕ) : CommandPhase :=
  if attempt = 0 then .hello 1 else .returned false

/-- The records that are left behind when the action ends the first attempt without a reply; a
failed write drops the record itself. -/
def CommandSystem.leaves (s : CommandSystem) : CommandAction → ℕ
  | .giveUp => s.total
  | .write false => if s.taken.map Prod.fst = some 0 then s.total - 1 else 0
  | .timeout => if s.awaiting = some 0 then s.total else 0
  | _ => 0

/-- The first attempt is given up while its record may still run, or has run. -/
def LeavesRecord (s : CommandSystem) (a : CommandAction) : Prop :=
  s.phase = .exchange 0 ∧ 0 < s.leaves a

instance (s : CommandSystem) (a : CommandAction) : Decidable (LeavesRecord s a) :=
  inferInstanceAs (Decidable (_ ∧ _))

/-- What a step does to the call and to its records. -/
inductive CommandEffect (s : CommandSystem) (a : CommandAction) (s' : CommandSystem) : Prop
  | keep (hphase : s'.phase = s.phase) (htotal : s'.total ≤ s.total)
  | send (attempt : ℕ) (hphase : s.phase = .hello attempt) (hphase' : s'.phase = .exchange attempt)
      (htotal : s'.total = s.total + 1)
  | unsent (attempt : ℕ) (hphase : s.phase = .hello attempt)
      (hphase' : s'.phase = .afterFailure attempt) (htotal : s'.total = s.total)
  | fail (attempt : ℕ) (hphase : s.phase = .exchange attempt)
      (hphase' : s'.phase = .afterFailure attempt) (htotal : s'.total ≤ s.total)
      (hleaves : attempt = 0 → s'.total = s.leaves a)
  | succeed (attempt : ℕ) (hphase : s.phase = .exchange attempt)
      (hphase' : s'.phase = .returned true) (htotal : s'.total ≤ s.total)

theorem total_dropped {s : CommandSystem} {request : ℕ × Record} (h : s.taken = some request) :
    { s with taken := none }.total + 1 = s.total := by
  simp only [CommandSystem.total, CommandSystem.outstanding, h, Option.toList_none,
    Option.toList_some, List.length_nil, List.length_singleton]
  omega

/-- The result of an exchange reaches the call, or it has gone on without it. -/
theorem setResult_effect {s s' : CommandSystem} {a : CommandAction} (attempt : ℕ) (ok : Bool)
    (hphase : s'.phase = s.phase) (htotal : s'.total ≤ s.total)
    (hleaves : ok = false → attempt = 0 → s'.total = s.leaves a) :
    CommandEffect s a (s'.setResult attempt ok) := by
  unfold CommandSystem.setResult
  split_ifs with hwaits hok
  · exact .succeed attempt (hphase ▸ hwaits) rfl htotal
  · exact .fail attempt (hphase ▸ hwaits) rfl htotal (hleaves (Bool.eq_false_iff.mpr hok))
  · exact .keep hphase htotal

/-- A write moves the record on to the device, or ends its attempt and drops it. -/
theorem write_effect (env : Env) (s : CommandSystem) (written : Bool) :
    CommandEffect s (.write written) (commandStep env s (.write written)) := by
  cases htaken : s.taken with
  | none =>
    simp only [commandStep, htaken]
    exact .keep rfl (Nat.le_refl _)
  | some request =>
    have hdropped := total_dropped htaken
    cases written with
    | true =>
      refine .keep (by simp only [commandStep, htaken, if_true]) (Nat.le_of_eq ?_)
      rw [← hdropped]
      simp only [commandStep, htaken, if_true, CommandSystem.total, CommandSystem.outstanding,
        List.length_append, List.length_singleton]
      omega
    | false =>
      simp only [commandStep, htaken, Bool.false_eq_true, if_false]
      refine setResult_effect request.1 false rfl (hdropped ▸ Nat.le_succ _) fun _ hzero => ?_
      simp only [CommandSystem.leaves, htaken, Option.map_some, hzero, if_true]
      exact (Nat.sub_eq_of_eq_add hdropped.symm).symm

theorem commandStep_effect (env : Env) (s : CommandSystem) (a : CommandAction) :
    CommandEffect s a (commandStep env s a) := by
  -- a link that has nothing to do leaves everything as it is
  have hidle : CommandEffect s a s := .keep rfl (Nat.le_refl _)
  obtain ⟨payload, phase, queue, taken, awaiting, device, input, firmware, rounds⟩ := s
  cases a with
  | hello snapshot =>
    cases phase with
    | exchange attempt | returned ok => exact hidle
    | hello attempt =>
      unfold commandStep
      simp only
      -- no record is built without a snapshot
      cases snapshot.bind (commandRecord payload) with
      | none => exact .unsent attempt rfl rfl rfl
      | some record =>
        refine .send attempt rfl rfl ?_
        simp only [CommandSystem.total, CommandSystem.outstanding, List.length_append,
          List.length_singleton]
        omega
  | giveUp =>
    cases phase with
    | hello attempt | returned ok => exact hidle
    -- giving up leaves the record wherever it is
    | exchange attempt => exact .fail attempt rfl rfl (Nat.le_refl _) fun _ => rfl
  | take =>
    cases taken with
    | some request => exact hidle
    | none =>
      cases awaiting with
      | some attempt => exact hidle
      | none =>
        cases queue with
        | nil => exact hidle
        | cons request queue =>
          -- the record changes hands, from the queue to the actor
          refine .keep rfl (Nat.le_of_eq ?_)
          simp [commandStep, CommandSystem.total, CommandSystem.outstanding]
  | write written => exact write_effect env _ written
  | deviceTurn =>
    cases device with
    | nil => exact hidle
    | cons record device =>
      -- the record leaves the device, with a native round or without one
      refine .keep rfl ?_
      simp only [commandStep, CommandSystem.total, CommandSystem.outstanding, List.length_cons]
      split_ifs <;> omega
  | traffic action => exact .keep rfl (Nat.le_refl _)
  | read accepted =>
    cases awaiting with
    | none => exact hidle
    | some attempt =>
      cases input with
      | nil => exact hidle
      | cons passed input =>
        unfold commandStep
        simp only
        split_ifs
        -- a reply that is taken ends the exchange with success
        · exact setResult_effect attempt true rfl (Nat.le_refl _) Bool.noConfusion
        · exact .keep rfl (Nat.le_refl _)
  | lose => exact .keep rfl (Nat.le_refl _)
  | timeout =>
    cases awaiting with
    | none => exact hidle
    | some attempt =>
      -- the record may still be with the device when the actor gives its reply up
      refine setResult_effect attempt false rfl (Nat.le_refl _) fun _ hzero => ?_
      rw [hzero]
      rfl

/-! ### Runs -/

/-- How many records the call has sent at most, one for each attempt. -/
def CommandPhase.sent : CommandPhase → ℕ
  | .hello attempt => attempt
  | .exchange attempt => attempt + 1
  | .returned _ => 2

/-- There are two attempts. -/
def CommandPhase.Valid : CommandPhase → Prop
  | .hello attempt | .exchange attempt => attempt ≤ 1
  | .returned _ => True

/-- One record for each attempt that was sent. -/
def CommandSystem.PerAttempt (s : CommandSystem) : Prop :=
  s.phase.Valid ∧ s.total ≤ s.phase.sent

/-- One record at most, and none while an attempt is about to begin. -/
def CommandSystem.Single (s : CommandSystem) : Prop :=
  s.total ≤ 1 ∧ ∀ attempt, s.phase = .hello attempt → s.total = 0

/-- A failed attempt is followed by the second, or by none. -/
theorem afterFailure_sent {attempt : ℕ} (h : attempt ≤ 1) :
    (CommandPhase.afterFailure attempt).Valid ∧
      attempt + 1 ≤ (CommandPhase.afterFailure attempt).sent := by
  unfold CommandPhase.afterFailure
  split_ifs with hzero
  · rw [hzero]
    exact ⟨Nat.le_refl 1, Nat.le_refl 1⟩
  · exact ⟨trivial, Nat.succ_le_succ h⟩

theorem perAttempt_step (env : Env) (s : CommandSystem) (a : CommandAction) (h : s.PerAttempt) :
    (commandStep env s a).PerAttempt := by
  obtain ⟨hvalid, hsent⟩ := h
  unfold CommandSystem.PerAttempt
  cases commandStep_effect env s a with
  | keep hphase htotal =>
    rw [hphase]
    exact ⟨hvalid, Nat.le_trans htotal hsent⟩
  | send attempt hphase hphase' htotal =>
    rw [hphase] at hvalid hsent
    rw [hphase', htotal]
    exact ⟨hvalid, Nat.succ_le_succ hsent⟩
  | unsent attempt hphase hphase' htotal =>
    rw [hphase] at hvalid hsent
    obtain ⟨hvalid', hle⟩ := afterFailure_sent hvalid
    rw [hphase', htotal]
    exact ⟨hvalid', Nat.le_trans hsent (Nat.le_of_succ_le hle)⟩
  | fail attempt hphase hphase' htotal hleaves =>
    rw [hphase] at hvalid hsent
    obtain ⟨hvalid', hle⟩ := afterFailure_sent hvalid
    rw [hphase']
    exact ⟨hvalid', Nat.le_trans htotal (Nat.le_trans hsent hle)⟩
  | succeed attempt hphase hphase' htotal =>
    rw [hphase] at hvalid hsent
    rw [hphase']
    exact ⟨trivial, Nat.le_trans htotal (Nat.le_trans hsent (Nat.succ_le_succ hvalid))⟩

theorem single_step (env : Env) (s : CommandSystem) (a : CommandAction)
    (ha : ¬ LeavesRecord s a) (h : s.Single) : (commandStep env s a).Single := by
  obtain ⟨htotal, hhello⟩ := h
  cases commandStep_effect env s a with
  | keep hphase hle =>
    refine ⟨Nat.le_trans hle htotal, fun attempt hattempt => ?_⟩
    exact Nat.le_zero.mp (hhello attempt (hphase ▸ hattempt) ▸ hle)
  | send attempt hphase hphase' hsucc =>
    have hzero := hhello attempt hphase
    exact ⟨by omega, fun attempt' hattempt' => by rw [hphase'] at hattempt'; cases hattempt'⟩
  | unsent attempt hphase hphase' hsame =>
    have hzero := hhello attempt hphase
    exact ⟨by omega, fun _ _ => by omega⟩
  | fail attempt hphase hphase' hle hleaves =>
    refine ⟨Nat.le_trans hle htotal, fun attempt' hattempt' => ?_⟩
    -- the call goes on to its second attempt, so the record of the first is gone
    rw [hphase', CommandPhase.afterFailure] at hattempt'
    split_ifs at hattempt' with hzero
    subst hzero
    exact Nat.eq_zero_of_not_pos fun hpos => ha ⟨hphase, hleaves rfl ▸ hpos⟩
  | succeed attempt hphase hphase' hle =>
    exact ⟨Nat.le_trans hle htotal,
      fun attempt' hattempt' => by rw [hphase'] at hattempt'; cases hattempt'⟩

theorem start_total (text : List Char) (firmware : Firmware) :
    (CommandSystem.start text firmware).total = 0 := rfl

theorem start_valid (text : List Char) (firmware : Firmware) :
    (CommandSystem.start text firmware).phase.Valid := by
  unfold CommandSystem.start
  split_ifs
  · exact trivial
  · exact Nat.zero_le 1

theorem CommandPhase.Valid.sent_le {phase : CommandPhase} (h : phase.Valid) : phase.sent ≤ 2 := by
  cases phase with
  | hello attempt => exact Nat.le_succ_of_le h
  | exchange attempt => exact Nat.succ_le_succ h
  | returned ok => exact Nat.le_refl 2

/-- **A native command runs at most once**, unless its first attempt is given up while the record of
it may still run or has run.  It never runs more often than it was attempted. -/
theorem command_at_most_once (env : Env) (text : List Char) (firmware : Firmware)
    (actions : List CommandAction) :
    let s := run (commandStep env) (.start text firmware) actions
    s.rounds ≤ 2 ∧
      (StepsMeet (commandStep env) (fun s a => ¬ LeavesRecord s a) (.start text firmware) actions →
        s.rounds ≤ 1) := by
  intro s
  have htotal := start_total text firmware
  refine ⟨?_, fun hsteps => ?_⟩
  · obtain ⟨hvalid, hsent⟩ := run_invariant (perAttempt_step env) actions
      (s := CommandSystem.start text firmware) ⟨start_valid text firmware, by omega⟩
    exact Nat.le_trans (Nat.le_add_left _ _) (Nat.le_trans hsent hvalid.sent_le)
  · obtain ⟨hone, -⟩ := run_invariant_of_stepsMeet (single_step env) actions hsteps
      ⟨by omega, fun _ _ => htotal⟩
    exact Nat.le_trans (Nat.le_add_left _ _) hone

def preparedFirmware : Firmware :=
  firmwareInit { coldMachine with prepared := ⟨true, true, 0x000C, true⟩ }

/-- An attempt under sequence 1 up to the native round. -/
def runAttempt : List CommandAction := [.hello (some 1), .take, .write true, .deviceTurn]

theorem command_at_most_once_answered :
    let s := run (commandStep haltEnv) (.start ['g', 'o'] preparedFirmware)
      (runAttempt ++ [.read true])
    s.phase = .returned true ∧ s.rounds = 1 ∧ s.rounds ≤ 1 := by
  have hmost := (command_at_most_once haltEnv ['g', 'o'] preparedFirmware
    (runAttempt ++ [.read true])).2 (by
      unfold runAttempt
      simp only [List.cons_append, List.nil_append, stepsMeet_cons]
      refine ⟨?_, ?_, ?_, ?_, ?_, stepsMeet_nil⟩ <;> decide +kernel)
  exact ⟨by decide +kernel, by decide +kernel, hmost⟩

/-- The reply to the first attempt is lost, and the second has the same record. -/
theorem command_runs_twice :
    let s := run (commandStep haltEnv) (.start ['g', 'o'] preparedFirmware)
      (runAttempt ++ [.lose, .timeout] ++ runAttempt)
    s.phase = .exchange 1 ∧ s.rounds = 2 := by
  refine ⟨by decide +kernel, by decide +kernel⟩

end Rp86.Host
