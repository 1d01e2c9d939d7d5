import Rp86.Storage.Equiv.FlashUpload

/-!
# When a commit loses the file that it replaces

`handle_write_commit` removes the target before it renames the temporary file.  When the removal
succeeds and a later call fails, the request is refused and the old content is gone
(`commit_keeps_target_iff`).
-/

namespace Rp86

open Lib

variable {ν : Type} (env : FatEnv ν)

/-! ### The calls of a commit -/

/-- The state after some calls that leave the files alone. -/
def Fat.after (fat : Fat ν) (k : ℕ) : Fat ν := { fat with calls := fat.calls + k }

/-- The upload could be closed. -/
def CloseSucceeds (n : ℕ) : Prop := env.result n = .ok ∧ env.result (n + 1) = .ok

instance (n : ℕ) : Decidable (CloseSucceeds env n) := inferInstanceAs (Decidable (_ ∧ _))

theorem ifOk_ok (fat : Fat ν) (call : Fat ν → FResult × Fat ν) : ifOk (.ok, fat) call = call fat :=
  rfl

theorem ifOk_failed {result : FResult} (h : result ≠ .ok) (fat : Fat ν)
    (call : Fat ν → FResult × Fat ν) : ifOk (result, fat) call = (result, fat) := if_neg h

theorem closeUpload_cases (fat : Fat ν) :
    (CloseSucceeds env fat.calls ∧ closeUpload env fat = (.ok, fat.after 2)) ∨
    (¬ CloseSucceeds env fat.calls ∧
      ∃ result, result ≠ .ok ∧ closeUpload env fat = (result, fat.after 2)) := by
  have hclose : closeUpload env fat = (if env.result fat.calls = .ok then env.result (fat.calls + 1)
      else env.result fat.calls, fat.after 2) := rfl
  rw [hclose]
  by_cases hsync : env.result fat.calls = .ok
  · rw [if_pos hsync]
    by_cases hclosed : env.result (fat.calls + 1) = .ok
    · exact Or.inl ⟨⟨hsync, hclosed⟩, by rw [hclosed]⟩
    · exact Or.inr ⟨fun h => hclosed h.2, _, hclosed, rfl⟩
  · rw [if_neg hsync]
    exact Or.inr ⟨fun h => hsync h.1, _, hsync, rfl⟩

theorem flushDisk_cases (fat : Fat ν) (k : ℕ) :
    (env.result (fat.calls + k) = .ok ∧ flushDisk env (fat.after k) = (.ok, fat.after (k + 1))) ∨
    (env.result (fat.calls + k) ≠ .ok ∧
      flushDisk env (fat.after k) = (.diskErr, fat.after (k + 1))) := by
  have hflush : flushDisk env (fat.after k)
      = (if env.result (fat.calls + k) = .ok then .ok else .diskErr, fat.after (k + 1)) := rfl
  rw [hflush]
  split_ifs with h
  · exact Or.inl ⟨h, rfl⟩
  · exact Or.inr ⟨h, rfl⟩

variable [DecidableEq ν]

/-- The calls of a commit from the removal of the target on. -/
def replaceTarget (target : List UInt8) (fat : Fat ν) : FResult × Fat ν :=
  ifOk (ifOk (unlinkTarget env target fat) (fRename env uploadTempPath target)) (flushDisk env)

/-- The calls before the removal of the target: the commit ends early, or goes on. -/
theorem commitCalls_cases (target : List UInt8) (fat : Fat ν) :
    (¬ CloseSucceeds env fat.calls ∧
      ∃ result, result ≠ .ok ∧ commitCalls env target fat = (result, fat.after 2)) ∨
    (CloseSucceeds env fat.calls ∧ env.result (fat.calls + 2) ≠ .ok ∧
      commitCalls env target fat = (.diskErr, fat.after 3)) ∨
    (CloseSucceeds env fat.calls ∧ env.result (fat.calls + 2) = .ok ∧
      commitCalls env target fat = replaceTarget env target (fat.after 3)) := by
  unfold commitCalls
  simp only
  rcases closeUpload_cases env fat with ⟨hclose, hclosed⟩ | ⟨hclose, result, hresult, hclosed⟩
  · rw [hclosed, ifOk_ok]
    rcases flushDisk_cases env fat 2 with ⟨hflush, hflushed⟩ | ⟨hflush, hflushed⟩
    · refine Or.inr (Or.inr ⟨hclose, hflush, ?_⟩)
      rw [hflushed]
      rfl
    · refine Or.inr (Or.inl ⟨hclose, hflush, ?_⟩)
      rw [hflushed]
      rfl
  · refine Or.inl ⟨hclose, result, hresult, ?_⟩
    rw [hclosed]
    simp only [ifOk_failed hresult]

/-- A result of `f_unlink` that the commit takes for success. -/
def FResult.Missing (result : FResult) : Prop := result = .noFile ∨ result = .noPath

instance (result : FResult) : Decidable result.Missing := inferInstanceAs (Decidable (_ ∨ _))

theorem unlinkTarget_cases {target old : List UInt8} {fat : Fat ν}
    (hfile : fat.files (env.name target) = some old) :
    (env.result fat.calls = .ok ∧ unlinkTarget env target fat = (.ok, { fat.after 1 with
      files := Function.update fat.files (env.name target) none })) ∨
    (env.result fat.calls ≠ .ok ∧ (env.result fat.calls).Missing ∧
      unlinkTarget env target fat = (.ok, fat.after 1)) ∨
    (env.result fat.calls ≠ .ok ∧ ¬ (env.result fat.calls).Missing ∧
      unlinkTarget env target fat = (env.result fat.calls, fat.after 1)) := by
  unfold unlinkTarget fUnlink Fat.outcome
  by_cases hok : env.result fat.calls = .ok
  · refine Or.inl ⟨hok, ?_⟩
    rw [if_neg fun h => h hok, hfile]
    rfl
  · rw [if_pos hok]
    by_cases hmissing : (env.result fat.calls).Missing
    · refine Or.inr (Or.inl ⟨hok, hmissing, ?_⟩)
      simp only
      rw [if_neg fun h => hmissing.elim h.2.1 h.2.2]
      rfl
    · refine Or.inr (Or.inr ⟨hok, hmissing, ?_⟩)
      simp only
      rw [if_pos ⟨hok, not_or.mp hmissing⟩]
      rfl

variable {env}

/-! ### A target of its own -/

section

variable {target old new : List UInt8} {fat : Fat ν}
  (hname : env.name target ≠ env.name uploadTempPath)
  (hold : fat.files (env.name target) = some old)
  (hnew : fat.files (env.name uploadTempPath) = some new)

include hname hold hnew

theorem fRename_of_exists :
    ∃ result, result ≠ .ok ∧ fRename env uploadTempPath target fat = (result, fat.called) := by
  by_cases hrename : env.result fat.calls = .ok
  · refine ⟨.exist, by decide, ?_⟩
    rw [fRename, if_neg fun h => h hrename, hnew]
    simp [hold, hname]
  · exact ⟨_, hrename, if_pos hrename⟩

/-- The target is lost when it could be removed and a later call fails. -/
theorem replaceTarget_loses_iff :
    (replaceTarget env target fat).1 ≠ .ok ∧
        (replaceTarget env target fat).2.files (env.name target) ≠ some old ↔
      env.result fat.calls = .ok ∧ (env.result (fat.calls + 1) ≠ .ok ∨
        env.result (fat.calls + 2) ≠ .ok ∧ new ≠ old) := by
  unfold replaceTarget
  rcases unlinkTarget_cases env hold with
    ⟨hunlink, hunlinked⟩ | ⟨hunlink, -, hunlinked⟩ | ⟨hunlink, -, hunlinked⟩
  -- the target is removed; what follows may fail
  · rw [hunlinked, ifOk_ok]
    set removed : Fat ν := { fat.after 1 with
      files := Function.update fat.files (env.name target) none } with hremoved
    have htemp : removed.files (env.name uploadTempPath) = some new :=
      (Function.update_of_ne hname.symm ..).trans hnew
    have htarget : removed.files (env.name target) = none := Function.update_self ..
    by_cases hrename : env.result (fat.calls + 1) = .ok
    · have hrenamed : fRename env uploadTempPath target removed = (.ok, { removed.called with
          files := Function.update (Function.update removed.files (env.name uploadTempPath) none)
            (env.name target) (some new) }) := by
        rw [fRename, if_neg fun h => h hrename, htemp]
        simp [htarget]
      have hfinal : (flushDisk env (fRename env uploadTempPath target removed).2).1
          = if env.result (fat.calls + 2) = .ok then .ok else .diskErr := by
        rw [hrenamed]
        rfl
      rw [ifOk_of_ok (by rw [hrenamed]), hfinal, files_flushDisk, hrenamed]
      simp only [Function.update_self, ne_eq, Option.some.injEq, hunlink, hrename, true_and,
        not_true_eq_false, false_or]
      by_cases hflush : env.result (fat.calls + 2) = .ok
      · simp [hflush]
      · simp [hflush]
    · have hrenamed : fRename env uploadTempPath target removed
          = (env.result (fat.calls + 1), removed.called) := if_pos hrename
      rw [hrenamed, ifOk_failed hrename]
      refine iff_of_true ⟨hrename, ?_⟩ ⟨hunlink, Or.inl hrename⟩
      rw [show removed.called.files (env.name target) = none from htarget]
      exact (Option.some_ne_none old).symm
  · -- the target is still there, so the rename fails
    refine iff_of_false (fun h => h.2 ?_) fun h => hunlink h.1
    obtain ⟨result, hresult, hrenamed⟩ :=
      @fRename_of_exists _ env _ _ _ _ (fat.after 1) hname hold hnew
    rw [hunlinked, ifOk_ok, hrenamed, ifOk_failed hresult]
    exact hold
  · refine iff_of_false (fun h => h.2 ?_) fun h => hunlink h.1
    rw [hunlinked]
    simp only [ifOk_failed hunlink]
    exact hold

/-- The whole commit: the calls up to the removal succeed, and a later one fails. -/
theorem commitCalls_loses_iff :
    (commitCalls env target fat).1 ≠ .ok ∧
        (commitCalls env target fat).2.files (env.name target) ≠ some old ↔
      CloseSucceeds env fat.calls ∧ env.result (fat.calls + 2) = .ok ∧
        env.result (fat.calls + 3) = .ok ∧ (env.result (fat.calls + 4) ≠ .ok ∨
          env.result (fat.calls + 5) ≠ .ok ∧ new ≠ old) := by
  rcases commitCalls_cases env target fat with
    ⟨hclose, result, -, hcalls⟩ | ⟨hclose, hflush, hcalls⟩ | ⟨hclose, hflush, hcalls⟩
  · rw [hcalls]
    exact iff_of_false (fun h => h.2 hold) fun h => hclose h.1
  · rw [hcalls]
    exact iff_of_false (fun h => h.2 hold) fun h => hflush h.2.1
  · rw [hcalls]
    refine (@replaceTarget_loses_iff _ env _ target old new (fat.after 3) hname hold hnew).trans ?_
    exact ⟨fun h => ⟨hclose, hflush, h⟩, fun h => h.2.2⟩

end

/-! ### A target that is the temporary file -/

section

variable {target old : List UInt8} {fat : Fat ν}

/-- The outcomes of the calls from the `n`-th on with which a commit removes the temporary file. -/
def TempRemoved (env : FatEnv ν) (n : ℕ) : Prop :=
  ¬ CloseSucceeds env n ∧ env.result (n + 2) = .ok ∨
  CloseSucceeds env n ∧ env.result (n + 2) ≠ .ok ∧ env.result (n + 3) = .ok ∨
  CloseSucceeds env n ∧ env.result (n + 2) = .ok ∧
    (env.result (n + 3) = .ok ∨
      env.result (n + 3) ≠ .ok ∧ ¬ (env.result (n + 3)).Missing ∧ env.result (n + 4) = .ok ∨
      (env.result (n + 3)).Missing ∧
        (env.result (n + 4) ≠ .ok ∧ env.result (n + 5) = .ok ∨
          env.result (n + 4) = .ok ∧ env.result (n + 5) ≠ .ok ∧ env.result (n + 6) = .ok))

theorem fUnlink_loses_iff (hfile : fat.files (env.name uploadTempPath) = some old) :
    (fUnlink env uploadTempPath fat).2.files (env.name uploadTempPath) ≠ some old ↔
      env.result fat.calls = .ok := by
  unfold fUnlink Fat.outcome
  by_cases hresult : env.result fat.calls = .ok
  · rw [if_neg fun h => h hresult, hfile]
    simp [hresult]
  · rw [if_pos hresult]
    exact iff_of_false (fun h => h hfile) hresult

theorem fUnlink_of_none (hfile : fat.files (env.name uploadTempPath) = none) :
    (fUnlink env uploadTempPath fat).2.files (env.name uploadTempPath) ≠ some old := by
  unfold fUnlink
  split_ifs
  · simp [Fat.called, hfile]
  · rw [hfile]
    simp [Fat.called, hfile]

/-- Once the temporary file is removed in the place of the target, nothing brings it back. -/
theorem fRename_of_none (hfile : fat.files (env.name uploadTempPath) = none) :
    ∃ result, result ≠ .ok ∧ fRename env uploadTempPath target fat = (result, fat.called) := by
  by_cases hrename : env.result fat.calls = .ok
  · refine ⟨.noFile, by decide, ?_⟩
    rw [fRename, if_neg fun h => h hrename, hfile]
  · exact ⟨_, hrename, if_pos hrename⟩

theorem replaceTarget_temp_loses_iff (hname : env.name target = env.name uploadTempPath)
    (hfile : fat.files (env.name uploadTempPath) = some old) :
    (replaceTarget env target fat).1 ≠ .ok ∧
        (fUnlink env uploadTempPath (replaceTarget env target fat).2).2.files
          (env.name uploadTempPath) ≠ some old ↔
      env.result fat.calls = .ok ∨
      env.result fat.calls ≠ .ok ∧ ¬ (env.result fat.calls).Missing ∧
        env.result (fat.calls + 1) = .ok ∨
      (env.result fat.calls).Missing ∧
        (env.result (fat.calls + 1) ≠ .ok ∧ env.result (fat.calls + 2) = .ok ∨
          env.result (fat.calls + 1) = .ok ∧ env.result (fat.calls + 2) ≠ .ok ∧
            env.result (fat.calls + 3) = .ok) := by
  have hfile' : fat.files (env.name target) = some old := hname ▸ hfile
  unfold replaceTarget
  rcases unlinkTarget_cases env hfile' with
    ⟨hunlink, hunlinked⟩ | ⟨hunlink, hmissing, hunlinked⟩ | ⟨hunlink, hmissing, hunlinked⟩
  -- the target is the temporary file itself, so nothing is left to rename
  · set removed : Fat ν := { fat.after 1 with
      files := Function.update fat.files (env.name target) none } with hremoved
    have htemp : removed.files (env.name uploadTempPath) = none := by
      rw [hremoved, ← hname]
      exact Function.update_self ..
    obtain ⟨result, hresult, hrenamed⟩ := @fRename_of_none _ env _ target removed htemp
    rw [hunlinked, ifOk_ok, hrenamed, ifOk_failed hresult]
    exact iff_of_true ⟨hresult, fUnlink_of_none htemp⟩ (Or.inl hunlink)
  -- a removal that reports a missing file has removed nothing
  · rw [hunlinked, ifOk_ok]
    by_cases hrename : env.result (fat.calls + 1) = .ok
    · have hrenamed : fRename env uploadTempPath target (fat.after 1) = (.ok, fat.after 2) := by
        rw [fRename, if_neg fun h => h hrename]
        simp only [Fat.after, hfile, hname, ne_eq, not_true_eq_false, false_and, if_false]
        rw [Function.update_idem, Function.update_eq_self_iff.mpr hfile.symm]
        rfl
      rw [hrenamed, ifOk_ok]
      rcases flushDisk_cases env fat 2 with ⟨hflush, hflushed⟩ | ⟨hflush, hflushed⟩
      · rw [hflushed]
        simp [hunlink, hmissing, hrename, hflush]
      · rw [hflushed, @fUnlink_loses_iff _ env _ old (fat.after 3) hfile]
        simp only [hunlink, hmissing, hrename, hflush, ne_eq, not_true_eq_false, not_false_eq_true,
          reduceCtorEq, true_and, false_and, and_false, false_or]
        rfl
    · have hrenamed : fRename env uploadTempPath target (fat.after 1)
          = (env.result (fat.calls + 1), fat.after 2) := if_pos hrename
      rw [hrenamed, ifOk_failed hrename, @fUnlink_loses_iff _ env _ old (fat.after 2) hfile]
      simp only [hunlink, hmissing, hrename, ne_eq, not_true_eq_false, not_false_eq_true, true_and,
        false_and, and_false, false_or, or_false]
      rfl
  · rw [hunlinked]
    simp only [ifOk_failed hunlink, @fUnlink_loses_iff _ env _ old (fat.after 1) hfile, hunlink,
      hmissing, ne_eq, not_false_eq_true, true_and, false_and, false_or, or_false]
    rfl

theorem commitCalls_temp_loses_iff (hname : env.name target = env.name uploadTempPath)
    (hfile : fat.files (env.name uploadTempPath) = some old) :
    (commitCalls env target fat).1 ≠ .ok ∧
        (fUnlink env uploadTempPath (commitCalls env target fat).2).2.files
          (env.name uploadTempPath) ≠ some old ↔
      TempRemoved env fat.calls := by
  unfold TempRemoved
  rcases commitCalls_cases env target fat with
    ⟨hclose, result, hresult, hcalls⟩ | ⟨hclose, hflush, hcalls⟩ | ⟨hclose, hflush, hcalls⟩
  · rw [hcalls, @fUnlink_loses_iff _ env _ old (fat.after 2) hfile]
    simp only [hclose, hresult, ne_eq, not_false_eq_true, true_and, false_and, or_false]
    rfl
  · rw [hcalls, @fUnlink_loses_iff _ env _ old (fat.after 3) hfile]
    simp only [hclose, hflush, ne_eq, not_true_eq_false, not_false_eq_true, true_and, false_and,
      or_false, false_or, reduceCtorEq]
    rfl
  · rw [hcalls, @replaceTarget_temp_loses_iff _ env _ target old (fat.after 3) hname hfile]
    simp only [hclose, hflush, ne_eq, not_true_eq_false, true_and, false_and, false_or]
    rfl

end

/-! ### The request -/

/-- The request reaches the commit: it is for the open upload, which is complete. -/
structure CommitReached (s : Flash ν) (request : Message) : Prop where
  header : request.version = hostProtocolVersion ∧ request.type = typeFilesystemRequest ∧
    request.status = HostStatus.ok.code
  available : s.service.available = true
  length : request.length = 8
  uploadOpen : s.service.uploadOpen = true
  transferId : request.word 4 = s.service.transferId
  complete : s.service.receivedSize = s.service.expectedSize

/-- The received data have the expected checksum. -/
def Flash.CrcMatches (s : Flash ν) : Prop :=
  s.service.runningCrc32 ^^^ 0xFFFFFFFF = s.service.expectedCrc32

/-- The commit is refused and loses the target.

For a target of its own, the calls up to its removal succeed, and then the rename fails, or the last
flush fails and the new content is another one.  For a target that is the temporary file, one of
the removals of the temporary file succeeds. -/
def CommitLoses (env : FatEnv ν) (s : Flash ν) (request : Message) : Prop :=
  CommitReached s request ∧
  (env.name s.service.targetPath ≠ env.name uploadTempPath ∧ s.CrcMatches ∧
      CloseSucceeds env s.fat.calls ∧ env.result (s.fat.calls + 2) = .ok ∧
      env.result (s.fat.calls + 3) = .ok ∧
      (env.result (s.fat.calls + 4) ≠ .ok ∨ env.result (s.fat.calls + 5) ≠ .ok ∧
        s.fat.files (env.name uploadTempPath) ≠ s.fat.files (env.name s.service.targetPath)) ∨
    env.name s.service.targetPath = env.name uploadTempPath ∧
      (¬ s.CrcMatches ∧ env.result (s.fat.calls + 1) = .ok ∨
        s.CrcMatches ∧ TempRemoved env s.fat.calls))

theorem flashStep_of_not_reached {s : Flash ν} {record : Record}
    (hoperation : (Message.ofRecord record).byte 0 = filesystemWriteCommit)
    (h : ¬ CommitReached s (Message.ofRecord record)) : flashStep env s record = s := by
  have hhandle : handleOperation env (Message.ofRecord record) s
      = handleWriteCommit env (Message.ofRecord record) s := by
    rw [handleOperation, hoperation]
    rfl
  unfold flashStep flashServiceHandle
  split_ifs with hheader havailable
  · rfl
  · rfl
  · simp only [hhandle, handleWriteCommit]
    split_ifs with hlength hstate
    · rfl
    · rfl
    all_goals
      simp only [not_or, ne_eq, Decidable.not_not, Bool.not_eq_true', Bool.not_eq_false]
        at hheader havailable hlength hstate
      exact absurd ⟨⟨hheader.1, hheader.2.1, hheader.2.2.1⟩, havailable, hlength, hstate.1,
        hstate.2.1, hstate.2.2⟩ h

/-- A record that reaches the commit is handled by it. -/
theorem flashStep_of_reached {s : Flash ν} {record : Record}
    (hoperation : (Message.ofRecord record).byte 0 = filesystemWriteCommit)
    (h : CommitReached s (Message.ofRecord record)) :
    (¬ s.CrcMatches → ¬ FlashAccepts env s record ∧ flashStep env s record = abortUpload env s) ∧
    (s.CrcMatches → (FlashAccepts env s record ↔
        (commitCalls env s.service.targetPath s.fat).1 = .ok) ∧
      ((commitCalls env s.service.targetPath s.fat).1 ≠ .ok → (flashStep env s record).fat
        = (fUnlink env uploadTempPath (commitCalls env s.service.targetPath s.fat).2).2)) := by
  have hhandle : handleOperation env (Message.ofRecord record) s
      = handleWriteCommit env (Message.ofRecord record) s := by
    rw [handleOperation, hoperation]
    rfl
  have hheader : ¬ ((Message.ofRecord record).version ≠ hostProtocolVersion ∨
      (Message.ofRecord record).type ≠ typeFilesystemRequest ∨
      (Message.ofRecord record).status ≠ HostStatus.ok.code ∨
      (Message.ofRecord record).length = 0) := by
    rw [h.header.1, h.header.2.1, h.header.2.2, h.length]
    decide
  have hstate : ¬ (!s.service.uploadOpen ∨
      (Message.ofRecord record).word 4 ≠ s.service.transferId ∨
      s.service.receivedSize ≠ s.service.expectedSize) := by
    rw [h.uploadOpen, h.transferId, h.complete]
    simp
  unfold FlashAccepts flashReply flashStep flashServiceHandle
  rw [if_neg hheader, if_neg (by rw [h.available]; decide)]
  simp only [hhandle, handleWriteCommit, h.length, if_neg hstate, ne_eq, not_true_eq_false,
    if_false, Option.some.injEq, exists_eq_left', filesystemReply, Message.reply,
    HostStatus.code_eq_ok]
  refine ⟨fun hcrc => ?_, fun hcrc => ?_⟩ <;> unfold Flash.CrcMatches at hcrc
  · rw [if_pos hcrc]
    exact ⟨HostStatus.noConfusion, rfl⟩
  · rw [if_neg fun hne => hne hcrc]
    by_cases hcalls : (commitCalls env s.service.targetPath s.fat).1 = .ok
    · rw [if_neg fun hne => hne hcalls]
      exact ⟨iff_of_true rfl hcalls, fun hne => absurd hcalls hne⟩
    · rw [if_pos hcalls]
      exact ⟨iff_of_false (statusFromFatfs_ne_ok hcalls) hcalls, fun _ => rfl⟩

/-- The removal of the temporary file leaves the others alone. -/
theorem fUnlink_files_of_ne {path : List UInt8} {name : ν} (fat : Fat ν)
    (hname : name ≠ env.name path) : (fUnlink env path fat).2.files name = fat.files name := by
  unfold fUnlink
  split_ifs
  · rfl
  · cases fat.files (env.name path) with
    | none => rfl
    | some content => exact Function.update_of_ne hname ..

theorem fat_abortUpload {s : Flash ν} (hopen : s.service.uploadOpen = true) :
    (abortUpload env s).fat = (fUnlink env uploadTempPath (s.fat.after 1)).2 := by
  rw [abortUpload]
  simp only [hopen, if_pos]
  rfl

theorem keeps_target_iff {s : Flash ν} {record : Record} {old new : List UInt8}
    (hoperation : (Message.ofRecord record).byte 0 = filesystemWriteCommit)
    (hreached : CommitReached s (Message.ofRecord record))
    (hold : s.fat.files (env.name s.service.targetPath) = some old)
    (hnew : s.fat.files (env.name uploadTempPath) = some new) :
    (¬ FlashAccepts env s record →
        (flashStep env s record).fat.files (env.name s.service.targetPath) = some old) ↔
      ¬ CommitLoses env s (Message.ofRecord record) := by
  obtain ⟨hbadCrc, hcommit⟩ := @flashStep_of_reached _ env _ s record hoperation hreached
  rw [iff_not_comm, Classical.not_imp]
  unfold CommitLoses
  by_cases hcrc : s.CrcMatches
  · obtain ⟨haccepts, hfat⟩ := hcommit hcrc
    have hlost : (¬ FlashAccepts env s record ∧
        ¬ (flashStep env s record).fat.files (env.name s.service.targetPath) = some old) ↔
        (commitCalls env s.service.targetPath s.fat).1 ≠ .ok ∧
        (fUnlink env uploadTempPath (commitCalls env s.service.targetPath s.fat).2).2.files
          (env.name s.service.targetPath) ≠ some old := by
      rw [haccepts]
      exact and_congr_right fun hfailed => by rw [hfat hfailed]
    rw [hlost]
    by_cases hname : env.name s.service.targetPath = env.name uploadTempPath
    · have hiff := commitCalls_temp_loses_iff hname (hname ▸ hold)
      simp only [hreached, hname, hcrc, ne_eq, not_true_eq_false, false_and, true_and, false_or]
      exact hiff.symm
    · have hiff := commitCalls_loses_iff hname hold hnew
      rw [fUnlink_files_of_ne _ hname, hiff, hold, hnew]
      simp [hreached, hname, hcrc]
  -- a wrong checksum only removes the temporary file
  · obtain ⟨hrefused, hstep⟩ := hbadCrc hcrc
    rw [hstep, fat_abortUpload hreached.uploadOpen]
    by_cases hname : env.name s.service.targetPath = env.name uploadTempPath
    · rw [hname] at hold ⊢
      have hiff := @fUnlink_loses_iff _ env _ old (s.fat.after 1) hold
      simp only [hreached, hcrc, hrefused, ne_eq, not_true_eq_false, not_false_eq_true, false_and,
        true_and, false_or, or_false]
      exact hiff.symm
    · rw [fUnlink_files_of_ne _ hname]
      simp only [hname, hcrc, ne_eq, false_and, and_false, or_self, false_iff, not_and,
        Decidable.not_not]
      exact fun _ => hold

/-- **A commit that is refused keeps its target**, exactly when it does not lose it. -/
theorem commit_keeps_target_iff (env : FatEnv ν) (available : Bool) (label : List UInt8)
    (freeKib : UInt32) (fat : Fat ν) (records : List Record) (record : Record) (old : List UInt8)
    (hoperation : (Message.ofRecord record).byte 0 = filesystemWriteCommit)
    (hold : (flashRun env (flashServiceInit env available label freeKib fat) records).fat.files
      (env.name (flashRun env (flashServiceInit env available label freeKib fat)
        records).service.targetPath) = some old) :
    let s := flashRun env (flashServiceInit env available label freeKib fat) records
    (¬ FlashAccepts env s record →
        (flashStep env s record).fat.files (env.name s.service.targetPath) = some old) ↔
      ¬ CommitLoses env s (Message.ofRecord record) := by
  intro s
  have ht := flashTraceRun_inv env available label freeKib fat records
  have hs : (flashTraceRun env (flashServiceInit env available label freeKib fat) records).flash
      = s := flashTraceRun_flash ..
  by_cases hreached : CommitReached s (Message.ofRecord record)
  · obtain ⟨u, -, hopen⟩ := ht.opened (by rw [hs]; exact hreached.uploadOpen)
    rw [hs] at hopen
    exact keeps_target_iff hoperation hreached hold hopen.file
  · rw [flashStep_of_not_reached hoperation hreached]
    exact iff_of_true (fun _ => hold) fun hloses => hreached hloses.1

/-- A volume with the file `flash:/A`. -/
def oldFat : Fat (List UInt8) where
  files := Function.update (fun _ => none) (flashPathStart ++ [0x2F, 0x41]) (some [1])
  calls := 0

/-- The records that open an upload of another content for `flash:/A`. -/
def replaceRecords : List Record :=
  [(writeBeginRequest 1 (flashPathStart ++ [0x2F, 0x41]) 7 1 (crc32 [2]).toNat).toRecord,
    (writeDataRequest 2 7 (0, [2])).toRecord]

/-- Its commit. -/
def replaceCommit : Record := (writeCommitRequest 3 7).toRecord

theorem commit_keeps_target_iff_plain :
    (Message.ofRecord replaceCommit).byte 0 = filesystemWriteCommit ∧
      (flashRun plainFatEnv (flashServiceInit plainFatEnv true [] 0 oldFat)
        replaceRecords).fat.files (flashPathStart ++ [0x2F, 0x41]) = some [1] ∧
      ((¬ FlashAccepts plainFatEnv (flashRun plainFatEnv
            (flashServiceInit plainFatEnv true [] 0 oldFat) replaceRecords) replaceCommit →
          (flashStep plainFatEnv (flashRun plainFatEnv
            (flashServiceInit plainFatEnv true [] 0 oldFat) replaceRecords)
            replaceCommit).fat.files (flashPathStart ++ [0x2F, 0x41]) = some [1]) ↔
        ¬ CommitLoses plainFatEnv (flashRun plainFatEnv
          (flashServiceInit plainFatEnv true [] 0 oldFat) replaceRecords)
          (Message.ofRecord replaceCommit)) := by
  have htarget : (flashRun plainFatEnv (flashServiceInit plainFatEnv true [] 0 oldFat)
      replaceRecords).service.targetPath = flashPathStart ++ [0x2F, 0x41] := by decide +kernel
  have hoperation : (Message.ofRecord replaceCommit).byte 0 = filesystemWriteCommit := by
    decide +kernel
  have hold : (flashRun plainFatEnv (flashServiceInit plainFatEnv true [] 0 oldFat)
      replaceRecords).fat.files (flashPathStart ++ [0x2F, 0x41]) = some [1] := by decide +kernel
  have h := commit_keeps_target_iff plainFatEnv true [] 0 oldFat replaceRecords replaceCommit [1]
    hoperation (by rw [htarget]; exact hold)
  simp only [htarget] at h
  exact ⟨hoperation, hold, h⟩

/-- A volume on which only the rename of this commit fails. -/
def failingRenameEnv : FatEnv (List UInt8) :=
  { plainFatEnv with result := fun n => if n = 8 then .diskErr else .ok }

/-- The commit is answered `IO_ERROR`, and the file is gone. -/
theorem commit_loses_target :
    (Message.ofRecord replaceCommit).byte 0 = filesystemWriteCommit ∧
      (flashRun failingRenameEnv (flashServiceInit failingRenameEnv true [] 0 oldFat)
        replaceRecords).service.targetPath = flashPathStart ++ [0x2F, 0x41] ∧
      (flashRun failingRenameEnv (flashServiceInit failingRenameEnv true [] 0 oldFat)
        replaceRecords).fat.files (flashPathStart ++ [0x2F, 0x41]) = some [1] ∧
      (flashReply failingRenameEnv (flashRun failingRenameEnv
        (flashServiceInit failingRenameEnv true [] 0 oldFat) replaceRecords)
        replaceCommit).map Message.status = some HostStatus.ioError.code ∧
      (flashStep failingRenameEnv (flashRun failingRenameEnv
        (flashServiceInit failingRenameEnv true [] 0 oldFat) replaceRecords)
        replaceCommit).fat.files (flashPathStart ++ [0x2F, 0x41]) = none := by
  decide +kernel

end Rp86
