import Rp86.Host.Equiv.Filesystem

/-!
# Upload of a file, end to end

The records of `write_records` on a device on which no call fails replace the target by the data and
change no other file.
-/

namespace Rp86

open Lib

variable {ν : Type} [DecidableEq ν] {env : FatEnv ν}

def FlashAnsweredOk (env : FatEnv ν) : Flash ν → List Record → Prop
  | _, [] => True
  | s, record :: records =>
    FlashAccepts env s record ∧ FlashAnsweredOk env (flashStep env s record) records

theorem flashAnsweredOk_append {s : Flash ν} {records records' : List Record} :
    FlashAnsweredOk env s (records ++ records') ↔
      FlashAnsweredOk env s records ∧ FlashAnsweredOk env (flashRun env s records) records' := by
  induction records generalizing s with
  | nil => exact ⟨fun h => ⟨trivial, h⟩, fun h => h.2⟩
  | cons record records ih =>
    rw [List.cons_append, FlashAnsweredOk, FlashAnsweredOk, ih, and_assoc]
    rfl

/-- The chunks of the data, one record each. -/
theorem Flash.Uploads.writeChunks {s : Flash ν} {files : ν → Option (List UInt8)}
    {transferId a : ℕ} {u : FlashUpload} {rest : List UInt8} {chunks : List ByteWrite}
    {records : List Record} (henv : env.Succeeds)
    (hchunks : Chunked filesystemWriteDataBytes a rest chunks)
    (hrecords : List.Forall₂ (fun record w =>
      Record.Carries record fun sequence => writeDataRequest sequence transferId w) records chunks)
    (hs : s.Uploads env files (UInt32.ofNat transferId) u) (ha : a = u.accepted.length)
    (hsize : u.accepted.length + rest.length ≤ u.size.toNat)
    (hvolume : u.accepted.length + rest.length ≤ fatVolumeBytes) :
    FlashAnsweredOk env s records ∧ (flashRun env s records).Uploads env files
      (UInt32.ofNat transferId) { u with accepted := u.accepted ++ rest } := by
  induction hchunks generalizing s u records with
  | nil a =>
    cases hrecords
    rw [List.append_nil]
    exact ⟨trivial, hs⟩
  | @cons a chunk rest chunks hne hle hfull h ih =>
    obtain ⟨_, tail, ⟨sequence, rfl⟩, htail, rfl⟩ := List.forall₂_cons_right_iff.mp hrecords
    subst ha
    rw [List.length_append] at hsize hvolume
    obtain ⟨haccepts, hstep⟩ := @Flash.Uploads.writeData _ _ env s files transferId u hs henv
      sequence chunk hle (by omega) (by omega)
    obtain ⟨hanswered, hrun⟩ := ih htail hstep (by rw [List.length_append])
      (by rw [List.length_append]; simp only; omega) (by rw [List.length_append]; omega)
    rw [List.append_assoc] at hrun
    exact ⟨⟨haccepts, hanswered⟩, hrun⟩

/-- The records of a whole file, in order. -/
theorem FatEnv.Succeeds.writeFile (henv : env.Succeeds) {s : Flash ν}
    {path target data : List UInt8} {transferId : ℕ} {chunks : List ByteWrite}
    {records : List Record} (havailable : s.service.available = true)
    (hlength : path.length ≤ filesystemWritePathBytes)
    (hpath : validFlashPath path (UInt8.ofNat path.length) (filesystemWritePathBytes + 1)
      = some target)
    (hname : env.name target ≠ env.name uploadTempPath) (hdata : data.length < fatVolumeBytes)
    (hchunks : Chunked filesystemWriteDataBytes 0 data chunks)
    (hrecords : List.Forall₂ Record.Carries records
      (Host.writeRequests path transferId data.length (crc32 data).toNat chunks)) :
    FlashAnsweredOk env s records ∧ (flashRun env s records).fat.files
      = Function.update (Function.update s.fat.files (env.name uploadTempPath) none)
          (env.name target) (some data) := by
  have hvolume : fatVolumeBytes = 12582912 := rfl
  have hsize : (UInt32.ofNat data.length).toNat = data.length := Nat.mod_eq_of_lt (by omega)
  obtain ⟨_, tail, ⟨sequence, rfl⟩, htail, rfl⟩ := List.forall₂_cons_right_iff.mp hrecords
  obtain ⟨haccepts, hbegun⟩ := @FatEnv.Succeeds.writeBegin _ _ env s henv havailable sequence path
    target transferId data.length (crc32 data).toNat hlength hpath
  have hdataRecords := List.forall₂_take_append _ _ _ htail
  have hcommitRecord := List.forall₂_drop_append _ _ _ htail
  rw [List.forall₂_map_right_iff] at hdataRecords
  rw [List.length_map] at hdataRecords hcommitRecord
  obtain ⟨_, _, ⟨sequence', rfl⟩, hnil, hcommitRecord⟩ :=
    List.forall₂_cons_right_iff.mp hcommitRecord
  cases hnil
  obtain ⟨hanswered, hwritten⟩ := @Flash.Uploads.writeChunks _ _ env _ _ transferId 0 _ data chunks
    _ henv hchunks hdataRecords hbegun rfl (by simp only [List.length_nil, hsize]; omega)
    (by simp only [List.length_nil]; omega)
  rw [List.nil_append] at hwritten
  obtain ⟨haccepts', hfiles⟩ := hwritten.writeCommit henv sequence' hname hsize.symm
    (UInt32.ofNat_toNat ..).symm
  rw [← List.take_append_drop chunks.length tail, hcommitRecord]
  refine ⟨⟨haccepts, flashAnsweredOk_append.mpr ⟨hanswered, haccepts', trivial⟩⟩, ?_⟩
  rw [← hfiles, flashRun, run_cons, run_append]
  rfl

/-! ### Any records -/

/-- The history of the service from its start. -/
def flashTraceRun (env : FatEnv ν) (s : Flash ν) (records : List Record) : FlashTrace ν :=
  run (FlashTrace.step env) { flash := s, upload := none } records

theorem flashTraceRun_flash (env : FatEnv ν) (s : Flash ν) (records : List Record) :
    (flashTraceRun env s records).flash = flashRun env s records := by
  unfold flashTraceRun flashRun
  generalize (none : Option FlashUpload) = upload
  induction records generalizing s upload with
  | nil => rfl
  | cons record records ih =>
    rw [run_cons, run_cons]
    exact ih _ _

theorem flashTraceRun_inv (env : FatEnv ν) (available : Bool) (label : List UInt8)
    (freeKib : UInt32) (fat : Fat ν) (records : List Record) :
    (flashTraceRun env (flashServiceInit env available label freeKib fat) records).Inv env := by
  have hinit : FlashTrace.Inv env
      { flash := flashServiceInit env available label freeKib fat, upload := none } :=
    ⟨UInt32.le_refl _, fun h => by cases h⟩
  exact @run_invariant _ _ (FlashTrace.step env) (FlashTrace.Inv env)
    (fun _ record ht => FlashTrace.inv_step ht record) records _ hinit

/-- **Upload of a file, end to end.**

When no call fails, the records that the Host makes for an accepted path are all answered `OK`, and
leave the data in the target, no temporary file and every other file as it was.

After any records, an accepted `WRITE_COMMIT` leaves in the target of the last accepted
`WRITE_BEGIN` the data accepted since, which have the announced size and checksum; and the received
size is never above the expected one. -/
theorem flash_upload_end_to_end (env : FatEnv ν) :
    (∀ (s : Flash ν) (path : List Char) (data encoded target : List UInt8)
      (transferId firstSequence : ℤ), env.Succeeds → s.service.available = true →
      Host.encodePath path Host.filesystemWritePathBytes = .ok encoded →
      validFlashPath encoded (UInt8.ofNat encoded.length) (filesystemWritePathBytes + 1)
        = some target →
      env.name target ≠ env.name uploadTempPath → data.length < fatVolumeBytes →
      0 ≤ transferId ∧ transferId < 2 ^ 32 → 0 ≤ firstSequence ∧ firstSequence < 2 ^ 32 →
      ∃ messages records, Host.writeRecords path data transferId firstSequence = .ok messages ∧
        messages.map Host.Message.encode = records.map (fun record => .ok record.bytes) ∧
        FlashAnsweredOk env s records ∧
        (flashRun env s records).fat.files (env.name target) = some data ∧
        (flashRun env s records).fat.files (env.name uploadTempPath) = none ∧
        ∀ name, name ≠ env.name target → name ≠ env.name uploadTempPath →
          (flashRun env s records).fat.files name = s.fat.files name) ∧
    ∀ (available : Bool) (label : List UInt8) (freeKib : UInt32) (fat : Fat ν)
      (records : List Record),
      let start := flashServiceInit env available label freeKib fat
      let s := flashRun env start records
      s.service.receivedSize ≤ s.service.expectedSize ∧
      ∀ record, (Message.ofRecord record).byte 0 = filesystemWriteCommit →
        FlashAccepts env s record →
        ∃ u, (flashTraceRun env start records).upload = some u ∧
          (flashStep env s record).fat.files (env.name u.target) = some u.accepted ∧
          u.accepted.length = u.size.toNat ∧ crc32 u.accepted = u.crc32 := by
  refine ⟨?_, fun available label freeKib fat records => ?_⟩
  · intro s path data encoded target transferId firstSequence henv havailable hencoded hpath hname
      hdata htransfer hsequence
    have hvolume : fatVolumeBytes = 12582912 := rfl
    obtain ⟨messages, chunks, hmessages, hchunks, hsends⟩ := @Host.writeRecords_spec path data
      encoded transferId firstSequence hencoded (by omega) htransfer hsequence
    obtain ⟨records, hencode, hrecords⟩ :=
      @Host.exists_records _ (fun request => request) _ _ hsends
    obtain ⟨hanswered, hfiles⟩ := @FatEnv.Succeeds.writeFile _ _ env henv s encoded target data
      transferId.toNat chunks records havailable (Host.encodePath_eq_ok hencoded).2 hpath hname
      hdata hchunks hrecords
    refine ⟨messages, records, hmessages, hencode, hanswered, ?_, ?_, fun name htarget htemp => ?_⟩
    · rw [hfiles, Function.update_self]
    · rw [hfiles, Function.update_of_ne hname.symm, Function.update_self]
    · rw [hfiles, Function.update_of_ne htarget, Function.update_of_ne htemp]
  · intro start s
    have ht : (flashTraceRun env start records).Inv env :=
      flashTraceRun_inv env available label freeKib fat records
    have hflash : (flashTraceRun env start records).flash = s :=
      flashTraceRun_flash env start records
    rw [← hflash]
    exact ⟨ht.received_le, fun record hoperation haccepts => ht.committed hoperation haccepts⟩

/-- A volume on which every call succeeds and names compare as strings. -/
def plainFatEnv : FatEnv (List UInt8) where
  name := id
  result := fun _ => .ok
  room := fun _ => 512
  entries := fun _ _ => []
  free := fun _ => (0, ⟨1, 8, 3072⟩)

def emptyFlash : Flash (List UInt8) :=
  flashServiceInit plainFatEnv true [] 0 { files := fun _ => none, calls := 0 }

theorem flash_upload_end_to_end_plain :
    ∃ messages records,
      Host.writeRecords ['f', 'l', 'a', 's', 'h', ':', '/', 'A'] [1, 2, 3] 7 1 = .ok messages ∧
      messages.map Host.Message.encode = records.map (fun record => .ok record.bytes) ∧
      FlashAnsweredOk plainFatEnv emptyFlash records ∧
      (flashRun plainFatEnv emptyFlash records).fat.files (flashPathStart ++ [0x2F, 0x41])
        = some [1, 2, 3] := by
  obtain ⟨messages, records, hmessages, hencode, hanswered, htarget, -⟩ :=
    (flash_upload_end_to_end plainFatEnv).1 emptyFlash ['f', 'l', 'a', 's', 'h', ':', '/', 'A']
      [1, 2, 3] (flashPathStart ++ [0x2F, 0x41]) (flashPathStart ++ [0x2F, 0x41]) 7 1
      ⟨fun _ => rfl, fun _ => Nat.le_of_ble_eq_true rfl⟩ rfl (by decide +kernel) (by decide +kernel)
      (by decide) (by decide) (by decide) (by decide)
  exact ⟨messages, records, hmessages, hencode, hanswered, htarget⟩

end Rp86
