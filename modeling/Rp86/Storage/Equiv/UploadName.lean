import Rp86.Storage.Equiv.FlashPath
import Rp86.Storage.Equiv.FlashUpload
import Rp86.Storage.Equiv.ReadRequests

/-!
# The name of the temporary file

FatFs finds the temporary file of an upload by its short name (`FatNames`): without regard to case
and to some accents, to blanks and dots at the end, and to separators that are repeated or last.
`valid_flash_path` refuses its one spelling `flash:/PI86UPLD.TMP`.  Every other spelling of the same
name is accepted, and nothing else that is accepted names it (`fatName_eq_upload_iff`).
-/

namespace Rp86

open Lib

variable {ν : Type}

/-! ### Short names -/

section

variable {chars field body extension segment : List UInt8} {width : ℕ}

theorem length_sfnField (h : sfnField width chars = some field) : field.length = width := by
  unfold sfnField at h
  split_ifs at h with hfits
  rw [← Option.some.inj h, List.length_append, List.length_map, List.length_replicate]
  omega

/-- A field without a blank is its characters. -/
theorem map_of_sfnField (h : sfnField width chars = some field) (hblank : 0x20 ∉ field) :
    chars.map sfnChar = field := by
  unfold sfnField at h
  split_ifs at h
  obtain rfl := Option.some.inj h
  have hfull : width - chars.length = 0 := by
    by_contra hmore
    exact hblank (List.mem_append_right _ (List.mem_replicate.mpr ⟨hmore, rfl⟩))
  rw [hfull, List.replicate_zero, List.append_nil]

theorem sfnField_of_map (h : chars.map sfnChar = field) (hchars : ∀ c ∈ chars, c ∉ sfnLossy) :
    sfnField field.length chars = some field := by
  rw [← h, List.length_map, sfnField, if_pos ⟨le_rfl, by simpa using hchars⟩, Nat.sub_self,
    List.replicate_zero, List.append_nil]

theorem shortName_eq_some {b e : List UInt8} (h : shortName body extension = some (b ++ e))
    (hb : b.length = 8) (hblank : 0x20 ∉ b ++ e) :
    body.map sfnChar = b ∧ extension.map sfnChar = e := by
  unfold shortName at h
  split_ifs at h
  obtain ⟨b', hb', h⟩ := Option.bind_eq_some_iff.mp h
  obtain ⟨e', he', h⟩ := Option.map_eq_some_iff.mp h
  obtain ⟨rfl, rfl⟩ := List.append_inj h ((length_sfnField hb').trans hb.symm)
  rw [List.mem_append, not_or] at hblank
  exact ⟨map_of_sfnField hb' hblank.1, map_of_sfnField he' hblank.2⟩

/-- A character of the temporary file's name, in either case and with any accent. -/
theorem of_sfnChar_mem {c : UInt8} (h : sfnChar c ∈ uploadTempName) :
    0x20 ≤ c ∧ c ≠ 0x5C ∧ c ≠ 0x2F ∧ c ∉ sfnLossy ∧ (sfnChar c = 0x2E ↔ c = 0x2E) := by
  have hall : ∀ n : Fin 256, sfnChar (UInt8.ofFin n) ∈ uploadTempName →
      0x20 ≤ UInt8.ofFin n ∧ UInt8.ofFin n ≠ 0x5C ∧ UInt8.ofFin n ≠ 0x2F ∧
        UInt8.ofFin n ∉ sfnLossy ∧ (sfnChar (UInt8.ofFin n) = 0x2E ↔ UInt8.ofFin n = 0x2E) := by
    decide +kernel
  exact hall c.toFin h

/-- The temporary file's name, and blanks and dots behind it. -/
def UploadSegment (segment : List UInt8) : Prop :=
  ∃ name tail, segment = name ++ tail ∧ name.map sfnChar = uploadTempName ∧
    ∀ c ∈ tail, c = 0x20 ∨ c = 0x2E

theorem UploadSegment.of_mem (h : UploadSegment segment) {c : UInt8} (hc : c ∈ segment) :
    0x20 ≤ c ∧ c ≠ 0x5C ∧ c ≠ 0x2F := by
  obtain ⟨name, tail, rfl, hname, htail⟩ := h
  rcases List.mem_append.mp hc with hc | hc
  · have hmem := hname ▸ List.mem_map_of_mem hc
    exact ⟨(of_sfnChar_mem hmem).1, (of_sfnChar_mem hmem).2.1, (of_sfnChar_mem hmem).2.2.1⟩
  · rcases htail c hc with rfl | rfl <;> decide

theorem UploadSegment.length (h : UploadSegment segment) : 12 ≤ segment.length := by
  obtain ⟨name, tail, rfl, hname, -⟩ := h
  have hlength : name.length = 12 := (List.length_map sfnChar).symm.trans (congrArg _ hname)
  rw [List.length_append]
  omega

/-- The last character of the name ends the snipping. -/
theorem rdropWhile_uploadName {name tail : List UInt8} (hname : name.map sfnChar = uploadTempName)
    (htail : ∀ c ∈ tail, c = 0x20 ∨ c = 0x2E) :
    (name ++ tail).rdropWhile (fun c => c = 0x20 ∨ c = 0x2E) = name := by
  have hlast := congrArg List.getLast? hname
  rw [List.getLast?_map] at hlast
  obtain ⟨c, hc, hupper⟩ := Option.map_eq_some_iff.mp hlast
  obtain ⟨start, rfl⟩ := List.getLast?_eq_some_iff.mp hc
  rw [List.rdropWhile, List.reverse_append, List.dropWhile_append_of_pos (by simpa using htail),
    List.reverse_concat, List.dropWhile_cons_of_neg, List.reverse_cons, List.reverse_reverse]
  rw [decide_eq_true_eq]
  rintro (rfl | rfl) <;> exact absurd hupper (by decide)

/-- **The segments with the short name of the temporary file.** -/
theorem createName_eq_upload_iff :
    createName segment = createName uploadTempName ↔ UploadSegment segment := by
  have hupload : createName uploadTempName
      = some (uploadTempName.take 8 ++ uploadTempName.drop 9) := by decide +kernel
  rw [hupload]
  constructor
  -- a name that becomes the short one is, without its tail, that name in any case
  · intro h
    refine ⟨segment.rdropWhile fun c => c = 0x20 ∨ c = 0x2E,
      segment.rtakeWhile fun c => c = 0x20 ∨ c = 0x2E, ?_, ?_, fun c hc => ?_⟩
    · exact (List.rdropWhile_append_rtakeWhile ..).symm
    · unfold createName at h
      generalize segment.rdropWhile (fun c => c = 0x20 ∨ c = 0x2E) = lfn at h ⊢
      have hjoin : [0x2E].intercalate (lfn.splitOn 0x2E) = lfn := List.intercalate_splitOn _
      split at h
      · -- without a dot the extension is blank
        have hblank := (shortName_eq_some h (by decide) (by decide)).2
        exact absurd hblank (by decide)
      · next body extension hsplit =>
        obtain ⟨hbody, hextension⟩ := shortName_eq_some h (by decide) (by decide)
        have hlfn : lfn = body ++ 0x2E :: extension := by
          simpa [hsplit, List.intercalate] using hjoin.symm
        rw [hlfn, List.map_append, List.map_cons, hbody, hextension]
        decide
      · cases h
    · simpa using List.mem_rtakeWhile_imp hc
  · rintro ⟨name, tail, rfl, hname, htail⟩
    have hsnip := rdropWhile_uploadName hname htail
    -- no character of it is lost, and only the dot becomes a dot
    have hchars : ∀ c ∈ name, c ∉ sfnLossy ∧ (sfnChar c = 0x2E ↔ c = 0x2E) := fun c hc =>
      (of_sfnChar_mem (hname ▸ List.mem_map_of_mem hc)).2.2.2
    obtain ⟨body, rest, rfl, hbody, hrest⟩ := List.map_eq_append_iff.mp
      (hname.trans (List.take_append_drop 8 uploadTempName).symm)
    obtain ⟨dot, extension, rfl, hdot, hextension⟩ := List.map_eq_cons_iff.mp
      (hrest.trans (show _ = 0x2E :: uploadTempName.drop 9 by decide))
    obtain rfl := (hchars dot (by simp)).2.mp hdot
    have hsplit : (body ++ 0x2E :: extension).splitOn 0x2E = [body, extension] := by
      have hdots : ∀ l ∈ [body, extension], 0x2E ∉ l := by
        simp only [List.forall_mem_cons]
        refine ⟨fun h => ?_, fun h => ?_, by simp⟩
        · exact absurd (hbody ▸ List.mem_map_of_mem h : sfnChar 0x2E ∈ _) (by decide)
        · exact absurd (hextension ▸ List.mem_map_of_mem h : sfnChar 0x2E ∈ _) (by decide)
      simpa [List.intercalate] using List.splitOn_intercalate _ hdots (by simp)
    have hb : sfnField 8 body = some _ :=
      sfnField_of_map hbody fun c hc => (hchars c (by simp [hc])).1
    have he : sfnField 3 extension = some _ :=
      sfnField_of_map hextension fun c hc => (hchars c (by simp [hc])).1
    have hne : body ≠ [] := by
      rintro rfl
      exact absurd hbody (by decide)
    unfold createName
    rw [hsnip, hsplit]
    show shortName body extension = _
    rw [shortName, if_neg hne, hb, he]
    rfl

end

/-! ### Paths -/

/-- The file of the root directory that `follow_path` finds: the short name of the first segment,
and the path from the second one on. -/
def fatName (path : List UInt8) : Option (List UInt8) × List UInt8 :=
  (createName ((firstSegment (path.drop 6)).takeWhile (· ≠ 0x2F)),
    firstSegment (afterSegment (path.drop 6)))

/-- The paths of the flash volume that name the temporary file, which has a short name only, are
those with its short name. -/
def FatNames (env : FatEnv ν) : Prop :=
  ∀ path, FlashPath path →
    (env.name path = env.name uploadTempPath ↔ fatName path = fatName uploadTempPath)

/-- Another spelling of the temporary file: in another case, with accents, with blanks and dots
behind it, or with more separators. -/
def UploadSpelling (path : List UInt8) : Prop :=
  ∃ n segment m, path = flashPathStart ++
      (List.replicate (n + 1) 0x2F ++ (segment ++ List.replicate m 0x2F)) ∧
    UploadSegment segment ∧ path ≠ uploadTempPath

section

variable {n m : ℕ} {segment : List UInt8}

theorem firstSegment_append {rest : List UInt8} (h : rest.head? ≠ some 0x2F) :
    firstSegment (List.replicate n 0x2F ++ rest) = rest := by
  rw [firstSegment, List.dropWhile_append_of_pos (by simp)]
  cases rest with
  | nil => rfl
  | cons c rest => exact List.dropWhile_cons_of_neg (by simpa using h)

theorem firstSegment_replicate : firstSegment (List.replicate m 0x2F) = [] := by
  simpa using @firstSegment_append m [] (by simp)

/-- A segment between separators. -/
theorem segment_eq (hsegment : segment ≠ []) (hslash : 0x2F ∉ segment) :
    (firstSegment (List.replicate n 0x2F ++ (segment ++ List.replicate m 0x2F))).takeWhile
        (· ≠ 0x2F) = segment ∧
      afterSegment (List.replicate n 0x2F ++ (segment ++ List.replicate m 0x2F))
        = List.replicate m 0x2F := by
  have hpos : ∀ c ∈ segment, decide (c ≠ 0x2F) = true := fun c hc =>
    decide_eq_true fun h => hslash (h ▸ hc)
  have hhead : (segment ++ List.replicate m 0x2F).head? ≠ some 0x2F := by
    obtain ⟨c, rest, rfl⟩ := List.exists_cons_of_ne_nil hsegment
    simp only [List.mem_cons, not_or] at hslash
    simpa using Ne.symm hslash.1
  rw [afterSegment, firstSegment_append hhead, List.takeWhile_append_of_pos hpos,
    List.dropWhile_append_of_pos hpos]
  cases m with
  | zero => simp
  | succ m => simp [List.replicate_succ]

theorem segmentsValid_replicate : segmentsValid (List.replicate m 0x2F) = true := by
  cases m with
  | zero =>
    rw [segmentsValid]
    rfl
  | succ m =>
    rw [segmentsValid, if_neg (by simp), afterSegment, firstSegment_replicate, segmentsValid]
    rfl

theorem UploadSpelling.length {path : List UInt8} (h : UploadSpelling path) :
    19 ≤ path.length := by
  obtain ⟨n, segment, m, rfl, hsegment, -⟩ := h
  have hlength := hsegment.length
  have h6 : flashPathStart.length = 6 := rfl
  simp only [List.length_append, List.length_replicate]
  omega

theorem UploadSpelling.flashPath {path : List UInt8} (h : UploadSpelling path) :
    FlashPath path := by
  obtain ⟨n, segment, m, rfl, hsegment, -⟩ := h
  have hlength := hsegment.length
  obtain ⟨htake, hafter⟩ := @segment_eq (n + 1) m segment
    (by rintro rfl; exact absurd hlength (by decide)) fun hc => (hsegment.of_mem hc).2.2 rfl
  rw [FlashPath.append_iff]
  refine ⟨Or.inr rfl, ?_, ?_⟩
  · have hnone : 0x5C ∉ segment := fun hc => (hsegment.of_mem hc).2.1 rfl
    simp [flashPathStart, List.mem_replicate, hnone]
  · -- the loop meets the segment and then separators only
    rw [segmentsValid, if_neg (by simp [List.replicate_succ])]
    simp only
    rw [htake, hafter, if_neg, if_neg, segmentsValid_replicate]
    · simp only [List.any_eq_true, decide_eq_true_eq, not_exists, not_and, UInt8.not_lt]
      exact fun c hc => (hsegment.of_mem hc).1
    · rintro (rfl | rfl) <;> exact absurd hlength (by decide)

/-- **A path of the flash volume names the temporary file when it is one of its spellings.** -/
theorem fatName_eq_upload_iff {path : List UInt8} (h : FlashPath path) :
    fatName path = fatName uploadTempPath ↔ path = uploadTempPath ∨ UploadSpelling path := by
  have hupload : fatName uploadTempPath = (createName uploadTempName, []) := by decide +kernel
  rw [hupload, fatName, Prod.mk.injEq, createName_eq_upload_iff]
  constructor
  · rintro ⟨hsegment, hlast⟩
    by_cases htemp : path = uploadTempPath
    · exact Or.inl htemp
    obtain ⟨rest, rfl, hrest⟩ := h.exists_eq
    obtain ⟨n, tail, rfl, hhead⟩ := exists_replicate_append 0x2F rest
    have hdrop : (flashPathStart ++ (List.replicate n 0x2F ++ tail)).drop 6
        = List.replicate n 0x2F ++ tail := rfl
    rw [hdrop, afterSegment, firstSegment_append hhead] at hlast
    rw [hdrop, firstSegment_append hhead] at hsegment
    -- behind the segment there are separators only
    have hafter : tail.dropWhile (· ≠ 0x2F)
        = List.replicate (tail.dropWhile (· ≠ 0x2F)).length 0x2F := by
      refine List.eq_replicate_of_mem fun c hc => ?_
      simpa using List.dropWhile_eq_nil_iff.mp hlast c hc
    have htail := List.takeWhile_append_dropWhile (p := (· ≠ (0x2F : UInt8))) (l := tail)
    rw [hafter] at htail
    cases n with
    | zero =>
      rcases hrest with hnil | hslash
      · have hlength := hsegment.length
        rw [show tail = [] from hnil] at hlength
        exact absurd hlength (by decide)
      · exact absurd hslash hhead
    | succ n => exact Or.inr ⟨n, _, _, by rw [htail], hsegment, htemp⟩
  · rintro (rfl | ⟨n, segment, m, rfl, hsegment, -⟩)
    · exact ⟨⟨uploadTempName, [], by decide +kernel, by decide, by simp⟩, by decide +kernel⟩
    · have hlength := hsegment.length
      obtain ⟨htake, hafter⟩ := @segment_eq (n + 1) m segment
        (by rintro rfl; exact absurd hlength (by decide)) fun hc => (hsegment.of_mem hc).2.2 rfl
      have hdrop : (flashPathStart ++ (List.replicate (n + 1) 0x2F ++
          (segment ++ List.replicate m 0x2F))).drop 6
            = List.replicate (n + 1) 0x2F ++ (segment ++ List.replicate m 0x2F) := rfl
      rw [hdrop, htake, hafter, firstSegment_replicate]
      exact ⟨hsegment, rfl⟩

end

/-! ### Requests -/

section

variable {env : FatEnv ν} {source : List UInt8} {length : UInt8} {capacity : ℕ}

/-- An accepted path names the temporary file when it is another spelling of it. -/
theorem FatNames.accepted_iff (hnames : FatNames env) {path : List UInt8}
    (hsource : length.toNat ≤ source.length)
    (haccepts : validFlashPath source length capacity = some path) :
    env.name path = env.name uploadTempPath ↔ UploadSpelling path := by
  obtain ⟨-, hflash, htemp, -⟩ := (validFlashPath_eq_some_iff hsource).mp haccepts
  rw [hnames path hflash, fatName_eq_upload_iff hflash]
  exact or_iff_right htemp

/-- Every other spelling that fits is accepted. -/
theorem UploadSpelling.accepted (h : UploadSpelling (cString (source.take length.toNat)))
    (hsource : length.toNat ≤ source.length) (hcapacity : length.toNat < capacity) :
    validFlashPath source length capacity = some (cString (source.take length.toNat)) := by
  have hflash := h.flashPath
  have hmore : cString (source.take length.toNat) ≠ flashPathStart := by
    intro heq
    have hlength := h.length
    rw [heq] at hlength
    exact absurd hlength (by decide)
  have htemp : cString (source.take length.toNat) ≠ uploadTempPath := by
    obtain ⟨-, -, -, -, -, htemp⟩ := h
    exact htemp
  refine (validFlashPath_eq_some_iff hsource).mpr ⟨hcapacity, hflash, htemp, ?_⟩
  rcases (cString_eq_iff hflash.zero_notMem).mp (Eq.refl (cString (source.take length.toNat)))
    with heq | ⟨rest, heq⟩
  · exact Or.inl heq
  · exact Or.inr ⟨hmore, rest, heq⟩

theorem length_lt_of_validFlashPath {path : List UInt8}
    (h : validFlashPath source length capacity = some path) : length.toNat < capacity := by
  unfold validFlashPath at h
  simp only [Option.ite_none_left_eq_some, not_or, ge_iff_le, Nat.not_le] at h
  exact h.1.2

end

section

variable [DecidableEq ν] {env : FatEnv ν} {request : Message} {s : Flash ν}

/-- The service with another content of the temporary file, or without one. -/
def Flash.withUpload (env : FatEnv ν) (s : Flash ν) (content : Option (List UInt8)) : Flash ν :=
  { s with fat := { s.fat with
      files := Function.update s.fat.files (env.name uploadTempPath) content } }

/-- A read of another file does not see the temporary one. -/
theorem handleRead_withUpload (content : Option (List UInt8))
    (hpath : ∀ path, validFlashPath (request.payload.drop 8) (request.byte 1)
      (filesystemReadPathBytes + 1) = some path → env.name path ≠ env.name uploadTempPath) :
    (handleRead env request (s.withUpload env content)).1 = (handleRead env request s).1 := by
  rcases handleRead_cases env request with ⟨reply, hrefused⟩ | ⟨path, haccepts, hread⟩
  · rw [hrefused, hrefused]
  · have hfile : (s.withUpload env content).fat.files (env.name path)
        = s.fat.files (env.name path) := Function.update_of_ne (hpath path haccepts) ..
    rw [hread, hread, readFlashFile_eq, readFlashFile_eq, hfile]
    rfl

/-- A request that is no `WRITE_BEGIN` keeps the target. -/
theorem handleOperation_targetPath (hbegin : request.byte 0 ≠ filesystemWriteBegin) :
    (handleOperation env request s).2.service.targetPath = s.service.targetPath := by
  by_cases hreads : request.Reads
  · obtain ⟨_, _, heq⟩ := handleOperation_onlyRead env s hreads
    rw [heq]
  simp only [Message.Reads, not_and_or, not_not] at hreads
  rcases hreads with h | h | h
  · exact absurd h hbegin
  · simp only [handleOperation, h]
    show (handleWriteData env request s).2.service.targetPath = _
    unfold handleWriteData
    simp only
    split_ifs <;> rfl
  · simp only [handleOperation, h]
    show (handleWriteCommit env request s).2.service.targetPath = _
    unfold handleWriteCommit
    simp only
    split_ifs <;> rfl

/-- A `WRITE_BEGIN` keeps the target or takes the path it names. -/
theorem handleWriteBegin_targetPath :
    (handleWriteBegin env request s).2.service.targetPath = s.service.targetPath ∨
      validFlashPath (request.payload.drop 16) (request.byte 1) (filesystemWritePathBytes + 1)
        = some (handleWriteBegin env request s).2.service.targetPath := by
  unfold handleWriteBegin
  split_ifs
  · exact Or.inl rfl
  · exact Or.inl rfl
  · cases validFlashPath (request.payload.drop 16) (request.byte 1)
      (filesystemWritePathBytes + 1) with
    | none => exact Or.inl rfl
    | some path =>
      simp only
      split_ifs
      · exact Or.inl rfl
      · exact Or.inr rfl

/-- The target changes only when a `WRITE_BEGIN` is taken, to the path it names. -/
theorem flashStep_targetPath (s : Flash ν) (record : Record) :
    (flashStep env s record).service.targetPath = s.service.targetPath ∨
      (Message.ofRecord record).byte 0 = filesystemWriteBegin ∧
      validFlashPath ((Message.ofRecord record).payload.drop 16) ((Message.ofRecord record).byte 1)
        (filesystemWritePathBytes + 1) = some (flashStep env s record).service.targetPath := by
  unfold flashStep flashServiceHandle
  split_ifs
  · exact Or.inl rfl
  · exact Or.inl rfl
  · by_cases hbegin : (Message.ofRecord record).byte 0 = filesystemWriteBegin
    · have hhandler : handleOperation env (Message.ofRecord record) s
          = handleWriteBegin env (Message.ofRecord record) s := by
        simp only [handleOperation, hbegin]
        rfl
      rw [hhandler]
      exact handleWriteBegin_targetPath.imp_right fun hpath => ⟨hbegin, hpath⟩
    · exact Or.inl (handleOperation_targetPath hbegin)

/-- **The temporary file and the paths of the Host.**  An accepted path does not name the temporary
file exactly when it is not another spelling of it.  A read that does not use one is answered the
same whatever the file holds, and as long as no `WRITE_BEGIN` uses one, every target that was named
is another file. -/
theorem upload_file_unreachable_iff (env : FatEnv ν) (hnames : FatNames env) :
    (∀ (source : List UInt8) (length : UInt8) (capacity : ℕ), length.toNat ≤ source.length →
      ((∀ path, validFlashPath source length capacity = some path →
          env.name path ≠ env.name uploadTempPath) ↔
        (length.toNat < capacity → ¬ UploadSpelling (cString (source.take length.toNat))))) ∧
    (∀ (request : Message) (s : Flash ν) (content : Option (List UInt8)),
      ¬ UploadSpelling (cString ((request.payload.drop 8).take (request.byte 1).toNat)) →
      (handleRead env request (s.withUpload env content)).1 = (handleRead env request s).1) ∧
    (∀ (available : Bool) (label : List UInt8) (freeKib : UInt32) (fat : Fat ν)
      (records : List Record),
      (∀ record ∈ records, (Message.ofRecord record).byte 0 = filesystemWriteBegin →
        ¬ UploadSpelling (Message.ofRecord record).filesystemTarget) →
      let s := flashRun env (flashServiceInit env available label freeKib fat) records
      s.service.targetPath ≠ [] → env.name s.service.targetPath ≠ env.name uploadTempPath) := by
  have h52 : payloadSize = 52 := rfl
  refine ⟨fun source length capacity hsource => ⟨fun h hcapacity hspelling => ?_,
    fun h path haccepts => ?_⟩, fun request s content hspelling => ?_,
    fun available label freeKib fat records hrecords => ?_⟩
  · have haccepts := hspelling.accepted hsource hcapacity
    exact h _ haccepts ((hnames.accepted_iff hsource haccepts).mpr hspelling)
  · rw [Ne, hnames.accepted_iff hsource haccepts, validFlashPath_eq_some haccepts]
    exact h (length_lt_of_validFlashPath haccepts)
  · refine handleRead_withUpload content fun path haccepts => ?_
    have hfits := length_lt_of_validFlashPath haccepts
    have hsource : (request.byte 1).toNat ≤ (request.payload.drop 8).length := by
      rw [List.length_drop, request.length_payload]
      have h44 : filesystemReadPathBytes = 44 := rfl
      omega
    rw [Ne, hnames.accepted_iff hsource haccepts, validFlashPath_eq_some haccepts]
    exact hspelling
  -- the target of an upload is only set by a `WRITE_BEGIN`, to the path that it names
  · have hstep := @run_invariant_of_mem (Flash ν) Record (flashStep env)
      (fun s => s.service.targetPath ≠ [] →
        env.name s.service.targetPath ≠ env.name uploadTempPath)
      (fun record => (Message.ofRecord record).byte 0 = filesystemWriteBegin →
        ¬ UploadSpelling (Message.ofRecord record).filesystemTarget)
    refine hstep (fun s record hrecord hs => ?_) records hrecords ?_
    · rcases flashStep_targetPath s record with hkept | ⟨hbegin, haccepts⟩
      · rw [hkept]
        exact hs
      · intro _
        have hfits := length_lt_of_validFlashPath haccepts
        have hsource : ((Message.ofRecord record).byte 1).toNat
            ≤ ((Message.ofRecord record).payload.drop 16).length := by
          rw [List.length_drop, (Message.ofRecord record).length_payload]
          have h36 : filesystemWritePathBytes = 36 := rfl
          omega
        rw [Ne, hnames.accepted_iff hsource haccepts, validFlashPath_eq_some haccepts]
        exact hrecord hbegin
    · exact fun hnone => absurd rfl hnone

end

/-- A volume whose names compare as FatFs compares them. -/
def foldedFatEnv : FatEnv (Option (List UInt8) × List UInt8) where
  name := fatName
  result := plainFatEnv.result
  room := plainFatEnv.room
  entries := plainFatEnv.entries
  free := plainFatEnv.free

theorem upload_file_unreachable_iff_folded :
    validFlashPath (ascii "flash:/A") 8 45 = some (ascii "flash:/A") ∧
      foldedFatEnv.name (ascii "flash:/A") ≠ foldedFatEnv.name uploadTempPath := by
  have haccepts : validFlashPath (ascii "flash:/A") 8 45 = some (ascii "flash:/A") := by
    decide +kernel
  have hiff := (upload_file_unreachable_iff foldedFatEnv (fun _ _ => Iff.rfl)).1
    (ascii "flash:/A") 8 45 (by decide)
  exact ⟨haccepts, hiff.mpr (fun _ h => absurd h.length (by decide)) _ haccepts⟩

/-- The records of an upload to `flash:/pi86upld.tmp`. -/
def uploadOntoItself : List Record :=
  [(writeBeginRequest 1 (ascii "flash:/pi86upld.tmp") 7 1 (crc32 [2]).toNat).toRecord,
    (writeDataRequest 2 7 (0, [2])).toRecord]

/-- The upload is accepted, its target is the temporary file, and its commit deletes it. -/
theorem commit_deletes_upload :
    let s := flashRun foldedFatEnv (flashServiceInit foldedFatEnv true [] 0 ⟨fun _ => none, 0⟩)
      uploadOntoItself
    s.service.targetPath = ascii "flash:/pi86upld.tmp" ∧
      foldedFatEnv.name s.service.targetPath = foldedFatEnv.name uploadTempPath ∧
      s.fat.files (foldedFatEnv.name uploadTempPath) = some [2] ∧
      (flashReply foldedFatEnv s (writeCommitRequest 3 7).toRecord).map Message.status
        = some HostStatus.notFound.code ∧
      (flashStep foldedFatEnv s (writeCommitRequest 3 7).toRecord).fat.files
        (foldedFatEnv.name uploadTempPath) = none := by
  decide +kernel

end Rp86
