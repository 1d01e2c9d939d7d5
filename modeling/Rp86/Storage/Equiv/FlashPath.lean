import Rp86.Storage.Equiv.FlashService

/-!
# Paths of the flash service

`FlashPath` says which paths the Host may name.  `valid_flash_path` accepts those, of any length
below the capacity, but for the temporary file of an upload (`validFlashPath_eq_some_iff`).  It
looks at the C string in the request, so that it also accepts such a path with a zero byte behind
it.
-/

namespace Rp86

open Lib

/-! ### Segments -/

theorem mem_segments_iff {rest segment : List UInt8} (h : segment ≠ []) :
    segment ∈ rest.splitOnP (· = 0x2F) ↔
      segment = (firstSegment rest).takeWhile (· ≠ 0x2F) ∨
        segment ∈ (afterSegment rest).splitOnP (· = 0x2F) := by
  have hnot : (fun c : UInt8 => !decide (c = 0x2F)) = fun c => decide (c ≠ 0x2F) := by
    funext c
    rw [decide_not]
  rw [← mem_splitOnP_dropWhile h, mem_splitOnP_iff h, hnot]
  rfl

/-- A path is its separators, a segment and what is left. -/
theorem mem_path_iff {rest : List UInt8} {c : UInt8} (hc : c ≠ 0x2F) :
    c ∈ rest ↔ c ∈ (firstSegment rest).takeWhile (· ≠ 0x2F) ∨ c ∈ afterSegment rest := by
  have hslashes : c ∉ rest.takeWhile (· = 0x2F) := by
    intro hmem
    have hslash := List.mem_takeWhile_imp hmem
    exact hc (of_decide_eq_true hslash)
  rw [← List.mem_append, afterSegment, List.takeWhile_append_dropWhile]
  conv_lhs => rw [← List.takeWhile_append_dropWhile (p := (· = (0x2F : UInt8))) (l := rest)]
  rw [List.mem_append]
  simp [hslashes, firstSegment]

theorem forall_segments_iff {rest : List UInt8} {P : List UInt8 → Prop} (hnil : P []) :
    (∀ segment ∈ rest.splitOnP (· = 0x2F), P segment) ↔
      P ((firstSegment rest).takeWhile (· ≠ 0x2F)) ∧
        ∀ segment ∈ (afterSegment rest).splitOnP (· = 0x2F), P segment := by
  constructor
  · intro h
    refine ⟨?_, fun segment hsegment => ?_⟩
    · by_cases hempty : (firstSegment rest).takeWhile (· ≠ 0x2F) = []
      · rwa [hempty]
      · exact h _ ((mem_segments_iff hempty).mpr (Or.inl rfl))
    · by_cases hempty : segment = []
      · rwa [hempty]
      · exact h segment ((mem_segments_iff hempty).mpr (Or.inr hsegment))
  · rintro ⟨hfirst, hafter⟩ segment hsegment
    by_cases hempty : segment = []
    · rwa [hempty]
    · rcases (mem_segments_iff hempty).mp hsegment with rfl | h
      · exact hfirst
      · exact hafter segment h

theorem forall_path_iff {rest : List UInt8} {P : UInt8 → Prop} (hslash : P 0x2F) :
    (∀ c ∈ rest, P c) ↔
      (∀ c ∈ (firstSegment rest).takeWhile (· ≠ 0x2F), P c) ∧ ∀ c ∈ afterSegment rest, P c := by
  rw [← List.forall_mem_append]
  refine forall_congr' fun c => ?_
  by_cases hc : c = 0x2F
  · rw [hc]
    exact iff_of_true (fun _ => hslash) fun _ => hslash
  · rw [mem_path_iff hc, List.mem_append]

theorem segmentsValid_iff (rest : List UInt8) :
    segmentsValid rest = true ↔
      (∀ segment ∈ rest.splitOnP (· = 0x2F), segment ≠ [0x2E] ∧ segment ≠ [0x2E, 0x2E]) ∧
      ∀ c ∈ rest, 0x20 ≤ c := by
  -- along the loop, which leaves the path from the end of its first segment on
  induction rest using segmentsValid.induct with
  | case1 =>
    rw [segmentsValid, if_pos rfl]
    simp
  | case2 rest hrest segment hdots =>
    rw [segmentsValid, if_neg hrest, forall_segments_iff (by simp)]
    simp only
    rw [if_pos hdots]
    exact iff_of_false Bool.false_ne_true fun h => hdots.elim h.1.1.1 h.1.1.2
  | case3 rest hrest segment hdots hcontrol =>
    rw [segmentsValid, if_neg hrest, forall_path_iff (by decide)]
    simp only
    rw [if_neg hdots, if_pos hcontrol]
    refine iff_of_false Bool.false_ne_true fun h => ?_
    obtain ⟨c, hc, hlow⟩ := List.any_eq_true.mp hcontrol
    exact absurd (h.2.1 c hc) (UInt8.not_le.mpr (of_decide_eq_true hlow))
  | case4 rest hrest segment hdots hcontrol ih =>
    rw [segmentsValid, if_neg hrest, forall_segments_iff (by simp), forall_path_iff (by decide)]
    simp only
    rw [if_neg hdots, if_neg hcontrol, ih]
    have hprintable : ∀ c ∈ segment, 0x20 ≤ c := fun c hc => UInt8.not_lt.mp fun hlow =>
      hcontrol (List.any_eq_true.mpr ⟨c, hc, decide_eq_true hlow⟩)
    rw [and_iff_right (not_or.mp hdots), and_iff_right hprintable]

/-! ### Accepted paths -/

/-- The segments of a path behind the volume. -/
def flashSegments (path : List UInt8) : List (List UInt8) := (path.drop 6).splitOnP (· = 0x2F)

/-- A path on the flash volume that names no directory relatively. -/
structure FlashPath (path : List UInt8) : Prop where
  volume : path = flashPathStart ∨ flashPathStart ++ [0x2F] <+: path
  backslash : 0x5C ∉ path
  printable : ∀ c ∈ path, 0x20 ≤ c
  segments : ∀ segment ∈ flashSegments path, segment ≠ [0x2E] ∧ segment ≠ [0x2E, 0x2E]

namespace FlashPath

variable {path : List UInt8}

instance : Decidable (FlashPath path) :=
  have : Decidable (∀ c ∈ path, 0x20 ≤ c) := List.decidableBAll _ _
  decidable_of_iff
    ((path = flashPathStart ∨ flashPathStart ++ [0x2F] <+: path) ∧ 0x5C ∉ path ∧
      (∀ c ∈ path, 0x20 ≤ c) ∧
      ∀ segment ∈ flashSegments path, segment ≠ [0x2E] ∧ segment ≠ [0x2E, 0x2E])
    ⟨fun h => ⟨h.1, h.2.1, h.2.2.1, h.2.2.2⟩,
      fun h => ⟨h.volume, h.backslash, h.printable, h.segments⟩⟩

theorem zero_notMem (h : FlashPath path) : 0 ∉ path := fun hzero =>
  absurd (h.printable 0 hzero) (by decide)

/-- The path behind the volume starts with a separator, when there is anything. -/
theorem exists_eq (h : FlashPath path) :
    ∃ rest, path = flashPathStart ++ rest ∧ (rest = [] ∨ rest.head? = some 0x2F) := by
  rcases h.volume with rfl | ⟨rest, rfl⟩
  · exact ⟨[], rfl, Or.inl rfl⟩
  · exact ⟨0x2F :: rest, by rw [List.append_assoc]; rfl, Or.inr rfl⟩

/-- The volume, and a path behind it that the loop accepts. -/
theorem append_iff (rest : List UInt8) :
    FlashPath (flashPathStart ++ rest) ↔
      (rest = [] ∨ rest.head? = some 0x2F) ∧ 0x5C ∉ flashPathStart ++ rest ∧
        segmentsValid rest = true := by
  rw [segmentsValid_iff]
  constructor
  · intro h
    refine ⟨?_, h.backslash, h.segments, fun c hc => h.printable c ?_⟩
    · obtain ⟨rest', heq, hrest⟩ := h.exists_eq
      rwa [List.append_cancel_left heq]
    · exact List.mem_append_right _ hc
  · rintro ⟨hhead, hbackslash, hsegments, hprintable⟩
    refine ⟨?_, hbackslash, fun c hc => ?_, hsegments⟩
    · rcases hhead with rfl | hslash
      · exact Or.inl (List.append_nil _)
      · obtain ⟨tail, rfl⟩ := List.head?_eq_some_iff.mp hslash
        exact Or.inr ⟨tail, by rw [List.append_assoc]; rfl⟩
    · rcases List.mem_append.mp hc with hstart | hrest
      · have hall : ∀ c ∈ flashPathStart, 0x20 ≤ c := by decide +kernel
        exact hall c hstart
      · exact hprintable c hrest

end FlashPath

section

variable {source path rest : List UInt8} {length : UInt8} {capacity : ℕ}

/-- The checks, when the request names the flash volume. -/
theorem validFlashPath_volume (hbytes : source.take length.toNat = flashPathStart ++ rest)
    (hlength : length.toNat = 6 + rest.length) :
    validFlashPath source length capacity = some path ↔
      length.toNat < capacity ∧ (rest = [] ∨ rest.head? = some 0x2F) ∧
        path = flashPathStart ++ cString rest ∧ FlashPath path ∧ path ≠ uploadTempPath := by
  have h6 : (6 : UInt8).toNat = 6 := rfl
  have hfits : ¬ (length < 6 ∨ length.toNat ≥ capacity) ↔ length.toNat < capacity := by
    rw [UInt8.lt_iff_toNat_lt, h6]
    omega
  have hcString : cString (flashPathStart ++ rest) = flashPathStart ++ cString rest :=
    cString_append (by decide) rest
  have hslash : (length > 6 ∧ (flashPathStart ++ rest).getD 6 0 ≠ 0x2F) ↔
      ¬ (rest = [] ∨ rest.head? = some 0x2F) := by
    rw [gt_iff_lt, UInt8.lt_iff_toNat_lt, h6, hlength]
    cases rest with
    | nil => simp
    | cons c rest =>
      show 6 < 6 + (rest.length + 1) ∧ c ≠ 0x2F ↔ _
      simp
  -- the C string has the separator behind the volume, if the request has it
  have hhead : rest = [] ∨ rest.head? = some 0x2F →
      cString rest = [] ∨ (cString rest).head? = some 0x2F := by
    rintro (rfl | hhead)
    · exact Or.inl rfl
    · obtain ⟨tail, rfl⟩ := List.head?_eq_some_iff.mp hhead
      exact Or.inr rfl
  have hdrop : (flashPathStart ++ cString rest).drop 6 = cString rest := rfl
  have htake : (flashPathStart ++ rest).take 6 = flashPathStart := rfl
  unfold validFlashPath
  simp only [hbytes, hcString, Option.ite_none_left_eq_some, hdrop, htake, hslash, hfits,
    Decidable.not_not, Bool.not_eq_true', Bool.not_eq_false, Option.some.injEq, not_true_eq_false,
    not_false_eq_true, true_and, ne_eq]
  constructor
  · rintro ⟨hcapacity, hrest, hbackslash, hsegments, htemp, rfl⟩
    exact ⟨hcapacity, hrest, rfl,
      (FlashPath.append_iff _).mpr ⟨hhead hrest, hbackslash, hsegments⟩, htemp⟩
  · rintro ⟨hcapacity, hrest, rfl, hpath, htemp⟩
    obtain ⟨-, hbackslash, hsegments⟩ := (FlashPath.append_iff _).mp hpath
    exact ⟨hcapacity, hrest, hbackslash, hsegments, htemp, rfl⟩

/-- Only a request that names the flash volume is accepted. -/
theorem volume_of_validFlashPath (h : validFlashPath source length capacity = some path) :
    ∃ rest, source.take length.toNat = flashPathStart ++ rest := by
  unfold validFlashPath at h
  simp only [Option.ite_none_left_eq_some, Decidable.not_not] at h
  obtain ⟨-, hstart, -⟩ := h
  refine ⟨(source.take length.toNat).drop 6, ?_⟩
  rw [← hstart, List.take_append_drop]

/-- **A path is accepted when it is one of the flash volume, fits and is not the temporary file, and
the request holds nothing else, or a zero byte and anything behind it.**  The volume alone must end
the request. -/
theorem validFlashPath_eq_some_iff (hsource : length.toNat ≤ source.length) :
    validFlashPath source length capacity = some path ↔
      length.toNat < capacity ∧ FlashPath path ∧ path ≠ uploadTempPath ∧
        (source.take length.toNat = path ∨
          path ≠ flashPathStart ∧ ∃ rest, source.take length.toNat = path ++ 0 :: rest) := by
  have hbytes : (source.take length.toNat).length = length.toNat := by
    rw [List.length_take]
    omega
  constructor
  · intro h
    obtain ⟨rest, hrest⟩ := volume_of_validFlashPath h
    have hlength : length.toNat = 6 + rest.length := by
      rw [← hbytes, hrest, List.length_append]
      rfl
    obtain ⟨hcapacity, hhead, hpath, hflash, htemp⟩ := (validFlashPath_volume hrest hlength).mp h
    refine ⟨hcapacity, hflash, htemp, ?_⟩
    have hcString : cString (source.take length.toNat) = path := by
      rw [hpath, hrest, cString_append (by decide)]
    rcases (cString_eq_iff hflash.zero_notMem).mp hcString with heq | ⟨behind, heq⟩
    · exact Or.inl heq
    · refine Or.inr ⟨?_, behind, heq⟩
      -- behind the volume alone the request would go on with the zero
      rintro rfl
      rw [hrest] at heq
      rw [List.append_cancel_left heq] at hhead
      simp at hhead
  · rintro ⟨hcapacity, hflash, htemp, hrequest⟩
    obtain ⟨rest, rfl, hrest⟩ := hflash.exists_eq
    have hzero : 0 ∉ rest := fun hmem => hflash.zero_notMem (List.mem_append_right _ hmem)
    rcases hrequest with heq | ⟨hmore, behind, heq⟩
    · have hlength : length.toNat = 6 + rest.length := by
        rw [← hbytes, heq, List.length_append]
        rfl
      rw [validFlashPath_volume heq hlength, (cString_eq_iff hzero).mpr (Or.inl rfl)]
      exact ⟨hcapacity, hrest, rfl, hflash, htemp⟩
    · rw [List.append_assoc] at heq
      have hlength : length.toNat = 6 + (rest ++ 0 :: behind).length := by
        rw [← hbytes, heq, List.length_append]
        rfl
      rw [validFlashPath_volume heq hlength, (cString_eq_iff hzero).mpr (Or.inr ⟨behind, rfl⟩)]
      refine ⟨hcapacity, Or.inr ?_, rfl, hflash, htemp⟩
      rcases hrest with rfl | hhead
      · exact absurd (List.append_nil _) hmore
      · obtain ⟨tail, rfl⟩ := List.head?_eq_some_iff.mp hhead
        rfl

/-- **`valid_flash_path` is faithful exactly when the request is not a path that it accepts with a
zero byte and anything behind it.** -/
theorem valid_flash_path_faithful_iff (source : List UInt8) (length : UInt8) (capacity : ℕ)
    (hsource : length.toNat ≤ source.length) :
    ((∀ path, validFlashPath source length capacity = some path →
        path = source.take length.toNat ∧ FlashPath path) ∧
      (FlashPath (source.take length.toNat) → length.toNat < capacity →
        source.take length.toNat ≠ uploadTempPath →
        validFlashPath source length capacity = some (source.take length.toNat))) ↔
    (length.toNat < capacity → ∀ path rest, source.take length.toNat = path ++ 0 :: rest →
      FlashPath path → path = flashPathStart ∨ path = uploadTempPath) := by
  constructor
  · rintro ⟨hfaithful, -⟩ hcapacity path rest hbytes hflash
    by_contra hnot
    rw [not_or] at hnot
    have haccepts : validFlashPath source length capacity = some path :=
      (validFlashPath_eq_some_iff hsource).mpr
        ⟨hcapacity, hflash, hnot.2, Or.inr ⟨hnot.1, rest, hbytes⟩⟩
    have hall := (hfaithful path haccepts).1
    rw [hbytes] at hall
    simp at hall
  · intro hcondition
    refine ⟨fun path haccepts => ?_, fun hflash hcapacity htemp => ?_⟩
    · obtain ⟨hcapacity, hflash, htemp, hbytes | ⟨hmore, rest, hbytes⟩⟩ :=
        (validFlashPath_eq_some_iff hsource).mp haccepts
      · exact ⟨hbytes.symm, hflash⟩
      · rcases hcondition hcapacity path rest hbytes hflash with heq | heq
        · exact absurd heq hmore
        · exact absurd heq htemp
    · exact (validFlashPath_eq_some_iff hsource).mpr ⟨hcapacity, hflash, htemp, Or.inl rfl⟩

/-- A read request for `flash:/A`. -/
theorem valid_flash_path_faithful_iff_file :
    validFlashPath (ascii "flash:/A") 8 45 = some (ascii "flash:/A") := by
  have hfaithful := valid_flash_path_faithful_iff (ascii "flash:/A") 8 45 (by decide)
  refine (hfaithful.mpr ?_).2 (by decide +kernel) (by decide) (by decide +kernel)
  intro _ path rest hbytes
  have hzero : 0 ∈ List.take (8 : UInt8).toNat (ascii "flash:/A") := by
    rw [hbytes]
    simp
  exact absurd hzero (by decide)

/-- A read request for `flash:/A`, a zero byte, `\..` is one for `flash:/A`. -/
theorem path_behind_zero_dropped :
    let request := ascii "flash:/A" ++ 0 :: ascii "\\.."
    validFlashPath request 12 45 = some (ascii "flash:/A") ∧
      ascii "flash:/A" ≠ request.take 12 := by
  refine ⟨(validFlashPath_eq_some_iff (by decide)).mpr ?_, by decide⟩
  exact ⟨by decide, by decide +kernel, by decide +kernel,
    Or.inr ⟨by decide, ascii "\\..", by decide⟩⟩

end

end Rp86
