import Mathlib.Data.List.TakeWhile
import Mathlib.Tactic.Common

/-!
# Lines of a stream, and C strings

A stream is cut into lines at the elements that `isEnd` picks.  `endedLines` are the lines that have
ended and are not empty, and `openLine` is what stands behind the last end.  Both grow element by
element (`endedLines_concat`, `openLine_concat`).  `wholeLines` are the lines that have ended, empty
ones too, for a consumer that is fed in chunks (`wholeLines_append`).

A C string ends before the first zero byte of the buffer that holds it (`cString`).
-/

namespace Rp86.Lib

/-! ### Lines -/

section

variable {α : Type*} (isEnd : α → Bool)

/-- The lines that have ended and are not empty, in order. -/
def endedLines (xs : List α) : List (List α) :=
  (xs.splitOnP isEnd).dropLast.filter (!·.isEmpty)

/-- The line that has not ended. -/
def openLine (xs : List α) : List α := (xs.splitOnP isEnd).getLastD []

/-- The last line that has ended and is not empty. -/
def lastLine (xs : List α) : Option (List α) := (endedLines isEnd xs).getLast?

@[simp] theorem endedLines_nil : endedLines isEnd [] = [] := by
  simp [endedLines]

@[simp] theorem openLine_nil : openLine isEnd [] = [] := by
  simp [openLine]

/-- One more element ends the last piece, or is the last one of it. -/
theorem splitOnP_concat (xs : List α) (x : α) :
    ∃ pieces last, xs.splitOnP isEnd = pieces ++ [last] ∧
      (xs ++ [x]).splitOnP isEnd
        = if isEnd x then pieces ++ [last, []] else pieces ++ [last ++ [x]] := by
  induction xs with
  | nil =>
    refine ⟨[], [], by simp, ?_⟩
    rw [List.nil_append, List.splitOnP_cons_eq_if_modifyHead]
    split <;> simp
  | cons y ys ih =>
    obtain ⟨pieces, last, hys, hconcat⟩ := ih
    rw [List.cons_append, List.splitOnP_cons_eq_if_modifyHead,
      List.splitOnP_cons_eq_if_modifyHead, hys, hconcat]
    split
    · refine ⟨[] :: pieces, last, rfl, ?_⟩
      split <;> rfl
    · -- `y` joins the first piece, which may be the last one as well
      cases pieces with
      | nil =>
        refine ⟨[], y :: last, rfl, ?_⟩
        split <;> rfl
      | cons first pieces =>
        refine ⟨(y :: first) :: pieces, last, rfl, ?_⟩
        split <;> rfl

theorem endedLines_concat (xs : List α) (x : α) :
    endedLines isEnd (xs ++ [x]) = endedLines isEnd xs ++
      if isEnd x ∧ openLine isEnd xs ≠ [] then [openLine isEnd xs] else [] := by
  obtain ⟨pieces, last, hxs, hconcat⟩ := splitOnP_concat isEnd xs x
  have hopen : openLine isEnd xs = last := by simp [openLine, hxs]
  rw [hopen, endedLines, endedLines, hxs, hconcat]
  cases isEnd x with
  | false => simp
  | true =>
    have hdrop : (pieces ++ [last, []]).dropLast = pieces ++ [last] := by
      rw [List.append_cons, List.dropLast_concat]
    cases last <;> simp [hdrop]

theorem openLine_concat (xs : List α) (x : α) :
    openLine isEnd (xs ++ [x]) = if isEnd x then [] else openLine isEnd xs ++ [x] := by
  obtain ⟨pieces, last, hxs, hconcat⟩ := splitOnP_concat isEnd xs x
  rw [openLine, openLine, hxs, hconcat]
  cases isEnd x <;> simp

theorem lastLine_concat (xs : List α) (x : α) :
    lastLine isEnd (xs ++ [x])
      = if isEnd x ∧ openLine isEnd xs ≠ [] then some (openLine isEnd xs)
        else lastLine isEnd xs := by
  unfold lastLine
  rw [endedLines_concat]
  split_ifs
  · rw [List.getLast?_concat]
  · rw [List.append_nil]

/-! ### Whole lines

A consumer that takes the whole lines out of a buffer, and leaves the open one in it, sees the same
lines however the stream reaches the buffer. -/

/-- The lines that have ended, empty ones too. -/
def wholeLines (xs : List α) : List (List α) := (xs.splitOnP isEnd).dropLast

/-- What is appended goes on behind the last piece. -/
theorem splitOnP_append (xs ys : List α) :
    ∃ pieces last, xs.splitOnP isEnd = pieces ++ [last] ∧
      (xs ++ ys).splitOnP isEnd = pieces ++ (last ++ ys).splitOnP isEnd := by
  induction xs with
  | nil => exact ⟨[], [], by simp, rfl⟩
  | cons x xs ih =>
    obtain ⟨pieces, last, hxs, happend⟩ := ih
    rw [List.cons_append, List.splitOnP_cons_eq_if_modifyHead,
      List.splitOnP_cons_eq_if_modifyHead, hxs, happend]
    split
    · exact ⟨[] :: pieces, last, rfl, rfl⟩
    · next hx =>
      -- `x` joins the first piece, which may be the last one as well
      cases pieces with
      | nil =>
        refine ⟨[], x :: last, rfl, ?_⟩
        rw [List.nil_append, List.nil_append, List.cons_append,
          List.splitOnP_cons_eq_if_modifyHead, if_neg hx]
      | cons first pieces => exact ⟨(x :: first) :: pieces, last, rfl, rfl⟩

/-- **The lines of a stream are those of its start, and those of the open line and the rest.** -/
theorem wholeLines_append (xs ys : List α) :
    wholeLines isEnd (xs ++ ys)
      = wholeLines isEnd xs ++ wholeLines isEnd (openLine isEnd xs ++ ys) := by
  obtain ⟨pieces, last, hxs, happend⟩ := splitOnP_append isEnd xs ys
  have hopen : openLine isEnd xs = last := by simp [openLine, hxs]
  unfold wholeLines
  rw [hopen, hxs, happend, List.dropLast_concat,
    List.dropLast_append_of_ne_nil (List.splitOnP_ne_nil _ _)]

theorem getLastD_append {pieces pieces' : List (List α)} (h : pieces' ≠ []) :
    (pieces ++ pieces').getLastD [] = pieces'.getLastD [] := by
  rw [List.getLastD_eq_getLast?, List.getLastD_eq_getLast?, List.getLast?_append,
    List.getLast?_eq_some_getLast h, Option.some_or]

theorem openLine_append (xs ys : List α) :
    openLine isEnd (xs ++ ys) = openLine isEnd (openLine isEnd xs ++ ys) := by
  obtain ⟨pieces, last, hxs, happend⟩ := splitOnP_append isEnd xs ys
  have hopen : openLine isEnd xs = last := by simp [openLine, hxs]
  rw [hopen]
  unfold openLine
  rw [happend, getLastD_append (List.splitOnP_ne_nil _ _)]

section

variable {isEnd} {line : List α}

theorem wholeLines_of_forall_not (h : ∀ x ∈ line, isEnd x = false) :
    wholeLines isEnd line = [] := by
  unfold wholeLines
  rw [List.splitOnP_eq_singleton (fun x hx => by simp [h x hx]), List.dropLast_singleton]

theorem openLine_of_forall_not (h : ∀ x ∈ line, isEnd x = false) :
    openLine isEnd line = line := by
  unfold openLine
  rw [List.splitOnP_eq_singleton (fun x hx => by simp [h x hx])]
  rfl

/-- A line and its end at the head of a stream. -/
theorem wholeLines_append_cons (h : ∀ x ∈ line, isEnd x = false) {x : α} (hx : isEnd x = true)
    (rest : List α) :
    wholeLines isEnd (line ++ x :: rest) = line :: wholeLines isEnd rest := by
  unfold wholeLines
  rw [List.splitOnP_append_cons _ _ hx, List.splitOnP_eq_singleton (fun x hx => by simp [h x hx]),
    List.singleton_append, List.dropLast_cons_of_ne_nil (List.splitOnP_ne_nil _ _)]

theorem openLine_append_cons {x : α} (hx : isEnd x = true) (rest : List α) :
    openLine isEnd (line ++ x :: rest) = openLine isEnd rest := by
  unfold openLine
  rw [List.splitOnP_append_cons _ _ hx, getLastD_append (List.splitOnP_ne_nil _ _)]

end

/-! ### Pieces

A scan over the pieces skips separators, takes everything up to the next one, and goes on there.  It
meets every piece that is not empty. -/

variable {isEnd} {xs piece : List α}

theorem mem_splitOnP_dropWhile (h : piece ≠ []) :
    piece ∈ (xs.dropWhile isEnd).splitOnP isEnd ↔ piece ∈ xs.splitOnP isEnd := by
  induction xs with
  | nil => rfl
  | cons x xs ih =>
    rw [List.dropWhile_cons]
    split
    · next hx =>
      rw [ih, List.splitOnP_cons_eq_if_modifyHead, if_pos hx, List.mem_cons]
      simp [h]
    · rfl

theorem mem_splitOnP_iff (h : piece ≠ []) :
    piece ∈ xs.splitOnP isEnd ↔
      piece = xs.takeWhile (!isEnd ·) ∨ piece ∈ (xs.dropWhile (!isEnd ·)).splitOnP isEnd := by
  have hfirst : (xs.takeWhile (!isEnd ·)).splitOnP isEnd = [xs.takeWhile (!isEnd ·)] := by
    apply List.splitOnP_eq_singleton
    intro x hx
    have hnot := List.mem_takeWhile_imp hx
    simpa using hnot
  nth_rewrite 1 [← List.takeWhile_append_dropWhile (p := (!isEnd ·)) (l := xs)]
  cases hrest : xs.dropWhile (!isEnd ·) with
  | nil =>
    rw [List.append_nil, hfirst]
    simp [h]
  | cons x rest =>
    have hx : isEnd x = true := by
      have hhead := List.head?_dropWhile_not (!isEnd ·) xs
      rw [hrest] at hhead
      simpa using hhead
    rw [List.splitOnP_append_cons _ _ hx, hfirst, List.splitOnP_cons_eq_if_modifyHead, if_pos hx]
    simp [h]

end

/-! ### Repeated separators -/

section

variable {α : Type*} [DecidableEq α]

/-- The separators at the start, and what stands behind them. -/
theorem exists_replicate_append (separator : α) (xs : List α) :
    ∃ n rest, xs = List.replicate n separator ++ rest ∧ rest.head? ≠ some separator := by
  induction xs with
  | nil => exact ⟨0, [], rfl, by simp⟩
  | cons x xs ih =>
    by_cases hx : x = separator
    · obtain ⟨n, rest, rfl, hhead⟩ := ih
      exact ⟨n + 1, rest, by rw [hx]; rfl, hhead⟩
    · exact ⟨0, x :: xs, rfl, by simpa using hx⟩

end

/-- A carriage return or a line feed. -/
def isEol (character : UInt8) : Bool := character = 0x0D ∨ character = 0x0A

/-! ### C strings -/

/-- The bytes of a string literal. -/
def ascii (text : String) : List UInt8 := text.toList.map fun c => UInt8.ofNat c.toNat

/-- The C string that a buffer with these bytes holds. -/
def cString (bytes : List UInt8) : List UInt8 := bytes.takeWhile (· ≠ 0)

theorem cString_append {start : List UInt8} (h : 0 ∉ start) (rest : List UInt8) :
    cString (start ++ rest) = start ++ cString rest := by
  refine List.takeWhile_append_of_pos fun c hc => ?_
  simp only [ne_eq, decide_eq_true_eq]
  rintro rfl
  exact h hc

/-- What stands behind a zero does not count. -/
theorem cString_append_zero (text rest : List UInt8) :
    cString (text ++ 0 :: rest) = cString text := by
  induction text with
  | nil => simp [cString]
  | cons c text ih =>
    unfold cString at ih ⊢
    rw [List.cons_append, List.takeWhile_cons, List.takeWhile_cons, ih]

/-- A buffer holds a C string alone, or with a zero and anything behind it. -/
theorem cString_eq_iff {bytes text : List UInt8} (htext : 0 ∉ text) :
    cString bytes = text ↔ bytes = text ∨ ∃ rest, bytes = text ++ 0 :: rest := by
  induction bytes generalizing text with
  | nil =>
    cases text with
    | nil | cons c text => simp [cString]
  | cons b bytes ih =>
    by_cases hzero : b = 0
    · have hempty : cString (b :: bytes) = [] := by simp [cString, hzero]
      rw [hempty, hzero]
      cases text with
      | nil => simp
      | cons c text =>
        -- a text that starts with the zero holds it
        have hc : (0 : UInt8) ≠ c := fun h => htext (h ▸ List.mem_cons_self)
        simp [hc]
    · have hcons : cString (b :: bytes) = b :: cString bytes := by simp [cString, hzero]
      rw [hcons]
      cases text with
      | nil => simp [hzero]
      | cons c text =>
        have hrest : (0 : UInt8) ∉ text := fun h => htext (List.mem_cons_of_mem c h)
        simp only [List.cons.injEq, List.cons_append, ih hrest]
        constructor
        · rintro ⟨rfl, rfl | ⟨rest, rfl⟩⟩
          · exact Or.inl ⟨rfl, rfl⟩
          · exact Or.inr ⟨rest, rfl, rfl⟩
        · rintro (⟨rfl, rfl⟩ | ⟨rest, rfl, rfl⟩)
          · exact ⟨rfl, Or.inl rfl⟩
          · exact ⟨rfl, Or.inr ⟨rest, rfl⟩⟩

end Rp86.Lib
