import Rp86.Host.Console
import Rp86.Lib.Lines

/-!
# The console does not see the chunks

`CdcDisplayStream.feed` takes the whole lines out of what is pending and leaves the open line there
(`feedLoop_eq`), so its events are those of `displayLine` along the lines of the stream, wherever
the stream is cut: a cut inside a line end or inside a character falls in the open line, which is
decoded only when it has ended.
-/

namespace Rp86.Host

open Lib

/-- The byte that ends a line. -/
def isLineFeed (byte : UInt8) : Bool := byte = 0x0A

def displayLines (decode : List UInt8 → List Char) :
    List (List UInt8) → Bool → List (List Char) × Bool
  | [], nativeGroupOpen => ([], nativeGroupOpen)
  | raw :: raws, nativeGroupOpen =>
    let shown := displayLine (decode (raw.rdropWhile (· = 0x0D))) nativeGroupOpen
    let rest := displayLines decode raws shown.2
    (shown.1 ++ rest.1, rest.2)

variable {decode : List UInt8 → List Char}

theorem displayLines_append (raws raws' : List (List UInt8)) (nativeGroupOpen : Bool) :
    displayLines decode (raws ++ raws') nativeGroupOpen
      = ((displayLines decode raws nativeGroupOpen).1 ++
          (displayLines decode raws' (displayLines decode raws nativeGroupOpen).2).1,
        (displayLines decode raws' (displayLines decode raws nativeGroupOpen).2).2) := by
  induction raws generalizing nativeGroupOpen with
  | nil => rfl
  | cons raw raws ih =>
    rw [List.cons_append, displayLines, displayLines]
    simp [ih]

/-! ### One line -/

theorem partitionLine_fst (bytes : List UInt8) :
    ∀ byte ∈ (partitionLine bytes).1, isLineFeed byte = false := by
  intro byte hbyte
  have hne := List.mem_takeWhile_imp hbyte
  simpa [isLineFeed] using hne

/-- The line, its end and what stands behind make up the bytes. -/
theorem partitionLine_eq {bytes : List UInt8} (h : 0x0A ∈ bytes) :
    (partitionLine bytes).1 ++ 0x0A :: (partitionLine bytes).2 = bytes := by
  unfold partitionLine
  cases hrest : bytes.dropWhile (· ≠ 0x0A) with
  | nil =>
    rw [List.dropWhile_eq_nil_iff] at hrest
    have hall := hrest _ h
    simp at hall
  | cons byte rest =>
    have hhead := List.head?_dropWhile_not (· ≠ 0x0A) bytes
    rw [hrest] at hhead
    obtain rfl : byte = 0x0A := by simpa using hhead
    show bytes.takeWhile (· ≠ 0x0A) ++ 0x0A :: rest = bytes
    rw [← hrest, List.takeWhile_append_dropWhile]

/-! ### The loop -/

variable (s : CdcDisplayStream) (chunk : List UInt8)

/-- **The loop shows the whole lines and keeps the open one.** -/
theorem CdcDisplayStream.feedLoop_eq (events : List (List Char)) : s.feedLoop decode events
      = (events ++ (displayLines decode (wholeLines isLineFeed s.pending) s.nativeGroupOpen).1,
        ⟨openLine isLineFeed s.pending,
          (displayLines decode (wholeLines isLineFeed s.pending) s.nativeGroupOpen).2⟩) := by
  fun_induction CdcDisplayStream.feedLoop decode s events with
  | case1 s events h line shown ih =>
    have hlines := wholeLines_append_cons (partitionLine_fst s.pending)
      (show isLineFeed 0x0A = true from rfl) (partitionLine s.pending).2
    have hopen := @openLine_append_cons _ isLineFeed (partitionLine s.pending).1 0x0A rfl
      (partitionLine s.pending).2
    rw [partitionLine_eq h] at hlines hopen
    rw [ih, hlines, hopen, displayLines, List.append_assoc]
  | case2 s events h =>
    have hnone : ∀ byte ∈ s.pending, isLineFeed byte = false := by
      intro byte hbyte
      have hne : byte ≠ 0x0A := fun heq => h (heq ▸ hbyte)
      simpa [isLineFeed] using hne
    rw [wholeLines_of_forall_not hnone, openLine_of_forall_not hnone, displayLines,
      List.append_nil]

theorem CdcDisplayStream.feed_eq :
    s.feed decode chunk
      = ((displayLines decode (wholeLines isLineFeed (s.pending ++ chunk)) s.nativeGroupOpen).1,
        ⟨openLine isLineFeed (s.pending ++ chunk),
          (displayLines decode (wholeLines isLineFeed (s.pending ++ chunk))
            s.nativeGroupOpen).2⟩) := by
  unfold CdcDisplayStream.feed
  rw [feedLoop_eq, List.nil_append]

theorem CdcDisplayStream.feed_append (chunk' : List UInt8) : s.feed decode (chunk ++ chunk')
      = ((s.feed decode chunk).1 ++ ((s.feed decode chunk).2.feed decode chunk').1,
        ((s.feed decode chunk).2.feed decode chunk').2) := by
  simp only [feed_eq]
  rw [← List.append_assoc, wholeLines_append isLineFeed (s.pending ++ chunk),
    openLine_append isLineFeed (s.pending ++ chunk), displayLines_append]

theorem CdcDisplayStream.feed_nil {s : CdcDisplayStream} (h : 0x0A ∉ s.pending) :
    s.feed decode [] = ([], s) := by
  unfold CdcDisplayStream.feed CdcDisplayStream.feedLoop
  rw [dif_neg (by rwa [List.append_nil])]
  simp

/-- A stream that has been fed holds no line feed. -/
theorem CdcDisplayStream.feed_pending : 0x0A ∉ (s.feed decode chunk).2.pending := by
  have hloop : ∀ (s : CdcDisplayStream) (events : List (List Char)),
      0x0A ∉ (s.feedLoop decode events).2.pending := by
    intro s events
    fun_induction CdcDisplayStream.feedLoop decode s events with
    | case1 s events h line shown ih => exact ih
    | case2 s events h => exact h
  exact hloop _ _

theorem CdcDisplayStream.feedChunks_eq {s : CdcDisplayStream} (h : 0x0A ∉ s.pending)
    (chunks : List (List UInt8)) :
    s.feedChunks decode chunks = s.feed decode chunks.flatten := by
  induction chunks generalizing s with
  | nil => rw [feedChunks, List.flatten_nil, feed_nil h]
  | cons chunk chunks ih =>
    rw [feedChunks, ih (feed_pending s chunk), List.flatten_cons, feed_append]

/-- **The display does not depend on the chunks**: however a byte stream is cut, the events and the
state that is left are those of feeding it at once. -/
theorem cdc_display_chunking (decode : List UInt8 → List Char) (chunks : List (List UInt8)) :
    CdcDisplayStream.init.feedChunks decode chunks
      = CdcDisplayStream.init.feed decode chunks.flatten :=
  CdcDisplayStream.feedChunks_eq List.not_mem_nil chunks

end Rp86.Host
