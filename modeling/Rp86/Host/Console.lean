import Mathlib.Data.List.DropRight
import Mathlib.Tactic.Common

/-!
# The CDC lines on the console

`CdcDisplayStream` of `host/rp86/console.py`: the evidence lines of the CDC interface, as they
arrive in chunks, become the events that the interactive console shows.  Texts are lists of
characters, and `decode` is `bytes.decode("utf-8", errors="replace")`.
-/

namespace Rp86.Host

structure CdcDisplayStream where
  pending : List UInt8
  nativeGroupOpen : Bool
  deriving DecidableEq, Repr

def CdcDisplayStream.init : CdcDisplayStream where
  pending := []
  nativeGroupOpen := false

/-- `str.isspace` of one character. -/
def isSpace (c : Char) : Bool :=
  (0x09 ≤ c.toNat ∧ c.toNat ≤ 0x0D) ∨ (0x1C ≤ c.toNat ∧ c.toNat ≤ 0x20) ∨ c.toNat = 0x85 ∨
    c.toNat = 0xA0 ∨ c.toNat = 0x1680 ∨ (0x2000 ≤ c.toNat ∧ c.toNat ≤ 0x200A) ∨
    c.toNat = 0x2028 ∨ c.toNat = 0x2029 ∨ c.toNat = 0x202F ∨ c.toNat = 0x205F ∨ c.toNat = 0x3000

/-- `bytes.partition(b"\n")` of bytes with a line feed: what stands before the first one, and what
stands behind it. -/
def partitionLine (bytes : List UInt8) : List UInt8 × List UInt8 :=
  (bytes.takeWhile (· ≠ 0x0A), (bytes.dropWhile (· ≠ 0x0A)).tail)

def startsWith (start : String) (line : List Char) : Bool := start.toList.isPrefixOf line

/-- What `feed` does with one line: the events it appends, and whether the group of native output
is open behind it. -/
def displayLine (line : List Char) (nativeGroupOpen : Bool) : List (List Char) × Bool :=
  if startsWith "[WORKLOAD START]" line then ([], false)
  else if startsWith "[NATIVE STDOUT]" line then
    let payload := (line.drop "[NATIVE STDOUT]".length).dropWhile isSpace
    if !nativeGroupOpen then (["[NATIVE OUTPUT]".toList, payload], true)
    else ([payload], nativeGroupOpen)
  else if startsWith "[WORKLOAD COMPLETED]" line || startsWith "[WORKLOAD IDLE]" line then
    (["[WORKLOAD COMPLETED] processor=IDLE / HLT".toList], false)
  else if startsWith "[WORKLOAD FAULT]" line || startsWith "[WORKLOAD TIMEOUT]" line then
    ([line], false)
  else ([], nativeGroupOpen)

theorem length_partitionLine {bytes : List UInt8} (h : 0x0A ∈ bytes) :
    (partitionLine bytes).2.length < bytes.length := by
  have hle := (List.dropWhile_sublist (l := bytes) (· ≠ 0x0A)).length_le
  have hne : bytes.dropWhile (· ≠ 0x0A) ≠ [] := by
    rw [ne_eq, List.dropWhile_eq_nil_iff]
    intro hall
    have := hall _ h
    simp at this
  have hpos := List.length_pos_iff.mpr hne
  unfold partitionLine
  rw [List.length_tail]
  omega

section

variable (decode : List UInt8 → List Char)

def CdcDisplayStream.feedLoop (s : CdcDisplayStream) (events : List (List Char)) :
    List (List Char) × CdcDisplayStream :=
  if _h : 0x0A ∈ s.pending then
    let line := decode ((partitionLine s.pending).1.rdropWhile (· = 0x0D))
    let shown := displayLine line s.nativeGroupOpen
    feedLoop ⟨(partitionLine s.pending).2, shown.2⟩ (events ++ shown.1)
  else (events, s)
  termination_by s.pending.length
  decreasing_by exact length_partitionLine _h

def CdcDisplayStream.feed (s : CdcDisplayStream) (chunk : List UInt8) :
    List (List Char) × CdcDisplayStream :=
  feedLoop decode { s with pending := s.pending ++ chunk } []

/-- The events of `feed` over the chunks, one after the other, and the stream that it leaves. -/
def CdcDisplayStream.feedChunks (s : CdcDisplayStream) :
    List (List UInt8) → List (List Char) × CdcDisplayStream
  | [] => ([], s)
  | chunk :: chunks =>
    let fed := s.feed decode chunk
    let rest := fed.2.feedChunks chunks
    (fed.1 ++ rest.1, rest.2)

end

end Rp86.Host
