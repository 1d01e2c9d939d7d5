import Rp86.Lab.Loader
import Rp86.Lib.LittleEndian
import Rp86.Lib.Loop

/-!
# The OMF reader of the IA16 lab

`tools/ia16_lab/omf.py`: the segments and the public symbols of an object file, and the offsets at
which the contributions of several object files to one segment are concatenated.  Every loop of the
reader takes a bound on its rounds, so that its end is a theorem and not an assumption.
-/

namespace Rp86.Lab

open Lib

/-! ### Objects -/

/-- `OMFSegment`.  `_alignment_bytes` gives only positive alignments. -/
structure OmfSegment where
  index : ℕ
  name : List Char
  className : List Char
  length : ℕ
  alignment : ℕ
  alignment_pos : 0 < alignment
  deriving DecidableEq, Repr

structure OmfSymbol where
  name : List Char
  segmentIndex : ℕ
  segmentName : List Char
  offset : ℕ
  isLocal : Bool
  deriving DecidableEq, Repr

structure OmfObject (Path : Type) where
  path : Option Path
  segments : List OmfSegment
  symbols : List OmfSymbol
  deriving DecidableEq, Repr

/-! ### Bytes -/

abbrev Reader (α : Type) := Except (Stop LabError) α

def byteAt (payload : List UInt8) (position : ℕ) : Reader UInt8 :=
  match payload[position]? with
  | some byte => .ok byte
  | none => .error (.raised .indexError)

/-- `payload[start : stop]`; a slice is clipped to the bytes that exist. -/
def slice (payload : List UInt8) (start stop : ℕ) : List UInt8 :=
  (payload.drop start).take (stop - start)

/-- `.decode("latin1")`: every byte is the character of that number. -/
def latin1 (bytes : List UInt8) : List Char := bytes.map fun byte => Char.ofNat byte.toNat

/-- `_index`: an index is one byte, or two bytes with the top bit of the first one set. -/
def index (payload : List UInt8) (position : ℕ) : Reader (ℕ × ℕ) := do
  let first ← byteAt payload position
  if first &&& 0x80 ≠ 0 then
    let second ← byteAt payload (position + 1)
    return ((first &&& 0x7F).toNat <<< 8 ||| second.toNat, position + 2)
  else
    return (first.toNat, position + 1)

def alignmentBytes : ℕ → ℕ
  | 0 => 1
  | 1 => 1
  | 2 => 2
  | 3 => 16
  | 4 => 256
  | 5 => 4
  | _ => 1

theorem alignmentBytes_pos (code : ℕ) : 0 < alignmentBytes code := by
  unfold alignmentBytes
  split <;> decide

/-! ### Records -/

def pubdef : UInt8 := 0x90
def pubdef32 : UInt8 := 0x91
def lnames : UInt8 := 0x96
def segdef : UInt8 := 0x98
def segdef32 : UInt8 := 0x99
def lpubdef : UInt8 := 0xB6
def lpubdef32 : UInt8 := 0xB7

/-- The lists that `parse_omf_bytes` fills; the first two start with `None`. -/
structure OmfTables where
  names : List (Option (List Char))
  segments : List (Option OmfSegment)
  symbols : List OmfSymbol
  deriving DecidableEq, Repr

/-- One round of the loop over an `LNAMES` record. -/
def readName (payload : List UInt8) (s : ℕ × OmfTables) : Reader (ℕ × OmfTables) := do
  let (position, tables) := s
  let size ← byteAt payload position
  let position := position + 1
  let name := latin1 (slice payload position (position + size.toNat))
  let position := position + size.toNat
  return (position, { tables with names := tables.names ++ [some name] })

def readNames (fuel : ℕ) (payload : List UInt8) (tables : OmfTables) : Reader OmfTables := do
  let (_, tables) ← whileLoop (fun s => s.1 < payload.length) (readName payload) fuel (0, tables)
  return tables

/-- `names[index] or ""`. -/
def nameAt (tables : OmfTables) (index : ℕ) : Reader (List Char) :=
  match tables.names[index]? with
  | some name => .ok (name.getD [])
  | none => .error (.raised .indexError)

/-- A `SEGDEF` or `SEGDEF32` record. -/
def readSegment (recordType : UInt8) (payload : List UInt8) (tables : OmfTables) :
    Reader OmfTables := do
  let attributes ← byteAt payload 0
  let position := 1
  let alignmentCode := ((attributes >>> 5) &&& 0x07).toNat
  -- an absolute segment has a frame of two bytes and an offset of one
  let position := if alignmentCode = 0 then position + 3 else position
  let width := if recordType = segdef32 then 4 else 2
  let length := ofLE (slice payload position (position + width))
  let position := position + width
  let (nameIndex, position) ← index payload position
  let (classIndex, position) ← index payload position
  let (_, _) ← index payload position
  let name ← nameAt tables nameIndex
  let className ← nameAt tables classIndex
  let segment : OmfSegment :=
    { index := tables.segments.length
      name := name
      className := className
      length := length
      alignment := alignmentBytes alignmentCode
      alignment_pos := alignmentBytes_pos alignmentCode }
  return { tables with segments := tables.segments ++ [some segment] }

/-- The name of the segment that a symbol record names by its index. -/
def segmentName (tables : OmfTables) (segmentIndex : ℕ) : List Char :=
  if segmentIndex ≠ 0 ∧ segmentIndex < tables.segments.length then
    match tables.segments[segmentIndex]? with
    | some (some segment) => segment.name
    | _ => []
  else []

/-- One round of the loop over a record of public symbols. -/
def readPublic (payload : List UInt8) (segmentIndex width : ℕ) (isLocal : Bool)
    (s : ℕ × OmfTables) : Reader (ℕ × OmfTables) := do
  let (position, tables) := s
  let size ← byteAt payload position
  let position := position + 1
  let name := latin1 (slice payload position (position + size.toNat))
  let position := position + size.toNat
  let offset := ofLE (slice payload position (position + width))
  let position := position + width
  let (_, position) ← index payload position
  let symbol : OmfSymbol :=
    { name := name
      segmentIndex := segmentIndex
      segmentName := segmentName tables segmentIndex
      offset := offset
      isLocal := isLocal }
  return (position, { tables with symbols := tables.symbols ++ [symbol] })

/-- A `PUBDEF`, `PUBDEF32`, `LPUBDEF` or `LPUBDEF32` record. -/
def readPublics (fuel : ℕ) (recordType : UInt8) (payload : List UInt8) (tables : OmfTables) :
    Reader OmfTables := do
  let (_, position) ← index payload 0
  let (segmentIndex, position) ← index payload position
  -- an absolute record has a frame word
  let position := if segmentIndex = 0 then position + 2 else position
  let width := if recordType = pubdef32 ∨ recordType = lpubdef32 then 4 else 2
  let isLocal : Bool := recordType = lpubdef ∨ recordType = lpubdef32
  let (_, tables) ← whileLoop (fun s => s.1 < payload.length)
    (readPublic payload segmentIndex width isLocal) fuel (position, tables)
  return tables

/-- The loop body of `parse_omf_bytes`. -/
def readRecord (fuel : ℕ) (recordType : UInt8) (payload : List UInt8) (tables : OmfTables) :
    Reader OmfTables :=
  if recordType = lnames then readNames fuel payload tables
  else if recordType = segdef ∨ recordType = segdef32 then readSegment recordType payload tables
  else if ¬ (recordType = pubdef ∨ recordType = pubdef32 ∨ recordType = lpubdef ∨
      recordType = lpubdef32) then .ok tables
  else readPublics fuel recordType payload tables

/-- One round of `_records`, with what `parse_omf_bytes` does with the record it yields. -/
def nextRecord (fuel : ℕ) (data : List UInt8) (s : ℕ × OmfTables) : Reader (ℕ × OmfTables) := do
  let (position, tables) := s
  if position + 3 > data.length then
    throw (.raised (.valueError "truncated OMF record header"))
  let recordType ← byteAt data position
  let length := ofLE (slice data (position + 1) (position + 3))
  let finish := position + 3 + length
  if finish > data.length then
    throw (.raised (.valueError "truncated OMF record payload"))
  -- the length counts the checksum, which is stripped
  let tables ← readRecord fuel recordType (slice data (position + 3) (finish - 1)) tables
  return (finish, tables)

def parseOmfBytes {Path : Type} (fuel : ℕ) (data : List UInt8) (path : Option Path) :
    Reader (OmfObject Path) := do
  let (_, tables) ← whileLoop (fun s => s.1 < data.length) (nextRecord fuel data) fuel
    (0, { names := [none], segments := [none], symbols := [] })
  return {
    path := path
    segments := (tables.segments.drop 1).filterMap id
    symbols := tables.symbols }

/-! ### Concatenation -/

section

variable {Path : Type} [DecidableEq Path]

/-- The dictionaries of `contribution_bases`: the end of each concatenated segment so far, by name
and class, and the base of each object's contribution, by path and name. -/
structure Contributions (Path : Type) where
  cursors : List Char × List Char → Option ℕ
  bases : Option Path × List Char → Option ℕ

/-- The body of the loop over the segments of an object. -/
def addContribution (path : Option Path) (state : Contributions Path) (segment : OmfSegment) :
    Contributions Path :=
  let key := (segment.name, segment.className)
  let cursor := (state.cursors key).getD 0
  let alignment := max segment.alignment 1
  let cursor := (cursor + alignment - 1) / alignment * alignment
  { bases := fun k => if k = (path, segment.name) then some cursor else state.bases k
    cursors := fun k => if k = key then some (cursor + segment.length) else state.cursors k }

def contributionBases (objects : List (OmfObject Path)) : Option Path × List Char → Option ℕ :=
  let start : Contributions Path := { cursors := fun _ => none, bases := fun _ => none }
  (objects.foldl (fun state object => object.segments.foldl (addContribution object.path) state)
    start).bases

end

end Rp86.Lab
