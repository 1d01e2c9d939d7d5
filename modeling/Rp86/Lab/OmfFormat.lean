import Rp86.Lab.Omf

/-!
# The object module format

The records of an object file that define names, segments and public symbols, the bytes that the
format gives them, and what a list of records defines.  Indices count the names, and the segments,
from 1 in the order of their definition; the index 0 stands for none.
-/

namespace Rp86.Lab

open Lib

/-! ### Fields -/

/-- An index field, in the form of one byte or of two. -/
structure OmfIndex where
  number : ℕ
  wide : Bool
  fits : number < if wide then 0x8000 else 0x80

def OmfIndex.bytes (i : OmfIndex) : List UInt8 :=
  if i.wide then [.ofNat (0x80 + i.number / 256), .ofNat (i.number % 256)] else [.ofNat i.number]

/-- A name field: a length byte and that many bytes. -/
structure OmfName where
  text : List UInt8
  fits : text.length < 256

def OmfName.bytes (name : OmfName) : List UInt8 := .ofNat name.text.length :: name.text

/-- The alignment of a segment; an absolute one states its location instead. -/
inductive OmfAlignment where
  | absolute (frame : UInt16) (offset : UInt8)
  | byte
  | word
  | paragraph
  | page
  | dword

namespace OmfAlignment

def code : OmfAlignment → ℕ
  | absolute _ _ => 0
  | byte => 1
  | word => 2
  | paragraph => 3
  | page => 4
  | dword => 5

/-- The location of an absolute segment, which follows the attributes. -/
def location : OmfAlignment → List UInt8
  | absolute frame offset => leBytes 2 frame.toNat ++ [offset]
  | _ => []

/-- An alignment in bytes; an absolute segment is not moved. -/
def size : OmfAlignment → ℕ
  | absolute _ _ => 1
  | byte => 1
  | word => 2
  | paragraph => 16
  | page => 256
  | dword => 4

theorem size_pos (alignment : OmfAlignment) : 0 < alignment.size := by
  cases alignment <;> exact Nat.succ_pos _

end OmfAlignment

/-! ### Records -/

/-- The width of the offsets and lengths of a record, by whether it is of the 32-bit form. -/
def offsetWidth (is32 : Bool) : ℕ := if is32 then 4 else 2

structure SegmentDef where
  is32 : Bool
  alignment : OmfAlignment
  /-- How the linker combines the segment, and whether its code is 32-bit. -/
  combination : Fin 8
  code32 : Bool
  length : ℕ
  length_fits : length < 256 ^ offsetWidth is32
  name : OmfIndex
  className : OmfIndex
  overlay : OmfIndex

/-- The attributes of a segment; its length fits, so the bit for a length of a whole 64 KiB is
clear. -/
def SegmentDef.attributes (s : SegmentDef) : ℕ :=
  s.alignment.code * 32 + (s.combination * 4 + if s.code32 then 1 else 0)

def SegmentDef.type (s : SegmentDef) : UInt8 := if s.is32 then segdef32 else segdef

def SegmentDef.bytes (s : SegmentDef) : List UInt8 :=
  .ofNat s.attributes :: (s.alignment.location ++ (leBytes (offsetWidth s.is32) s.length
    ++ (s.name.bytes ++ (s.className.bytes ++ s.overlay.bytes))))

/-- One symbol of a record of public symbols. -/
structure PublicDef where
  name : OmfName
  offset : ℕ
  type : OmfIndex

def PublicDef.bytes (is32 : Bool) (p : PublicDef) : List UInt8 :=
  p.name.bytes ++ (leBytes (offsetWidth is32) p.offset ++ p.type.bytes)

structure PublicsDef where
  is32 : Bool
  isLocal : Bool
  group : OmfIndex
  segment : OmfIndex
  /-- The frame of absolute symbols. -/
  frame : UInt16
  publics : List PublicDef
  offsets_fit : ∀ p ∈ publics, p.offset < 256 ^ offsetWidth is32

def PublicsDef.type (p : PublicsDef) : UInt8 :=
  if p.isLocal then if p.is32 then lpubdef32 else lpubdef
  else if p.is32 then pubdef32 else pubdef

/-- The frame is there only if the symbols are in no segment. -/
def PublicsDef.frameBytes (p : PublicsDef) : List UInt8 :=
  if p.segment.number = 0 then leBytes 2 p.frame.toNat else []

def PublicsDef.bytes (p : PublicsDef) : List UInt8 :=
  p.group.bytes ++ (p.segment.bytes ++ (p.frameBytes
    ++ p.publics.flatMap fun q => q.bytes p.is32))

/-- The contents of a record; those of the other types define neither names nor segments nor public
symbols. -/
inductive OmfContents where
  | names (list : List OmfName)
  | segment (s : SegmentDef)
  | publics (p : PublicsDef)
  | other (type : UInt8) (payload : List UInt8)
    (other_type : type ∉ [lnames, segdef, segdef32, pubdef, pubdef32, lpubdef, lpubdef32])

namespace OmfContents

def type : OmfContents → UInt8
  | names _ => lnames
  | segment s => s.type
  | publics p => p.type
  | other type _ _ => type

def payload : OmfContents → List UInt8
  | names list => list.flatMap OmfName.bytes
  | segment s => s.bytes
  | publics p => p.bytes
  | other _ payload _ => payload

end OmfContents

/-- A record with its checksum. -/
structure OmfRecord where
  contents : OmfContents
  checksum : UInt8
  fits : contents.payload.length + 1 < 2 ^ 16

/-- The bytes of a record; the length counts the checksum. -/
def OmfRecord.bytes (r : OmfRecord) : List UInt8 :=
  r.contents.type :: (leBytes 2 (r.contents.payload.length + 1)
    ++ (r.contents.payload ++ [r.checksum]))

/-! ### Definitions -/

/-- What the records so far define, in order. -/
structure OmfDefinitions where
  names : List (List Char)
  segments : List OmfSegment
  symbols : List OmfSymbol
  deriving DecidableEq

namespace OmfDefinitions

def empty : OmfDefinitions := ⟨[], [], []⟩

variable (d : OmfDefinitions)

/-- The name of an index, if there is one; the index 0 is the empty name. -/
def name (i : OmfIndex) : Option (List Char) :=
  if i.number = 0 then some [] else d.names[i.number - 1]?

/-- The name of the segment of an index; symbols of no segment so far have the empty one. -/
def segmentName (i : OmfIndex) : List Char :=
  if i.number = 0 then [] else ((d.segments[i.number - 1]?).map OmfSegment.name).getD []

def addNames (list : List OmfName) : OmfDefinitions :=
  { d with names := d.names ++ list.map fun name => latin1 name.text }

/-- The definitions with one more segment, unless it uses a name that there is not. -/
def addSegment (s : SegmentDef) : Option OmfDefinitions := do
  let name ← d.name s.name
  let className ← d.name s.className
  let segment : OmfSegment :=
    { index := d.segments.length + 1
      name := name
      className := className
      length := s.length
      alignment := s.alignment.size
      alignment_pos := s.alignment.size_pos }
  return { d with segments := d.segments ++ [segment] }

/-- A symbol of a definition of public symbols. -/
def symbol (p : PublicsDef) (q : PublicDef) : OmfSymbol where
  name := latin1 q.name.text
  segmentIndex := p.segment.number
  segmentName := d.segmentName p.segment
  offset := q.offset
  isLocal := p.isLocal

def addPublics (p : PublicsDef) : OmfDefinitions :=
  { d with symbols := d.symbols ++ p.publics.map (d.symbol p) }

def add : OmfContents → Option OmfDefinitions
  | .names list => some (d.addNames list)
  | .segment s => d.addSegment s
  | .publics p => some (d.addPublics p)
  | .other _ _ _ => some d

def ofRecords (records : List OmfRecord) : Option OmfDefinitions :=
  records.foldlM (fun d r => d.add r.contents) empty

end OmfDefinitions

end Rp86.Lab
