import Mathlib.Data.List.DropRight
import Mathlib.Data.Nat.Notation
import Mathlib.Logic.Function.Basic

/-!
# FatFs as a map

The calls of FatFs that the flash service makes, over a map from file names to contents.  Which
name a path has is a parameter, so that names may compare in any way (`createName` is how those of
one segment do); so is the outcome of each call: it fails with any result, and then leaves the map
alone, or it does what it is for.  A write may be cut short, and never makes a file larger than the
12 MiB volume.  Directory listings and the free space are the environment's.
-/

namespace Rp86

inductive FResult where
  | ok
  | diskErr
  | intErr
  | notReady
  | noFile
  | noPath
  | invalidName
  | denied
  | exist
  | invalidObject
  | writeProtected
  | invalidDrive
  | notEnabled
  | noFilesystem
  | mkfsAborted
  | timeout
  | locked
  | notEnoughCore
  | tooManyOpenFiles
  | invalidParameter
  deriving DecidableEq, Repr

/-- The fields of `FILINFO` that are read. -/
structure FileInfo where
  fname : List UInt8
  fattrib : UInt8
  fsize : UInt32
  deriving DecidableEq, Repr

/-- The fields of `FATFS` that are read. -/
structure FatGeometry where
  fsType : UInt8
  csize : UInt32
  nFatent : UInt32
  deriving DecidableEq, Repr

/-- What the calls meet, the `n`-th call at index `n`. -/
structure FatEnv (ν : Type) where
  -- the file that a path names
  name : List UInt8 → ν
  -- `ok`, or the result with which the call fails
  result : ℕ → FResult
  -- how many bytes the call can write
  room : ℕ → ℕ
  -- what a directory lists
  entries : ℕ → List UInt8 → List FileInfo
  -- free clusters and geometry
  free : ℕ → UInt32 × FatGeometry

/-- The files, and the number of calls so far. -/
structure Fat (ν : Type) where
  files : ν → Option (List UInt8)
  calls : ℕ

/-- `FIL`: the file and the position in it. -/
structure Fil (ν : Type) where
  name : ν
  position : ℕ

def fatVolumeBytes : ℕ := 12 * 1024 * 1024

variable {ν : Type} [DecidableEq ν] (env : FatEnv ν)

/-- The outcome of the next call. -/
def Fat.outcome (fat : Fat ν) : FResult := env.result fat.calls

/-- The state after a call that leaves the files alone. -/
def Fat.called (fat : Fat ν) : Fat ν := { fat with calls := fat.calls + 1 }

/-- A call that does nothing to the files: `f_sync`, `f_close`, `f_lseek`, `f_opendir`, `f_readdir`,
`f_closedir`, `f_getfree` and the flush of the disk. -/
def fQuiet (fat : Fat ν) : FResult × Fat ν := (fat.outcome env, fat.called)

/-- `f_open` with `FA_CREATE_ALWAYS | FA_WRITE`. -/
def fCreate (path : List UInt8) (fat : Fat ν) : FResult × Option (Fil ν) × Fat ν :=
  if fat.outcome env ≠ .ok then (fat.outcome env, none, fat.called)
  else (.ok, some ⟨env.name path, 0⟩,
    { fat.called with files := Function.update fat.files (env.name path) (some []) })

/-- `f_open` with `FA_READ`, while a file may be open for writing (`chk_share`). -/
def fOpen (writing : Option ν) (path : List UInt8) (fat : Fat ν) :
    FResult × Option (Fil ν) × Fat ν :=
  if fat.outcome env ≠ .ok then (fat.outcome env, none, fat.called)
  else match fat.files (env.name path) with
    | none => (.noFile, none, fat.called)
    | some _ =>
      if writing = some (env.name path) then (.locked, none, fat.called)
      else (.ok, some ⟨env.name path, 0⟩, fat.called)

/-- `f_write`: the result, how many bytes were written, and the file object behind them. -/
def fWrite (fil : Option (Fil ν)) (data : List UInt8) (fat : Fat ν) :
    FResult × ℕ × Option (Fil ν) × Fat ν :=
  if fat.outcome env ≠ .ok then (fat.outcome env, 0, fil, fat.called)
  else match fil with
    | none => (.invalidObject, 0, fil, fat.called)
    | some ⟨name, position⟩ =>
      match fat.files name with
      | none => (.invalidObject, 0, fil, fat.called)
      | some content =>
        let written := data.take (min (env.room fat.calls) (fatVolumeBytes - position))
        (.ok, written.length, some ⟨name, position + written.length⟩,
          { fat.called with files := Function.update fat.files name (some
            (content.take position ++ written ++ content.drop (position + written.length))) })

/-- `f_read` of at most `count` bytes at a position. -/
def fRead (fil : Option (Fil ν)) (position count : ℕ) (fat : Fat ν) :
    FResult × List UInt8 × Fat ν :=
  if fat.outcome env ≠ .ok then (fat.outcome env, [], fat.called)
  else match fil.bind fun fil => fat.files fil.name with
    | none => (.invalidObject, [], fat.called)
    | some content => (.ok, (content.drop position).take count, fat.called)

def fSize (fil : Option (Fil ν)) (fat : Fat ν) : UInt32 :=
  match fil.bind fun fil => fat.files fil.name with
  | none => 0
  | some content => UInt32.ofNat content.length

def fUnlink (path : List UInt8) (fat : Fat ν) : FResult × Fat ν :=
  if fat.outcome env ≠ .ok then (fat.outcome env, fat.called)
  else match fat.files (env.name path) with
    | none => (.noFile, fat.called)
    | some _ => (.ok, { fat.called with
        files := Function.update fat.files (env.name path) none })

/-- `f_rename`.  A file may be renamed to another spelling of its own name. -/
def fRename (old new : List UInt8) (fat : Fat ν) : FResult × Fat ν :=
  if fat.outcome env ≠ .ok then (fat.outcome env, fat.called)
  else match fat.files (env.name old) with
    | none => (.noFile, fat.called)
    | some content =>
      if env.name new ≠ env.name old ∧ (fat.files (env.name new)).isSome then (.exist, fat.called)
      else (.ok, { fat.called with
        files := Function.update (Function.update fat.files (env.name old) none) (env.name new)
          (some content) })

/-! ### Names -/

/-- A character in a short name: in upper case, the extended ones by `TBL_CT437`. -/
def sfnChar (c : UInt8) : UInt8 :=
  if 0x80 ≤ c then
    -- behind these the table has every character itself
    [0x80, 0x9A, 0x45, 0x41, 0x8E, 0x41, 0x8F, 0x80, 0x45, 0x45, 0x45, 0x49, 0x49, 0x49, 0x8E, 0x8F,
      0x90, 0x92, 0x92, 0x4F, 0x99, 0x4F, 0x55, 0x55, 0x59, 0x99, 0x9A, 0x9B, 0x9C, 0x9D, 0x9E,
      0x9F, 0x41, 0x49, 0x4F, 0x55, 0xA5].getD (c.toNat - 0x80) c
  else if 0x61 ≤ c ∧ c ≤ 0x7A then c - 0x20
  else c

/-- The characters that a name must not have, `*:<>|"?` and 7Fh, and those that a short name loses,
the blank and `+,;=[]`. -/
def sfnLossy : List UInt8 :=
  [0x2A, 0x3A, 0x3C, 0x3E, 0x7C, 0x22, 0x3F, 0x7F, 0x20, 0x2B, 0x2C, 0x3B, 0x3D, 0x5B, 0x5D]

/-- A field of a short name, filled up with blanks, when nothing of it is lost. -/
def sfnField (width : ℕ) (chars : List UInt8) : Option (List UInt8) :=
  if chars.length ≤ width ∧ chars.all (· ∉ sfnLossy) then
    some (chars.map sfnChar ++ List.replicate (width - chars.length) 0x20)
  else none

def shortName (body extension : List UInt8) : Option (List UInt8) :=
  if body = [] then none
  else (sfnField 8 body).bind fun b => (sfnField 3 extension).map (b ++ ·)

/-- `create_name`: the short name of a segment, when nothing of it is lost (`NS_LOSS`).  Blanks and
dots at its end do not count; any other dot but the one in front of the extension is lost. -/
def createName (segment : List UInt8) : Option (List UInt8) :=
  match (segment.rdropWhile fun c => c = 0x20 ∨ c = 0x2E).splitOn 0x2E with
  | [body] => shortName body []
  | [body, extension] => shortName body extension
  | _ => none

end Rp86
