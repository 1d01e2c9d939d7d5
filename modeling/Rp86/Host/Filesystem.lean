import Rp86.Host.Protocol
import Rp86.Workload.Crc32

/-!
# The Host's file requests

The records with which `host/rp86/filesystem.py` writes a file.  A `str` is the list of its
characters, and is encoded as UTF-8.
-/

namespace Rp86.Host

open Lib

def typeFilesystemRequest : ℤ := 0x40
def filesystemWriteBegin : UInt8 := 4
def filesystemWriteData : UInt8 := 5
def filesystemWriteCommit : UInt8 := 6
def filesystemWriteDataBytes : ℕ := 40
def filesystemWritePathBytes : ℕ := 36

def utf8Encode (text : List Char) : List UInt8 := text.flatMap String.utf8EncodeChar

/-- `_path`. -/
def encodePath (path : List Char) (maximum : ℕ) : Except HostError (List UInt8) := do
  let encoded := utf8Encode path
  if ¬ ['f', 'l', 'a', 's', 'h', ':'] <+: path ∨ path.length > 6 ∧ path[6]? ≠ some '/' then
    throw (.valueError "path must use flash: or flash:/...")
  if encoded = [] ∨ encoded.length > maximum then
    throw (.valueError ("flash: path exceeds " ++ toString maximum ++ " UTF-8 bytes"))
  return encoded

/-- `request`. -/
def filesystemRequest (operation : UInt8) (sequence : ℤ) (payload : List UInt8) : Message where
  messageType := typeFilesystemRequest
  sequence := sequence
  payload := operation :: payload

/-- `(sequence + 1) & 0xFFFFFFFF`. -/
def wrappedSequence (sequence : ℤ) : ℤ := (sequence + 1) % 2 ^ 32

/-- The loop of `write_records` from an offset on, with the sequence of its last record. -/
def writeDataLoop (transferId : ℤ) (data : List UInt8) (offset : ℕ) (sequence : ℤ) :
    Except HostError (List Message × ℤ) :=
  if offset < data.length then do
    let chunk := (data.drop offset).take filesystemWriteDataBytes
    let sequence := wrappedSequence sequence
    let fields ← structPack [(2, chunk.length), (4, transferId), (4, offset)]
    let message := filesystemRequest filesystemWriteData sequence ([0] ++ fields ++ chunk)
    let (records, sequence) ← writeDataLoop transferId data (offset + chunk.length) sequence
    return (message :: records, sequence)
  else return ([], sequence)
termination_by data.length - offset
decreasing_by
  simp only [List.length_take, List.length_drop, filesystemWriteDataBytes]
  omega

def writeRecords (path : List Char) (data : List UInt8) (transferId firstSequence : ℤ) :
    Except HostError (List Message) := do
  let encoded ← encodePath path filesystemWritePathBytes
  let crc := (crc32 data).toNat
  let fields ← structPack [(4, transferId), (4, data.length), (4, crc)]
  let begin := filesystemRequest filesystemWriteBegin firstSequence
    ([UInt8.ofNat encoded.length, 0, 0] ++ fields ++ encoded)
  let (records, sequence) ← writeDataLoop transferId data 0 firstSequence
  let fields ← structPack [(4, transferId)]
  let commit := filesystemRequest filesystemWriteCommit (wrappedSequence sequence)
    ([0, 0, 0] ++ fields)
  return begin :: (records ++ [commit])

end Rp86.Host
