import Rp86.Host.Memory
import Rp86.Host.Replies

/-!
# The Host's service requests and their replies

The halves of `host/rp86/filesystem.py` and `host/rp86/memory.py` that read: the requests for a
directory entry, for a chunk of a file and for some bytes of memory, and what the Host takes from
the replies.
-/

namespace Rp86.Host

open Lib

/-! ### Files -/

def filesystemList : UInt8 := 1
def filesystemRead : UInt8 := 3
def filesystemFlagEof : UInt8 := 1
def filesystemFlagDirectory : UInt8 := 2
def filesystemReadPathBytes : ℕ := 44

def statusNames : List (ℤ × String) :=
  [(2, "bad request length"),
    (6, "RP-FLASH service unavailable"),
    (7, "upload CRC mismatch"),
    (8, "filesystem transfer state mismatch"),
    (10, "RP-FLASH I/O error"),
    (11, "path not found"),
    (12, "invalid flash: path"),
    (13, "no space or target denied")]

structure ListEntry where
  name : List Char
  size : ℤ
  directory : Bool
  nextCursor : ℤ
  eof : Bool
  deriving DecidableEq, Repr

structure ReadChunk where
  offset : ℤ
  totalSize : ℤ
  data : List UInt8
  eof : Bool
  deriving DecidableEq, Repr

def listRequest (path : List Char) (cursor sequence : ℤ) : Except HostError Message := do
  let encoded ← encodePath path 48
  let fields ← structPack [(2, cursor)]
  return filesystemRequest filesystemList sequence
    ([UInt8.ofNat encoded.length] ++ fields ++ encoded)

def readRequest (path : List Char) (offset sequence : ℤ) : Except HostError Message := do
  let encoded ← encodePath path filesystemReadPathBytes
  let fields ← structPack [(4, offset)]
  return filesystemRequest filesystemRead sequence
    ([UInt8.ofNat encoded.length, 0, 0] ++ fields ++ encoded)

def validateReply (reply request : Message) : Except HostError (List UInt8) := do
  if reply.messageType ≠ typeFilesystemResult then
    throw (.valueError ("unexpected filesystem reply type: " ++ toString reply.messageType))
  if reply.sequence ≠ request.sequence then
    throw (.valueError ("filesystem reply sequence mismatch: " ++ toString reply.sequence ++ " != "
      ++ toString request.sequence))
  if reply.status ≠ statusOk then
    throw (.valueError ((statusNames.lookup reply.status).getD
      ("filesystem request failed with status " ++ toString reply.status)))
  if reply.payload = [] ∨ reply.payload.head? ≠ request.payload.head? then
    throw (.valueError "filesystem operation echo mismatch")
  return reply.payload

/-- `parse_list`.  `decode` is `bytes.decode("utf-8", errors="replace")`. -/
def parseList (decode : List UInt8 → List Char) (reply request : Message) :
    Except HostError ListEntry := do
  let payload ← validateReply reply request
  if payload.length < 10 then
    throw (.valueError "filesystem list reply is truncated")
  let flags := payload.getD 1 0
  let nameLength := (payload.getD 3 0).toNat
  if nameLength > payload.length - 10 then
    throw (.valueError "filesystem list name is truncated")
  return {
    name := decode ((payload.drop 10).take nameLength)
    size := unpack32 payload 6
    directory := flags &&& filesystemFlagDirectory ≠ 0
    nextCursor := (le16 payload 4).toNat
    eof := flags &&& filesystemFlagEof ≠ 0 }

def parseRead (reply request : Message) : Except HostError ReadChunk := do
  let payload ← validateReply reply request
  if payload.length < 12 then
    throw (.valueError "filesystem read reply is truncated")
  let dataLength := (le16 payload 2).toNat
  if dataLength > payload.length - 12 then
    throw (.valueError "filesystem read data is truncated")
  return {
    offset := unpack32 payload 4
    totalSize := unpack32 payload 8
    data := (payload.drop 12).take dataLength
    eof := payload.getD 1 0 &&& filesystemFlagEof ≠ 0 }

/-! ### Memory -/

def memoryRead : ℤ := 1
def memoryHeaderSize : ℕ := 12

def memoryReadRequest (address length sequence : ℤ) : Except HostError Message := do
  let _ ← checkAddress address
  if ¬ (1 ≤ length ∧ length ≤ memoryDataBytes) ∨ address + length > memoryEnd then
    throw (.valueError ("memory read must contain 1-" ++ toString memoryDataBytes ++ " bytes"))
  let header ← structPack [(1, memoryRead), (3, 0), (4, address), (4, length)]
  return { messageType := typeMemoryRequest, sequence := sequence, payload := header }

def validateMemoryReply (reply request : Message) : Except HostError (List UInt8) := do
  if reply.messageType ≠ typeMemoryResult then
    throw (.valueError ("unexpected memory reply type: " ++ toString reply.messageType))
  if reply.sequence ≠ request.sequence then
    throw (.valueError ("memory reply sequence mismatch: " ++ toString reply.sequence ++ " != "
      ++ toString request.sequence))
  if reply.status = statusBadState ∧ request.payload.take 1 = [UInt8.ofNat memoryWrite.toNat] then
    throw (.valueError ("memory write refused by active workload ownership policy; " ++
      "only a Host-owned shared mailbox is writable"))
  if reply.status ≠ statusOk then
    throw (.valueError ("memory request failed with status " ++ toString reply.status))
  if reply.payload.length < memoryHeaderSize then
    throw (.valueError "memory reply is truncated")
  if reply.payload.take memoryHeaderSize ≠ request.payload.take memoryHeaderSize then
    throw (.valueError "memory operation/address/length echo mismatch")
  return reply.payload.drop memoryHeaderSize

def parseMemoryRead (reply request : Message) : Except HostError (List UInt8) := do
  let data ← validateMemoryReply reply request
  let operation : ℤ := (reply.payload.getD 0 0).toNat
  let length := unpack32 reply.payload 8
  if operation ≠ memoryRead ∨ data.length ≠ length then
    throw (.valueError "memory read reply length mismatch")
  return data

end Rp86.Host
