import Rp86.Lib.Pack

/-!
# The Host's record codec

`host/rp86/protocol.py`.  Python integers are integers and `bytes` are byte lists; a function that
can raise returns the exception.  `struct` raises when an integer does not fit its field, which is
the only exception here that carries no text of the repository.
-/

namespace Rp86.Host

open Lib

/-- The exceptions that the modelled functions raise. -/
inductive HostError where
  | valueError (text : String)
  | structError
  | indexError
  deriving DecidableEq, Repr

/-- `struct.pack` of unsigned little-endian integers. -/
def structPack (fields : List IntField) : Except HostError (List UInt8) :=
  match packInts fields with
  | some bytes => .ok bytes
  | none => .error .structError

def protocolVersion : ℤ := 1
def payloadSize : ℕ := 52
def typeWorkloadBegin : ℤ := 0x20
def typeWorkloadData : ℤ := 0x21
def typeWorkloadCommit : ℤ := 0x22
def typeMemoryRequest : ℤ := 0x50
def memoryWrite : ℤ := 2
def memoryDataBytes : ℕ := 40

structure Message where
  messageType : ℤ
  sequence : ℤ
  payload : List UInt8 := []
  flags : ℤ := 0
  status : ℤ := 0
  version : ℤ := protocolVersion
  deriving DecidableEq, Repr

def ljust (bytes : List UInt8) (width : ℕ) : List UInt8 :=
  bytes ++ List.replicate (width - bytes.length) 0

def Message.encode (m : Message) : Except HostError (List UInt8) := do
  if m.version ≠ protocolVersion then
    throw (.valueError ("unsupported protocol version: " ++ toString m.version))
  if m.payload.length > payloadSize then
    throw (.valueError "payload exceeds 52 bytes")
  let fields ← structPack [(1, m.version), (1, m.messageType), (2, m.flags), (4, m.sequence),
    (2, m.payload.length), (2, m.status)]
  return fields ++ ljust m.payload payloadSize

def nextSequence (sequence : ℤ) : ℤ :=
  if (sequence + 1) % 2 ^ 32 = 0 then 1 else (sequence + 1) % 2 ^ 32

end Rp86.Host
