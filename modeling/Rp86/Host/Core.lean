import Rp86.Host.Filesystem

/-!
# The Host's validation of replies

`host/rp86/core.py`, with the decoders of `host/rp86/protocol.py` that it uses: which records of the
device the Host takes for the reply to a request.
-/

namespace Rp86.Host

open Lib

def messageSize : ℕ := 64
def typeCommand : ℤ := 4
def typeResult : ℤ := 5
def typeHeartbeat : ℤ := 6
def typeWorkloadControl : ℤ := 0x23
def typeWorkloadStatus : ℤ := 0x24
def typeWorkloadResult : ℤ := 0x25
def typeWorkloadTimeoutRequest : ℤ := 0x26
def typeWorkloadTimeoutResult : ℤ := 0x27
def typeFilesystemResult : ℤ := 0x41
def typeMemoryResult : ℤ := 0x51
def typeDiagnosticsRequest : ℤ := 0x60
def typeDiagnosticsResult : ℤ := 0x61
def statusOk : ℤ := 0

/-- `HEARTBEAT_REPLY`: the bytes of `PROCESSOR HEARTBEAT OK`. -/
def heartbeatReply : List UInt8 :=
  [0x50, 0x52, 0x4F, 0x43, 0x45, 0x53, 0x53, 0x4F, 0x52, 0x20, 0x48, 0x45, 0x41, 0x52, 0x54, 0x42,
    0x45, 0x41, 0x54, 0x20, 0x4F, 0x4B]

/-- `COMMAND_REPLY`: the bytes of `PROCESSOR COMMAND OK`. -/
def commandReply : List UInt8 :=
  [0x50, 0x52, 0x4F, 0x43, 0x45, 0x53, 0x53, 0x4F, 0x52, 0x20, 0x43, 0x4F, 0x4D, 0x4D, 0x41, 0x4E,
    0x44, 0x20, 0x4F, 0x4B]

def Message.decode (record : List UInt8) : Except HostError Message := do
  if record.length ≠ messageSize then
    throw (.valueError "record must be exactly 64 bytes")
  let version : ℤ := (record.getD 0 0).toNat
  let length := (le16 record 8).toNat
  if version ≠ protocolVersion then
    throw (.valueError ("unsupported protocol version: " ++ toString version))
  if length > payloadSize then
    throw (.valueError ("invalid payload length: " ++ toString length))
  return {
    messageType := (record.getD 1 0).toNat
    sequence := (le32 record 4).toNat
    payload := (record.drop 12).take length
    flags := (le16 record 2).toNat
    status := (le16 record 10).toNat
    version := version }

/-- The values of `NATIVE_PROCESSOR_NAMES`. -/
inductive NativeProcessor where
  | intel8086
  | necV30
  deriving DecidableEq, Repr

def NativeProcessor.name : NativeProcessor → String
  | .intel8086 => "intel-8086"
  | .necV30 => "nec-v30"

/-- `NATIVE_WITNESS_MAGIC`: the bytes of `P86N`. -/
def nativeWitnessMagic : List UInt8 := [0x50, 0x38, 0x36, 0x4E]
def nativeWitnessVersion : ℤ := 1

structure NativeServiceWitness where
  serviceType : ℤ
  bootId : ℤ
  cpuSequence : ℤ
  commandSequence : ℤ
  text : List UInt8
  flags : ℤ := 0
  version : ℤ := nativeWitnessVersion
  deriving DecidableEq, Repr

/-- `NativeServiceWitness.processor`: the low two bits of the flags. -/
def NativeServiceWitness.processor (w : NativeServiceWitness) : Option NativeProcessor :=
  if w.flags % 4 = 1 then some .intel8086 else if w.flags % 4 = 2 then some .necV30 else none

def NativeServiceWitness.encode (w : NativeServiceWitness) : Except HostError (List UInt8) := do
  let fields ← structPack [(1, w.version), (1, w.serviceType), (2, w.flags), (4, w.bootId),
    (4, w.cpuSequence), (4, w.commandSequence)]
  let payload := nativeWitnessMagic ++ fields ++ w.text
  if payload.length > payloadSize then
    throw (.valueError "native service witness exceeds bridge payload")
  return payload

def NativeServiceWitness.decode (payload : List UInt8) : Except HostError NativeServiceWitness := do
  if payload.length < 20 then throw (.valueError "native service witness is truncated")
  let version : ℤ := (payload.getD 4 0).toNat
  if payload.take 4 ≠ nativeWitnessMagic then
    throw (.valueError "native service witness magic mismatch")
  if version ≠ nativeWitnessVersion then
    throw (.valueError ("unsupported native service witness version: " ++ toString version))
  return {
    serviceType := (payload.getD 5 0).toNat
    bootId := (le32 payload 8).toNat
    cpuSequence := (le32 payload 12).toNat
    commandSequence := (le32 payload 16).toNat
    text := payload.drop 20
    flags := (le16 payload 6).toNat
    version := version }

def isCalculatorPayload (payload : List UInt8) : Bool :=
  payload.length == 14 && le16 payload 0 == 0xCA1C

def hidOutputReport (record : List UInt8) : Except HostError (List UInt8) :=
  if record.length ≠ messageSize then .error (.valueError "record must be exactly 64 bytes")
  else .ok (0 :: record)

def normalizeHidInput (report : List UInt8) : Except HostError (List UInt8) :=
  let report := if report.length = messageSize + 1 ∧ report.getD 0 0 = 0 then report.drop 1
    else report
  if report.length ≠ messageSize then
    .error (.valueError ("HID reply must contain exactly 64 ABI bytes; got "
      ++ toString report.length))
  else .ok report

/-- One byte in `repr(bytes)`. -/
def reprByte (quote byte : UInt8) : String :=
  if byte = quote ∨ byte = 0x5C then "\\" ++ (Char.ofNat byte.toNat).toString
  else if byte = 0x09 then "\\t"
  else if byte = 0x0A then "\\n"
  else if byte = 0x0D then "\\r"
  else if 0x20 ≤ byte ∧ byte < 0x7F then (Char.ofNat byte.toNat).toString
  else "\\x" ++ String.ofList [Nat.digitChar (byte.toNat / 16), Nat.digitChar (byte.toNat % 16)]

def reprBytes (bytes : List UInt8) : String :=
  let quote : UInt8 := if 0x27 ∈ bytes ∧ 0x22 ∉ bytes then 0x22 else 0x27
  let mark := (Char.ofNat quote.toNat).toString
  "b" ++ mark ++ String.join (bytes.map (reprByte quote)) ++ mark

def validateLiveReply (record : List UInt8) (request : Message)
    (expectedProcessor : Option NativeProcessor) : Except HostError Message := do
  let expectedType := if request.messageType = typeCommand then typeResult else typeHeartbeat
  let expectedPayload := if request.messageType = typeCommand then commandReply else heartbeatReply
  let reply ← Message.decode (← normalizeHidInput record)
  if reply.messageType ≠ expectedType then
    throw (.valueError ("unexpected native reply type: " ++ toString reply.messageType))
  if reply.sequence ≠ request.sequence then
    throw (.valueError ("native reply sequence mismatch: " ++ toString reply.sequence ++ " != "
      ++ toString request.sequence))
  if reply.status ≠ statusOk then
    throw (.valueError ("V30 live reply status is not OK: " ++ toString reply.status))
  let witness ← NativeServiceWitness.decode reply.payload
  if witness.serviceType ≠ request.messageType then
    throw (.valueError ("native witness service type mismatch: " ++ toString witness.serviceType
      ++ " != " ++ toString request.messageType))
  let calculatorReply := request.messageType = typeCommand ∧
    isCalculatorPayload request.payload = true ∧ [0x43, 0x41, 0x4C, 0x43, 0x20] <+: witness.text
  if witness.text ≠ expectedPayload ∧ ¬ calculatorReply then
    throw (.valueError ("unexpected native reply text: " ++ reprBytes witness.text))
  match expectedProcessor with
  | none => return reply
  | some expected =>
    if witness.processor ≠ some expected then
      throw (.valueError ("native processor identity mismatch: AAD16="
        ++ (witness.processor.map NativeProcessor.name).getD "unknown" ++ " host="
        ++ expected.name))
    return reply

/-- The requests that `WorkloadClient` and the workload ABI know. -/
def isWorkloadType (messageType : ℤ) : Bool :=
  messageType == typeWorkloadBegin || messageType == typeWorkloadData ||
    messageType == typeWorkloadCommit || messageType == typeWorkloadControl

def validateDeviceReply (record : List UInt8) (request : Message)
    (expectedProcessor : Option NativeProcessor) : Except HostError Message := do
  if request.messageType = typeCommand ∨ request.messageType = typeHeartbeat then
    validateLiveReply record request expectedProcessor
  else if request.messageType = typeWorkloadTimeoutRequest then
    let reply ← Message.decode (← normalizeHidInput record)
    if reply.messageType ≠ typeWorkloadTimeoutResult ∨ reply.sequence ≠ request.sequence then
      throw (.valueError "workload timeout reply type/sequence mismatch")
    return reply
  else if request.messageType = typeDiagnosticsRequest then
    let reply ← Message.decode (← normalizeHidInput record)
    if reply.messageType ≠ typeDiagnosticsResult ∨ reply.sequence ≠ request.sequence then
      throw (.valueError "diagnostics reply type/sequence mismatch")
    return reply
  else if request.messageType = typeFilesystemRequest then
    let reply ← Message.decode (← normalizeHidInput record)
    if reply.messageType ≠ typeFilesystemResult then
      throw (.valueError ("unexpected filesystem reply type: " ++ toString reply.messageType))
    if reply.sequence ≠ request.sequence then
      throw (.valueError ("filesystem reply sequence mismatch: " ++ toString reply.sequence
        ++ " != " ++ toString request.sequence))
    return reply
  else if request.messageType = typeMemoryRequest then
    let reply ← Message.decode (← normalizeHidInput record)
    if reply.messageType ≠ typeMemoryResult then
      throw (.valueError ("unexpected memory reply type: " ++ toString reply.messageType))
    if reply.sequence ≠ request.sequence then
      throw (.valueError ("memory reply sequence mismatch: " ++ toString reply.sequence ++ " != "
        ++ toString request.sequence))
    return reply
  else if isWorkloadType request.messageType = false then
    throw (.valueError ("unsupported request type: " ++ toString request.messageType))
  else
    let reply ← Message.decode (← normalizeHidInput record)
    if reply.messageType ≠ typeWorkloadResult ∧ reply.messageType ≠ typeWorkloadStatus then
      throw (.valueError ("unexpected workload reply type: " ++ toString reply.messageType))
    if reply.sequence ≠ request.sequence then
      throw (.valueError ("workload reply sequence mismatch: " ++ toString reply.sequence ++ " != "
        ++ toString request.sequence))
    if reply.status ≠ statusOk then
      throw (.valueError ("workload request status is not OK: " ++ toString reply.status))
    return reply

end Rp86.Host
