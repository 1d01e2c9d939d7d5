import Rp86.Lib.LittleEndian

/-!
# Host Protocol records

The record of `host_protocol/host_protocol.h`: a fixed 64-byte little-endian layout of which the
last 52 bytes are the payload.  The firmware overlays the structure on the received bytes
(`Message.ofRecord`), so every 64-byte string is some message.
-/

namespace Rp86

open Lib

def hostProtocolVersion : UInt8 := 1
def messageSize : ℕ := 64
def payloadSize : ℕ := 52

/-! The message types, `RP86_HOST_PROTOCOL_MESSAGE_*`. -/

def typeCommand : UInt8 := 4
def typeHeartbeat : UInt8 := 6
def typeWorkloadBegin : UInt8 := 0x20
def typeWorkloadData : UInt8 := 0x21
def typeWorkloadCommit : UInt8 := 0x22
def typeWorkloadControl : UInt8 := 0x23
def typeWorkloadStatus : UInt8 := 0x24
def typeWorkloadResult : UInt8 := 0x25
def typeWorkloadTimeoutRequest : UInt8 := 0x26
def typeWorkloadTimeoutResult : UInt8 := 0x27
def typeRuntimeControl : UInt8 := 0x30
def typeRuntimeStatus : UInt8 := 0x31
def typeFilesystemRequest : UInt8 := 0x40
def typeMemoryRequest : UInt8 := 0x50
def typeMemoryResult : UInt8 := 0x51
def typeDiagnosticsRequest : UInt8 := 0x60
def typeDiagnosticsResult : UInt8 := 0x61

inductive HostStatus where
  | ok
  | badVersion
  | badLength
  | busy
  | timeout
  | badSequence
  | serviceUnavailable
  | badCrc
  | badState
  | badWorkload
  | ioError
  | notFound
  | invalidPath
  | noSpace
  deriving DecidableEq, Repr

def HostStatus.code : HostStatus → UInt16
  | .ok => 0
  | .badVersion => 1
  | .badLength => 2
  | .busy => 3
  | .timeout => 4
  | .badSequence => 5
  | .serviceUnavailable => 6
  | .badCrc => 7
  | .badState => 8
  | .badWorkload => 9
  | .ioError => 10
  | .notFound => 11
  | .invalidPath => 12
  | .noSpace => 13

theorem HostStatus.code_eq_ok {status : HostStatus} :
    status.code = HostStatus.ok.code ↔ status = .ok := by
  cases status <;> decide

/-- One 64-byte record as the transport carries it. -/
structure Record where
  bytes : List UInt8
  length_bytes : bytes.length = messageSize
  deriving DecidableEq, Repr

structure Message where
  version : UInt8
  type : UInt8
  flags : UInt16
  sequence : UInt32
  length : UInt16
  status : UInt16
  payload : List UInt8
  length_payload : payload.length = payloadSize
  deriving DecidableEq, Repr

def Message.ofRecord (record : Record) : Message where
  version := record.bytes.getD 0 0
  type := record.bytes.getD 1 0
  flags := le16 record.bytes 2
  sequence := le32 record.bytes 4
  length := le16 record.bytes 8
  status := le16 record.bytes 10
  payload := record.bytes.drop 12
  length_payload := by simp [record.length_bytes, messageSize, payloadSize]

def Message.toRecord (m : Message) : Record where
  bytes := [m.version, m.type] ++ leBytes 2 m.flags.toNat ++ leBytes 4 m.sequence.toNat ++
    leBytes 2 m.length.toNat ++ leBytes 2 m.status.toNat ++ m.payload
  length_bytes := by simp [m.length_payload, messageSize, payloadSize]

/-- The firmware sees the message that a record was made of. -/
theorem Message.ofRecord_toRecord (m : Message) : Message.ofRecord m.toRecord = m := by
  obtain ⟨version, type, flags, sequence, length, status, payload, hpayload⟩ := m
  have hpair : ([version, type] : List UInt8).length = 2 := rfl
  simp only [Message.ofRecord, Message.toRecord, List.append_assoc, le32_leBytes, le16_leBytes,
    le32_append_of_le, le16_append_of_le, length_leBytes, hpair, Nat.reduceLeDiff, Nat.reduceSub,
    UInt16.ofNat_toNat, UInt32.ofNat_toNat]
  congr 1

/-- A payload field that starts with `data` and is zero behind it. -/
def padPayload (data : List UInt8) : List UInt8 :=
  data.take payloadSize ++ List.replicate (payloadSize - data.length) 0

theorem length_padPayload (data : List UInt8) : (padPayload data).length = payloadSize := by
  simp only [padPayload, List.length_append, List.length_take, List.length_replicate]
  omega

theorem padPayload_of_le {data : List UInt8} (h : data.length ≤ payloadSize) :
    padPayload data = data ++ List.replicate (payloadSize - data.length) 0 := by
  rw [padPayload, List.take_of_length_le h]

theorem take_padPayload {data : List UInt8} (h : data.length ≤ payloadSize) :
    (padPayload data).take data.length = data := by
  rw [padPayload_of_le h, List.take_left]

/-- A reply: flags are zero and the payload is zero behind `data`. -/
def Message.reply (type : UInt8) (request : Message) (status : HostStatus) (length : UInt16)
    (data : List UInt8) : Message where
  version := hostProtocolVersion
  type := type
  flags := 0
  sequence := request.sequence
  length := length
  status := status.code
  payload := padPayload data
  length_payload := length_padPayload data

/-- A request as the Host sends it: no flags, status `OK`, and the payload zero behind `data`. -/
def Message.request (type : UInt8) (sequence : UInt32) (data : List UInt8) : Message where
  version := hostProtocolVersion
  type := type
  flags := 0
  sequence := sequence
  length := UInt16.ofNat data.length
  status := HostStatus.ok.code
  payload := padPayload data
  length_payload := length_padPayload data

/-- The 32-bit field at a byte offset of the payload. -/
def Message.word (m : Message) (i : ℕ) : UInt32 := le32 m.payload i

section

variable {type : UInt8} {sequence : UInt32} {data : List UInt8}

theorem Message.request_payload (h : data.length ≤ payloadSize) :
    (Message.request type sequence data).payload
      = data ++ List.replicate (payloadSize - data.length) 0 :=
  padPayload_of_le h

theorem Message.request_length (h : data.length ≤ payloadSize) :
    (Message.request type sequence data).length.toNat = data.length := by
  have h52 : payloadSize = 52 := rfl
  exact Nat.mod_eq_of_lt (by omega)

theorem Message.request_getD (h : data.length ≤ payloadSize) {i : ℕ} (hi : i < data.length) :
    (Message.request type sequence data).payload.getD i 0 = data.getD i 0 := by
  rw [Message.request_payload h, List.getD_append _ _ _ _ hi]

theorem Message.request_le16 (h : data.length ≤ payloadSize) {i : ℕ} (hi : i + 2 ≤ data.length) :
    le16 (Message.request type sequence data).payload i = le16 data i := by
  rw [Message.request_payload h, le16_append_left hi]

theorem Message.request_word (h : data.length ≤ payloadSize) {i : ℕ} (hi : i + 4 ≤ data.length) :
    (Message.request type sequence data).word i = le32 data i := by
  rw [Message.word, Message.request_payload h, le32_append_left hi]

theorem Message.request_slice (h : data.length ≤ payloadSize) {i n : ℕ}
    (hi : i + n ≤ data.length) :
    ((Message.request type sequence data).payload.drop i).take n = (data.drop i).take n := by
  rw [Message.request_payload h, List.drop_append_of_le_length (by omega),
    List.take_append_of_le_length (by rw [List.length_drop]; omega)]

end

def payloadLengthValid (record : Message) : Bool := record.length.toNat ≤ payloadSize

end Rp86
