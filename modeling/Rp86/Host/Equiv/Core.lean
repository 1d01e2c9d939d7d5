import Rp86.Host.Core
import Rp86.Host.Equiv.Protocol

/-!
# The device's records on the Host

`decode_toRecord_iff`: the Host decodes a record of the device as the message that the firmware put
in it, and `ofRecord_of_encode`: the firmware sees in a record of the Host what was encoded.
-/

namespace Rp86.Host

open Lib

/-- A message of the device as the Host decodes it. -/
def ofDevice (m : Rp86.Message) : Message where
  messageType := m.type.toNat
  sequence := m.sequence.toNat
  payload := m.payload.take m.length.toNat
  flags := m.flags.toNat
  status := m.status.toNat

/-- **What the Host decodes from a record of the device.** -/
theorem decode_toRecord_iff {m : Rp86.Message} {reply : Message} :
    Message.decode m.toRecord.bytes = .ok reply ↔
      m.version = hostProtocolVersion ∧ m.length.toNat ≤ payloadSize ∧ reply = ofDevice m := by
  have hrecord := Rp86.Message.ofRecord_toRecord m
  have hv : m.toRecord.bytes.getD 0 0 = m.version := (congrArg Rp86.Message.version hrecord :)
  have ht : m.toRecord.bytes.getD 1 0 = m.type := (congrArg Rp86.Message.type hrecord :)
  have hf : le16 m.toRecord.bytes 2 = m.flags := (congrArg Rp86.Message.flags hrecord :)
  have hs : le32 m.toRecord.bytes 4 = m.sequence := (congrArg Rp86.Message.sequence hrecord :)
  have hl : le16 m.toRecord.bytes 8 = m.length := (congrArg Rp86.Message.length hrecord :)
  have hst : le16 m.toRecord.bytes 10 = m.status := (congrArg Rp86.Message.status hrecord :)
  have hp : m.toRecord.bytes.drop 12 = m.payload := (congrArg Rp86.Message.payload hrecord :)
  have hversion : (m.version.toNat : ℤ) = protocolVersion ↔ m.version = hostProtocolVersion := by
    rw [← UInt8.toNat_inj]
    exact Int.ofNat_inj
  unfold Message.decode
  simp only [check_eq_ok, hv, ht, hf, hs, hl, hst, hp, not_not, hversion, gt_iff_lt, Nat.not_lt]
  constructor
  · rintro ⟨-, hone, hlength, hreply⟩
    refine ⟨hone, hlength, ?_⟩
    rw [← Except.ok.inj hreply, hone]
    rfl
  · rintro ⟨hone, hlength, rfl⟩
    refine ⟨m.toRecord.length_bytes, hone, hlength, ?_⟩
    rw [hone]
    rfl

theorem decode_toRecord {m : Rp86.Message} (hversion : m.version = hostProtocolVersion)
    (hlength : m.length.toNat ≤ payloadSize) :
    Message.decode m.toRecord.bytes = .ok (ofDevice m) :=
  decode_toRecord_iff.mpr ⟨hversion, hlength, rfl⟩

/-- The request that the device sees in an encoded message. -/
theorem ofRecord_of_encode {messageType sequence : ℤ} {payload : List UInt8} {record : Record}
    (h : ({ messageType := messageType, sequence := sequence, payload := payload } :
      Message).encode = .ok record.bytes) :
    Message.ofRecord record = Rp86.Message.request (UInt8.ofNat messageType.toNat)
        (UInt32.ofNat sequence.toNat) payload ∧
      ((Message.ofRecord record).sequence.toNat : ℤ) = sequence := by
  have hencode := h
  unfold Message.encode at h
  simp only [check_eq_ok, bind_eq_ok, structPack_eq_ok_iff, forall_fits_cons] at h
  obtain ⟨-, hlength, -, ⟨⟨-, htype, -, hsequence, -⟩, -⟩, -⟩ := h
  have hrequest := (Message.encode_request htype hsequence (Nat.not_lt.mp hlength)).symm.trans
    hencode
  obtain ⟨bytes, hbytes⟩ := record
  obtain rfl : _ = bytes := Except.ok.inj hrequest
  have hrecord := Rp86.Message.ofRecord_toRecord (Rp86.Message.request
    (UInt8.ofNat messageType.toNat) (UInt32.ofNat sequence.toNat) payload)
  refine ⟨hrecord, (congrArg (fun m => (m.sequence.toNat : ℤ)) hrecord).trans ?_⟩
  simp only [Rp86.Message.request]
  rw [UInt32.toNat_ofNat', Nat.mod_eq_of_lt (by omega)]
  omega

theorem ofDevice_payload {m : Rp86.Message} (h : m.length = 52) :
    (ofDevice m).payload = m.payload := by
  refine List.take_of_length_le ?_
  rw [m.length_payload, h]
  rfl

end Rp86.Host
