import Rp86.Host.Core
import Rp86.Host.Equiv.Protocol

/-!
# The Host's record codec

`Message.encode` packs six integers and a padded payload, and `Message.decode` reads them back.  An
encoded message is decoded as it was, and a record that is decoded is encoded again with zeros
behind its payload.  `NativeServiceWitness` has the same laws, without padding: its text is the rest
of the payload.
-/

namespace Rp86.Host

open Lib

/-! ### Messages -/

/-- The integers in front of the payload of a record. -/
def Message.header (m : Message) : List IntField :=
  [(1, m.version), (1, m.messageType), (2, m.flags), (4, m.sequence), (2, m.payload.length),
    (2, m.status)]

def headerWidths : List ℕ := [1, 1, 2, 4, 2, 2]

/-- Each field of the message fits its width in the record. -/
structure Message.Fits (m : Message) : Prop where
  header : ∀ field ∈ m.header, field.Fits
  payload : m.payload.length ≤ payloadSize

variable {m : Message} {record payload : List UInt8} {w : NativeServiceWitness}

theorem Message.encode_eq_ok_iff : m.encode = .ok record ↔ m.version = protocolVersion ∧ m.Fits ∧
      record = m.header.flatMap IntField.bytes ++ ljust m.payload payloadSize := by
  rw [Message.encode, check_eq_ok, check_eq_ok, not_not, Nat.not_lt]
  constructor
  · rintro ⟨hversion, hpayload, h⟩
    obtain ⟨fields, hpack, h⟩ := bind_eq_ok.mp h
    obtain ⟨hfits, rfl⟩ := structPack_eq_ok_iff.mp hpack
    exact ⟨hversion, ⟨hfits, hpayload⟩, (Except.ok.inj h).symm⟩
  · rintro ⟨hversion, hfits, rfl⟩
    exact ⟨hversion, hfits.payload,
      bind_eq_ok.mpr ⟨_, structPack_eq_ok_iff.mpr ⟨hfits.header, rfl⟩, rfl⟩⟩

/-- What the Host reads from a record of 64 bytes. -/
def Message.read (record : List UInt8) : Message where
  messageType := (record.getD 1 0).toNat
  sequence := (le32 record 4).toNat
  payload := (record.drop 12).take (le16 record 8).toNat
  flags := (le16 record 2).toNat
  status := (le16 record 10).toNat
  version := (record.getD 0 0).toNat

/-- What `Message.decode` accepts. -/
structure Acceptable (record : List UInt8) : Prop where
  size : record.length = messageSize
  version : record.getD 0 0 = 1
  length : (le16 record 8).toNat ≤ payloadSize

theorem toNat_eq_protocolVersion {version : UInt8} :
    (version.toNat : ℤ) = protocolVersion ↔ version = 1 := by
  rw [← UInt8.toNat_inj]
  exact Int.ofNat_inj

theorem Message.decode_eq_ok_iff :
    Message.decode record = .ok m ↔ Acceptable record ∧ m = Message.read record := by
  unfold Message.decode
  simp only [check_eq_ok, not_not, Nat.not_lt, gt_iff_lt, toNat_eq_protocolVersion]
  constructor
  · rintro ⟨hsize, hversion, hlength, h⟩
    exact ⟨⟨hsize, hversion, hlength⟩, (Except.ok.inj h).symm⟩
  · rintro ⟨⟨hsize, hversion, hlength⟩, rfl⟩
    exact ⟨hsize, hversion, hlength, rfl⟩

theorem Message.decode_onlyValueErrors (record : List UInt8) :
    OnlyValueErrors (Message.decode record) := by
  unfold Message.decode
  exact .check (.check (.check (onlyValueErrors_ok _)))

theorem length_read_payload (h : Acceptable record) :
    (Message.read record).payload.length = (le16 record 8).toNat := by
  have hsize : record.length = 64 := h.size
  have hlength : (le16 record 8).toNat ≤ 52 := h.length
  show ((record.drop 12).take _).length = _
  rw [List.length_take, List.length_drop]
  omega

theorem header_read (h : Acceptable record) :
    (Message.read record).header = unpackInts headerWidths record 0 := by
  rw [Message.header, length_read_payload h]
  simp only [Message.read, headerWidths, unpackInts, toNat_le16, toNat_le32, toNat_getD,
    Nat.zero_add, Nat.reduceAdd]

/-- **A message that is encoded is decoded as it was.** -/
theorem Message.decode_of_encode (h : m.encode = .ok record) : Message.decode record = .ok m := by
  obtain ⟨hversion, hfits, rfl⟩ := Message.encode_eq_ok_iff.mp h
  set record := m.header.flatMap IntField.bytes ++ ljust m.payload payloadSize with hrecord
  have hheader : unpackInts headerWidths record 0 = m.header :=
    unpackInts_flatMap hfits.header [] (ljust m.payload payloadSize)
  have hlen : (m.header.flatMap IntField.bytes).length = 12 := by
    simp [Message.header, IntField.bytes]
  have hpayload : m.payload.length ≤ 52 := hfits.payload
  have hdrop : record.drop 12 = ljust m.payload payloadSize := by
    rw [hrecord, List.drop_left' hlen]
  simp only [headerWidths, unpackInts, Message.header, Nat.zero_add, Nat.reduceAdd,
    ← toNat_le16, ← toNat_le32, ← toNat_getD, List.cons.injEq, Prod.mk.injEq, true_and,
    and_true] at hheader
  obtain ⟨hv, ht, hf, hs, hl, hst⟩ := hheader
  have hl' : (le16 record 8).toNat = m.payload.length := Int.ofNat_inj.mp hl
  refine Message.decode_eq_ok_iff.mpr ⟨⟨?_, ?_, ?_⟩, ?_⟩
  · show record.length = 64
    rw [hrecord, List.length_append, hlen, ljust, List.length_append, List.length_replicate]
    show 12 + (m.payload.length + (52 - m.payload.length)) = 64
    omega
  · rw [← toNat_eq_protocolVersion, hv, hversion]
  · rw [hl']
    exact hfits.payload
  · rw [Message.read, hv, ht, hf, hs, hl', hst, hdrop, ljust, List.take_left]

/-- **A record that is decoded** is encoded again with zeros behind its payload. -/
theorem Message.encode_of_decode (h : Message.decode record = .ok m) :
    m.encode = .ok (ljust (record.take (12 + m.payload.length)) messageSize) := by
  obtain ⟨hacceptable, rfl⟩ := Message.decode_eq_ok_iff.mp h
  have hsize : record.length = 64 := hacceptable.size
  have hlength : (le16 record 8).toNat ≤ 52 := hacceptable.length
  have hheader := header_read hacceptable
  refine Message.encode_eq_ok_iff.mpr
    ⟨toNat_eq_protocolVersion.mpr hacceptable.version, ⟨?_, ?_⟩, ?_⟩
  · rw [hheader]
    exact fits_unpackInts _ _ _
  · rw [length_read_payload hacceptable]
    exact hacceptable.length
  · have hbytes : (unpackInts headerWidths record 0).flatMap IntField.bytes = record.take 12 :=
      flatMap_unpackInts (by rw [hsize]; decide)
    rw [hheader, hbytes, length_read_payload hacceptable, List.take_add]
    show ljust (_ ++ (Message.read record).payload) messageSize = _
    rw [ljust, ljust, List.append_assoc, List.length_append, length_read_payload hacceptable,
      List.length_take, hsize]
    congr 3
    show 64 - (min 12 64 + _) = 52 - _
    omega

/-- It is the record itself exactly when that has zeros there. -/
theorem Message.encode_eq_record_iff (h : Message.decode record = .ok m) :
    m.encode = .ok record ↔ ∀ byte ∈ record.drop (12 + m.payload.length), byte = 0 := by
  obtain ⟨hacceptable, rfl⟩ := Message.decode_eq_ok_iff.mp h
  have hsize : record.length = 64 := hacceptable.size
  have hlength : (le16 record 8).toNat ≤ 52 := hacceptable.length
  rw [Message.encode_of_decode h, Except.ok.injEq, length_read_payload hacceptable, ljust,
    List.length_take, hsize]
  set front := 12 + (le16 record 8).toNat
  have hfront : messageSize - min front 64 = (record.drop front).length := by
    rw [List.length_drop, hsize]
    show 64 - min front 64 = 64 - front
    omega
  rw [hfront]
  constructor
  · intro heq
    have hdrop := congrArg (List.drop front) heq
    rw [List.drop_left' (by rw [List.length_take, hsize]; omega)] at hdrop
    rw [← hdrop]
    exact fun byte hbyte => List.eq_of_mem_replicate hbyte
  · intro hzero
    rw [← List.eq_replicate_of_mem hzero, List.take_append_drop]

/-! ### Witnesses -/

/-- The integers behind the magic of a witness. -/
def NativeServiceWitness.header (w : NativeServiceWitness) : List IntField :=
  [(1, w.version), (1, w.serviceType), (2, w.flags), (4, w.bootId), (4, w.cpuSequence),
    (4, w.commandSequence)]

def witnessWidths : List ℕ := [1, 1, 2, 4, 4, 4]

/-- Each field of the witness fits its width, and the text fits the rest of a payload. -/
structure NativeServiceWitness.Fits (w : NativeServiceWitness) : Prop where
  header : ∀ field ∈ w.header, field.Fits
  text : w.text.length ≤ payloadSize - 20

theorem NativeServiceWitness.length_header (w : NativeServiceWitness) :
    (w.header.flatMap IntField.bytes).length = 16 := by
  simp [NativeServiceWitness.header, IntField.bytes]

theorem NativeServiceWitness.encode_eq_ok_iff : w.encode = .ok payload ↔ w.Fits ∧
      payload = nativeWitnessMagic ++ (w.header.flatMap IntField.bytes ++ w.text) := by
  have hmagic : nativeWitnessMagic.length = 4 := rfl
  have h52 : payloadSize = 52 := rfl
  have hlen := w.length_header
  rw [NativeServiceWitness.encode]
  constructor
  · intro h
    obtain ⟨fields, hpack, h⟩ := bind_eq_ok.mp h
    obtain ⟨hfits, rfl⟩ := structPack_eq_ok_iff.mp hpack
    obtain ⟨hlength, h⟩ := check_eq_ok.mp h
    obtain rfl := Except.ok.inj h
    refine ⟨⟨hfits, ?_⟩, List.append_assoc _ _ _⟩
    change ¬ (nativeWitnessMagic ++ w.header.flatMap IntField.bytes ++ w.text).length > _ at hlength
    rw [List.length_append, List.length_append, hmagic, hlen] at hlength
    omega
  · rintro ⟨hfits, rfl⟩
    have htext := hfits.text
    refine bind_eq_ok.mpr
      ⟨_, structPack_eq_ok_iff.mpr ⟨hfits.header, rfl⟩, check_eq_ok.mpr ⟨?_, ?_⟩⟩
    · show ¬ (nativeWitnessMagic ++ w.header.flatMap IntField.bytes ++ w.text).length > _
      rw [List.length_append, List.length_append, hmagic, hlen]
      omega
    · rw [← List.append_assoc]
      rfl

/-- What the Host reads from the payload of a native reply. -/
def NativeServiceWitness.read (payload : List UInt8) : NativeServiceWitness where
  serviceType := (payload.getD 5 0).toNat
  bootId := (le32 payload 8).toNat
  cpuSequence := (le32 payload 12).toNat
  commandSequence := (le32 payload 16).toNat
  text := payload.drop 20
  flags := (le16 payload 6).toNat
  version := (payload.getD 4 0).toNat

theorem NativeServiceWitness.decode_eq_ok_iff : NativeServiceWitness.decode payload = .ok w ↔
      20 ≤ payload.length ∧ payload.take 4 = nativeWitnessMagic ∧
        ((payload.getD 4 0).toNat : ℤ) = nativeWitnessVersion ∧
        w = NativeServiceWitness.read payload := by
  unfold NativeServiceWitness.decode
  simp only [check_eq_ok, not_not, Nat.not_lt]
  constructor
  · rintro ⟨hsize, hmagic, hversion, h⟩
    exact ⟨hsize, hmagic, hversion, (Except.ok.inj h).symm⟩
  · rintro ⟨hsize, hmagic, hversion, rfl⟩
    exact ⟨hsize, hmagic, hversion, rfl⟩

theorem NativeServiceWitness.decode_onlyValueErrors (payload : List UInt8) :
    OnlyValueErrors (NativeServiceWitness.decode payload) := by
  unfold NativeServiceWitness.decode
  exact .check (.check (.check (onlyValueErrors_ok _)))

theorem NativeServiceWitness.header_read (payload : List UInt8) :
    (NativeServiceWitness.read payload).header = unpackInts witnessWidths payload 4 := by
  simp only [NativeServiceWitness.header, NativeServiceWitness.read, witnessWidths, unpackInts,
    toNat_le16, toNat_le32, toNat_getD, Nat.reduceAdd]

/-- **A witness that is encoded is decoded as it was.** -/
theorem NativeServiceWitness.decode_of_encode (hversion : w.version = nativeWitnessVersion)
    (h : w.encode = .ok payload) : NativeServiceWitness.decode payload = .ok w := by
  obtain ⟨hfits, rfl⟩ := NativeServiceWitness.encode_eq_ok_iff.mp h
  set payload := nativeWitnessMagic ++ (w.header.flatMap IntField.bytes ++ w.text) with hpayload
  have hmagic : nativeWitnessMagic.length = 4 := rfl
  have hheader : unpackInts witnessWidths payload 4 = w.header :=
    unpackInts_flatMap hfits.header nativeWitnessMagic w.text
  have hdrop : payload.drop 20 = w.text := by
    rw [hpayload, ← List.append_assoc]
    exact List.drop_left' (by rw [List.length_append, hmagic, w.length_header])
  simp only [witnessWidths, unpackInts, NativeServiceWitness.header, Nat.reduceAdd, ← toNat_le16,
    ← toNat_le32, ← toNat_getD, List.cons.injEq, Prod.mk.injEq, true_and, and_true] at hheader
  obtain ⟨hv, ht, hf, hb, hc, hs⟩ := hheader
  refine NativeServiceWitness.decode_eq_ok_iff.mpr ⟨?_, List.take_left' hmagic, ?_, ?_⟩
  · rw [hpayload, List.length_append, List.length_append, hmagic, w.length_header]
    omega
  · rw [hv, hversion]
  · rw [NativeServiceWitness.read, hv, ht, hf, hb, hc, hs, hdrop]

/-- **The payload of a witness that is decoded** is its encoding. -/
theorem NativeServiceWitness.encode_of_decode (hlength : payload.length ≤ payloadSize)
    (h : NativeServiceWitness.decode payload = .ok w) : w.encode = .ok payload := by
  obtain ⟨hsize, hmagic, hversion, rfl⟩ := NativeServiceWitness.decode_eq_ok_iff.mp h
  have hheader := NativeServiceWitness.header_read payload
  refine NativeServiceWitness.encode_eq_ok_iff.mpr ⟨⟨?_, ?_⟩, ?_⟩
  · rw [hheader]
    exact fits_unpackInts _ _ _
  · show (payload.drop 20).length ≤ payloadSize - 20
    rw [List.length_drop]
    omega
  · have hbytes : (unpackInts witnessWidths payload 4).flatMap IntField.bytes
        = (payload.drop 4).take 16 := flatMap_unpackInts (by
      show 4 + 16 ≤ payload.length
      omega)
    rw [hheader, hbytes, ← hmagic]
    show payload = payload.take 4 ++ ((payload.drop 4).take 16 ++ payload.drop (4 + 16))
    rw [← List.drop_drop, List.take_append_drop, List.take_append_drop]

/-- **The laws of the record codec.**  A message of the current version whose fields fit is decoded
as it was encoded; a record that is accepted is encoded again with zeros behind its payload; every
other byte string is a `ValueError`; and a witness goes through the payload of a message in both
directions. -/
theorem record_codec_laws :
    (∀ m : Message, m.Fits → m.version = protocolVersion →
      ∃ record, m.encode = .ok record ∧ Message.decode record = .ok m) ∧
    (∀ record m, Message.decode record = .ok m →
      m.encode = .ok (ljust (record.take (12 + m.payload.length)) messageSize) ∧
      (m.encode = .ok record ↔ ∀ byte ∈ record.drop (12 + m.payload.length), byte = 0)) ∧
    (∀ record, (∀ m, Message.decode record ≠ .ok m) →
      ∃ text, Message.decode record = .error (.valueError text)) ∧
    (∀ w : NativeServiceWitness, w.Fits → w.version = nativeWitnessVersion →
      ∃ payload, w.encode = .ok payload ∧ NativeServiceWitness.decode payload = .ok w ∧
        ∀ m : Message, m.Fits → m.version = protocolVersion → m.payload = payload →
          ∃ record, m.encode = .ok record ∧
            (Message.decode record >>= fun m => NativeServiceWitness.decode m.payload) = .ok w) ∧
    (∀ record m w, Message.decode record = .ok m → NativeServiceWitness.decode m.payload = .ok w →
      w.encode = .ok m.payload) := by
  refine ⟨?_, ?_, ?_, ?_, ?_⟩
  · intro m hfits hversion
    have hencode := Message.encode_eq_ok_iff.mpr ⟨hversion, hfits, rfl⟩
    exact ⟨_, hencode, Message.decode_of_encode hencode⟩
  · intro record m h
    exact ⟨Message.encode_of_decode h, Message.encode_eq_record_iff h⟩
  · intro record h
    cases hdecode : Message.decode record with
    | ok m => exact absurd hdecode (h m)
    | error e =>
      obtain ⟨text, rfl⟩ := Message.decode_onlyValueErrors _ _ hdecode
      exact ⟨text, rfl⟩
  · intro w hfits hversion
    have hencode := NativeServiceWitness.encode_eq_ok_iff.mpr ⟨hfits, rfl⟩
    have hdecode := NativeServiceWitness.decode_of_encode hversion hencode
    refine ⟨_, hencode, hdecode, ?_⟩
    intro m hm hmversion hpayload
    -- the witness is the payload of a message that fits, so both laws apply
    have hmencode := Message.encode_eq_ok_iff.mpr ⟨hmversion, hm, rfl⟩
    refine ⟨_, hmencode, bind_eq_ok.mpr ⟨m, Message.decode_of_encode hmencode, ?_⟩⟩
    rw [hpayload]
    exact hdecode
  · intro record m w h hw
    obtain ⟨hacceptable, rfl⟩ := Message.decode_eq_ok_iff.mp h
    refine NativeServiceWitness.encode_of_decode ?_ hw
    rw [length_read_payload hacceptable]
    exact hacceptable.length

/-- The witness of a command, in the payload of its reply. -/
theorem record_codec_laws_command :
    ∃ payload record,
      ({ serviceType := typeCommand, bootId := 7, cpuSequence := 3, commandSequence := 9
         text := commandReply, flags := 1 } : NativeServiceWitness).encode = .ok payload ∧
      ({ messageType := typeResult, sequence := 9, payload := payload } : Message).encode
        = .ok record ∧
      (Message.decode record >>= fun m => NativeServiceWitness.decode m.payload)
        = .ok { serviceType := typeCommand, bootId := 7, cpuSequence := 3, commandSequence := 9
                text := commandReply, flags := 1 } := by
  obtain ⟨-, -, -, hwitness, -⟩ := record_codec_laws
  obtain ⟨payload, hencode, -, hnested⟩ := hwitness
    { serviceType := typeCommand, bootId := 7, cpuSequence := 3, commandSequence := 9
      text := commandReply, flags := 1 } ⟨by decide, by decide⟩ rfl
  obtain ⟨-, rfl⟩ := NativeServiceWitness.encode_eq_ok_iff.mp hencode
  obtain ⟨record, hrecord, hdecode⟩ := hnested
    { messageType := typeResult, sequence := 9, payload := _ } ⟨by decide, by decide⟩ rfl rfl
  exact ⟨_, record, hencode, hrecord, hdecode⟩

/-- A message of another version fits the record, but is not encoded. -/
theorem record_codec_version :
    ({ messageType := typeCommand, sequence := 1, version := 2 } : Message).Fits ∧
      ∀ record, ({ messageType := typeCommand, sequence := 1, version := 2 } : Message).encode
        ≠ .ok record := by
  refine ⟨⟨by decide, by decide⟩, ?_⟩
  intro record h
  exact absurd (Message.encode_eq_ok_iff.mp h).1 (by decide)

end Rp86.Host
