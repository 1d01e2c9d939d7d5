import Mathlib.Data.Int.Bitwise
import Rp86.Host.Protocol
import Rp86.HostProtocol.Message
import Rp86.Lib.Raise

/-!
# The Host's records on the device

`Message.encode_request`: a message of the Host is encoded as the record in which the firmware sees
that message.
-/

namespace Rp86

/-- A record carries a request, under some sequence. -/
def Record.Carries (record : Record) (request : UInt32 → Message) : Prop :=
  ∃ sequence, record = (request sequence).toRecord

end Rp86

namespace Rp86.Host

open Lib

/-! ### Computations that raise only `ValueError` -/

/-- No other exception is raised. -/
def OnlyValueErrors {α : Type} (x : Except HostError α) : Prop :=
  ∀ e, x = .error e → ∃ text, e = .valueError text

section

variable {α β : Type} {x : Except HostError α} {f : α → Except HostError β}

theorem onlyValueErrors_ok (a : α) : OnlyValueErrors (.ok a) := by
  intro e h
  cases h

theorem onlyValueErrors_raise (text : String) :
    OnlyValueErrors (.error (.valueError text) : Except HostError α) := by
  intro e h
  exact ⟨text, (Except.error.inj h).symm⟩

theorem OnlyValueErrors.bind (hx : OnlyValueErrors x) (hf : ∀ a, OnlyValueErrors (f a)) :
    OnlyValueErrors (x >>= f) := by
  intro e h
  rcases bind_eq_error.mp h with h | ⟨a, -, h⟩
  · exact hx e h
  · exact hf a e h

theorem OnlyValueErrors.check {p : Prop} [Decidable p] {text : String}
    {f : Unit → Except HostError α} (hf : OnlyValueErrors (f ())) :
    OnlyValueErrors (if p then throw (.valueError text) >>= f else f ()) := by
  intro e h
  rcases check_eq_error.mp h with ⟨-, rfl⟩ | ⟨-, h⟩
  · exact ⟨text, rfl⟩
  · exact hf e h

end

/-- `struct.pack` raises exactly when a value does not fit. -/
theorem structPack_eq_ok_iff {fields : List IntField} {bytes : List UInt8} :
    structPack fields = .ok bytes ↔
      (∀ field ∈ fields, field.Fits) ∧ bytes = fields.flatMap IntField.bytes := by
  rw [← packInts_eq_some_iff, structPack]
  cases packInts fields with
  | none | some packed => simp

/-- **A message is encoded as the record that carries it.** -/
theorem Message.encode_request {messageType sequence : ℤ} {payload : List UInt8}
    (htype : 0 ≤ messageType ∧ messageType < 256) (hsequence : 0 ≤ sequence ∧ sequence < 2 ^ 32)
    (hpayload : payload.length ≤ payloadSize) :
    ({ messageType := messageType, sequence := sequence, payload := payload } : Message).encode
      = .ok (Rp86.Message.request (UInt8.ofNat messageType.toNat) (UInt32.ofNat sequence.toNat)
          payload).toRecord.bytes := by
  have h52 : payloadSize = 52 := rfl
  have hversion : protocolVersion = 1 := rfl
  have hpack := (@structPack_eq_ok_iff [(1, protocolVersion), (1, messageType), (2, 0),
    (4, sequence), (2, payload.length), (2, 0)] _).mpr ⟨by
      simp only [forall_fits_cons, forall_fits_nil, and_true]
      omega, rfl⟩
  have htype' : UInt8.ofNat (messageType.toNat % 256) = UInt8.ofNat messageType.toNat := by
    rw [Nat.mod_eq_of_lt (by omega)]
  have hsequence' : (UInt32.ofNat sequence.toNat).toNat = sequence.toNat := by
    rw [UInt32.toNat_ofNat', Nat.mod_eq_of_lt (by omega)]
  have hlength' : (UInt16.ofNat payload.length).toNat = payload.length := by
    rw [UInt16.toNat_ofNat', Nat.mod_eq_of_lt (by omega)]
  rw [Message.encode, if_neg (by simp), if_neg (by simp only; omega), hpack]
  -- both sides are the twelve header bytes and the padded payload
  simp only [Rp86.Message.toRecord, Rp86.Message.request, hsequence', hlength', padPayload, ljust,
    List.take_of_length_le (show payload.length ≤ Rp86.payloadSize from hpayload),
    List.flatMap_cons, List.flatMap_nil, IntField.bytes, leBytes, htype', Int.toNat_natCast]
  rfl

/-- A message of the Host is encoded as a request of the device, under some sequence. -/
def Message.Sends (message : Message) (request : UInt32 → Rp86.Message) : Prop :=
  ∃ sequence, message.encode = .ok (request sequence).toRecord.bytes

/-- A message of the Host is encoded as a request of the device, if its sequence can be encoded. -/
def Message.Represents (message : Message) (request : UInt32 → Rp86.Message) : Prop :=
  0 ≤ message.sequence ∧ message.sequence < 2 ^ 32 → message.Sends request

theorem Message.represents_request {messageType sequence : ℤ} {payload : List UInt8}
    (htype : 0 ≤ messageType ∧ messageType < 256) (hpayload : payload.length ≤ payloadSize) :
    Message.Represents
      { messageType := messageType, sequence := sequence, payload := payload }
      fun sequence => Rp86.Message.request (UInt8.ofNat messageType.toNat) sequence payload :=
  fun hsequence => ⟨_, Message.encode_request htype hsequence hpayload⟩

/-- The records in which messages of the Host are sent. -/
theorem exists_records {α : Type*} {request : α → UInt32 → Rp86.Message}
    {messages : List Message} {as : List α}
    (h : List.Forall₂ (fun message a => message.Sends (request a)) messages as) :
    ∃ records : List Record, messages.map Message.encode
        = records.map (fun record => .ok record.bytes) ∧
      List.Forall₂ (fun record a => record.Carries (request a)) records as := by
  induction h with
  | nil => exact ⟨[], rfl, .nil⟩
  | cons hmessage _ ih =>
    obtain ⟨sequence, hencode⟩ := hmessage
    obtain ⟨records, hrecords, hcarries⟩ := ih
    exact ⟨(request _ sequence).toRecord :: records,
      by rw [List.map_cons, List.map_cons, hencode, hrecords], .cons ⟨sequence, rfl⟩ hcarries⟩

theorem forall₂_sends {messages : List Message} {requests : List (UInt32 → Rp86.Message)}
    (h : List.Forall₂ Message.Represents messages requests)
    (hsequences : ∀ message ∈ messages, 0 ≤ message.sequence ∧ message.sequence < 2 ^ 32) :
    List.Forall₂ Message.Sends messages requests := by
  induction h with
  | nil => exact .nil
  | cons hmessage _ ih =>
    rw [List.forall_mem_cons] at hsequences
    exact .cons (hmessage hsequences.1) (ih hsequences.2)

/-! ### Flags -/

theorem land_toNat_ne_zero {x flag : UInt32} :
    Int.land (x.toNat : ℤ) (flag.toNat : ℤ) ≠ 0 ↔ x &&& flag ≠ 0 := by
  rw [show Int.land (x.toNat : ℤ) (flag.toNat : ℤ) = ((x.toNat &&& flag.toNat : ℕ) : ℤ) from rfl,
    ← UInt32.toNat_and, ne_eq, ne_eq, ← UInt32.toNat_inj]
  exact Int.ofNat_inj.not

/-- The bits of a 32-bit field outside a mask, as the Host tests them. -/
theorem land_lnot_toNat_ne_zero {x mask : UInt32} :
    Int.land (x.toNat : ℤ) (Int.lnot (mask.toNat : ℤ)) ≠ 0 ↔ x &&& ~~~ mask ≠ 0 := by
  have hbits : (x &&& ~~~ mask).toNat = Nat.ldiff x.toNat mask.toNat := by
    refine Nat.eq_of_testBit_eq fun i => ?_
    rw [UInt32.toNat_and, UInt32.toNat_not, Nat.testBit_and, Nat.testBit_ldiff]
    have hsize : UInt32.size - 1 - mask.toNat = 2 ^ 32 - (mask.toNat + 1) := by
      have h32 : UInt32.size = 2 ^ 32 := rfl
      omega
    rw [hsize, Nat.testBit_two_pow_sub_succ mask.toNat_lt]
    by_cases hi : i < 32
    · rw [decide_eq_true hi, Bool.true_and]
    · have hhigh : Nat.testBit x.toNat i = false :=
        Nat.testBit_lt_two_pow (Nat.lt_of_lt_of_le x.toNat_lt
          (Nat.pow_le_pow_right (by decide) (Nat.le_of_not_lt hi)))
      rw [hhigh, Bool.false_and, Bool.false_and]
  rw [show Int.land (x.toNat : ℤ) (Int.lnot (mask.toNat : ℤ))
    = ((Nat.ldiff x.toNat mask.toNat : ℕ) : ℤ) from rfl, ← hbits, ne_eq, ne_eq,
    ← UInt32.toNat_inj]
  exact Int.ofNat_inj.not

/-! ### Sequences -/

/-- The successor of a sequence is a nonzero 32-bit value. -/
theorem nextSequence_range (sequence : ℤ) :
    1 ≤ nextSequence sequence ∧ nextSequence sequence < 2 ^ 32 := by
  unfold nextSequence
  split_ifs <;> omega

end Rp86.Host
