import Rp86.Bus.Equiv.ClockStepped
import Rp86.Lib.Refinement
import Rp86.Runtime.Executor

/-!
# The processor's memory is flat

`FlatMemory` is what the processor is promised: bytes by address, some of them read-only.  Every
service of the bus answers a memory cycle as this memory does (`FlatMemory.Answers`), whatever the
clock and the sampled pins do.
-/

namespace Rp86

open Lib

/-! ### Specification -/

/-- A byte-addressed memory: the mapped bytes, and which of them can be written. -/
structure FlatMemory where
  byte : ℕ → Option UInt8
  writable : ℕ → Bool

namespace FlatMemory

/-- A 16-bit access: the low byte is at the address and the high byte behind it. -/
def read16 (m : FlatMemory) (a : ℕ) : Option UInt16 := do
  let lo ← m.byte a
  let hi ← m.byte (a + 1)
  return lo.toUInt16 ||| hi.toUInt16 <<< 8

def set (m : FlatMemory) (a : ℕ) (value : UInt8) : FlatMemory :=
  { m with byte := Function.update m.byte a (some value) }

def write8 (m : FlatMemory) (a : ℕ) (value : UInt8) : Option FlatMemory :=
  if m.writable a then some (m.set a value) else none

/-- A 16-bit write stores both bytes, or nothing. -/
def write16 (m : FlatMemory) (a : ℕ) (value : UInt16) : Option FlatMemory :=
  if m.writable a ∧ m.writable (a + 1) then
    some ((m.set a value.toUInt8).set (a + 1) (value >>> 8).toUInt8)
  else none

def read (m : FlatMemory) (lanes : BusLanes) (a : ℕ) : Option UInt16 :=
  match lanes with
  | .word => m.read16 a
  | .low => (m.byte a).map UInt8.toUInt16
  | .high => (m.byte a).map fun value => value.toUInt16 <<< (8 : UInt16)
  | .none => none

def write (m : FlatMemory) (lanes : BusLanes) (a : ℕ) (value : UInt16) : Option FlatMemory :=
  match lanes with
  | .word => m.write16 a value
  | .low => m.write8 a value.toUInt8
  | .high => m.write8 a (value >>> 8).toUInt8
  | .none => none

end FlatMemory

/-- What a service of the bus reports about a memory cycle. -/
structure MemoryAnswer where
  completed : Bool
  unmapped : Bool
  -- a clock step failed, or the driven word was not read back
  failed : Bool
  driven : Option UInt16
  deriving DecidableEq, Repr

/-- How a flat memory answers a memory cycle: failures of the bus apart, it has no choice, and only
a completed write changes it. -/
inductive FlatMemory.Answers (m : FlatMemory) (cycle : BusCycle) : MemoryAnswer → FlatMemory → Prop
  | read (failed : Bool) (value : UInt16) (htype : cycle.type = .memRead)
      (hread : m.read cycle.lanes cycle.address.toNat = some value) :
      m.Answers cycle
        { completed := !failed, unmapped := false, failed := failed, driven := some value } m
  | readUnmapped (htype : cycle.type = .memRead)
      (hread : m.read cycle.lanes cycle.address.toNat = none) :
      m.Answers cycle { completed := false, unmapped := true, failed := false, driven := none } m
  | write (m' : FlatMemory) (htype : cycle.type = .memWrite)
      (hwrite : m.write cycle.lanes cycle.address.toNat (decodeAd cycle.controlSample) = some m') :
      m.Answers cycle { completed := true, unmapped := false, failed := false, driven := none } m'
  | writeUnmapped (htype : cycle.type = .memWrite)
      (hwrite : m.write cycle.lanes cycle.address.toNat (decodeAd cycle.controlSample) = none) :
      m.Answers cycle { completed := false, unmapped := true, failed := false, driven := none } m
  | writeFailed (htype : cycle.type = .memWrite) :
      m.Answers cycle { completed := false, unmapped := false, failed := true, driven := none } m

/-- A cycle as decoded: a word or a low byte at an even address, a high byte at an odd one, and no
memory cycle without a lane. -/
structure BusCycle.Aligned (cycle : BusCycle) : Prop where
  even : cycle.lanes = .word ∨ cycle.lanes = .low → cycle.address.toNat % 2 = 0
  odd : cycle.lanes = .high → cycle.address.toNat % 2 = 1
  address : cycle.address.toNat < 2 ^ 20
  lanes : cycle.type = .memRead ∨ cycle.type = .memWrite → cycle.lanes ≠ .none

/-! ### The bus -/

/-- The memory that the executor gives the processor. -/
def internalSramMemory : Memory := internalSramBackingInit.processorMemory

/-- The flat memory with the backing as RAM and the reset code as ROM. -/
def flatMemory (ram : ByteMap) (rom : List UInt8) : FlatMemory where
  byte a := if a < 0x40000 then some (ram a)
    else if 0xFFFF0 ≤ a ∧ a < 0x100000 then some (rom.getD (a - 0xFFFF0) 0)
    else none
  writable a := a < 0x40000

theorem rangeContains_iff {base size address : UInt32} :
    rangeContains base size address = true ↔
      base.toNat ≤ address.toNat ∧ address.toNat < base.toNat + size.toNat := by
  simp only [rangeContains, Bool.and_eq_true, bne_iff_ne, ne_eq, decide_eq_true_eq,
    UInt32.le_iff_toNat_le, UInt32.lt_iff_toNat_lt]
  constructor
  · rintro ⟨⟨-, hle⟩, hlt⟩
    rw [UInt32.toNat_sub_of_le _ _ (UInt32.le_iff_toNat_le.mpr hle)] at hlt
    omega
  · rintro ⟨hle, hlt⟩
    rw [UInt32.toNat_sub_of_le _ _ (UInt32.le_iff_toNat_le.mpr hle)]
    refine ⟨⟨fun hzero => ?_, hle⟩, by omega⟩
    rw [hzero] at hlt
    exact absurd hlt (Nat.not_lt.mpr hle)

theorem ramContains_iff {address : UInt32} :
    rangeContains internalSramMemory.ramBase internalSramMemory.ramSize address = true ↔
      address.toNat < 0x40000 := by
  have hbase : internalSramMemory.ramBase.toNat = 0 := rfl
  have hsize : internalSramMemory.ramSize.toNat = 0x40000 := rfl
  rw [rangeContains_iff, hbase, hsize]
  omega

theorem romContains_iff {address : UInt32} :
    rangeContains internalSramMemory.romBase internalSramMemory.romSize address = true ↔
      0xFFFF0 ≤ address.toNat ∧ address.toNat < 0x100000 := by
  have hbase : internalSramMemory.romBase.toNat = 0xFFFF0 := rfl
  have hsize : internalSramMemory.romSize.toNat = 16 := rfl
  rw [rangeContains_iff, hbase, hsize]

variable (ram : ByteMap) (sample : UInt32)

theorem memoryRead8_eq (rom : List UInt8) (address : UInt32) :
    memoryRead8 internalSramMemory ram rom address = (flatMemory ram rom).byte address.toNat := by
  unfold memoryRead8 flatMemory
  simp only [ramContains_iff, romContains_iff]
  have hram : (address - internalSramMemory.ramBase).toNat = address.toNat :=
    congrArg UInt32.toNat (UInt32.sub_zero address)
  split_ifs with h h'
  · rw [hram]
  · have hbase : internalSramMemory.romBase.toNat = 0xFFFF0 := rfl
    have hle : internalSramMemory.romBase ≤ address := by
      rw [UInt32.le_iff_toNat_le, hbase]
      exact h'.1
    rw [UInt32.toNat_sub_of_le _ _ hle, hbase]
  · rfl

/-- The byte behind an address, as the flat memory counts. -/
theorem memoryRead8_succ_eq (rom : List UInt8) {address : UInt32} (h : address.toNat < 0x100000) :
    memoryRead8 internalSramMemory ram rom (address + 1)
      = (flatMemory ram rom).byte (address.toNat + 1) := by
  rw [memoryRead8_eq, UInt32.toNat_add]
  have hone : (1 : UInt32).toNat = 1 := rfl
  rw [hone, Nat.mod_eq_of_lt (by omega)]

theorem flatMemory_byte_none {ram : ByteMap} {rom : List UInt8} {a : ℕ} (h : 0x100000 ≤ a) :
    (flatMemory ram rom).byte a = none := by
  unfold flatMemory
  simp only
  rw [if_neg (by omega), if_neg (by omega)]

theorem memoryRead16_eq (rom : List UInt8) (address : UInt32) :
    memoryRead16 internalSramMemory ram rom address
      = (flatMemory ram rom).read16 address.toNat := by
  unfold memoryRead16 FlatMemory.read16
  rw [memoryRead8_eq]
  rcases Nat.lt_or_ge address.toNat 0x100000 with h | h
  · rw [memoryRead8_succ_eq _ _ h]
  · simp [flatMemory_byte_none h]

theorem flatMemory_set {ram : ByteMap} {rom : List UInt8} {a : ℕ} (h : a < 0x40000)
    (value : UInt8) :
    flatMemory (writeBytes ram a [value]) rom = (flatMemory ram rom).set a value := by
  have hbyte : (flatMemory (writeBytes ram a [value]) rom).byte
      = Function.update (flatMemory ram rom).byte a (some value) := by
    funext i
    unfold flatMemory
    simp only
    by_cases hi : i = a
    · rw [hi, Function.update_self, if_pos h, writeBytes_of_mem (by omega) (by simp)]
      simp
    · rw [Function.update_of_ne hi,
        writeBytes_of_not_mem (by simp only [List.length_singleton]; omega)]
  rw [FlatMemory.set, ← hbyte]
  rfl

theorem memoryWrite8_eq (rom : List UInt8) (address : UInt32) (value : UInt8) :
    (memoryWrite8 internalSramMemory ram address value).map (flatMemory · rom)
      = (flatMemory ram rom).write8 address.toNat value := by
  have hram : (address - internalSramMemory.ramBase).toNat = address.toNat :=
    congrArg UInt32.toNat (UInt32.sub_zero address)
  have hwritable : (flatMemory ram rom).writable address.toNat = decide (address.toNat < 0x40000) :=
    rfl
  unfold memoryWrite8 FlatMemory.write8
  simp only [hwritable, hram, decide_eq_true_eq, Bool.not_eq_true', ← Bool.not_eq_true,
    ramContains_iff]
  by_cases h : address.toNat < 0x40000
  · simp only [h, not_true_eq_false, if_false, if_true, Option.map_some]
    rw [← flatMemory_set h]
  · simp [h]

theorem toUInt8_and_ff (value : UInt16) : (value &&& 0xFF).toUInt8 = value.toUInt8 := by
  have h255 : (0xFF : UInt16).toNat = 2 ^ 8 - 1 := rfl
  refine UInt8.toNat_inj.mp ?_
  rw [UInt16.toNat_toUInt8, UInt16.toNat_toUInt8, UInt16.toNat_and, h255,
    Nat.and_two_pow_sub_one_eq_mod, Nat.mod_mod]

theorem memoryWrite16_eq (rom : List UInt8) (address : UInt32) (value : UInt16) :
    (memoryWrite16 internalSramMemory ram address value).map (flatMemory · rom)
      = (flatMemory ram rom).write16 address.toNat value := by
  have hram : address - internalSramMemory.ramBase = address := UInt32.sub_zero address
  have hwritable : ∀ a, (flatMemory ram rom).writable a = decide (a < 0x40000) := fun _ => rfl
  unfold memoryWrite16 FlatMemory.write16
  simp only [hwritable, hram, toUInt8_and_ff, decide_eq_true_eq, Bool.not_eq_true',
    ← Bool.not_eq_true, ramContains_iff]
  by_cases h : address.toNat < 0x40000
  · have hone : (1 : UInt32).toNat = 1 := rfl
    have hnext : (address + 1).toNat = address.toNat + 1 := by
      rw [UInt32.toNat_add, hone, Nat.mod_eq_of_lt (by omega)]
    rw [hnext]
    by_cases h' : address.toNat + 1 < 0x40000
    · simp only [h, h', not_true_eq_false, if_false, and_self, if_true, Option.map_some]
      rw [← flatMemory_set h, ← flatMemory_set h']
    · simp [h, h']
  · simp [h]

/-! ### Cycles -/

theorem laneRead_eq (rom : List UInt8) (cycle : BusCycle) :
    laneRead internalSramMemory ram rom cycle
      = (flatMemory ram rom).read cycle.lanes cycle.address.toNat := by
  unfold laneRead FlatMemory.read
  cases cycle.lanes with
  | word => exact memoryRead16_eq ram rom cycle.address
  | low | high => exact congrArg (Option.map _) (memoryRead8_eq ram rom cycle.address)
  | none => rfl

theorem laneWrite_eq (rom : List UInt8) (cycle : BusCycle) (value : UInt16) :
    (laneWrite internalSramMemory ram cycle value).map (flatMemory · rom)
      = (flatMemory ram rom).write cycle.lanes cycle.address.toNat value := by
  unfold laneWrite FlatMemory.write
  cases cycle.lanes with
  | none => rfl
  | low | high => exact memoryWrite8_eq ..
  | word => exact memoryWrite16_eq ..

/-! ### Decoding -/

theorem packSample_adGpio_mod_two :
    (packSample sample adGpio).toNat % 2 = (sampleBit sample pinAd0).toNat := by
  have h : packSample sample adGpio &&& 1 = sampleBit sample pinAd0 := by
    refine UInt32.toBitVec_inj.mp (BitVec.eq_of_getLsbD_eq fun i hi => ?_)
    by_cases h : i = 0
    · subst h
      simp [packSample, adGpio, sampleBit, pinAd0, List.zipIdx]
    · simp [sampleBit, h]
  rw [← h, UInt32.toNat_and]
  exact (Nat.and_one_is_mod _).symm

/-- `A0` is bit 0 of the address. -/
theorem decodeAddress_mod_two :
    (decodeAddress sample).toNat % 2 = (sampleBit sample pinAd0).toNat := by
  have hbit : ∀ x y : UInt32, ((x ||| y <<< 16) &&& 0xFFFFF) &&& 1 = x &&& 1 := by
    intro x y
    refine UInt32.toBitVec_inj.mp (BitVec.eq_of_getLsbD_eq fun i hi => ?_)
    by_cases h : i = 0
    · subst h
      simp
    · simp [h]
  have hword : ∀ x : UInt32, x.toNat % 2 = (x &&& 1).toNat := fun x =>
    (Nat.and_one_is_mod x.toNat).symm
  rw [hword, decodeAddress, hbit, ← hword, ← packSample_adGpio_mod_two, decodeAd,
    UInt16.toNat_toUInt32, UInt32.toNat_toUInt16]
  omega

theorem decodeAddress_lt : (decodeAddress sample).toNat < 2 ^ 20 := by
  unfold decodeAddress
  rw [UInt32.toNat_and]
  exact Nat.lt_of_le_of_lt Nat.and_le_right (by decide)

/-- **Lanes are decoded as the address says.** -/
theorem decodeCycle_aligned (t1 control : UInt32) (idleSteps : ℕ) :
    (decodeCycle t1 control idleSteps).Aligned := by
  have hparity := decodeAddress_mod_two t1
  refine ⟨fun hlanes => ?_, fun hlanes => ?_, decodeAddress_lt t1, fun htype hlanes => ?_⟩
  · have ha0 : sampleBit t1 pinAd0 = 0 := by
      unfold decodeCycle decodeLanes at hlanes
      simp only at hlanes
      split_ifs at hlanes with h₁ h₂ h₃
      · exact h₁.1
      · exact h₂.1
      · simp at hlanes
      · simp at hlanes
    exact hparity.trans (congrArg UInt32.toNat ha0)
  · have ha0 : sampleBit t1 pinAd0 = 1 := by
      unfold decodeCycle decodeLanes at hlanes
      simp only at hlanes
      split_ifs at hlanes with h₁ h₂ h₃
      exact h₃.1
    exact hparity.trans (congrArg UInt32.toNat ha0)
  · unfold decodeCycle at htype hlanes
    simp only at htype hlanes
    rw [hlanes] at htype
    split_ifs at htype with h
    · simp at htype
    · have hack := Decidable.not_not.mp fun hne => h ⟨hne, rfl⟩
      rw [hack] at htype
      simp at htype

/-- A cycle that was waited for is one that was decoded. -/
theorem processorBusWaitCycle_aligned {env : Env} {n : ℕ} {b b' : Board} {cycle : BusCycle}
    (h : processorBusWaitCycle env n b = (some cycle, b')) : cycle.Aligned := by
  unfold processorBusWaitCycle at h
  split at h
  · cases h
  · simp only at h
    split_ifs at h with hfault
    · cases (Prod.mk.inj h).1
    · rw [← Option.some.inj (Prod.mk.inj h).1]
      exact decodeCycle_aligned ..

/-! ### Services of the bus -/

/-- What the statistics say about a cycle that has just been served. -/
def ClockSteppedStats.memoryAnswer (stats : ClockSteppedStats) (completed : Bool) :
    MemoryAnswer where
  completed := completed
  unmapped := stats.unmapped
  failed := stats.clockFailure || stats.padMismatch
  driven := if stats.lastType = .memRead ∧ stats.lastDataValid then some stats.lastData else none

section

variable {κ : Type*} {env : Env} {rom : List UInt8} {cycle : BusCycle} {s : CycleState κ}

theorem memReadCycle_answers (htype : cycle.type = .memRead) :
    let r := memReadCycle env internalSramMemory rom cycle
      { s with stats := s.stats.clearFlags.observe cycle }
    (flatMemory s.ram rom).Answers cycle (r.2.stats.memoryAnswer r.1) (flatMemory r.2.ram rom) := by
  unfold memReadCycle
  simp only [laneRead_eq]
  cases hread : (flatMemory s.ram rom).read cycle.lanes cycle.address.toNat with
  | none =>
    have h := FlatMemory.Answers.readUnmapped htype hread
    simpa [ClockSteppedStats.memoryAnswer, ClockSteppedStats.observe,
      ClockSteppedStats.clearFlags] using h
  | some driven =>
    simp only
    set stats := (s.stats.clearFlags.observe cycle).withData driven
    have hdriven : stats.lastType = .memRead ∧ stats.lastDataValid := ⟨htype, rfl⟩
    have hanswers := fun failed => FlatMemory.Answers.read failed driven htype hread
    obtain ⟨b, hcase⟩ := completeRead_cases env cycle driven stats s.board
    have hfields : stats.clockFailure = false ∧ stats.padMismatch = false ∧
        stats.unmapped = false ∧ stats.lastData = driven := ⟨rfl, rfl, rfl, rfl⟩
    rcases hcase with hcase | hcase | hcase <;> rw [hcase]
    · simpa [ClockSteppedStats.memoryAnswer, hdriven, hfields] using hanswers false
    · simpa [ClockSteppedStats.memoryAnswer, hdriven, hfields] using hanswers true
    · simpa [ClockSteppedStats.memoryAnswer, hdriven, hfields] using hanswers true

theorem memWriteCycle_answers (htype : cycle.type = .memWrite) :
    let r := memWriteCycle env internalSramMemory cycle
      { s with stats := s.stats.clearFlags.observe cycle }
    (flatMemory s.ram rom).Answers cycle (r.2.stats.memoryAnswer r.1) (flatMemory r.2.ram rom) := by
  unfold memWriteCycle
  simp only
  obtain ⟨b, hcase | ⟨d₁, d₂, hcase⟩⟩ := processorBusCompleteWrite_cases env cycle s.board
  · rw [hcase]
    have h := @FlatMemory.Answers.writeFailed (flatMemory s.ram rom) cycle htype
    simpa [ClockSteppedStats.memoryAnswer, ClockSteppedStats.observe,
      ClockSteppedStats.clearFlags, htype] using h
  · rw [hcase]
    simp only
    have hwrite := laneWrite_eq s.ram rom cycle (decodeAd cycle.controlSample)
    cases hlane : laneWrite internalSramMemory s.ram cycle (decodeAd cycle.controlSample) with
    | none =>
      rw [hlane] at hwrite
      have h := FlatMemory.Answers.writeUnmapped htype hwrite.symm
      simpa [ClockSteppedStats.memoryAnswer, ClockSteppedStats.observe,
        ClockSteppedStats.clearFlags, ClockSteppedStats.withData, htype] using h
    | some ram =>
      rw [hlane] at hwrite
      have h := FlatMemory.Answers.write _ htype hwrite.symm
      simpa [ClockSteppedStats.memoryAnswer, ClockSteppedStats.observe,
        ClockSteppedStats.clearFlags, ClockSteppedStats.withData, htype] using h

end

/-- Only a memory cycle touches the RAM. -/
theorem serviceIdentified_ram {κ : Type*} {env : Env} {memory : Memory} {rom : List UInt8}
    {cycle : BusCycle} {s : CycleState κ} (io : ClockSteppedIo κ)
    (h : ¬ (cycle.type = .memRead ∨ cycle.type = .memWrite)) :
    (serviceIdentified env memory rom io cycle s).2.ram = s.ram := by
  unfold serviceIdentified
  split_ifs
  · unfold interruptAckCycle
    simp only
    split
    · rfl
    · split <;> rfl
  · rfl
  · split
    · next htype => exact absurd (Or.inl htype) h
    · next htype => exact absurd (Or.inr htype) h
    · unfold ioReadCycle
      split
      · rfl
      · split <;> rfl
    · unfold ioWriteCycle
      split
      · rfl
      · simp only
        split <;> rfl
    · rfl

/-- A service of the bus in some environment, with a bound on its idle steps: the cycle that was
identified, if any, and what is reported about it. -/
def busCall {κ : Type*} (rom : List UInt8) (io : ClockSteppedIo κ) (s : CycleState κ)
    (call : Env × ℕ) : Option (BusCycle × MemoryAnswer) × CycleState κ :=
  let r := clockSteppedServiceCycle call.1 internalSramMemory rom io call.2 s
  ((processorBusWaitCycle call.1 call.2 s.board).1.map fun cycle =>
    (cycle, r.2.stats.memoryAnswer r.1), r.2)

/-- What the processor is promised about a service: lanes are as decoded, a memory cycle is answered
by the flat memory, and nothing else changes it. -/
def FlatMemory.Serves (m : FlatMemory) (_ : Env × ℕ) (answer : Option (BusCycle × MemoryAnswer))
    (m' : FlatMemory) : Prop :=
  match answer with
  | none => m' = m
  | some (cycle, report) => cycle.Aligned ∧
    if cycle.type = .memRead ∨ cycle.type = .memWrite then m.Answers cycle report m' else m' = m

theorem busCall_serves {κ : Type*} (rom : List UInt8) (io : ClockSteppedIo κ) (s : CycleState κ)
    (call : Env × ℕ) :
    (flatMemory s.ram rom).Serves call (busCall rom io s call).1
      (flatMemory (busCall rom io s call).2.ram rom) := by
  unfold busCall clockSteppedServiceCycle FlatMemory.Serves
  simp only
  cases hwait : processorBusWaitCycle call.1 call.2 s.board with
  | mk cycle b =>
  cases cycle with
  | none => rfl
  | some cycle =>
    simp only [Option.map_some]
    have haligned := processorBusWaitCycle_aligned hwait
    refine ⟨haligned, ?_⟩
    split_ifs with hmemory
    · unfold serviceIdentified
      have hack : cycle.type ≠ .interruptAck := by
        rcases hmemory with htype | htype <;> rw [htype] <;> decide
      rw [if_neg hack, if_neg (haligned.lanes hmemory)]
      rcases hmemory with htype | htype
      · rw [htype]
        exact @memReadCycle_answers κ call.1 rom cycle { s with board := b } htype
      · rw [htype]
        exact @memWriteCycle_answers κ call.1 rom cycle { s with board := b } htype
    · rw [serviceIdentified_ram io hmemory]

/-! ### Words at odd addresses -/

/-- The processor's word access at an odd address: the high lane there, the low lane behind it. -/
structure SplitAccess (high low : BusCycle) : Prop where
  highLane : high.lanes = .high
  lowLane : low.lanes = .low
  address : low.address = high.address + 1

/-- The word that the processor assembles from two reads. -/
def splitRead (ram : ByteMap) (rom : List UInt8) (high low : BusCycle) : Option UInt16 := do
  let h ← laneRead internalSramMemory ram rom high
  let l ← laneRead internalSramMemory ram rom low
  return h >>> 8 ||| l <<< 8

/-- Two writes of the words on the bus, of which the second is not made when the first is
refused. -/
def splitWrite (ram : ByteMap) (high low : BusCycle) (h l : UInt16) : Bool × ByteMap :=
  match laneWrite internalSramMemory ram high h with
  | none => (false, ram)
  | some ram =>
    match laneWrite internalSramMemory ram low l with
    | none => (false, ram)
    | some ram => (true, ram)

def unsplitWrite (ram : ByteMap) (address : UInt32) (value : UInt16) : Bool × ByteMap :=
  match memoryWrite16 internalSramMemory ram address value with
  | none => (false, ram)
  | some ram => (true, ram)

theorem shiftRight_shiftLeft_toUInt16 (b : UInt8) :
    b.toUInt16 <<< (8 : UInt16) >>> 8 = b.toUInt16 := by
  have hb := b.toNat_lt
  have h8 : (8 : UInt16).toNat = 8 := rfl
  refine UInt16.toNat_inj.mp ?_
  simp only [UInt16.toNat_shiftRight, UInt16.toNat_shiftLeft, UInt8.toNat_toUInt16, h8,
    Nat.shiftLeft_eq, Nat.shiftRight_eq_div_pow, Nat.reduceMod, Nat.reducePow]
  omega

theorem toUInt8_splitWord (h l : UInt16) : (h >>> 8 ||| l <<< 8).toUInt8 = (h >>> 8).toUInt8 := by
  refine UInt8.toBitVec_inj.mp (BitVec.eq_of_getLsbD_eq fun i hi => ?_)
  simp [hi]

theorem toUInt8_shiftRight_splitWord (h l : UInt16) :
    ((h >>> 8 ||| l <<< 8) >>> 8).toUInt8 = l.toUInt8 := by
  refine UInt8.toBitVec_inj.mp (BitVec.eq_of_getLsbD_eq fun i hi => ?_)
  have hge : h.toBitVec.getLsbD (8 + (8 + i)) = false := BitVec.getLsbD_of_ge _ _ (by omega)
  have hlt : 8 + i < 16 := by omega
  have hnot : ¬ 8 + i < 8 := by omega
  simp only [UInt16.toBitVec_toUInt8, UInt16.toBitVec_shiftRight, UInt16.toBitVec_or,
    UInt16.toBitVec_shiftLeft, BitVec.getLsbD_setWidth]
  simp [hge, hlt, hnot, BitVec.getLsbD_eq_getElem (show i < 16 by omega)]

theorem splitRead_eq (rom : List UInt8) {high low : BusCycle} (h : SplitAccess high low) :
    splitRead ram rom high low = memoryRead16 internalSramMemory ram rom high.address := by
  unfold splitRead memoryRead16 laneRead
  rw [h.highLane, h.lowLane, h.address]
  simp only
  cases memoryRead8 internalSramMemory ram rom high.address with
  | none => rfl
  | some lo =>
    cases memoryRead8 internalSramMemory ram rom (high.address + 1) with
    | none => rfl
    | some hi =>
      simp [shiftRight_shiftLeft_toUInt16]

/-- Both bytes are stored by either access, or refused by either, unless only the first is RAM. -/
theorem splitWrite_eq {high low : BusCycle} (h : SplitAccess high low)
    (hlast : high.address ≠ 0x3FFFF) (v w : UInt16) :
    splitWrite ram high low v w = unsplitWrite ram high.address (v >>> 8 ||| w <<< 8) := by
  have hram : ∀ a : UInt32, a - internalSramMemory.ramBase = a := UInt32.sub_zero
  unfold splitWrite unsplitWrite laneWrite memoryWrite16 memoryWrite8
  rw [h.highLane, h.lowLane, h.address]
  simp only [hram, toUInt8_and_ff, toUInt8_splitWord, toUInt8_shiftRight_splitWord,
    Bool.not_eq_true', ← Bool.not_eq_true, ramContains_iff]
  by_cases hhigh : high.address.toNat < 0x40000
  · have hnext : (high.address + 1).toNat < 0x40000 := by
      have hone : (1 : UInt32).toNat = 1 := rfl
      have hne : high.address.toNat ≠ 0x3FFFF := fun heq => hlast (UInt32.toNat_inj.mp heq)
      rw [UInt32.toNat_add, hone, Nat.mod_eq_of_lt (by omega)]
      omega
    simp only [hhigh, hnext, not_true_eq_false, if_false]
  · simp only [hhigh, not_false_eq_true, if_true]

/-- At the last byte of RAM, the first of the two writes is already made when the second is
refused. -/
theorem splitWrite_last {high low : BusCycle} (h : SplitAccess high low)
    (hlast : high.address = 0x3FFFF) (v w : UInt16) :
    splitWrite ram high low v w = (false, writeBytes ram 0x3FFFF [(v >>> 8).toUInt8]) ∧
      unsplitWrite ram high.address (v >>> 8 ||| w <<< 8) = (false, ram) := by
  have hram : ∀ a : UInt32, a - internalSramMemory.ramBase = a := UInt32.sub_zero
  have hhigh : (0x3FFFF : UInt32).toNat < 0x40000 := by decide
  have hnext : ¬ ((0x3FFFF : UInt32) + 1).toNat < 0x40000 := by decide
  unfold splitWrite unsplitWrite laneWrite memoryWrite16 memoryWrite8
  rw [h.highLane, h.lowLane, h.address, hlast]
  simp only [hram, Bool.not_eq_true', ← Bool.not_eq_true, ramContains_iff, hhigh, hnext,
    not_true_eq_false, not_false_eq_true, if_false, if_true, and_true]
  rfl

/-- **The processor sees a flat byte memory.**

Every service of the bus answers a memory cycle as the flat memory does, which changes only by the
writes that complete; its ROM stays as it is.  A word at an odd address is read by its two cycles as
by one access, and so it is written, unless it starts at the last byte of RAM, which is stored
before the byte behind it is refused. -/
theorem processor_memory_flat {κ : Type*} (io : ClockSteppedIo κ) (rom : List UInt8)
    (s : CycleState κ) (calls : List (Env × ℕ)) :
    let s' := calls.foldl (fun s call => (busCall rom io s call).2) s
    Allowed FlatMemory.Serves (flatMemory s.ram rom) (answers (busCall rom io) s calls)
        (flatMemory s'.ram rom) ∧
      (∀ a, 0xFFFF0 ≤ a → a < 0x100000 →
        (flatMemory s'.ram rom).byte a = some (rom.getD (a - 0xFFFF0) 0) ∧
          (flatMemory s'.ram rom).writable a = false) ∧
      (∀ (env : Env) (n : ℕ) (s : CycleState κ),
        (clockSteppedServiceCycle env internalSramMemory rom io n s).1 = false →
        (clockSteppedServiceCycle env internalSramMemory rom io n s).2.ram = s.ram) ∧
      ∀ (ram : ByteMap) (high low : BusCycle), SplitAccess high low →
        splitRead ram rom high low = memoryRead16 internalSramMemory ram rom high.address ∧
        ∀ v w : UInt16,
          (high.address ≠ 0x3FFFF →
            splitWrite ram high low v w = unsplitWrite ram high.address (v >>> 8 ||| w <<< 8)) ∧
          (high.address = 0x3FFFF →
            splitWrite ram high low v w = (false, writeBytes ram 0x3FFFF [(v >>> 8).toUInt8]) ∧
            unsplitWrite ram high.address (v >>> 8 ||| w <<< 8) = (false, ram)) := by
  intro s'
  refine ⟨?_, fun a hlo hhi => ?_, fun env n s hincomplete => ?_, fun ram high low hsplit =>
    ⟨splitRead_eq ram rom hsplit, fun v w => ⟨fun hne => splitWrite_eq ram hsplit hne v w,
      fun heq => splitWrite_last ram hsplit heq v w⟩⟩⟩
  · obtain ⟨m', hallowed, rfl⟩ := @allowed_answers _ _ _ _ (busCall rom io) FlatMemory.Serves
      (fun s m => m = flatMemory s.ram rom)
      (fun s m call hm => ⟨_, hm ▸ busCall_serves rom io s call, rfl⟩) calls s _ rfl
    exact hallowed
  · unfold flatMemory
    simp only
    rw [if_neg (by omega), if_pos ⟨hlo, hhi⟩]
    exact ⟨rfl, decide_eq_false (by omega)⟩
  · rcases (clockSteppedServiceCycle_effect env internalSramMemory rom io n s).ram_cases with
      hram | ⟨hcompleted, -⟩
    · exact hram
    · rw [hincomplete] at hcompleted
      cases hcompleted

/-- A write cycle on the high lane at the last byte of RAM. -/
def lastRamCycle : BusCycle where
  t1Sample := 0
  controlSample := 0
  address := 0x3FFFF
  idleSteps := 1
  a0 := 1
  bheN := 0
  iom := 1
  dtr := 1
  intaN := 1
  lanes := .high
  type := .memWrite

/-- The write cycle on the low lane behind it. -/
def behindRamCycle : BusCycle :=
  { lastRamCycle with address := 0x40000, a0 := 0, bheN := 1, lanes := .low }

theorem split_write_stores_half :
    SplitAccess lastRamCycle behindRamCycle ∧
      splitWrite (fun _ => 0) lastRamCycle behindRamCycle 0x0100 0x0002
        ≠ unsplitWrite (fun _ => 0) lastRamCycle.address 0x0201 := by
  refine ⟨⟨rfl, rfl, by decide⟩, fun heq => ?_⟩
  have hbyte := congrArg (fun r => r.2 0x3FFFF) heq
  revert hbyte
  decide +kernel

end Rp86
