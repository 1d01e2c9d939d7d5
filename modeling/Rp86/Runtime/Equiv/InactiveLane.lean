import Rp86.Runtime.Equiv.FlatMemory
import Rp86.Runtime.Equiv.Lifecycle

/-!
# The inactive lane of a byte write

A byte write defines only its own lane of the bus.  Two byte writes that agree there have the same
effect, except that two ports compare the whole word on the low lane: `CONTROL`, where the value 1
arms the idle stop, and `EXECUTION_CLOCK` (`inactive_lane_iff`).
-/

namespace Rp86

open Lib

def activeByte (lanes : BusLanes) (value : UInt16) : UInt8 := (laneValue lanes value).toUInt8

/-- Two byte writes to one address or port that agree on the active lane. -/
structure SameByteWrite (c₁ c₂ : BusCycle) : Prop where
  type : c₁.type = .memWrite ∨ c₁.type = .ioWrite
  lanes : c₁.lanes = .low ∨ c₁.lanes = .high
  sameType : c₂.type = c₁.type
  sameLanes : c₂.lanes = c₁.lanes
  sameAddress : c₂.address = c₁.address
  sameByte : activeByte c₁.lanes (decodeAd c₂.controlSample)
    = activeByte c₁.lanes (decodeAd c₁.controlSample)

/-- The same result, up to the recorded word. -/
structure SameOutcome {κ : Type*} (r₁ r₂ : Bool × CycleState κ) : Prop where
  completed : r₂.1 = r₁.1
  ram : r₂.2.ram = r₁.2.ram
  context : r₂.2.context = r₁.2.context
  board : r₂.2.board = r₁.2.board
  stats : { r₂.2.stats with lastData := 0 } = { r₁.2.stats with lastData := 0 }

theorem processorBusCompleteWrite_word (env : Env) (b : Board) :
    ∃ (samples : Option (UInt16 × UInt16)) (b' : Board), ∀ cycle,
      processorBusCompleteWrite env cycle b
        = (samples.map fun p => (decodeAd cycle.controlSample, p), b') := by
  unfold processorBusCompleteWrite
  simp only
  split_ifs
  · exact ⟨none, _, fun _ => rfl⟩
  · exact ⟨none, _, fun _ => rfl⟩
  · exact ⟨some (_, _), _, fun _ => rfl⟩

/-- On the high lane, the active byte is the whole value. -/
theorem laneValue_high_of_activeByte {v w : UInt16} (h : activeByte .high w = activeByte .high v) :
    laneValue .high w = laneValue .high v := by
  have hw := w.toNat_lt
  have hv := v.toNat_lt
  have h8 : (8 : UInt16).toNat % 16 = 8 := rfl
  have hbyte := congrArg UInt8.toNat h
  refine UInt16.toNat_inj.mp ?_
  simp only [activeByte, laneValue, if_true, UInt16.toNat_toUInt8, UInt16.toNat_shiftRight, h8,
    Nat.shiftRight_eq_div_pow] at hbyte ⊢
  omega

/-- The memory takes the active byte only. -/
theorem laneWrite_activeByte {memory : Memory} {ram : ByteMap} {c₁ c₂ : BusCycle} {v w : UInt16}
    (hlanes : c₁.lanes = .low ∨ c₁.lanes = .high) (hlanes' : c₂.lanes = c₁.lanes)
    (haddress : c₂.address = c₁.address)
    (hbyte : activeByte c₁.lanes w = activeByte c₁.lanes v) :
    laneWrite memory ram c₂ w = laneWrite memory ram c₁ v := by
  unfold laneWrite
  rw [hlanes', haddress]
  rcases hlanes with h | h
  · rw [h] at hbyte ⊢
    exact congrArg (memoryWrite8 memory ram c₁.address) hbyte
  · rw [h] at hbyte ⊢
    exact congrArg (memoryWrite8 memory ram c₁.address) hbyte

/-! ### Ports -/

section

variable (clockMode : WorkloadClockMode) (env : Env) (stats : ClockSteppedStats) (port : UInt16)
  (lanes : BusLanes) (value : UInt16) (s : IoState) (b : Board)

theorem ioWrite_executionClock :
    ioWrite clockMode env stats ioPortExecutionClock lanes value s b
      = (decide (laneValue lanes value = executionClockRequestClockStepped ∧ clockMode = .stepped),
          s, b) := by
  unfold ioWrite
  simp only
  rw [if_neg (by decide), if_neg (by decide)]
  by_cases hfree : laneValue lanes value = executionClockRequestFreeRunning
  · rw [if_pos ⟨trivial, hfree⟩, hfree]
    rfl
  · rw [if_neg fun h => hfree h.2]
    by_cases hstepped : laneValue lanes value = executionClockRequestClockStepped
    · rw [if_pos ⟨trivial, hstepped⟩]
      simp [hstepped]
    · rw [if_neg fun h => hstepped h.2, if_neg fun h => absurd h.1 (by decide),
        if_neg fun h => absurd h.1 (by decide)]
      simp only [hstepped, false_and, decide_false]
      rfl

theorem ioWrite_control :
    ioWrite clockMode env stats ioPortControl lanes value s b
      = if laneValue lanes value = controlIdlePrepare then
          (true, { s with tick := (tickIdlePrepare s.tick b).1, idleArmed := true },
            (tickIdlePrepare s.tick b).2)
        else (true, s, b) := by
  unfold ioWrite
  simp only
  rw [if_neg (by decide), if_neg (by decide), if_neg fun h => absurd h.1 (by decide),
    if_neg fun h => absurd h.1 (by decide), if_neg fun h => absurd h.1 (by decide)]
  by_cases hprepare : laneValue lanes value = controlIdlePrepare
  · rw [if_pos ⟨trivial, hprepare⟩, if_pos hprepare]
  · rw [if_neg fun h => hprepare h.2, if_neg hprepare]
    rfl

end

section

variable {clockMode : WorkloadClockMode} {env : Env} {port : UInt16} {lanes : BusLanes}
  {v w : UInt16} {s : IoState} {b : Board}

/-- Every other port takes the active byte only. -/
theorem ioWrite_activeByte (stats stats' : ClockSteppedStats)
    (hclock : port ≠ ioPortExecutionClock) (hcontrol : port ≠ ioPortControl)
    (hcycles : stats'.cycles = stats.cycles) (hbyte : activeByte lanes w = activeByte lanes v) :
    ioWrite clockMode env stats' port lanes w s b
      = ioWrite clockMode env stats port lanes v s b := by
  have hmask : laneValue lanes w &&& 0xFF = laneValue lanes v &&& 0xFF := by
    have h255 : (0xFF : UInt16).toNat = 2 ^ 8 - 1 := rfl
    have hnat := congrArg UInt8.toNat hbyte
    rw [activeByte, activeByte, UInt16.toNat_toUInt8, UInt16.toNat_toUInt8] at hnat
    refine UInt16.toNat_inj.mp ?_
    rw [UInt16.toNat_and, UInt16.toNat_and, h255, Nat.and_two_pow_sub_one_eq_mod,
      Nat.and_two_pow_sub_one_eq_mod, hnat]
  unfold ioWrite
  simp only [hclock, hcontrol, false_and, if_false, hmask, hcycles]
  rw [show (laneValue lanes w).toUInt8 = (laneValue lanes v).toUInt8 from hbyte]

/-- On the high lane, every port takes the active byte only. -/
theorem ioWrite_high (stats stats' : ClockSteppedStats) (hcycles : stats'.cycles = stats.cycles)
    (hbyte : activeByte .high w = activeByte .high v) :
    ioWrite clockMode env stats' port .high w s b
      = ioWrite clockMode env stats port .high v s b := by
  unfold ioWrite
  simp only [laneValue_high_of_activeByte hbyte, hcycles]

/-- The two words are told apart by a port that compares all 16 bits. -/
def WordCompared (clockMode : WorkloadClockMode) (port : UInt16) (v w : UInt16) (s : IoState) :
    Prop :=
  port = ioPortExecutionClock ∧ clockMode = .stepped ∧
      ¬ (v = executionClockRequestClockStepped ↔ w = executionClockRequestClockStepped) ∨
  port = ioPortControl ∧ ¬ (v = controlIdlePrepare ↔ w = controlIdlePrepare) ∧
    ¬ (s.idleArmed = true ∧ s.tick.enabled = false)

/-- Arming the idle stop again changes nothing. -/
theorem idlePrepare_eq_self_iff :
    (({ s with tick := (tickIdlePrepare s.tick b).1, idleArmed := true } : IoState),
        (tickIdlePrepare s.tick b).2) = (s, b) ↔ s.idleArmed = true ∧ s.tick.enabled = false := by
  obtain ⟨tick, idleArmed, output⟩ := s
  unfold tickIdlePrepare
  cases henabled : tick.enabled with
  | true =>
    refine iff_of_false (fun h => ?_) fun h => by simp at h
    have hquiesced := congrArg (fun r : IoState × Board => r.1.tick.enabled) h
    simp [TickState.quiesce, henabled] at hquiesced
  | false =>
    simp only [Bool.false_eq_true, if_false, Prod.mk.injEq, IoState.mk.injEq, true_and, and_true]
    exact eq_comm

/-- A byte write on the low lane has the same effect, unless the port tells the words apart. -/
theorem ioWrite_low_iff (stats stats' : ClockSteppedStats) (hcycles : stats'.cycles = stats.cycles)
    (hbyte : activeByte .low w = activeByte .low v) :
    ioWrite clockMode env stats' port .low w s b = ioWrite clockMode env stats port .low v s b ↔
      ¬ WordCompared clockMode port v w s := by
  unfold WordCompared
  -- on the low lane a handler gets the whole word
  have hvalue : ∀ x, laneValue .low x = x := fun x => rfl
  by_cases hclock : port = ioPortExecutionClock
  · have hcontrol : ioPortExecutionClock ≠ ioPortControl := by decide
    simp only [hclock, ioWrite_executionClock, hvalue, Prod.mk.injEq, and_true, decide_eq_decide,
      true_and, hcontrol, false_and, or_false]
    by_cases hmode : clockMode = .stepped
    · simp only [hmode, and_true, true_and, Decidable.not_not]
      exact iff_comm
    · simp [hmode]
  · by_cases hcontrol : port = ioPortControl
    · have hsame := @idlePrepare_eq_self_iff s b
      rw [Prod.mk.injEq] at hsame
      rw [hcontrol] at hclock ⊢
      rw [ioWrite_control, ioWrite_control, hvalue, hvalue]
      simp only [hclock, false_and, false_or, true_and]
      by_cases hv : v = controlIdlePrepare
      · by_cases hw : w = controlIdlePrepare
        · simp [hv, hw]
        · simp only [hv, hw, if_true, if_false, Prod.mk.injEq, true_and, iff_false,
            not_true_eq_false, not_false_eq_true, Decidable.not_not]
          rw [← hsame, eq_comm, @eq_comm _ b]
      · by_cases hw : w = controlIdlePrepare
        · simp only [hv, hw, if_true, if_false, Prod.mk.injEq, true_and, false_iff,
            not_true_eq_false, not_false_eq_true, Decidable.not_not]
          rw [← hsame]
        · simp [hv, hw]
    · simp only [hclock, hcontrol, false_and, or_self, not_false_eq_true, iff_true]
      exact ioWrite_activeByte stats stats' hclock hcontrol hcycles hbyte

end

/-! ### Cycles -/

section

variable {clockMode : WorkloadClockMode} {env : Env} {memory : Memory} {rom : List UInt8}
  {c₁ c₂ : BusCycle} {s : CycleState IoState}

theorem SameOutcome.refl {κ : Type*} (r : Bool × CycleState κ) : SameOutcome r r :=
  ⟨rfl, rfl, rfl, rfl, rfl⟩

theorem SameOutcome.of_stats {κ : Type*} {done : Bool} {ram : ByteMap} {context : κ} {b : Board}
    {stats₁ stats₂ : ClockSteppedStats}
    (h : { stats₂ with lastData := 0 } = { stats₁ with lastData := 0 }) :
    SameOutcome (done, ⟨stats₁, ram, context, b⟩) (done, ⟨stats₂, ram, context, b⟩) :=
  ⟨rfl, rfl, rfl, rfl, h⟩

theorem memWriteCycle_sameOutcome (h : SameByteWrite c₁ c₂) :
    SameOutcome (memWriteCycle env memory c₁ s) (memWriteCycle env memory c₂ s) := by
  obtain ⟨samples, b, hsamples⟩ := processorBusCompleteWrite_word env s.board
  unfold memWriteCycle
  rw [hsamples, hsamples]
  cases samples with
  | none =>
    simp only [Option.map_none]
    exact .refl _
  | some p =>
    simp only [Option.map_some, ClockSteppedStats.withData]
    rw [laneWrite_activeByte h.lanes h.sameLanes h.sameAddress h.sameByte]
    generalize laneWrite memory s.ram c₁ (decodeAd c₁.controlSample) = written
    -- the words are in the record only
    generalize decodeAd c₁.controlSample = v
    generalize decodeAd c₂.controlSample = w
    cases written with
    | none | some ram => exact .of_stats rfl

/-- An I/O write that is sampled ends as its handler says. -/
theorem ioWriteCycle_sameOutcome_iff {b : Board} {p₁ p₂ : UInt16 × UInt16}
    (h₁ : processorBusCompleteWrite env c₁ s.board = (some (decodeAd c₁.controlSample, p₁), b))
    (h₂ : processorBusCompleteWrite env c₂ s.board = (some (decodeAd c₂.controlSample, p₂), b)) :
    SameOutcome (ioWriteCycle env (executorIo clockMode) c₁ s)
        (ioWriteCycle env (executorIo clockMode) c₂ s) ↔
      ioWrite clockMode env (s.stats.withData (decodeAd c₂.controlSample)) c₂.address.toUInt16
          c₂.lanes (decodeAd c₂.controlSample) s.context b
        = ioWrite clockMode env (s.stats.withData (decodeAd c₁.controlSample)) c₁.address.toUInt16
          c₁.lanes (decodeAd c₁.controlSample) s.context b := by
  unfold ioWriteCycle executorIo
  rw [h₁, h₂]
  simp only
  generalize ioWrite clockMode env (s.stats.withData (decodeAd c₁.controlSample))
    c₁.address.toUInt16 c₁.lanes (decodeAd c₁.controlSample) s.context b = r₁
  generalize ioWrite clockMode env (s.stats.withData (decodeAd c₂.controlSample))
    c₂.address.toUInt16 c₂.lanes (decodeAd c₂.controlSample) s.context b = r₂
  generalize decodeAd c₁.controlSample = v
  generalize decodeAd c₂.controlSample = w
  obtain ⟨done₁, context₁, b₁⟩ := r₁
  obtain ⟨done₂, context₂, b₂⟩ := r₂
  constructor
  · rintro ⟨hcompleted, -, hcontext, hboard, -⟩
    cases done₁ <;> cases done₂ <;> simp_all
  · rintro heq
    cases heq
    simp only [ClockSteppedStats.withData]
    cases done₁ <;> exact .of_stats rfl

/-- The two writes are told apart by their inactive lane. -/
def InactiveLaneSeen (clockMode : WorkloadClockMode) (env : Env) (c₁ c₂ : BusCycle)
    (s : CycleState IoState) : Prop :=
  c₁.type = .ioWrite ∧ c₁.lanes = .low ∧
    (processorBusCompleteWrite env c₁ s.board).1.isSome = true ∧
    WordCompared clockMode c₁.address.toUInt16 (decodeAd c₁.controlSample)
      (decodeAd c₂.controlSample) s.context

theorem ioWriteCycle_inactiveLane (h : SameByteWrite c₁ c₂) (htype : c₁.type = .ioWrite) :
    SameOutcome (ioWriteCycle env (executorIo clockMode) c₁ s)
        (ioWriteCycle env (executorIo clockMode) c₂ s) ↔
      ¬ InactiveLaneSeen clockMode env c₁ c₂ s := by
  obtain ⟨samples, b, hsamples⟩ := processorBusCompleteWrite_word env s.board
  unfold InactiveLaneSeen
  cases samples with
  | none =>
    rw [hsamples]
    refine iff_of_true ?_ fun hseen => by cases hseen.2.2.1
    unfold ioWriteCycle
    rw [hsamples, hsamples]
    simp only [Option.map_none]
    exact .refl _
  | some p =>
    rw [ioWriteCycle_sameOutcome_iff (hsamples c₁) (hsamples c₂), h.sameAddress, h.sameLanes]
    have hbyte := h.sameByte
    have hcycles : ∀ v w, (s.stats.withData w).cycles = (s.stats.withData v).cycles :=
      fun _ _ => rfl
    rcases h.lanes with hlanes | hlanes
    · rw [hlanes] at hbyte ⊢
      rw [ioWrite_low_iff _ _ (hcycles _ _) hbyte, hsamples]
      simp [htype]
    · rw [hlanes] at hbyte ⊢
      exact iff_of_true (ioWrite_high _ _ (hcycles _ _) hbyte) fun hseen => by cases hseen.2.1

/-- **The inactive lane of a byte write** has no influence, exactly when no port compares it. -/
theorem inactive_lane_iff (clockMode : WorkloadClockMode) (env : Env) (memory : Memory)
    (rom : List UInt8) (s : CycleState IoState) (c₁ c₂ : BusCycle) (h : SameByteWrite c₁ c₂) :
    SameOutcome (serviceIdentified env memory rom (executorIo clockMode) c₁ s)
        (serviceIdentified env memory rom (executorIo clockMode) c₂ s) ↔
      ¬ InactiveLaneSeen clockMode env c₁ c₂ s := by
  have hlanes : c₁.lanes ≠ .none := by
    rcases h.lanes with hlanes | hlanes <;> rw [hlanes] <;> decide
  have hack : c₁.type ≠ .interruptAck := by
    rcases h.type with htype | htype <;> rw [htype] <;> decide
  unfold serviceIdentified
  rw [h.sameType, h.sameLanes, if_neg hack, if_neg hack, if_neg hlanes, if_neg hlanes]
  rcases h.type with htype | htype
  · rw [htype]
    refine iff_of_true (memWriteCycle_sameOutcome h) fun hseen => ?_
    rw [hseen.1] at htype
    cases htype
  · rw [htype]
    exact ioWriteCycle_inactiveLane h htype

end

/-- The byte 1 written to `CONTROL`, with `inactive` on the other lane. -/
def controlByteCycle (inactive : UInt8) : BusCycle :=
  let samples := ioWriteSamples ioPortControl (controlIdlePrepare ||| inactive.toUInt16 <<< 8)
  decodeCycle (samples.getD 0 0) (samples.getD 1 0) 1

theorem controlByteCycle_sameByteWrite :
    SameByteWrite (controlByteCycle 0) (controlByteCycle 0xFF) := by
  refine ⟨?_, ?_, ?_, ?_, ?_, ?_⟩ <;> decide +kernel

theorem inactive_lane_iff_control :
    SameByteWrite (controlByteCycle 0) (controlByteCycle 0xFF) ∧
      (SameOutcome (serviceIdentified (scriptedEnv 0 []) internalSramMemory []
            (executorIo .stepped) (controlByteCycle 0) steppedStart)
          (serviceIdentified (scriptedEnv 0 []) internalSramMemory [] (executorIo .stepped)
            (controlByteCycle 0xFF) steppedStart) ↔
        ¬ InactiveLaneSeen .stepped (scriptedEnv 0 []) (controlByteCycle 0)
          (controlByteCycle 0xFF) steppedStart) :=
  ⟨controlByteCycle_sameByteWrite, inactive_lane_iff _ _ _ _ _ _ _ controlByteCycle_sameByteWrite⟩

theorem inactive_lane_arms_idle :
    SameByteWrite (controlByteCycle 0) (controlByteCycle 0xFF) ∧
      ¬ SameOutcome (serviceIdentified (scriptedEnv 0 []) internalSramMemory []
          (executorIo .stepped) (controlByteCycle 0) steppedStart)
        (serviceIdentified (scriptedEnv 0 []) internalSramMemory [] (executorIo .stepped)
          (controlByteCycle 0xFF) steppedStart) := by
  refine ⟨controlByteCycle_sameByteWrite, fun hsame => ?_⟩
  have harmed := congrArg IoState.idleArmed hsame.context
  revert harmed
  decide +kernel

end Rp86
