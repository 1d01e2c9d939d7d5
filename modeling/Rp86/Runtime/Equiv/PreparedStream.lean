import Rp86.Bus.Equiv.PreparedResponder
import Rp86.Runtime.Equiv.Lifecycle
import Rp86.Runtime.PreparedStream
import Rp86.Workload.Equiv.Manifest

/-!
# What the prepared stream serves

The stream of one interrupt round is the list of the words that the compiler adds, in order
(`Appends`), as long as no assertion fails; a pair of it decodes to the address and the word it was
built from.  With a calculator workload running, the patched slot calls the entry of the operation,
whose two words follow (`dispatches_of_compile`).  The keys are even addresses exactly when the load
address of the workload is even (`calculator_dispatch_iff`).
-/

namespace Rp86

open Lib

/-! ### Decoding a stream -/

def ExactPair.address (p : ExactPair) : UInt32 := preparedDecodeAddress p.key

/-- The address of a pair and the word that it serves there. -/
def ExactPair.served (p : ExactPair) : UInt32 × UInt16 := (p.address, preparedDecodeAd p.response)

def memoryPair (p : UInt32 × UInt16) : ExactPair :=
  ⟨preparedMemoryReadKey p.1, preparedEncodeDrive p.2⟩

theorem toNat_address_memoryPair (p : UInt32 × UInt16) :
    (memoryPair p).address.toNat = p.1.toNat % 2 ^ 20 :=
  preparedDecodeAddress_memoryReadKey p.1

theorem served_memoryPair {p : UInt32 × UInt16} (h : p.1.toNat < 2 ^ 20) :
    (memoryPair p).served = p := by
  have haddress : (memoryPair p).address = p.1 := by
    apply UInt32.toNat_inj.mp
    rw [toNat_address_memoryPair, Nat.mod_eq_of_lt h]
  exact Prod.ext haddress (preparedDecodeAd_encodeDrive p.2)

/-! ### What the compiler adds -/

/-- `add` appends `words` to every sequence with room for them, when `asserts` holds; otherwise it
fails. -/
def Appends (add : List ExactPair → Option (List ExactPair)) (asserts : Prop)
    (words : List (UInt32 × UInt16)) : Prop :=
  ∀ s s', s.length ≤ maxPairs → (add s = some s' ↔
    asserts ∧ s.length + words.length ≤ maxPairs ∧ s' = s ++ words.map memoryPair)

theorem appends_pure : Appends some True [] := by
  intro s s' hs
  rw [List.map_nil, List.append_nil, Option.some_inj]
  exact ⟨fun h => ⟨trivial, hs, h.symm⟩, fun h => h.2.2.symm⟩

theorem appends_memory (address : UInt32) (value : UInt16) :
    Appends (fun s => addMemory s address value) True [(address, value)] := by
  intro s s' _
  show (if s.length < maxPairs then some (s ++ [memoryPair (address, value)]) else none)
    = some s' ↔ _
  rw [Option.ite_none_right_eq_some, Option.some_inj]
  exact ⟨fun ⟨hroom, h⟩ => ⟨trivial, hroom, h.symm⟩, fun ⟨_, hroom, h⟩ => ⟨hroom, h.symm⟩⟩

theorem appends_word (word : Option UInt16) (address : UInt32) :
    Appends (fun s => word >>= fun value => addMemory s address value) (word.isSome = true)
      [(address, word.getD 0)] := by
  cases word with
  | none => exact fun s s' _ => iff_of_false nofun fun h => Bool.false_ne_true h.1
  | some value =>
    intro s s' hs
    exact (appends_memory address value s s' hs).trans
      (and_congr_left fun _ => iff_of_true trivial rfl)

theorem Appends.bind {add add' : List ExactPair → Option (List ExactPair)} {A A' : Prop}
    {words words' : List (UInt32 × UInt16)} (h : Appends add A words)
    (h' : Appends add' A' words') :
    Appends (fun s => add s >>= add') (A ∧ A') (words ++ words') := by
  intro s s' hs
  show (add s).bind add' = some s' ↔ _
  have hlength : (s ++ words.map memoryPair).length = s.length + words.length := by
    rw [List.length_append, List.length_map]
  rw [Option.bind_eq_some_iff, List.length_append]
  constructor
  · rintro ⟨t, ht, hs'⟩
    obtain ⟨hA, hroom, rfl⟩ := (h s t hs).mp ht
    obtain ⟨hA', hroom', rfl⟩ := (h' _ s' (hlength ▸ hroom)).mp hs'
    refine ⟨⟨hA, hA'⟩, by omega, ?_⟩
    rw [List.map_append, List.append_assoc]
  · rintro ⟨⟨hA, hA'⟩, hroom, rfl⟩
    have hroom' : s.length + words.length ≤ maxPairs := by omega
    refine ⟨_, (h s _ hs).mpr ⟨hA, hroom', rfl⟩,
      (h' _ _ (hlength ▸ hroom')).mpr ⟨hA', by omega, ?_⟩⟩
    rw [List.map_append, List.append_assoc]

section

variable (image : List UInt8) (manager : WorkloadManager) (backing : Backing) (m : Machine)

def rangeWords (offsets : List ℕ) : List (UInt32 × UInt16) :=
  offsets.map fun offset =>
    (UInt32.ofNat (processorImageBase + offset), (imageWord image manager m offset).getD 0)

/-- Every word of a range is an aligned word of the image. -/
def RangeServed (offsets : List ℕ) : Prop :=
  ∀ offset ∈ offsets, (imageWord image manager m offset).isSome = true

theorem rangeServed_cons (offset : ℕ) (offsets : List ℕ) :
    RangeServed image manager m (offset :: offsets) ↔
      (imageWord image manager m offset).isSome = true ∧ RangeServed image manager m offsets := by
  unfold RangeServed
  rw [List.forall_mem_cons]

theorem appends_imageRange (first endExclusive : ℕ) :
    Appends (fun s => addImageRange image manager m s first endExclusive)
      (RangeServed image manager m (imageOffsets first endExclusive))
      (rangeWords image manager m (imageOffsets first endExclusive)) := by
  unfold addImageRange
  induction imageOffsets first endExclusive with
  | nil =>
    intro s s' hs
    exact (appends_pure s s' hs).trans
      (and_congr_left fun _ => iff_of_true trivial (List.forall_mem_nil _))
  | cons offset offsets ih =>
    intro s s' hs
    have hword := appends_word (imageWord image manager m offset)
      (UInt32.ofNat (processorImageBase + offset))
    exact ((hword.bind ih) s s' hs).trans
      (and_congr_left fun _ => (rangeServed_cons image manager m offset offsets).symm)

/-- The entry of the operation and the return address of the far call. -/
def entryWords : List (UInt32 × UInt16) :=
  [(m.calculatorEntryLinear, (calculatorWorkloadWord backing m.calculatorEntryLinear).getD 0),
    (m.calculatorEntryLinear + 2,
      (calculatorWorkloadWord backing (m.calculatorEntryLinear + 2)).getD 0),
    (calculatorStackIpAddress, UInt16.ofNat calculatorReturnOffset),
    (calculatorStackCsAddress, 0xF000)]

/-- The two words of the entry can be read. -/
def EntryServed : Prop :=
  (calculatorWorkloadWord backing m.calculatorEntryLinear).isSome = true ∧
    (calculatorWorkloadWord backing (m.calculatorEntryLinear + 2)).isSome = true

theorem appends_calculatorEntry :
    Appends (addCalculatorEntry backing m) (EntryServed backing m) (entryWords backing m) := by
  have hadds := (appends_word (calculatorWorkloadWord backing m.calculatorEntryLinear)
    m.calculatorEntryLinear).bind
    ((appends_word (calculatorWorkloadWord backing (m.calculatorEntryLinear + 2))
      (m.calculatorEntryLinear + 2)).bind
    ((appends_memory calculatorStackIpAddress (UInt16.ofNat calculatorReturnOffset)).bind
      (appends_memory calculatorStackCsAddress 0xF000)))
  intro s s' hs
  refine Iff.trans ?_ ((hadds s s' hs).trans (and_congr_left fun _ => ?_))
  · unfold addCalculatorEntry
    simp only [bind_assoc]
  · unfold EntryServed
    tauto

/-- The offsets of the handler up to the return of the far call. -/
def beforeReturn : List ℕ := imageOffsets irqHandlerOffset calculatorReturnOffset

/-- The offsets of the handler from the return of the far call on. -/
def afterReturn : List ℕ := imageOffsets calculatorReturnOffset (image.length / 2 * 2)

/-- The words of the stream while a workload runs. -/
def irqRomWords : List (UInt32 × UInt16) :=
  [(ivt20OffsetAddress, UInt16.ofNat irqHandlerOffset)] ++ ([(ivt20SegmentAddress, 0xF000)] ++
    ((rangeWords image manager m beforeReturn ++ (entryWords backing m ++
      rangeWords image manager m (afterReturn image))) ++
    ([(stackIpAddress, UInt16.ofNat irqReturnOffset)] ++ ([(stackCsAddress, 0xF000)] ++
      [(stackFlagsAddress, 0xF246)]))))

/-- What the compiler asserts while a workload runs, but for the room. -/
def StreamServed : Prop :=
  RangeServed image manager m beforeReturn ∧ EntryServed backing m ∧
    RangeServed image manager m (afterReturn image)

/-- **The stream, while a workload runs.** -/
theorem compileIrqRomSequence_eq_some_iff (hrunning : manager.state = .running)
    {seq : List ExactPair} :
    compileIrqRomSequence image manager backing m = some seq ↔
      StreamServed image manager backing m ∧
        (irqRomWords image manager backing m).length ≤ maxPairs ∧
        seq = (irqRomWords image manager backing m).map memoryPair := by
  have hhandler : Appends (addHandler image manager backing m)
      (StreamServed image manager backing m)
      (rangeWords image manager m beforeReturn ++ (entryWords backing m ++
        rangeWords image manager m (afterReturn image))) := by
    have hadds := (appends_imageRange image manager m irqHandlerOffset calculatorReturnOffset).bind
      ((appends_calculatorEntry backing m).bind
        (appends_imageRange image manager m calculatorReturnOffset (image.length / 2 * 2)))
    intro s s' hs
    unfold addHandler
    simp only [if_pos hrunning]
    exact hadds s s' hs
  have hadds := (appends_memory ivt20OffsetAddress (UInt16.ofNat irqHandlerOffset)).bind
    ((appends_memory ivt20SegmentAddress 0xF000).bind (hhandler.bind
      ((appends_memory stackIpAddress (UInt16.ofNat irqReturnOffset)).bind
        ((appends_memory stackCsAddress 0xF000).bind (appends_memory stackFlagsAddress 0xF246)))))
  refine (hadds [] seq (Nat.zero_le _)).trans ?_
  rw [List.length_nil, Nat.zero_add, List.nil_append]
  exact and_congr_left fun _ => ⟨fun h => h.2.2.1, fun h => ⟨trivial, trivial, h, trivial, trivial,
    trivial⟩⟩

end

/-! ### The entry of an operation -/

/-- The offset of the entry that a supported operation runs. -/
theorem calculatorOperation_offset {record : Message} {opcode : UInt16} {offset : UInt32}
    (h : calculatorOperation record = some (opcode, offset)) :
    offset = calculatorEntryStride * ((hostWord record 1).toUInt32 - 1) ∧
      offset.toNat = 4 * ((hostWord record 1).toNat - 1) ∧ offset.toNat ≤ 12 := by
  unfold calculatorOperation at h
  split_ifs at h with h1 h2 h3 h4
  · rw [h1]
    obtain ⟨-, rfl⟩ := Prod.mk.inj (Option.some.inj h)
    decide
  · rw [h2]
    obtain ⟨-, rfl⟩ := Prod.mk.inj (Option.some.inj h)
    decide
  · rw [h3]
    obtain ⟨-, rfl⟩ := Prod.mk.inj (Option.some.inj h)
    decide
  · rw [h4]
    obtain ⟨-, rfl⟩ := Prod.mk.inj (Option.some.inj h)
    decide

/-- What the recognition of the calculator workload has checked. -/
theorem calculatorWorkloadValid_image {manager : WorkloadManager} {backing : Backing}
    (h : calculatorWorkloadValid manager backing = true) :
    manager.manifest.imageSize = calculatorWorkloadSize ∧
      memoryBackingRead backing manager.manifest.loadAddress 16
        = some calculatorWorkloadContract := by
  unfold calculatorWorkloadValid at h
  simp only [Bool.if_false_left, Bool.and_eq_true, Bool.not_eq_true', decide_eq_false_iff_not,
    not_or, not_not] at h
  obtain ⟨⟨-, hsize, -⟩, hread⟩ := h
  refine ⟨hsize, ?_⟩
  split at hread
  · exact absurd hread Bool.false_ne_true
  · next bytes hbytes => rw [← beq_iff_eq.mp hread, ← hbytes]; rfl

/-- A word inside an image that can be read. -/
theorem calculatorWorkloadWord_inside {backing : Backing} {load k : UInt32} {image : List UInt8}
    {size : ℕ} (hread : memoryBackingRead backing load size = some image)
    (hk : k.toNat + 2 ≤ size) (hwraps : load.toNat + size ≤ 2 ^ 32) :
    calculatorWorkloadWord backing (load + k) = some (le16 image k.toNat) := by
  obtain ⟨hvalid, rfl⟩ := memoryBackingRead_eq_some hread
  obtain ⟨havailable, hbase, hinside⟩ := memoryBackingRangeValid_iff.mp hvalid
  have hsize := backing.size.toNat_lt
  have hoffset : backing.offset (load + k) = backing.offset load + k.toNat :=
    Backing.offset_add (by omega)
  have hrange : memoryBackingRangeValid backing (load + k) 2 = true := by
    refine memoryBackingRangeValid_iff.mpr ⟨havailable, ?_, by omega⟩
    rw [UInt32.le_iff_toNat_le] at hbase ⊢
    rw [UInt32.toNat_add]
    omega
  unfold calculatorWorkloadWord
  rw [memoryBackingRead_of_valid hrange, Option.map_some, hoffset,
    le16_readBytes _ (Nat.le_refl 2), le16_readBytes _ hk, Nat.add_zero]

/-! ### The dispatch -/

/-- The calculator slot: `NOP` and `CALL FAR segment:offset`. -/
def callFarWords (offset segment : UInt16) : List (UInt32 × UInt16) :=
  [(0xF0170, 0x9A90), (0xF0172, offset), (0xF0174, segment)]

/-- The far call in the calculator slot goes to `target`, and the next words served are the four
bytes of the entry there. -/
def Dispatches (seq : List ExactPair) (target : UInt32) (entry : List UInt8) : Prop :=
  ∃ offset segment : UInt16, linearAddress segment offset = target ∧
    callFarWords offset segment ++ [(target, le16 entry 0), (target + 2, le16 entry 2)]
      <:+: seq.map ExactPair.served

/-- The far pointer rebuilt from a linear address. -/
theorem linearAddress_patched {entry : UInt32} (h : entry.toNat < 2 ^ 20) :
    linearAddress (entry >>> 4).toUInt16 (entry &&& 0x000F).toUInt16 = entry := by
  have h4 : (4 : UInt32).toNat % 32 = 4 := rfl
  have hnibble : (0x000F : UInt32).toNat = 2 ^ 4 - 1 := rfl
  apply UInt32.toNat_inj.mp
  rw [toNat_linearAddress, UInt32.toNat_toUInt16, UInt32.toNat_toUInt16, UInt32.toNat_shiftRight,
    UInt32.toNat_and, h4, hnibble, Nat.and_two_pow_sub_one_eq_mod, Nat.shiftRight_eq_div_pow]
  omega

section

variable {image : List UInt8} {manager : WorkloadManager} {backing : Backing} {m : Machine}
  {seq : List ExactPair}

theorem imageWord_isSome {offset : ℕ} :
    (imageWord image manager m offset).isSome = true ↔
      offset % 2 = 0 ∧ offset + 1 < image.length := by
  unfold imageWord
  split_ifs with h
  · exact iff_of_true rfl h
  · exact iff_of_false Bool.false_ne_true h

theorem imageWord_getD {offset : ℕ} (h : (imageWord image manager m offset).isSome = true) :
    (imageWord image manager m offset).getD 0 = patchedWord image manager m offset := by
  unfold imageWord
  rw [if_pos (imageWord_isSome.mp h), Option.getD_some]

/-- The last words before the return are the far call, patched into the slot. -/
theorem rangeWords_slot (hrunning : manager.state = .running)
    (hserved : RangeServed image manager m beforeReturn) :
    rangeWords image manager m beforeReturn
      = rangeWords image manager m (imageOffsets irqHandlerOffset calculatorSlotOffset) ++
        callFarWords (m.calculatorEntryLinear &&& 0x000F).toUInt16
          (m.calculatorEntryLinear >>> 4).toUInt16 := by
  have hoffsets : beforeReturn
      = imageOffsets irqHandlerOffset calculatorSlotOffset ++ [0x170, 0x172, 0x174] := by decide
  have hword : ∀ offset ∈ [0x170, 0x172, 0x174],
      (imageWord image manager m offset).getD 0 = patchedWord image manager m offset := by
    intro offset hoffset
    refine imageWord_getD (hserved offset ?_)
    rw [hoffsets]
    exact List.mem_append_right _ hoffset
  unfold rangeWords
  rw [hoffsets, List.map_append]
  congr 1
  rw [List.map_cons, List.map_cons, List.map_cons, List.map_nil, hword 0x170 (by decide),
    hword 0x172 (by decide), hword 0x174 (by decide)]
  unfold patchedWord
  rw [hrunning]
  rfl

/-- **The dispatch of a compiled stream.**  The far call in the slot goes to the entry, and the
entry's words follow it. -/
theorem dispatches_of_compile (hrunning : manager.state = .running)
    (hcompile : compileIrqRomSequence image manager backing m = some seq) {entry : List UInt8}
    (hbelow : m.calculatorEntryLinear.toNat + 2 < 2 ^ 20)
    (hfirst : calculatorWorkloadWord backing m.calculatorEntryLinear = some (le16 entry 0))
    (hsecond : calculatorWorkloadWord backing (m.calculatorEntryLinear + 2)
      = some (le16 entry 2)) :
    Dispatches seq m.calculatorEntryLinear entry := by
  obtain ⟨⟨hbefore, -, -⟩, -, rfl⟩ :=
    (compileIrqRomSequence_eq_some_iff image manager backing m hrunning).mp hcompile
  refine ⟨(m.calculatorEntryLinear &&& 0x000F).toUInt16, (m.calculatorEntryLinear >>> 4).toUInt16,
    linearAddress_patched (by omega), ?_⟩
  set call := callFarWords (m.calculatorEntryLinear &&& 0x000F).toUInt16
    (m.calculatorEntryLinear >>> 4).toUInt16 ++
      [(m.calculatorEntryLinear, le16 entry 0), (m.calculatorEntryLinear + 2, le16 entry 2)]
    with hcall
  have hwithin : call <:+: irqRomWords image manager backing m := by
    refine ⟨(ivt20OffsetAddress, UInt16.ofNat irqHandlerOffset) :: (ivt20SegmentAddress, 0xF000) ::
      rangeWords image manager m (imageOffsets irqHandlerOffset calculatorSlotOffset),
      (entryWords backing m).drop 2 ++ rangeWords image manager m (afterReturn image) ++
        [(stackIpAddress, UInt16.ofNat irqReturnOffset), (stackCsAddress, 0xF000),
          (stackFlagsAddress, 0xF246)], ?_⟩
    unfold irqRomWords entryWords
    rw [rangeWords_slot hrunning hbefore, hfirst, hsecond, hcall]
    simp
  -- each pair of the call is decoded to what it was built from
  have hserved : (call.map memoryPair).map ExactPair.served = call := by
    have hnext : (m.calculatorEntryLinear + 2).toNat < 2 ^ 20 := by
      have h2 : (2 : UInt32).toNat = 2 := rfl
      rw [UInt32.toNat_add, h2]
      omega
    rw [List.map_map]
    refine (List.map_congr_left fun p hp => ?_).trans (List.map_id _)
    refine served_memoryPair ?_
    rw [hcall] at hp
    simp only [callFarWords, List.cons_append, List.nil_append, List.mem_cons, List.not_mem_nil,
      or_false] at hp
    rcases hp with rfl | rfl | rfl | rfl | rfl
    · exact (by decide : (0xF0170 : UInt32).toNat < 2 ^ 20)
    · exact (by decide : (0xF0172 : UInt32).toNat < 2 ^ 20)
    · exact (by decide : (0xF0174 : UInt32).toNat < 2 ^ 20)
    · exact Nat.lt_of_le_of_lt (Nat.le_add_right _ 2) hbelow
    · exact hnext
  rw [← hserved]
  exact (hwithin.map memoryPair).map ExactPair.served

/-! ### The keys -/

theorem rangeWords_even {offsets : List ℕ} (h : RangeServed image manager m offsets) :
    ∀ word ∈ rangeWords image manager m offsets, word.1.toNat % 2 = 0 := by
  unfold rangeWords
  rw [List.forall_mem_map]
  intro offset hoffset
  have heven := (imageWord_isSome.mp (h offset hoffset)).1
  have hbase : processorImageBase = 0xF0000 := rfl
  show (UInt32.ofNat (processorImageBase + offset)).toNat % 2 = 0
  rw [UInt32.toNat_ofNat', hbase]
  omega

/-- **The keys of a compiled stream** are even addresses exactly when the entry is one. -/
theorem even_keys_iff (hrunning : manager.state = .running)
    (hcompile : compileIrqRomSequence image manager backing m = some seq) :
    (∀ p ∈ seq, p.address.toNat % 2 = 0) ↔ m.calculatorEntryLinear.toNat % 2 = 0 := by
  obtain ⟨⟨hbefore, -, hafter⟩, -, rfl⟩ :=
    (compileIrqRomSequence_eq_some_iff image manager backing m hrunning).mp hcompile
  have hparity : ∀ n : ℕ, n % 2 ^ 20 % 2 = n % 2 := fun n =>
    Nat.mod_mod_of_dvd n (by decide)
  have hnext : (m.calculatorEntryLinear + 2).toNat % 2 = m.calculatorEntryLinear.toNat % 2 := by
    have h2 : (2 : UInt32).toNat = 2 := rfl
    rw [UInt32.toNat_add, h2]
    omega
  rw [List.forall_mem_map]
  simp only [toNat_address_memoryPair, hparity]
  unfold irqRomWords entryWords
  simp only [List.forall_mem_append, List.forall_mem_cons, List.not_mem_nil, IsEmpty.forall_iff,
    implies_true, and_true, hnext]
  constructor
  · intro h
    exact h.2.2.1.2.1.1
  · intro h
    exact ⟨rfl, rfl, ⟨rangeWords_even hbefore, ⟨h, h, rfl, rfl⟩, rangeWords_even hafter⟩,
      rfl, rfl, rfl⟩

/-- The stream compiles when the image holds the handler's slot and leaves room in the sequence. -/
theorem exists_compile (hrunning : manager.state = .running) (hentry : EntryServed backing m)
    (hslot : calculatorReturnOffset ≤ image.length) (hroom : image.length < 0x1F0) :
    ∃ seq, compileIrqRomSequence image manager backing m = some seq := by
  have hreturn : calculatorReturnOffset = 0x176 := rfl
  have hserved : ∀ first endExclusive, first % 2 = 0 → endExclusive % 2 = 0 →
      endExclusive ≤ image.length →
      RangeServed image manager m (imageOffsets first endExclusive) := by
    intro first endExclusive hfirst hend hfits offset hoffset
    obtain ⟨i, hi, rfl⟩ := List.mem_range'.mp hoffset
    exact imageWord_isSome.mpr (by omega)
  have hlength : (afterReturn image).length ≤ 60 := by
    unfold afterReturn imageOffsets
    rw [List.length_range']
    omega
  refine ⟨_, (compileIrqRomSequence_eq_some_iff image manager backing m hrunning).mpr
    ⟨⟨hserved _ _ rfl rfl hslot, hentry, hserved _ _ rfl (by omega) (by omega)⟩, ?_, rfl⟩⟩
  have hbefore : beforeReturn.length = 27 := rfl
  have hpairs : maxPairs = 96 := rfl
  have hentryLength : (entryWords backing m).length = 4 := rfl
  unfold irqRomWords rangeWords
  simp only [List.length_append, List.length_map, List.length_singleton, hbefore, hentryLength]
  omega

end

/-! ### The calculator workload -/

/-- The address of the entry that a calculator command runs. -/
def operationEntry (manager : WorkloadManager) (record : Message) : UInt32 :=
  manager.manifest.loadAddress + calculatorEntryStride * ((hostWord record 1).toUInt32 - 1)

/-- The four bytes of the workload image at that entry. -/
def operationBytes (record : Message) : List UInt8 :=
  (calculatorWorkloadContract.drop (4 * ((hostWord record 1).toNat - 1))).take 4

/-- A supported command selects its entry. -/
theorem selectCalculatorOpcode_entry {manager : WorkloadManager} {backing : Backing}
    {record : Message} (m : Machine) (hrunning : manager.state = .running)
    (hvalid : calculatorWorkloadValid manager backing = true)
    (hrequested : calculatorRequested record = true)
    (hsupported : (calculatorOperation record).isSome = true) :
    (selectCalculatorOpcode manager backing record m).2.calculatorEntryLinear
      = operationEntry manager record := by
  obtain ⟨⟨opcode, offset⟩, hoperation⟩ := Option.isSome_iff_exists.mp hsupported
  obtain ⟨hoffset, -, -⟩ := calculatorOperation_offset hoperation
  unfold selectCalculatorOpcode operationEntry
  simp only [hrequested, hoperation, hrunning, hvalid, Bool.not_true, Bool.false_eq_true, if_false,
    if_true]
  rw [hoffset]

/-- **Calculator dispatch.**  With an accepted manifest and the calculator workload running, the
stream of a supported command compiles for every image that holds the slot and leaves room; it has
even keys only, calls the entry of the operation and serves its four bytes there, exactly when the
load address is even. -/
theorem calculator_dispatch_iff (image : List UInt8) (manager : WorkloadManager)
    (backing : Backing) (record : Message) (m : Machine)
    (hmanifest : manifestValid manager.manifest backing = true)
    (hrunning : manager.state = .running)
    (hvalid : calculatorWorkloadValid manager backing = true)
    (hrequested : calculatorRequested record = true)
    (hsupported : (calculatorOperation record).isSome = true) :
    (calculatorReturnOffset ≤ image.length → image.length < 0x1F0 →
      ∃ seq, compileIrqRomSequence image manager backing
        (selectCalculatorOpcode manager backing record m).2 = some seq) ∧
    ∀ seq, compileIrqRomSequence image manager backing
        (selectCalculatorOpcode manager backing record m).2 = some seq →
      (((∀ p ∈ seq, p.address.toNat % 2 = 0) ∧
          Dispatches seq (operationEntry manager record) (operationBytes record)) ↔
        manager.manifest.loadAddress.toNat % 2 = 0) := by
  have hentry := selectCalculatorOpcode_entry m hrunning hvalid hrequested hsupported
  obtain ⟨⟨opcode, offset⟩, hoperation⟩ := Option.isSome_iff_exists.mp hsupported
  obtain ⟨hoffset, hplace, hlast⟩ := calculatorOperation_offset hoperation
  obtain ⟨hsize, hread⟩ := calculatorWorkloadValid_image hvalid
  have hfits := (imageFits_of_manifestValid hmanifest).fits
  have h16 : calculatorWorkloadSize.toNat = 16 := rfl
  rw [hsize, h16] at hfits
  have htarget : operationEntry manager record = manager.manifest.loadAddress + offset := by
    rw [operationEntry, hoffset]
  -- the entry lies in the image, so its address does not wrap
  have htoNat : (operationEntry manager record).toNat
      = manager.manifest.loadAddress.toNat + offset.toNat := by
    rw [htarget, UInt32.toNat_add]
    omega
  have hfirst : calculatorWorkloadWord backing (operationEntry manager record)
      = some (le16 (operationBytes record) 0) := by
    rw [htarget, calculatorWorkloadWord_inside hread (by omega) (by omega), operationBytes,
      le16_slice (by decide), ← hplace, Nat.add_zero]
  have hsecond : calculatorWorkloadWord backing (operationEntry manager record + 2)
      = some (le16 (operationBytes record) 2) := by
    have h2 : (offset + 2).toNat = offset.toNat + 2 := by
      rw [UInt32.toNat_add]
      exact Nat.mod_eq_of_lt (Nat.lt_of_le_of_lt (Nat.add_le_add_right hlast 2) (by decide))
    rw [htarget, UInt32.add_assoc, calculatorWorkloadWord_inside hread (by omega) (by omega),
      operationBytes, le16_slice (by decide), ← hplace, h2]
  generalize (selectCalculatorOpcode manager backing record m).2 = m' at hentry ⊢
  rw [← hentry] at hfirst hsecond htoNat ⊢
  refine ⟨fun hslot hroom => exists_compile hrunning ⟨?_, ?_⟩ hslot hroom, fun seq hcompile => ?_⟩
  · rw [hfirst, Option.isSome_some]
  · rw [hsecond, Option.isSome_some]
  -- the offsets of the entries are even, so the parity is that of the load address
  · have hdispatch := dispatches_of_compile hrunning hcompile (by omega) hfirst hsecond
    rw [even_keys_iff hrunning hcompile, and_iff_left hdispatch, htoNat]
    omega

/-- A running calculator workload at a load address. -/
def calculatorManager (loadAddress : UInt32) (entrySegment entryOffset : UInt16) :
    WorkloadManager where
  manifest := { stackManifest 0 0 with
    imageSize := calculatorWorkloadSize
    loadAddress := loadAddress
    entrySegment := entrySegment
    entryOffset := entryOffset }
  transferId := 1
  workloadId := 1
  received := calculatorWorkloadSize
  runningCrc32 := 0
  state := .running

/-- Internal SRAM with the calculator workload at an address. -/
def calculatorBacking (loadAddress : ℕ) : Backing :=
  { internalSramBackingInit with
    storage := writeBytes internalSramBackingInit.storage loadAddress calculatorWorkloadContract }

/-- The command `6 * 7`. -/
def multiplyCommand : Message := { proofRecord with
  type := typeCommand
  length := 8
  payload := padPayload [0x1C, 0xCA, 3, 0, 6, 0, 7, 0]
  length_payload := length_padPayload _ }

theorem calculator_dispatch_multiply :
    ∃ seq, compileIrqRomSequence (List.replicate 0x1C7 0x90) (calculatorManager 0x1000 0x100 0)
        (calculatorBacking 0x1000) (selectCalculatorOpcode (calculatorManager 0x1000 0x100 0)
          (calculatorBacking 0x1000) multiplyCommand coldMachine).2 = some seq ∧
      (∀ p ∈ seq, p.address.toNat % 2 = 0) ∧
      Dispatches seq 0x1008 [0xF7, 0xE1, 0xCB, 0x90] := by
  obtain ⟨hcompiles, hiff⟩ := calculator_dispatch_iff (List.replicate 0x1C7 0x90)
    (calculatorManager 0x1000 0x100 0) (calculatorBacking 0x1000) multiplyCommand coldMachine
    (by decide +kernel) rfl (by decide +kernel) (by decide +kernel) (by decide +kernel)
  obtain ⟨seq, hseq⟩ := hcompiles (by decide +kernel) (by decide +kernel)
  have hentry : operationEntry (calculatorManager 0x1000 0x100 0) multiplyCommand = 0x1008 := by
    decide +kernel
  have hbytes : operationBytes multiplyCommand = [0xF7, 0xE1, 0xCB, 0x90] := by decide +kernel
  rw [hentry, hbytes] at hiff
  exact ⟨seq, hseq, (hiff seq hseq).mpr rfl⟩

/-- The same workload at `1001h` is accepted and recognised, and its stream has an odd key. -/
theorem calculator_dispatch_odd :
    manifestValid (calculatorManager 0x1001 0x100 1).manifest (calculatorBacking 0x1001) = true ∧
      calculatorWorkloadValid (calculatorManager 0x1001 0x100 1) (calculatorBacking 0x1001) = true ∧
      ((compileIrqRomSequence (List.replicate 0x1C7 0x90) (calculatorManager 0x1001 0x100 1)
        (calculatorBacking 0x1001) (selectCalculatorOpcode (calculatorManager 0x1001 0x100 1)
          (calculatorBacking 0x1001) multiplyCommand coldMachine).2).map fun seq =>
        seq.any fun p => p.address = 0x1009) = some true := by
  decide +kernel

end Rp86
