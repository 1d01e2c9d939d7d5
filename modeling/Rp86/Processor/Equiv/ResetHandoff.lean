import Rp86.Processor.Instructions
import Rp86.Runtime.Executor
import Rp86.Workload.Equiv.Manifest

/-!
# From the reset vector to the workload

The processor starts at `FFFF:0000`, where it fetches the reset code that `build_reset_handoff` has
laid out for the manifest.  `QuietRun` is a run that executes nothing but that code, touches no
stack and cannot be interrupted; `InHandoff` says where in the code the processor stands, and each
instruction of the code moves it on (`InHandoff.run`).
-/

namespace Rp86.Processor

open Lib

/-- A run inside the reset code: every instruction is fetched from its 16 bytes, none accesses the
stack, and maskable interrupts are off before each of them. -/
inductive QuietRun : Cpu → Cpu → Prop
  | refl (c : Cpu) : QuietRun c c
  | step {c c' : Cpu} (e : Executed) (hstep : c.step = some e)
      (hcode : ∀ address ∈ e.fetched, resetHandoffBase.toNat ≤ address ∧
        address < resetHandoffBase.toNat + resetHandoffSize)
      (hstack : e.stack = []) (hif : c.flags &&& flagIf = 0) (hrest : QuietRun e.cpu c') :
      QuietRun c c'

/-- The processor stands `k` bytes behind the reset vector, with `code` in front of it and
interrupts off. -/
structure InHandoff (code : List UInt8) (k : ℕ) (c : Cpu) : Prop where
  cs : c.cs = 0xFFFF
  ip : c.ip = UInt16.ofNat k
  code : ∀ i < resetHandoffSize, c.memory (resetHandoffBase.toNat + i) = code.getD i 0
  interruptsOff : c.flags &&& flagIf = 0

section

variable {code : List UInt8} {k : ℕ} {c : Cpu}

theorem linear_reset {i : ℕ} (hi : i < resetHandoffSize) :
    linear 0xFFFF (UInt16.ofNat i) = resetHandoffBase.toNat + i := by
  have hsize : resetHandoffSize = 16 := rfl
  have hbase : resetHandoffBase.toNat = 0xFFFF0 := rfl
  have hcs : (0xFFFF : UInt16).toNat = 0xFFFF := rfl
  unfold linear
  rw [UInt16.toNat_ofNat', hbase, hcs]
  omega

theorem InHandoff.linear_eq (h : InHandoff code k c) {i : ℕ} (hi : k + i < resetHandoffSize) :
    linear c.cs (c.ip + UInt16.ofNat i) = resetHandoffBase.toNat + (k + i) := by
  rw [h.cs, h.ip, ← UInt16.ofNat_add, linear_reset hi]

theorem InHandoff.code_eq (h : InHandoff code k c) {i : ℕ} (hi : k + i < resetHandoffSize) :
    c.code i = code.getD (k + i) 0 := by
  unfold Cpu.code
  rw [h.linear_eq hi, h.code _ hi]

/-- An instruction inside the code, that leaves the stack alone, takes the processor on. -/
theorem InHandoff.run (h : InHandoff code k c) {instruction : Instruction} {length : ℕ} {c' : Cpu}
    (hdecode : decode c.code = some (instruction, length))
    (hinside : k + length ≤ resetHandoffSize) (hstack : c.stackAccess instruction = [])
    (hrest : QuietRun ({ c with ip := c.ip + UInt16.ofNat length }.execute instruction) c') :
    QuietRun c c' := by
  refine .step _ (by rw [Cpu.step, hdecode]; rfl) ?_ hstack h.interruptsOff hrest
  intro address haddress
  obtain ⟨i, hi, rfl⟩ := List.mem_map.mp haddress
  have hlt := List.mem_range.mp hi
  rw [h.linear_eq (show k + i < resetHandoffSize by omega)]
  omega

/-- An instruction that is no jump leaves the processor in the code, right behind it. -/
theorem InHandoff.next (h : InHandoff code k c) {instruction : Instruction} {length : ℕ} {c' : Cpu}
    (hdecode : decode c.code = some (instruction, length))
    (hinside : k + length ≤ resetHandoffSize) (hstack : c.stackAccess instruction = [])
    (hcs : ({ c with ip := c.ip + UInt16.ofNat length }.execute instruction).cs = c.cs)
    (hip : ({ c with ip := c.ip + UInt16.ofNat length }.execute instruction).ip
      = c.ip + UInt16.ofNat length)
    (hmemory : ({ c with ip := c.ip + UInt16.ofNat length }.execute instruction).memory = c.memory)
    (hif : ({ c with ip := c.ip + UInt16.ofNat length }.execute instruction).flags &&& flagIf = 0)
    (hrest : InHandoff code (k + length)
        ({ c with ip := c.ip + UInt16.ofNat length }.execute instruction) →
      QuietRun ({ c with ip := c.ip + UInt16.ofNat length }.execute instruction) c') :
    QuietRun c c' := by
  refine h.run hdecode hinside hstack (hrest ⟨hcs.trans h.cs, ?_, ?_, hif⟩)
  · rw [hip, h.ip, UInt16.ofNat_add]
  · rw [hmemory]
    exact h.code

end

/-! ### The instructions of the reset code -/

section

variable {code : ℕ → UInt8} {value : UInt16}

theorem decode_cli (h : code 0 = 0xFA) : decode code = some (.cli, 1) := by
  simp only [decode, h]
  rfl

theorem decode_movAx (h : code 0 = 0xB8) (hlow : code 1 = value.toUInt8)
    (hhigh : code 2 = (value >>> 8).toUInt8) : decode code = some (.movImm .ax value, 3) := by
  have hword := toUInt8_or_shiftLeft value
  simp only [decode, h, hlow, hhigh, hword]
  rfl

theorem decode_movSp (h : code 0 = 0xBC) (hlow : code 1 = value.toUInt8)
    (hhigh : code 2 = (value >>> 8).toUInt8) : decode code = some (.movImm .sp value, 3) := by
  have hword := toUInt8_or_shiftLeft value
  simp only [decode, h, hlow, hhigh, hword]
  rfl

theorem decode_movSs (h : code 0 = 0x8E) (hmodrm : code 1 = 0xD0) :
    decode code = some (.movSeg .ss .ax, 2) := by
  simp only [decode, h, hmodrm]
  rfl

theorem decode_jmpFar {segment : UInt16} (h : code 0 = 0xEA) (h1 : code 1 = value.toUInt8)
    (h2 : code 2 = (value >>> 8).toUInt8) (h3 : code 3 = segment.toUInt8)
    (h4 : code 4 = (segment >>> 8).toUInt8) :
    decode code = some (.jmpFar value segment, 5) := by
  have hword := toUInt8_or_shiftLeft value
  have hword' := toUInt8_or_shiftLeft segment
  simp only [decode, h, h1, h2, h3, h4, hword, hword']
  rfl

end

/-! ### The two layouts -/

section

variable {m : Manifest} {c : Cpu}

theorem buildResetHandoff_stack (h : m.stackSegment ≠ 0 ∨ m.stackOffset ≠ 0) :
    buildResetHandoff m = (true, [0xFA, 0xB8, m.stackSegment.toUInt8,
      (m.stackSegment >>> 8).toUInt8, 0x8E, 0xD0, 0xBC, m.stackOffset.toUInt8,
      (m.stackOffset >>> 8).toUInt8] ++ (resetJumpCode m ++ [0x90, 0x90])) := by
  unfold buildResetHandoff resetStackCode
  rw [if_pos h]
  rfl

theorem buildResetHandoff_noStack (h : ¬ (m.stackSegment ≠ 0 ∨ m.stackOffset ≠ 0)) :
    buildResetHandoff m = (true, resetJumpCode m ++ List.replicate 11 0x90) := by
  unfold buildResetHandoff resetStackCode
  rw [if_neg h]
  rfl

/-- The far jump at the end of either layout. -/
theorem InHandoff.jump {stack rest : List UInt8}
    (h : InHandoff (stack ++ (resetJumpCode m ++ rest)) stack.length c)
    (hinside : stack.length + 5 ≤ resetHandoffSize) :
    QuietRun c { c with cs := m.entrySegment, ip := m.entryOffset } := by
  have hbyte : ∀ i < 5, c.code i = (resetJumpCode m ++ rest).getD i 0 := by
    intro i hi
    rw [h.code_eq (show stack.length + i < resetHandoffSize by omega),
      List.getD_append_right _ _ _ _ (Nat.le_add_right _ _), Nat.add_sub_cancel_left]
  have hdecode := decode_jmpFar (hbyte 0 (by decide)) (hbyte 1 (by decide)) (hbyte 2 (by decide))
    (hbyte 3 (by decide)) (hbyte 4 (by decide))
  exact h.run hdecode hinside rfl (.refl _)

/-- The stack setup and the jump. -/
theorem quietRun_stack (h : m.stackSegment ≠ 0 ∨ m.stackOffset ≠ 0)
    (hstart : InHandoff (buildResetHandoff m).2 0 c) :
    QuietRun c { c with
      cs := m.entrySegment
      ip := m.entryOffset
      ax := m.stackSegment
      ss := m.stackSegment
      sp := m.stackOffset
      flags := c.flags &&& ~~~ flagIf } := by
  have hoff : (c.flags &&& ~~~ flagIf) &&& flagIf = 0 := by
    rw [UInt16.and_assoc, show ~~~ flagIf &&& flagIf = 0 by decide, UInt16.and_zero]
  rw [buildResetHandoff_stack h] at hstart
  refine hstart.next (decode_cli (hstart.code_eq (by decide))) (by decide) rfl rfl rfl rfl hoff
    fun h₁ => ?_
  refine h₁.next (decode_movAx (h₁.code_eq (by decide)) (h₁.code_eq (by decide))
    (h₁.code_eq (by decide))) (by decide) rfl rfl rfl rfl hoff fun h₂ => ?_
  refine h₂.next (decode_movSs (h₂.code_eq (by decide)) (h₂.code_eq (by decide))) (by decide) rfl
    rfl rfl rfl hoff fun h₃ => ?_
  refine h₃.next (decode_movSp (h₃.code_eq (by decide)) (h₃.code_eq (by decide))
    (h₃.code_eq (by decide))) (by decide) rfl rfl rfl rfl hoff fun h₄ => ?_
  exact h₄.jump (show 9 + 5 ≤ resetHandoffSize by decide)

/-! ### The firmware's part -/

/-- The builder never fails, and what it lays out fits. -/
theorem buildResetHandoff_fits (m : Manifest) :
    (buildResetHandoff m).1 = true ∧ (buildResetHandoff m).2.length = resetHandoffSize := by
  by_cases h : m.stackSegment ≠ 0 ∨ m.stackOffset ≠ 0
  · rw [buildResetHandoff_stack h]
    exact ⟨rfl, rfl⟩
  · rw [buildResetHandoff_noStack h]
    exact ⟨rfl, rfl⟩

/-- The processor memory of the executor over Internal SRAM answers with the reset code. -/
theorem memoryRead8_resetHandoff {backing : Backing} (hgeometry : backing.IsInternalSram)
    (ram : ByteMap) (code : List UInt8) {i : ℕ} (hi : i < resetHandoffSize) :
    memoryRead8 backing.processorMemory ram code (resetHandoffBase + UInt32.ofNat i)
      = some (code.getD i 0) := by
  have hplace : ∀ i < resetHandoffSize,
      rangeContains internalSramProcessorBase internalSramProcessorSize
          (resetHandoffBase + UInt32.ofNat i) = false ∧
        rangeContains resetHandoffBase (UInt32.ofNat resetHandoffSize)
          (resetHandoffBase + UInt32.ofNat i) = true ∧
        (resetHandoffBase + UInt32.ofNat i - resetHandoffBase).toNat = i := by
    decide
  obtain ⟨hram, hrom, hoffset⟩ := hplace i hi
  have hbase : backing.processorBase = internalSramProcessorBase := hgeometry.processorBase
  have hsize : backing.size = internalSramProcessorSize := hgeometry.size
  unfold memoryRead8 Backing.processorMemory
  simp only [hbase, hsize, hram, hrom, hoffset, Bool.false_eq_true, ↓reduceIte]

/-- The entry point of an accepted manifest lies in its image, in any backing. -/
theorem entry_of_manifestValid {backing : Backing} (h : manifestValid m backing = true) :
    m.loadAddress.toNat ≤ linear m.entrySegment m.entryOffset ∧
      linear m.entrySegment m.entryOffset < m.loadAddress.toNat + m.imageSize.toNat := by
  have hfits := (imageFits_of_manifestValid h).fits
  unfold manifestValid at h
  obtain ⟨-, h⟩ := check_passed h
  obtain ⟨himage, h⟩ := check_passed h
  obtain ⟨-, h⟩ := check_passed h
  obtain ⟨hentry, -⟩ := check_passed h
  simp only [not_or] at himage
  have hend := toNat_add_of_not_lt himage.2.1
  rw [not_or, UInt32.not_lt, UInt32.le_iff_toNat_le, ge_iff_le, UInt32.not_le,
    UInt32.lt_iff_toNat_lt, toNat_linearAddress, hend] at hentry
  unfold linear
  omega

/-- **The reset handoff reaches the image.**  For every accepted manifest the builder returns true
and fills exactly its 16 bytes, which the executor's memory over Internal SRAM answers with at
`FFFF0h`; a processor at `FFFF:0000` with interrupts off that fetches these bytes at `FFFF0h`
executes nothing but them, touches no stack, and arrives at the entry point inside the image, on the
manifest's stack if the manifest requests one. -/
theorem reset_handoff_reaches_entry {backing : Backing} (hvalid : manifestValid m backing = true)
    (hcs : c.cs = 0xFFFF) (hip : c.ip = 0) (hif : c.flags &&& flagIf = 0)
    (hfetch : ∀ i < resetHandoffSize,
      c.memory (resetHandoffBase.toNat + i) = (buildResetHandoff m).2.getD i 0) :
    (buildResetHandoff m).1 = true ∧ (buildResetHandoff m).2.length = resetHandoffSize ∧
      (SameGeometry internalSramBackingInit backing → ∀ ram, ∀ i < resetHandoffSize,
        memoryRead8 backing.processorMemory ram (buildResetHandoff m).2
          (resetHandoffBase + UInt32.ofNat i) = some ((buildResetHandoff m).2.getD i 0)) ∧
      ∃ c', QuietRun c c' ∧ c'.cs = m.entrySegment ∧ c'.ip = m.entryOffset ∧
        m.loadAddress.toNat ≤ linear c'.cs c'.ip ∧
        linear c'.cs c'.ip < m.loadAddress.toNat + m.imageSize.toNat ∧
        (¬ (m.stackSegment = 0 ∧ m.stackOffset = 0) →
          c'.ss = m.stackSegment ∧ c'.sp = m.stackOffset) := by
  obtain ⟨hbuilt, hlength⟩ := buildResetHandoff_fits m
  obtain ⟨hlow, hhigh⟩ := entry_of_manifestValid hvalid
  have hstart : InHandoff (buildResetHandoff m).2 0 c := ⟨hcs, hip, hfetch, hif⟩
  refine ⟨hbuilt, hlength, fun hgeometry ram i hi =>
    memoryRead8_resetHandoff hgeometry ram _ hi, ?_⟩
  by_cases h : m.stackSegment ≠ 0 ∨ m.stackOffset ≠ 0
  · exact ⟨_, quietRun_stack h hstart, rfl, rfl, hlow, hhigh, fun _ => ⟨rfl, rfl⟩⟩
  · have hnone : m.stackSegment = 0 ∧ m.stackOffset = 0 := by
      simpa only [not_or, not_not] using h
    rw [buildResetHandoff_noStack h] at hstart
    have hrun := @InHandoff.jump m c [] _ hstart (by decide)
    exact ⟨_, hrun, rfl, rfl, hlow, hhigh, fun hstack => absurd hnone hstack⟩

/-- The processor at its reset, over the memory that the executor sets up for a manifest. -/
def resetCpu (m : Manifest) : Cpu where
  ax := 0
  bx := 0
  cx := 0
  dx := 0
  si := 0
  di := 0
  bp := 0
  sp := 0
  ip := 0
  cs := 0xFFFF
  ds := 0
  es := 0
  ss := 0
  flags := 0
  memory := fun address => (memoryRead8 internalSramBackingInit.processorMemory
    internalSramBackingInit.storage (buildResetHandoff m).2 (UInt32.ofNat address)).getD 0
  out := []

theorem reset_handoff_reaches_entry_stack :
    manifestValid (stackManifest 0x3000 0xEFFE) internalSramBackingInit = true ∧
      ∃ c', QuietRun (resetCpu (stackManifest 0x3000 0xEFFE)) c' ∧ c'.cs = 0 ∧ c'.ip = 0 ∧
        c'.ss = 0x3000 ∧ c'.sp = 0xEFFE := by
  have hvalid : manifestValid (stackManifest 0x3000 0xEFFE) internalSramBackingInit = true := by
    decide
  have hfetch : ∀ i < resetHandoffSize,
      (resetCpu (stackManifest 0x3000 0xEFFE)).memory (resetHandoffBase.toNat + i)
        = (buildResetHandoff (stackManifest 0x3000 0xEFFE)).2.getD i 0 := by
    intro i hi
    have hread := memoryRead8_resetHandoff (.refl _) internalSramBackingInit.storage
      (buildResetHandoff (stackManifest 0x3000 0xEFFE)).2 hi
    have haddress : UInt32.ofNat (resetHandoffBase.toNat + i)
        = resetHandoffBase + UInt32.ofNat i := by
      rw [UInt32.ofNat_add, UInt32.ofNat_toNat]
    show (memoryRead8 _ _ _ (UInt32.ofNat (resetHandoffBase.toNat + i))).getD 0 = _
    rw [haddress, hread, Option.getD_some]
  obtain ⟨-, -, -, c', hrun, hcs, hip, -, -, hstack⟩ :=
    reset_handoff_reaches_entry hvalid rfl rfl rfl hfetch
  exact ⟨hvalid, c', hrun, hcs, hip, hstack (by decide)⟩

end

end Rp86.Processor
