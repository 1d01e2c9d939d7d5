import Rp86.Lab.Machine
import Rp86.Lib.Raise
import Rp86.Processor.Cpu

/-!
# Interrupts injected by the lab

`inject_real_mode_interrupt` writes the interrupt frame as one linear block, where an 8086 pushes
three words whose offsets wrap in the stack segment.  The two agree, and `IRET` undoes the entry,
exactly if neither the segment nor the 1 MiB address space ends inside the frame
(`injectRealModeInterrupt_iff`).
-/

namespace Rp86.Processor.Cpu

open Lib

/-- Whatever the stack pointer, `iret` undoes an interrupt entry. -/
theorem iret_interruptEntry (c : Cpu) (vector : ℕ) :
    (c.interruptEntry vector).iret = { c with memory := c.interrupt.memory } := by
  -- the three words on the stack, from the last one pushed
  have hflags := readWords_writeWord_below c.flags
    (rfl : readWords c.memory c.ss c.sp 0 = []) (by omega)
  have hcs := readWords_writeWord_below c.cs hflags (by omega)
  have hip := readWords_writeWord_below c.ip hcs (by omega)
  simp only [readWords, List.cons.injEq, and_true] at hip
  obtain ⟨hip, hcs, hflags⟩ := hip
  have hsp : c.sp - 2 - 2 - 2 + 2 + 2 + 2 = c.sp := by
    rw [UInt16.sub_add_cancel, UInt16.sub_add_cancel, UInt16.sub_add_cancel]
  simp only [interruptEntry, iret, top, word, interrupt, push]
  rw [hsp, hip, hcs, hflags]

end Rp86.Processor.Cpu

namespace Rp86.Lab

open Lib Processor

variable {m m' : Ia16Machine} {vector : ℤ}

/-- The machine as an 8086 sees itself: `FLAGS` is the low half of `EFLAGS`. -/
def Ia16Machine.cpu (m : Ia16Machine) : Cpu where
  ax := m.registers.ax
  bx := m.registers.bx
  cx := m.registers.cx
  dx := m.registers.dx
  si := m.registers.si
  di := m.registers.di
  bp := m.registers.bp
  sp := m.registers.sp
  ip := m.registers.ip
  cs := m.registers.cs
  ds := m.registers.ds
  es := m.registers.es
  ss := m.registers.ss
  flags := m.registers.flags.toUInt16
  memory := m.memory
  out := []

/-- The linear address of the interrupt frame, before any wrap. -/
def Ia16Machine.stack (m : Ia16Machine) : ℕ :=
  m.registers.ss.toNat * 16 + (m.registers.sp - 6).toNat

/-- The interrupt frame, lowest byte first. -/
def Ia16Machine.frame (m : Ia16Machine) : List UInt8 :=
  leBytes 2 m.registers.ip.toNat ++ leBytes 2 m.registers.cs.toNat
    ++ leBytes 2 (m.registers.flags &&& 0xFFFF).toNat

def Ia16Machine.injected (m : Ia16Machine) (vector : ℕ) : Ia16Machine :=
  let memory := writeBytes m.memory m.stack m.frame
  { m with
    memory := memory
    registers := { m.registers with
      sp := m.registers.sp - 6
      flags := m.registers.flags &&& ~~~(0x0200 ||| 0x0100)
      cs := le16 (readBytes memory (vector * 4) 4) 2
      ip := le16 (readBytes memory (vector * 4) 4) 0 } }

/-- What an injection needs in order not to raise. -/
def Ia16Machine.Injectable (m : Ia16Machine) (vector : ℤ) : Prop :=
  m.workload = true ∧ (0 ≤ vector ∧ vector ≤ 0xFF) ∧ m.stack < 2 ^ 20 ∧ m.stack + 6 ≤ m.memorySize

theorem linearAddress_eq_ok {segment offset : UInt16} {a : ℕ} :
    linearAddress segment.toNat offset.toNat = .ok a ↔
      segment.toNat * 16 + offset.toNat < 2 ^ 20 ∧ a = segment.toNat * 16 + offset.toNat := by
  have ho := offset.toNat_lt
  have hshift : segment.toNat <<< 4 = segment.toNat * 16 := Nat.shiftLeft_eq _ _
  unfold linearAddress
  rw [check_eq_ok, check_eq_ok, hshift]
  constructor
  · rintro ⟨-, hlt, h⟩
    exact ⟨by omega, (Except.ok.inj h).symm⟩
  · rintro ⟨hlt, rfl⟩
    exact ⟨by omega, by omega, rfl⟩

/-- An injection raises, or gives `injected`. -/
theorem injectRealModeInterrupt_eq_ok :
    m.injectRealModeInterrupt vector = .ok m' ↔
      m.Injectable vector ∧ m' = m.injected vector.toNat := by
  unfold Ia16Machine.injectRealModeInterrupt Ia16Machine.Injectable
  rw [check_eq_ok, check_eq_ok, bind_eq_ok]
  constructor
  · rintro ⟨hworkload, hvector, stack, hstack, h⟩
    rw [linearAddress_eq_ok] at hstack
    obtain ⟨hlt, rfl⟩ := hstack
    rw [check_eq_ok] at h
    obtain ⟨hsize, h⟩ := h
    refine ⟨⟨by simpa using hworkload, by omega, hlt, Nat.le_of_not_gt hsize⟩, ?_⟩
    exact (Except.ok.inj h).symm
  · rintro ⟨⟨hworkload, hvector, hlt, hsize⟩, rfl⟩
    refine ⟨by simpa using hworkload, by omega, m.stack, linearAddress_eq_ok.mpr ⟨hlt, rfl⟩, ?_⟩
    rw [check_eq_ok]
    exact ⟨Nat.not_lt_of_le hsize, rfl⟩

/-! ### The registers -/

theorem toNat_and_word (flags : UInt32) : (flags &&& 0xFFFF).toNat = flags.toUInt16.toNat := by
  rw [UInt32.toNat_and, UInt32.toNat_toUInt16]
  exact Nat.and_two_pow_sub_one_eq_mod flags.toNat 16

theorem toUInt16_clear_if_tf (flags : UInt32) :
    (flags &&& ~~~(0x0200 ||| 0x0100)).toUInt16 = flags.toUInt16 &&& ~~~(flagIf ||| flagTf) := by
  rw [UInt32.toUInt16_and]
  rfl

/-- The entry of the vector table that the machine reads is the one that the 8086 reads. -/
theorem le16_vector (memory : ByteMap) {vector : ℕ} (hvector : vector < 256) :
    le16 (readBytes memory (vector * 4) 4) 0 = readWord memory 0 (.ofNat (vector * 4)) ∧
    le16 (readBytes memory (vector * 4) 4) 2 = readWord memory 0 (.ofNat (vector * 4 + 2)) := by
  have hlinear : ∀ n < 1024, linear 0 (.ofNat n) = n := by
    intro n hn
    unfold linear
    rw [UInt16.toNat_ofNat', Nat.mod_eq_of_lt (by omega : n < 2 ^ 16)]
    show (0 * 16 + n) % 2 ^ 20 = n
    omega
  have hsucc : ∀ n < 1023, linear 0 (.ofNat n + 1) = linear 0 (.ofNat n) + 1 := by
    intro n hn
    rw [hlinear n (by omega), ← hlinear (n + 1) (by omega), UInt16.ofNat_add]
    rfl
  have hraw : readBytes memory (vector * 4) 4
      = readBytes memory (vector * 4) 2 ++ readBytes memory (vector * 4 + 2) 2 :=
    readBytes_add memory _ 2 2
  rw [readWord_eq_le16 (hsucc _ (by omega)), readWord_eq_le16 (hsucc _ (by omega)),
    hlinear _ (by omega), hlinear _ (by omega), hraw]
  exact ⟨rfl, rfl⟩

/-- The injection can differ from the entry of the 8086 only in the memory under the frame. -/
theorem cpu_injected_iff {vector : ℕ} (hvector : vector < 256) :
    (m.injected vector).cpu = m.cpu.interruptEntry vector ↔
      writeBytes m.memory m.stack m.frame = m.cpu.interrupt.memory := by
  constructor
  · intro h
    exact congrArg Cpu.memory h
  · intro h
    obtain ⟨hip, hcs⟩ := le16_vector (writeBytes m.memory m.stack m.frame) hvector
    have hsp : m.registers.sp - 2 - 2 - 2 = m.registers.sp - 6 := by grind
    simp only [Ia16Machine.cpu, Ia16Machine.injected, Cpu.interruptEntry, Cpu.word] at h ⊢
    rw [hip, hcs, toUInt16_clear_if_tf, h]
    simp only [Cpu.interrupt, Cpu.push]
    rw [hsp]

/-! ### The frame -/

theorem frame_eq :
    m.frame = leBytes 2 m.registers.ip.toNat
      ++ (leBytes 2 m.registers.cs.toNat ++ leBytes 2 m.registers.flags.toUInt16.toNat) := by
  unfold Ia16Machine.frame
  rw [toNat_and_word, List.append_assoc]

/-- The three pushes of an interrupt, in terms of where the frame ends up. -/
theorem interrupt_memory :
    m.cpu.interrupt.memory =
      writeWord (writeWord (writeWord m.memory m.registers.ss (m.registers.sp - 6 + 4)
        m.registers.flags.toUInt16) m.registers.ss (m.registers.sp - 6 + 2) m.registers.cs)
        m.registers.ss (m.registers.sp - 6) m.registers.ip := by
  have h4 : m.registers.sp - 6 + 4 = m.registers.sp - 2 := by grind
  have h2 : m.registers.sp - 6 + 2 = m.registers.sp - 2 - 2 := by grind
  have h0 : m.registers.sp - 6 = m.registers.sp - 2 - 2 - 2 := by grind
  rw [h4, h2, h0]
  rfl

theorem linear_stack (hstack : m.stack < 2 ^ 20) :
    linear m.registers.ss (m.registers.sp - 6) = m.stack :=
  Nat.mod_eq_of_lt hstack

/-- A frame that neither the segment nor the address space ends inside is one linear block. -/
theorem writeBytes_frame (hsp : m.registers.sp = 0 ∨ 6 ≤ m.registers.sp)
    (hstack : m.stack + 6 ≤ 2 ^ 20) :
    writeBytes m.memory m.stack m.frame = m.cpu.interrupt.memory := by
  have hoffset : (m.registers.sp - 6).toNat + 6 ≤ 65536 := by
    have h6 : (6 : UInt16).toNat = 6 := rfl
    have hlt := m.registers.sp.toNat_lt
    rw [UInt16.toNat_sub]
    rcases hsp with hsp | hsp
    · rw [hsp]
      decide
    · have := UInt16.le_iff_toNat_le.mp hsp
      omega
  have hbase := linear_stack (m := m) (by omega)
  have hlinear : ∀ k : UInt16, k.toNat < 6 →
      linear m.registers.ss (m.registers.sp - 6 + k) = m.stack + k.toNat := by
    intro k hk
    rw [linear_add (by omega) (by omega), hbase]
  have h1 : linear m.registers.ss (m.registers.sp - 6 + 1) = m.stack + 1 := hlinear 1 (by decide)
  have h2 : linear m.registers.ss (m.registers.sp - 6 + 2) = m.stack + 2 := hlinear 2 (by decide)
  have h3 : linear m.registers.ss (m.registers.sp - 6 + 2 + 1) = m.stack + 3 := by
    rw [UInt16.add_assoc]
    exact hlinear 3 (by decide)
  have h4 : linear m.registers.ss (m.registers.sp - 6 + 4) = m.stack + 4 := hlinear 4 (by decide)
  have h5 : linear m.registers.ss (m.registers.sp - 6 + 4 + 1) = m.stack + 5 := by
    rw [UInt16.add_assoc]
    exact hlinear 5 (by decide)
  rw [interrupt_memory, writeWord_eq_writeBytes _ (by rw [h1, hbase]),
    writeWord_eq_writeBytes _ (by rw [h3, h2]), writeWord_eq_writeBytes _ (by rw [h5, h4]),
    h4, h2, hbase, frame_eq]
  -- the pushes fill the block from its top
  rw [← writeBytes_writeBytes_below, length_leBytes, ← writeBytes_writeBytes_below, length_leBytes]

/-- The high byte of `FLAGS` is stored just under the initial top of the stack. -/
theorem interrupt_memory_flags :
    m.cpu.interrupt.memory (linear m.registers.ss (m.registers.sp - 1))
      = (m.registers.flags.toUInt16 >>> 8).toUInt8 := by
  have hne : ∀ k : UInt16, k.toNat < 5 → m.registers.sp - 1 ≠ m.registers.sp - 6 + k := by
    intro k hk h
    have h1 : (1 : UInt16).toNat = 1 := rfl
    have h6 : (6 : UInt16).toNat = 6 := rfl
    have := congrArg UInt16.toNat h
    rw [UInt16.toNat_sub, UInt16.toNat_add, UInt16.toNat_sub] at this
    omega
  have hzero : m.registers.sp - 6 = m.registers.sp - 6 + 0 := (UInt16.add_zero _).symm
  have hthree : m.registers.sp - 6 + 2 + 1 = m.registers.sp - 6 + 3 := UInt16.add_assoc _ _ _
  have hfive : m.registers.sp - 1 = m.registers.sp - 6 + 4 + 1 := by grind
  rw [interrupt_memory,
    writeWord_of_ne (by rw [hzero]; exact hne 0 (by decide)) (hne 1 (by decide)),
    writeWord_of_ne (hne 2 (by decide)) (by rw [hthree]; exact hne 3 (by decide)), hfive]
  exact if_pos rfl

/-- Otherwise some memory shows the difference: the 8086 stores the high byte of `FLAGS` at the
start of the segment or of the address space, and the machine stores it past the end. -/
theorem exists_writeBytes_frame_ne (hstack : m.stack < 2 ^ 20)
    (h : ¬ ((m.registers.sp = 0 ∨ 6 ≤ m.registers.sp) ∧ m.stack + 6 ≤ 2 ^ 20)) :
    ∃ memory, writeBytes memory m.stack m.frame
      ≠ ({ m with memory := memory } : Ia16Machine).cpu.interrupt.memory := by
  set high := (m.registers.flags.toUInt16 >>> 8).toUInt8 with hhigh
  have hne : high + 1 ≠ high := by
    intro h
    have h1 : (1 : UInt8).toNat = 1 := rfl
    have := congrArg UInt8.toNat h
    rw [UInt8.toNat_add] at this
    omega
  have hlength : m.frame.length = 6 := by
    rw [frame_eq]
    simp
  refine ⟨fun _ => high + 1, fun heq => ?_⟩
  by_cases hend : m.stack + 6 ≤ 2 ^ 20
  · -- the stack pointer wraps inside the frame
    have hsp : m.registers.sp ≠ 0 ∧ ¬ 6 ≤ m.registers.sp := not_or.mp fun hsp => h ⟨hsp, hend⟩
    have hpos : m.registers.sp.toNat ≠ 0 := fun h0 => hsp.1 (UInt16.toNat_inj.mp h0)
    have hlt : m.registers.sp.toNat < 6 :=
      Nat.lt_of_not_le fun hle => hsp.2 (UInt16.le_iff_toNat_le.mpr hle)
    have hbyte := congrFun heq (linear m.registers.ss (m.registers.sp - 1))
    rw [interrupt_memory_flags, writeBytes_of_not_mem] at hbyte
    · exact hne hbyte
    · have h1 : (1 : UInt16).toNat = 1 := rfl
      have h6 : (6 : UInt16).toNat = 6 := rfl
      unfold Ia16Machine.stack linear
      rw [UInt16.toNat_sub, UInt16.toNat_sub]
      omega
  · -- the address space ends inside the frame
    have hbyte := congrFun heq (m.stack + 5)
    rw [interrupt_memory, writeWord_of_le (by omega), writeWord_of_le (by omega),
      writeWord_of_le (by omega), writeBytes_of_mem (by omega) (by omega), frame_eq, leBytes_two,
      leBytes_two, leBytes_two, Nat.add_sub_cancel_left] at hbyte
    exact hne hbyte.symm

/-! ### Injection and the 8086 -/

/-- **An injected interrupt is an 8086 interrupt exactly if neither the stack segment nor the
address space ends inside its frame.**  The registers and the vector are such that the injection
does not raise; whatever the memory holds, its result is the interrupt entry of the 8086 and `IRET`
gives `CS:IP`, `FLAGS` and `SP` back, exactly if the stack pointer is zero or at least six and the
frame ends at or below 1 MiB. -/
theorem injectRealModeInterrupt_iff (m : Ia16Machine) (vector : ℤ)
    (hok : ∃ m', m.injectRealModeInterrupt vector = .ok m') :
    (∀ memory m', ({ m with memory := memory } : Ia16Machine).injectRealModeInterrupt vector
        = .ok m' →
      m'.cpu = ({ m with memory := memory } : Ia16Machine).cpu.interruptEntry vector.toNat ∧
      m'.cpu.iret.cs = m.registers.cs ∧ m'.cpu.iret.ip = m.registers.ip ∧
      m'.cpu.iret.flags = m.registers.flags.toUInt16 ∧ m'.cpu.iret.sp = m.registers.sp) ↔
    (m.registers.sp = 0 ∨ 6 ≤ m.registers.sp) ∧
      m.registers.ss.toNat * 16 + (m.registers.sp - 6).toNat + 6 ≤ 2 ^ 20 := by
  obtain ⟨m₀, hm₀⟩ := hok
  obtain ⟨hinject, -⟩ := injectRealModeInterrupt_eq_ok.mp hm₀
  have hvector : vector.toNat < 256 := by
    have := hinject.2.1
    omega
  constructor
  · intro h
    by_contra hfits
    obtain ⟨memory, hne⟩ := exists_writeBytes_frame_ne hinject.2.2.1 hfits
    have hentry := (h memory _ (injectRealModeInterrupt_eq_ok.mpr ⟨hinject, rfl⟩)).1
    exact hne ((cpu_injected_iff hvector).mp hentry)
  · rintro ⟨hsp, hstack⟩ memory m' hm'
    obtain ⟨-, rfl⟩ := injectRealModeInterrupt_eq_ok.mp hm'
    have hentry := (cpu_injected_iff hvector).mpr
      (writeBytes_frame (m := { m with memory := memory }) hsp hstack)
    refine ⟨hentry, ?_⟩
    rw [hentry, Cpu.iret_interruptEntry]
    exact ⟨rfl, rfl, rfl, rfl⟩

/-- A machine of the default size with a clear memory, a given stack and interrupts enabled. -/
def stackFixture (ss sp : UInt16) : Ia16Machine where
  registers :=
    { ax := 0, bx := 0, cx := 0, dx := 0, si := 0, di := 0, bp := 0, sp := sp, cs := 0x0800
      ds := 0, es := 0, ss := ss, ip := 0x0100, flags := 0x0202 }
  memory := fun _ => 0
  memorySize := 0x40000
  workload := true
  memorySize_pos := by decide
  memorySize_pages := by decide

/-- An interrupt injected with the stack pointer at 0x0100. -/
theorem injectRealModeInterrupt_iff_inside :
    (∃ m', (stackFixture 0x1000 0x0100).injectRealModeInterrupt 8 = .ok m') ∧
    ∀ memory m', ({ stackFixture 0x1000 0x0100 with memory := memory } :
        Ia16Machine).injectRealModeInterrupt 8 = .ok m' →
      m'.cpu = ({ stackFixture 0x1000 0x0100 with memory := memory } :
        Ia16Machine).cpu.interruptEntry 8 ∧
      m'.cpu.iret.cs = 0x0800 ∧ m'.cpu.iret.ip = 0x0100 ∧
      m'.cpu.iret.flags = 0x0202 ∧ m'.cpu.iret.sp = 0x0100 := by
  have hinjects : ∃ m', (stackFixture 0x1000 0x0100).injectRealModeInterrupt 8 = .ok m' :=
    ⟨_, injectRealModeInterrupt_eq_ok.mpr ⟨by unfold Ia16Machine.Injectable; decide, rfl⟩⟩
  exact ⟨hinjects, (injectRealModeInterrupt_iff (stackFixture 0x1000 0x0100) 8 hinjects).mpr
    (by decide)⟩

/-- With the stack pointer at 2, the 8086 pushes `FLAGS` at the start of the segment and the machine
writes them past its end: the memories differ, and `IRET` loads `FLAGS` from a word that the machine
did not write. -/
theorem injectRealModeInterrupt_wraps :
    ∃ m', (stackFixture 0x1000 2).injectRealModeInterrupt 8 = .ok m' ∧
      m'.cpu ≠ (stackFixture 0x1000 2).cpu.interruptEntry 8 ∧
      (stackFixture 0x1000 2).cpu.flags = 0x0202 ∧ m'.cpu.iret.flags = 0 := by
  refine ⟨_, injectRealModeInterrupt_eq_ok.mpr
    ⟨by unfold Ia16Machine.Injectable; decide, rfl⟩, ?_, rfl, by decide⟩
  intro h
  have hbyte : ((stackFixture 0x1000 2).injected 8).cpu.memory 0x10000
      = ((stackFixture 0x1000 2).cpu.interruptEntry 8).memory 0x10000 :=
    congrFun (congrArg Cpu.memory h) 0x10000
  revert hbyte
  decide

end Rp86.Lab
