import Rp86.Processor.Scheduling

/-!
# Saved frames

A suspended task's stack holds its twelve saved words from its saved stack pointer up.  The same
frame is laid out by three pieces of code: the interrupt entry with `RP86_SAVE_CONTEXT`, the C
function `pxPortInitialiseStack`, and, read the other way, the restore path.  The first two are
stores down the stack (`storeDown_words`), and whatever the restore path does between its last `pop`
and `iret` is transparent to the task it restores (`restore_transparent`), so it leaves exactly the
saved registers (`iret_popContext`).
-/

namespace Rp86.Processor

open Lib

variable {τ : Type*}

/-! ### Stores down a stack -/

section StoreDown

variable {segment top : UInt16} {m : ByteMap} {w : UInt16} {ws : List UInt16}

theorem storeDown_cons_cons (v : UInt16) :
    storeDown segment top (w :: v :: ws) m
      = storeDown segment (top - 2) (v :: ws) (writeWord m segment top w) := rfl

/-- The words stored are a run upwards from the final pointer, the last one first, and continue into
what was above. -/
theorem storeDown_words {above : List UInt16} {n : ℕ}
    (h : readWords m segment (top + 2) n = above) (hn : 2 * (n + ws.length + 1) ≤ 65536) :
    readWords (storeDown segment top (w :: ws) m).2 segment (storeDown segment top (w :: ws) m).1
      (n + ws.length + 1) = (w :: ws).reverse ++ above := by
  induction ws generalizing w top m above n with
  | nil =>
    have hbelow := readWords_writeWord_below w h (by simp only [List.length_nil] at hn; omega)
    rw [UInt16.add_sub_cancel] at hbelow
    exact hbelow
  | cons v ws ih =>
    rw [storeDown_cons_cons]
    have hbelow := readWords_writeWord_below w h (by simp only [List.length_cons] at hn; omega)
    rw [UInt16.add_sub_cancel] at hbelow
    rw [← UInt16.sub_add_cancel top 2] at hbelow
    have hrest := @ih (top - 2) (writeWord m segment (top - 2 + 2) w) v (w :: above) (n + 1) hbelow
      (by simp only [List.length_cons] at hn; omega)
    rw [UInt16.sub_add_cancel] at hrest
    rw [List.length_cons, show n + (ws.length + 1) + 1 = n + 1 + ws.length + 1 by omega, hrest]
    simp

theorem storeDown_fst_toNat (h : 2 * ws.length ≤ top.toNat) :
    (storeDown segment top (w :: ws) m).1.toNat = top.toNat - 2 * ws.length := by
  induction ws generalizing w top m with
  | nil => rfl
  | cons v ws ih =>
    rw [List.length_cons] at h
    have htop : (top - 2).toNat = top.toNat - 2 := by
      have h2 : (2 : UInt16).toNat = 2 := rfl
      have := top.toNat_lt
      rw [UInt16.toNat_sub]
      omega
    rw [storeDown_cons_cons, ih (by omega), htop, List.length_cons]
    omega

/-- Nothing but the words stored changes. -/
theorem storeDown_byte {a : UInt16} (h : 2 * ws.length ≤ top.toNat) (hlt : top.toNat < 65535)
    (ha : a.toNat + 2 * ws.length < top.toNat ∨ top.toNat + 2 ≤ a.toNat) :
    (storeDown segment top (w :: ws) m).2 (linear segment a) = m (linear segment a) := by
  have h1 : (1 : UInt16).toNat = 1 := rfl
  have h2 : (2 : UInt16).toNat = 2 := rfl
  have hwrite : writeWord m segment top w (linear segment a) = m (linear segment a) := by
    refine writeWord_of_ne ?_ ?_
    · rintro rfl
      omega
    · rintro rfl
      rw [UInt16.toNat_add] at ha
      omega
  induction ws generalizing w top m with
  | nil => exact hwrite
  | cons v ws ih =>
    rw [List.length_cons] at h ha
    have htop : (top - 2).toNat = top.toNat - 2 := by
      rw [UInt16.toNat_sub]
      omega
    rw [storeDown_cons_cons, ih (by omega) (by omega) (by omega) ?_, hwrite]
    refine writeWord_of_ne ?_ ?_
    · rintro rfl
      omega
    · rintro rfl
      rw [UInt16.toNat_add] at ha
      omega

end StoreDown

/-! ### Frames -/

/-- The twelve words of a saved frame, from the saved stack pointer up. -/
def Registers.frame (r : Registers) : List UInt16 :=
  [r.bp, r.di, r.si, r.ds, r.es, r.dx, r.cx, r.bx, r.ax, r.ip, r.cs, r.flags]

variable (L : Layout τ)

/-- The frame at `f` on task `t`'s stack saves `r`. -/
structure FrameAt (t : τ) (m : ByteMap) (f : UInt16) (r : Registers) : Prop where
  words : readWords m L.dgroup f 12 = r.frame
  sp : r.sp.toNat = f.toNat + 24
  ss : r.ss = L.dgroup
  ds : r.ds = L.dgroup
  room : L.stackBase t + L.depth ≤ r.sp.toNat
  le_end : r.sp.toNat ≤ L.stackEnd t

/-- The frame at `f` saves what `t` must find. -/
def Ready (t : τ) (m : ByteMap) (f : UInt16) (p : Suspended) : Prop :=
  ∃ r, FrameAt L t m f r ∧ p.Restored L t r m

/-- The saved stack pointer in `t`'s TCB is that of a frame that saves what `t` must find. -/
def Parked (t : τ) (m : ByteMap) (p : Suspended) : Prop :=
  Ready L t m (readWord m L.dgroup (L.tcb t)) p

variable {L} {t : τ} {m m' : ByteMap} {f : UInt16} {r : Registers} {p : Suspended}

theorem Suspended.Restored.congr (hss : r.ss = L.dgroup) (hp : p.Restored L t r m)
    (h : ∀ a : UInt16, r.sp.toNat ≤ a.toNat → a.toNat < L.stackEnd t →
      L.byte m' a = L.byte m a) : p.Restored L t r m' := by
  cases p with
  | created pxCode pvParameters codeSegment dataSegment =>
    obtain ⟨hip, hcs, hds, hes, hif, hend, hret, hparam⟩ := hp
    have h1 : (1 : UInt16).toNat = 1 := rfl
    have h2 : (2 : UInt16).toNat = 2 := rfl
    have hle := L.stackEnd_le t
    rw [hss] at hret hparam
    refine ⟨hip, hcs, hds, hes, hif, hend, ?_, ?_⟩
    · rw [← hret, hss]
      refine readWord_congr (h _ (by omega) (by omega)) (h _ ?_ ?_) <;>
        · rw [UInt16.toNat_add]
          omega
    · rw [← hparam, hss]
      refine readWord_congr (h _ ?_ ?_) (h _ ?_ ?_) <;>
        · simp only [UInt16.toNat_add]
          omega
  | interrupted registers stack =>
    obtain ⟨hr, hstack⟩ := hp
    refine ⟨hr, fun a ha hend => ?_⟩
    rw [h a ha hend, hstack a ha hend]

/-- A frame depends only on the stack from its pointer up. -/
theorem Ready.congr (h : Ready L t m f p)
    (hm : ∀ a, L.region a = .stack t → f.toNat ≤ a.toNat → L.byte m' a = L.byte m a) :
    Ready L t m' f p := by
  obtain ⟨r, hr, hp⟩ := h
  have hdepth := L.depth_le
  have hle := L.stackEnd_le t
  have hsp := hr.sp
  have hroom := hr.room
  have hend := hr.le_end
  have hsame : ∀ a : UInt16, f.toNat ≤ a.toNat → a.toNat < L.stackEnd t →
      L.byte m' a = L.byte m a := fun a hfa ha =>
    hm a ((L.region_stack t a).mpr ⟨by omega, ha⟩) hfa
  refine ⟨r, ⟨?_, hr.sp, hr.ss, hr.ds, hr.room, hr.le_end⟩,
    hp.congr hr.ss fun a ha hlt => hsame a (by omega) hlt⟩
  rw [← hr.words]
  refine readWords_congr 12 fun b hb => hsame b ?_ ?_ <;>
    · have := b.toNat_lt
      have := f.toNat_lt
      rw [UInt16.toNat_sub] at hb
      omega

theorem Parked.congr (h : Parked L t m p)
    (htcb : ∀ a, L.region a = .tcb t → L.byte m' a = L.byte m a)
    (hm : ∀ a, L.region a = .stack t → (readWord m L.dgroup (L.tcb t)).toNat ≤ a.toNat →
      L.byte m' a = L.byte m a) : Parked L t m' p := by
  obtain ⟨hlo, hhi⟩ := L.region_tcb t
  unfold Parked at h ⊢
  rw [readWord_congr (htcb _ hlo) (htcb _ hhi)]
  exact h.congr hm

/-! ### Transparent code -/

variable (L) in
/-- `c'` has the registers of `c`, and its memory but for the trace words and the four bytes below
the stack pointer. -/
structure Transparent (c c' : Cpu) : Prop where
  registers : c'.toRegisters = c.toRegisters
  memory : ∀ a, L.region a ≠ .trace → (a.toNat < c.sp.toNat → a.toNat + 4 < c.sp.toNat) →
    L.byte c'.memory a = L.byte c.memory a

variable {c c' c'' : Cpu}

theorem Transparent.refl (c : Cpu) : Transparent L c c := ⟨rfl, fun _ _ _ => rfl⟩

theorem Transparent.trans (h : Transparent L c c') (h' : Transparent L c' c'') :
    Transparent L c c'' := by
  refine ⟨h'.registers.trans h.registers, fun a ha hsp => ?_⟩
  have hsp' : c'.sp = c.sp := congrArg Registers.sp h.registers
  rw [h'.memory a ha (by rw [hsp']; exact hsp), h.memory a ha hsp]

theorem region_trace_word {i : UInt16} (hi : i.toNat < 21) :
    L.region (L.rp86TickTraceState + i) = .trace ∧
      L.region (L.rp86TickTraceState + i + 1) = .trace := by
  have h1 : (1 : UInt16).toNat = 1 := rfl
  refine ⟨L.region_trace i (by omega), ?_⟩
  rw [UInt16.add_assoc]
  refine L.region_trace (i + 1) ?_
  rw [UInt16.toNat_add]
  omega

/-- A store keeps the bytes of every other region. -/
theorem byte_writeWord_of_region {offset value a : UInt16} {k : Region τ}
    (h : L.region offset = k ∧ L.region (offset + 1) = k) (ha : L.region a ≠ k) :
    L.byte (writeWord m L.dgroup offset value) a = L.byte m a := by
  refine writeWord_of_ne ?_ ?_
  · rintro rfl
    exact ha h.1
  · rintro rfl
    exact ha h.2

/-- A `push` keeps every byte but the two below the stack pointer. -/
theorem byte_push {sp value a : UInt16} (hsp : 2 ≤ sp.toNat)
    (ha : a.toNat < sp.toNat → a.toNat + 2 < sp.toNat) :
    L.byte (writeWord m L.dgroup (sp - 2) value) a = L.byte m a := by
  have h1 : (1 : UInt16).toNat = 1 := rfl
  have h2 : (2 : UInt16).toNat = 2 := rfl
  have hlt := sp.toNat_lt
  refine writeWord_of_ne ?_ ?_
  · rintro rfl
    rw [UInt16.toNat_sub] at ha
    omega
  · rintro rfl
    rw [UInt16.toNat_add, UInt16.toNat_sub] at ha
    omega

theorem toNat_sub_two (sp : UInt16) (hsp : 2 ≤ sp.toNat) : (sp - 2).toNat = sp.toNat - 2 := by
  have h2 : (2 : UInt16).toNat = 2 := rfl
  have hlt := sp.toNat_lt
  rw [UInt16.toNat_sub]
  omega

/-- Two words pushed are popped in the other order. -/
theorem readWord_push_push (m : ByteMap) (segment sp v w : UInt16) :
    readWord (writeWord (writeWord m segment (sp - 2) v) segment (sp - 2 - 2) w) segment
        (sp - 2 - 2) = w ∧
      readWord (writeWord (writeWord m segment (sp - 2) v) segment (sp - 2 - 2) w) segment
        (sp - 2 - 2 + 2) = v := by
  have hv := readWords_writeWord_below v (rfl : readWords m segment sp 0 = []) (by omega)
  have hw := readWords_writeWord_below w hv (by omega)
  simp only [readWords, List.cons.injEq] at hw
  exact ⟨hw.1, hw.2.1⟩

theorem byte_push_push {sp v w a : UInt16} (hsp : 4 ≤ sp.toNat)
    (ha : a.toNat < sp.toNat → a.toNat + 4 < sp.toNat) :
    L.byte (writeWord (writeWord m L.dgroup (sp - 2) v) L.dgroup (sp - 2 - 2) w) a
      = L.byte m a := by
  have hsp2 := toNat_sub_two sp (by omega)
  rw [byte_push (by omega) (by omega), byte_push (by omega) (by omega)]

theorem add_two_add_two (sp : UInt16) : sp - 2 - 2 + 2 + 2 = sp := by
  rw [UInt16.sub_add_cancel, UInt16.sub_add_cancel]

theorem rp86TraceWordPreserve_transparent (w : UInt16) (hss : c.ss = L.dgroup)
    (hsp : 4 ≤ c.sp.toNat) : Transparent L c (rp86TraceWordPreserve w c) := by
  obtain ⟨hdx, hax⟩ := readWord_push_push c.memory c.ss c.sp c.ax c.dx
  constructor
  · ext1
    case ax => exact hax
    case dx => exact hdx
    case sp => exact add_two_add_two c.sp
    all_goals rfl
  · intro a _ ha
    show L.byte (writeWord (writeWord c.memory c.ss _ _) c.ss _ _) a = _
    rw [hss]
    exact byte_push_push hsp ha

theorem restoreEoi_transparent (hss : c.ss = L.dgroup) (hsp : 4 ≤ c.sp.toNat) :
    Transparent L c (restoreEoi c) := by
  constructor
  · ext1
    case ax => exact readWord_writeWord_self c.memory c.ss (c.sp - 2) c.ax
    case sp => exact UInt16.sub_add_cancel c.sp 2
    all_goals rfl
  · intro a _ ha
    show L.byte (writeWord c.memory c.ss _ _) a = _
    rw [hss]
    exact byte_push (by omega) (by omega)

/-- Between its pushes and pops `.restore_yield_trace` stores at most a trace word, which is not on
the stack. -/
theorem restoreYieldTrace_transparent (hss : c.ss = L.dgroup) (hsp : 4 ≤ c.sp.toNat)
    (hbelow : ∀ a : UInt16, a.toNat < c.sp.toNat → c.sp.toNat ≤ a.toNat + 4 →
      L.region a ≠ .trace) : Transparent L c (restoreYieldTrace L.toPortSymbols c) := by
  have h1 : (1 : UInt16).toNat = 1 := rfl
  have hsp2 := toNat_sub_two c.sp (by omega)
  have hsp4 := toNat_sub_two (c.sp - 2) (by omega)
  have hlt := c.sp.toNat_lt
  set pushed := writeWord (writeWord c.memory c.ss (c.sp - 2) c.ax) c.ss (c.sp - 2 - 2) c.ds
    with hpushed
  obtain ⟨hds, hax⟩ := readWord_push_push c.memory c.ss c.sp c.ax c.ds
  rw [← hpushed] at hds hax
  -- the code between the pushes and the pops stores one trace word, or nothing
  have hcases : (restoreYieldTrace L.toPortSymbols c).memory = pushed ∨
      (restoreYieldTrace L.toPortSymbols c).memory
        = writeWord pushed L.dgroup L.portTraceStage 5 := by
    unfold restoreYieldTrace whenWord
    simp only
    split_ifs with hstage
    · exact .inr rfl
    · exact .inl rfl
  have hstage := region_trace_word (L := L) (i := 8) (by decide)
  have hkeep : ∀ a, L.region a ≠ .trace →
      L.byte (restoreYieldTrace L.toPortSymbols c).memory a = L.byte pushed a := by
    intro a ha
    rcases hcases with h | h
    · rw [h]
    · rw [h]
      exact byte_writeWord_of_region hstage ha
  have hpop : ∀ offset : UInt16, offset.toNat + 1 < c.sp.toNat → c.sp.toNat ≤ offset.toNat + 4 →
      readWord (restoreYieldTrace L.toPortSymbols c).memory c.ss offset
        = readWord pushed c.ss offset := by
    intro offset hlo hhi
    rw [hss]
    refine readWord_congr (hkeep _ (hbelow _ (by omega) hhi)) (hkeep _ (hbelow _ ?_ ?_)) <;>
      · rw [UInt16.toNat_add]
        omega
  -- so the pops give back what was pushed
  have hregs : (restoreYieldTrace L.toPortSymbols c).toRegisters = { c.toRegisters with
      ds := readWord (restoreYieldTrace L.toPortSymbols c).memory c.ss (c.sp - 2 - 2)
      ax := readWord (restoreYieldTrace L.toPortSymbols c).memory c.ss (c.sp - 2 - 2 + 2)
      sp := c.sp - 2 - 2 + 2 + 2 } := by
    unfold restoreYieldTrace whenWord
    simp only
    split_ifs <;> rfl
  have hback : c.sp - 2 - 2 + 2 = c.sp - 2 := UInt16.sub_add_cancel (c.sp - 2) 2
  constructor
  · rw [hregs, hpop (c.sp - 2 - 2) (by omega) (by omega), hds, add_two_add_two,
      hpop (c.sp - 2 - 2 + 2) (by rw [hback]; omega) (by rw [hback]; omega), hax]
  · intro a ha hasp
    rw [hkeep a ha, hpushed, hss]
    exact byte_push_push hsp hasp

theorem trace_offset_ne (base : UInt16) {i j : UInt16} (h : i ≠ j) : base + i ≠ base + j := by
  intro heq
  exact h (by simpa using heq)

/-- `AX` and `DX` come back from the two words that hold them. -/
theorem restoreTickTrace_transparent (hds : c.ds = L.dgroup) :
    Transparent L c (restoreTickTrace L.toPortSymbols c) := by
  unfold restoreTickTrace whenWord
  split_ifs with hstate
  · have hax : ∀ m : ByteMap, readWord (writeWord (writeWord m c.ds L.rp86TraceSavedAx c.ax) c.ds
        L.rp86TraceSavedDx c.dx) c.ds L.rp86TraceSavedAx = c.ax := by
      intro m
      unfold PortSymbols.rp86TraceSavedAx PortSymbols.rp86TraceSavedDx
      rw [readWord_congr (m := writeWord m c.ds (L.rp86TickTraceState + 4) c.ax),
        readWord_writeWord_self]
      · refine writeWord_of_ne (trace_offset_ne _ (by decide)) ?_
        rw [UInt16.add_assoc]
        exact trace_offset_ne _ (by decide)
      · rw [UInt16.add_assoc]
        refine writeWord_of_ne (trace_offset_ne _ (by decide)) ?_
        rw [UInt16.add_assoc]
        exact trace_offset_ne _ (by decide)
    constructor
    · ext1
      case ax => exact hax _
      case dx => exact readWord_writeWord_self _ c.ds L.rp86TraceSavedDx c.dx
      all_goals rfl
    · intro a ha _
      show L.byte (writeWord (writeWord (writeWord c.memory c.ds L.rp86TickTraceState 5) c.ds
        (L.rp86TickTraceState + 4) _) c.ds (L.rp86TickTraceState + 6) _) a = _
      rw [hds, byte_writeWord_of_region (region_trace_word (i := 6) (by decide)) ha,
        byte_writeWord_of_region (region_trace_word (i := 4) (by decide)) ha]
      refine byte_writeWord_of_region ?_ ha
      have h0 := region_trace_word (L := L) (i := 0) (by decide)
      rw [UInt16.add_zero] at h0
      exact h0
  · exact .refl c

/-! ### The restore path -/

/-- The nine pops load the saved registers but `IP`, `CS` and `FLAGS`, and stop at those. -/
theorem popContext_registers (hss : c.ss = L.dgroup) (h : FrameAt L t c.memory c.sp r) :
    (popContext c).toRegisters = { r with
      ip := c.ip, cs := c.cs, flags := c.flags, sp := c.sp + 18 } ∧
      readWords c.memory L.dgroup (c.sp + 18) 3 = [r.ip, r.cs, r.flags] := by
  have hwords := h.words
  have hsp : c.sp + 2 + 2 + 2 + 2 + 2 + 2 + 2 + 2 + 2 = c.sp + 18 := by
    simp only [UInt16.add_assoc]
    rfl
  simp only [readWords, Registers.frame, List.cons.injEq, ← hss] at hwords
  obtain ⟨hbp, hdi, hsi, hds, hes, hdx, hcx, hbx, hax, hip, hcs, hflags, -⟩ := hwords
  rw [hsp] at hip hcs hflags
  constructor
  · ext1
    case ax => exact hax
    case bx => exact hbx
    case cx => exact hcx
    case dx => exact hdx
    case si => exact hsi
    case di => exact hdi
    case bp => exact hbp
    case sp => exact hsp
    case ds => exact hds
    case es => exact hes
    case ss => exact hss.trans h.ss.symm
    all_goals rfl
  · simp only [readWords, ← hss, hip, hcs, hflags]

/-- After the nine pops, code that is transparent and `iret`, the registers are the saved ones, and
the task finds what it must. -/
theorem iret_popContext {p : Suspended} (hss : c.ss = L.dgroup) (h : Ready L t c.memory c.sp p)
    (htrans : Transparent L (popContext c) c') :
    L.InCode (some t) c'.iret ∧ p.Restored L t c'.iret.toRegisters c'.iret.memory ∧
      ∀ a, L.region a ≠ .trace → L.region a ≠ .stack t →
        L.byte c'.iret.memory a = L.byte c.memory a := by
  obtain ⟨r, hr, hp⟩ := h
  obtain ⟨hpop, hwords⟩ := popContext_registers hss hr
  have hdepth := L.depth_le
  have hle := L.stackEnd_le t
  have hsp := hr.sp
  have hroom := hr.room
  have hend := hr.le_end
  -- the nine pops end at the return address, 18 bytes up
  have h18 : (c.sp + 18).toNat = c.sp.toNat + 18 := by
    have h18 : (18 : UInt16).toNat = 18 := rfl
    have := r.sp.toNat_lt
    rw [UInt16.toNat_add]
    omega
  have hspc : (popContext c).sp = c.sp + 18 := congrArg Registers.sp hpop
  have hssc : (popContext c).ss = L.dgroup := (congrArg Registers.ss hpop).trans hr.ss
  have hregs := htrans.registers
  have hsp' : c'.sp = c.sp + 18 := (congrArg Registers.sp hregs).trans hspc
  have hss' : c'.ss = L.dgroup := (congrArg Registers.ss hregs).trans hssc
  -- what lies at and above the return address is not touched
  have hkeep : ∀ a : UInt16, c.sp.toNat + 18 ≤ a.toNat → a.toNat < L.stackEnd t →
      L.byte c'.memory a = L.byte c.memory a := by
    intro a ha halt
    have hstack : L.region a = .stack t := (L.region_stack t a).mpr ⟨by omega, halt⟩
    refine htrans.memory a (by rw [hstack]; exact nofun) fun hlt => ?_
    rw [hspc, h18] at hlt
    omega
  have hwords' : readWords c'.memory L.dgroup (c.sp + 18) 3 = [r.ip, r.cs, r.flags] := by
    rw [← hwords]
    refine readWords_congr 3 fun b hb => hkeep b ?_ ?_ <;>
      · have := b.toNat_lt
        rw [UInt16.toNat_sub, h18] at hb
        omega
  simp only [readWords, List.cons.injEq] at hwords'
  obtain ⟨hip, hcs, hflags, -⟩ := hwords'
  rw [← hss', ← hsp'] at hip hcs hflags
  -- `iret` pops the other three words, and its pointer is that of the saved registers
  have hsp24 : c'.sp + 2 + 2 + 2 = r.sp := by
    have h2 : (2 : UInt16).toNat = 2 := rfl
    have := r.sp.toNat_lt
    apply UInt16.toNat_inj.mp
    simp only [UInt16.toNat_add, hsp', h2] at h18 ⊢
    omega
  have hfinal : c'.iret.toRegisters = r := by
    have hrest : c'.toRegisters = { r with
        ip := c.ip, cs := c.cs, flags := c.flags, sp := c.sp + 18 } := hregs.trans hpop
    have hiret : c'.iret.toRegisters = { c'.toRegisters with
        ip := readWord c'.memory c'.ss c'.sp, cs := readWord c'.memory c'.ss (c'.sp + 2)
        flags := readWord c'.memory c'.ss (c'.sp + 2 + 2), sp := c'.sp + 2 + 2 + 2 } := rfl
    rw [hiret, hip, hcs, hflags, hsp24, hrest]
  refine ⟨⟨?_, ?_, ?_, nofun, ?_⟩, ?_, ?_⟩
  · exact (congrArg Registers.ss hfinal).trans hr.ss
  · exact (congrArg Registers.ds hfinal).trans hr.ds
  · rw [hfinal]
    omega
  · rintro u ⟨⟩
    rw [hfinal]
    exact ⟨hroom, hend⟩
  · rw [hfinal]
    exact hp.congr hr.ss fun a ha halt => hkeep a (by omega) halt
  · intro a htrace hstack
    refine htrans.memory a htrace fun hlt => ?_
    rw [hspc, h18] at hlt ⊢
    by_contra hnear
    exact hstack ((L.region_stack t a).mpr ⟨by omega, by omega⟩)

/-- `rp86_restore_context` resumes the task whose frame is at the stack pointer. -/
theorem rp86RestoreContext_restores (hss : c.ss = L.dgroup) (h : Ready L t c.memory c.sp p) :
    L.InCode (some t) (rp86RestoreContext L.toPortSymbols c) ∧
      p.Restored L t (rp86RestoreContext L.toPortSymbols c).toRegisters
        (rp86RestoreContext L.toPortSymbols c).memory ∧
      ∀ a, L.region a ≠ .trace → L.region a ≠ .stack t →
        L.byte (rp86RestoreContext L.toPortSymbols c).memory a = L.byte c.memory a := by
  refine iret_popContext hss h ?_
  obtain ⟨r, hr, -⟩ := h
  obtain ⟨hpop, -⟩ := popContext_registers hss hr
  have hdepth := L.depth_le
  have hsp := hr.sp
  have hroom := hr.room
  have hend := hr.le_end
  have h18 : (popContext c).sp.toNat = c.sp.toNat + 18 := by
    have h18 : (18 : UInt16).toNat = 18 := rfl
    have := r.sp.toNat_lt
    rw [congrArg Registers.sp hpop, UInt16.toNat_add]
    omega
  have hssc : (popContext c).ss = L.dgroup := (congrArg Registers.ss hpop).trans hr.ss
  have hdsc : (popContext c).ds = L.dgroup := (congrArg Registers.ds hpop).trans hr.ds
  have htick := restoreTickTrace_transparent hdsc
  set c₁ := restoreTickTrace L.toPortSymbols (popContext c)
  have hss₁ : c₁.ss = L.dgroup := (congrArg Registers.ss htick.registers).trans hssc
  have hsp₁ : c₁.sp.toNat = c.sp.toNat + 18 := by
    rw [congrArg Registers.sp htick.registers, h18]
  have hyield := restoreYieldTrace_transparent hss₁ (by omega) fun a halt hnear => by
    have hstack : L.region a = .stack t := (L.region_stack t a).mpr ⟨by omega, by omega⟩
    rw [hstack]
    exact nofun
  set c₂ := restoreYieldTrace L.toPortSymbols c₁
  have hss₂ : c₂.ss = L.dgroup := (congrArg Registers.ss hyield.registers).trans hss₁
  have hsp₂ : c₂.sp.toNat = c.sp.toNat + 18 := by
    rw [congrArg Registers.sp hyield.registers, hsp₁]
  exact (htick.trans hyield).trans (restoreEoi_transparent hss₂ (by omega))

end Rp86.Processor
