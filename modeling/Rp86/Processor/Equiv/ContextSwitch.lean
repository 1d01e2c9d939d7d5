import Rp86.Processor.Equiv.Frame
import Rp86.Lib.Run

/-!
# Context switches preserve tasks

Between the entry of a handler and its restore path the stack pointer is that of a saved frame, and
every stretch of code in between keeps it, the segments and everything outside a scratch area
(`Within`).  So the interrupted task's frame, the other tasks' frames and `pxCurrentTCB` are there
when the kernel has selected a task (`Loaded`), and the restore path resumes that task
(`Loaded.restores`).  `Inv` says that every created task that is not running is parked on its stack.
-/

namespace Rp86.Processor

open Lib

variable {τ : Type*} {L : Layout τ} {t u : τ} {σ : UInt16} {W : UInt16 → Prop} {f g : Cpu → Cpu}
  {c c' : Cpu} {p : Suspended} {m m' : ByteMap}

/-! ### Code that keeps the stack pointer -/

variable (L) in
/-- The processor in a handler, with the frame that it works on at `σ`. -/
structure At (σ : UInt16) (c : Cpu) : Prop where
  ss : c.ss = L.dgroup
  ds : c.ds = L.dgroup
  sp : c.sp = σ

variable (L) in
/-- With the frame at `σ`, the code keeps it there and writes only within `W`. -/
def Within (σ : UInt16) (W : UInt16 → Prop) (f : Cpu → Cpu) : Prop :=
  ∀ c, At L σ c → At L σ (f c) ∧ ∀ a, ¬ W a → L.byte (f c).memory a = L.byte c.memory a

theorem Within.comp (hf : Within L σ W f) (hg : Within L σ W g) :
    Within L σ W fun c => g (f c) := by
  intro c hc
  obtain ⟨hat, hmem⟩ := hf c hc
  obtain ⟨hat', hmem'⟩ := hg (f c) hat
  exact ⟨hat', fun a ha => by rw [hmem' a ha, hmem a ha]⟩

theorem Within.mono {W' : UInt16 → Prop} (hf : Within L σ W f) (h : ∀ a, W a → W' a) :
    Within L σ W' f := by
  intro c hc
  obtain ⟨hat, hmem⟩ := hf c hc
  exact ⟨hat, fun a ha => hmem a fun hw => ha (h a hw)⟩

theorem Within.whenWord {offset value : UInt16} (hf : Within L σ W f) :
    Within L σ W (whenWord offset value f) := by
  intro c hc
  unfold Processor.whenWord
  split_ifs
  · exact hf c hc
  · exact ⟨hc, fun _ _ => rfl⟩

/-- Code that changes only registers other than `SP`, `SS` and `DS`. -/
theorem Within.registers (h : ∀ c, (f c).sp = c.sp ∧ (f c).ss = c.ss ∧ (f c).ds = c.ds ∧
    (f c).memory = c.memory) : Within L σ W f := by
  intro c hc
  obtain ⟨hsp, hss, hds, hmem⟩ := h c
  exact ⟨⟨hss.trans hc.ss, hds.trans hc.ds, hsp.trans hc.sp⟩, fun a _ => by rw [hmem]⟩

variable (L) in
def Trace (a : UInt16) : Prop := L.region a = .trace

/-- A store to a trace word of a value that may depend on the registers. -/
theorem Within.store_trace {i : UInt16} (hi : i.toNat < 21) (value : Cpu → UInt16) :
    Within L σ (Trace L) fun c => store (L.rp86TickTraceState + i) (value c) c := by
  intro c hc
  refine ⟨⟨hc.ss, hc.ds, hc.sp⟩, fun a ha => ?_⟩
  show L.byte (writeWord c.memory c.ds _ _) a = _
  rw [hc.ds]
  exact byte_writeWord_of_region (region_trace_word hi) ha

theorem Within.store_tickTraceState (value : UInt16) :
    Within L σ (Trace L) (store L.rp86TickTraceState value) := by
  have h : Within L σ (Trace L) (store (L.rp86TickTraceState + 0) value) :=
    .store_trace (by decide) fun _ => value
  rw [UInt16.add_zero] at h
  exact h

theorem Within.traceWord (w : UInt16) : Within L σ W (rp86TraceWord w) :=
  .registers fun _ => ⟨rfl, rfl, rfl, rfl⟩

theorem Within.traceFrame (marker : UInt16) : Within L σ W (rp86TraceFrame marker) :=
  .registers fun _ => ⟨rfl, rfl, rfl, rfl⟩

variable (L) in
/-- What a handler may write while it works on task `t`'s frame at `σ`. -/
def Scratch (t : τ) (σ a : UInt16) : Prop :=
  L.region a = .trace ∨ L.region a = .data ∨ (L.region a = .stack t ∧ a.toNat < σ.toNat)

variable (L) in
/-- The stack has room below `σ` for a handler's own pushes. -/
structure Room (t : τ) (σ : UInt16) : Prop where
  base : L.stackBase t + 4 ≤ σ.toNat
  le_end : σ.toNat ≤ L.stackEnd t

theorem Within.tracePreserve (hroom : Room L t σ) (w : UInt16) :
    Within L σ (Scratch L t σ) (rp86TraceWordPreserve w) := by
  intro c hc
  have hbase := hroom.base
  have hend := hroom.le_end
  have hsp := congrArg UInt16.toNat hc.sp
  have htrans := rp86TraceWordPreserve_transparent w hc.ss (by omega)
  have hregs := htrans.registers
  refine ⟨⟨(congrArg Registers.ss hregs).trans hc.ss, (congrArg Registers.ds hregs).trans hc.ds,
    (congrArg Registers.sp hregs).trans hc.sp⟩, fun a ha => ?_⟩
  refine htrans.memory a (fun h => ha (.inl h)) fun hlt => ?_
  by_contra hnear
  exact ha (.inr (.inr ⟨(L.region_stack t a).mpr ⟨by omega, by omega⟩, by omega⟩))

/-- A kernel function called on task `t`'s stack. -/
theorem Within.kernelCall (hroom : Room L t σ) (call : L.KernelCall) :
    Within L σ (fun a => L.region a = .current ∨ Scratch L t σ a) call.run := by
  intro c hc
  refine ⟨⟨(call.ss c).trans hc.ss, (call.ds c).trans hc.ds, (call.sp c).trans hc.sp⟩, ?_⟩
  intro a ha
  refine call.memory c a (fun h => ha (.inr (.inr (.inl h)))) (fun h => ha (.inl h)) ?_
  -- a stack that reaches up to `σ` and has bytes below it is `t`'s: it holds the byte below `σ`
  intro v hv
  by_contra hnot
  have hbase := hroom.base
  have hend := hroom.le_end
  have hsp := congrArg UInt16.toNat hc.sp
  obtain ⟨hvbase, hva⟩ := (L.region_stack v a).mp hv
  have h1 : (1 : UInt16).toNat = 1 := rfl
  have hlast : (σ - 1).toNat = σ.toNat - 1 := by
    have := σ.toNat_lt
    rw [UInt16.toNat_sub]
    omega
  have hvlast : L.region (σ - 1) = .stack v :=
    (L.region_stack v _).mpr ⟨by omega, by omega⟩
  have htlast : L.region (σ - 1) = .stack t :=
    (L.region_stack t _).mpr ⟨by omega, by omega⟩
  obtain rfl : v = t := Region.stack.inj (hvlast.symm.trans htlast)
  exact ha (.inr (.inr (.inr ⟨hv, by omega⟩)))

theorem Within.kernelCall_of_keepsCurrent (hroom : Room L t σ) {call : L.KernelCall}
    (hkeeps : call.KeepsCurrent) : Within L σ (Scratch L t σ) call.run := by
  intro c hc
  obtain ⟨hat, hmem⟩ := Within.kernelCall hroom call c hc
  refine ⟨hat, fun a ha => ?_⟩
  by_cases hcur : L.region a = .current
  · exact hkeeps c a hcur
  · exact hmem a (not_or.mpr ⟨hcur, ha⟩)

theorem trace_scratch (a : UInt16) (h : Trace L a) : Scratch L t σ a := .inl h

/-! ### Frames in a handler -/

variable (L) in
/-- The frame at the stack pointer is task `u`'s, `pxCurrentTCB` names it, and every other created
task is parked. -/
structure Loaded (suspended : τ → Option Suspended) (u : τ) (c : Cpu) : Prop where
  ss : c.ss = L.dgroup
  ds : c.ds = L.dgroup
  current : readWord c.memory L.dgroup L.pxCurrentTCB = L.tcb u
  ready : ∃ p, suspended u = some p ∧ Ready L u c.memory c.sp p
  parked : ∀ v q, v ≠ u → suspended v = some q → Parked L v c.memory q

variable (L) in
/-- Task `u` runs and finds what it must, and every other created task is parked. -/
structure Resumed (suspended : τ → Option Suspended) (u : τ) (c : Cpu) : Prop where
  inCode : L.InCode (some u) c
  current : readWord c.memory L.dgroup L.pxCurrentTCB = L.tcb u
  restored : ∃ p, suspended u = some p ∧ p.Restored L u c.toRegisters c.memory
  parked : ∀ v q, v ≠ u → suspended v = some q → Parked L v c.memory q

variable {suspended : τ → Option Suspended}

/-! ### What a change of the memory keeps -/

variable (L) in
/-- The memory `m'` has the bytes of `m` in the regions of `K`. -/
def Keeps (K : Region τ → Prop) (m m' : ByteMap) : Prop :=
  ∀ a, K (L.region a) → L.byte m' a = L.byte m a

section Keeps

variable {K : Region τ → Prop} (h : Keeps L K m m')
include h

theorem Keeps.current (hK : K .current) :
    readWord m' L.dgroup L.pxCurrentTCB = readWord m L.dgroup L.pxCurrentTCB := by
  obtain ⟨hlo, hhi⟩ := L.region_current
  exact readWord_congr (h _ (by rwa [hlo])) (h _ (by rwa [hhi]))

theorem Keeps.tcb (hK : K (.tcb t)) :
    readWord m' L.dgroup (L.tcb t) = readWord m L.dgroup (L.tcb t) := by
  obtain ⟨hlo, hhi⟩ := L.region_tcb t
  exact readWord_congr (h _ (by rwa [hlo])) (h _ (by rwa [hhi]))

theorem Keeps.ready (hK : K (.stack t)) (hready : Ready L t m σ p) : Ready L t m' σ p :=
  hready.congr fun a ha _ => h a (by rwa [ha])

theorem Keeps.parked (htcb : K (.tcb t)) (hstack : K (.stack t)) (hparked : Parked L t m p) :
    Parked L t m' p := by
  unfold Parked at hparked ⊢
  rw [h.tcb htcb]
  exact h.ready hstack hparked

end Keeps

/-- Code within the scratch area of the frame keeps the frames where they are. -/
theorem Loaded.within (h : Loaded L suspended u c) (hf : Within L c.sp (Scratch L u c.sp) f) :
    Loaded L suspended u (f c) ∧ (f c).sp = c.sp := by
  obtain ⟨hat, hmem⟩ := hf c ⟨h.ss, h.ds, rfl⟩
  obtain ⟨p, hp, hready⟩ := h.ready
  have hkeep : Keeps L (fun r => r ≠ .trace ∧ r ≠ .data ∧ r ≠ .stack u) c.memory (f c).memory := by
    rintro a ⟨htrace, hdata, hstack⟩
    exact hmem a (not_or.mpr ⟨htrace, not_or.mpr ⟨hdata, fun h' => hstack h'.1⟩⟩)
  refine ⟨⟨hat.ss, hat.ds, ?_, ⟨p, hp, ?_⟩, fun v q hv hq => ?_⟩, hat.sp⟩
  · exact (hkeep.current ⟨nofun, nofun, nofun⟩).trans h.current
  · rw [hat.sp]
    refine hready.congr fun a ha hle => hmem a ?_
    rintro (h' | h' | ⟨-, hlt⟩)
    · cases ha.symm.trans h'
    · cases ha.symm.trans h'
    · omega
  · exact hkeep.parked ⟨nofun, nofun, nofun⟩ ⟨nofun, nofun, fun heq => hv (Region.stack.inj heq)⟩
      (h.parked v q hv hq)

theorem Loaded.within_trace (h : Loaded L suspended u c) (hf : Within L c.sp (Trace L) f) :
    Loaded L suspended u (f c) ∧ (f c).sp = c.sp :=
  h.within (hf.mono trace_scratch)

/-- What the restore path and the start of the first task do to task `u`'s frame resumes it. -/
theorem Loaded.resumed (h : Loaded L suspended u c)
    (hrestores : ∀ p, Ready L u c.memory c.sp p → L.InCode (some u) c' ∧
      p.Restored L u c'.toRegisters c'.memory ∧
      ∀ a, L.region a ≠ .trace → L.region a ≠ .stack u →
        L.byte c'.memory a = L.byte c.memory a) : Resumed L suspended u c' := by
  obtain ⟨p, hp, hready⟩ := h.ready
  obtain ⟨hcode, hrestored, hmem⟩ := hrestores p hready
  have hkeep : Keeps L (fun r => r ≠ .trace ∧ r ≠ .stack u) c.memory c'.memory :=
    fun a ha => hmem a ha.1 ha.2
  refine ⟨hcode, (hkeep.current ⟨nofun, nofun⟩).trans h.current, ⟨p, hp, hrestored⟩,
    fun v q hv hq => ?_⟩
  exact hkeep.parked ⟨nofun, nofun⟩ ⟨nofun, fun heq => hv (Region.stack.inj heq)⟩
    (h.parked v q hv hq)

theorem Loaded.restores (h : Loaded L suspended u c) :
    Resumed L suspended u (rp86RestoreContext L.toPortSymbols c) :=
  h.resumed fun _ hready => rp86RestoreContext_restores h.ss hready

variable (L) in
/-- The interrupted task `t`'s frame at `σ` is in its TCB, and every created task is parked: the
kernel may select any. -/
structure Switching (suspended : τ → Option Suspended) (t : τ) (σ : UInt16) (c : Cpu) : Prop where
  at_frame : At L σ c
  saved : readWord c.memory L.dgroup (L.tcb t) = σ
  parked : ∀ v q, suspended v = some q → Parked L v c.memory q

/-- The stack pointer goes into the TCB of the task whose frame it points to. -/
theorem Loaded.saveStackPointer (h : Loaded L suspended t c) :
    Switching L suspended t c.sp (saveStackPointer L.toPortSymbols c) := by
  have hbx : c.word c.ds L.pxCurrentTCB = L.tcb t := by
    rw [h.ds]
    exact h.current
  have hmem : (Processor.saveStackPointer L.toPortSymbols c).memory
      = writeWord c.memory L.dgroup (L.tcb t) c.sp := by
    show writeWord c.memory c.ds (c.word c.ds L.pxCurrentTCB) c.sp = _
    rw [hbx, h.ds]
  have hkeep : Keeps L (· ≠ .tcb t) c.memory
      (Processor.saveStackPointer L.toPortSymbols c).memory := by
    intro a ha
    rw [hmem]
    exact byte_writeWord_of_region (L.region_tcb t) ha
  have hsaved : readWord (Processor.saveStackPointer L.toPortSymbols c).memory L.dgroup (L.tcb t)
      = c.sp := by
    rw [hmem]
    exact readWord_writeWord_self c.memory L.dgroup (L.tcb t) c.sp
  refine ⟨⟨h.ss, h.ds, rfl⟩, hsaved, fun v q hq => ?_⟩
  by_cases hv : v = t
  · subst hv
    obtain ⟨p, hp, hready⟩ := h.ready
    obtain rfl : p = q := Option.some.inj (hp.symm.trans hq)
    unfold Parked
    rw [hsaved]
    exact hkeep.ready nofun hready
  · exact hkeep.parked (fun heq => hv (Region.tcb.inj heq)) nofun (h.parked v q hv hq)

theorem Switching.within (h : Switching L suspended t σ c)
    (hf : Within L σ (fun a => L.region a = .current ∨ Scratch L t σ a) f) :
    Switching L suspended t σ (f c) := by
  obtain ⟨hat, hmem⟩ := hf c h.at_frame
  have htcb : ∀ v a, L.region a = .tcb v → L.byte (f c).memory a = L.byte c.memory a := by
    intro v a ha
    refine hmem a ?_
    rintro (h' | h' | h' | ⟨h', -⟩) <;> cases ha.symm.trans h'
  refine ⟨hat, ?_, fun v q hq => (h.parked v q hq).congr (htcb v) fun a ha hle => hmem a ?_⟩
  · rw [← h.saved]
    exact readWord_congr (htcb t _ (L.region_tcb t).1) (htcb t _ (L.region_tcb t).2)
  · rintro (h' | h' | h' | ⟨h', hlt⟩) <;> cases ha.symm.trans h'
    rw [h.saved] at hle
    omega

theorem Switching.within_trace (h : Switching L suspended t σ c) (hf : Within L σ (Trace L) f) :
    Switching L suspended t σ (f c) :=
  h.within (hf.mono fun _ ha => .inr (.inl ha))

/-- Loading the stack pointer from the selected task's TCB. -/
theorem Switching.load (h : Switching L suspended t σ c)
    (hcur : readWord c.memory L.dgroup L.pxCurrentTCB = L.tcb u) (hu : suspended u ≠ none)
    (hss : c'.ss = c.ss) (hds : c'.ds = c.ds) (hmem : c'.memory = c.memory)
    (hsp : c'.sp = readWord c.memory L.dgroup (L.tcb u)) : Loaded L suspended u c' := by
  obtain ⟨p, hp⟩ := Option.ne_none_iff_exists'.mp hu
  refine ⟨hss.trans h.at_frame.ss, hds.trans h.at_frame.ds, ?_, ⟨p, hp, ?_⟩, fun v q _ hq => ?_⟩
  · rw [hmem]
    exact hcur
  · rw [hmem, hsp]
    exact h.parked u p hp
  · rw [hmem]
    exact h.parked v q hq

/-! ### The handlers -/

/-- The words of an interrupt frame in the order in which they are pushed. -/
def Registers.pushed (r : Registers) : List UInt16 :=
  [r.flags, r.cs, r.ip, r.ax, r.bx, r.cx, r.dx, r.es, r.ds, r.si, r.di, r.bp]

theorem rp86SaveContext_interrupt (c : Cpu) :
    (rp86SaveContext c.interrupt).memory
        = (storeDown c.ss (c.sp - 2) c.toRegisters.pushed c.memory).2 ∧
      (rp86SaveContext c.interrupt).sp
        = (storeDown c.ss (c.sp - 2) c.toRegisters.pushed c.memory).1 ∧
      (rp86SaveContext c.interrupt).ss = c.ss := by
  simp [rp86SaveContext, Cpu.interrupt, Cpu.push, Registers.pushed, storeDown]

/-- `DS` and `ES` are loaded with DGROUP. -/
def handlerEntry (L : Layout τ) (c : Cpu) : Cpu :=
  loadDgroup L.toPortSymbols (rp86SaveContext c.interrupt).cld

/-- The entry of a handler leaves a frame that saves the interrupted task's registers, in a memory
that differs only on its stack below its stack pointer. -/
theorem handlerEntry_loaded [DecidableEq τ] (hcode : L.InCode (some t) c)
    (hcur : readWord c.memory L.dgroup L.pxCurrentTCB = L.tcb t)
    (hparked : ∀ v q, v ≠ t → suspended v = some q → Parked L v c.memory q) :
    Loaded L (Function.update suspended t
        (some (.interrupted c.toRegisters (L.byte c.memory)))) t (handlerEntry L c) ∧
      Room L t (handlerEntry L c).sp := by
  obtain ⟨hbase, hend⟩ := hcode.task t rfl
  obtain ⟨hmem, hsp, hss⟩ := rp86SaveContext_interrupt c
  have hdepth := L.depth_le
  have hlt := c.sp.toNat_lt
  have hsp2 := toNat_sub_two c.sp (by omega)
  -- the interrupt and the save push twelve words
  have hfst : (handlerEntry L c).sp.toNat = c.sp.toNat - 24 := by
    show (rp86SaveContext c.interrupt).sp.toNat = _
    rw [hsp]
    unfold Registers.pushed
    rw [storeDown_fst_toNat (by simp only [List.length_cons, List.length_nil]; omega), hsp2]
    simp only [List.length_cons, List.length_nil]
    omega
  have hkeep : ∀ a : UInt16, a.toNat + 24 < c.sp.toNat ∨ c.sp.toNat ≤ a.toNat →
      L.byte (handlerEntry L c).memory a = L.byte c.memory a := by
    intro a ha
    show L.byte (rp86SaveContext c.interrupt).memory a = _
    rw [hmem, hcode.ss]
    unfold Registers.pushed
    refine storeDown_byte ?_ (by omega) ?_ <;>
      · simp only [List.length_cons, List.length_nil]
        omega
  -- they stay on the stack of the interrupted task
  have hother : Keeps L (· ≠ .stack t) c.memory (handlerEntry L c).memory := by
    intro a ha
    refine hkeep a ?_
    by_contra hnot
    exact ha ((L.region_stack t a).mpr ⟨by omega, by omega⟩)
  refine ⟨⟨hss.trans hcode.ss, rfl, ?_, ⟨_, Function.update_self .., ?_⟩, ?_⟩,
    ⟨by omega, by omega⟩⟩
  · exact (hother.current nofun).trans hcur
  · refine ⟨c.toRegisters, ⟨?_, by omega, hcode.ss, hcode.ds, hbase, hend⟩, rfl, ?_⟩
    · show readWords (rp86SaveContext c.interrupt).memory L.dgroup
        (rp86SaveContext c.interrupt).sp 12 = _
      rw [hmem, hsp, hcode.ss]
      exact storeDown_words (n := 0) rfl (by simp only [List.length_cons, List.length_nil]; omega)
    · exact fun a ha _ => hkeep a (.inr ha)
  · intro v q hv hq
    rw [Function.update_of_ne hv] at hq
    exact hother.parked nofun (fun heq => hv (Region.stack.inj heq)) (hparked v q hv hq)

/-- The tick handler from its first trace up to the test of the result of `xTaskIncrementTick`. -/
def tickIncrement (L : Layout τ) (xTaskIncrementTick : Cpu → Cpu) (c : Cpu) : Cpu :=
  whenWord L.rp86TickTraceState 1 (rp86TraceWordPreserve 0x6211)
    (xTaskIncrementTick
      (whenWord L.rp86TickTraceState 0
        (fun c => rp86TraceWordPreserve 0x6210 (store L.rp86TickTraceState 1 c))
        (whenWord L.rp86TickTraceState 5
          (fun c => rp86TraceFrame 0x6240 (store L.rp86TickTraceState 6 c)) c)))

theorem Within.tickIncrement (hroom : Room L t σ) {increment : L.KernelCall}
    (hkeeps : increment.KeepsCurrent) :
    Within L σ (Scratch L t σ) (tickIncrement L increment.run) :=
  ((Within.whenWord (((Within.store_tickTraceState 6).mono trace_scratch).comp
      (.traceFrame 0x6240))).comp
    (Within.whenWord (((Within.store_tickTraceState 1).mono trace_scratch).comp
      (.tracePreserve hroom 0x6210)))).comp
    (Within.kernelCall_of_keepsCurrent hroom hkeeps) |>.comp
    (Within.whenWord (.tracePreserve hroom 0x6211))

/-- The tick handler resumes the interrupted task or the one that the kernel selects. -/
theorem rp86FreertosTickIsr_resumes {increment switch : L.KernelCall}
    (h : Loaded L suspended t (handlerEntry L c)) (hroom : Room L t (handlerEntry L c).sp)
    (hkeeps : increment.KeepsCurrent) (hselects : switch.Selects fun v => suspended v ≠ none) :
    ∃ u, Resumed L suspended u
      (rp86FreertosTickIsr L.toPortSymbols increment.run switch.run c.interrupt) := by
  obtain ⟨h₁, hsp₁⟩ := h.within (.tickIncrement hroom hkeeps)
  set c₁ := tickIncrement L increment.run (handlerEntry L c)
  have hisr : rp86FreertosTickIsr L.toPortSymbols increment.run switch.run c.interrupt
      = rp86RestoreContext L.toPortSymbols (whenWord L.rp86TickTraceState 2
          (fun c => rp86TraceWord 0x6235 (store L.rp86TickTraceState 3 c))
          (if c₁.ax ≠ 0 then tickSwitch L.toPortSymbols switch.run c₁
            else tickNoSwitch L.toPortSymbols c₁)) := rfl
  have hselected : ∃ u, Loaded L suspended u (if c₁.ax ≠ 0 then
      tickSwitch L.toPortSymbols switch.run c₁ else tickNoSwitch L.toPortSymbols c₁) := by
    split_ifs with hax
    · -- the kernel selects
      have hroom₁ : Room L t c₁.sp := by rw [hsp₁]; exact hroom
      obtain ⟨h₂, hsp₂⟩ := h₁.within (f := whenWord L.rp86TickTraceState 1
        (rp86TraceWordPreserve 0x6212)) (Within.whenWord (.tracePreserve hroom₁ 0x6212))
      have hsaved := h₂.saveStackPointer
      rw [hsp₂] at hsaved
      have hswitch := hsaved.within (Within.kernelCall hroom₁ switch)
      obtain ⟨u, hu, hcur⟩ := hselects (saveStackPointer L.toPortSymbols
        (whenWord L.rp86TickTraceState 1 (rp86TraceWordPreserve 0x6212) c₁))
      set c₃ := switch.run (saveStackPointer L.toPortSymbols
        (whenWord L.rp86TickTraceState 1 (rp86TraceWordPreserve 0x6212) c₁))
      have hload : Loaded L suspended u { c₃ with
          bx := c₃.word c₃.ds L.pxCurrentTCB
          sp := c₃.word c₃.ds (c₃.word c₃.ds L.pxCurrentTCB) } :=
        hswitch.load hcur hu rfl rfl rfl (by
          show readWord c₃.memory c₃.ds (readWord c₃.memory c₃.ds _) = _
          rw [hswitch.at_frame.ds, hcur])
      exact ⟨u, (hload.within_trace (Within.whenWord (((Within.store_tickTraceState 2).comp
        (.traceFrame 0x6230)).comp (.traceWord 0x6213)))).1⟩
    · exact ⟨t, (h₁.within_trace (Within.whenWord ((Within.store_tickTraceState 4).comp
        (.traceWord 0x6214)))).1⟩
  obtain ⟨u, hu⟩ := hselected
  rw [hisr]
  exact ⟨u, (hu.within_trace (Within.whenWord ((Within.store_tickTraceState 3).comp
    (.traceWord 0x6235)))).1.restores⟩

/-- What the yield handler records in the trace words before it saves the stack pointer. -/
theorem Within.yieldEnterTrace : Within L σ (Trace L) fun c =>
    let c := store L.portTraceStage 1 c
    let c := { c with ax := c.ss }
    let c := store L.portTraceOldSs c.ax c
    let c := store L.portTraceOldSp c.sp c
    let c := { c with ax := c.word c.ds L.pxCurrentTCB }
    store L.portTraceOldTcb c.ax c := by
  have hss : Within L σ (Trace L) fun c => { c with ax := c.ss } :=
    .registers fun _ => ⟨rfl, rfl, rfl, rfl⟩
  have htcb : Within L σ (Trace L) fun c => { c with ax := c.word c.ds L.pxCurrentTCB } :=
    .registers fun _ => ⟨rfl, rfl, rfl, rfl⟩
  have hstage : Within L σ (Trace L) (store L.portTraceStage 1) :=
    .store_trace (by decide) fun _ => 1
  have hOldSs : Within L σ (Trace L) fun c => store L.portTraceOldSs c.ax c :=
    .store_trace (by decide) (·.ax)
  have hOldSp : Within L σ (Trace L) fun c => store L.portTraceOldSp c.sp c :=
    .store_trace (by decide) (·.sp)
  have hOldTcb : Within L σ (Trace L) fun c => store L.portTraceOldTcb c.ax c :=
    .store_trace (by decide) (·.ax)
  exact ((((hstage.comp hss).comp hOldSs).comp hOldSp).comp htcb).comp hOldTcb

/-- What the yield handler records about the selected task. -/
def yieldSelectTrace (L : Layout τ) (c : Cpu) : Cpu :=
  let c := { c with ax := c.ss }
  let c := store L.portTraceNewSs c.ax c
  let c := store L.portTraceNewSp c.dx c
  store L.portTraceNewTcb c.bx c

theorem Within.yieldSelectTrace : Within L σ (Trace L) (yieldSelectTrace L) := by
  have hss : Within L σ (Trace L) fun c => { c with ax := c.ss } :=
    .registers fun _ => ⟨rfl, rfl, rfl, rfl⟩
  have hNewSs : Within L σ (Trace L) fun c => store L.portTraceNewSs c.ax c :=
    .store_trace (by decide) (·.ax)
  have hNewSp : Within L σ (Trace L) fun c => store L.portTraceNewSp c.dx c :=
    .store_trace (by decide) (·.dx)
  have hNewTcb : Within L σ (Trace L) fun c => store L.portTraceNewTcb c.bx c :=
    .store_trace (by decide) (·.bx)
  exact ((hss.comp hNewSs).comp hNewSp).comp hNewTcb

/-- Trace code keeps `pxCurrentTCB` and the TCBs. -/
theorem Within.keeps_trace (hf : Within L σ (Trace L) f) (hc : At L σ c) :
    Keeps L (· ≠ .trace) c.memory (f c).memory := (hf c hc).2

/-- After the kernel selected task `u`, the yield handler loads its frame. -/
theorem Switching.yieldSelect (h : Switching L suspended t σ c)
    (hcur : readWord c.memory L.dgroup L.pxCurrentTCB = L.tcb u) (hu : suspended u ≠ none) :
    Loaded L suspended u (yieldSelect L.toPortSymbols c) := by
  have hscheduled : Within L σ (Trace L) (whenWord L.portTraceStage 2 (store L.portTraceStage 3)) :=
    Within.whenWord (.store_trace (by decide) fun _ => 3)
  have h₁ := h.within_trace hscheduled
  have hcur₁ := ((hscheduled.keeps_trace h.at_frame).current nofun).trans hcur
  set c₁ := whenWord L.portTraceStage 2 (store L.portTraceStage 3) c
  -- `BX` and `DX` are loaded while the stack pointer is still the interrupted task's
  have h₂ : Switching L suspended t σ { c₁ with
      bx := c₁.word c₁.ds L.pxCurrentTCB, dx := c₁.word c₁.ds (c₁.word c₁.ds L.pxCurrentTCB) } :=
    ⟨⟨h₁.at_frame.ss, h₁.at_frame.ds, h₁.at_frame.sp⟩, h₁.saved, h₁.parked⟩
  set c₂ : Cpu := { c₁ with
      bx := c₁.word c₁.ds L.pxCurrentTCB, dx := c₁.word c₁.ds (c₁.word c₁.ds L.pxCurrentTCB) }
  have hdx₂ : c₂.dx = readWord c₂.memory L.dgroup (L.tcb u) := by
    show readWord c₁.memory c₁.ds (readWord c₁.memory c₁.ds _) = readWord c₁.memory _ _
    rw [h₁.at_frame.ds, hcur₁]
  have hselected : Within L σ (Trace L) (whenWord L.portTraceStage 3 (yieldSelectTrace L)) :=
    Within.whenWord .yieldSelectTrace
  have h₃ := h₂.within_trace hselected
  have hkeep := hselected.keeps_trace h₂.at_frame
  have hdx₃ : (whenWord L.portTraceStage 3 (yieldSelectTrace L) c₂).dx = c₂.dx := by
    unfold whenWord
    split_ifs <;> rfl
  set c₃ := whenWord L.portTraceStage 3 (yieldSelectTrace L) c₂
  have hload : Loaded L suspended u { c₃ with sp := c₃.dx } :=
    h₃.load ((hkeep.current nofun).trans hcur₁) hu rfl rfl rfl
      (by rw [hkeep.tcb nofun, ← hdx₂]; exact hdx₃)
  have hloaded : Within L c₃.dx (Trace L)
      (whenWord L.portTraceStage 3 (store L.portTraceStage 4)) :=
    Within.whenWord (.store_trace (by decide) fun _ => 4)
  obtain ⟨h₄, hsp₄⟩ := hload.within_trace hloaded
  have hstate : ∀ σ', Within L σ' (Trace L) (store L.rp86YieldTraceState 2) := fun _ =>
    .store_trace (by decide) fun _ => 2
  exact (h₄.within_trace (Within.whenWord ((hstate _).comp (.traceWord 0x6221)))).1

/-- The yield handler resumes the task that the kernel selects. -/
theorem rp86FreertosYieldIsr_resumes {switch : L.KernelCall}
    (h : Loaded L suspended t (handlerEntry L c)) (hroom : Room L t (handlerEntry L c).sp)
    (hselects : switch.Selects fun v => suspended v ≠ none) :
    ∃ u, Resumed L suspended u
      (rp86FreertosYieldIsr L.toPortSymbols switch.run c.interrupt) := by
  have hstate : Within L (handlerEntry L c).sp (Trace L) (store L.rp86YieldTraceState 1) :=
    .store_trace (by decide) fun _ => 1
  obtain ⟨h₁, hsp₁⟩ := h.within ((Within.whenWord ((hstate.mono trace_scratch).comp
    (.tracePreserve hroom 0x6220))).comp
      (Within.whenWord (Within.yieldEnterTrace.mono trace_scratch)))
  have hsaved := h₁.saveStackPointer
  rw [hsp₁] at hsaved
  have hstage : Within L (handlerEntry L c).sp (Trace L)
      (whenWord L.portTraceStage 1 (store L.portTraceStage 2)) :=
    Within.whenWord (.store_trace (by decide) fun _ => 2)
  have hentered := hsaved.within_trace hstage
  obtain ⟨u, hu, hcur⟩ := hselects _
  exact ⟨u, ((hentered.within (Within.kernelCall hroom switch)).yieldSelect hcur hu).restores⟩

/-! ### The first task -/

/-- On the bootstrap stack, transparent code changes no stack, TCB or `pxCurrentTCB`. -/
theorem Transparent.boot (hcode : L.InCode none c) (h : Transparent L c c') :
    Keeps L (fun r => r ≠ .trace ∧ r ≠ .data) c.memory c'.memory := by
  rintro a ⟨htrace, hdata⟩
  refine h.memory a htrace fun hlt => ?_
  by_contra hnear
  exact hdata (hcode.boot rfl a hlt (by omega))

theorem Layout.InCode.congr {who : Option τ} (h : L.InCode who c) (hsp : c'.sp = c.sp)
    (hss : c'.ss = c.ss) (hds : c'.ds = L.dgroup) : L.InCode who c' := by
  obtain ⟨hss', -, hroom, hboot, htask⟩ := h
  rw [← hsp] at hroom hboot htask
  exact ⟨hss.trans hss', hds, hroom, hboot, htask⟩

/-- Still on the bootstrap stack, `AX` is DGROUP and `DX` the saved stack pointer of the task that
`pxCurrentTCB` names. -/
theorem startEnter_loads (hcode : L.InCode none c)
    (hcur : readWord c.memory L.dgroup L.pxCurrentTCB = L.tcb u) :
    (startEnter L.toPortSymbols c).ax = L.dgroup ∧ (startEnter L.toPortSymbols c).ds = L.dgroup ∧
      (startEnter L.toPortSymbols c).dx = readWord c.memory L.dgroup (L.tcb u) ∧
      Keeps L (fun r => r ≠ .trace ∧ r ≠ .data) c.memory
        (startEnter L.toPortSymbols c).memory := by
  have hcli : L.InCode none c.cli := hcode.congr rfl rfl hcode.ds
  have htrans₁ := rp86TraceWordPreserve_transparent 0x6202 hcli.ss hcli.room
  have hmem₁ := htrans₁.boot hcli
  have hcode₁ : L.InCode none (rp86TraceWordPreserve 0x6202 c.cli) :=
    hcli.congr (congrArg Registers.sp htrans₁.registers) (congrArg Registers.ss htrans₁.registers)
      ((congrArg Registers.ds htrans₁.registers).trans hcode.ds)
  generalize hc₁ : rp86TraceWordPreserve 0x6202 c.cli = c₁ at hmem₁ hcode₁
  have hcur₁ := (hmem₁.current ⟨nofun, nofun⟩).trans hcur
  have hdx₁ : readWord c₁.memory L.dgroup (L.tcb u) = readWord c.memory L.dgroup (L.tcb u) :=
    hmem₁.tcb ⟨nofun, nofun⟩
  have hstart : startEnter L.toPortSymbols c = rp86TraceWordPreserve 0x6203 { c₁ with
      ax := L.dgroup, ds := L.dgroup, es := L.dgroup
      bx := readWord c₁.memory L.dgroup L.pxCurrentTCB
      dx := readWord c₁.memory L.dgroup (readWord c₁.memory L.dgroup L.pxCurrentTCB) } := by
    rw [← hc₁]
    rfl
  rw [hstart, hcur₁, hdx₁]
  have hcode₂ : L.InCode none { c₁ with
      ax := L.dgroup, ds := L.dgroup, es := L.dgroup, bx := L.tcb u
      dx := readWord c.memory L.dgroup (L.tcb u) } := hcode₁.congr rfl rfl rfl
  have htrans₂ := rp86TraceWordPreserve_transparent 0x6203 hcode₂.ss hcode₂.room
  refine ⟨congrArg Registers.ax htrans₂.registers, congrArg Registers.ds htrans₂.registers,
    congrArg Registers.dx htrans₂.registers, fun a ha => ?_⟩
  rw [htrans₂.boot hcode₂ a ha]
  exact hmem₁ a ha

/-- `rp86PortStartFirstTask` resumes the task that `pxCurrentTCB` names. -/
theorem rp86PortStartFirstTask_resumes (hcode : L.InCode none c)
    (hparked : ∀ v q, suspended v = some q → Parked L v c.memory q)
    (hcur : readWord c.memory L.dgroup L.pxCurrentTCB = L.tcb u) (hu : suspended u ≠ none) :
    Resumed L suspended u (rp86PortStartFirstTask L.toPortSymbols c) := by
  obtain ⟨hax, hds, hdx, hkeep⟩ := startEnter_loads hcode hcur
  have hstart : rp86PortStartFirstTask L.toPortSymbols c
      = (rp86TraceWordPreserve 0x6205 (popContext (rp86TraceWord 0x6204 (rp86TraceFrame 0x6250
          { startEnter L.toPortSymbols c with
            ss := (startEnter L.toPortSymbols c).ax
            sp := (startEnter L.toPortSymbols c).dx })))).iret := rfl
  rw [hstart]
  generalize startEnter L.toPortSymbols c = c₁ at hax hds hdx hkeep
  have hparked₁ : ∀ v q, suspended v = some q → Parked L v c₁.memory q := fun v q hq =>
    hkeep.parked ⟨nofun, nofun⟩ ⟨nofun, nofun⟩ (hparked v q hq)
  obtain ⟨p, hp⟩ := Option.ne_none_iff_exists'.mp hu
  -- with its stack loaded, the first task is restored like any other
  have hload : Loaded L suspended u (rp86TraceWord 0x6204 (rp86TraceFrame 0x6250
      { c₁ with ss := c₁.ax, sp := c₁.dx })) := by
    refine ⟨hax, hds, (hkeep.current ⟨nofun, nofun⟩).trans hcur, ⟨p, hp, ?_⟩,
      fun v q _ hq => hparked₁ v q hq⟩
    show Ready L u c₁.memory c₁.dx p
    rw [hdx, ← hkeep.tcb ⟨nofun, nofun⟩]
    exact hparked₁ u p hp
  generalize rp86TraceWord 0x6204 (rp86TraceFrame 0x6250 { c₁ with ss := c₁.ax, sp := c₁.dx })
    = c₂ at hload
  refine hload.resumed fun q hready => iret_popContext hload.ss hready ?_
  obtain ⟨r, hr, -⟩ := hready
  obtain ⟨hpop, -⟩ := popContext_registers hload.ss hr
  refine rp86TraceWordPreserve_transparent 0x6205
    ((congrArg Registers.ss hpop).trans hr.ss) ?_
  have h18 : (18 : UInt16).toNat = 18 := rfl
  have hsp := hr.sp
  have := r.sp.toNat_lt
  rw [congrArg Registers.sp hpop, UInt16.toNat_add]
  omega

/-- The registers that `pxPortInitialiseStack` prepares. -/
def initialRegisters (P : PortSymbols) (sp pxCode : UInt16) (c : Cpu) : Registers where
  ax := 0xAAAA
  bx := 0xBBBB
  cx := 0xCCCC
  dx := 0xDDDD
  si := 0x5151
  di := 0xD1D1
  bp := 0xB0B0
  sp := sp
  ip := pxCode
  cs := rp86PortGetCodeSegment c
  ds := rp86PortGetDataSegment c
  es := rp86PortGetDataSegment c
  ss := P.dgroup
  flags := portInitialSw

/-- `pxPortInitialiseStack` leaves a frame that starts the task at `pxCode`, above a near-call frame
of it, and writes only the new task's stack. -/
theorem pxPortInitialiseStack_ready {top pxCode pvParameters : UInt16} (hds : c.ds = L.dgroup)
    (hbase : L.stackBase t + L.depth + 2 ≤ top.toNat) (hend : top.toNat + 2 ≤ L.stackEnd t) :
    Ready L t (pxPortInitialiseStack L.toPortSymbols top pxCode pvParameters c).2
        (pxPortInitialiseStack L.toPortSymbols top pxCode pvParameters c).1
        (.created pxCode pvParameters (rp86PortGetCodeSegment c) (rp86PortGetDataSegment c)) ∧
      Keeps L (· ≠ .stack t) c.memory
        (pxPortInitialiseStack L.toPortSymbols top pxCode pvParameters c).2 := by
  have hdepth := L.depth_le
  have hle := L.stackEnd_le t
  -- the C function is a series of stores down from the top of the stack
  have hinit : pxPortInitialiseStack L.toPortSymbols top pxCode pvParameters c
      = storeDown L.dgroup top (initialStackWords L.toPortSymbols pxCode pvParameters c)
          c.memory := by
    rw [← hds]
    rfl
  rw [hinit]
  unfold initialStackWords
  set rest := [L.prvTaskExitError, portInitialSw, rp86PortGetCodeSegment c, pxCode,
    0xAAAA, 0xBBBB, 0xCCCC, 0xDDDD, rp86PortGetDataSegment c, rp86PortGetDataSegment c,
    0x5151, 0xD1D1, 0xB0B0] with hrest
  have hlen : rest.length = 13 := rfl
  have hwords : readWords (storeDown L.dgroup top (pvParameters :: rest) c.memory).2 L.dgroup
      (storeDown L.dgroup top (pvParameters :: rest) c.memory).1 14
        = (pvParameters :: rest).reverse ++ [] :=
    storeDown_words (n := 0) rfl (by rw [hlen]; decide)
  have hfst : (storeDown L.dgroup top (pvParameters :: rest) c.memory).1.toNat
      = top.toNat - 26 := by
    rw [storeDown_fst_toNat (by omega), hlen]
  have hkeep : Keeps L (· ≠ .stack t) c.memory
      (storeDown L.dgroup top (pvParameters :: rest) c.memory).2 := by
    intro a ha
    refine storeDown_byte (by omega) (by omega) ?_
    by_contra hnot
    exact ha ((L.region_stack t a).mpr ⟨by omega, by omega⟩)
  refine ⟨?_, hkeep⟩
  generalize storeDown L.dgroup top (pvParameters :: rest) c.memory = made at hwords hfst ⊢
  -- twelve of the words are the frame; the return address and the parameter lie above
  have hsp : (made.1 + 24).toNat = made.1.toNat + 24 := by
    have h24 : (24 : UInt16).toNat = 24 := rfl
    rw [UInt16.toNat_add]
    omega
  have hsp24 : made.1 + 2 + 2 + 2 + 2 + 2 + 2 + 2 + 2 + 2 + 2 + 2 + 2 = made.1 + 24 := by
    simp only [UInt16.add_assoc]
    rfl
  simp only [hrest, readWords, List.reverse_cons, List.reverse_nil, List.nil_append,
    List.cons_append, List.append_nil, List.cons.injEq, hsp24] at hwords
  obtain ⟨hbp, hdi, hsi, hds', hes, hdx, hcx, hbx, hax, hip, hcs, hflags, hret, hparam, -⟩ := hwords
  refine ⟨initialRegisters L.toPortSymbols (made.1 + 24) pxCode c,
    ⟨?_, hsp, rfl, hds, ?_, ?_⟩, rfl, rfl, rfl, rfl,
    (by decide : portInitialSw &&& flagIf ≠ 0), ?_, hret, hparam⟩
  · simp only [readWords, hbp, hdi, hsi, hds', hes, hdx, hcx, hbx, hax, hip, hcs, hflags]
    rfl
  · show _ ≤ (made.1 + 24).toNat
    omega
  · show (made.1 + 24).toNat ≤ _
    omega
  · show (made.1 + 24).toNat + 4 ≤ _
    omega

/-! ### Runs -/

variable (L) in
/-- The running code keeps its segments and its room, `pxCurrentTCB` names the running task, and
every other created task is parked. -/
structure Inv (s : System τ) : Prop where
  inCode : L.InCode s.running s.cpu
  current : ∀ t, s.running = some t → readWord s.cpu.memory L.dgroup L.pxCurrentTCB = L.tcb t
  created : ∀ t, s.running = some t → s.Created t
  parked : ∀ t p, s.running ≠ some t → s.suspended t = some p → Parked L t s.cpu.memory p

theorem currentTask_eq_some (h : readWord m L.dgroup L.pxCurrentTCB = L.tcb u) :
    L.currentTask m = some u := by
  unfold Layout.currentTask
  rw [h, (L.region_tcb u).1]

variable {s : System τ}

/-- The task that was resumed found what it must. -/
theorem Resumed.resume (h : Resumed L s.suspended u c) :
    Inv L (s.resume L c) ∧ (s.resume L c).RestoresTask L := by
  have hrunning : (s.resume L c).running = some u := currentTask_eq_some h.current
  obtain ⟨p, hp, hrestored⟩ := h.restored
  refine ⟨⟨?_, ?_, ?_, ?_⟩, u, p, hrunning, hp, hrestored⟩
  · rw [hrunning]
    exact h.inCode
  · intro t ht
    obtain rfl : u = t := Option.some.inj (hrunning.symm.trans ht)
    exact h.current
  · intro t ht
    obtain rfl : u = t := Option.some.inj (hrunning.symm.trans ht)
    unfold System.Created
    show s.suspended u ≠ none
    rw [hp]
    exact nofun
  · intro t q ht hq
    rw [hrunning] at ht
    exact h.parked t q (fun heq => ht (congrArg some heq.symm)) hq

theorem System.Boot.inv (h : s.Boot L) : Inv L s := by
  refine ⟨?_, fun t ht => ?_, fun t ht => ?_, fun t p _ hp => ?_⟩
  · rw [h.running]
    exact h.inCode
  · rw [h.running] at ht
    cases ht
  · rw [h.running] at ht
    cases ht
  · rw [h.suspended t] at hp
    cases hp

variable [DecidableEq τ]

theorem Inv.compute (h : Inv L s) (code : L.Code) : Inv L (s.step L (.compute code)) := by
  have hkeep : Keeps L (fun r => r ≠ .data ∧ r ≠ .trace ∧ (∀ t, s.running = some t → r ≠ .stack t) ∧
      (s.running = none → r ≠ .current)) s.cpu.memory (code.run s.cpu).memory := by
    rintro a ⟨hdata, htrace, hstack, hcurrent⟩
    exact code.memory s.running s.cpu a h.inCode hdata htrace hstack hcurrent
  refine ⟨code.inCode s.running s.cpu h.inCode, fun t ht => ?_, h.created, fun t p ht hp => ?_⟩
  · refine (hkeep.current ⟨nofun, nofun, fun _ _ => nofun, fun hnone => ?_⟩).trans (h.current t ht)
    cases hnone.symm.trans ht
  · refine hkeep.parked ⟨nofun, nofun, fun _ _ => nofun, nofun⟩
      ⟨nofun, nofun, fun v hv heq => ht ?_, nofun⟩ (h.parked t p ht hp)
    rw [Region.stack.inj heq]
    exact hv

theorem Inv.create (h : Inv L s) {top pxCode pvParameters : UInt16}
    (hbase : L.stackBase t + L.depth + 2 ≤ top.toNat) (hend : top.toNat + 2 ≤ L.stackEnd t) :
    Inv L (s.step L (.create t top pxCode pvParameters)) := by
  obtain ⟨hready, hkeep⟩ := @pxPortInitialiseStack_ready τ L t s.cpu top pxCode pvParameters
    h.inCode.ds hbase hend
  set made := pxPortInitialiseStack L.toPortSymbols top pxCode pvParameters s.cpu
  have hmem : (s.step L (.create t top pxCode pvParameters)).cpu.memory
      = writeWord made.2 L.dgroup (L.tcb t) made.1 := by
    rw [← h.inCode.ds]
    rfl
  have hsus : (s.step L (.create t top pxCode pvParameters)).suspended
      = Function.update s.suspended t (some (.created pxCode pvParameters
          (rp86PortGetCodeSegment s.cpu) (rp86PortGetDataSegment s.cpu))) := rfl
  -- only the new stack and the TCB of the task are written
  have htcb : Keeps L (· ≠ .tcb t) made.2 (writeWord made.2 L.dgroup (L.tcb t) made.1) :=
    fun a ha => byte_writeWord_of_region (L.region_tcb t) ha
  have hboth : Keeps L (fun r => r ≠ .tcb t ∧ r ≠ .stack t) s.cpu.memory
      (s.step L (.create t top pxCode pvParameters)).cpu.memory := by
    intro a ha
    rw [hmem, htcb a ha.1, hkeep a ha.2]
  refine ⟨?_, fun v hv => ?_, fun v hv => ?_, fun v q hv hq => ?_⟩
  · exact ⟨h.inCode.ss, h.inCode.ds, h.inCode.room, h.inCode.boot, h.inCode.task⟩
  · exact (hboth.current ⟨nofun, nofun⟩).trans (h.current v hv)
  · unfold System.Created
    rw [hsus]
    by_cases hvt : v = t
    · rw [hvt, Function.update_self]
      exact nofun
    · rw [Function.update_of_ne hvt]
      exact h.created v hv
  · rw [hsus] at hq
    by_cases hvt : v = t
    · subst hvt
      rw [Function.update_self] at hq
      obtain rfl := Option.some.inj hq
      unfold Parked
      rw [hmem, readWord_writeWord_self]
      exact htcb.ready nofun hready
    · rw [Function.update_of_ne hvt] at hq
      exact hboth.parked ⟨fun heq => hvt (Region.tcb.inj heq), nofun⟩
        ⟨nofun, fun heq => hvt (Region.stack.inj heq)⟩ (h.parked v q hv hq)

/-- What a handler starts from, with the interrupted task among those that can be selected. -/
theorem Inv.interrupted (h : Inv L s) (ht : s.running = some t) :
    Loaded L (s.suspend L).suspended t (handlerEntry L s.cpu) ∧
      Room L t (handlerEntry L s.cpu).sp ∧
      ∀ v, s.Created v → (s.suspend L).suspended v ≠ none := by
  have hsus : (s.suspend L).suspended = Function.update s.suspended t
      (some (.interrupted s.cpu.toRegisters (L.byte s.cpu.memory))) := by
    unfold System.suspend
    rw [ht]
  rw [hsus]
  have hcode := h.inCode
  rw [ht] at hcode
  obtain ⟨hload, hroom⟩ := handlerEntry_loaded hcode (h.current t ht) fun v q hv hq =>
    h.parked v q (by rw [ht]; exact fun heq => hv (Option.some.inj heq).symm) hq
  refine ⟨hload, hroom, fun v hv => ?_⟩
  by_cases hvt : v = t
  · rw [hvt, Function.update_self]
    exact nofun
  · rw [Function.update_of_ne hvt]
    exact hv

/-- A handler that resumes a task from the interrupted one's frame. -/
theorem Inv.handled (h : Inv L s) (hrunning : s.running ≠ none) {switch : L.KernelCall}
    (hselects : switch.Selects s.Created)
    (hresumes : ∀ {t suspended}, Loaded L suspended t (handlerEntry L s.cpu) →
      Room L t (handlerEntry L s.cpu).sp → (switch.Selects fun v => suspended v ≠ none) →
      ∃ u, Resumed L suspended u c) :
    Inv L ((s.suspend L).resume L c) ∧ ((s.suspend L).resume L c).RestoresTask L := by
  obtain ⟨t, ht⟩ := Option.ne_none_iff_exists'.mp hrunning
  obtain ⟨hload, hroom, hcreated⟩ := h.interrupted ht
  obtain ⟨u, hresumed⟩ := hresumes hload hroom fun c => by
    obtain ⟨v, hv, hcur⟩ := hselects c
    exact ⟨v, hcreated v hv, hcur⟩
  exact hresumed.resume

/-- Every event keeps the invariant, and one that resumes a task gives it what it must find. -/
theorem Inv.step {e : Event L} (h : Inv L s) (hposs : s.Possible e)
    (hkeeps : e.IncrementKeepsCurrent) :
    Inv L (s.step L e) ∧ (e.Resumes → (s.step L e).RestoresTask L) := by
  cases e with
  | compute code => exact ⟨h.compute code, False.elim⟩
  | create t top pxCode pvParameters =>
    obtain ⟨hbase, hend⟩ := hposs
    exact ⟨h.create hbase hend, False.elim⟩
  | start =>
    obtain ⟨hnone, u, hu, hcur⟩ := hposs
    have hcode := h.inCode
    rw [hnone] at hcode
    obtain ⟨hinv, hrestores⟩ := (rp86PortStartFirstTask_resumes hcode
      (fun v q hq => h.parked v q (by rw [hnone]; exact nofun) hq) hcur hu).resume
    exact ⟨hinv, fun _ => hrestores⟩
  | tick increment switch =>
    obtain ⟨hinv, hrestores⟩ := h.handled hposs.1 hposs.2 fun hload hroom hselects =>
      rp86FreertosTickIsr_resumes hload hroom hkeeps hselects
    exact ⟨hinv, fun _ => hrestores⟩
  | yield switch =>
    obtain ⟨hinv, hrestores⟩ := h.handled hposs.1 hposs.2 rp86FreertosYieldIsr_resumes
    exact ⟨hinv, fun _ => hrestores⟩

/-- **Context switches preserve tasks.**  In every run of task code, creations, ticks and yields,
whatever the kernel selects, whatever the trace words hold and whatever the tasks have in their
registers and on their stacks, every start, tick and yield ends in a task that finds what it must:
the registers and the stack it was interrupted with, or those of a fresh call of its function. -/
theorem context_switch_preserves_tasks (hboot : s.Boot L) (events : List (Event L))
    (hposs : StepsMeet (System.step L) (fun s e => s.Possible e ∧ e.IncrementKeepsCurrent) s
      events) :
    ∀ pre e, pre ++ [e] <+: events → e.Resumes →
      (run (System.step L) s (pre ++ [e])).RestoresTask L := by
  intro pre e hpre hresumes
  have hsteps : StepsMeet (System.step L) (fun s e => s.Possible e ∧ e.IncrementKeepsCurrent) s
      pre := fun pre' e' h' => hposs pre' e' (h'.trans ((List.prefix_append pre [e]).trans hpre))
  have hinv : Inv L (run (System.step L) s pre) :=
    run_invariant_of_stepsMeet (fun _ _ hK hinv => (hinv.step hK.1 hK.2).1) pre hsteps hboot.inv
  obtain ⟨hp, hkeeps⟩ := hposs pre e hpre
  rw [run_append]
  exact (hinv.step hp hkeeps).2 hresumes

/-! ### Two tasks -/

/-- Two tasks with a stack of 256 bytes each. -/
def twoTasks : Layout Bool where
  dgroup := 0x1000
  rp86TickTraceState := 0x0100
  pxCurrentTCB := 0x0200
  prvTaskExitError := 0x0050
  region a :=
    if 0x0100 ≤ a.toNat ∧ a.toNat < 0x0116 then .trace
    else if 0x0200 ≤ a.toNat ∧ a.toNat < 0x0202 then .current
    else if 0x0300 ≤ a.toNat ∧ a.toNat < 0x0302 then .tcb false
    else if 0x0400 ≤ a.toNat ∧ a.toNat < 0x0402 then .tcb true
    else if 0x1000 ≤ a.toNat ∧ a.toNat < 0x1100 then .stack false
    else if 0x2000 ≤ a.toNat ∧ a.toNat < 0x2100 then .stack true
    else .data
  tcb t := if t then 0x0400 else 0x0300
  stackBase t := if t then 0x2000 else 0x1000
  stackEnd t := if t then 0x2100 else 0x1100
  depth := 28
  region_trace i hi := by
    have h : ((0x0100 : UInt16) + i).toNat = 0x0100 + i.toNat := by
      have h100 : (0x0100 : UInt16).toNat = 0x0100 := rfl
      rw [UInt16.toNat_add]
      omega
    simp only [h]
    rw [if_pos ⟨by omega, by omega⟩]
  region_current := by decide
  region_tcb := by decide
  region_stack t a := by
    cases t <;>
      · simp only [Bool.false_eq_true, if_true, if_false]
        split_ifs <;> simp only [reduceCtorEq, false_iff, true_iff, Region.stack.injEq] <;> omega
  stackEnd_le := by decide
  depth_le := by decide

/-- A kernel function that points `pxCurrentTCB` at `t`'s TCB and returns 1. -/
def selectTask (t : Bool) : twoTasks.KernelCall where
  run c := { c with ax := 1, memory := writeWord c.memory 0x1000 0x0200 (twoTasks.tcb t) }
  sp _ := rfl
  ss _ := rfl
  ds _ := rfl
  memory _ _ _ hcur _ := byte_writeWord_of_region twoTasks.region_current hcur

/-- A kernel function that only returns 1. -/
def returnOne : twoTasks.KernelCall where
  run c := { c with ax := 1 }
  sp _ := rfl
  ss _ := rfl
  ds _ := rfl
  memory _ _ _ _ _ := rfl

/-- `main`, with the first task selected. -/
def twoTasksBoot : System Bool where
  cpu := {
    ax := 0, bx := 0, cx := 0, dx := 0, si := 0, di := 0, bp := 0, sp := 0x0900
    ip := 0, cs := 0x0100, ds := 0x1000, es := 0x1000, ss := 0x1000, flags := 0x0002
    memory := writeWord (fun _ => 0) 0x1000 0x0200 0x0300
    out := [] }
  running := none
  suspended _ := none

theorem twoTasksBoot_boot : twoTasksBoot.Boot twoTasks := by
  refine ⟨rfl, fun _ => rfl, rfl, rfl, by decide, fun _ a halt hnear => ?_, nofun⟩
  have hsp : twoTasksBoot.cpu.sp.toNat = 0x0900 := rfl
  show (if _ then _ else _) = _
  rw [if_neg (by omega), if_neg (by omega), if_neg (by omega), if_neg (by omega),
    if_neg (by omega), if_neg (by omega)]

/-- The two tasks are created and the first one starts. -/
def twoTasksStart : List (Event twoTasks) :=
  [.create false 0x10F0 0x0111 7, .create true 0x20F0 0x0222 9, .start]

theorem selectTask_selects {created : Bool → Prop} {t : Bool} (h : created t) :
    (selectTask t).Selects created := fun _ => ⟨t, h, readWord_writeWord_self ..⟩

/-- The first task is interrupted by a tick and resumed by the second one's yield. -/
theorem twoTasks_switch :
    (run (System.step twoTasks) twoTasksBoot ((twoTasksStart ++
      [.tick returnOne (selectTask true)]) ++ [.yield (selectTask false)])).RestoresTask
        twoTasks := by
  have hcreate : ∀ s : System Bool, s.Possible (L := twoTasks) (.create false 0x10F0 0x0111 7) ∧
      s.Possible (L := twoTasks) (.create true 0x20F0 0x0222 9) :=
    fun _ => ⟨⟨by decide, by decide⟩, by decide, by decide⟩
  have hsteps : StepsMeet (System.step twoTasks) (fun s e => s.Possible e ∧ e.IncrementKeepsCurrent)
      twoTasksBoot ((twoTasksStart ++ [.tick returnOne (selectTask true)]) ++
        [.yield (selectTask false)]) :=
    stepsMeet_cons.mpr ⟨⟨(hcreate _).1, trivial⟩, stepsMeet_cons.mpr ⟨⟨(hcreate _).2, trivial⟩,
      stepsMeet_cons.mpr ⟨⟨⟨rfl, false, nofun, by decide +kernel⟩, trivial⟩,
      stepsMeet_cons.mpr ⟨⟨⟨by decide +kernel, selectTask_selects nofun⟩, fun _ _ _ => rfl⟩,
      stepsMeet_cons.mpr ⟨⟨⟨by decide +kernel, selectTask_selects nofun⟩, trivial⟩,
      stepsMeet_nil⟩⟩⟩⟩⟩
  have hrestores := context_switch_preserves_tasks twoTasksBoot_boot _ hsteps
    (twoTasksStart ++ [.tick returnOne (selectTask true)]) (.yield (selectTask false))
    (List.prefix_refl _) trivial
  exact hrestores

/-- A kernel whose `xTaskIncrementTick` points `pxCurrentTCB` at another task before it asks for a
switch keeps to the calling convention, but the interrupted task's stack pointer then goes into the
other task's TCB: that task is resumed with the interrupted one's frame. -/
theorem increment_selects_misrestores :
    twoTasksBoot.Boot twoTasks ∧
      StepsMeet (System.step twoTasks) (fun s e => s.Possible e) twoTasksBoot
        (twoTasksStart ++ [.tick (selectTask true) (selectTask true)]) ∧
      ¬ (run (System.step twoTasks) twoTasksBoot (twoTasksStart ++
        [.tick (selectTask true) (selectTask true)])).RestoresTask twoTasks := by
  refine ⟨twoTasksBoot_boot, ?_, ?_⟩
  · exact stepsMeet_cons.mpr ⟨⟨by decide, by decide⟩, stepsMeet_cons.mpr ⟨⟨by decide, by decide⟩,
      stepsMeet_cons.mpr ⟨⟨rfl, false, nofun, by decide +kernel⟩,
      stepsMeet_cons.mpr ⟨⟨by decide +kernel, selectTask_selects nofun⟩, stepsMeet_nil⟩⟩⟩⟩
  · rintro ⟨t, p, ht, hp, hrestored⟩
    have hrunning : (run (System.step twoTasks) twoTasksBoot (twoTasksStart ++
        [.tick (selectTask true) (selectTask true)])).running = some true := by decide +kernel
    obtain rfl : true = t := Option.some.inj (hrunning.symm.trans ht)
    have hcreated : (run (System.step twoTasks) twoTasksBoot (twoTasksStart ++
        [.tick (selectTask true) (selectTask true)])).suspended true
          = some (.created 0x0222 9 0x0100 0x1000) := rfl
    obtain rfl := Option.some.inj (hcreated.symm.trans hp)
    obtain ⟨hip, -⟩ := hrestored
    have hfirst : (run (System.step twoTasks) twoTasksBoot (twoTasksStart ++
        [.tick (selectTask true) (selectTask true)])).cpu.ip = 0x0111 := by decide +kernel
    rw [hfirst] at hip
    exact absurd hip (by decide)

end Rp86.Processor
