import Rp86.Processor.FreeRtosPort
import Mathlib.Logic.Function.Basic

/-!
# Tasks under the FreeRTOS port

The processor runs one task at a time: code of that task, then a tick or an `INT 80h`, whose handler
resumes a task that the kernel selects.  The kernel and the task code are known here only by what
they may change, so both are data of a run.  Next to the processor the system keeps, for each task
that was created and is not running, what it must find when it runs again.
-/

namespace Rp86.Processor

open Lib

variable {τ : Type*}

/-- What a byte of DGROUP holds.  `data` is everything else: kernel data, the heap, the bootstrap
stack, the variables of the application. -/
inductive Region (τ : Type*) where
  | stack (task : τ)
  /-- The first word of the task's TCB, its saved stack pointer. -/
  | tcb (task : τ)
  | current
  | trace
  | data
  deriving DecidableEq

/-- A linked image with its tasks: every byte of DGROUP is in one region, so the stacks are disjoint
from each other and from everything else.  A running task keeps `depth` bytes below its stack
pointer for the handlers: their own 28 bytes, and what the kernel functions need. -/
structure Layout (τ : Type*) extends PortSymbols where
  region : UInt16 → Region τ
  tcb : τ → UInt16
  stackBase : τ → ℕ
  stackEnd : τ → ℕ
  depth : ℕ
  region_trace : ∀ i : UInt16, i.toNat < 22 → region (rp86TickTraceState + i) = .trace
  region_current : region pxCurrentTCB = .current ∧ region (pxCurrentTCB + 1) = .current
  region_tcb : ∀ t, region (tcb t) = .tcb t ∧ region (tcb t + 1) = .tcb t
  region_stack : ∀ t a, region a = .stack t ↔ stackBase t ≤ a.toNat ∧ a.toNat < stackEnd t
  stackEnd_le : ∀ t, stackEnd t ≤ 65536
  depth_le : 28 ≤ depth

namespace Layout

variable (L : Layout τ)

def byte (m : ByteMap) (a : UInt16) : UInt8 := m (linear L.dgroup a)

/-- The processor in `who`'s code: DGROUP is its stack and data segment, and there is room on its
stack.  `none` is the code before the scheduler starts, on the bootstrap stack. -/
structure InCode (who : Option τ) (c : Cpu) : Prop where
  ss : c.ss = L.dgroup
  ds : c.ds = L.dgroup
  room : 4 ≤ c.sp.toNat
  boot : who = none → ∀ a : UInt16, a.toNat < c.sp.toNat → c.sp.toNat ≤ a.toNat + 4 →
    L.region a = .data
  task : ∀ t, who = some t → L.stackBase t + L.depth ≤ c.sp.toNat ∧ c.sp.toNat ≤ L.stackEnd t

/-- Code of tasks, or of `main` before the scheduler starts.  A task writes its own stack, data and
the trace words; `main` does not have a task's stack, but the kernel selects the first task in
it. -/
structure Code where
  run : Cpu → Cpu
  inCode : ∀ who c, L.InCode who c → L.InCode who (run c)
  memory : ∀ who c a, L.InCode who c →
    L.region a ≠ .data → L.region a ≠ .trace → (∀ t, who = some t → L.region a ≠ .stack t) →
    (who = none → L.region a ≠ .current) → L.byte (run c).memory a = L.byte c.memory a

/-- A call of a kernel function by the near `__cdecl` convention: `SP`, `SS` and `DS` come back as
they were, and only `pxCurrentTCB`, kernel data and the stack below `SP` change. -/
structure KernelCall where
  run : Cpu → Cpu
  sp : ∀ c, (run c).sp = c.sp
  ss : ∀ c, (run c).ss = c.ss
  ds : ∀ c, (run c).ds = c.ds
  memory : ∀ c a, L.region a ≠ .data → L.region a ≠ .current →
    (∀ t, L.region a = .stack t → L.stackEnd t < c.sp.toNat ∨ c.sp.toNat ≤ a.toNat) →
    L.byte (run c).memory a = L.byte c.memory a

/-- The call leaves `pxCurrentTCB` alone. -/
def KernelCall.KeepsCurrent {L : Layout τ} (call : L.KernelCall) : Prop :=
  ∀ c a, L.region a = .current → L.byte (call.run c).memory a = L.byte c.memory a

/-- The call leaves `pxCurrentTCB` at the TCB of a task in `created`. -/
def KernelCall.Selects {L : Layout τ} (call : L.KernelCall) (created : τ → Prop) : Prop :=
  ∀ c, ∃ t, created t ∧ readWord (call.run c).memory L.dgroup L.pxCurrentTCB = L.tcb t

/-- The task whose TCB `pxCurrentTCB` points to. -/
def currentTask (m : ByteMap) : Option τ :=
  match L.region (readWord m L.dgroup L.pxCurrentTCB) with
  | .tcb t => some t
  | _ => none

end Layout

/-- What a task must find when it runs next. -/
inductive Suspended where
  /-- It was created and has not run. -/
  | created (pxCode pvParameters codeSegment dataSegment : UInt16)
  /-- It was interrupted with these registers; `stack` is DGROUP at that instant. -/
  | interrupted (registers : Registers) (stack : UInt16 → UInt8)

/-- The processor, who is running, and what each created task must find when it runs next: for the
running task, what it had when it was interrupted last. -/
structure System (τ : Type*) where
  cpu : Cpu
  running : Option τ
  suspended : τ → Option Suspended

variable [DecidableEq τ] (L : Layout τ)

inductive Event where
  | compute (code : L.Code)
  /-- `xTaskCreate`: the stack is initialised and the result goes into the first word of the TCB. -/
  | create (task : τ) (pxTopOfStack pxCode pvParameters : UInt16)
  | start
  | tick (xTaskIncrementTick vTaskSwitchContext : L.KernelCall)
  | yield (vTaskSwitchContext : L.KernelCall)

variable {L}

def Event.Resumes : Event L → Prop
  | .compute _ => False
  | .create .. => False
  | .start => True
  | .tick .. => True
  | .yield _ => True

namespace System

variable (s : System τ)

def Created (t : τ) : Prop := s.suspended t ≠ none

variable (L)

/-- The running task is interrupted: its registers and DGROUP are what it must find again. -/
def suspend : System τ :=
  match s.running with
  | none => s
  | some t =>
    let found := .interrupted s.cpu.toRegisters (L.byte s.cpu.memory)
    { s with suspended := Function.update s.suspended t (some found) }

/-- `c` goes on in the task that `pxCurrentTCB` names. -/
def resume (c : Cpu) : System τ := { s with cpu := c, running := L.currentTask c.memory }

def step (s : System τ) : Event L → System τ
  | .compute code => { s with cpu := code.run s.cpu }
  | .create t pxTopOfStack pxCode pvParameters =>
    let r := pxPortInitialiseStack L.toPortSymbols pxTopOfStack pxCode pvParameters s.cpu
    let found := .created pxCode pvParameters (rp86PortGetCodeSegment s.cpu)
      (rp86PortGetDataSegment s.cpu)
    { s with
      cpu := { s.cpu with memory := writeWord r.2 s.cpu.ds (L.tcb t) r.1 }
      suspended := Function.update s.suspended t (some found) }
  | .start => s.resume L (rp86PortStartFirstTask L.toPortSymbols s.cpu)
  | .tick xTaskIncrementTick vTaskSwitchContext =>
    (s.suspend L).resume L (rp86FreertosTickIsr L.toPortSymbols xTaskIncrementTick.run
      vTaskSwitchContext.run s.cpu.interrupt)
  | .yield vTaskSwitchContext =>
    (s.suspend L).resume L
      (rp86FreertosYieldIsr L.toPortSymbols vTaskSwitchContext.run s.cpu.interrupt)

variable {L}

/-- The event can happen in `s`: a task is created with room for its first frame; the scheduler
starts once, and it and every later selection is of a created task; only a task is interrupted. -/
def Possible (s : System τ) : Event L → Prop
  | .compute _ => True
  | .create t pxTopOfStack _ _ =>
      L.stackBase t + L.depth + 2 ≤ pxTopOfStack.toNat ∧ pxTopOfStack.toNat + 2 ≤ L.stackEnd t
  | .start => s.running = none ∧
      ∃ t, s.Created t ∧ readWord s.cpu.memory L.dgroup L.pxCurrentTCB = L.tcb t
  | .tick _ vTaskSwitchContext => s.running ≠ none ∧ vTaskSwitchContext.Selects s.Created
  | .yield vTaskSwitchContext => s.running ≠ none ∧ vTaskSwitchContext.Selects s.Created

end System

/-- `xTaskIncrementTick` does not select a task. -/
def Event.IncrementKeepsCurrent : Event L → Prop
  | .tick xTaskIncrementTick _ => xTaskIncrementTick.KeepsCurrent
  | _ => True

variable (L) in
/-- Task `t` finds, in registers `r` and memory `m`, what it must. -/
def Suspended.Restored (t : τ) (r : Registers) (m : ByteMap) : Suspended → Prop
  | .created pxCode pvParameters codeSegment dataSegment =>
    r.ip = pxCode ∧ r.cs = codeSegment ∧ r.ds = dataSegment ∧ r.es = dataSegment ∧
      r.flags &&& flagIf ≠ 0 ∧ r.sp.toNat + 4 ≤ L.stackEnd t ∧
      readWord m r.ss r.sp = L.prvTaskExitError ∧ readWord m r.ss (r.sp + 2) = pvParameters
  | .interrupted registers stack =>
    r = registers ∧
      ∀ a : UInt16, r.sp.toNat ≤ a.toNat → a.toNat < L.stackEnd t → L.byte m a = stack a

variable (L) in
/-- The running task finds what it must. -/
def System.RestoresTask (s : System τ) : Prop :=
  ∃ t p, s.running = some t ∧ s.suspended t = some p ∧
    p.Restored L t s.cpu.toRegisters s.cpu.memory

variable (L) in
/-- The system after reset, in `main`: nothing was created. -/
structure System.Boot (s : System τ) : Prop where
  running : s.running = none
  suspended : ∀ t, s.suspended t = none
  inCode : L.InCode none s.cpu

end Rp86.Processor
