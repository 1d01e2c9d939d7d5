import Rp86.Processor.Cpu
import Rp86.Runtime.ProcessorAbi

/-!
# The FreeRTOS 8086 portable layer

`processor/ports/freertos/8086`: the interrupt handlers and the start of the first task from
`portasm.asm`, and `pxPortInitialiseStack` from `port.c`.  The two kernel functions that the
handlers call are arguments.
-/

namespace Rp86.Processor

open Lib

/-- What the linker decides: the DGROUP segment and the offsets in it.  The four words and the
seven of `_gRp86PortTrace` are one run of `_BSS`, from `rp86_tick_trace_state` up. -/
structure PortSymbols where
  dgroup : UInt16
  rp86TickTraceState : UInt16
  pxCurrentTCB : UInt16
  prvTaskExitError : UInt16

namespace PortSymbols

variable (P : PortSymbols)

def rp86YieldTraceState : UInt16 := P.rp86TickTraceState + 2
def rp86TraceSavedAx : UInt16 := P.rp86TickTraceState + 4
def rp86TraceSavedDx : UInt16 := P.rp86TickTraceState + 6
def portTraceStage : UInt16 := P.rp86TickTraceState + 8
def portTraceOldSs : UInt16 := P.rp86TickTraceState + 10
def portTraceOldSp : UInt16 := P.rp86TickTraceState + 12
def portTraceOldTcb : UInt16 := P.rp86TickTraceState + 14
def portTraceNewSs : UInt16 := P.rp86TickTraceState + 16
def portTraceNewSp : UInt16 := P.rp86TickTraceState + 18
def portTraceNewTcb : UInt16 := P.rp86TickTraceState + 20

end PortSymbols

/-! ### Macros -/

def rp86TraceWord (w : UInt16) (c : Cpu) : Cpu :=
  let c := { c with dx := ioPortResult }
  let c := { c with ax := w }
  c.outPort c.dx c.ax

def rp86TraceWordPreserve (w : UInt16) (c : Cpu) : Cpu :=
  let c := c.push c.ax
  let c := c.push c.dx
  let c := rp86TraceWord w c
  let c := { c with dx := c.top, sp := c.sp + 2 }
  { c with ax := c.top, sp := c.sp + 2 }

def rp86TraceValue (marker value : UInt16) (c : Cpu) : Cpu :=
  let c := { c with cx := value }
  let c := { c with dx := ioPortResult }
  let c := { c with ax := marker }
  let c := c.outPort c.dx c.ax
  let c := { c with ax := c.cx }
  c.outPort c.dx c.ax

/-- `mov bp, sp` and the five `RP86_TRACE_VALUE` lines after it: `SP`, then the `IP`, `CS` and
`FLAGS` of the frame at `SP`, then `SS`, under successive markers. -/
def rp86TraceFrame (marker : UInt16) (c : Cpu) : Cpu :=
  let c := { c with bp := c.sp }
  let c := rp86TraceValue marker c.sp c
  let c := rp86TraceValue (marker + 1) (c.word c.ss (c.bp + 18)) c
  let c := rp86TraceValue (marker + 2) (c.word c.ss (c.bp + 20)) c
  let c := rp86TraceValue (marker + 3) (c.word c.ss (c.bp + 22)) c
  rp86TraceValue (marker + 4) c.ss c

def rp86SaveContext (c : Cpu) : Cpu :=
  let c := c.push c.ax
  let c := c.push c.bx
  let c := c.push c.cx
  let c := c.push c.dx
  let c := c.push c.es
  let c := c.push c.ds
  let c := c.push c.si
  let c := c.push c.di
  c.push c.bp

/-- The nine `pop`s of `rp86_restore_context` and of `_rp86PortStartFirstTask`. -/
def popContext (c : Cpu) : Cpu :=
  let c := { c with bp := c.top, sp := c.sp + 2 }
  let c := { c with di := c.top, sp := c.sp + 2 }
  let c := { c with si := c.top, sp := c.sp + 2 }
  let c := { c with ds := c.top, sp := c.sp + 2 }
  let c := { c with es := c.top, sp := c.sp + 2 }
  let c := { c with dx := c.top, sp := c.sp + 2 }
  let c := { c with cx := c.top, sp := c.sp + 2 }
  let c := { c with bx := c.top, sp := c.sp + 2 }
  { c with ax := c.top, sp := c.sp + 2 }

/-- `cmp word [offset], value`, `jne` over `body`. -/
def whenWord (offset value : UInt16) (body : Cpu → Cpu) (c : Cpu) : Cpu :=
  if c.word c.ds offset = value then body c else c

def store (offset value : UInt16) (c : Cpu) : Cpu := c.setWord c.ds offset value

variable (P : PortSymbols)

/-- `mov ax, seg _pxCurrentTCB`, `mov ds, ax`, `mov es, ax`. -/
def loadDgroup (c : Cpu) : Cpu :=
  let c := { c with ax := P.dgroup }
  { c with ds := c.ax, es := c.ax }

/-- `mov bx, [_pxCurrentTCB]`. -/
def loadCurrentTcb (c : Cpu) : Cpu := { c with bx := c.word c.ds P.pxCurrentTCB }

def saveStackPointer (c : Cpu) : Cpu :=
  let c := loadCurrentTcb P c
  store c.bx c.sp c

/-! ### `rp86_restore_context` -/

/-- From the last `pop` to `.restore_yield_trace`. -/
def restoreTickTrace (c : Cpu) : Cpu :=
  whenWord P.rp86TickTraceState 3 (fun c =>
    let c := store P.rp86TickTraceState 5 c
    let c := store P.rp86TraceSavedAx c.ax c
    let c := store P.rp86TraceSavedDx c.dx c
    let c := rp86TraceWord 0x6236 c
    let c := { c with ax := c.word c.ds P.rp86TraceSavedAx }
    { c with dx := c.word c.ds P.rp86TraceSavedDx }) c

def restoreYieldTrace (c : Cpu) : Cpu :=
  let c := c.push c.ax
  let c := c.push c.ds
  let c := { c with ax := P.dgroup }
  let c := { c with ds := c.ax }
  let c := whenWord P.portTraceStage 4 (store P.portTraceStage 5) c
  let c := { c with ds := c.top, sp := c.sp + 2 }
  { c with ax := c.top, sp := c.sp + 2 }

/-- `.restore_eoi` up to `iret`; `AL` is the low half of `AX`. -/
def restoreEoi (c : Cpu) : Cpu :=
  let c := c.push c.ax
  let c := { c with ax := (c.ax &&& 0xFF00) ||| picCommandEoi }
  let c := c.outPort ioPortPicCommand (c.ax &&& 0x00FF)
  { c with ax := c.top, sp := c.sp + 2 }

def rp86RestoreContext (c : Cpu) : Cpu :=
  let c := popContext c
  let c := restoreTickTrace P c
  let c := restoreYieldTrace P c
  let c := restoreEoi c
  c.iret

/-! ### `rp86_freertos_tick_isr` -/

/-- From the entry to the call of `xTaskIncrementTick`. -/
def tickEnter (c : Cpu) : Cpu :=
  let c := rp86SaveContext c
  let c := c.cld
  let c := loadDgroup P c
  let c := whenWord P.rp86TickTraceState 5
    (fun c => rp86TraceFrame 0x6240 (store P.rp86TickTraceState 6 c)) c
  whenWord P.rp86TickTraceState 0
    (fun c => rp86TraceWordPreserve 0x6210 (store P.rp86TickTraceState 1 c)) c

/-- From `or ax, ax` not jumping to `.tick_restore`: the interrupted task's stack pointer goes into
its TCB, and the selected task's comes out of its own. -/
def tickSwitch (vTaskSwitchContext : Cpu → Cpu) (c : Cpu) : Cpu :=
  let c := whenWord P.rp86TickTraceState 1 (rp86TraceWordPreserve 0x6212) c
  let c := saveStackPointer P c
  let c := vTaskSwitchContext c
  let c := loadCurrentTcb P c
  let c := { c with sp := c.word c.ds c.bx }
  whenWord P.rp86TickTraceState 1
    (fun c => rp86TraceWord 0x6213 (rp86TraceFrame 0x6230 (store P.rp86TickTraceState 2 c))) c

/-- `.tick_no_switch` to `.tick_restore`. -/
def tickNoSwitch (c : Cpu) : Cpu :=
  whenWord P.rp86TickTraceState 1
    (fun c => rp86TraceWord 0x6214 (store P.rp86TickTraceState 4 c)) c

def rp86FreertosTickIsr (xTaskIncrementTick vTaskSwitchContext : Cpu → Cpu) (c : Cpu) : Cpu :=
  let c := tickEnter P c
  let c := xTaskIncrementTick c
  let c := whenWord P.rp86TickTraceState 1 (rp86TraceWordPreserve 0x6211) c
  let c := if c.ax ≠ 0 then tickSwitch P vTaskSwitchContext c else tickNoSwitch P c
  let c := whenWord P.rp86TickTraceState 2
    (fun c => rp86TraceWord 0x6235 (store P.rp86TickTraceState 3 c)) c
  rp86RestoreContext P c

/-! ### `rp86_freertos_yield_isr` -/

/-- From the entry to `.yield_ram_trace_skip_enter`. -/
def yieldEnter (c : Cpu) : Cpu :=
  let c := rp86SaveContext c
  let c := c.cld
  let c := loadDgroup P c
  let c := whenWord P.rp86YieldTraceState 0
    (fun c => rp86TraceWordPreserve 0x6220 (store P.rp86YieldTraceState 1 c)) c
  whenWord P.portTraceStage 0 (fun c =>
    let c := store P.portTraceStage 1 c
    let c := { c with ax := c.ss }
    let c := store P.portTraceOldSs c.ax c
    let c := store P.portTraceOldSp c.sp c
    let c := { c with ax := c.word c.ds P.pxCurrentTCB }
    store P.portTraceOldTcb c.ax c) c

/-- From the return of `vTaskSwitchContext` to `.yield_restore`. -/
def yieldSelect (c : Cpu) : Cpu :=
  let c := whenWord P.portTraceStage 2 (store P.portTraceStage 3) c
  let c := loadCurrentTcb P c
  let c := { c with dx := c.word c.ds c.bx }
  let c := whenWord P.portTraceStage 3 (fun c =>
    let c := { c with ax := c.ss }
    let c := store P.portTraceNewSs c.ax c
    let c := store P.portTraceNewSp c.dx c
    store P.portTraceNewTcb c.bx c) c
  let c := { c with sp := c.dx }
  let c := whenWord P.portTraceStage 3 (store P.portTraceStage 4) c
  whenWord P.rp86YieldTraceState 1
    (fun c => rp86TraceWord 0x6221 (store P.rp86YieldTraceState 2 c)) c

def rp86FreertosYieldIsr (vTaskSwitchContext : Cpu → Cpu) (c : Cpu) : Cpu :=
  let c := yieldEnter P c
  let c := saveStackPointer P c
  let c := whenWord P.portTraceStage 1 (store P.portTraceStage 2) c
  let c := vTaskSwitchContext c
  let c := yieldSelect P c
  rp86RestoreContext P c

/-! ### Tasks -/

/-- `_rp86PortStartFirstTask` on the bootstrap stack. -/
def startEnter (c : Cpu) : Cpu :=
  let c := c.cli
  let c := rp86TraceWordPreserve 0x6202 c
  let c := loadDgroup P c
  let c := loadCurrentTcb P c
  let c := { c with dx := c.word c.ds c.bx }
  rp86TraceWordPreserve 0x6203 c

def rp86PortStartFirstTask (c : Cpu) : Cpu :=
  let c := startEnter P c
  let c := { c with ss := c.ax }
  let c := { c with sp := c.dx }
  let c := rp86TraceFrame 0x6250 c
  let c := rp86TraceWord 0x6204 c
  let c := popContext c
  let c := rp86TraceWordPreserve 0x6205 c
  c.iret

def portInitialSw : UInt16 := 0x0202

def rp86PortGetCodeSegment (c : Cpu) : UInt16 := c.cs

def rp86PortGetDataSegment (c : Cpu) : UInt16 := c.ds

/-- The words that `pxPortInitialiseStack` stores, in its order. -/
def initialStackWords (pxCode pvParameters : UInt16) (c : Cpu) : List UInt16 :=
  [pvParameters, P.prvTaskExitError, portInitialSw, rp86PortGetCodeSegment c, pxCode,
    0xAAAA, 0xBBBB, 0xCCCC, 0xDDDD, rp86PortGetDataSegment c, rp86PortGetDataSegment c,
    0x5151, 0xD1D1, 0xB0B0]

/-- `*pxTopOfStack = w`, and `pxTopOfStack--` before each store after the first.  The result is the
pointer to the last word stored. -/
def storeDown (segment : UInt16) : UInt16 → List UInt16 → ByteMap → UInt16 × ByteMap
  | pxTopOfStack, [], m => (pxTopOfStack, m)
  | pxTopOfStack, [w], m => (pxTopOfStack, writeWord m segment pxTopOfStack w)
  | pxTopOfStack, w :: ws, m =>
    storeDown segment (pxTopOfStack - 2) ws (writeWord m segment pxTopOfStack w)

/-- `pxPortInitialiseStack`: the new top of the stack, and the memory with the frame in it.  The
near pointer is an offset in the caller's data segment. -/
def pxPortInitialiseStack (pxTopOfStack pxCode pvParameters : UInt16) (c : Cpu) :
    UInt16 × ByteMap :=
  storeDown c.ds pxTopOfStack (initialStackWords P pxCode pvParameters c) c.memory

end Rp86.Processor
