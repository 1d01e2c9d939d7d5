import Rp86.Bus.PreparedResponder
import Rp86.Runtime.Machine

/-!
# The prepared instruction stream

`compile_irq_rom_sequence` of `runtime/canonical_runtime.c`: the key and response pairs, in order,
with which the responder serves one interrupt round.  `none` is a failed `hard_assert`.
`processor_runtime_image_data` is the assembled processor runtime, an argument here.
-/

namespace Rp86

open Lib

def maxPairs : ℕ := 96
def processorImageBase : ℕ := 0xF0000
def irqHandlerOffset : ℕ := 0x0140
def irqReturnOffset : ℕ := 0x0022
def calculatorSlotOffset : ℕ := 0x0170
def calculatorReturnOffset : ℕ := 0x0176
def ivt20OffsetAddress : UInt32 := 0x0080
def ivt20SegmentAddress : UInt32 := 0x0082
def calculatorStackIpAddress : UInt32 := 0x7FF6
def calculatorStackCsAddress : UInt32 := 0x7FF8
def stackIpAddress : UInt32 := 0x7FFA
def stackCsAddress : UInt32 := 0x7FFC
def stackFlagsAddress : UInt32 := 0x7FFE

structure ExactPair where
  key : UInt32
  response : UInt32
  deriving DecidableEq, Repr

/-- `add_pair`; a sequence is the list of its pairs. -/
def addPair (s : List ExactPair) (key : UInt32) (value : UInt16) : Option (List ExactPair) :=
  if s.length < maxPairs then some (s ++ [⟨key, preparedEncodeDrive value⟩]) else none

def addMemory (s : List ExactPair) (address : UInt32) (value : UInt16) :
    Option (List ExactPair) :=
  addPair s (preparedMemoryReadKey address) value

def ioReadKey (port : UInt16) : UInt32 :=
  (1 : UInt32) <<< pinAle ||| (1 : UInt32) <<< pinInta ||| preparedEncodeAddress port.toUInt32

/-- The word that `image_word` answers with: the calculator slot is patched. -/
def patchedWord (image : List UInt8) (manager : WorkloadManager) (m : Machine) (offset : ℕ) :
    UInt16 :=
  if manager.state = .running ∧ offset = calculatorSlotOffset then 0x9A90
  else if manager.state = .running ∧ offset = calculatorSlotOffset + 2 then
    (m.calculatorEntryLinear &&& 0x000F).toUInt16
  else if manager.state = .running ∧ offset = calculatorSlotOffset + 4 then
    (m.calculatorEntryLinear >>> 4).toUInt16
  else if manager.state ≠ .running ∧ offset = calculatorSlotOffset then m.calculatorOpcode
  else le16 image offset

def imageWord (image : List UInt8) (manager : WorkloadManager) (m : Machine) (offset : ℕ) :
    Option UInt16 :=
  if offset % 2 = 0 ∧ offset + 1 < image.length then some (patchedWord image manager m offset)
  else none

def calculatorWorkloadWord (backing : Backing) (address : UInt32) : Option UInt16 :=
  (memoryBackingRead backing address 2).map fun bytes => le16 bytes 0

/-- The offsets of the loop of `add_image_range`. -/
def imageOffsets (first endExclusive : ℕ) : List ℕ :=
  List.range' first ((endExclusive - first + 1) / 2) 2

def addImageRange (image : List UInt8) (manager : WorkloadManager) (m : Machine)
    (s : List ExactPair) (first endExclusive : ℕ) : Option (List ExactPair) :=
  (imageOffsets first endExclusive).foldlM (fun s offset => do
    let word ← imageWord image manager m offset
    addMemory s (UInt32.ofNat (processorImageBase + offset)) word) s

/-- The calculator workload between the two parts of the handler: its entry, and the return address
that the far call has pushed. -/
def addCalculatorEntry (backing : Backing) (m : Machine) (s : List ExactPair) :
    Option (List ExactPair) := do
  let entry := m.calculatorEntryLinear
  let s ← addMemory s entry (← calculatorWorkloadWord backing entry)
  let s ← addMemory s (entry + 2) (← calculatorWorkloadWord backing (entry + 2))
  let s ← addMemory s calculatorStackIpAddress (UInt16.ofNat calculatorReturnOffset)
  addMemory s calculatorStackCsAddress 0xF000

/-- The handler's words; the image is served up to its last whole word. -/
def addHandler (image : List UInt8) (manager : WorkloadManager) (backing : Backing) (m : Machine)
    (s : List ExactPair) : Option (List ExactPair) :=
  let imageEnd := image.length / 2 * 2
  if manager.state = .running then do
    let s ← addImageRange image manager m s irqHandlerOffset calculatorReturnOffset
    let s ← addCalculatorEntry backing m s
    addImageRange image manager m s calculatorReturnOffset imageEnd
  else addImageRange image manager m s irqHandlerOffset imageEnd

def compileIrqRomSequence (image : List UInt8) (manager : WorkloadManager) (backing : Backing)
    (m : Machine) : Option (List ExactPair) := do
  let s ← addMemory [] ivt20OffsetAddress (UInt16.ofNat irqHandlerOffset)
  let s ← addMemory s ivt20SegmentAddress 0xF000
  let s ← addHandler image manager backing m s
  let s ← addMemory s stackIpAddress (UInt16.ofNat irqReturnOffset)
  let s ← addMemory s stackCsAddress 0xF000
  addMemory s stackFlagsAddress 0xF246

end Rp86
