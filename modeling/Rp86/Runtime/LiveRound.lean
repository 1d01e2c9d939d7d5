import Rp86.Bus.PreparedResponder
import Rp86.Lib.Run
import Rp86.Runtime.ProcessorAbi

/-!
# Classifying a live round

`classify_live_round` of `runtime/canonical_runtime.c` reads the words that the passive observer
took from the bus and decides what the processor did in one interrupt round; `run_live_round` polls
it until the round is complete.  The DMA words are a list, of which a poll reads the first
`word_count`; a cycle is a pair of them.
-/

namespace Rp86

open Lib

def nativeTextWords : ℕ := 6
def nativeProcessorWords : ℕ := 1
def nativeCounterCopies : ℕ := 3
def nativeReplyWords : ℕ := 13
def calculatorMagic : UInt16 := 0xCA1C

def preparedProcessorSignatureValid (signature : UInt16) : Bool :=
  signature == 0x0012 || signature == 0x000C

/-- What `classify_live_round` reads and writes of `live_round_result_t`. -/
structure LiveRoundResult where
  witness : Bool
  irqCommit : Bool
  eoi : Bool
  foregroundCommit : Bool
  nativeCounterValid : Bool
  processorIdentityValid : Bool
  observedWitness : UInt16
  processorSignature : UInt16
  observedCycles : UInt32
  cpuSequence : UInt32
  commandSequence : UInt32
  calculatorRequested : Bool
  calculatorValid : Bool
  calculatorOperation : UInt16
  calculatorLhs : UInt16
  calculatorRhs : UInt16
  calculatorLow : UInt16
  calculatorHigh : UInt16
  deriving DecidableEq, Repr

/-- The zeroed result with which `run_live_round` starts. -/
def LiveRoundResult.zero (calculatorRequested : Bool) : LiveRoundResult where
  witness := false
  irqCommit := false
  eoi := false
  foregroundCommit := false
  nativeCounterValid := false
  processorIdentityValid := false
  observedWitness := 0
  processorSignature := 0
  observedCycles := 0
  cpuSequence := 0
  commandSequence := 0
  calculatorRequested := calculatorRequested
  calculatorValid := false
  calculatorOperation := 0
  calculatorLhs := 0
  calculatorRhs := 0
  calculatorLow := 0
  calculatorHigh := 0

/-- The locals of `classify_live_round`: the result, `tx_data` and `tx_words`. -/
structure LiveScan where
  round : LiveRoundResult
  txData : List UInt16
  txWords : ℕ
  deriving DecidableEq, Repr

/-- One cycle of the observer: its `T1` sample and the sample of its data phase. -/
structure ObservedCycle where
  addressRaw : UInt32
  dataRaw : UInt32
  deriving DecidableEq, Repr

def rawIoWrite (raw : UInt32) : Bool :=
  sampleBit raw pinIom == 0 && sampleBit raw pinDtr != 0 && sampleBit raw pinInta != 0

def counterCopy (txData : List UInt16) (copy : ℕ) : UInt32 :=
  let word := nativeTextWords + nativeProcessorWords + copy * 2
  (txData.getD word 0).toUInt32 ||| (txData.getD (word + 1) 0).toUInt32 <<< 16

/-- The counter that two of the three copies agree on. -/
def agreedCounter (txData : List UInt16) : Option UInt32 :=
  if counterCopy txData 0 = counterCopy txData 1 ∨ counterCopy txData 0 = counterCopy txData 2 then
    some (counterCopy txData 0)
  else if counterCopy txData 1 = counterCopy txData 2 then some (counterCopy txData 1)
  else none

/-- The calculator reply of an interrupt commit, against the request in `g_host_words`. -/
def classifyCalculator (hostWords txData : List UInt16) (round : LiveRoundResult) :
    LiveRoundResult :=
  if round.calculatorRequested = true ∧ txData.getD 2 0 = calculatorMagic ∧
      txData.getD 3 0 = hostWords.getD 1 0 ∧ txData.getD 4 0 = hostWords.getD 2 0 ∧
      txData.getD 5 0 = hostWords.getD 3 0 then
    { round with
      calculatorOperation := txData.getD 3 0
      calculatorLhs := txData.getD 4 0
      calculatorRhs := txData.getD 5 0
      calculatorLow := txData.getD 0 0
      calculatorHigh := txData.getD 1 0
      calculatorValid := true }
  else round

/-- A commit behind a whole reply: the interrupt handler's. -/
def classifyIrqCommit (hostWords txData : List UInt16) (round : LiveRoundResult) :
    LiveRoundResult :=
  let signature := txData.getD nativeTextWords 0
  let round := { round with
    irqCommit := true
    processorSignature := signature
    processorIdentityValid := preparedProcessorSignatureValid signature }
  let round := match agreedCounter txData with
    | some counter => { round with cpuSequence := counter, nativeCounterValid := true }
    | none => round
  classifyCalculator hostWords txData { round with commandSequence := 0 }

/-- A write of 1 to the control port. -/
def classifyCommit (hostWords : List UInt16) (s : LiveScan) : LiveScan where
  round :=
    if nativeReplyWords ≤ s.txWords then classifyIrqCommit hostWords s.txData s.round
    else if s.round.eoi = true ∧ 1 ≤ s.txWords then { s.round with foregroundCommit := true }
    else s.round
  txData := List.replicate nativeReplyWords 0
  txWords := 0

/-- The body of the loop of `classify_live_round`. -/
def classifyCycle (expectedWitness : UInt16) (hostWords : List UInt16) (s : LiveScan)
    (cycle : ObservedCycle) : LiveScan :=
  if !rawIoWrite cycle.addressRaw then s
  else
    let address := preparedDecodeAddress cycle.addressRaw
    let data := preparedDecodeAd cycle.dataRaw
    if address = ioPortResult.toUInt32 then { s with round := { s.round with
      observedWitness := data
      witness := data == expectedWitness } }
    else if address = ioPortTx.toUInt32 then { s with
      txData := if s.txWords < nativeReplyWords then s.txData.set s.txWords data else s.txData
      txWords := s.txWords + 1 }
    else if address = ioPortControl.toUInt32 ∧ data = 1 then classifyCommit hostWords s
    else if address = ioPortPicCommand.toUInt32 ∧ data &&& 0xFF = 0x20 then
      { s with round := { s.round with eoi := true } }
    else s

/-- The complete cycles among the first `wordCount` observer words. -/
def observedCycles (words : List UInt32) (wordCount : UInt32) : List ObservedCycle :=
  (List.range (wordCount / 2).toNat).map fun i =>
    ⟨words.getD (i * 2) 0, words.getD (i * 2 + 1) 0⟩

/-- What `classify_live_round` resets before it scans; `cpu_sequence` and the calculator words
keep their values. -/
def liveScanInit (round : LiveRoundResult) (wordCount : UInt32) : LiveScan where
  round := { round with
    witness := false
    irqCommit := false
    eoi := false
    foregroundCommit := false
    nativeCounterValid := false
    processorIdentityValid := false
    calculatorValid := false
    processorSignature := 0
    observedWitness := 0
    observedCycles := wordCount / 2 }
  txData := List.replicate nativeReplyWords 0
  txWords := 0

def classifyLiveRound (words : List UInt32) (hostWords : List UInt16) (round : LiveRoundResult)
    (wordCount : UInt32) (expectedWitness : UInt16) : LiveRoundResult :=
  (run (classifyCycle expectedWitness hostWords) (liveScanInit round wordCount)
    (observedCycles words wordCount)).round

/-- The condition on which `run_live_round` returns `true`. -/
def LiveRoundResult.complete (round : LiveRoundResult) : Bool :=
  round.witness && round.irqCommit && round.nativeCounterValid && round.processorIdentityValid &&
    round.eoi && round.foregroundCommit && (!round.calculatorRequested || round.calculatorValid)

/-- The polls of `run_live_round`, which passes at the first that finds the round complete. -/
def pollLiveRound (hostWords : List UInt16) (expectedWitness : UInt16) :
    LiveRoundResult → List (List UInt32 × UInt32) → Option LiveRoundResult
  | _, [] => none
  | round, (words, wordCount) :: polls =>
    let round := classifyLiveRound words hostWords round wordCount expectedWitness
    if round.complete then some round else pollLiveRound hostWords expectedWitness round polls

end Rp86
