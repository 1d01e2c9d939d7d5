import Rp86.Runtime.DiagnosticBuffers
import Rp86.Runtime.Equiv.Attempt

/-!
# The native output of an attempt

The diagnostic port assembles lines.  `writeDiagnosticBuffers_holds`: no byte leads to a write
outside of the arrays, which hold what `NativeOutput` says.  `OutputOf` says what that is after any
stream of bytes: the first 95 bytes of the open line, and the result of the last line that has
ended.
-/

namespace Rp86

open Lib

/-! ### The arrays -/

/-- The arrays hold the collected line and the published result. -/
structure DiagnosticBuffers.Holds (d : DiagnosticBuffers) (o : NativeOutput) : Prop where
  size_line : d.diagnosticLine.length = diagnosticLineSize
  size_output : d.nativeOutput.length = workloadResultTextBytes
  diagnosticLength : d.diagnosticLength.toNat = o.diagnosticLine.length
  length_lt : o.diagnosticLine.length < diagnosticLineSize
  line : d.diagnosticLine.take o.diagnosticLine.length = o.diagnosticLine
  output : d.nativeOutput.take d.nativeOutputLength.toNat = o.nativeOutput
  resultFlags : d.resultFlags = o.resultFlags

section

variable {d : DiagnosticBuffers} {o : NativeOutput}

theorem flushDiagnosticBuffers_holds (h : d.Holds o) :
    ∃ d', flushDiagnosticBuffers d = some d' ∧ d'.Holds (flushDiagnosticLine o) := by
  obtain ⟨hline, houtput, hlength, hlt, htake, hout, hflags⟩ := h
  have h16 : workloadResultTextBytes = 16 := rfl
  have h16' : (16 : UInt32).toNat = 16 := rfl
  unfold flushDiagnosticBuffers flushDiagnosticLine
  by_cases hempty : o.diagnosticLine.length = 0
  · have hzero : d.diagnosticLength = 0 := UInt32.toNat_inj.mp (hlength.trans hempty)
    rw [if_pos hzero, if_pos hempty]
    exact ⟨d, rfl, hline, houtput, hlength, hlt, htake, hout, hflags⟩
  · have hzero : d.diagnosticLength ≠ 0 := by
      intro hc
      rw [hc] at hlength
      exact hempty hlength.symm
    -- the line with its terminating zero
    have hstore : storeByte d.diagnosticLine d.diagnosticLength.toNat 0
        = some (o.diagnosticLine ++ 0 :: d.diagnosticLine.drop (o.diagnosticLine.length + 1)) := by
      rw [storeByte, hlength, if_pos (by omega), List.set_eq_take_append_cons_drop,
        if_pos (by omega), htake]
    -- at most 16 bytes are kept of it, counted in 16 bits
    have hretained : (if d.diagnosticLength < 16 then d.diagnosticLength.toUInt16
        else 16 : UInt16).toNat = min o.diagnosticLine.length 16 := by
      split
      · next hshort =>
        rw [UInt32.lt_iff_toNat_lt, hlength, h16'] at hshort
        rw [UInt32.toNat_toUInt16, hlength, Nat.mod_eq_of_lt (by omega)]
        omega
      · next hlong =>
        rw [UInt32.lt_iff_toNat_lt, hlength, h16'] at hlong
        have : (16 : UInt16).toNat = 16 := rfl
        omega
    generalize (if d.diagnosticLength < 16 then d.diagnosticLength.toUInt16 else 16 : UInt16)
      = retained at hretained ⊢
    -- they overwrite the start of the native output
    have hcopy : copyBytes d.nativeOutput
        (o.diagnosticLine ++ 0 :: d.diagnosticLine.drop (o.diagnosticLine.length + 1))
        retained.toNat
        = some (o.diagnosticLine.take workloadResultTextBytes
          ++ d.nativeOutput.drop retained.toNat) := by
      rw [copyBytes, if_pos (by simp only [List.length_append]; omega),
        List.take_append_of_le_length (by omega), hretained]
      congr 2
      rw [List.take_eq_take_iff]
      omega
    have hlong : d.diagnosticLength > retained.toUInt32 ↔
        o.diagnosticLine.length > (o.diagnosticLine.take workloadResultTextBytes).length := by
      rw [gt_iff_lt, UInt32.lt_iff_toNat_lt, hlength, UInt16.toNat_toUInt32, hretained,
        List.length_take, h16, Nat.min_comm]
    rw [if_neg hzero, if_neg hempty, hstore]
    simp only [Option.bind_eq_bind, Option.bind_some, hcopy, cString_append_zero, hlong, hflags]
    refine ⟨_, rfl, ?_, ?_, rfl, show 0 < diagnosticLineSize by decide, rfl, ?_, rfl⟩
    · simp only [List.length_append, List.length_cons, List.length_drop]
      omega
    · simp only [List.length_append, List.length_take, List.length_drop]
      omega
    · exact List.take_left' (by rw [List.length_take, hretained, h16, Nat.min_comm])

/-- **No byte leads to a write outside of the arrays.** -/
theorem writeDiagnosticBuffers_holds (h : d.Holds o) (character : UInt8) :
    ∃ d', writeDiagnosticBuffers d character = some d' ∧
      d'.Holds (writeDiagnostic character o) := by
  have hflush := flushDiagnosticBuffers_holds h
  obtain ⟨hline, houtput, hlength, hlt, htake, hout, hflags⟩ := h
  have h96 : diagnosticLineSize = 96 := rfl
  have hsize : (UInt32.ofNat diagnosticLineSize).toNat = 96 := rfl
  have hone : (1 : UInt32).toNat = 1 := rfl
  -- the 32-bit test of the room is the one of the model
  have hroom : d.diagnosticLength + 1 < UInt32.ofNat diagnosticLineSize ↔
      o.diagnosticLine.length + 1 < diagnosticLineSize := by
    rw [UInt32.lt_iff_toNat_lt, UInt32.toNat_add, hlength, hone, hsize,
      Nat.mod_eq_of_lt (by omega), h96]
  unfold writeDiagnosticBuffers writeDiagnostic
  split_ifs with hend hfits hfits' hfits'
  · exact hflush
  · have hstore : storeByte d.diagnosticLine d.diagnosticLength.toNat character
        = some (o.diagnosticLine ++
          character :: d.diagnosticLine.drop (o.diagnosticLine.length + 1)) := by
      rw [storeByte, hlength, if_pos (by omega), List.set_eq_take_append_cons_drop,
        if_pos (by omega), htake]
    rw [hstore]
    refine ⟨_, rfl, ?_, houtput, ?_, ?_, ?_, hout, hflags⟩
    · simp only [List.length_append, List.length_cons, List.length_drop]
      omega
    · rw [UInt32.toNat_add, hlength, hone, Nat.mod_eq_of_lt (by omega), List.length_append]
      rfl
    · rw [List.length_append]
      exact hfits'
    · rw [List.append_cons o.diagnosticLine character (List.drop _ _)]
      exact List.take_left' rfl
  · exact absurd (hroom.mp hfits) hfits'
  · exact absurd (hroom.mpr hfits') hfits
  · exact ⟨d, rfl, hline, houtput, hlength, hlt, htake, hout, hflags⟩

end

/-! ### The result of a stream -/

def lineFlags (line : List UInt8) : UInt32 :=
  resultNativeOutput |||
    (if line.length > workloadResultTextBytes then resultNativeOutputTruncated else 0) |||
    (if cString line = passText then resultPass else 0)

/-- What the executor holds after a stream of bytes. -/
structure OutputOf (bytes : List UInt8) (o : NativeOutput) : Prop where
  diagnosticLine : o.diagnosticLine = (openLine isEol bytes).take (diagnosticLineSize - 1)
  nativeOutput : o.nativeOutput
    = ((lastLine isEol bytes).getD []).take workloadResultTextBytes
  resultFlags : o.resultFlags = ((lastLine isEol bytes).map lineFlags).getD 0

section

variable {bytes : List UInt8} {o : NativeOutput}

theorem outputOf_nil : OutputOf [] ⟨[], [], 0⟩ := by
  refine ⟨?_, ?_, ?_⟩ <;> simp [lastLine]

/-- The flags of the last line are cleared before those of the next are set. -/
theorem lineFlags_cleared (line : Option (List UInt8)) :
    (line.map lineFlags).getD 0 &&&
      ~~~ (resultPass ||| resultNativeOutput ||| resultNativeOutputTruncated) = 0 := by
  cases line with
  | none => decide
  | some line =>
    simp only [Option.map_some, Option.getD_some, lineFlags]
    split_ifs <;> decide

/-- `strcmp` does not read past the bytes that are kept of a long line. -/
theorem cString_take_eq_passText (line : List UInt8) :
    cString (line.take (diagnosticLineSize - 1)) = passText ↔ cString line = passText := by
  have hpass : passText.length = 12 := rfl
  have h96 : diagnosticLineSize = 96 := rfl
  have htake : cString (line.take (diagnosticLineSize - 1))
      = (cString line).take (diagnosticLineSize - 1) := List.take_takeWhile.symm
  rw [htake]
  constructor
  · intro h
    have hlength := congrArg List.length h
    rw [List.length_take, hpass] at hlength
    rwa [List.take_of_length_le (by omega)] at h
  · intro h
    rw [h]
    rfl

theorem OutputOf.flush (h : OutputOf bytes o) {character : UInt8} (hend : isEol character = true) :
    OutputOf (bytes ++ [character]) (flushDiagnosticLine o) := by
  obtain ⟨hline, houtput, hflags⟩ := h
  have h96 : diagnosticLineSize = 96 := rfl
  have h16 : workloadResultTextBytes = 16 := rfl
  have hopen : openLine isEol (bytes ++ [character]) = [] := by rw [openLine_concat, if_pos hend]
  have hlength : o.diagnosticLine.length = min 95 (openLine isEol bytes).length := by
    rw [hline, List.length_take, h96]
  unfold flushDiagnosticLine
  by_cases hempty : openLine isEol bytes = []
  · have hlast : lastLine isEol (bytes ++ [character]) = lastLine isEol bytes := by
      rw [lastLine_concat, if_neg (fun hc => hc.2 hempty)]
    rw [if_pos (by rw [hlength, hempty]; rfl)]
    exact ⟨by rw [hopen, hline, hempty], by rw [hlast, houtput], by rw [hlast, hflags]⟩
  · have hlast : lastLine isEol (bytes ++ [character]) = some (openLine isEol bytes) := by
      rw [lastLine_concat, if_pos ⟨hend, hempty⟩]
    have hpos : (openLine isEol bytes).length ≠ 0 :=
      fun hc => hempty (List.length_eq_zero_iff.mp hc)
    -- 95 bytes of a long line are enough for the cut and for the text
    have hlong : o.diagnosticLine.length > (o.diagnosticLine.take workloadResultTextBytes).length ↔
        (openLine isEol bytes).length > workloadResultTextBytes := by
      rw [List.length_take, hlength, h16]
      omega
    have hpass : o.diagnosticLine.takeWhile (· ≠ 0) = passText ↔
        cString (openLine isEol bytes) = passText := by
      rw [hline]
      exact cString_take_eq_passText _
    rw [if_neg (by omega), hflags]
    simp only [hlong, hpass, lineFlags_cleared]
    refine ⟨by rw [hopen]; rfl, ?_, ?_⟩
    · rw [hlast, hline, List.take_take]
      rfl
    · rw [hlast]
      simp only [Option.map_some, Option.getD_some, lineFlags]
      split_ifs <;> rfl

/-- **What the executor holds after one more byte.** -/
theorem OutputOf.write (h : OutputOf bytes o) (character : UInt8) :
    OutputOf (bytes ++ [character]) (writeDiagnostic character o) := by
  unfold writeDiagnostic
  split
  · next hend => exact h.flush (by simpa [isEol] using hend)
  · next hother =>
    have hend : isEol character = false := by simpa [isEol] using hother
    have hopen : openLine isEol (bytes ++ [character]) = openLine isEol bytes ++ [character] := by
      rw [openLine_concat, hend]
      rfl
    have hlast : lastLine isEol (bytes ++ [character]) = lastLine isEol bytes := by
      rw [lastLine_concat, hend]
      simp
    obtain ⟨hline, houtput, hflags⟩ := h
    have h96 : diagnosticLineSize = 96 := rfl
    have hlength : o.diagnosticLine.length = min 95 (openLine isEol bytes).length := by
      rw [hline, List.length_take, h96]
    split_ifs with hroom
    · refine ⟨?_, by rw [hlast]; exact houtput, by rw [hlast]; exact hflags⟩
      rw [hopen, List.take_of_length_le (by rw [List.length_append, List.length_singleton]; omega)]
      simp only
      rw [hline, List.take_of_length_le (by omega)]
    · refine ⟨?_, by rw [hlast]; exact houtput, by rw [hlast]; exact hflags⟩
      rw [hopen, List.take_append_of_le_length (by omega)]
      exact hline

end

/-! ### The bytes of an attempt -/

/-- The byte that a cycle wrote to the diagnostic port. -/
def CycleRecord.diagnosticByte (r : CycleRecord) : Option UInt8 :=
  if r.outcome = .completed then r.stats.diagnosticByte else none

/-- The bytes that the current attempt has written to the diagnostic port. -/
def diagnosticBytes (env : Env) (machine : Machine) (actions : List FirmwareAction) : List UInt8 :=
  (attemptCycles env machine actions).filterMap CycleRecord.diagnosticByte

theorem firmwareRun_outputOf {env : Env} {machine : Machine} {actions : List FirmwareAction}
    (hactive : (firmwareRun env machine actions).executor.active = true) :
    OutputOf (diagnosticBytes env machine actions)
      (firmwareRun env machine actions).executor.io.output := by
  refine @firmwareRun_attempt env machine
    (fun fw cycles => OutputOf (cycles.filterMap CycleRecord.diagnosticByte) fw.executor.io.output)
    (fun fw hstart => ?_) (fun fw fw' cycles hsame hline h => ?_)
    (fun fw cycles completed fw₁ outcome fw' hcycle h => ?_) actions hactive
  · rw [hstart.output]
    exact outputOf_nil
  · rw [hsame.io]
    exact h
  · have hio : CycleIo completed fw₁.executor.busStats
        { fw.executor.io with tick := ((fw.deadlineChecked env).tickUpdate env).1 }
        fw₁.executor.io := (executorBusCycle_effect hcycle.bus).io
    have hbyte : (⟨outcome, fw₁.executor.busStats, env.timeUs fw₁.machine.board.reads⟩ :
        CycleRecord).diagnosticByte
        = if completed then fw₁.executor.busStats.diagnosticByte else none := by
      rw [CycleRecord.diagnosticByte, ← hcycle.went.decide_completed]
      simp
    rw [List.filterMap_append, hcycle.kept.output, hio.output, List.filterMap_cons,
      List.filterMap_nil, hbyte]
    cases (if completed then fw₁.executor.busStats.diagnosticByte else none) with
    | none =>
      rw [List.append_nil]
      exact h
    | some character => exact h.write character

/-! ### Exactness -/

/-- The arrays at the start of an attempt. -/
structure DiagnosticBuffers.Fresh (d : DiagnosticBuffers) : Prop where
  size_line : d.diagnosticLine.length = diagnosticLineSize
  size_output : d.nativeOutput.length = workloadResultTextBytes
  diagnosticLength : d.diagnosticLength = 0
  nativeOutputLength : d.nativeOutputLength = 0
  resultFlags : d.resultFlags = 0

/-- The output is that of the last line of the bytes, and the arrays hold it after the same
bytes, with no write outside of them. -/
structure NativeOutputExact (bytes : List UInt8) (o : NativeOutput) : Prop where
  pass : o.resultFlags &&& resultPass ≠ 0 ↔ lastLine isEol bytes = some passText
  nativeOutput : o.nativeOutput = ((lastLine isEol bytes).getD []).take 16
  truncated : o.resultFlags &&& resultNativeOutputTruncated ≠ 0 ↔
    ∃ line, lastLine isEol bytes = some line ∧ 16 < line.length
  present : o.resultFlags &&& resultNativeOutput ≠ 0 ↔ ∃ line, lastLine isEol bytes = some line
  buffers : ∀ d : DiagnosticBuffers, d.Fresh →
    ∃ d', bytes.foldlM writeDiagnosticBuffers d = some d' ∧ d'.Holds o

section

variable {bytes : List UInt8} {o : NativeOutput}

theorem lineFlags_bits (line : List UInt8) :
    (lineFlags line &&& resultPass ≠ 0 ↔ cString line = passText) ∧
      (lineFlags line &&& resultNativeOutputTruncated ≠ 0 ↔ 16 < line.length) ∧
      lineFlags line &&& resultNativeOutput ≠ 0 := by
  have h16 : workloadResultTextBytes = 16 := rfl
  unfold lineFlags
  rw [h16]
  split_ifs with hlong hpass hpass
  · exact ⟨iff_of_true (by decide) hpass, iff_of_true (by decide) hlong, by decide⟩
  · exact ⟨iff_of_false (by decide) hpass, iff_of_true (by decide) hlong, by decide⟩
  · exact ⟨iff_of_true (by decide) hpass, iff_of_false (by decide) hlong, by decide⟩
  · exact ⟨iff_of_false (by decide) hpass, iff_of_false (by decide) hlong, by decide⟩

/-- The arrays after a stream of bytes. -/
theorem foldlM_writeDiagnosticBuffers {d : DiagnosticBuffers} (h : d.Holds o)
    (bytes : List UInt8) :
    ∃ d', bytes.foldlM writeDiagnosticBuffers d = some d' ∧
      d'.Holds (bytes.foldl (fun o character => writeDiagnostic character o) o) := by
  induction bytes generalizing d o with
  | nil => exact ⟨d, rfl, h⟩
  | cons character bytes ih =>
    obtain ⟨d₁, hwrite, h₁⟩ := writeDiagnosticBuffers_holds h character
    obtain ⟨d', hrest, h'⟩ := ih h₁
    refine ⟨d', ?_, h'⟩
    rw [List.foldlM_cons, hwrite]
    exact hrest

theorem outputOf_foldl (bytes : List UInt8) :
    OutputOf bytes (bytes.foldl (fun o character => writeDiagnostic character o) ⟨[], [], 0⟩) := by
  induction bytes using List.reverseRecOn with
  | nil => exact outputOf_nil
  | append_singleton bytes character ih =>
    rw [List.foldl_append]
    exact ih.write character

theorem OutputOf.unique {o' : NativeOutput} (h : OutputOf bytes o) (h' : OutputOf bytes o') :
    o = o' := by
  obtain ⟨hline, houtput, hflags⟩ := h
  obtain ⟨hline', houtput', hflags'⟩ := h'
  cases o
  cases o'
  simp only at hline houtput hflags hline' houtput' hflags'
  rw [hline, houtput, hflags, hline', houtput', hflags']

/-- Everything but `PASS` is always that of the last line. -/
theorem OutputOf.exact_iff (h : OutputOf bytes o) :
    NativeOutputExact bytes o ↔
      (o.resultFlags &&& resultPass ≠ 0 ↔ lastLine isEol bytes = some passText) := by
  refine ⟨fun hexact => hexact.pass, fun hpass => ⟨hpass, h.nativeOutput, ?_, ?_, ?_⟩⟩
  · rw [h.resultFlags]
    cases lastLine isEol bytes with
    | none => simp
    | some line => simpa using (lineFlags_bits line).2.1
  · rw [h.resultFlags]
    cases lastLine isEol bytes with
    | none => simp
    | some line => simpa using (lineFlags_bits line).2.2
  · intro d hd
    have hfresh : d.Holds ⟨[], [], 0⟩ :=
      ⟨hd.size_line, hd.size_output, by rw [hd.diagnosticLength]; rfl,
        show 0 < diagnosticLineSize by decide, rfl, by rw [hd.nativeOutputLength]; rfl,
        hd.resultFlags⟩
    obtain ⟨d', hwrites, hholds⟩ := foldlM_writeDiagnosticBuffers hfresh bytes
    rw [(outputOf_foldl bytes).unique h] at hholds
    exact ⟨d', hwrites, hholds⟩

end

/-- **The native output is exact but for a zero byte behind the pass text.**  After every run, for
an attempt that is still active and the bytes it has written to the diagnostic port: the published
output and flags are those of the last line exactly if that line is not `RESULT: PASS` with a zero
and anything behind it. -/
theorem native_output_exact_iff (env : Env) (machine : Machine) (actions : List FirmwareAction)
    (hactive : (firmwareRun env machine actions).executor.active = true) :
    NativeOutputExact (diagnosticBytes env machine actions)
        (firmwareRun env machine actions).executor.io.output ↔
      ∀ rest, lastLine isEol (diagnosticBytes env machine actions)
        ≠ some (passText ++ 0 :: rest) := by
  have h := firmwareRun_outputOf hactive
  generalize diagnosticBytes env machine actions = bytes at h ⊢
  rw [h.exact_iff, h.resultFlags]
  cases lastLine isEol bytes with
  | none => simp
  | some line =>
    have hpass := (lineFlags_bits line).1
    rw [cString_eq_iff (by decide)] at hpass
    simp only [Option.map_some, Option.getD_some, Option.some.injEq, ne_eq] at hpass ⊢
    rw [hpass]
    constructor
    · rintro hexact rest rfl
      have hlength := congrArg List.length (hexact.mp (Or.inr ⟨rest, rfl⟩))
      rw [List.length_append, List.length_cons] at hlength
      omega
    · intro hno
      exact ⟨fun hc => hc.resolve_right fun ⟨rest, hrest⟩ => hno rest hrest, Or.inl⟩

/-- The pins during a processor write of a byte to the diagnostic port, on the high lane. -/
def diagnosticSamples (character : UInt8) : List UInt32 :=
  let ad (word : UInt16) : UInt32 := dataLoLut word.toUInt8 ||| dataHiLut (word >>> 8).toUInt8
  [(1 : UInt32) <<< pinAle ||| ad ioPortDiagnostic,
    (1 : UInt32) <<< pinDtr ||| (1 : UInt32) <<< pinInta ||| ad (character.toUInt16 <<< 8), 0, 0]

/-- The board of a workload that writes the bytes to the diagnostic port. -/
def diagnosticEnv (bytes : List UInt8) : Env := scriptedEnv 102 (bytes.flatMap diagnosticSamples)

/-- A run of a workload that writes 14 bytes. -/
def diagnosticRun : List FirmwareAction := haltStart ++ List.replicate 14 .service

theorem native_output_exact_iff_pass :
    NativeOutputExact
      (diagnosticBytes (diagnosticEnv (passText ++ [0x0D, 0x0A])) coldMachine diagnosticRun)
      (firmwareRun (diagnosticEnv (passText ++ [0x0D, 0x0A])) coldMachine
        diagnosticRun).executor.io.output := by
  have hbytes : diagnosticBytes (diagnosticEnv (passText ++ [0x0D, 0x0A])) coldMachine diagnosticRun
      = passText ++ [0x0D, 0x0A] := by decide +kernel
  have hactive : (firmwareRun (diagnosticEnv (passText ++ [0x0D, 0x0A])) coldMachine
      diagnosticRun).executor.active = true := by decide +kernel
  refine (native_output_exact_iff (diagnosticEnv (passText ++ [0x0D, 0x0A])) coldMachine
    diagnosticRun hactive).mpr fun rest hrest => ?_
  rw [hbytes, show lastLine isEol (passText ++ [0x0D, 0x0A]) = some passText by decide +kernel]
    at hrest
  have hlength := congrArg List.length (Option.some.inj hrest)
  rw [List.length_append, List.length_cons] at hlength
  omega

/-- A line that goes on behind a zero byte passes. -/
theorem pass_behind_zero :
    (firmwareRun (diagnosticEnv (passText ++ [0, 0x0A])) coldMachine
        diagnosticRun).executor.active = true ∧
      diagnosticBytes (diagnosticEnv (passText ++ [0, 0x0A])) coldMachine diagnosticRun
        = passText ++ [0, 0x0A] ∧
      ¬ NativeOutputExact
        (diagnosticBytes (diagnosticEnv (passText ++ [0, 0x0A])) coldMachine diagnosticRun)
        (firmwareRun (diagnosticEnv (passText ++ [0, 0x0A])) coldMachine
          diagnosticRun).executor.io.output := by
  refine ⟨by decide +kernel, by decide +kernel, fun hexact => ?_⟩
  have hpass := hexact.pass.mp (by decide +kernel)
  exact absurd hpass (by decide +kernel)

end Rp86
