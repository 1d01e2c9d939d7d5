import Rp86.Runtime.CdcCommandParser
import Mathlib.Data.List.Induction

/-!
# What the CDC command lines mean

`cdcCommands_holds`: after any stream of characters the parser holds the open line, unless that has
overflowed, and it has emitted one command for each line that has ended.  The command of a line that
fits is that of the C string in it, so that a line is taken for a command exactly when it is one of
the spellings.
-/

namespace Rp86

open Lib

/-! ### The spellings -/

/-- The spellings of a command.  Every other line is invalid. -/
def CdcCommand.spellings : CdcCommand → List (List UInt8)
  | .status => [ascii "RP86 STATUS", ascii "status"]
  | .enterBootloader => [ascii "RP86 BOOTLOADER", ascii "bootloader", ascii "bootsel"]
  | .reboot => [ascii "RP86 REBOOT", ascii "reboot"]
  | .invalid => []

def spelledCommand (line : List UInt8) : CdcCommand :=
  if line ∈ CdcCommand.status.spellings then .status
  else if line ∈ CdcCommand.enterBootloader.spellings then .enterBootloader
  else if line ∈ CdcCommand.reboot.spellings then .reboot
  else .invalid

theorem CdcCommand.spellings_text {command : CdcCommand} {text : List UInt8}
    (h : text ∈ command.spellings) : 0 ∉ text ∧ text.length < cdcCommandCapacity := by
  have hall : ∀ text ∈ command.spellings, 0 ∉ text ∧ text.length < cdcCommandCapacity := by
    cases command <;> decide
  exact hall text h

theorem spelledCommand_eq_invalid_iff {line : List UInt8} :
    spelledCommand line = .invalid ↔ ∀ command : CdcCommand, line ∉ command.spellings := by
  unfold spelledCommand
  constructor
  · intro h command hline
    cases command with
    | status => rw [if_pos hline] at h; cases h
    | enterBootloader =>
      rw [if_pos hline] at h
      split at h <;> cases h
    | reboot =>
      rw [if_pos hline] at h
      split at h
      · cases h
      · split at h <;> cases h
    | invalid => cases hline
  · intro h
    rw [if_neg (h .status), if_neg (h .enterBootloader), if_neg (h .reboot)]

theorem parseCommand_eq (text : List UInt8) :
    parseCommand text = spelledCommand (cString text) := by
  simp [parseCommand, spelledCommand, CdcCommand.spellings]

/-- The command that a line which has ended is taken for. -/
def lineCommand (line : List UInt8) : CdcCommand :=
  if line.length < cdcCommandCapacity then spelledCommand (cString line) else .invalid

/-- **A line is taken for what it spells, unless it fits and is a spelling with a zero byte behind
it.** -/
theorem lineCommand_eq_spelledCommand_iff (line : List UInt8) :
    lineCommand line = spelledCommand line ↔
      (line.length < cdcCommandCapacity → ∀ command : CdcCommand, ∀ text ∈ command.spellings,
        ∀ rest, line ≠ text ++ 0 :: rest) := by
  unfold lineCommand
  split
  · next hfits =>
    constructor
    · rintro h - command text htext rest rfl
      have hzero := (CdcCommand.spellings_text htext).1
      -- the text behind the zero is no part of the C string, and no spelling has a zero
      have hline : spelledCommand (text ++ 0 :: rest) = .invalid := by
        rw [spelledCommand_eq_invalid_iff]
        intro command' hmem
        exact (CdcCommand.spellings_text hmem).1 (by simp)
      have hcString : cString (text ++ 0 :: rest) = text :=
        (cString_eq_iff hzero).mpr (Or.inr ⟨rest, rfl⟩)
      rw [hline, hcString, spelledCommand_eq_invalid_iff] at h
      exact h command htext
    · intro h
      by_cases hspelled : ∃ command : CdcCommand, cString line ∈ command.spellings
      · obtain ⟨command, hmem⟩ := hspelled
        obtain heq | ⟨rest, heq⟩ :=
          (cString_eq_iff (CdcCommand.spellings_text hmem).1).mp (Eq.refl (cString line))
        · rw [← heq]
        · exact absurd heq (h hfits command _ hmem rest)
      · -- a spelling is its own C string
        rw [not_exists] at hspelled
        have hline : ∀ command : CdcCommand, line ∉ command.spellings := by
          intro command hmem
          have hself : cString line = line :=
            (cString_eq_iff (CdcCommand.spellings_text hmem).1).mpr (Or.inl rfl)
          exact hspelled command (hself.symm ▸ hmem)
        rw [spelledCommand_eq_invalid_iff.mpr hspelled, spelledCommand_eq_invalid_iff.mpr hline]
  · next hfits =>
    have hline : spelledCommand line = .invalid := by
      rw [spelledCommand_eq_invalid_iff]
      intro command hmem
      exact hfits (CdcCommand.spellings_text hmem).2
    rw [hline]
    exact iff_of_true rfl (fun h => absurd h hfits)

/-! ### The stream -/

/-- The parser holds the open line, or has overflowed with it. -/
structure CdcCommandParser.Holds (p : CdcCommandParser) (line : List UInt8) : Prop where
  overflowed : p.overflowed = true ↔ cdcCommandCapacity ≤ line.length
  length : line.length < cdcCommandCapacity → p.length = line.length
  text : line.length < cdcCommandCapacity → p.text.toList.take line.length = line

section

variable {p : CdcCommandParser} {line : List UInt8} {character : UInt8}

theorem CdcCommandParser.Holds.not_overflowed (h : p.Holds line)
    (hfits : line.length < cdcCommandCapacity) : p.overflowed = false := by
  rw [Bool.eq_false_iff, Ne, h.overflowed]
  omega

/-- The text with one more byte, whatever stood behind it. -/
theorem CdcCommandParser.Holds.put_text (h : p.Holds line)
    (hfits : line.length < cdcCommandCapacity) (character : UInt8) :
    (p.put character).text.toList
      = line ++ character :: p.text.toList.drop (line.length + 1) := by
  show (p.text.set p.length character p.length_lt).toList = _
  rw [Vector.toList_set, h.length hfits, List.set_eq_take_append_cons_drop,
    if_pos (by rw [Vector.length_toList]; exact hfits), h.text hfits]

theorem cdcCommandParserFeed_eol (h : p.Holds line) (hend : isEol character = true) :
    (cdcCommandParserFeed p character).1.Holds [] ∧
    (cdcCommandParserFeed p character).2 = if line = [] then none else some (lineCommand line) := by
  have hempty : ∀ q : CdcCommandParser, q.overflowed = false → q.length = 0 → q.Holds [] := by
    intro q hover hlength
    refine ⟨?_, fun _ => hlength, fun _ => rfl⟩
    rw [hover]
    decide
  unfold cdcCommandParserFeed
  rw [if_pos hend]
  by_cases hfits : line.length < cdcCommandCapacity
  · have hover := h.not_overflowed hfits
    have hlength := h.length hfits
    rw [if_neg (by rw [hover]; exact Bool.false_ne_true)]
    by_cases hline : line = []
    · subst hline
      rw [if_pos (show p.length = 0 from hlength), if_pos rfl]
      exact ⟨h, rfl⟩
    · rw [if_neg (by rw [hlength]; exact fun hc => hline (List.length_eq_zero_iff.mp hc)),
        if_neg hline]
      refine ⟨hempty _ hover rfl, ?_⟩
      show some (parseCommand (p.put 0).text.toList) = some (lineCommand line)
      rw [h.put_text hfits, parseCommand_eq, cString_append_zero, lineCommand, if_pos hfits]
  · rw [if_pos (h.overflowed.mpr (by omega))]
    have hline : line ≠ [] := by
      rintro rfl
      exact hfits (by decide)
    rw [if_neg hline, lineCommand, if_neg hfits]
    exact ⟨hempty _ rfl rfl, rfl⟩

theorem cdcCommandParserFeed_character (h : p.Holds line) (hend : isEol character = false) :
    (cdcCommandParserFeed p character).1.Holds (line ++ [character]) ∧
    (cdcCommandParserFeed p character).2 = none := by
  unfold cdcCommandParserFeed
  rw [if_neg (by rw [hend]; exact Bool.false_ne_true)]
  have hconcat : (line ++ [character]).length = line.length + 1 := by simp
  by_cases hfits : line.length < cdcCommandCapacity
  · have hover := h.not_overflowed hfits
    have hlength := h.length hfits
    rw [if_neg (by rw [hover]; exact Bool.false_ne_true)]
    split
    · next hroom =>
      refine ⟨⟨?_, fun _ => ?_, fun _ => ?_⟩, rfl⟩
      · show p.overflowed = true ↔ _
        rw [hover, hconcat]
        exact iff_of_false Bool.false_ne_true (by omega)
      · show p.length + 1 = _
        rw [hconcat, hlength]
      · show (p.put character).text.toList.take _ = _
        rw [h.put_text hfits, List.append_cons line character (List.drop _ _), List.take_left]
    · next hroom =>
      -- the line is as long as the capacity, and only the overflow is left of it
      refine ⟨⟨?_, fun hc => ?_, fun hc => ?_⟩, rfl⟩
      · exact iff_of_true rfl (by omega)
      · omega
      · omega
  · rw [if_pos (h.overflowed.mpr (by omega))]
    refine ⟨⟨?_, fun hc => ?_, fun hc => ?_⟩, rfl⟩
    · exact iff_of_true (h.overflowed.mpr (by omega)) (by omega)
    · omega
    · omega

end

/-- **After any stream the parser holds the open line, and one command was emitted for each line
that has ended.** -/
theorem cdcCommands_holds (bytes : List UInt8) :
    (cdcCommands bytes).1.Holds (openLine isEol bytes) ∧
    (cdcCommands bytes).2 = (endedLines isEol bytes).map lineCommand := by
  induction bytes using List.reverseRecOn with
  | nil =>
    refine ⟨⟨by decide, fun _ => rfl, fun _ => rfl⟩, rfl⟩
  | append_singleton bytes character ih =>
    obtain ⟨hholds, hcommands⟩ := ih
    have hstep : cdcCommands (bytes ++ [character])
        = ((cdcCommandParserFeed (cdcCommands bytes).1 character).1,
          (cdcCommands bytes).2
            ++ (cdcCommandParserFeed (cdcCommands bytes).1 character).2.toList) := by
      simp [cdcCommands]
    rw [hstep, openLine_concat, endedLines_concat, List.map_append, hcommands]
    cases hend : isEol character with
    | true =>
      obtain ⟨hnext, hcommand⟩ := cdcCommandParserFeed_eol hholds hend
      rw [hcommand]
      refine ⟨hnext, ?_⟩
      by_cases hline : openLine isEol bytes = []
      · simp [hline]
      · simp [hline]
    | false =>
      obtain ⟨hnext, hcommand⟩ := cdcCommandParserFeed_character hholds hend
      rw [hcommand]
      exact ⟨hnext, by simp⟩

/-- **The emitted commands are those that the lines spell, one for each, exactly when no line that
fits is a spelling with a zero byte behind it.** -/
theorem cdc_commands_exact_iff (bytes : List UInt8) :
    (cdcCommands bytes).2 = (endedLines isEol bytes).map spelledCommand ↔
      ∀ line ∈ endedLines isEol bytes, line.length < cdcCommandCapacity →
        ∀ command : CdcCommand, ∀ text ∈ command.spellings, ∀ rest, line ≠ text ++ 0 :: rest := by
  rw [(cdcCommands_holds bytes).2, List.map_inj_left]
  constructor
  · intro h line hline
    exact (lineCommand_eq_spelledCommand_iff line).mp (h line hline)
  · intro h line hline
    exact (lineCommand_eq_spelledCommand_iff line).mpr (h line hline)

/-- The line `reboot`, a zero byte, `?` reboots. -/
theorem reboot_behind_zero :
    let bytes := ascii "reboot" ++ [0x00, 0x3F, 0x0A]
    (cdcCommands bytes).2 = [.reboot] ∧
      endedLines isEol bytes = [ascii "reboot" ++ [0x00, 0x3F]] ∧
      spelledCommand (ascii "reboot" ++ [0x00, 0x3F]) = .invalid := by
  decide +kernel

end Rp86
