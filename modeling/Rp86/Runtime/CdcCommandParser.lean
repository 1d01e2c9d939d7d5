import Rp86.Lib.Lines

/-!
# The CDC command lines

`runtime/cdc_command_parser.c`: the runtime is fed the characters of the CDC interface one by one
and has a command whenever a line ends.
-/

namespace Rp86

open Lib

def cdcCommandCapacity : ℕ := 48

inductive CdcCommand where
  | status
  | enterBootloader
  | reboot
  | invalid
  deriving DecidableEq, Repr

/-- `rp86_cdc_command_parser_t`.  Between two characters there is room for the terminating zero. -/
structure CdcCommandParser where
  text : Vector UInt8 cdcCommandCapacity
  length : ℕ
  overflowed : Bool
  length_lt : length < cdcCommandCapacity
  deriving DecidableEq, Repr

def cdcCommandParserInit : CdcCommandParser where
  text := Vector.replicate _ 0
  length := 0
  overflowed := false
  length_lt := by decide

def parseCommand (text : List UInt8) : CdcCommand :=
  if cString text = ascii "RP86 STATUS" ∨ cString text = ascii "status" then .status
  else if cString text = ascii "RP86 BOOTLOADER" ∨ cString text = ascii "bootloader" ∨
      cString text = ascii "bootsel" then .enterBootloader
  else if cString text = ascii "RP86 REBOOT" ∨ cString text = ascii "reboot" then .reboot
  else .invalid

namespace CdcCommandParser

def clear (p : CdcCommandParser) (overflowed : Bool) : CdcCommandParser :=
  { p with length := 0, overflowed := overflowed, length_lt := by decide }

def put (p : CdcCommandParser) (character : UInt8) : CdcCommandParser :=
  { p with text := p.text.set p.length character p.length_lt }

end CdcCommandParser

/-- `rp86_cdc_command_parser_feed`: the command that is available. -/
def cdcCommandParserFeed (p : CdcCommandParser) (character : UInt8) :
    CdcCommandParser × Option CdcCommand :=
  if isEol character then
    if p.overflowed then (p.clear false, some .invalid)
    else if p.length = 0 then (p, none)
    else
      let p := p.put 0
      (p.clear p.overflowed, some (parseCommand p.text.toList))
  else if p.overflowed then (p, none)
  else if h : p.length + 1 < cdcCommandCapacity then
    ({ p.put character with length := p.length + 1, length_lt := h }, none)
  else (p.clear true, none)

/-- The parser and the commands it has emitted, as `service_cdc_control` collects them: it feeds
what it reads from the interface, one character at a time. -/
def cdcCommands (bytes : List UInt8) : CdcCommandParser × List CdcCommand :=
  bytes.foldl (fun (p, commands) character =>
    let (p, command) := cdcCommandParserFeed p character
    (p, commands ++ command.toList)) (cdcCommandParserInit, [])

end Rp86
