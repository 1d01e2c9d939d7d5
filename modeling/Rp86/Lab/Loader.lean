import Mathlib.Algebra.Group.Int.Defs
import Mathlib.Algebra.Group.Nat.Defs

/-!
# Exceptions and addresses of the IA16 lab

The exceptions of `tools/ia16_lab` and the real-mode address translation of its `loader.py`.
-/

namespace Rp86.Lab

/-- The exceptions that the modelled functions of the lab raise. -/
inductive LabError where
  | runtimeError (text : String)
  | valueError (text : String)
  | indexError
  deriving DecidableEq, Repr

def linearAddress (segment offset : ℕ) : Except LabError ℕ := do
  if ¬ segment ≤ 0xFFFF ∨ ¬ offset ≤ 0xFFFF then
    throw (.valueError "segment and offset must be 16-bit values")
  let address := segment <<< 4 + offset
  if address ≥ 0x100000 then
    throw (.valueError "segment:offset is outside the 20-bit address space")
  return address

end Rp86.Lab
