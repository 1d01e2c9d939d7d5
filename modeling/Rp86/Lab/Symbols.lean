import Mathlib.Data.List.Sort
import Mathlib.Data.Char
import Mathlib.Data.List.Lex
import Rp86.Lab.Loader
import Rp86.Lib.Bisect

/-!
# The symbol table of the IA16 lab

`SymbolTable` of `tools/ia16_lab/symbols.py`: symbols sorted by address and name, the resolution of
an address to the symbol before it, and the span of a symbol up to the next one.
-/

namespace Rp86.Lab

open Lib

structure Symbol where
  address : ℤ
  name : List Char
  deriving DecidableEq, Repr

/-- The text that `resolve` gives for an address, from the symbol that it names. -/
def Symbol.label (symbol : Symbol) (address : ℤ) : List Char :=
  let delta := address - symbol.address
  if delta = 0 then symbol.name
  else symbol.name ++ "+0x".toList ++ (Nat.toDigits 16 delta.toNat).map Char.toUpper

/-- The order of symbols: by address, then by name. -/
def Symbol.le (s t : Symbol) : Prop :=
  s.address < t.address ∨ s.address = t.address ∧ s.name ≤ t.name

instance : DecidableRel Symbol.le := fun s t => by
  unfold Symbol.le
  infer_instance

instance : Std.Total Symbol.le := ⟨fun s t => by
  unfold Symbol.le
  rcases lt_trichotomy s.address t.address with h | h | h
  · exact Or.inl (Or.inl h)
  · rcases le_total s.name t.name with hn | hn
    · exact Or.inl (Or.inr ⟨h, hn⟩)
    · exact Or.inr (Or.inr ⟨h.symm, hn⟩)
  · exact Or.inr (Or.inl h)⟩

instance : IsTrans Symbol Symbol.le := ⟨fun s t u hst htu => by
  unfold Symbol.le at hst htu ⊢
  rcases hst with hst | ⟨hst, hn⟩
  · rcases htu with htu | ⟨htu, -⟩
    · exact Or.inl (by omega)
    · exact Or.inl (by omega)
  · rcases htu with htu | ⟨htu, hn'⟩
    · exact Or.inl (by omega)
    · exact Or.inr ⟨by omega, le_trans hn hn'⟩⟩

/-- `SymbolTable`: the symbols are sorted. -/
structure SymbolTable where
  symbols : List Symbol
  sorted : symbols.Pairwise Symbol.le

namespace SymbolTable

def ofSymbols (symbols : List Symbol) : SymbolTable where
  symbols := symbols.insertionSort Symbol.le
  sorted := List.pairwise_insertionSort Symbol.le symbols

variable (table : SymbolTable)

def addresses : List ℤ := table.symbols.map Symbol.address

/-- `_by_name.get`: of several symbols of one name, the dictionary keeps the last. -/
def byName (name : List Char) : Option Symbol :=
  table.symbols.reverse.find? fun symbol => symbol.name = name

/-- The symbol that `resolve` names: the last one that is not above the address. -/
def resolved (address : ℤ) : Option Symbol :=
  match bisectRight table.addresses address with
  | 0 => none
  | index + 1 => table.symbols[index]?

def resolve (address : ℤ) : Option (List Char) :=
  (table.resolved address).map fun symbol => symbol.label address

def span (name : List Char) : Except LabError (ℤ × ℤ) :=
  match table.byName name with
  | none => .error (.valueError ("symbol not found: " ++ String.ofList name))
  | some symbol =>
    let index := table.symbols.idxOf symbol
    let finish :=
      match table.symbols[index + 1]? with
      | some next => next.address
      | none => symbol.address + 1
    .ok (symbol.address, max (symbol.address + 1) finish)

end SymbolTable

end Rp86.Lab
