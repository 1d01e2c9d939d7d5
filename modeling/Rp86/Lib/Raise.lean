import Mathlib.Tactic.Common

/-!
# Computations that may raise

When a sequence of computations, or one that starts with a check, succeeds and when it raises.
-/

namespace Rp86.Lib

variable {α β ε : Type}

@[simp] theorem ok_bind (a : α) (f : α → Except ε β) : (.ok a >>= f) = f a := rfl

@[simp] theorem error_bind (e : ε) (f : α → Except ε β) : (.error e >>= f) = .error e := rfl

theorem bind_eq_ok {x : Except ε α} {f : α → Except ε β} {b : β} :
    (x >>= f) = .ok b ↔ ∃ a, x = .ok a ∧ f a = .ok b := by
  cases x with
  | error e | ok a => simp [bind, Except.bind]

theorem bind_eq_error {x : Except ε α} {f : α → Except ε β} {e : ε} :
    (x >>= f) = .error e ↔ x = .error e ∨ ∃ a, x = .ok a ∧ f a = .error e := by
  cases x with
  | error e' | ok a => simp [bind, Except.bind]

/-- A computation that succeeds has passed the check that it starts with. -/
theorem check_eq_ok {p : Prop} [Decidable p] {e : ε} {f : Unit → Except ε α} {b : α} :
    (if p then throw e >>= f else f ()) = .ok b ↔ ¬ p ∧ f () = .ok b := by
  split_ifs with hp
  · refine ⟨fun h => ?_, fun h => absurd hp h.1⟩
    cases (show (.error e : Except ε α) = .ok b from h)
  · exact ⟨fun h => ⟨hp, h⟩, fun h => h.2⟩

/-- A check raises its own exception, or leaves the rest to raise. -/
theorem check_eq_error {p : Prop} [Decidable p] {e e' : ε} {f : Unit → Except ε α} :
    (if p then throw e >>= f else f ()) = .error e' ↔ p ∧ e' = e ∨ ¬ p ∧ f () = .error e' := by
  split_ifs with hp
  · have hthrow : (throw e >>= f : Except ε α) = .error e := rfl
    rw [hthrow, Except.error.injEq]
    exact ⟨fun h => Or.inl ⟨hp, h.symm⟩, fun h => h.elim (fun h => h.2.symm) fun h => absurd hp h.1⟩
  · exact ⟨fun h => Or.inr ⟨hp, h⟩, fun h => h.elim (fun h => absurd h.1 hp) fun h => h.2⟩

/-- A fold raises at the first step that has no result. -/
theorem foldlM_elim (f : β → α → Option β) (e : ε) (l : List α) (b : β) :
    l.foldlM (fun b a => ((f b a).elim (.error e) .ok : Except ε β)) b
      = (l.foldlM f b).elim (.error e) .ok := by
  induction l generalizing b with
  | nil => rfl
  | cons a l ih =>
    rw [List.foldlM_cons, List.foldlM_cons]
    cases f b a with
    | none => rfl
    | some b' => exact ih b'

end Rp86.Lib
