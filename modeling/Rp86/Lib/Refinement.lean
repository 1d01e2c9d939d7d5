import Mathlib.Tactic.Common

/-!
# Refinement of a nondeterministic specification

A system answers every action: `step s a` is the answer and the next state, and `answers` the
answers along a run.  A specification says which answers are allowed, `spec t a b t'`, and a trace
is allowed when some sequence of its states explains it (`Allowed`).  A forward simulation carries
the specification along with the system, so that every trace of the system is allowed
(`allowed_answers`).
-/

namespace Rp86.Lib

variable {σ τ α β : Type*}

/-- The actions of a run with their answers. -/
def answers (step : σ → α → β × σ) : σ → List α → List (α × β)
  | _, [] => []
  | s, a :: as => (a, (step s a).1) :: answers step (step s a).2 as

/-- The specification can answer the actions in this way, and end in the last state. -/
inductive Allowed (spec : τ → α → β → τ → Prop) : τ → List (α × β) → τ → Prop
  | nil (t : τ) : Allowed spec t [] t
  | cons {t t' t'' : τ} {a : α} {b : β} {trace : List (α × β)} (hstep : spec t a b t')
      (hrest : Allowed spec t' trace t'') : Allowed spec t ((a, b) :: trace) t''

/-- **Forward simulation**: when each step of the system is answered by a step of the
specification that keeps `R`, so is every run. -/
theorem allowed_answers {step : σ → α → β × σ} {spec : τ → α → β → τ → Prop} {R : σ → τ → Prop}
    (hstep : ∀ s t a, R s t → ∃ t', spec t a (step s a).1 t' ∧ R (step s a).2 t')
    (as : List α) {s : σ} {t : τ} (h : R s t) :
    ∃ t', Allowed spec t (answers step s as) t' ∧
      R (as.foldl (fun s a => (step s a).2) s) t' := by
  induction as generalizing s t with
  | nil => exact ⟨t, .nil t, h⟩
  | cons a as ih =>
    obtain ⟨t₁, hspec, h₁⟩ := hstep s t a h
    obtain ⟨t₂, hrest, h₂⟩ := ih h₁
    exact ⟨t₂, .cons hspec hrest, h₂⟩

end Rp86.Lib
