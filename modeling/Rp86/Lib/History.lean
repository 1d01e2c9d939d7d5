import Rp86.Lib.Run

/-!
# History of a run

A history variable of a deterministic system: each step adds what it records, and some steps clear
what was recorded before.  The history is a function of the run and leaves the run alone
(`run_historyStep`).  What a step keeps of the state together with its history holds of the two
after every run (`history_invariant`).
-/

namespace Rp86.Lib

variable {σ α ρ : Type*} (step : σ → α → σ) (clears : σ → α → Bool) (records : σ → α → List ρ)

def historyStep (p : σ × List ρ) (a : α) : σ × List ρ :=
  (step p.1 a, (if clears p.1 a then [] else p.2) ++ records p.1 a)

/-- What the run has recorded since it last cleared its history, oldest first. -/
def history (s : σ) (as : List α) : List ρ := (run (historyStep step clears records) (s, []) as).2

/-- The history is kept beside the run. -/
theorem run_historyStep (s : σ) (as : List α) :
    run (historyStep step clears records) (s, []) as
      = (run step s as, history step clears records s as) := by
  have hfst : ∀ h : List ρ,
      (run (historyStep step clears records) (s, h) as).1 = run step s as := by
    intro h
    induction as generalizing s h with
    | nil => rfl
    | cons a as ih => exact ih (step s a) _
  exact Prod.ext (hfst []) rfl

variable {step clears records}

theorem history_append_singleton (s : σ) (as : List α) (a : α) :
    history step clears records s (as ++ [a])
      = (if clears (run step s as) a then [] else history step clears records s as)
        ++ records (run step s as) a := by
  rw [history, run_append, run_historyStep]
  rfl

/-- What every step keeps of a reached state with its history holds after every run. -/
theorem history_invariant {Inv : σ → List ρ → Prop} {s : σ} (hs : Inv s [])
    (hstep : ∀ as a h, Inv (run step s as) h →
      Inv (step (run step s as) a)
        ((if clears (run step s as) a then [] else h) ++ records (run step s as) a))
    (as : List α) : Inv (run step s as) (history step clears records s as) := by
  induction as using List.reverseRecOn with
  | nil => exact hs
  | append_singleton as a ih =>
    rw [run_append, history_append_singleton]
    exact hstep as a _ ih

end Rp86.Lib
