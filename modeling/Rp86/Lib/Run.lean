import Mathlib.Tactic.Common
import Mathlib.Data.List.Induction

/-!
# Runs of a deterministic system

A system is a step function on states; a run is the fold of the step over a list of actions.  An
invariant of the step is an invariant of every run (`run_invariant`), also when the step keeps it
only for actions that meet a condition (`run_invariant_of_mem`), or only from states that a run
reaches (`run_invariant_of_reached`).  What holds at every moment of a run is `Throughout`.  A
condition that each step of a run meets in the state it starts from is `StepsMeet`.  A run whose
steps of some kind change nothing ends as the run without them (`run_withoutSteps`).
-/

namespace Rp86.Lib

variable {σ α : Type*} (step : σ → α → σ)

/-- The state after the actions, in order. -/
def run (s : σ) (as : List α) : σ := as.foldl step s

@[simp] theorem run_nil (s : σ) : run step s [] = s := rfl

@[simp] theorem run_cons (s : σ) (a : α) (as : List α) :
    run step s (a :: as) = run step (step s a) as := rfl

theorem run_append (s : σ) (as bs : List α) :
    run step s (as ++ bs) = run step (run step s as) bs := List.foldl_append

variable {step}

/-- An invariant of the step for actions that meet `K` holds after every run of such actions. -/
theorem run_invariant_of_mem {Inv : σ → Prop} {K : α → Prop}
    (hstep : ∀ s a, K a → Inv s → Inv (step s a)) (as : List α) (hok : ∀ a ∈ as, K a)
    {s : σ} (hs : Inv s) : Inv (run step s as) := by
  induction as generalizing s with
  | nil => exact hs
  | cons a as ih =>
    rw [run_cons]
    exact ih (fun b hb => hok b (List.mem_cons_of_mem a hb))
      (hstep s a (hok a (List.mem_cons_self ..)) hs)

theorem run_invariant {Inv : σ → Prop} (hstep : ∀ s a, Inv s → Inv (step s a)) (as : List α)
    {s : σ} (hs : Inv s) : Inv (run step s as) :=
  run_invariant_of_mem (K := fun _ => True) (fun s a _ => hstep s a) as (fun _ _ => trivial) hs

/-- An invariant of the steps from states that a run reaches holds after every run. -/
theorem run_invariant_of_reached {Inv : σ → Prop} {s : σ} (hs : Inv s)
    (hstep : ∀ as a, Inv (run step s as) → Inv (step (run step s as) a)) (as : List α) :
    Inv (run step s as) := by
  induction as using List.reverseRecOn with
  | nil => exact hs
  | append_singleton as a ih =>
    rw [run_append]
    exact hstep as a ih

/-- When a run ends with a property that its first state lacks, one of its steps established
it. -/
theorem exists_step_of_run {P : σ → Prop} (as : List α) {s : σ} (hs : ¬ P s)
    (hrun : P (run step s as)) :
    ∃ pre a post, as = pre ++ a :: post ∧ ¬ P (run step s pre) ∧ P (step (run step s pre) a) := by
  induction as generalizing s with
  | nil => exact absurd hrun hs
  | cons a as ih =>
    by_cases ha : P (step s a)
    · exact ⟨[], a, as, rfl, hs, ha⟩
    · obtain ⟨pre, b, post, has, hpre, hb⟩ := ih ha hrun
      exact ⟨a :: pre, b, post, by rw [has, List.cons_append], hpre, hb⟩

/-! ### Every moment of a run -/

variable (step)

/-- `P` holds before the first action, after each action and so at the end. -/
def Throughout (P : σ → Prop) (s : σ) (as : List α) : Prop :=
  ∀ pre, pre <+: as → P (run step s pre)

variable {step} {P : σ → Prop} {s : σ} {a : α} {as bs : List α}

@[simp] theorem throughout_nil : Throughout step P s [] ↔ P s := by
  unfold Throughout
  simp

@[simp] theorem throughout_cons :
    Throughout step P s (a :: as) ↔ P s ∧ Throughout step P (step s a) as := by
  constructor
  · intro h
    refine ⟨h [] List.nil_prefix, fun pre hpre => ?_⟩
    exact h (a :: pre) ((List.prefix_cons_inj a).mpr hpre)
  · rintro ⟨hs, h⟩ pre hpre
    rcases List.prefix_cons_iff.mp hpre with rfl | ⟨rest, rfl, hrest⟩
    · exact hs
    · exact h rest hrest

theorem throughout_append :
    Throughout step P s (as ++ bs) ↔
      Throughout step P s as ∧ Throughout step P (run step s as) bs := by
  induction as generalizing s with
  | nil =>
    rw [List.nil_append, throughout_nil, run_nil]
    exact ⟨fun h => ⟨h [] List.nil_prefix, h⟩, fun h => h.2⟩
  | cons a as ih =>
    rw [List.cons_append, throughout_cons, throughout_cons, ih, run_cons, and_assoc]

theorem Throughout.mono {Q : σ → Prop} (h : Throughout step P s as) (hPQ : ∀ s, P s → Q s) :
    Throughout step Q s as :=
  fun pre hpre => hPQ _ (h pre hpre)

/-! ### Conditions on the steps of a run -/

variable (step) in
/-- Every action of the run meets `K` in the state in which it is taken. -/
def StepsMeet (K : σ → α → Prop) (s : σ) (as : List α) : Prop :=
  ∀ pre a, pre ++ [a] <+: as → K (run step s pre) a

variable {K : σ → α → Prop}

theorem stepsMeet_nil : StepsMeet step K s [] := by
  intro pre a hpre
  simp only [List.prefix_nil, List.append_eq_nil_iff, List.cons_ne_nil, and_false] at hpre

theorem stepsMeet_cons :
    StepsMeet step K s (a :: as) ↔ K s a ∧ StepsMeet step K (step s a) as := by
  constructor
  · intro h
    refine ⟨h [] a ((List.prefix_cons_inj a).mpr List.nil_prefix), fun pre b hpre => ?_⟩
    exact h (a :: pre) b ((List.prefix_cons_inj a).mpr hpre)
  · rintro ⟨hs, h⟩ pre b hpre
    cases pre with
    | nil =>
      obtain ⟨rfl, -⟩ := List.cons_prefix_cons.mp hpre
      exact hs
    | cons c pre =>
      obtain ⟨rfl, hrest⟩ := List.cons_prefix_cons.mp hpre
      exact h pre b hrest

theorem stepsMeet_append {bs : List α} :
    StepsMeet step K s (as ++ bs) ↔
      StepsMeet step K s as ∧ StepsMeet step K (run step s as) bs := by
  induction as generalizing s with
  | nil => exact ⟨fun h => ⟨stepsMeet_nil, h⟩, fun h => h.2⟩
  | cons a as ih => rw [List.cons_append, stepsMeet_cons, stepsMeet_cons, ih, and_assoc, run_cons]

instance decidableStepsMeet [∀ s a, Decidable (K s a)] :
    (s : σ) → (as : List α) → Decidable (StepsMeet step K s as)
  | _, [] => isTrue stepsMeet_nil
  | s, a :: as =>
    have := decidableStepsMeet (step s a) as
    decidable_of_iff _ stepsMeet_cons.symm

/-- What the steps that meet `K` keep of a reached state beside the actions that reach it holds
after every run of such steps. -/
theorem run_traced_of_stepsMeet {I : List α → σ → Prop} (hs : I [] s)
    (hstep : ∀ as a, K (run step s as) a → I as (run step s as) →
      I (as ++ [a]) (step (run step s as) a))
    (as : List α) (hK : StepsMeet step K s as) : I as (run step s as) := by
  induction as using List.reverseRecOn with
  | nil => exact hs
  | append_singleton as a ih =>
    rw [run_append]
    exact hstep as a (hK as a List.prefix_rfl)
      (ih fun pre b hpre => hK pre b (hpre.trans (List.prefix_append as [a])))

/-- What every step keeps of a state beside the actions that reach it holds after every run. -/
theorem run_traced {I : List α → σ → Prop} (hs : I [] s)
    (hstep : ∀ as a, I as (run step s as) → I (as ++ [a]) (step (run step s as) a))
    (as : List α) : I as (run step s as) :=
  run_traced_of_stepsMeet (K := fun _ _ => True) hs (fun as a _ => hstep as a) as
    fun _ _ _ => trivial

/-- An invariant of the steps that meet `K`, from states that a run of such steps reaches, holds
after every run of such steps. -/
theorem run_invariant_of_reached_stepsMeet {Inv : σ → Prop} (hs : Inv s)
    (hstep : ∀ as a, K (run step s as) a → Inv (run step s as) → Inv (step (run step s as) a))
    (as : List α) (hK : StepsMeet step K s as) : Inv (run step s as) :=
  run_traced_of_stepsMeet (I := fun _ => Inv) hs hstep as hK

/-- An invariant of the steps that meet `K` holds after every run of such steps. -/
theorem run_invariant_of_stepsMeet {Inv : σ → Prop}
    (hstep : ∀ s a, K s a → Inv s → Inv (step s a)) (as : List α) {s : σ}
    (hK : StepsMeet step K s as) (hs : Inv s) : Inv (run step s as) := by
  induction as generalizing s with
  | nil => exact hs
  | cons a as ih =>
    obtain ⟨ha, has⟩ := stepsMeet_cons.mp hK
    exact ih has (hstep s a ha hs)

/-! ### Steps left out of a run -/

variable (step) in
/-- The actions of the run but those that `drop` picks in the state in which they are taken. -/
def withoutSteps (drop : σ → α → Bool) : σ → List α → List α
  | _, [] => []
  | s, a :: as =>
    if drop s a then withoutSteps drop (step s a) as else a :: withoutSteps drop (step s a) as

theorem run_withoutSteps {drop : σ → α → Bool} (hdrop : ∀ s a, drop s a = true → step s a = s)
    (s : σ) (as : List α) : run step s (withoutSteps step drop s as) = run step s as := by
  induction as generalizing s with
  | nil => rfl
  | cons a as ih =>
    rw [withoutSteps, run_cons]
    split_ifs with h
    · rw [hdrop s a h]
      exact ih s
    · rw [run_cons]
      exact ih (step s a)

end Rp86.Lib
