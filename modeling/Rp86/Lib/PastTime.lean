import Mathlib.Tactic.Common
import Mathlib.Data.List.Basic

/-!
# What has happened in a trace

A past-time operator on traces of events.  `Once P w` says that some event of `w` had the property
`P`, which may look at the events before it; nesting it says that events came in an order.  A trace
grows at its end (`once_concat`), so what a monitor remembers of it is shown event by event.  When
`P` happened while `Q` had not happened yet, it came before every `Q` (`Once.before`).
-/

namespace Rp86.Lib

variable {α : Type*} {P Q R : List α → α → Prop} {w : List α} {a : α}

/-- Some event of the trace has `P`, given the events before it. -/
def Once (P : List α → α → Prop) (w : List α) : Prop :=
  ∃ pre a post, w = pre ++ a :: post ∧ P pre a

theorem not_once_nil : ¬ Once P [] := by
  rintro ⟨pre, a, post, h, -⟩
  exact List.append_ne_nil_of_right_ne_nil pre (List.cons_ne_nil a post) h.symm

theorem once_concat : Once P (w ++ [a]) ↔ Once P w ∨ P w a := by
  constructor
  · rintro ⟨pre, b, post, h, hb⟩
    rcases List.eq_nil_or_concat' post with rfl | ⟨post, c, rfl⟩
    · obtain ⟨rfl, hab⟩ := List.append_inj' h rfl
      obtain rfl := List.head_eq_of_cons_eq hab
      exact Or.inr hb
    · -- the last event is not the one that had `P`
      have h' : w ++ [a] = (pre ++ b :: post) ++ [c] := by
        rw [h, List.append_assoc, List.cons_append]
      obtain ⟨rfl, -⟩ := List.append_inj' h' rfl
      exact Or.inl ⟨pre, b, post, rfl, hb⟩
  · rintro (⟨pre, b, post, rfl, hb⟩ | ha)
    · exact ⟨pre, b, post ++ [a], by rw [List.append_assoc, List.cons_append], hb⟩
    · exact ⟨w, a, [], rfl, ha⟩

theorem once_concat_of_not (h : ¬ P w a) : Once P (w ++ [a]) ↔ Once P w := by
  rw [once_concat, or_iff_left h]

theorem once_iff_exists_fin : Once P w ↔ ∃ i : Fin w.length, P (w.take i) w[i] := by
  constructor
  · rintro ⟨pre, a, post, rfl, ha⟩
    have hi : pre.length < (pre ++ a :: post).length := by
      rw [List.length_append, List.length_cons]
      omega
    refine ⟨⟨pre.length, hi⟩, ?_⟩
    show P ((pre ++ a :: post).take pre.length) (pre ++ a :: post)[pre.length]
    simpa [List.take_left, List.getElem_append_right (Nat.le_refl _),
      List.getElem_cons_zero] using ha
  · rintro ⟨i, hi⟩
    exact ⟨w.take i, w[i], w.drop (i + 1), by simp, hi⟩

instance decidableOnce [∀ pre a, Decidable (P pre a)] : Decidable (Once P w) :=
  decidable_of_iff _ once_iff_exists_fin.symm

/-- An event that came while no `Q` had happened came before every `Q`. -/
theorem Once.before (hP : Once (fun pre a => P pre a ∧ ¬ Once Q pre ∧ ¬ Q pre a) w)
    (hR : Once (fun pre a => R pre a ∧ Once Q pre) w) :
    Once (fun pre a => R pre a ∧ Once (fun pre a => Q pre a ∧ Once P pre) pre) w := by
  obtain ⟨pre, p, post, rfl, hp, hnone, hnot⟩ := hP
  obtain ⟨upto, r, rest, hw, hr, before, q, between, rfl, hq⟩ := hR
  refine ⟨before ++ q :: between, r, rest, hw, hr, before, q, between, rfl, hq, ?_⟩
  rw [List.append_assoc, List.cons_append, List.append_eq_append_iff] at hw
  rcases hw with ⟨mid, hbefore, hmid⟩ | ⟨mid, hpre, hmid⟩
  · cases mid with
    | nil =>
      -- both events are the one after `pre`
      obtain rfl := List.head_eq_of_cons_eq hmid
      rw [List.append_nil] at hbefore
      rw [hbefore] at hq
      exact absurd hq hnot
    | cons x mid =>
      obtain rfl := List.head_eq_of_cons_eq hmid
      exact ⟨pre, p, mid, hbefore, hp⟩
  · cases mid with
    | nil =>
      obtain rfl := List.head_eq_of_cons_eq hmid
      rw [List.append_nil] at hpre
      rw [hpre] at hnot
      exact absurd hq hnot
    | cons x mid =>
      obtain rfl := List.head_eq_of_cons_eq hmid
      exact absurd ⟨before, q, mid, hpre, hq⟩ hnone

end Rp86.Lib
