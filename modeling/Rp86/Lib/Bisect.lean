import Mathlib.Order.Lattice
import Mathlib.Tactic.Common

/-!
# Binary search in a sorted list

`bisectRight l x` halves an interval of positions until it is empty.  In a sorted list the position
it ends at parts the values up to `x` from those above `x` (`lt_bisectRight_iff`).
-/

namespace Rp86.Lib

variable {α : Type} [LinearOrder α]

/-- The loop of the search, between the positions `lo` and `hi`. -/
def bisectRightLoop (l : List α) (x : α) (lo hi : ℕ) (hhi : hi ≤ l.length) : ℕ :=
  if _ : lo < hi then
    let mid := (lo + hi) / 2
    if x < l[mid] then bisectRightLoop l x lo mid (by omega)
    else bisectRightLoop l x (mid + 1) hi hhi
  else lo
termination_by hi - lo

/-- The position behind the values of a sorted list that are at most `x`. -/
def bisectRight (l : List α) (x : α) : ℕ := bisectRightLoop l x 0 l.length (Nat.le_refl _)

variable {l : List α} {x : α}

/-- The loop keeps the values before `lo` at most `x` and those from `hi` on above `x`. -/
theorem bisectRightLoop_spec (hsorted : l.Pairwise (· ≤ ·)) {lo hi : ℕ} (hhi : hi ≤ l.length)
    (hle : lo ≤ hi) (hbefore : ∀ i (h : i < l.length), i < lo → l[i] ≤ x)
    (hbehind : ∀ i (h : i < l.length), hi ≤ i → x < l[i]) (i : ℕ) (hi' : i < l.length) :
    i < bisectRightLoop l x lo hi hhi ↔ l[i] ≤ x := by
  have hmono : ∀ i j (hi : i < l.length) (hj : j < l.length), i ≤ j → l[i] ≤ l[j] := by
    intro i j hi hj hij
    rcases Nat.eq_or_lt_of_le hij with rfl | hij
    · exact le_refl _
    · exact List.pairwise_iff_getElem.mp hsorted i j hi hj hij
  fun_induction bisectRightLoop l x lo hi hhi with
  | case1 lo hi hhi hlt mid hx ih =>
    refine ih (by omega) hbefore fun j hj hmid => ?_
    exact lt_of_lt_of_le hx (hmono _ _ _ _ hmid)
  | case2 lo hi hhi hlt mid hx ih =>
    refine ih (by omega) (fun j hj hmid => ?_) hbehind
    exact le_trans (hmono _ _ _ _ (Nat.le_of_lt_succ hmid)) (not_lt.mp hx)
  | case3 lo hi hhi hlt =>
    constructor
    · intro h
      exact hbefore i hi' h
    · intro h
      by_contra hge
      exact absurd h (not_le.mpr (hbehind i hi' (by omega)))

/-- **In a sorted list, the search parts the values up to `x` from those above `x`.** -/
theorem lt_bisectRight_iff (hsorted : l.Pairwise (· ≤ ·)) (i : ℕ) (hi : i < l.length) :
    i < bisectRight l x ↔ l[i] ≤ x :=
  bisectRightLoop_spec hsorted _ (Nat.zero_le _) (fun _ _ h => absurd h (Nat.not_lt_zero _))
    (fun _ h hle => absurd hle (Nat.not_le_of_lt h)) i hi

theorem bisectRightLoop_le {lo hi : ℕ} (hhi : hi ≤ l.length) (hle : lo ≤ hi) :
    bisectRightLoop l x lo hi hhi ≤ l.length := by
  fun_induction bisectRightLoop l x lo hi hhi with
  | case1 lo hi hhi hlt mid hx ih | case2 lo hi hhi hlt mid hx ih => exact ih (by omega)
  | case3 lo hi hhi hlt => omega

theorem bisectRight_le : bisectRight l x ≤ l.length := bisectRightLoop_le _ (Nat.zero_le _)

end Rp86.Lib
