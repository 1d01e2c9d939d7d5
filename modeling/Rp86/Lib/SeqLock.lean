import Mathlib.Data.Nat.ModEq
import Rp86.Lib.Run

/-!
# Sequence locks

A writer protects a value by a sequence number that it advances before the first and after the last
write of an update: the number is odd while an update is in progress and the value changes only
then.  The number is kept modulo `2 * n`.  A reader that finds the same even number twice knows that
no update was in progress at any moment in between, provided that fewer than `n` updates began
(`SeqLock.coherent`).
-/

namespace Rp86.Lib

variable {σ α β : Type*}

/-- The writer's side of a sequence lock, for the actions in `K` and the states in `Inv`. -/
structure SeqLock (step : σ → α → σ) (K : α → Prop) (Inv : σ → Prop) (seq : σ → ℕ)
    (value : σ → β) (n : ℕ) : Prop where
  inv_step : ∀ s a, K a → Inv s → Inv (step s a)
  even_step : ∀ s a, K a → Inv s → seq s % 2 = 0 →
    (seq (step s a) = seq s ∧ value (step s a) = value s) ∨
      seq (step s a) = (seq s + 1) % (2 * n)
  odd_step : ∀ s a, K a → Inv s → seq s % 2 = 1 →
    seq (step s a) = seq s ∨ seq (step s a) = (seq s + 1) % (2 * n)

/-- The number of updates that begin in a run: of the steps that make the number odd. -/
def updatesBegun (step : σ → α → σ) (seq : σ → ℕ) : σ → List α → ℕ
  | _, [] => 0
  | s, a :: as =>
    (if seq s % 2 = 0 ∧ seq (step s a) % 2 = 1 then 1 else 0) + updatesBegun step seq (step s a) as

variable {step : σ → α → σ} {K : α → Prop} {Inv : σ → Prop} {seq : σ → ℕ} {value : σ → β} {n : ℕ}

theorem updatesBegun_append (s : σ) (as bs : List α) :
    updatesBegun step seq s (as ++ bs)
      = updatesBegun step seq s as + updatesBegun step seq (run step s as) bs := by
  induction as generalizing s with
  | nil => simp [updatesBegun]
  | cons a as ih =>
    rw [List.cons_append, updatesBegun, updatesBegun, ih, run_cons, Nat.add_assoc]

namespace SeqLock

/-- The next even number counts the updates: an update raises it by two when it begins and keeps
it from then on. -/
theorem roundUp_step (L : SeqLock step K Inv seq value n) {s : σ} {a : α} (ha : K a)
    (hs : Inv s) :
    (seq (step s a) + seq (step s a) % 2) % (2 * n)
      = (seq s + seq s % 2
          + 2 * if seq s % 2 = 0 ∧ seq (step s a) % 2 = 1 then 1 else 0) % (2 * n) := by
  have hparity : (seq s + 1) % (2 * n) % 2 = (seq s + 1) % 2 := Nat.mod_mul_right_mod ..
  rcases Nat.mod_two_eq_zero_or_one (seq s) with h | h
  · rcases L.even_step s a ha hs h with ⟨hseq, -⟩ | hseq
    · simp [hseq, h]
    · have hodd : (seq s + 1) % 2 = 1 := by omega
      rw [hseq, hparity, hodd, h, if_pos ⟨rfl, rfl⟩, Nat.mod_add_mod]
  · rcases L.odd_step s a ha hs h with hseq | hseq
    · simp [hseq, h]
    · have heven : (seq s + 1) % 2 = 0 := by omega
      rw [hseq, hparity, heven, h, if_neg (by simp)]
      simp

/-- After a run the next even number has grown by two for each update that began. -/
theorem roundUp_run (L : SeqLock step K Inv seq value n) (as : List α) (has : ∀ a ∈ as, K a)
    {s : σ} (hs : Inv s) :
    (seq (run step s as) + seq (run step s as) % 2) % (2 * n)
      = (seq s + seq s % 2 + 2 * updatesBegun step seq s as) % (2 * n) := by
  induction as generalizing s with
  | nil => simp [updatesBegun]
  | cons a as ih =>
    have ha : K a := has a (List.mem_cons_self ..)
    rw [run_cons, ih (fun b hb => has b (List.mem_cons_of_mem a hb)) (L.inv_step s a ha hs),
      ← Nat.mod_add_mod, L.roundUp_step ha hs, Nat.mod_add_mod, updatesBegun, Nat.mul_add,
      Nat.add_assoc]

/-- A run that starts between updates and in which none begins changes nothing. -/
theorem unchanged (L : SeqLock step K Inv seq value n) (as : List α) (has : ∀ a ∈ as, K a)
    {s : σ} (hs : Inv s) (heven : seq s % 2 = 0) (hnone : updatesBegun step seq s as = 0) :
    Throughout step (fun t => seq t = seq s ∧ value t = value s) s as := by
  induction as generalizing s with
  | nil => exact throughout_nil.mpr ⟨rfl, rfl⟩
  | cons a as ih =>
    have ha : K a := has a (List.mem_cons_self ..)
    rw [updatesBegun, Nat.add_eq_zero_iff] at hnone
    obtain ⟨hfirst, hrest⟩ := hnone
    -- The step cannot be the one that makes the number odd.
    have hkeep : seq (step s a) = seq s ∧ value (step s a) = value s := by
      rcases L.even_step s a ha hs heven with h | h
      · exact h
      · have hodd : seq (step s a) % 2 = 1 := by
          rw [h, Nat.mod_mul_right_mod]
          omega
        rw [if_pos ⟨heven, hodd⟩] at hfirst
        exact absurd hfirst Nat.one_ne_zero
    refine throughout_cons.mpr ⟨⟨rfl, rfl⟩, ?_⟩
    refine (ih (fun b hb => has b (List.mem_cons_of_mem a hb)) (L.inv_step s a ha hs)
      (hkeep.1 ▸ heven) hrest).mono fun t ht => ?_
    exact ⟨ht.1.trans hkeep.1, ht.2.trans hkeep.2⟩

/-- **Two equal even numbers with fewer than `n` updates in between**: the value was the same at
every moment. -/
theorem coherent (L : SeqLock step K Inv seq value n) {as : List α} (has : ∀ a ∈ as, K a) {s : σ}
    (hs : Inv s) (heven : seq s % 2 = 0) (hsame : seq (run step s as) = seq s)
    (hfew : updatesBegun step seq s as < n) :
    Throughout step (fun t => seq t = seq s ∧ value t = value s) s as := by
  refine L.unchanged as has hs heven ?_
  have hrun := L.roundUp_run as has hs
  rw [hsame, heven, Nat.add_zero] at hrun
  have hmod : 2 * updatesBegun step seq s as ≡ 0 [MOD 2 * n] :=
    Nat.ModEq.add_left_cancel' (seq s) hrun.symm
  have hzero := (Nat.mod_eq_of_lt (by omega)).symm.trans hmod
  rw [Nat.zero_mod] at hzero
  omega

end SeqLock

end Rp86.Lib
