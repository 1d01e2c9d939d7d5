import Rp86.Lib.Raise

/-!
# Loops that may raise and may not end

`whileLoop` runs a loop for a bounded number of rounds.  Running out of rounds is told apart from
raising, so that a loop ends exactly if some bound is not exhausted.  A measure that every round
decreases bounds the rounds (`whileLoop_ne_exhausted`).  A loop whose rounds each read one encoded
item at a position folds over the encoded items (`whileLoop_items`).
-/

namespace Rp86.Lib

variable {ε σ : Type}

/-- Why a computation with loops gave no value. -/
inductive Stop (ε : Type) where
  | raised (e : ε)
  | exhausted
  deriving DecidableEq, Repr

/-- `while cond: body`, for at most `fuel` rounds. -/
def whileLoop (cond : σ → Prop) [DecidablePred cond] (body : σ → Except (Stop ε) σ) :
    ℕ → σ → Except (Stop ε) σ
  | 0, s => if cond s then .error .exhausted else .ok s
  | fuel + 1, s =>
    if cond s then do
      let s ← body s
      whileLoop cond body fuel s
    else .ok s

variable {cond : σ → Prop} [DecidablePred cond] {body : σ → Except (Stop ε) σ} {s s' : σ}

theorem whileLoop_done (fuel : ℕ) (h : ¬ cond s) : whileLoop cond body fuel s = .ok s := by
  cases fuel with
  | zero | succ fuel => exact if_neg h

theorem whileLoop_step (fuel : ℕ) (h : cond s) (hbody : body s = .ok s') :
    whileLoop cond body (fuel + 1) s = whileLoop cond body fuel s' := by
  rw [whileLoop, if_pos h, hbody]
  rfl

theorem whileLoop_raise (fuel : ℕ) {e : Stop ε} (h : cond s) (hbody : body s = .error e) :
    whileLoop cond body (fuel + 1) s = .error e := by
  rw [whileLoop, if_pos h, hbody]
  rfl

/-- **A loop ends within as many rounds as a measure that each of them decreases.** -/
theorem whileLoop_ne_exhausted (measure : σ → ℕ) (hpos : ∀ s, cond s → 0 < measure s)
    (hbody : ∀ s, cond s → body s ≠ .error .exhausted)
    (hless : ∀ s s', cond s → body s = .ok s' → measure s' < measure s) {fuel : ℕ}
    (hfuel : measure s ≤ fuel) : whileLoop cond body fuel s ≠ .error .exhausted := by
  induction fuel generalizing s with
  | zero =>
    rw [whileLoop_done 0 fun h => by have := hpos s h; omega]
    intro h
    cases h
  | succ fuel ih =>
    by_cases h : cond s
    · cases hs : body s with
      | error e =>
        rw [whileLoop_raise fuel h hs, ← hs]
        exact hbody s h
      | ok s' =>
        rw [whileLoop_step fuel h hs]
        have := hless s s' h hs
        exact ih (by omega)
    · rw [whileLoop_done _ h]
      intro h
      cases h

/-- A sequence of computations is not exhausted if none of them is. -/
theorem bind_ne_exhausted {α β : Type} {x : Except (Stop ε) α} {f : α → Except (Stop ε) β}
    (hx : x ≠ .error .exhausted) (hf : ∀ a, x = .ok a → f a ≠ .error .exhausted) :
    (x >>= f) ≠ .error .exhausted := by
  intro h
  rcases bind_eq_error.mp h with h | ⟨a, ha, h⟩
  · exact hx h
  · exact hf a ha h

theorem check_ne_exhausted {α : Type} {p : Prop} [Decidable p] {e : ε}
    {f : Unit → Except (Stop ε) α} (hf : f () ≠ .error .exhausted) :
    (if p then throw (.raised e) >>= f else f ()) ≠ .error .exhausted := by
  intro h
  rcases check_eq_error.mp h with ⟨-, h⟩ | ⟨-, h⟩
  · cases h
  · exact hf h

/-! ### Loops over encoded items -/

section

variable {α β τ δ : Type} {data : List β} {bytes : α → List β}
  {body : ℕ × τ → Except (Stop ε) (ℕ × τ)}

/-- **A loop that reads one item in each round folds over the items.**  The state of the loop is a
position in the data and the view of an abstract state. -/
theorem whileLoop_items (view : δ → τ) (add : δ → α → Except (Stop ε) δ) (items : List α)
    (hbytes : ∀ a ∈ items, bytes a ≠ [])
    (hbody : ∀ a ∈ items, ∀ position d rest, data.drop position = bytes a ++ rest →
      body (position, view d)
        = (add d a).map fun d => (position + (bytes a).length, view d))
    {position fuel : ℕ} (hdata : data.drop position = items.flatMap bytes)
    (hfuel : items.length ≤ fuel) (d : δ) :
    ∃ finish, whileLoop (fun s => s.1 < data.length) body fuel (position, view d)
      = (items.foldlM add d).map fun d => (finish, view d) := by
  -- along the items; the position moves by the bytes of each
  induction items generalizing position fuel d with
  | nil =>
    have hend : data.length ≤ position := List.drop_eq_nil_iff.mp hdata
    exact ⟨position, whileLoop_done fuel (Nat.not_lt_of_le hend)⟩
  | cons a items ih =>
    obtain ⟨fuel, rfl⟩ : ∃ k, fuel = k + 1 := ⟨fuel - 1, by rw [List.length_cons] at hfuel; omega⟩
    -- an item takes at least a byte, so the loop is not at the end of the data
    have hlt : position < data.length := by
      by_contra hge
      rw [List.drop_of_length_le (by omega), List.flatMap_cons] at hdata
      exact hbytes a List.mem_cons_self (List.append_eq_nil_iff.mp hdata.symm).1
    have hround := hbody a List.mem_cons_self position d _ hdata
    cases hadd : add d a with
    | error e =>
      rw [hadd] at hround
      refine ⟨position, (whileLoop_raise fuel ?_ hround).trans ?_⟩
      · exact hlt
      · rw [List.foldlM_cons, hadd]
        rfl
    | ok d' =>
      rw [hadd] at hround
      have hrest : data.drop (position + (bytes a).length) = items.flatMap bytes := by
        rw [← List.drop_drop, hdata, List.flatMap_cons, List.drop_left]
      obtain ⟨finish, hloop⟩ := ih (fun b hb => hbytes b (List.mem_cons_of_mem _ hb))
        (fun b hb => hbody b (List.mem_cons_of_mem _ hb)) hrest (Nat.le_of_succ_le_succ hfuel) d'
      refine ⟨finish, (whileLoop_step fuel ?_ hround).trans ?_⟩
      · exact hlt
      · rw [hloop, List.foldlM_cons, hadd]
        rfl

end

end Rp86.Lib
