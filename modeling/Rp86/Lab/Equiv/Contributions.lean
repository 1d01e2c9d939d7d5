import Mathlib.Data.List.Nodup
import Rp86.Lab.Omf

/-!
# Where `contribution_bases` puts a contribution

The cursors of `contribution_bases` belong to a name and a class, so the concatenation itself is
sound: the contributions to a segment are aligned and follow one another (`layout_aligned`,
`layout_ordered`).  The bases belong to an object and a name.  A contribution keeps its own base if
no later segment of its object has its name (`base_of_not_displaced`); otherwise the base of the
last such segment is recorded over it.  `contributionBases_laid_iff` says when the table is still
right.
-/

namespace Rp86.Lab

variable {Path : Type}

/-- One contribution of an object to a segment. -/
structure Contribution (Path : Type) where
  path : Option Path
  segment : OmfSegment

namespace Contribution

variable (c d : Contribution Path)

/-- The concatenated segment that a contribution is part of. -/
def group : List Char × List Char := (c.segment.name, c.segment.className)

/-- The entry of the returned table for a contribution. -/
def key : Option Path × List Char := (c.path, c.segment.name)

end Contribution

/-- The contributions of all objects, in link order. -/
def contributions (objects : List (OmfObject Path)) : List (Contribution Path) :=
  objects.flatMap fun object => object.segments.map fun segment => ⟨object.path, segment⟩

/-! ### The concatenation -/

/-- The first multiple of an alignment from `n` on. -/
def alignUp (alignment n : ℕ) : ℕ := (n + alignment - 1) / alignment * alignment

theorem dvd_alignUp (alignment n : ℕ) : alignment ∣ alignUp alignment n := Nat.dvd_mul_left _ _

theorem le_alignUp {alignment : ℕ} (h : 0 < alignment) (n : ℕ) : n ≤ alignUp alignment n := by
  have hdiv := Nat.div_add_mod (n + alignment - 1) alignment
  have hmod := Nat.mod_lt (n + alignment - 1) h
  unfold alignUp
  rw [Nat.mul_comm] at hdiv
  omega

/-- The bases that the concatenation gives to contributions, from the ends reached so far. -/
def layout (ends : List Char × List Char → ℕ) : List (Contribution Path) →
    List (Contribution Path × ℕ)
  | [] => []
  | c :: rest =>
    let base := alignUp c.segment.alignment (ends c.group)
    (c, base) :: layout (fun k => if k = c.group then base + c.segment.length else ends k) rest

theorem layout_fst (ends : List Char × List Char → ℕ) (l : List (Contribution Path)) :
    (layout ends l).map Prod.fst = l := by
  induction l generalizing ends with
  | nil => rfl
  | cons c rest ih =>
    unfold layout
    rw [List.map_cons, ih]

theorem layout_aligned {ends : List Char × List Char → ℕ} {l : List (Contribution Path)}
    {p : Contribution Path × ℕ} (hp : p ∈ layout ends l) : p.1.segment.alignment ∣ p.2 := by
  induction l generalizing ends with
  | nil => cases hp
  | cons c rest ih =>
    rcases List.mem_cons.mp hp with rfl | hp
    · exact dvd_alignUp _ _
    · exact ih hp

/-- No contribution begins before the end that its segment had reached. -/
theorem ends_le_of_mem_layout {ends : List Char × List Char → ℕ} {l : List (Contribution Path)}
    {p : Contribution Path × ℕ} (hp : p ∈ layout ends l) : ends p.1.group ≤ p.2 := by
  induction l generalizing ends with
  | nil => cases hp
  | cons c rest ih =>
    have hle := le_alignUp c.segment.alignment_pos (ends c.group)
    rcases List.mem_cons.mp hp with rfl | hp
    · exact hle
    · have hrest := ih hp
      split_ifs at hrest with hgroup
      · rw [hgroup]
        omega
      · exact hrest

/-- **The contributions to a segment follow one another in link order.** -/
theorem layout_ordered (ends : List Char × List Char → ℕ) (l : List (Contribution Path)) :
    (layout ends l).Pairwise fun p q => p.1.group = q.1.group →
      p.2 + p.1.segment.length ≤ q.2 := by
  induction l generalizing ends with
  | nil => exact List.Pairwise.nil
  | cons c rest ih =>
    refine List.Pairwise.cons (fun q hq hgroup => ?_) (ih _)
    have hq' := ends_le_of_mem_layout hq
    rwa [if_pos hgroup.symm] at hq'

def linked (objects : List (OmfObject Path)) : List (Contribution Path × ℕ) :=
  layout (fun _ => 0) (contributions objects)

variable {objects : List (OmfObject Path)} {c d : Contribution Path} {i j base : ℕ}

theorem getElem?_linked : ((linked objects)[i]?).map Prod.fst = (contributions objects)[i]? := by
  rw [← List.getElem?_map, linked, layout_fst]

theorem exists_linked (h : (contributions objects)[i]? = some c) :
    ∃ base, (linked objects)[i]? = some (c, base) := by
  rw [← getElem?_linked, Option.map_eq_some_iff] at h
  obtain ⟨⟨c', base⟩, h, rfl⟩ := h
  exact ⟨base, h⟩

/-- A later segment of the same object has the name of the contribution at a position. -/
def Displaced (objects : List (OmfObject Path)) (i : ℕ) : Prop :=
  ∃ j c d, i < j ∧ (contributions objects)[i]? = some c ∧ (contributions objects)[j]? = some d ∧
    d.key = c.key

/-- A displaced contribution is so by one that is not displaced. -/
theorem exists_last (hi : (contributions objects)[i]? = some c) :
    ∃ j d base, (linked objects)[j]? = some (d, base) ∧ ¬ Displaced objects j ∧
      d.key = c.key := by
  -- from one displacing segment to the next, as long as there is one
  induction hn : (contributions objects).length - i using Nat.strongRecOn
    generalizing i c with
  | ind n ih =>
    by_cases hdisplaced : Displaced objects i
    · obtain ⟨j, c', d, hij, hc, hd, hkey⟩ := hdisplaced
      obtain rfl := Option.some.inj (hi.symm.trans hc)
      obtain ⟨hj, -⟩ := List.getElem?_eq_some_iff.mp hd
      obtain ⟨k, e, base, he, hlast, hkey'⟩ := ih _ (by omega) hd rfl
      exact ⟨k, e, base, he, hlast, hkey'.trans hkey⟩
    · obtain ⟨base, h⟩ := exists_linked hi
      exact ⟨i, c, base, h, hdisplaced, rfl⟩

/-- The layout gives this base to the last segment of the object that has the contribution's
name. -/
def LastBase (objects : List (OmfObject Path)) (c : Contribution Path) (base : ℕ) : Prop :=
  ∃ j d, (linked objects)[j]? = some (d, base) ∧ ¬ Displaced objects j ∧ d.key = c.key

/-- No contribution is displaced if every object uses every segment name once. -/
theorem not_displaced (hpaths : (objects.map OmfObject.path).Nodup)
    (hnames : ∀ object ∈ objects, (object.segments.map OmfSegment.name).Nodup) (i : ℕ) :
    ¬ Displaced objects i := by
  have hmap : (contributions objects).map Contribution.key
      = objects.flatMap fun object =>
          (object.segments.map OmfSegment.name).map (object.path, ·) := by
    unfold contributions
    rw [List.map_flatMap]
    simp only [List.map_map]
    rfl
  have hkeys : ((contributions objects).map Contribution.key).Nodup := by
    rw [hmap, List.nodup_flatMap]
    constructor
    · intro object hobject
      exact (hnames object hobject).map fun a b h => (Prod.mk.inj h).2
    · -- the entries of different objects differ in the path
      refine (List.pairwise_map.mp hpaths).imp ?_
      intro o o' hne k hk hk'
      obtain ⟨s, -, rfl⟩ := List.mem_map.mp hk
      obtain ⟨s', -, hkey⟩ := List.mem_map.mp hk'
      exact hne (Prod.mk.inj hkey).1.symm
  rintro ⟨j, c, d, hij, hc, hd, hkey⟩
  obtain ⟨hi, rfl⟩ := List.getElem?_eq_some_iff.mp hc
  obtain ⟨hj, rfl⟩ := List.getElem?_eq_some_iff.mp hd
  have hne := List.pairwise_iff_getElem.mp (List.pairwise_map.mp hkeys) i j hi hj hij
  exact hne hkey.symm

/-! ### The returned table -/

variable [DecidableEq Path]

theorem addContribution_eq (c : Contribution Path) (state : Contributions Path) :
    addContribution c.path state c.segment =
      { bases := fun k => if k = c.key then
          some (alignUp c.segment.alignment ((state.cursors c.group).getD 0)) else state.bases k
        cursors := fun k => if k = c.group then
          some (alignUp c.segment.alignment ((state.cursors c.group).getD 0) + c.segment.length)
          else state.cursors k } := by
  have halign : max c.segment.alignment 1 = c.segment.alignment :=
    Nat.max_eq_left c.segment.alignment_pos
  unfold addContribution
  rw [halign]
  rfl

/-- The bases recorded for some contributions are those of their layout, each over the one that its
entry had. -/
theorem foldl_addContribution (l : List (Contribution Path)) (state : Contributions Path) :
    (l.foldl (fun state c => addContribution c.path state c.segment) state).bases =
      (layout (fun k => (state.cursors k).getD 0) l).foldl
        (fun bases p k => if k = p.1.key then some p.2 else bases k) state.bases := by
  induction l generalizing state with
  | nil => rfl
  | cons c rest ih =>
    rw [List.foldl_cons, ih, addContribution_eq, layout, List.foldl_cons]
    congr 2
    funext k
    show (if k = c.group then _ else state.cursors k).getD 0 = if k = c.group then _ else _
    split_ifs with h
    · rfl
    · rfl

theorem contributionBases_eq (objects : List (OmfObject Path)) :
    contributionBases objects =
      (linked objects).foldl (fun bases p k => if k = p.1.key then some p.2 else bases k)
        fun _ => none := by
  have h := foldl_addContribution (contributions objects)
    { cursors := fun _ => none, bases := fun _ => none }
  unfold contributions at h
  rw [List.foldl_flatMap] at h
  simp only [List.foldl_map] at h
  exact h

/-- An entry that no later contribution has keeps its base. -/
theorem foldl_bases_of_not_mem {l : List (Contribution Path × ℕ)}
    {bases : Option Path × List Char → Option ℕ} {k : Option Path × List Char}
    (h : ∀ p ∈ l, p.1.key ≠ k) :
    l.foldl (fun bases p k => if k = p.1.key then some p.2 else bases k) bases k = bases k := by
  induction l generalizing bases with
  | nil => rfl
  | cons p rest ih =>
    rw [List.foldl_cons, ih fun q hq => h q (List.mem_cons_of_mem _ hq)]
    exact if_neg (h p List.mem_cons_self).symm

theorem isSome_foldl_bases {l : List (Contribution Path × ℕ)}
    {bases : Option Path × List Char → Option ℕ} {k : Option Path × List Char}
    (h : (bases k).isSome ∨ ∃ p ∈ l, p.1.key = k) :
    (l.foldl (fun bases p k => if k = p.1.key then some p.2 else bases k) bases k).isSome := by
  induction l generalizing bases with
  | nil =>
    rcases h with h | ⟨p, hp, -⟩
    · exact h
    · cases hp
  | cons p rest ih =>
    rw [List.foldl_cons]
    apply ih
    by_cases hk : k = p.1.key
    · left
      rw [if_pos hk]
      rfl
    · rw [if_neg hk]
      refine h.imp_right ?_
      rintro ⟨q, hq, rfl⟩
      rcases List.mem_cons.mp hq with rfl | hq
      · exact absurd rfl hk
      · exact ⟨q, hq, rfl⟩

/-! ### Contributions and their entries -/

/-- The base that `contribution_bases` returns for a contribution. -/
def baseOf (objects : List (OmfObject Path)) (c : Contribution Path) : ℕ :=
  (contributionBases objects c.key).getD 0

/-- The returned bases lay the contributions out: each has one, it is a multiple of the alignment,
and of two contributions to one segment the first ends before the second begins. -/
structure Laid (objects : List (OmfObject Path)) : Prop where
  recorded : ∀ c ∈ contributions objects, (contributionBases objects c.key).isSome
  aligned : ∀ c ∈ contributions objects, c.segment.alignment ∣ baseOf objects c
  ordered : (contributions objects).Pairwise fun c d => c.group = d.group →
    baseOf objects c + c.segment.length ≤ baseOf objects d

/-- **A contribution that no later segment of its object displaces keeps its own base.** -/
theorem base_of_not_displaced (h : (linked objects)[i]? = some (c, base))
    (hkept : ¬ Displaced objects i) : baseOf objects c = base := by
  obtain ⟨hi, hget⟩ := List.getElem?_eq_some_iff.mp h
  have hsplit : linked objects
      = (linked objects).take i ++ (c, base) :: (linked objects).drop (i + 1) := by
    rw [← hget, ← List.drop_eq_getElem_cons hi, List.take_append_drop]
  have hlater : ∀ p ∈ (linked objects).drop (i + 1), p.1.key ≠ c.key := by
    intro p hp hkey
    obtain ⟨j, hj⟩ := List.mem_iff_getElem?.mp hp
    rw [List.getElem?_drop] at hj
    refine hkept ⟨i + 1 + j, c, p.1, by omega, ?_, ?_, hkey⟩
    · rw [← getElem?_linked, h]
      rfl
    · rw [← getElem?_linked, hj]
      rfl
  unfold baseOf
  rw [contributionBases_eq, hsplit, List.foldl_append, List.foldl_cons,
    foldl_bases_of_not_mem hlater, if_pos rfl]
  rfl

theorem recorded (hc : c ∈ contributions objects) :
    (contributionBases objects c.key).isSome := by
  obtain ⟨i, hi⟩ := List.mem_iff_getElem?.mp hc
  obtain ⟨base, h⟩ := exists_linked hi
  rw [contributionBases_eq]
  exact isSome_foldl_bases (Or.inr ⟨_, List.mem_of_getElem? h, rfl⟩)

theorem aligned_of_not_displaced (hi : (contributions objects)[i]? = some c)
    (hkept : ¬ Displaced objects i) : c.segment.alignment ∣ baseOf objects c := by
  obtain ⟨base, h⟩ := exists_linked hi
  rw [base_of_not_displaced h hkept]
  exact layout_aligned (List.mem_of_getElem? h)

theorem ordered_of_not_displaced (hij : i < j) (hi : (contributions objects)[i]? = some c)
    (hj : (contributions objects)[j]? = some d) (hgroup : c.group = d.group)
    (hkept : ¬ Displaced objects i) (hkept' : ¬ Displaced objects j) :
    baseOf objects c + c.segment.length ≤ baseOf objects d := by
  obtain ⟨base, h⟩ := exists_linked hi
  obtain ⟨base', h'⟩ := exists_linked hj
  rw [base_of_not_displaced h hkept, base_of_not_displaced h' hkept']
  obtain ⟨hi, hget⟩ := List.getElem?_eq_some_iff.mp h
  obtain ⟨hj, hget'⟩ := List.getElem?_eq_some_iff.mp h'
  have hordered := List.pairwise_iff_getElem.mp
    (layout_ordered (fun _ => 0) (contributions objects)) i j hi hj hij
  unfold linked at hget hget'
  rw [hget, hget'] at hordered
  exact hordered hgroup

theorem LastBase.eq {c : Contribution Path} {base : ℕ} (h : LastBase objects c base) :
    baseOf objects c = base := by
  obtain ⟨j, d, hd, hlast, hkey⟩ := h
  rw [← base_of_not_displaced hd hlast, baseOf, baseOf, hkey]

theorem exists_lastBase (hi : (contributions objects)[i]? = some c) :
    LastBase objects c (baseOf objects c) := by
  obtain ⟨j, d, base, hd, hlast, hkey⟩ := exists_last hi
  have h : LastBase objects c base := ⟨j, d, hd, hlast, hkey⟩
  rwa [h.eq]

theorem Laid.le (h : Laid objects) (hij : i < j) (hc : (contributions objects)[i]? = some c)
    (hd : (contributions objects)[j]? = some d) (hgroup : c.group = d.group) :
    baseOf objects c + c.segment.length ≤ baseOf objects d := by
  obtain ⟨hi, rfl⟩ := List.getElem?_eq_some_iff.mp hc
  obtain ⟨hj, rfl⟩ := List.getElem?_eq_some_iff.mp hd
  exact List.pairwise_iff_getElem.mp h.ordered i j hi hj hij hgroup

theorem laid_iff :
    Laid objects ↔
      (∀ i c base, (contributions objects)[i]? = some c → Displaced objects i →
        LastBase objects c base → c.segment.alignment ∣ base) ∧
      (∀ i j c d base base', i < j → (contributions objects)[i]? = some c →
        (contributions objects)[j]? = some d → c.group = d.group →
        Displaced objects i ∨ Displaced objects j → LastBase objects c base →
        LastBase objects d base' → base + c.segment.length ≤ base') := by
  constructor
  · intro h
    refine ⟨fun i c base hc _ hbase => ?_, fun i j c d base base' hij hc hd hgroup _ hb hb' => ?_⟩
    · rw [← hbase.eq]
      exact h.aligned c (List.mem_of_getElem? hc)
    · rw [← hb.eq, ← hb'.eq]
      exact h.le hij hc hd hgroup
  · rintro ⟨haligned, hordered⟩
    refine ⟨fun c hc => recorded hc, fun c hc => ?_, List.pairwise_iff_getElem.mpr ?_⟩
    · obtain ⟨i, hi⟩ := List.mem_iff_getElem?.mp hc
      by_cases hdisplaced : Displaced objects i
      · exact haligned i c _ hi hdisplaced (exists_lastBase hi)
      · exact aligned_of_not_displaced hi hdisplaced
    · intro i j hi hj hij hgroup
      have hc := List.getElem?_eq_getElem hi
      have hd := List.getElem?_eq_getElem hj
      by_cases hdisplaced : Displaced objects i ∨ Displaced objects j
      · exact hordered i j _ _ _ _ hij hc hd hgroup hdisplaced (exists_lastBase hc)
          (exists_lastBase hd)
      · obtain ⟨hkept, hkept'⟩ := not_or.mp hdisplaced
        exact ordered_of_not_displaced hij hc hd hgroup hkept hkept'

/-- **When the returned bases lay the contributions out.**  They do if no object has two segments of
one name, and only if, of two segments of an object with one name and class, the first is empty.
They do exactly if the contributions that a later segment of their object displaces fit the place
that the layout gives to the last such segment. -/
theorem contributionBases_laid_iff (objects : List (OmfObject Path))
    (hpaths : (objects.map OmfObject.path).Nodup) :
    ((∀ object ∈ objects, (object.segments.map OmfSegment.name).Nodup) → Laid objects) ∧
    (Laid objects → ∀ (i j : ℕ) (c d : Contribution Path), i < j →
      (contributions objects)[i]? = some c → (contributions objects)[j]? = some d →
      d.key = c.key → c.group = d.group → c.segment.length = 0) ∧
    (Laid objects ↔
      (∀ i c base, (contributions objects)[i]? = some c → Displaced objects i →
        LastBase objects c base → c.segment.alignment ∣ base) ∧
      (∀ i j c d base base', i < j → (contributions objects)[i]? = some c →
        (contributions objects)[j]? = some d → c.group = d.group →
        Displaced objects i ∨ Displaced objects j → LastBase objects c base →
        LastBase objects d base' → base + c.segment.length ≤ base')) := by
  refine ⟨fun hnames => laid_iff.mpr ⟨fun i c _ _ hdisplaced => ?_, ?_⟩, ?_, laid_iff⟩
  · exact absurd hdisplaced (not_displaced hpaths hnames i)
  · intro i j c d _ _ _ _ _ _ hdisplaced
    rcases hdisplaced with h | h
    · exact absurd h (not_displaced hpaths hnames i)
    · exact absurd h (not_displaced hpaths hnames j)
  · -- both have one base
    intro h i j c d hij hc hd hkey hgroup
    have hle := h.le hij hc hd hgroup
    rw [baseOf, baseOf, hkey] at hle
    omega

/-- A paragraph-aligned segment of one byte. -/
def paragraphByte : OmfSegment where
  index := 1
  name := ['D']
  className := ['C']
  length := 1
  alignment := 16
  alignment_pos := by decide

/-- The byte-aligned segment of the same name, class and length. -/
def looseByte : OmfSegment :=
  { paragraphByte with index := 2, alignment := 1, alignment_pos := by decide }

/-- Two objects, each with one of the segments. -/
theorem contributionBases_laid_iff_two :
    Laid [⟨some 0, [paragraphByte], []⟩, (⟨some 1, [looseByte], []⟩ : OmfObject ℕ)] :=
  (contributionBases_laid_iff _ (by decide)).1 (by decide)

/-- One object with both: the base of the second is recorded over that of the first, which is not at
a multiple of 16 then, and both intervals are `[1, 2)`. -/
theorem contributionBases_overwrites :
    contributionBases [(⟨some 0, [paragraphByte, looseByte], []⟩ : OmfObject ℕ)] (some 0, ['D'])
      = some 1 ∧
    ¬ Laid [(⟨some 0, [paragraphByte, looseByte], []⟩ : OmfObject ℕ)] := by
  refine ⟨by decide, fun h => ?_⟩
  have haligned := h.aligned ⟨some 0, paragraphByte⟩ List.mem_cons_self
  revert haligned
  decide

end Rp86.Lab
