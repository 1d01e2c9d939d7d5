import Rp86.Lab.Symbols

/-!
# Spans and address resolution

`resolve` names, for every address from one used symbol address up to the next, a symbol at the
first of the two (`resolved_at_iff`), always the last one there.  `span` ends at the next symbol of
the table, which for a symbol that is followed by another one at its own address is no range at all
and is widened to one byte.
-/

namespace Rp86.Lab

open Lib

variable {table : SymbolTable} {s t u : Symbol} {a : ℤ} {i j : ℕ}

theorem Symbol.le_address (h : s.le t) : s.address ≤ t.address := by
  rcases h with h | h
  · exact Int.le_of_lt h
  · exact Int.le_of_eq h.1

theorem Symbol.le_name (h : s.le t) (haddress : s.address = t.address) : s.name ≤ t.name := by
  rcases h with h | h
  · exact absurd haddress (Int.ne_of_lt h)
  · exact h.2

namespace SymbolTable

theorem le_of_lt (hi : i < table.symbols.length) (hj : j < table.symbols.length) (hij : i < j) :
    table.symbols[i].le table.symbols[j] :=
  List.pairwise_iff_getElem.mp table.sorted i j hi hj hij

theorem address_le (hi : i < table.symbols.length) (hj : j < table.symbols.length) (hij : i ≤ j) :
    table.symbols[i].address ≤ table.symbols[j].address := by
  rcases Nat.eq_or_lt_of_le hij with rfl | hij
  · exact Int.le_refl _
  · exact Symbol.le_address (le_of_lt hi hj hij)

theorem addresses_sorted : table.addresses.Pairwise (· ≤ ·) :=
  List.pairwise_map.mpr (table.sorted.imp Symbol.le_address)

/-- The symbols before the found position are those up to the address. -/
theorem lt_bisectRight_addresses (hi : i < table.symbols.length) :
    i < bisectRight table.addresses a ↔ table.symbols[i].address ≤ a := by
  have hi' : i < table.addresses.length := by
    unfold addresses
    rwa [List.length_map]
  have hget : table.addresses[i] = table.symbols[i].address := List.getElem_map _
  rw [lt_bisectRight_iff addresses_sorted i hi', hget]

/-- `resolve` names a symbol: it picks the symbol and labels the address by it. -/
def Names (table : SymbolTable) (a : ℤ) (t : Symbol) : Prop :=
  table.resolved a = some t ∧ table.resolve a = some (t.label a)

theorem names_iff : table.Names a t ↔ table.resolved a = some t := by
  constructor
  · intro h
    exact h.1
  · intro h
    refine ⟨h, ?_⟩
    unfold resolve
    rw [h]
    rfl

/-- The symbol that is picked is at a used address exactly from that address up to the next one. -/
theorem resolved_at_iff (hs : s ∈ table.symbols) :
    (∃ t, table.resolved a = some t ∧ t.address = s.address) ↔
      s.address ≤ a ∧ ∀ u ∈ table.symbols, s.address < u.address → a < u.address := by
  have hle : bisectRight table.addresses a ≤ table.symbols.length := by
    have h := bisectRight_le (l := table.addresses) (x := a)
    unfold addresses at h ⊢
    rwa [List.length_map] at h
  unfold resolved
  cases hn : bisectRight table.addresses a with
  | zero =>
    -- no symbol is at or below the address
    constructor
    · rintro ⟨t, ht, -⟩
      cases ht
    · rintro ⟨ha, -⟩
      obtain ⟨i, hi, rfl⟩ := List.getElem_of_mem hs
      have := lt_bisectRight_addresses hi |>.mpr ha
      omega
  | succ index =>
    have hindex : index < table.symbols.length := by omega
    have hbelow := (lt_bisectRight_addresses (a := a) hindex).mp (by omega)
    have hget : table.symbols[index]? = some table.symbols[index] := List.getElem?_eq_getElem hindex
    have habove : ∀ u ∈ table.symbols, table.symbols[index].address < u.address →
        a < u.address := by
      intro u hu hlt
      obtain ⟨j, hj, rfl⟩ := List.getElem_of_mem hu
      by_contra hge
      have := (lt_bisectRight_addresses hj).mpr (Int.not_lt.mp hge)
      have := address_le hj hindex (by omega)
      omega
    constructor
    · rintro ⟨t, ht, hts⟩
      obtain rfl := Option.some.inj (hget.symm.trans ht)
      rw [← hts]
      exact ⟨hbelow, habove⟩
    · rintro ⟨ha, hnext⟩
      refine ⟨_, hget, ?_⟩
      obtain ⟨i, hi, rfl⟩ := List.getElem_of_mem hs
      have hi' := (lt_bisectRight_addresses hi).mpr ha
      have hge := address_le hi hindex (by omega)
      by_contra hne
      have := hnext _ (List.getElem_mem hindex) (by omega)
      omega

/-! ### Spans -/

theorem byName_eq_some (hnames : (table.symbols.map Symbol.name).Nodup) (hs : s ∈ table.symbols) :
    table.byName s.name = some s := by
  unfold byName
  cases h : table.symbols.reverse.find? fun symbol => symbol.name = s.name with
  | none =>
    have hnone := List.find?_eq_none.mp h s (List.mem_reverse.mpr hs)
    simp at hnone
  | some t =>
    have hname : t.name = s.name := by simpa using List.find?_some h
    have ht : t ∈ table.symbols := List.mem_reverse.mp (List.mem_of_find?_eq_some h)
    rw [List.inj_on_of_nodup_map hnames ht hs hname]

/-- The span of a symbol at a position ends at the symbol behind it. -/
theorem span_getElem (hnames : (table.symbols.map Symbol.name).Nodup)
    (hi : i + 1 < table.symbols.length) :
    table.span table.symbols[i].name = .ok (table.symbols[i].address,
      max (table.symbols[i].address + 1) table.symbols[i + 1].address) := by
  have hindex : table.symbols.idxOf (table.symbols[i]) = i :=
    (List.Nodup.of_map Symbol.name hnames).idxOf_getElem i _
  unfold span
  rw [byName_eq_some hnames (List.getElem_mem _)]
  simp only [hindex, List.getElem?_eq_getElem hi]

/-- A symbol that is followed by a higher address is the last one of its own address. -/
theorem name_le_of_address_lt (hi : i + 1 < table.symbols.length)
    (hlt : table.symbols[i].address < table.symbols[i + 1].address) (ht : t ∈ table.symbols)
    (haddress : t.address = table.symbols[i].address) : t.name ≤ table.symbols[i].name := by
  obtain ⟨j, hj, rfl⟩ := List.getElem_of_mem ht
  rcases Nat.lt_trichotomy j i with hji | rfl | hij
  · exact Symbol.le_name (le_of_lt hj (by omega) hji) haddress
  · exact le_refl _
  · have := address_le hi hj hij
    omega

/-- A symbol that is followed by another one at its own address is not the last one there. -/
theorem not_name_le_of_address_eq (hnames : (table.symbols.map Symbol.name).Nodup)
    (hi : i + 1 < table.symbols.length)
    (haddress : table.symbols[i].address = table.symbols[i + 1].address) :
    ¬ table.symbols[i + 1].name ≤ table.symbols[i].name := by
  intro hle
  have hge := Symbol.le_name (le_of_lt (by omega) hi (Nat.lt_succ_self i)) haddress
  have heq := List.inj_on_of_nodup_map hnames (List.getElem_mem _) (List.getElem_mem _)
    (le_antisymm hle hge)
  have := (List.Nodup.of_map Symbol.name hnames).getElem_inj_iff.mp heq
  omega

/-- The next used address is the one of the symbol behind, if that is higher. -/
theorem address_le_of_lt (hi : i + 1 < table.symbols.length) (hu : u ∈ table.symbols)
    (hlt : table.symbols[i].address < u.address) :
    table.symbols[i + 1].address ≤ u.address := by
  obtain ⟨j, hj, rfl⟩ := List.getElem_of_mem hu
  by_contra hgt
  rcases Nat.lt_or_ge i j with hij | hji
  · have := address_le hi hj hij
    omega
  · have := address_le hj (by omega) hji
    omega

/-- **The span of a symbol is where `resolve` names its address exactly if it is the last symbol of
its address, or the next byte starts another symbol.**  Names are unique and the symbol is not at
the highest address. -/
theorem span_agrees_iff (table : SymbolTable) (hnames : (table.symbols.map Symbol.name).Nodup)
    (s : Symbol) (hs : s ∈ table.symbols) (hhigh : ∃ u ∈ table.symbols, s.address < u.address) :
    (∀ a : ℤ, (∃ start finish, table.span s.name = .ok (start, finish) ∧ start ≤ a ∧ a < finish) ↔
      ∃ t, table.Names a t ∧ t.address = s.address) ↔
    (∀ t ∈ table.symbols, t.address = s.address → t.name ≤ s.name) ∨
      ∃ u ∈ table.symbols, u.address = s.address + 1 := by
  -- the symbol stands at position `i`, and a higher address behind it
  obtain ⟨i, hi, rfl⟩ := List.getElem_of_mem hs
  obtain ⟨u, hu, hlt⟩ := hhigh
  obtain ⟨k, hk, rfl⟩ := List.getElem_of_mem hu
  have hik : i < k := by
    by_contra hki
    have := address_le hk hi (by omega)
    omega
  have hnext : i + 1 < table.symbols.length := by omega
  have hspan : ∀ a, (∃ start finish, table.span table.symbols[i].name = .ok (start, finish) ∧
      start ≤ a ∧ a < finish) ↔
      table.symbols[i].address ≤ a ∧
        a < max (table.symbols[i].address + 1) table.symbols[i + 1].address := by
    intro a
    rw [span_getElem hnames hnext]
    constructor
    · rintro ⟨start, finish, h, ha⟩
      cases h
      exact ha
    · intro ha
      exact ⟨_, _, rfl, ha⟩
  simp only [hspan, names_iff, resolved_at_iff hs]
  rcases Int.lt_or_eq_of_le (address_le hi hnext (Nat.le_succ i)) with habove | hsame
  · -- the symbol is the last one of its address, and its span ends at the next address
    refine iff_of_true (fun a => and_congr_right fun _ => ?_)
      (Or.inl fun t ht => name_le_of_address_lt hnext habove ht)
    rw [max_eq_right habove]
    constructor
    · intro ha u hu hlt
      exact Int.lt_of_lt_of_le ha (address_le_of_lt hnext hu hlt)
    · intro ha
      exact ha _ (List.getElem_mem hnext) habove
  · -- another symbol of its address follows, and its span is one byte
    have hlast : ¬ ∀ t ∈ table.symbols, t.address = table.symbols[i].address →
        t.name ≤ table.symbols[i].name := fun h =>
      not_name_le_of_address_eq hnames hnext hsame (h _ (List.getElem_mem hnext) hsame.symm)
    rw [or_iff_right hlast, ← hsame, max_eq_left (by omega)]
    constructor
    · intro h
      by_contra hnone
      have hone := (h (table.symbols[i].address + 1)).mpr ⟨by omega, fun u hu hlt => by
        have : u.address ≠ table.symbols[i].address + 1 := fun heq => hnone ⟨u, hu, heq⟩
        omega⟩
      omega
    · rintro ⟨u, hu, haddress⟩ a
      refine and_congr_right fun _ => ⟨fun ha v hv hlt => by omega, fun ha => ?_⟩
      have := ha u hu (by omega)
      omega

/-- Two names of one routine, and the routine behind it. -/
def aliased : SymbolTable :=
  ofSymbols [⟨0x100, ['a']⟩, ⟨0x100, ['b']⟩, ⟨0x110, ['c']⟩]

theorem span_agrees_iff_last :
    aliased.span ['b'] = .ok (0x100, 0x110) ∧
      ∀ a : ℤ, (∃ start finish, aliased.span ['b'] = .ok (start, finish) ∧ start ≤ a ∧
        a < finish) ↔ ∃ t, aliased.Names a t ∧ t.address = 0x100 :=
  ⟨rfl, (span_agrees_iff aliased (by decide) ⟨0x100, ['b']⟩ (by decide)
    ⟨⟨0x110, ['c']⟩, by decide, by decide⟩).mpr (Or.inl (by decide))⟩

/-- The address 0x105 belongs to the aliased routine, and its second name says so, but the span of
its first name is one byte. -/
theorem span_misses_alias :
    aliased.span ['a'] = .ok (0x100, 0x101) ∧ aliased.Names 0x105 ⟨0x100, ['b']⟩ := by
  refine ⟨rfl, names_iff.mpr ?_⟩
  decide +kernel

end SymbolTable

end Rp86.Lab
