import Rp86.Lab.OmfFormat

/-!
# The OMF reader reads what the format defines

`parse_omf_bytes` inverts the encoding of the records: the segments and the symbols that it returns
are those that the records define (`parseOmfBytes_reads`).  Every round of its loops goes forward,
so they end on every input.
-/

namespace Rp86.Lab

open Lib

variable {payload xs rest : List UInt8} {position n : ℕ}

/-! ### Fields at a position -/

theorem byteAt_of_drop {b : UInt8} (h : payload.drop position = b :: rest) :
    byteAt payload position = .ok b := by
  have hget : payload[position]? = some b := by
    rw [← Nat.add_zero position, ← List.getElem?_drop, h]
    rfl
  unfold byteAt
  rw [hget]

theorem drop_add_of_drop (h : payload.drop position = xs ++ rest) (hn : n = xs.length) :
    payload.drop (position + n) = rest := by
  rw [← List.drop_drop, h, hn, List.drop_left]

theorem drop_succ_of_drop {b : UInt8} (h : payload.drop position = b :: rest) :
    payload.drop (position + 1) = rest := by
  rw [← List.drop_drop, h]
  rfl

theorem slice_of_drop (h : payload.drop position = xs ++ rest) (hn : n = xs.length) :
    slice payload position (position + n) = xs := by
  unfold slice
  rw [h, Nat.add_sub_cancel_left, hn, List.take_left]

/-- The two forms of an index are told apart by the top bit. -/
theorem index_of_drop {i : OmfIndex} (h : payload.drop position = i.bytes ++ rest) :
    index payload position = .ok (i.number, position + i.bytes.length) := by
  have hfits := i.fits
  unfold OmfIndex.bytes at h ⊢
  cases hwide : i.wide with
  | true =>
    rw [hwide, if_pos rfl] at h hfits
    have hbits : ∀ k < 128, UInt8.ofNat (0x80 + k) &&& 0x80 ≠ 0 ∧
        (UInt8.ofNat (0x80 + k) &&& 0x7F).toNat = k := by decide
    obtain ⟨htop, hhigh⟩ := hbits (i.number / 256) (by omega)
    have hlow : (UInt8.ofNat (i.number % 256)).toNat = i.number % 256 := by simp
    have hnumber : (i.number / 256) <<< 8 ||| i.number % 256 = i.number := by
      rw [← Nat.shiftLeft_add_eq_or_of_lt (by omega), Nat.shiftLeft_eq]
      omega
    have hsecond : byteAt payload (position + 1) = .ok (UInt8.ofNat (i.number % 256)) :=
      byteAt_of_drop (drop_succ_of_drop h)
    unfold index
    rw [byteAt_of_drop h]
    show (if UInt8.ofNat (0x80 + i.number / 256) &&& 0x80 ≠ 0 then _ else _) = _
    rw [if_pos htop, hsecond]
    show Except.ok ((UInt8.ofNat (0x80 + i.number / 256) &&& 0x7F).toNat <<< 8
      ||| (UInt8.ofNat (i.number % 256)).toNat, position + 2) = _
    rw [hhigh, hlow, hnumber]
    rfl
  | false =>
    rw [hwide] at h hfits
    have hbits : ∀ k < 128, UInt8.ofNat k &&& 0x80 = 0 ∧ (UInt8.ofNat k).toNat = k := by decide
    obtain ⟨htop, hnumber⟩ := hbits i.number hfits
    unfold index
    rw [byteAt_of_drop h]
    show (if UInt8.ofNat i.number &&& 0x80 ≠ 0 then _ else _) = _
    rw [if_neg (not_not.mpr htop)]
    show Except.ok ((UInt8.ofNat i.number).toNat, position + 1) = _
    rw [hnumber]
    rfl

theorem name_of_drop {name : OmfName} (h : payload.drop position = name.bytes ++ rest) :
    byteAt payload position = .ok (.ofNat name.text.length) ∧
    (UInt8.ofNat name.text.length).toNat = name.text.length ∧
    slice payload (position + 1) (position + 1 + name.text.length) = name.text ∧
    payload.drop (position + 1 + name.text.length) = rest := by
  have htext : payload.drop (position + 1) = name.text ++ rest := drop_succ_of_drop h
  refine ⟨byteAt_of_drop h, ?_, slice_of_drop htext rfl, drop_add_of_drop htext rfl⟩
  rw [UInt8.toNat_ofNat', Nat.mod_eq_of_lt name.fits]

theorem ofLE_slice_of_drop {k : ℕ} (h : payload.drop position = leBytes k n ++ rest)
    (hn : n < 256 ^ k) : ofLE (slice payload position (position + k)) = n := by
  rw [slice_of_drop h (length_leBytes k n).symm, ofLE_leBytes, Nat.mod_eq_of_lt hn]

/-! ### Records -/

variable {d : OmfDefinitions} {fuel : ℕ}

def OmfDefinitions.tables (d : OmfDefinitions) : OmfTables where
  names := none :: d.names.map some
  segments := none :: d.segments.map some
  symbols := d.symbols

def OmfDefinitions.addName (d : OmfDefinitions) (name : OmfName) : OmfDefinitions :=
  { d with names := d.names ++ [latin1 name.text] }

theorem readName_of_drop {name : OmfName} (h : payload.drop position = name.bytes ++ rest) :
    readName payload (position, d.tables)
      = .ok (position + name.bytes.length, (d.addName name).tables) := by
  obtain ⟨hbyte, hsize, htext, -⟩ := name_of_drop h
  show (byteAt payload position >>= _) = _
  rw [hbyte]
  show Except.ok (position + 1 + (UInt8.ofNat name.text.length).toNat, _) = _
  rw [hsize, htext]
  simp [OmfDefinitions.tables, OmfDefinitions.addName, OmfName.bytes, Nat.add_assoc, Nat.add_comm 1]

theorem foldl_addName (list : List OmfName) (d : OmfDefinitions) :
    list.foldl OmfDefinitions.addName d = d.addNames list := by
  induction list generalizing d with
  | nil =>
    unfold OmfDefinitions.addNames
    rw [List.map_nil, List.append_nil, List.foldl_nil]
  | cons name list ih =>
    rw [List.foldl_cons, ih]
    simp [OmfDefinitions.addNames, OmfDefinitions.addName]

theorem length_le_length_flatMap {α : Type} {bytes : α → List UInt8} {items : List α}
    (h : ∀ a ∈ items, bytes a ≠ []) : items.length ≤ (items.flatMap bytes).length := by
  induction items with
  | nil => exact Nat.le_refl _
  | cons a items ih =>
    have ha := List.length_pos_iff.mpr (h a List.mem_cons_self)
    have := ih fun b hb => h b (List.mem_cons_of_mem _ hb)
    rw [List.flatMap_cons, List.length_append, List.length_cons]
    omega

theorem readNames_bytes (list : List OmfName)
    (hfuel : (list.flatMap OmfName.bytes).length ≤ fuel) :
    readNames fuel (list.flatMap OmfName.bytes) d.tables = .ok (d.addNames list).tables := by
  have hne : ∀ name ∈ list, name.bytes ≠ [] := fun name _ => List.cons_ne_nil _ _
  obtain ⟨finish, hloop⟩ := whileLoop_items OmfDefinitions.tables
    (fun d name => .ok (d.addName name)) list hne
    (fun name _ position d rest h => readName_of_drop h) (List.drop_zero)
    (Nat.le_trans (length_le_length_flatMap hne) hfuel) d
  have hfold : list.foldlM (fun d name => (.ok (d.addName name) : Reader OmfDefinitions)) d
      = .ok (list.foldl OmfDefinitions.addName d) := List.foldlM_pure
  unfold readNames
  rw [hloop, hfold, foldl_addName]
  rfl

theorem nameAt_tables (i : OmfIndex) :
    nameAt d.tables i.number = (d.name i).elim (.error (.raised .indexError)) .ok := by
  have hnames : d.tables.names = none :: d.names.map some := rfl
  unfold nameAt OmfDefinitions.name
  rw [hnames]
  cases i.number with
  | zero => rfl
  | succ k =>
    rw [List.getElem?_cons_succ, List.getElem?_map, if_neg (Nat.succ_ne_zero k), Nat.add_sub_cancel]
    cases d.names[k]? with
    | none | some name => rfl

/-- The fields of a segment definition, each read where the one before it ends. -/
theorem readSegment_bytes (s : SegmentDef) :
    readSegment s.type s.bytes d.tables
      = (d.addSegment s).elim (.error (.raised .indexError)) fun d => .ok d.tables := by
  -- the alignment is the top three bits of the attributes
  have hattributes : ((UInt8.ofNat s.attributes >>> 5) &&& 0x07).toNat = s.alignment.code := by
    have hbits : ∀ code < 8, ∀ low < 32,
        ((UInt8.ofNat (code * 32 + low) >>> 5) &&& 0x07).toNat = code := by decide
    refine hbits _ ?_ _ ?_
    · unfold OmfAlignment.code
      split <;> decide
    · have := s.combination.isLt
      split_ifs <;> omega
  have hlocation : (if s.alignment.code = 0 then 1 + 3 else 1)
      = 1 + s.alignment.location.length := by
    cases s.alignment <;> rfl
  have hsize : alignmentBytes s.alignment.code = s.alignment.size := by
    cases s.alignment <;> rfl
  have hwidth : (if s.type = segdef32 then 4 else 2) = offsetWidth s.is32 := by
    unfold SegmentDef.type offsetWidth
    cases s.is32 <;> rfl
  -- where each field starts
  have h0 : s.bytes.drop 0 = .ofNat s.attributes :: (s.alignment.location
      ++ (leBytes (offsetWidth s.is32) s.length
        ++ (s.name.bytes ++ (s.className.bytes ++ s.overlay.bytes)))) := rfl
  have hlength := drop_add_of_drop (drop_succ_of_drop h0) rfl
  have hname := drop_add_of_drop hlength (length_leBytes _ _).symm
  have hclass := drop_add_of_drop hname rfl
  have hoverlay := drop_add_of_drop hclass rfl
  rw [← List.append_nil s.overlay.bytes] at hoverlay
  rw [Nat.zero_add] at hlength hname hclass hoverlay
  unfold readSegment
  rw [byteAt_of_drop h0, ok_bind]
  dsimp only
  rw [hattributes, hlocation, hwidth, ofLE_slice_of_drop hlength s.length_fits,
    index_of_drop hname, ok_bind, index_of_drop hclass, ok_bind, index_of_drop hoverlay, ok_bind,
    nameAt_tables, nameAt_tables]
  simp only [hsize]
  unfold OmfDefinitions.addSegment
  -- the reader raises on a name that has not been defined
  cases d.name s.name with
  | none => rfl
  | some name =>
    cases d.name s.className with
    | none => rfl
    | some className =>
      simp only [OmfDefinitions.tables, Option.elim_some, ok_bind, List.length_cons,
        List.length_map, List.cons_append, Option.bind_eq_bind, Option.bind_some, Option.pure_def,
        List.map_append, List.map_cons, List.map_nil]
      rfl

theorem segmentName_tables (i : OmfIndex) :
    segmentName d.tables i.number = d.segmentName i := by
  unfold segmentName OmfDefinitions.segmentName OmfDefinitions.tables
  cases i.number with
  | zero => rfl
  | succ k =>
    rw [if_neg (Nat.succ_ne_zero k), Nat.add_sub_cancel]
    simp only [List.length_cons, List.length_map, List.getElem?_cons_succ, List.getElem?_map]
    rcases Nat.lt_or_ge k d.segments.length with hk | hk
    · rw [if_pos ⟨Nat.succ_ne_zero k, by omega⟩, List.getElem?_eq_getElem hk]
      rfl
    · rw [if_neg (by omega), List.getElem?_eq_none hk]
      rfl

def OmfDefinitions.addPublic (p : PublicsDef) (d : OmfDefinitions) (q : PublicDef) :
    OmfDefinitions :=
  { d with symbols := d.symbols ++ [d.symbol p q] }

theorem readPublic_of_drop {p : PublicsDef} {q : PublicDef} (hq : q ∈ p.publics)
    (h : payload.drop position = q.bytes p.is32 ++ rest) :
    readPublic payload p.segment.number (offsetWidth p.is32) p.isLocal (position, d.tables)
      = .ok (position + (q.bytes p.is32).length, (d.addPublic p q).tables) := by
  unfold PublicDef.bytes at h
  rw [List.append_assoc, List.append_assoc] at h
  obtain ⟨hbyte, hsize, htext, hoffset⟩ := name_of_drop h
  have htype := drop_add_of_drop hoffset (length_leBytes _ _).symm
  unfold readPublic
  dsimp only
  rw [hbyte, ok_bind, hsize, htext, ofLE_slice_of_drop hoffset (p.offsets_fit q hq),
    index_of_drop htype, ok_bind, segmentName_tables]
  have hlength : (q.bytes p.is32).length
      = 1 + q.name.text.length + offsetWidth p.is32 + q.type.bytes.length := by
    simp only [PublicDef.bytes, OmfName.bytes, List.length_append, List.length_cons, length_leBytes]
    omega
  rw [hlength, ← Nat.add_assoc, ← Nat.add_assoc, ← Nat.add_assoc]
  rfl

theorem foldl_addPublic (p : PublicsDef) (list : List PublicDef) (d : OmfDefinitions) :
    list.foldl (OmfDefinitions.addPublic p) d
      = { d with symbols := d.symbols ++ list.map (d.symbol p) } := by
  induction list generalizing d with
  | nil => rw [List.map_nil, List.append_nil, List.foldl_nil]
  | cons q list ih =>
    -- the segments, and so the name of the segment, are those of before
    have hsymbol : (d.addPublic p q).symbol p = d.symbol p := rfl
    rw [List.foldl_cons, ih, hsymbol, List.map_cons]
    simp [OmfDefinitions.addPublic]

theorem readPublics_bytes (p : PublicsDef) (hfuel : p.bytes.length ≤ fuel) :
    readPublics fuel p.type p.bytes d.tables = .ok (d.addPublics p).tables := by
  have hwidth : (if p.type = pubdef32 ∨ p.type = lpubdef32 then 4 else 2) = offsetWidth p.is32 := by
    unfold PublicsDef.type offsetWidth
    cases p.isLocal <;> cases p.is32 <;> rfl
  have hlocal : decide (p.type = lpubdef ∨ p.type = lpubdef32) = p.isLocal := by
    unfold PublicsDef.type
    cases p.isLocal <;> cases p.is32 <;> rfl
  have hsegment := drop_add_of_drop (List.drop_zero : p.bytes.drop 0 = _) rfl
  have hframe := drop_add_of_drop hsegment rfl
  have hpublics := drop_add_of_drop hframe rfl
  rw [Nat.zero_add] at hsegment hframe hpublics
  -- absolute symbols have the frame of their addresses in front
  have hposition : (if p.segment.number = 0 then p.group.bytes.length + p.segment.bytes.length + 2
      else p.group.bytes.length + p.segment.bytes.length)
      = p.group.bytes.length + p.segment.bytes.length + p.frameBytes.length := by
    unfold PublicsDef.frameBytes
    split_ifs
    · rw [length_leBytes]
    · rfl
  unfold readPublics
  rw [index_of_drop (List.drop_zero : p.bytes.drop 0 = _), ok_bind]
  dsimp only
  rw [Nat.zero_add, index_of_drop hsegment, ok_bind]
  dsimp only
  have hne : ∀ q ∈ p.publics, q.bytes p.is32 ≠ [] := fun q _ => List.cons_ne_nil _ _
  -- every symbol takes a byte, so the rounds suffice
  have hcount : p.publics.length ≤ fuel := by
    have hle : p.publics.length ≤ (p.publics.flatMap fun q => q.bytes p.is32).length :=
      length_le_length_flatMap hne
    unfold PublicsDef.bytes at hfuel
    rw [List.length_append, List.length_append, List.length_append] at hfuel
    omega
  obtain ⟨finish, hloop⟩ := whileLoop_items OmfDefinitions.tables
    (fun d q => .ok (d.addPublic p q)) p.publics hne
    (fun q hq position d rest h => readPublic_of_drop hq h) hpublics hcount d
  have hfold : p.publics.foldlM (fun d q => (.ok (d.addPublic p q) : Reader OmfDefinitions)) d
      = .ok (p.publics.foldl (OmfDefinitions.addPublic p) d) := List.foldlM_pure
  rw [hposition, hwidth, hlocal, hloop, hfold, foldl_addPublic]
  rfl

theorem readRecord_contents (c : OmfContents) (hfuel : c.payload.length ≤ fuel) :
    readRecord fuel c.type c.payload d.tables
      = (d.add c).elim (.error (.raised .indexError)) fun d => .ok d.tables := by
  unfold readRecord
  cases c with
  | names list =>
    rw [if_pos (show (OmfContents.names list).type = lnames from rfl)]
    exact readNames_bytes list hfuel
  | segment s =>
    have htype : s.type ≠ lnames ∧ (s.type = segdef ∨ s.type = segdef32) := by
      unfold SegmentDef.type
      cases s.is32 <;> decide
    show (if s.type = lnames then _ else if s.type = segdef ∨ s.type = segdef32 then _ else _) = _
    rw [if_neg htype.1, if_pos htype.2]
    exact readSegment_bytes s
  | publics p =>
    have htype : p.type ≠ lnames ∧ ¬ (p.type = segdef ∨ p.type = segdef32) ∧
        (p.type = pubdef ∨ p.type = pubdef32 ∨ p.type = lpubdef ∨ p.type = lpubdef32) := by
      unfold PublicsDef.type
      cases p.isLocal <;> cases p.is32 <;> decide
    show (if p.type = lnames then _ else if p.type = segdef ∨ p.type = segdef32 then _
      else if ¬ (p.type = pubdef ∨ p.type = pubdef32 ∨ p.type = lpubdef ∨ p.type = lpubdef32) then _
      else _) = _
    rw [if_neg htype.1, if_neg htype.2.1, if_neg (not_not.mpr htype.2.2)]
    exact readPublics_bytes p hfuel
  | other type payload other_type =>
    simp only [List.mem_cons, List.not_mem_nil, or_false, not_or] at other_type
    obtain ⟨h1, h2, h3, h4⟩ := other_type
    show (if type = lnames then _ else if type = segdef ∨ type = segdef32 then _
      else if ¬ (type = pubdef ∨ type = pubdef32 ∨ type = lpubdef ∨ type = lpubdef32) then _
      else _) = _
    rw [if_neg h1, if_neg (by simp [h2, h3]), if_pos]
    · rfl
    · simp [h4]

variable {data : List UInt8} {tables : OmfTables} {recordType : UInt8}

/-- One round of the reader reads one record. -/
theorem nextRecord_of_drop {r : OmfRecord} (h : data.drop position = r.bytes ++ rest)
    (hfuel : data.length ≤ fuel) : nextRecord fuel data (position, d.tables)
      = ((d.add r.contents).elim (.error (.raised .indexError)) .ok : Reader OmfDefinitions).map
          fun d => (position + r.bytes.length, d.tables) := by
  have hlength : r.bytes.length = 3 + (r.contents.payload.length + 1) := by
    simp only [OmfRecord.bytes, List.length_cons, List.length_append, length_leBytes,
      List.length_nil]
    omega
  have hdata : position + r.bytes.length ≤ data.length := by
    have := congrArg List.length h
    rw [List.length_drop, List.length_append] at this
    omega
  unfold OmfRecord.bytes at h
  rw [List.cons_append, List.append_assoc, List.append_assoc] at h
  have hcount : ofLE (slice data (position + 1) (position + 3)) = r.contents.payload.length + 1 :=
    ofLE_slice_of_drop (drop_succ_of_drop h) r.fits
  have hbehind : data.drop (position + 1 + 2) = r.contents.payload ++ ([r.checksum] ++ rest) :=
    drop_add_of_drop (drop_succ_of_drop h) (length_leBytes _ _).symm
  have hpayload : slice data (position + 3) (position + 3 + (r.contents.payload.length + 1) - 1)
      = r.contents.payload := slice_of_drop hbehind rfl
  unfold nextRecord
  dsimp only
  rw [if_neg (by omega), byteAt_of_drop h, ok_bind, hcount, if_neg (by omega), hpayload,
    readRecord_contents _ (by omega)]
  cases d.add r.contents with
  | none => rfl
  | some d' =>
    show Except.ok (position + 3 + (r.contents.payload.length + 1), d'.tables)
      = Except.ok (position + r.bytes.length, d'.tables)
    rw [hlength, Nat.add_assoc]

/-! ### The end of the loops -/

theorem byteAt_ne_exhausted : byteAt payload position ≠ .error .exhausted := by
  unfold byteAt
  cases payload[position]? with
  | none => exact fun h => by cases h
  | some b => exact fun h => by cases h

theorem nameAt_ne_exhausted {i : ℕ} : nameAt tables i ≠ .error .exhausted := by
  unfold nameAt
  cases tables.names[i]? with
  | none => exact fun h => by cases h
  | some name => exact fun h => by cases h

theorem index_ne_exhausted : index payload position ≠ .error .exhausted := by
  refine bind_ne_exhausted byteAt_ne_exhausted fun first _ => ?_
  split_ifs
  · refine bind_ne_exhausted byteAt_ne_exhausted fun second _ => ?_
    exact fun h => by cases h
  · exact fun h => by cases h

theorem lt_of_index {i finish : ℕ} (h : index payload position = .ok (i, finish)) :
    position < finish := by
  obtain ⟨first, -, h⟩ := bind_eq_ok.mp h
  split_ifs at h
  · obtain ⟨second, -, h⟩ := bind_eq_ok.mp h
    cases h
    omega
  · cases h
    omega

/-- A loop over positions ends if every round goes forward. -/
theorem forwardLoop_ne_exhausted {τ : Type} {body : ℕ × τ → Reader (ℕ × τ)}
    (hbody : ∀ s, body s ≠ .error .exhausted) (hforward : ∀ s s', body s = .ok s' → s.1 < s'.1)
    (hfuel : data.length ≤ fuel) (s : ℕ × τ) :
    whileLoop (fun s => s.1 < data.length) body fuel s ≠ .error .exhausted := by
  refine whileLoop_ne_exhausted (fun s => data.length - s.1) ?_ (fun s _ => hbody s) ?_ ?_
  · intro s hlt
    omega
  · intro s s' hlt hs
    have := hforward s s' hs
    omega
  · show data.length - s.1 ≤ fuel
    omega

theorem readNames_ne_exhausted (hfuel : payload.length ≤ fuel) :
    readNames fuel payload tables ≠ .error .exhausted := by
  refine bind_ne_exhausted (forwardLoop_ne_exhausted ?_ ?_ hfuel _) fun s _ h => by cases h
  · rintro ⟨position, tables⟩
    exact bind_ne_exhausted byteAt_ne_exhausted fun size _ h => by cases h
  · rintro ⟨position, tables⟩ s' h
    obtain ⟨size, -, h⟩ := bind_eq_ok.mp h
    cases h
    show position < position + 1 + size.toNat
    omega

theorem readSegment_ne_exhausted : readSegment recordType payload tables ≠ .error .exhausted := by
  refine bind_ne_exhausted byteAt_ne_exhausted fun attributes _ => ?_
  refine bind_ne_exhausted index_ne_exhausted ?_
  rintro ⟨nameIndex, position⟩ -
  refine bind_ne_exhausted index_ne_exhausted ?_
  rintro ⟨classIndex, position⟩ -
  refine bind_ne_exhausted index_ne_exhausted ?_
  rintro ⟨overlay, position⟩ -
  refine bind_ne_exhausted nameAt_ne_exhausted fun name _ => ?_
  exact bind_ne_exhausted nameAt_ne_exhausted fun className _ h => by cases h

theorem readPublics_ne_exhausted (hfuel : payload.length ≤ fuel) :
    readPublics fuel recordType payload tables ≠ .error .exhausted := by
  refine bind_ne_exhausted index_ne_exhausted ?_
  rintro ⟨group, position⟩ -
  refine bind_ne_exhausted index_ne_exhausted ?_
  rintro ⟨segment, position⟩ -
  refine bind_ne_exhausted (forwardLoop_ne_exhausted ?_ ?_ hfuel _) fun s _ h => by cases h
  · rintro ⟨position, tables⟩
    refine bind_ne_exhausted byteAt_ne_exhausted fun size _ => ?_
    exact bind_ne_exhausted index_ne_exhausted fun type _ h => by cases h
  · rintro ⟨position, tables⟩ s' h
    obtain ⟨size, -, h⟩ := bind_eq_ok.mp h
    obtain ⟨⟨type, finish⟩, htype, h⟩ := bind_eq_ok.mp h
    have := lt_of_index htype
    cases h
    show position < finish
    omega

theorem readRecord_ne_exhausted (hfuel : payload.length ≤ fuel) :
    readRecord fuel recordType payload tables ≠ .error .exhausted := by
  unfold readRecord
  split_ifs
  · exact readNames_ne_exhausted hfuel
  · exact readSegment_ne_exhausted
  · exact readPublics_ne_exhausted hfuel
  · exact fun h => by cases h

theorem length_slice_le {start stop : ℕ} : (slice payload start stop).length ≤ payload.length := by
  unfold slice
  rw [List.length_take, List.length_drop]
  omega

theorem parseOmfBytes_ne_exhausted {Path : Type} (hfuel : data.length ≤ fuel) (path : Option Path) :
    parseOmfBytes fuel data path ≠ .error .exhausted := by
  refine bind_ne_exhausted (forwardLoop_ne_exhausted ?_ ?_ hfuel _) fun s _ h => by cases h
  · rintro ⟨position, tables⟩
    unfold nextRecord
    dsimp only
    refine check_ne_exhausted (bind_ne_exhausted byteAt_ne_exhausted fun recordType _ => ?_)
    refine check_ne_exhausted ?_
    exact bind_ne_exhausted (readRecord_ne_exhausted (Nat.le_trans length_slice_le hfuel))
      fun tables _ h => by cases h
  · rintro ⟨position, tables⟩ s' h
    unfold nextRecord at h
    dsimp only at h
    obtain ⟨-, h⟩ := check_eq_ok.mp h
    obtain ⟨recordType, -, h⟩ := bind_eq_ok.mp h
    obtain ⟨-, h⟩ := check_eq_ok.mp h
    obtain ⟨tables, -, h⟩ := bind_eq_ok.mp h
    cases h
    show position < position + 3 + _
    omega

/-! ### The whole file -/

theorem parseOmfBytes_bytes {Path : Type} (records : List OmfRecord) (path : Option Path)
    (hfuel : (records.flatMap OmfRecord.bytes).length ≤ fuel) :
    parseOmfBytes fuel (records.flatMap OmfRecord.bytes) path
      = (OmfDefinitions.ofRecords records).elim (.error (.raised .indexError)) fun d =>
        .ok { path := path, segments := d.segments, symbols := d.symbols } := by
  have hne : ∀ r ∈ records, r.bytes ≠ [] := fun r _ => List.cons_ne_nil _ _
  obtain ⟨finish, hloop⟩ := whileLoop_items OmfDefinitions.tables
    (fun d r => (d.add r.contents).elim (.error (.raised LabError.indexError)) .ok) records hne
    (fun r _ position d rest h => nextRecord_of_drop h hfuel) List.drop_zero
    (Nat.le_trans (length_le_length_flatMap hne) hfuel) OmfDefinitions.empty
  rw [foldlM_elim] at hloop
  show (whileLoop _ _ fuel (0, OmfDefinitions.empty.tables) >>= _) = _
  rw [hloop]
  unfold OmfDefinitions.ofRecords
  cases records.foldlM (fun d r => d.add r.contents) OmfDefinitions.empty with
  | none => rfl
  | some d =>
    have hsegments : ((d.tables.segments).drop 1).filterMap id = d.segments := by
      show (d.segments.map some).filterMap id = d.segments
      rw [List.filterMap_map, Function.id_comp, List.filterMap_some]
    show Except.ok (OmfObject.mk path ((d.tables.segments.drop 1).filterMap id) d.symbols) = _
    rw [hsegments]
    rfl

/-- **The reader returns exactly the segments and the symbols that a list of records defines, and it
ends on every input.**  A list that refers to a name that it has not defined raises instead. -/
theorem parseOmfBytes_reads {Path : Type} (path : Option Path) :
    (∀ (records : List OmfRecord) (d : OmfDefinitions), OmfDefinitions.ofRecords records = some d →
      ∀ fuel ≥ (records.flatMap OmfRecord.bytes).length,
        parseOmfBytes fuel (records.flatMap OmfRecord.bytes) path
          = .ok { path := path, segments := d.segments, symbols := d.symbols }) ∧
    (∀ records : List OmfRecord, OmfDefinitions.ofRecords records = none →
      ∀ fuel ≥ (records.flatMap OmfRecord.bytes).length,
        parseOmfBytes fuel (records.flatMap OmfRecord.bytes) path
          = .error (.raised .indexError)) ∧
    ∀ (data : List UInt8), ∀ fuel ≥ data.length,
      parseOmfBytes fuel data path ≠ .error .exhausted := by
  refine ⟨fun records d hd fuel hfuel => ?_, fun records hnone fuel hfuel => ?_,
    fun data fuel hfuel => parseOmfBytes_ne_exhausted hfuel path⟩
  · rw [parseOmfBytes_bytes records path hfuel, hd]
    rfl
  · rw [parseOmfBytes_bytes records path hfuel, hnone]
    rfl

/-- A file with one named segment and one symbol in it, of which the checksums are left at zero. -/
example :
    let first : OmfIndex := ⟨1, false, by decide⟩
    let absent : OmfIndex := ⟨0, true, by decide⟩
    let segment : SegmentDef :=
      ⟨false, .paragraph, 2, false, 0x20, by decide, first, absent, absent⟩
    let publics : PublicsDef :=
      ⟨false, true, absent, first, 0, [⟨⟨[0x66], by decide⟩, 0x10, absent⟩], by decide⟩
    let records : List OmfRecord := [⟨.names [⟨[0x54], by decide⟩], 0, by decide⟩,
      ⟨.segment segment, 0, by decide⟩, ⟨.publics publics, 0, by decide⟩]
    parseOmfBytes 40 (records.flatMap OmfRecord.bytes) (none : Option Unit)
      = .ok ⟨none, [⟨1, ['T'], [], 0x20, 16, by decide⟩], [⟨['f'], 1, ['T'], 0x10, true⟩]⟩ := by
  rfl

end Rp86.Lab
