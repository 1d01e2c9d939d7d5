import Rp86.Host.Equiv.Manifest
import Rp86.Host.Equiv.Workload

/-!
# The workload file

A manifest is thirteen integers in forty bytes, and a workload file is a manifest with its image
behind it.  Encoding and decoding are converse relations for both (`encode_eq_ok_iff_decode`,
`encodeWorkloadFile_eq_ok_iff`).  They do not cover every manifest that `validated` lets through: a
negative size of the shared range passes its checks and has no encoding (`workload_file_laws`).
-/

namespace Rp86.Host

open Lib

/-- The integers of an encoded manifest. -/
def WorkloadManifest.fields (m : WorkloadManifest) : List IntField :=
  [(4, magic), (2, formatVersion), (2, manifestSize), (4, m.imageSize), (4, m.imageCrc32),
    (4, m.loadAddress), (2, m.entrySegment), (2, m.entryOffset), (2, m.stackSegment),
    (2, m.stackOffset), (4, m.sharedBase), (4, m.sharedSize), (4, m.flags)]

def manifestWidths : List ℕ := [4, 2, 2, 4, 4, 4, 2, 2, 2, 2, 4, 4, 4]

variable {m : WorkloadManifest} {encoded : List UInt8}

theorem WorkloadManifest.encode_eq_ok_iff :
    m.encode = .ok encoded ↔ m.Accepted ∧ (∀ field ∈ m.fields, field.Fits) ∧
      encoded = m.fields.flatMap IntField.bytes := by
  rw [WorkloadManifest.encode, bind_eq_ok]
  constructor
  · rintro ⟨m', hvalidated, hpack⟩
    exact ⟨(validated_eq_ok.mp hvalidated).2, structPack_eq_ok_iff.mp hpack⟩
  · rintro ⟨haccepted, hpack⟩
    exact ⟨m, validated_eq_ok.mpr ⟨rfl, haccepted⟩, structPack_eq_ok_iff.mpr hpack⟩

theorem WorkloadManifest.decode_eq_ok_iff :
    WorkloadManifest.decode encoded = .ok m ↔ encoded.length = 40 ∧ m.Accepted ∧
      unpackInts manifestWidths encoded 0 = m.fields := by
  have hlength : (encoded.length : ℤ) ≠ manifestSize ↔ encoded.length ≠ 40 := by
    have h40 : manifestSize = 40 := rfl
    omega
  unfold WorkloadManifest.decode
  simp only [check_eq_ok, hlength, not_or, not_not, validated_eq_ok, manifestWidths, unpackInts,
    WorkloadManifest.fields, toNat_le16, toNat_le32, Nat.zero_add, Nat.reduceAdd, List.cons.injEq,
    Prod.mk.injEq, true_and, and_true]
  constructor
  · rintro ⟨hsize, ⟨hmagic, hversion, hheader⟩, rfl, haccepted⟩
    exact ⟨hsize, haccepted, hmagic, hversion, hheader, rfl, rfl, rfl, rfl, rfl, rfl, rfl, rfl, rfl,
      rfl⟩
  · rintro ⟨hsize, haccepted, hmagic, hversion, hheader, hfields⟩
    obtain ⟨hsize', hcrc, hload, hcs, hip, hss, hsp, hbase, hshared, hflags⟩ := hfields
    rw [hsize', hcrc, hload, hcs, hip, hss, hsp, hbase, hshared, hflags]
    exact ⟨hsize, ⟨hmagic, hversion, hheader⟩, rfl, haccepted⟩

/-- **Encoding and decoding a manifest are converse.** -/
theorem WorkloadManifest.encode_eq_ok_iff_decode :
    m.encode = .ok encoded ↔ WorkloadManifest.decode encoded = .ok m := by
  rw [WorkloadManifest.encode_eq_ok_iff, WorkloadManifest.decode_eq_ok_iff]
  constructor
  · rintro ⟨haccepted, hfits, rfl⟩
    refine ⟨by simp [WorkloadManifest.fields, IntField.bytes], haccepted, ?_⟩
    have h := unpackInts_flatMap hfits [] []
    rwa [List.append_nil] at h
  · rintro ⟨hlength, haccepted, hfields⟩
    refine ⟨haccepted, ?_, ?_⟩
    · rw [← hfields]
      exact fits_unpackInts _ _ _
    · have h : (unpackInts manifestWidths encoded 0).flatMap IntField.bytes = encoded.take 40 :=
        flatMap_unpackInts (Nat.le_of_eq hlength.symm)
      rw [← hfields, h, List.take_of_length_le (Nat.le_of_eq hlength)]

/-! ### Which manifests can be encoded -/

/-- An integer without bits outside the low `n` is below `2^n`. -/
theorem range_of_land_lnot {x : ℤ} {n : ℕ}
    (h : Int.land x (Int.lnot ((2 ^ n - 1 : ℕ) : ℤ)) = 0) : 0 ≤ x ∧ x < 2 ^ n := by
  cases x with
  | ofNat x =>
    refine ⟨Int.natCast_nonneg _, ?_⟩
    have hbits : Nat.ldiff x (2 ^ n - 1) = 0 := Int.ofNat_inj.mp h
    have hlt : x < 2 ^ n := by
      apply Nat.lt_pow_two_of_testBit
      intro i hi
      have hbit := Nat.testBit_ldiff x (2 ^ n - 1) i
      rw [hbits, Nat.zero_testBit, Nat.testBit_two_pow_sub_one, decide_eq_false (Nat.not_lt.mpr hi),
        Bool.not_false, Bool.and_true] at hbit
      exact hbit.symm
    show (x : ℤ) < _
    exact_mod_cast hlt
  | negSucc x =>
    -- both operands have their high bits set
    cases (show Int.negSucc (x ||| (2 ^ n - 1)) = 0 from h)

theorem WorkloadManifest.Accepted.flags_range (h : m.Accepted) : 0 ≤ m.flags ∧ m.flags < 2 ^ 6 := by
  apply range_of_land_lnot
  have hknown := h.known
  simp only [WorkloadManifest.has, ne_eq, decide_not, Bool.not_eq_true', decide_eq_false_iff_not,
    not_not] at hknown
  exact hknown

/-- A manifest that passes `validated` fits its fields unless the shared size is negative. -/
theorem WorkloadManifest.Accepted.fits_iff (h : m.Accepted) :
    (∀ field ∈ m.fields, field.Fits) ↔ 0 ≤ m.sharedSize := by
  have hspace : processorAddressSpaceSize = 0x100000 := rfl
  have hmagic : magic = 0x57363850 := rfl
  have hversion : formatVersion = 1 := rfl
  have hheader : manifestSize = 40 := rfl
  obtain ⟨entry, hentry, -⟩ := h.entry
  obtain ⟨stack, hstack⟩ := h.stack
  obtain ⟨hcs, hip, -⟩ := linear_eq_ok.mp hentry
  obtain ⟨hss, hsp, -⟩ := linear_eq_ok.mp hstack
  have hsize := h.imageSize
  have hcrc := h.imageCrc32
  have hload := h.loadAddress
  have hend := h.imageEnd
  have hflags := h.flags_range
  have hbase : 0 ≤ m.sharedBase ∧ m.sharedBase < 0x100000 ∧ m.sharedSize ≤ 0x100000 := by
    by_cases hshared : m.sharedSize = 0
    · have := (h.unshared hshared).1
      omega
    · have := h.shared hshared
      omega
  simp only [WorkloadManifest.fields, forall_fits_cons, forall_fits_nil, and_true]
  omega

/-! ### Files -/

theorem encodeWorkloadFile_eq_ok_iff {manifest : WorkloadManifest} {image : List UInt8} :
    encodeWorkloadFile manifest image = .ok encoded ↔
      decodeWorkloadFile encoded = .ok (manifest, image) := by
  have h40' : manifestSize.toNat = 40 := rfl
  constructor
  · intro h
    obtain ⟨hlength, hcrc⟩ := encodeWorkloadFile_eq_ok h
    rw [encodeWorkloadFile] at h
    obtain ⟨_, -, h⟩ := bind_eq_ok.mp h
    obtain ⟨-, h⟩ := check_eq_ok.mp h
    obtain ⟨head, hencode, h⟩ := bind_eq_ok.mp h
    obtain rfl := Except.ok.inj h
    have hdecode := WorkloadManifest.encode_eq_ok_iff_decode.mp hencode
    have hhead := (WorkloadManifest.decode_eq_ok_iff.mp hdecode).1
    rw [decodeWorkloadFile, h40', List.take_left' hhead, List.drop_left' hhead]
    refine check_eq_ok.mpr ⟨?_, ?_⟩
    · rw [List.length_append]
      omega
    · refine bind_eq_ok.mpr ⟨manifest, hdecode, check_eq_ok.mpr ⟨?_, rfl⟩⟩
      exact not_or.mpr ⟨not_not.mpr hlength, not_not.mpr hcrc⟩
  · intro h
    rw [decodeWorkloadFile] at h
    obtain ⟨-, h⟩ := check_eq_ok.mp h
    obtain ⟨m, hdecode, h⟩ := bind_eq_ok.mp h
    obtain ⟨hmatch, h⟩ := check_eq_ok.mp h
    obtain ⟨rfl, rfl⟩ := Prod.mk.inj (Except.ok.inj h)
    have haccepted := (WorkloadManifest.decode_eq_ok_iff.mp hdecode).2.1
    refine bind_eq_ok.mpr ⟨m, validated_eq_ok.mpr ⟨rfl, haccepted⟩, check_eq_ok.mpr ⟨hmatch, ?_⟩⟩
    refine bind_eq_ok.mpr ⟨_, WorkloadManifest.encode_eq_ok_iff_decode.mpr hdecode, ?_⟩
    show Except.ok _ = _
    rw [List.take_append_drop]

/-- **The workload file format.**  A manifest that passes `validated` has a 40-byte encoding that is
decoded to it exactly when its shared size is not negative; an accepted file is encoded again as it
was; and the accepted files are those that can be encoded. -/
theorem workload_file_laws (m m' : WorkloadManifest) (file : List UInt8) :
    (m.validated = .ok m' →
      ((∃ encoded, m.encode = .ok encoded ∧ encoded.length = 40 ∧
        WorkloadManifest.decode encoded = .ok m) ↔ 0 ≤ m.sharedSize)) ∧
    (∀ manifest image, decodeWorkloadFile file = .ok (manifest, image) →
      encodeWorkloadFile manifest image = .ok file) ∧
    ((∃ manifest image, decodeWorkloadFile file = .ok (manifest, image)) ↔
      ∃ manifest image, encodeWorkloadFile manifest image = .ok file) := by
  refine ⟨?_, ?_, ?_⟩
  · intro hvalidated
    have haccepted := (validated_eq_ok.mp hvalidated).2
    rw [← haccepted.fits_iff]
    constructor
    · rintro ⟨encoded, hencode, -, -⟩
      exact (WorkloadManifest.encode_eq_ok_iff.mp hencode).2.1
    · intro hfits
      have hencode := WorkloadManifest.encode_eq_ok_iff.mpr ⟨haccepted, hfits, rfl⟩
      have hdecode := WorkloadManifest.encode_eq_ok_iff_decode.mp hencode
      exact ⟨_, hencode, (WorkloadManifest.decode_eq_ok_iff.mp hdecode).1, hdecode⟩
  · intro manifest image h
    exact encodeWorkloadFile_eq_ok_iff.mpr h
  · constructor
    · rintro ⟨manifest, image, h⟩
      exact ⟨manifest, image, encodeWorkloadFile_eq_ok_iff.mpr h⟩
    · rintro ⟨manifest, image, h⟩
      exact ⟨manifest, image, encodeWorkloadFile_eq_ok_iff.mp h⟩

/-- A manifest of one byte at `10000h`, with a shared range of the given size. -/
def sharedManifest (sharedSize : ℤ) : WorkloadManifest where
  imageSize := 1
  imageCrc32 := 0x68D2D988
  loadAddress := 0x10000
  entrySegment := 0x1000
  entryOffset := 0
  sharedBase := 0x3F000
  sharedSize := sharedSize
  flags := flagSharedMemory

theorem workload_file_laws_shared :
    (∃ encoded, (sharedManifest 0x1000).encode = .ok encoded ∧ encoded.length = 40 ∧
      WorkloadManifest.decode encoded = .ok (sharedManifest 0x1000)) ∧
    ∃ encoded, decodeWorkloadFile encoded = .ok (sharedManifest 0x1000, [0xF4]) ∧
      encodeWorkloadFile (sharedManifest 0x1000) [0xF4] = .ok encoded := by
  have hlaws := workload_file_laws (sharedManifest 0x1000) (sharedManifest 0x1000)
  obtain ⟨encoded, hencode, hlength, hdecode⟩ := ((hlaws []).1 (by decide +kernel)).mpr (by decide)
  refine ⟨⟨encoded, hencode, hlength, hdecode⟩, encoded ++ [0xF4], ?_⟩
  have hdecoded : decodeWorkloadFile (encoded ++ [0xF4])
      = .ok (sharedManifest 0x1000, [0xF4]) := by
    obtain ⟨-, -, rfl⟩ := WorkloadManifest.encode_eq_ok_iff.mp hencode
    decide +kernel
  exact ⟨hdecoded, (hlaws _).2.1 _ _ hdecoded⟩

/-- A shared range of `-16` bytes passes `validated`, and `struct.pack` raises on it. -/
theorem workload_file_negative_shared :
    (sharedManifest (-16)).validated = .ok (sharedManifest (-16)) ∧
      (sharedManifest (-16)).encode = .error .structError := by
  constructor
  · decide +kernel
  · decide +kernel

end Rp86.Host
