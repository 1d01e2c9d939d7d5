import Mathlib.Data.List.Iterate
import Rp86.Host.Equiv.Filesystem
import Rp86.Host.Equiv.Memory
import Rp86.Host.Equiv.Workload
import Rp86.Host.RequestChannel

/-!
# The sequences of the Host's records

A builder numbers its records from the sequence it is given.  `memory_write_records` and
`mailbox_commit_records` use that successor; `upload_records` adds one without a bound and
`write_records` wraps to 0, so these two number their records well exactly when the last of them is
still below `2^32` (`builders_numbered`).
-/

namespace Rp86.Host

open Lib

/-- `RequestSequence.value` after the records were exchanged, one behind the other. -/
def sequenceAfter (value : ℤ) (records : List Message) : ℤ :=
  records.foldl (fun _ record => advanceAfter record.sequence) value

/-- The records are numbered from `first` on as `RequestSequence` counts. -/
structure Numbered (first : ℤ) (records : List Message) : Prop where
  consecutive : records.map Message.sequence = List.iterate advanceAfter first records.length
  ne_zero : ∀ record ∈ records, record.sequence ≠ 0
  distinct : records.length < 2 ^ 32 - 1 → (records.map Message.sequence).Nodup
  encodes : ∀ record ∈ records, ∃ bytes, record.encode = .ok bytes
  following : sequenceAfter first records = advanceAfter^[records.length] first

/-! ### The successor -/

variable {first address sequence transferId : ℤ} {records : List Message} {message : Message}
  {data image : List UInt8} {offset : ℕ} {path : List Char}

/-- The successor runs through `1 .. 2^32 - 1` in a cycle. -/
theorem iterate_advanceAfter_eq (hfirst : 1 ≤ first ∧ first < 2 ^ 32) (i : ℕ) :
    advanceAfter^[i] first = 1 + (first - 1 + i) % (2 ^ 32 - 1) := by
  induction i with
  | zero =>
    show first = _
    omega
  | succ i ih =>
    rw [Function.iterate_succ_apply', ih, advanceAfter, nextSequence]
    push_cast
    split_ifs with hwrap <;> omega

/-- It is the plain successor below the wrap. -/
theorem iterate_advanceAfter_of_lt (hfirst : 1 ≤ first) {i : ℕ} (hlast : first + i < 2 ^ 32) :
    advanceAfter^[i] first = first + i := by
  rw [iterate_advanceAfter_eq ⟨hfirst, by omega⟩]
  omega

theorem nodup_iterate_advanceAfter (hfirst : 1 ≤ first ∧ first < 2 ^ 32) {n : ℕ}
    (hn : n < 2 ^ 32 - 1) : (List.iterate advanceAfter first n).Nodup := by
  apply List.pairwise_iff_getElem.mpr
  intro i j hi hj hij
  rw [List.length_iterate] at hi hj
  rw [List.getElem_iterate, List.getElem_iterate, iterate_advanceAfter_eq hfirst,
    iterate_advanceAfter_eq hfirst]
  omega

theorem sequenceAfter_eq
    (h : records.map Message.sequence = List.iterate advanceAfter first records.length) :
    sequenceAfter first records = advanceAfter^[records.length] first := by
  induction records generalizing first with
  | nil => rfl
  | cons record records ih =>
    obtain ⟨hrecord, hrest⟩ := List.cons.inj h
    rw [sequenceAfter, List.foldl_cons, hrecord]
    exact ih hrest

/-- A record that can be encoded if its sequence can. -/
def Message.Encodable (message : Message) : Prop :=
  0 ≤ message.sequence ∧ message.sequence < 2 ^ 32 → ∃ bytes, message.encode = .ok bytes

/-- Consecutive sequences give all the rest. -/
theorem Numbered.of_consecutive (hfirst : 1 ≤ first ∧ first < 2 ^ 32)
    (h : records.map Message.sequence = List.iterate advanceAfter first records.length)
    (hencodable : ∀ record ∈ records, record.Encodable) : Numbered first records := by
  have hrange : ∀ record ∈ records, 1 ≤ record.sequence ∧ record.sequence < 2 ^ 32 := by
    intro record hrecord
    have hmem := List.mem_map_of_mem (f := Message.sequence) hrecord
    rw [h, List.mem_iterate] at hmem
    obtain ⟨i, -, hi⟩ := hmem
    rw [hi, iterate_advanceAfter_eq hfirst]
    omega
  refine ⟨h, ?_, ?_, ?_, sequenceAfter_eq h⟩
  · intro record hrecord
    have := hrange record hrecord
    omega
  · intro hlength
    rw [h]
    exact nodup_iterate_advanceAfter hfirst hlength
  · intro record hrecord
    have := hrange record hrecord
    exact hencodable record hrecord ⟨by omega, this.2⟩

/-! ### The records of each builder -/

theorem Message.Represents.encodable {request : UInt32 → Rp86.Message}
    (h : message.Represents request) : message.Encodable := by
  intro hsequence
  obtain ⟨sequence, hencode⟩ := h hsequence
  exact ⟨_, hencode⟩

theorem Message.Sends.encodable {request : UInt32 → Rp86.Message} (h : message.Sends request) :
    message.Encodable :=
  Message.Represents.encodable fun _ => h

theorem encodable_of_forall₂ {α : Type} {R : Message → α → Prop} {messages : List Message}
    {as : List α} (h : List.Forall₂ R messages as)
    (hR : ∀ {message a}, R message a → message.Encodable) :
    ∀ message ∈ messages, message.Encodable := by
  induction h with
  | nil => exact fun _ hmem => absurd hmem List.not_mem_nil
  | cons hmessage _ ih => exact List.forall_mem_cons.mpr ⟨hR hmessage, ih⟩

theorem Message.sequence_lt_of_encode {bytes : List UInt8} (h : message.encode = .ok bytes) :
    message.sequence < 2 ^ 32 := by
  rw [Message.encode] at h
  obtain ⟨-, h⟩ := check_eq_ok.mp h
  obtain ⟨-, h⟩ := check_eq_ok.mp h
  obtain ⟨fields, hpack, -⟩ := bind_eq_ok.mp h
  obtain ⟨hfits, -⟩ := structPack_eq_ok_iff.mp hpack
  have hsequence := hfits (4, message.sequence) (by simp)
  exact hsequence.2

/-- The loop of `memory_write_records` numbers its records with the successor. -/
theorem memoryWriteLoop_sequences (h : memoryWriteLoop address data offset sequence = .ok records) :
    records.map Message.sequence = List.iterate advanceAfter sequence records.length := by
  induction offset, sequence using memoryWriteLoop.induct data generalizing records with
  | case1 offset sequence hoffset chunk =>
    rename_i ih
    rw [memoryWriteLoop, if_pos hoffset] at h
    obtain ⟨header, -, h⟩ := bind_eq_ok.mp h
    obtain ⟨rest, hrest, h⟩ := bind_eq_ok.mp h
    obtain rfl := Except.ok.inj h
    exact congrArg _ (ih hrest)
  | case2 offset sequence hoffset =>
    rw [memoryWriteLoop, if_neg hoffset] at h
    obtain rfl := Except.ok.inj h
    rfl

/-- The loop of `upload_records` numbers its records upwards without a bound. -/
theorem uploadDataLoop_sequences {next : ℤ}
    (h : uploadDataLoop transferId image offset sequence = .ok (records, next)) :
    records.map Message.sequence = List.iterate (· + 1) sequence records.length ∧
      next = (· + 1)^[records.length] sequence ∧
      records.length = (image.length - offset + 43) / 44 := by
  have h44 : dataBytes = 44 := rfl
  induction offset, sequence using uploadDataLoop.induct image generalizing records with
  | case1 offset sequence hoffset ih =>
    rw [uploadDataLoop, if_pos hoffset] at h
    obtain ⟨fields, -, h⟩ := bind_eq_ok.mp h
    obtain ⟨⟨rest, last⟩, hrest, h⟩ := bind_eq_ok.mp h
    obtain ⟨rfl, rfl⟩ := Prod.mk.inj (Except.ok.inj h)
    obtain ⟨hsequences, hlast, hcount⟩ := ih hrest
    refine ⟨congrArg _ hsequences, hlast, ?_⟩
    rw [List.length_cons]
    omega
  | case2 offset sequence hoffset =>
    rw [uploadDataLoop, if_neg hoffset] at h
    obtain ⟨rfl, rfl⟩ := Prod.mk.inj (Except.ok.inj h)
    refine ⟨rfl, rfl, ?_⟩
    rw [List.length_nil]
    omega

/-- The loop of `write_records` numbers its records modulo `2^32`. -/
theorem writeDataLoop_sequences {last : ℤ}
    (h : writeDataLoop transferId data offset sequence = .ok (records, last)) :
    records.map Message.sequence
        = List.iterate wrappedSequence (wrappedSequence sequence) records.length ∧
      last = wrappedSequence^[records.length] sequence ∧
      records.length = (data.length - offset + 39) / 40 := by
  have h40 : filesystemWriteDataBytes = 40 := rfl
  induction offset, sequence using writeDataLoop.induct data generalizing records with
  | case1 offset sequence hoffset chunk next =>
    rename_i ih
    rw [writeDataLoop, if_pos hoffset] at h
    obtain ⟨fields, -, h⟩ := bind_eq_ok.mp h
    obtain ⟨⟨rest, last⟩, hrest, h⟩ := bind_eq_ok.mp h
    obtain ⟨rfl, rfl⟩ := Prod.mk.inj (Except.ok.inj h)
    obtain ⟨hsequences, hlast, hcount⟩ := ih hrest
    rw [List.length_take, List.length_drop] at hcount
    refine ⟨congrArg _ hsequences, hlast, ?_⟩
    rw [List.length_cons]
    omega
  | case2 offset sequence hoffset =>
    rw [writeDataLoop, if_neg hoffset] at h
    obtain ⟨rfl, rfl⟩ := Prod.mk.inj (Except.ok.inj h)
    refine ⟨rfl, rfl, ?_⟩
    rw [List.length_nil]
    omega

/-- What `memory_write_records` accepts. -/
theorem memoryWriteRecords_accepted (h : memoryWriteRecords address data sequence = .ok records) :
    memoryWriteLoop address data 0 sequence = .ok records ∧ data ≠ [] ∧
      0 ≤ address ∧ address.toNat + data.length ≤ 0x40000 := by
  have hlimit : memoryEnd = 0x40000 := rfl
  have hbase : internalSramProcessorBase = 0 := rfl
  rw [memoryWriteRecords] at h
  obtain ⟨value, hcheck, h⟩ := bind_eq_ok.mp h
  obtain ⟨hdata, h⟩ := check_eq_ok.mp h
  rw [not_or] at hdata
  rw [checkAddress] at hcheck
  split_ifs at hcheck with hrange
  exact ⟨h, hdata.1, by omega, by omega⟩

/-- The records of a memory write are numbered with the successor, and can be encoded. -/
theorem memoryWriteRecords_consecutive (hfirst : 1 ≤ first ∧ first < 2 ^ 32)
    (h : memoryWriteRecords address data first = .ok records) :
    records.map Message.sequence = List.iterate advanceAfter first records.length ∧
      ∀ record ∈ records, record.Encodable := by
  obtain ⟨hloop, hne, haddress, hend⟩ := memoryWriteRecords_accepted h
  obtain ⟨messages, ws, hmessages, -, hwrites, -⟩ :=
    memoryWriteRecords_spec hne hend ⟨by omega, hfirst.2⟩
  rw [Int.toNat_of_nonneg haddress, h] at hmessages
  obtain rfl := Except.ok.inj hmessages
  exact ⟨memoryWriteLoop_sequences hloop,
    encodable_of_forall₂ hwrites fun hwrite => Message.Sends.encodable hwrite⟩

/-- The sequence behind the last record is the one that `RequestSequence` is left with. -/
theorem followingSequence_eq {records : List Message} {first sequence : ℤ}
    (h : followingSequence records = .ok sequence) : sequence = sequenceAfter first records := by
  rw [followingSequence] at h
  rcases List.eq_nil_or_concat records with rfl | ⟨init, last, rfl⟩
  · cases h
  · rw [List.concat_eq_append, List.getLast?_append, List.getLast?_singleton] at h
    rw [List.concat_eq_append, sequenceAfter, List.foldl_append]
    exact (Except.ok.inj h).symm

theorem consecutive_append {records' : List Message}
    (h : records.map Message.sequence = List.iterate advanceAfter first records.length)
    (h' : records'.map Message.sequence
      = List.iterate advanceAfter (sequenceAfter first records) records'.length) :
    (records ++ records').map Message.sequence
      = List.iterate advanceAfter first (records ++ records').length := by
  rw [List.map_append, h, h', List.length_append, List.iterate_add, sequenceAfter_eq h]

theorem sequenceAfter_range (hfirst : 1 ≤ first ∧ first < 2 ^ 32) (records : List Message) :
    1 ≤ sequenceAfter first records ∧ sequenceAfter first records < 2 ^ 32 := by
  induction records generalizing first with
  | nil => exact hfirst
  | cons record records ih =>
    rw [sequenceAfter, List.foldl_cons]
    exact ih (nextSequence_range record.sequence)

/-- The three writes of a mailbox request continue each other's numbering. -/
theorem mailboxCommitRecords_consecutive {generation : ℤ} (hfirst : 1 ≤ first ∧ first < 2 ^ 32)
    (h : mailboxCommitRecords data generation first = .ok records) :
    records.map Message.sequence = List.iterate advanceAfter first records.length ∧
      ∀ record ∈ records, record.Encodable := by
  rw [mailboxCommitRecords] at h
  obtain ⟨-, h⟩ := check_eq_ok.mp h
  obtain ⟨fields, -, h⟩ := bind_eq_ok.mp h
  obtain ⟨dataRecords, hdata, h⟩ := bind_eq_ok.mp h
  obtain ⟨sequence₁, hsequence₁, h⟩ := bind_eq_ok.mp h
  obtain ⟨headerRecords, hheader, h⟩ := bind_eq_ok.mp h
  obtain ⟨sequence₂, hsequence₂, h⟩ := bind_eq_ok.mp h
  obtain ⟨owner, -, h⟩ := bind_eq_ok.mp h
  obtain ⟨ownerRecords, howner, h⟩ := bind_eq_ok.mp h
  obtain rfl := Except.ok.inj h
  obtain rfl := @followingSequence_eq _ first _ hsequence₁
  obtain rfl := @followingSequence_eq _ first _ hsequence₂
  obtain ⟨hdata, hdataEncodable⟩ := memoryWriteRecords_consecutive hfirst hdata
  obtain ⟨hheader, hheaderEncodable⟩ :=
    memoryWriteRecords_consecutive (sequenceAfter_range hfirst _) hheader
  obtain ⟨howner, hownerEncodable⟩ :=
    memoryWriteRecords_consecutive (sequenceAfter_range hfirst _) howner
  refine ⟨consecutive_append (consecutive_append hdata hheader) howner, ?_⟩
  intro record hrecord
  rcases List.mem_append.mp hrecord with hrecord | hrecord
  · rcases List.mem_append.mp hrecord with hrecord | hrecord
    · exact hdataEncodable record hrecord
    · exact hheaderEncodable record hrecord
  · exact hownerEncodable record hrecord

/-- A record before some others and one behind them, numbered with the same successor. -/
theorem iterate_enclosed (f : ℤ → ℤ) (first : ℤ) (n : ℕ) :
    first :: (List.iterate f (f first) n ++ [f^[n] (f first)]) = List.iterate f first (n + 2) := by
  show _ = first :: List.iterate f (f first) (n + 1)
  rw [List.iterate_add]
  rfl

theorem uploadRecords_sequences {manifest : WorkloadManifest}
    (h : uploadRecords manifest image transferId first = .ok records) :
    records.length = (image.length + 43) / 44 + 2 ∧
      records.map Message.sequence = List.iterate (· + 1) first records.length := by
  rw [uploadRecords] at h
  obtain ⟨file, -, h⟩ := bind_eq_ok.mp h
  obtain ⟨-, h⟩ := check_eq_ok.mp h
  obtain ⟨transfer, -, h⟩ := bind_eq_ok.mp h
  obtain ⟨encoded, -, h⟩ := bind_eq_ok.mp h
  obtain ⟨⟨data, next⟩, hloop, h⟩ := bind_eq_ok.mp h
  obtain ⟨fields, -, h⟩ := bind_eq_ok.mp h
  obtain rfl := Except.ok.inj h
  obtain ⟨hsequences, hnext, hcount⟩ := uploadDataLoop_sequences hloop
  rw [Nat.sub_zero] at hcount
  rw [List.length_cons, List.length_append, List.length_singleton]
  refine ⟨by omega, ?_⟩
  rw [← iterate_enclosed, ← hsequences]
  simp only [List.map_cons, List.map_append, List.map_nil]
  rw [hnext]

theorem writeRecords_sequences (h : writeRecords path data transferId first = .ok records) :
    records.length = (data.length + 39) / 40 + 2 ∧
      records.map Message.sequence = List.iterate wrappedSequence first records.length := by
  rw [writeRecords] at h
  obtain ⟨encoded, -, h⟩ := bind_eq_ok.mp h
  obtain ⟨fields, -, h⟩ := bind_eq_ok.mp h
  obtain ⟨⟨chunks, last⟩, hloop, h⟩ := bind_eq_ok.mp h
  obtain ⟨fields', -, h⟩ := bind_eq_ok.mp h
  obtain rfl := Except.ok.inj h
  obtain ⟨hsequences, hlast, hcount⟩ := writeDataLoop_sequences hloop
  rw [Nat.sub_zero] at hcount
  rw [List.length_cons, List.length_append, List.length_singleton]
  refine ⟨by omega, ?_⟩
  rw [← iterate_enclosed, ← hsequences, ← Function.iterate_succ_apply,
    Function.iterate_succ_apply', ← hlast]
  simp only [List.map_cons, List.map_append, List.map_nil]
  rfl

theorem writeRecords_encodable (hfirst : 1 ≤ first ∧ first < 2 ^ 32)
    (h : writeRecords path data transferId first = .ok records) :
    ∀ record ∈ records, record.Encodable := by
  have hrecords := h
  rw [writeRecords] at h
  obtain ⟨encoded, hencoded, h⟩ := bind_eq_ok.mp h
  obtain ⟨fields, hpack, -⟩ := bind_eq_ok.mp h
  obtain ⟨hfits, -⟩ := structPack_eq_ok_iff.mp hpack
  simp only [forall_fits_cons, forall_fits_nil, and_true] at hfits
  obtain ⟨messages, chunks, hmessages, -, hsends⟩ := @writeRecords_spec path data encoded transferId
    first hencoded (by omega) (by omega) ⟨by omega, hfirst.2⟩
  rw [hrecords] at hmessages
  obtain rfl := Except.ok.inj hmessages
  exact encodable_of_forall₂ hsends fun hsend => Message.Sends.encodable hsend

/-! ### When the records are numbered well -/

/-- A numbering that follows the successor over all the records. -/
theorem iterate_eq_advanceAfter {f : ℤ → ℤ} {n : ℕ}
    (h : ∀ i < n, f^[i] first = advanceAfter^[i] first) :
    List.iterate f first n = List.iterate advanceAfter first n := by
  apply List.ext_getElem
  · rw [List.length_iterate, List.length_iterate]
  · intro i hi _
    rw [List.length_iterate] at hi
    rw [List.getElem_iterate, List.getElem_iterate]
    exact h i hi

theorem iterate_succ_eq (first : ℤ) (i : ℕ) : (· + 1)^[i] first = first + i := by
  rw [add_right_iterate]
  simp

theorem iterate_wrappedSequence_eq (hfirst : 0 ≤ first ∧ first < 2 ^ 32) (i : ℕ) :
    wrappedSequence^[i] first = (first + i) % 2 ^ 32 := by
  induction i with
  | zero =>
    show first = _
    omega
  | succ i ih =>
    rw [Function.iterate_succ_apply', ih, wrappedSequence]
    push_cast
    omega

/-- An upload is numbered well exactly when it does not reach `2^32`. -/
theorem uploadRecords_numbered_iff {manifest : WorkloadManifest}
    (hfirst : 1 ≤ first ∧ first < 2 ^ 32)
    (h : uploadRecords manifest image transferId first = .ok records) :
    Numbered first records ↔ first + ((image.length + 43) / 44 + 1 : ℕ) < 2 ^ 32 := by
  obtain ⟨hlength, hsequences⟩ := uploadRecords_sequences h
  constructor
  · intro hnumbered
    -- the sequence of the COMMIT would not fit
    have hlast : first + ((image.length + 43) / 44 + 1 : ℕ) ∈ records.map Message.sequence := by
      rw [hsequences, List.mem_iterate]
      exact ⟨(image.length + 43) / 44 + 1, by omega, (iterate_succ_eq first _).symm⟩
    obtain ⟨record, hrecord, heq⟩ := List.mem_map.mp hlast
    obtain ⟨bytes, hencode⟩ := hnumbered.encodes record hrecord
    rw [← heq]
    exact Message.sequence_lt_of_encode hencode
  · intro hlast
    obtain ⟨-, -, -, -, chunks, -, hrepresents⟩ := uploadRecords_spec h
    refine Numbered.of_consecutive hfirst ?_
      (encodable_of_forall₂ hrepresents Message.Represents.encodable)
    rw [hsequences]
    apply iterate_eq_advanceAfter
    intro i hi
    rw [iterate_succ_eq, iterate_advanceAfter_of_lt hfirst.1 (by omega)]

/-- The records that write a file are numbered well exactly when they do not reach `2^32`. -/
theorem writeRecords_numbered_iff (hfirst : 1 ≤ first ∧ first < 2 ^ 32)
    (h : writeRecords path data transferId first = .ok records) :
    Numbered first records ↔ first + ((data.length + 39) / 40 + 1 : ℕ) < 2 ^ 32 := by
  obtain ⟨hlength, hsequences⟩ := writeRecords_sequences h
  constructor
  · intro hnumbered
    by_contra hwrap
    -- the record behind the one with `2^32 - 1` carries 0
    have hzero : 0 ∈ records.map Message.sequence := by
      rw [hsequences, List.mem_iterate]
      refine ⟨(2 ^ 32 - first).toNat, by omega, ?_⟩
      rw [iterate_wrappedSequence_eq ⟨by omega, hfirst.2⟩]
      omega
    obtain ⟨record, hrecord, heq⟩ := List.mem_map.mp hzero
    exact hnumbered.ne_zero record hrecord heq
  · intro hlast
    refine Numbered.of_consecutive hfirst ?_ (writeRecords_encodable hfirst h)
    rw [hsequences]
    apply iterate_eq_advanceAfter
    intro i hi
    rw [iterate_wrappedSequence_eq ⟨by omega, hfirst.2⟩,
      iterate_advanceAfter_of_lt hfirst.1 (by omega)]
    omega

/-- **How the builders number their records.**  Memory writes and mailbox requests count as
`RequestSequence` does; uploads and file writes do exactly when they end below `2^32`. -/
theorem builders_numbered (first : ℤ) (hfirst : 1 ≤ first ∧ first < 2 ^ 32) :
    (∀ address data records, memoryWriteRecords address data first = .ok records →
      Numbered first records) ∧
    (∀ data generation records, mailboxCommitRecords data generation first = .ok records →
      Numbered first records) ∧
    (∀ manifest image transferId records,
      uploadRecords manifest image transferId first = .ok records →
      (Numbered first records ↔ first + ((image.length + 43) / 44 + 1 : ℕ) < 2 ^ 32)) ∧
    (∀ path data transferId records, writeRecords path data transferId first = .ok records →
      (Numbered first records ↔ first + ((data.length + 39) / 40 + 1 : ℕ) < 2 ^ 32)) := by
  refine ⟨?_, ?_, ?_, ?_⟩
  · intro address data records h
    obtain ⟨hsequences, hencodable⟩ := memoryWriteRecords_consecutive hfirst h
    exact Numbered.of_consecutive hfirst hsequences hencodable
  · intro data generation records h
    obtain ⟨hsequences, hencodable⟩ := mailboxCommitRecords_consecutive hfirst h
    exact Numbered.of_consecutive hfirst hsequences hencodable
  · intro manifest image transferId records h
    exact uploadRecords_numbered_iff hfirst h
  · intro path data transferId records h
    exact writeRecords_numbered_iff hfirst h

theorem builders_numbered_wrap :
    (∃ records, memoryWriteRecords 0x100 (List.replicate 41 7) 0xFFFFFFFF = .ok records ∧
      Numbered 0xFFFFFFFF records) ∧
    ∃ records, writeRecords "flash:/A".toList [] 7 0xFFFFFFFE = .ok records ∧
      Numbered 0xFFFFFFFE records := by
  constructor
  · obtain ⟨records, -, hrecords, -⟩ := @memoryWriteRecords_spec 0x100 (List.replicate 41 7)
      (by decide) (by decide) 0xFFFFFFFF (by decide)
    obtain ⟨hmemory, -⟩ := builders_numbered 0xFFFFFFFF (by decide)
    exact ⟨records, hrecords, hmemory 0x100 _ records hrecords⟩
  · obtain ⟨records, -, hrecords, -⟩ := @writeRecords_spec "flash:/A".toList []
      (utf8Encode "flash:/A".toList) 7 0xFFFFFFFE (by decide +kernel) (by decide) (by decide)
      (by decide)
    obtain ⟨-, -, -, hwrite⟩ := builders_numbered 0xFFFFFFFE (by decide)
    exact ⟨records, hrecords, (hwrite _ _ _ _ hrecords).mpr (by decide)⟩

/-- An upload from `2^32 - 1` on has records that cannot be encoded, and a file write from there
has a record with sequence 0. -/
theorem builders_misnumbered :
    (∃ records,
      uploadRecords
          { imageSize := 1, imageCrc32 := 0x68D2D988, loadAddress := 0x10000
            entrySegment := 0x1000, entryOffset := 0, flags := flagClockStepped }
          [0xF4] 7 0xFFFFFFFF = .ok records ∧
        records.map Message.sequence = [0xFFFFFFFF, 0x100000000, 0x100000001] ∧
        ¬ Numbered 0xFFFFFFFF records) ∧
    ∃ records, writeRecords "flash:/A".toList [] 7 0xFFFFFFFF = .ok records ∧
      records.map Message.sequence = [0xFFFFFFFF, 0] ∧ ¬ Numbered 0xFFFFFFFF records := by
  constructor
  · obtain ⟨records, hrecords, hsequences⟩ := bind_eq_ok.mp (show
      (uploadRecords
          { imageSize := 1, imageCrc32 := 0x68D2D988, loadAddress := 0x10000
            entrySegment := 0x1000, entryOffset := 0, flags := flagClockStepped }
          [0xF4] 7 0xFFFFFFFF >>= fun records => .ok (records.map Message.sequence))
        = .ok [0xFFFFFFFF, 0x100000000, 0x100000001] by decide +kernel)
    replace hsequences := Except.ok.inj hsequences
    refine ⟨records, hrecords, hsequences, ?_⟩
    intro hnumbered
    have hlength : records.length = 3 := by
      rw [← List.length_map, hsequences]
      rfl
    have hconsecutive := hnumbered.consecutive
    rw [hsequences, hlength] at hconsecutive
    exact absurd hconsecutive (by decide)
  · obtain ⟨records, hrecords, hsequences⟩ := bind_eq_ok.mp (show
      (writeRecords "flash:/A".toList [] 7 0xFFFFFFFF >>=
          fun records => .ok (records.map Message.sequence))
        = .ok [0xFFFFFFFF, 0] by decide +kernel)
    replace hsequences := Except.ok.inj hsequences
    refine ⟨records, hrecords, hsequences, ?_⟩
    intro hnumbered
    obtain ⟨record, hrecord, hzero⟩ := List.mem_map.mp
      (show 0 ∈ records.map Message.sequence by rw [hsequences]; decide)
    exact hnumbered.ne_zero record hrecord hzero

end Rp86.Host
