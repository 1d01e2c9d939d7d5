import Rp86.Host.Equiv.FlashReplies
import Rp86.Storage.Equiv.FlashUpload
import Rp86.Storage.Equiv.ListRequests

/-!
# Listing a directory from the Host

`read_directory` with `handle_list`.  Each reply names the next cursor, so that the Host asks for
the visible entries one after the other until the scan finds the end.  `handle_list` passes over the
name of the temporary file in every directory, and not only in the root directory, where the file
is.
-/

namespace Rp86.Host

open Lib

variable {σ : Type} {exchange : RequestExchange σ} {decode : List UInt8 → List Char}
  {path : List Char}

theorem listRequest_eq_ok {cursor sequence : ℤ} {request : Message} :
    listRequest path cursor sequence = .ok request ↔
      ∃ encoded, encodePath path 48 = .ok encoded ∧ (0 ≤ cursor ∧ cursor < 2 ^ 16) ∧
        request = filesystemRequest filesystemList sequence
          ([UInt8.ofNat encoded.length] ++ leBytes 2 cursor.toNat ++ encoded) := by
  unfold listRequest
  simp only [bind_eq_ok, structPack_eq_ok_iff, forall_fits_cons, forall_fits_nil, and_true]
  constructor
  · rintro ⟨encoded, hencoded, fields, ⟨hcursor, rfl⟩, hrequest⟩
    exact ⟨encoded, hencoded, hcursor, (Except.ok.inj hrequest).symm⟩
  · rintro ⟨encoded, hencoded, hcursor, rfl⟩
    exact ⟨encoded, hencoded, _, ⟨hcursor, rfl⟩, rfl⟩

/-! ### Entries -/

/-- The entry of the Host for an entry of the directory, with the cursor behind it. -/
def directoryEntry (decode : List UInt8 → List Char) (info : FileInfo) (nextCursor : ℕ) :
    ListEntry where
  name := decode (info.fname.take 42)
  size := info.fsize.toNat
  directory := info.fattrib &&& amDir ≠ 0
  nextCursor := nextCursor
  eof := false

theorem parseList_entry {reply request : Message} {wanted : UInt16} {info : FileInfo}
    (hvalid : validateReply reply request = .ok (listPayload filesystemList wanted info))
    (hname : info.fname ≠ []) (hwanted : wanted.toNat + 1 < 2 ^ 16) :
    parseList decode reply request = .ok (directoryEntry decode info (wanted.toNat + 1)) := by
  have hlength : (info.fname.take filesystemListNameBytes).length ≤ 42 := by
    rw [List.length_take]
    exact Nat.min_le_left ..
  rw [listPayload_eq hname] at hvalid
  set name := info.fname.take filesystemListNameBytes with hnameEq
  set payload := [filesystemList, entryFlags info, info.fattrib, UInt8.ofNat name.length] ++
    (leBytes 2 (wanted + 1).toNat ++ (leBytes 4 info.fsize.toNat ++
      (name ++ List.replicate (42 - name.length) 0))) with hpayload
  -- the cursor, the size and the name of the entry, read off the payload
  have hnext : le16 payload 4 = wanted + 1 := by
    rw [hpayload]
    simp only [le16_append_of_le, le16_leBytes, List.length_cons, List.length_nil, Nat.reduceAdd,
      Nat.reduceSub, Nat.reduceLeDiff, UInt16.ofNat_toNat]
  have hnextNat : (wanted + 1).toNat = wanted.toNat + 1 := by
    have h1 : (1 : UInt16).toNat = 1 := rfl
    rw [UInt16.toNat_add, h1, Nat.mod_eq_of_lt hwanted]
  have hsize : le32 payload 6 = info.fsize := by
    rw [hpayload]
    simp only [le32_append_of_le, le32_leBytes, length_leBytes, List.length_cons, List.length_nil,
      Nat.reduceAdd, Nat.reduceSub, Nat.reduceLeDiff, UInt32.ofNat_toNat]
  have hdrop : payload.drop 10 = name ++ List.replicate (42 - name.length) 0 := by
    rw [hpayload]
    rfl
  have hlen : payload.length = 52 := by
    rw [hpayload]
    simp only [List.length_append, List.length_cons, List.length_nil, length_leBytes,
      List.length_replicate]
    omega
  have hcount : (payload.getD 3 0).toNat = name.length := Nat.mod_eq_of_lt (by omega)
  unfold parseList
  rw [bind_eq_ok]
  refine ⟨payload, hvalid, ?_⟩
  rw [check_eq_ok]
  refine ⟨by omega, ?_⟩
  rw [check_eq_ok, hcount]
  refine ⟨by omega, ?_⟩
  -- the flags, for either kind of entry and either kind of name
  have hflags : decide (payload.getD 1 0 &&& filesystemFlagDirectory ≠ 0)
        = decide (info.fattrib &&& amDir ≠ 0) ∧
      decide (payload.getD 1 0 &&& filesystemFlagEof ≠ 0) = false := by
    show decide (entryFlags info &&& filesystemFlagDirectory ≠ 0) = _ ∧
      decide (entryFlags info &&& filesystemFlagEof ≠ 0) = false
    unfold entryFlags
    by_cases hdirectory : info.fattrib &&& amDir ≠ 0
    · rw [if_pos hdirectory, decide_eq_true hdirectory]
      split <;> decide
    · rw [if_neg hdirectory, decide_eq_false hdirectory]
      split <;> decide
  rw [hflags.1, hflags.2, hdrop, List.take_left, hnext, hnextNat, unpack32, hsize, directoryEntry,
    hnameEq]
  rfl

theorem parseList_end {reply request : Message} {wanted : UInt16}
    (hvalid : validateReply reply request
      = .ok (listPayload filesystemList wanted endOfDirectory)) :
    ∃ entry, parseList decode reply request = .ok entry ∧ entry.eof = true := by
  have hpayload : listPayload filesystemList wanted endOfDirectory
      = [filesystemList, filesystemFlagEof] ++ List.replicate 50 0 := rfl
  rw [hpayload] at hvalid
  unfold parseList
  simp only [bind_eq_ok, check_eq_ok]
  exact ⟨_, ⟨_, hvalid, by decide, by decide, rfl⟩, rfl⟩

/-! ### The loop -/

section

variable {ν : Type} [DecidableEq ν] {env : FatEnv ν} {encoded target : List UInt8}
  {entries visible : List FileInfo}

def directoryListing (decode : List UInt8 → List Char) (entries : List FileInfo) :
    List ListEntry :=
  entries.mapIdx fun i info => directoryEntry decode info (i + 1)

/-- **A reply to a `LIST` that passes the check** carries the visible entry at its cursor. -/
theorem FlashAnswers.listPayload {cursor : ℕ} {sequence : ℤ} {reply : Message}
    {payload : List UInt8}
    (h : FlashAnswers env (fun s => env.entries s.fat.calls target = entries)
      (filesystemRequest filesystemList sequence
        ([UInt8.ofNat encoded.length] ++ leBytes 2 cursor ++ encoded)) reply)
    (hencoded : encoded.length ≤ 48)
    (htarget : validFlashPath encoded (UInt8.ofNat encoded.length) 49 = some target)
    (hcursor : cursor < 2 ^ 16) (hnames : ∀ info ∈ entries, info.fname ≠ [])
    (hvisible : visibleEntries entries = visible) (hcount : visible.length < 2 ^ 16)
    (hvalid : validateReply reply (filesystemRequest filesystemList sequence
      ([UInt8.ofNat encoded.length] ++ leBytes 2 cursor ++ encoded)) = .ok payload) :
    payload = Rp86.listPayload filesystemList (UInt16.ofNat cursor)
      ((visible[cursor]?).getD endOfDirectory) := by
  obtain ⟨s, answer, hs, hanswer, hok, hpayload⟩ := h.accepted hvalid
  have hdevice : Rp86.Message.request Rp86.typeFilesystemRequest (UInt32.ofNat sequence.toNat)
      (filesystemList :: ([UInt8.ofNat encoded.length] ++ leBytes 2 cursor ++ encoded))
        = listDirectoryRequest (UInt32.ofNat sequence.toNat) encoded cursor := by
    rw [listDirectoryRequest, List.append_assoc]
    rfl
  rw [hdevice] at hanswer hpayload
  subst hvisible
  have hlist := handleOperation_list hencoded htarget hcursor hs hnames hcount hanswer hok
  rw [hpayload, hlist, (listDirectoryRequest_fields hencoded).2.1]
  rfl

/-- **All entries behind the cursor, or an exchange that fails**, when there are enough rounds. -/
theorem readDirectoryLoop_complete (decode : List UInt8 → List Char) {Inv : σ → Prop}
    (hserves : FlashServes env (fun s => env.entries s.fat.calls target = entries) filesystemList
      exchange Inv)
    (hencoded : encodePath path 48 = .ok encoded)
    (htarget : validFlashPath encoded (UInt8.ofNat encoded.length) 49 = some target)
    (hnames : ∀ info ∈ entries, info.fname ≠ [])
    (hvisible : visibleEntries entries = visible) (hcount : visible.length < 2 ^ 16)
    {rounds cursor : ℕ} {c : ServiceClient σ} (hc : Inv c.device)
    (hcursor : cursor ≤ visible.length) (hrounds : visible.length < cursor + rounds) :
    ∃ exchanges c₁, Exchanges (serviceFilesystemRequest exchange) c exchanges c₁ ∧
      (readDirectoryLoop exchange decode path rounds cursor
          ((directoryListing decode visible).take cursor) c
            = some (.returned (directoryListing decode visible), c₁) ∨
        ∃ request error c₂, serviceFilesystemRequest exchange request c₁ = (.failed error, c₂) ∧
          readDirectoryLoop exchange decode path rounds cursor
            ((directoryListing decode visible).take cursor) c = some (.failed error, c₂)) := by
  -- on the rounds; each of them reads the entry at the cursor and moves it on
  induction rounds generalizing cursor c with
  | zero => omega
  | succ rounds ih =>
    obtain ⟨-, hlength⟩ := encodePath_eq_ok hencoded
    have hrequest : listRequest path cursor c.sequence = .ok (filesystemRequest filesystemList
        c.sequence ([UInt8.ofNat encoded.length] ++ leBytes 2 cursor ++ encoded)) :=
      listRequest_eq_ok.mpr ⟨encoded, hencoded, by omega, rfl⟩
    rcases serviceFilesystemRequest_cases exchange (filesystemRequest filesystemList c.sequence
      ([UInt8.ofNat encoded.length] ++ leBytes 2 cursor ++ encoded)) c with
      ⟨reply, c₁, hreply⟩ | ⟨error, c₁, hfailed⟩
    · obtain ⟨hc₁, hanswers, payload, hvalid⟩ := hserves.returned hc hreply
      have hpayload := hanswers.listPayload hlength htarget (by omega) hnames hvisible hcount hvalid
      rw [hpayload] at hvalid
      rw [readDirectoryLoop, hrequest]
      simp only [hreply]
      have hlisting : (directoryListing decode visible).length = visible.length :=
        List.length_mapIdx
      rcases Nat.lt_or_eq_of_le hcursor with hmore | hend
      · -- the entry at the cursor
        have hcursor' : (UInt16.ofNat cursor).toNat = cursor := Nat.mod_eq_of_lt (by omega)
        have hinfo := List.getElem?_eq_getElem hmore
        set info := visible[cursor]
        have hmem : info ∈ visibleEntries entries := hvisible ▸ List.getElem_mem hmore
        have hname := hnames info (List.mem_of_mem_filter hmem)
        rw [hinfo, Option.getD_some] at hvalid
        rw [parseList_entry hvalid hname (by omega), hcursor']
        have hnext : (directoryListing decode visible).take cursor
            ++ [directoryEntry decode info (cursor + 1)]
              = (directoryListing decode visible).take (cursor + 1) := by
          rw [List.take_add_one, directoryListing, List.getElem?_mapIdx, hinfo]
          rfl
        obtain ⟨exchanges, c₂, hexchanges, hresult⟩ := @ih (cursor + 1) c₁ hc₁ hmore (by omega)
        refine ⟨_, c₂, .cons hreply hexchanges, ?_⟩
        rw [← hnext] at hresult
        exact hresult
      -- no entry is left, and the reply says so
      · have hnone : visible[cursor]? = none :=
          List.getElem?_eq_none (by omega)
        rw [hnone, Option.getD_none] at hvalid
        obtain ⟨entry, hentry, heof⟩ := @parseList_end decode _ _ _ hvalid
        rw [hentry]
        refine ⟨_, c₁, .cons hreply (.nil _), Or.inl ?_⟩
        simp only [heof, if_true]
        rw [List.take_of_length_le (by omega)]
    · refine ⟨[], c, .nil c, Or.inr ⟨_, error, c₁, hfailed, ?_⟩⟩
      rw [readDirectoryLoop, hrequest]
      simp only [hfailed]

/-- The entries of a directory other than the temporary file of an upload, which is in the root
directory. -/
def directoryEntries (target : List UInt8) (entries : List FileInfo) : List FileInfo :=
  if firstSegment (target.drop 6) = [] then visibleEntries entries else entries

theorem length_visibleEntries_le :
    (visibleEntries entries).length ≤ (directoryEntries target entries).length := by
  unfold directoryEntries
  split_ifs
  · exact le_rfl
  · exact List.length_filter_le ..

/-- The visible entries are all of them in the root directory, and where no other entry has the name
of the temporary file. -/
theorem directoryListing_eq_iff :
    directoryListing decode (visibleEntries entries)
        = directoryListing decode (directoryEntries target entries) ↔
      firstSegment (target.drop 6) = [] ∨ ∀ info ∈ entries, info.fname ≠ uploadTempName := by
  unfold directoryEntries
  split_ifs with hroot
  · simp [hroot]
  · simp only [hroot, false_or]
    constructor
    · intro h
      have hlength := congrArg List.length h
      rw [directoryListing, directoryListing, List.length_mapIdx, List.length_mapIdx,
        visibleEntries, List.length_filter_eq_length_iff] at hlength
      simpa using hlength
    · intro h
      rw [visibleEntries, List.filter_eq_self.mpr (by simpa using h)]

/-- **A directory that does not change is listed completely** exactly if it is the root directory or
has no entry with the name of the temporary file.  Then the entries come back once each and in their
order, with size, directory flag and the first 42 bytes of their name, whenever no exchange
fails. -/
theorem read_directory_complete (env : FatEnv ν) (exchange : RequestExchange σ)
    (decode : List UInt8 → List Char) (path : List Char) (c : ServiceClient σ)
    {encoded target : List UInt8} {entries : List FileInfo} {Inv : σ → Prop}
    (hserves : FlashServes env (fun s => env.entries s.fat.calls target = entries) filesystemList
      exchange Inv)
    (hc : Inv c.device) (hencoded : encodePath path 48 = .ok encoded)
    (htarget : validFlashPath encoded (UInt8.ofNat encoded.length) 49 = some target)
    (hnames : ∀ info ∈ entries, info.fname ≠ [])
    (hcount : (directoryEntries target entries).length < 65536) {rounds : ℕ}
    (hrounds : (directoryEntries target entries).length < rounds) :
    ∃ exchanges c₁, Exchanges (serviceFilesystemRequest exchange) c exchanges c₁ ∧
      ((∃ listing, readDirectory exchange decode path rounds c = some (.returned listing, c₁) ∧
          (listing = directoryListing decode (directoryEntries target entries) ↔
            firstSegment (target.drop 6) = [] ∨ ∀ info ∈ entries, info.fname ≠ uploadTempName)) ∨
        ∃ request error c₂, serviceFilesystemRequest exchange request c₁ = (.failed error, c₂) ∧
          readDirectory exchange decode path rounds c = some (.failed error, c₂)) := by
  have hle := @length_visibleEntries_le target entries
  obtain ⟨exchanges, c₁, hexchanges, hresult⟩ := readDirectoryLoop_complete decode hserves
    hencoded htarget hnames rfl (hle.trans_lt hcount) hc (Nat.zero_le _)
    ((hle.trans_lt hrounds).trans_eq (Nat.zero_add _).symm)
  exact ⟨exchanges, c₁, hexchanges,
    hresult.imp_left fun hreturned => ⟨_, hreturned, directoryListing_eq_iff⟩⟩

end

/-- A directory with a file, a file of the temporary file's name and a directory. -/
def threeEntries : List FileInfo :=
  [⟨ascii "A", 0, 41⟩, ⟨uploadTempName, 0, 7⟩, ⟨ascii "SUB", amDir, 0⟩]

/-- A volume on which every directory has these entries. -/
def threeEntriesEnv : FatEnv (List UInt8) := { plainFatEnv with entries := fun _ _ => threeEntries }

def asciiName (bytes : List UInt8) : List Char := bytes.map fun byte => Char.ofNat byte.toNat

/-- The entries of the Host but for the middle one. -/
def twoListed : List ListEntry :=
  [⟨['A'], 41, false, 1, false⟩, ⟨['S', 'U', 'B'], 0, true, 2, false⟩]

/-- The listing of the root directory does not show the temporary file. -/
theorem read_directory_complete_three :
    ∃ c', readDirectory (flashExchange threeEntriesEnv) asciiName
        ['f', 'l', 'a', 's', 'h', ':', '/'] 3 ⟨emptyFlash, 1⟩ = some (.returned twoListed, c') := by
  obtain ⟨-, c₁, -, ⟨listing, hlisting, hiff⟩ | ⟨-, error, c₂, -, hfailed⟩⟩ :=
    @read_directory_complete _ _ _ threeEntriesEnv (flashExchange threeEntriesEnv) asciiName
      ['f', 'l', 'a', 's', 'h', ':', '/'] ⟨emptyFlash, 1⟩ (ascii "flash:/") (ascii "flash:/")
      threeEntries _ (flashExchange_serves fun _ _ _ _ => rfl) rfl (by decide +kernel)
      (by decide +kernel) (by decide) (by decide) 3 (by decide)
  · rw [hiff.mpr (Or.inl (by decide))] at hlisting
    exact ⟨c₁, hlisting⟩
  · have hreturned : ((readDirectory (flashExchange threeEntriesEnv) asciiName
        ['f', 'l', 'a', 's', 'h', ':', '/'] 3 ⟨emptyFlash, 1⟩).map Prod.fst)
          = some (.returned twoListed) := by decide +kernel
    rw [hfailed] at hreturned
    cases hreturned

/-- In another directory a file of that name is not listed either. -/
theorem read_directory_hides_name :
    directoryEntries (ascii "flash:/SUB") threeEntries = threeEntries ∧
      (readDirectory (flashExchange threeEntriesEnv) asciiName
          ['f', 'l', 'a', 's', 'h', ':', '/', 'S', 'U', 'B'] 4 ⟨emptyFlash, 1⟩).map Prod.fst
        = some (.returned twoListed) := by
  decide +kernel

end Rp86.Host
