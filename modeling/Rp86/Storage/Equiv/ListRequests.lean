import Rp86.Storage.Equiv.ReadRequests

/-!
# Listing a directory

Each `LIST` scans the directory again.  `handleListLoop_ok`: the scan with a cursor finds the entry
of that number among the visible ones, or the end.
-/

namespace Rp86

open Lib

variable {ν : Type} {env : FatEnv ν}

/-! ### The scan -/

/-- The entries of a directory that `handle_list` does not pass over: those with another name than
the temporary file of an upload. -/
def visibleEntries (entries : List FileInfo) : List FileInfo :=
  entries.filter fun info => info.fname ≠ uploadTempName

/-- What `f_readdir` returns behind the last entry. -/
def endOfDirectory : FileInfo := ⟨[], 0, 0⟩

/-- **The scan finds the entry with the wanted number.** -/
theorem handleListLoop_ok {wanted visible : UInt16} {entries : List FileInfo} {fat : Fat ν}
    (hnames : ∀ info ∈ entries, info.fname ≠ [])
    (hok : (handleListLoop env wanted entries visible fat).1 = .ok)
    (hwanted : visible ≤ wanted)
    (hcount : visible.toNat + (visibleEntries entries).length < 2 ^ 16) :
    (handleListLoop env wanted entries visible fat).2.1
      = ((visibleEntries entries)[wanted.toNat - visible.toNat]?).getD endOfDirectory := by
  -- along the entries of the directory; `visible` counts those that are listed
  induction entries generalizing visible fat with
  | nil => rfl
  | cons info rest ih =>
    have hrest : ∀ info ∈ rest, info.fname ≠ [] := fun info hinfo =>
      hnames info (List.mem_cons_of_mem _ hinfo)
    rw [handleListLoop] at hok ⊢
    simp only at hok ⊢
    split_ifs at hok ⊢ with hfailed htemp hfound
    · rcases hfailed with hfailed | hempty
      · exact absurd hok hfailed
      · exact absurd hempty (hnames info List.mem_cons_self)
    · have hvisible : visibleEntries (info :: rest) = visibleEntries rest := by
        simp [visibleEntries, htemp]
      rw [hvisible] at hcount ⊢
      exact ih hrest hok hwanted hcount
    · have hvisible : visibleEntries (info :: rest) = info :: visibleEntries rest := by
        simp [visibleEntries, htemp]
      rw [hvisible, hfound, Nat.sub_self]
      rfl
    · have hvisible : visibleEntries (info :: rest) = info :: visibleEntries rest := by
        simp [visibleEntries, htemp]
      rw [hvisible, List.length_cons] at hcount
      have h1 : (1 : UInt16).toNat = 1 := rfl
      have hnext : (visible + 1).toNat = visible.toNat + 1 := by
        rw [UInt16.toNat_add, h1, Nat.mod_eq_of_lt (by omega)]
      rw [UInt16.le_iff_toNat_le] at hwanted
      have hlt : visible.toNat < wanted.toNat := by
        refine Nat.lt_of_le_of_ne hwanted fun heq => hfound ?_
        exact UInt16.toNat_inj.mp heq
      rw [ih hrest hok (by rw [UInt16.le_iff_toNat_le, hnext]; exact hlt) (by omega), hvisible,
        hnext]
      obtain ⟨k, hk⟩ : ∃ k, wanted.toNat - visible.toNat = k + 1 :=
        ⟨wanted.toNat - visible.toNat - 1, by omega⟩
      rw [hk, List.getElem?_cons_succ, ← Nat.sub_sub, hk, Nat.add_sub_cancel]

/-! ### The reply -/

def entryFlags (info : FileInfo) : UInt8 :=
  (if info.fname.length > filesystemListNameBytes then filesystemFlagTruncated else 0) |||
    (if info.fattrib &&& amDir ≠ 0 then filesystemFlagDirectory else 0)

/-- The payload of the reply to a `LIST`. -/
def listPayload (operation : UInt8) (wanted : UInt16) (info : FileInfo) : List UInt8 :=
  (padPayload (operation :: (listReply wanted info).data)).take (listReply wanted info).length.toNat

theorem listPayload_eq {operation : UInt8} {wanted : UInt16} {info : FileInfo}
    (hname : info.fname ≠ []) :
    listPayload operation wanted info
      = [operation, entryFlags info, info.fattrib,
          UInt8.ofNat (info.fname.take filesystemListNameBytes).length] ++
        (leBytes 2 (wanted + 1).toNat ++ (leBytes 4 info.fsize.toNat ++
          (info.fname.take filesystemListNameBytes ++
            List.replicate (42 - (info.fname.take filesystemListNameBytes).length) 0))) := by
  have h52 : payloadSize = 52 := rfl
  have hlength : (info.fname.take filesystemListNameBytes).length ≤ 42 := by
    rw [List.length_take]
    exact Nat.min_le_left ..
  have hreply : (listReply wanted info).length.toNat = payloadSize := by
    rw [listReply, if_neg hname]
    rfl
  rw [listPayload, hreply, List.take_of_length_le (length_padPayload _).le, listReply, if_neg hname,
    padPayload, List.take_of_length_le]
  · simp only [List.append_assoc, List.cons_append, List.length_cons, List.length_append,
      length_leBytes, List.nil_append, h52]
    rw [show 52 - ((2 + (4 + (info.fname.take filesystemListNameBytes).length) + 1 + 1 + 1) + 1)
      = 42 - (info.fname.take filesystemListNameBytes).length by omega]
    rfl
  · simp only [List.length_cons, List.length_append, length_leBytes, List.length_nil]
    omega

/-! ### The request -/

def listDirectoryRequest (sequence : UInt32) (path : List UInt8) (cursor : ℕ) : Message :=
  Message.request typeFilesystemRequest sequence
    ([filesystemList, UInt8.ofNat path.length] ++ (leBytes 2 cursor ++ path))

theorem listDirectoryRequest_fields {sequence : UInt32} {path : List UInt8} {cursor : ℕ}
    (hpath : path.length ≤ 48) :
    let request := listDirectoryRequest sequence path cursor
    request.length.toNat = 4 + path.length ∧ request.byte 0 = filesystemList ∧
      request.byte 1 = UInt8.ofNat path.length ∧ request.half 2 = UInt16.ofNat cursor ∧
      (request.payload.drop 4).take path.length = path := by
  intro request
  have h52 : payloadSize = 52 := rfl
  have hlen : ([filesystemList, UInt8.ofNat path.length] ++ (leBytes 2 cursor ++ path)).length
      = 4 + path.length := by
    simp only [List.length_append, length_leBytes, List.length_cons, List.length_nil]
    omega
  have hfits := hlen.trans_le (show 4 + path.length ≤ payloadSize by omega)
  refine ⟨(Message.request_length hfits).trans hlen, Message.request_getD hfits (by omega),
    Message.request_getD hfits (by omega), (Message.request_le16 hfits (by omega)).trans ?_,
    (Message.request_slice hfits (by omega)).trans ?_⟩
  · simp [le16_cons, le16_leBytes]
  · simp

/-- **A `LIST` that is answered `OK` is answered with the visible entry at its cursor.** -/
theorem handleOperation_list [DecidableEq ν] {sequence : UInt32} {encoded path : List UInt8}
    {cursor : ℕ} {entries : List FileInfo} {s : Flash ν} {answer : FilesystemReply}
    (hencoded : encoded.length ≤ 48)
    (hpath : validFlashPath encoded (UInt8.ofNat encoded.length) 49 = some path)
    (hcursor : cursor < 2 ^ 16) (hentries : env.entries s.fat.calls path = entries)
    (hnames : ∀ info ∈ entries, info.fname ≠ []) (hcount : (visibleEntries entries).length < 2 ^ 16)
    (hanswer : (handleOperation env (listDirectoryRequest sequence encoded cursor) s).1
      = some answer)
    (hok : answer.status = .ok) :
    answer = listReply (UInt16.ofNat cursor)
      (((visibleEntries entries)[cursor]?).getD endOfDirectory) := by
  obtain ⟨hlen, hoperation, hbyte, hhalf, hdata⟩ :=
    @listDirectoryRequest_fields sequence encoded cursor hencoded
  have hcursor' : (UInt16.ofNat cursor).toNat = cursor := Nat.mod_eq_of_lt hcursor
  set request := listDirectoryRequest sequence encoded cursor
  obtain ⟨hshort, hlength, hvalid⟩ :=
    Message.path_checks (n := 4) (m := 4) rfl (by decide) hencoded hlen hbyte hdata hpath
  have hhandle : handleOperation env request s = handleList env request s := by
    rw [handleOperation, hoperation]
    rfl
  rw [hhandle, handleList, if_neg hshort, if_neg fun h => h hlength, hvalid] at hanswer
  simp only [hentries, hhalf] at hanswer
  split_ifs at hanswer with hopened hscan hclosed
  all_goals obtain rfl := Option.some.inj hanswer
  · exact absurd hok (statusFromFatfs_ne_ok hopened)
  · exact absurd hok (statusFromFatfs_ne_ok hclosed)
  · rw [handleListLoop_ok hnames hscan (UInt16.zero_le) (by simpa using hcount), hcursor']
    rfl
  · exact absurd hok (statusFromFatfs_ne_ok hscan)

end Rp86
