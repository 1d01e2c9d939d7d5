import Rp86.Lib.ByteMap
import Rp86.Lib.Run

/-!
# Writing a byte string in chunks

A sender that can move only `n` bytes at a time writes a long string in consecutive chunks, all of
them full but the last.  `Chunked n a data ws` says that the writes `ws` are these chunks of `data`,
the first at address `a`.
-/

namespace Rp86.Lib

abbrev ByteWrite := ℕ × List UInt8

def applyWrites (m : ByteMap) (ws : List ByteWrite) : ByteMap :=
  run (fun m w => writeBytes m w.1 w.2) m ws

theorem applyWrites_append (m : ByteMap) (ws ws' : List ByteWrite) :
    applyWrites m (ws ++ ws') = applyWrites (applyWrites m ws) ws' := run_append _ _ _ _

/-- The writes move `data` to address `a` in order, `n` bytes at a time. -/
inductive Chunked (n : ℕ) : ℕ → List UInt8 → List ByteWrite → Prop
  | nil (a : ℕ) : Chunked n a [] []
  | cons {a : ℕ} {chunk rest : List UInt8} {ws : List ByteWrite} (hne : chunk ≠ [])
      (hle : chunk.length ≤ n) (hfull : rest ≠ [] → chunk.length = n)
      (h : Chunked n (a + chunk.length) rest ws) :
      Chunked n a (chunk ++ rest) ((a, chunk) :: ws)

variable {n a : ℕ} {data : List UInt8} {ws : List ByteWrite}

/-- A string that is not empty starts with a chunk. -/
theorem Chunked.cons_take (hn : 0 < n) (hne : data ≠ [])
    (h : Chunked n (a + (data.take n).length) (data.drop (data.take n).length) ws) :
    Chunked n a data ((a, data.take n) :: ws) := by
  have hpos := List.length_pos_iff.mpr hne
  have hlen : (data.take n).length = min n data.length := List.length_take
  have hsplit : data = data.take n ++ data.drop (data.take n).length := by
    have htake : data.take (data.take n).length = data.take n := by
      rw [hlen, ← List.take_eq_take_min]
    exact (List.take_append_drop (data.take n).length data).symm.trans (by rw [htake])
  have hfull : data.drop (data.take n).length ≠ [] → (data.take n).length = n := by
    intro hrest
    have := List.length_pos_iff.mpr hrest
    rw [List.length_drop] at this
    omega
  have hchunks := Chunked.cons (List.length_pos_iff.mp (by omega)) (by omega) hfull h
  rwa [← hsplit] at hchunks

theorem Chunked.eq_nil (h : Chunked n a data ws) (hdata : data = []) : ws = [] := by
  cases h with
  | nil a => rfl
  | cons hchunk _ _ h => exact absurd (List.append_eq_nil_iff.mp hdata).1 hchunk

/-- A sender that steps by `n`, past the end with its last chunk, writes the same chunks. -/
theorem Chunked.cons_take_full (hn : 0 < n) (hne : data ≠ [])
    (h : Chunked n (a + n) (data.drop n) ws) : Chunked n a data ((a, data.take n) :: ws) := by
  refine cons_take hn hne ?_
  rw [List.length_take]
  rcases Nat.le_total n data.length with hle | hle
  · rwa [Nat.min_eq_left hle]
  · rw [Nat.min_eq_right hle, List.drop_length, h.eq_nil (List.drop_of_length_le hle)]
    exact .nil _

theorem Chunked.applyWrites (h : Chunked n a data ws) (m : ByteMap) :
    applyWrites m ws = writeBytes m a data := by
  induction h generalizing m with
  | nil a => exact (writeBytes_nil m a).symm
  | cons hne hle hfull h ih =>
    rw [Lib.applyWrites, run_cons]
    exact (ih _).trans (writeBytes_writeBytes_append _ _ _ _)

theorem Chunked.take (h : Chunked n a data ws) (k : ℕ) :
    ∃ front, front <+: data ∧ Chunked n a front (ws.take k) := by
  induction h generalizing k with
  | nil a => exact ⟨[], List.prefix_refl _, by rw [List.take_nil]; exact .nil a⟩
  | @cons a chunk rest ws hne hle hfull h ih =>
    cases k with
    | zero => exact ⟨[], List.nil_prefix, .nil a⟩
    | succ k =>
      obtain ⟨front, hfront, hchunks⟩ := ih k
      refine ⟨chunk ++ front, (List.prefix_append_right_inj chunk).mpr hfront,
        .cons hne hle (fun hrest => hfull fun hnil => hrest ?_) hchunks⟩
      rw [hnil] at hfront
      exact List.prefix_nil.mp hfront

theorem Chunked.eq_singleton (h : Chunked n a data ws) (hne : data ≠ []) (hle : data.length ≤ n) :
    ws = [(a, data)] := by
  cases h with
  | nil a => exact absurd rfl hne
  | @cons _ chunk rest ws hchunk _ hfull h =>
    rw [List.length_append] at hle
    have hrest : rest = [] := by
      by_contra hc
      have hlen := hfull hc
      have hpos := List.length_pos_iff.mpr hc
      omega
    rw [h.eq_nil hrest, hrest, List.append_nil]

theorem Chunked.mem (h : Chunked n a data ws) {w : ByteWrite} (hw : w ∈ ws) :
    w.2 ≠ [] ∧ w.2.length ≤ n ∧ a ≤ w.1 ∧ w.1 + w.2.length ≤ a + data.length := by
  induction h with
  | nil a => cases hw
  | @cons a chunk rest ws hne hle hfull h ih =>
    rw [List.length_append]
    rcases List.mem_cons.mp hw with rfl | hw
    · exact ⟨hne, hle, Nat.le_refl _, by simp only; omega⟩
    · obtain ⟨h1, h2, h3, h4⟩ := ih hw
      exact ⟨h1, h2, by omega, by omega⟩

end Rp86.Lib
