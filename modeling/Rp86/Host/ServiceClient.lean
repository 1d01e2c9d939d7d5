import Rp86.Host.Equiv.Protocol
import Rp86.Host.ServiceReplies

/-!
# The Host's service client

`RuntimeServiceClient` in `host/rp86/service_client.py`, over any exchange with a device.  A method
returns its result, or `None` with a text, or raises what is not a `ValueError`.  The loops of
`read_file` and `read_memory` end whatever the device replies: every round of them that goes on has
read something.  `read_directory` follows the cursor of the replies, and is given a number of
rounds.
-/

namespace Rp86.Host

open Lib

/-- `RequestExchange`: the reply, if there is one, the error text and what the device is left in. -/
abbrev RequestExchange (σ : Type) := σ → Message → (Option Message × Option String) × σ

/-- `RuntimeServiceClient`: the device behind its exchange, and `self._sequence.value`. -/
structure ServiceClient (σ : Type) where
  device : σ
  sequence : ℤ

inductive ServiceResult (α : Type) where
  | returned (value : α)
  | failed (error : String)
  | raised (exception : HostError)
  deriving DecidableEq, Repr

/-- `except ValueError as exc`, with the text that is made of it. -/
def ServiceResult.caught {α : Type} (text : String → String) : HostError → ServiceResult α
  | .valueError error => .failed (text error)
  | exception => .raised exception

/-- The text of a reply that cannot be read. -/
def invalidDeviceReply (error : String) : String := "invalid device reply: " ++ error

variable {σ : Type} (exchange : RequestExchange σ)

/-- `filesystem_request` and `memory_request`: one exchange, and the check of its reply. -/
def serviceRequest (validate : Message → Message → Except HostError (List UInt8)) (missing : String)
    (request : Message) (c : ServiceClient σ) : ServiceResult Message × ServiceClient σ :=
  let ((reply, error), device) := exchange c.device request
  let c := { device := device, sequence := nextSequence request.sequence }
  match reply with
  | none => (.failed (if error.getD "" = "" then missing else error.getD ""), c)
  | some reply =>
    match validate reply request with
    | .error exception => (.caught id exception, c)
    | .ok _ => (.returned reply, c)

def serviceFilesystemRequest (request : Message) (c : ServiceClient σ) :
    ServiceResult Message × ServiceClient σ :=
  serviceRequest exchange validateReply "filesystem exchange failed" request c

def serviceMemoryRequest (request : Message) (c : ServiceClient σ) :
    ServiceResult Message × ServiceClient σ :=
  serviceRequest exchange validateMemoryReply "memory exchange failed" request c

/-! ### Files -/

theorem readRequest_offset {path : List Char} {offset sequence : ℤ} {request : Message}
    (h : readRequest path offset sequence = .ok request) : 0 ≤ offset ∧ offset < 2 ^ 32 := by
  unfold readRequest at h
  simp only [bind_eq_ok, structPack_eq_ok_iff, List.forall_mem_cons, IntField.Fits] at h
  obtain ⟨-, -, -, ⟨⟨hoffset, -⟩, -⟩, -⟩ := h
  exact hoffset

def readFileLoop (path : List Char) (offset : ℕ) (totalSize : Option ℤ) (content : List UInt8)
    (c : ServiceClient σ) : ServiceResult (List UInt8) × ServiceClient σ :=
  match _hrequest : readRequest path offset c.sequence with
  | .error exception => (.caught id exception, c)
  | .ok request =>
    match serviceFilesystemRequest exchange request c with
    | (.failed error, c) => (.failed error, c)
    | (.raised exception, c) => (.raised exception, c)
    | (.returned reply, c) =>
      match parseRead reply request with
      | .error exception => (.caught invalidDeviceReply exception, c)
      | .ok chunk =>
        if chunk.offset ≠ offset then
          (.failed ("reply offset mismatch " ++ toString chunk.offset ++ " != "
            ++ toString offset), c)
        else if totalSize.getD chunk.totalSize ≠ chunk.totalSize then
          (.failed "file size changed while reading", c)
        else if chunk.eof then
          if chunk.totalSize ≠ (content ++ chunk.data).length then
            (.failed ("file length mismatch " ++ toString (content ++ chunk.data).length ++ " != "
              ++ toString chunk.totalSize), c)
          else (.returned (content ++ chunk.data), c)
        else if _hdata : chunk.data = [] then
          (.failed "device returned an empty non-final file chunk", c)
        else readFileLoop path (offset + chunk.data.length) (some chunk.totalSize)
          (content ++ chunk.data) c
termination_by 2 ^ 32 - offset
decreasing_by
  have hoffset := (readRequest_offset _hrequest).2
  have hlength := List.length_pos_iff.mpr _hdata
  omega

def readFile (path : List Char) (c : ServiceClient σ) :
    ServiceResult (List UInt8) × ServiceClient σ :=
  readFileLoop exchange path 0 none [] c

/-- The loop of `read_directory`, for at most so many rounds. -/
def readDirectoryLoop (decode : List UInt8 → List Char) (path : List Char) :
    ℕ → ℤ → List ListEntry → ServiceClient σ →
      Option (ServiceResult (List ListEntry) × ServiceClient σ)
  | 0, _, _, _ => none
  | rounds + 1, cursor, entries, c =>
    match listRequest path cursor c.sequence with
    | .error exception => some (.caught id exception, c)
    | .ok request =>
      match serviceFilesystemRequest exchange request c with
      | (.failed error, c) => some (.failed error, c)
      | (.raised exception, c) => some (.raised exception, c)
      | (.returned reply, c) =>
        match parseList decode reply request with
        | .error exception => some (.caught invalidDeviceReply exception, c)
        | .ok entry =>
          if entry.eof then some (.returned entries, c)
          else readDirectoryLoop decode path rounds entry.nextCursor (entries ++ [entry]) c

def readDirectory (decode : List UInt8 → List Char) (path : List Char) (rounds : ℕ)
    (c : ServiceClient σ) : Option (ServiceResult (List ListEntry) × ServiceClient σ) :=
  readDirectoryLoop exchange decode path rounds 0 [] c

/-! ### Memory -/

/-- A memory request has a header, with the length that it asks for. -/
theorem memoryReadRequest_length {address length sequence : ℤ} {request : Message}
    (h : memoryReadRequest address length sequence = .ok request) :
    1 ≤ length ∧ length ≤ memoryDataBytes ∧
      request.payload = [1, 0, 0, 0] ++ (leBytes 4 address.toNat ++ leBytes 4 length.toNat) := by
  unfold memoryReadRequest at h
  simp only [bind_eq_ok, check_eq_ok, structPack_eq_ok_iff] at h
  obtain ⟨-, -, hlength, header, ⟨-, rfl⟩, hrequest⟩ := h
  rw [not_or, not_not] at hlength
  obtain rfl := Except.ok.inj hrequest
  exact ⟨hlength.1.1, hlength.1.2, rfl⟩

/-- What is read from a reply has the length of the request. -/
theorem parseMemoryRead_length {address length sequence : ℤ} {request reply : Message}
    {data : List UInt8} (hrequest : memoryReadRequest address length sequence = .ok request)
    (hdata : parseMemoryRead reply request = .ok data) : (data.length : ℤ) = length := by
  obtain ⟨hpos, hle, hpayload⟩ := memoryReadRequest_length hrequest
  have h40 : memoryDataBytes = 40 := rfl
  unfold parseMemoryRead validateMemoryReply at hdata
  simp only [bind_eq_ok, check_eq_ok] at hdata
  obtain ⟨echoed, ⟨-, -, -, -, -, hecho, -⟩, hmatch, hreturn⟩ := hdata
  obtain rfl := Except.ok.inj hreturn
  -- the length field of the reply is that of the request
  have hfield : le32 reply.payload 8 = UInt32.ofNat length.toNat := by
    have hdrop := congrArg (List.drop 8) (not_not.mp hecho)
    rw [List.drop_take, List.drop_take, hpayload] at hdrop
    have hle32 : le32 reply.payload 8 = le32 ([1, 0, 0, 0] ++ (leBytes 4 address.toNat ++
        (leBytes 4 length.toNat ++ []))) 8 := by
      rw [List.append_nil]
      exact congrArg (fun bytes => UInt32.ofNat (ofLE bytes)) hdrop
    rw [hle32]
    simp only [le32_append_of_le, le32_leBytes, length_leBytes, List.length_cons, List.length_nil,
      Nat.reduceAdd, Nat.reduceSub, Nat.reduceLeDiff]
  rw [not_or, not_not, not_not, unpack32, hfield, UInt32.toNat_ofNat', Nat.mod_eq_of_lt (by omega)]
    at hmatch
  have hlen := hmatch.2
  omega

def readMemoryLoop (address length : ℤ) (content : List UInt8) (c : ServiceClient σ) :
    ServiceResult (List UInt8) × ServiceClient σ :=
  if _hlength : (content.length : ℤ) < length then
    match _hrequest : memoryReadRequest (address + content.length)
        (min 40 (length - content.length)) c.sequence with
    | .error exception => (.caught id exception, c)
    | .ok request =>
      match serviceMemoryRequest exchange request c with
      | (.failed error, c) => (.failed error, c)
      | (.raised exception, c) => (.raised exception, c)
      | (.returned reply, c) =>
        match _hdata : parseMemoryRead reply request with
        | .error exception => (.caught id exception, c)
        | .ok data => readMemoryLoop address length (content ++ data) c
  else (.returned content, c)
termination_by (length - content.length).toNat
decreasing_by
  have hread := parseMemoryRead_length _hrequest _hdata
  rw [List.length_append]
  omega

def readMemory (address length : ℤ) (c : ServiceClient σ) :
    ServiceResult (List UInt8) × ServiceClient σ :=
  readMemoryLoop exchange address length [] c

def writeMemoryLoop : List Message → ServiceClient σ → ServiceResult Unit × ServiceClient σ
  | [], c => (.returned (), c)
  | request :: records, c =>
    match serviceMemoryRequest exchange request c with
    | (.failed error, c) => (.failed error, c)
    | (.raised exception, c) => (.raised exception, c)
    | (.returned _, c) => writeMemoryLoop records c

def writeMemory (address : ℤ) (data : List UInt8) (c : ServiceClient σ) :
    ServiceResult Unit × ServiceClient σ :=
  match memoryWriteRecords address data c.sequence with
  | .error exception => (.caught id exception, c)
  | .ok records => writeMemoryLoop exchange records c

end Rp86.Host
