import Rp86.Lib.ChunkedWrite
import Rp86.Runtime.Equiv.Service
import Rp86.Runtime.Firmware
import Rp86.Workload.Equiv.Manager

/-!
# What the record handlers do

The requests of an upload with the fields that the handlers read from them, one inversion lemma for
each handler of `handle_workload_record`, and one for the timeout request.
A start has four outcomes (`StartEffect`); a stop of an active executor parks the processor
(`stopIfActive_cases`).
-/

namespace Rp86

open Lib

/-! ### Upload requests -/

def beginRequest (sequence : UInt32) (transferId : ℕ) (manifest : Manifest) : Message :=
  Message.request typeWorkloadBegin sequence (leBytes 4 transferId ++ manifest.toBytes)

/-- DATA of an upload: bytes of the image from an offset up. -/
def dataRequest (sequence : UInt32) (transferId : ℕ) (w : ByteWrite) : Message :=
  Message.request typeWorkloadData sequence (leBytes 4 transferId ++ (leBytes 4 w.1 ++ w.2))

def commitRequest (sequence : UInt32) (transferId imageCrc32 : ℕ) : Message :=
  Message.request typeWorkloadCommit sequence (leBytes 4 transferId ++ leBytes 4 imageCrc32)

section

variable {sequence : UInt32} {transferId : ℕ}

theorem beginRequest_fields (manifest : Manifest) :
    let request := beginRequest sequence transferId manifest
    request.length.toNat = 44 ∧ request.word 0 = UInt32.ofNat transferId ∧
      Manifest.ofBytes request.payload 4 = manifest := by
  intro request
  have hlen : (leBytes 4 transferId ++ manifest.toBytes).length = 44 := by
    rw [List.length_append, length_leBytes, manifest.length_toBytes]
    rfl
  have hfits := Nat.le_trans (Nat.le_of_eq hlen) (show 44 ≤ payloadSize by decide)
  refine ⟨(Message.request_length hfits).trans hlen,
    (Message.request_word hfits (by omega)).trans (le32_leBytes _ _), ?_⟩
  show Manifest.ofBytes (beginRequest sequence transferId manifest).payload 4 = manifest
  rw [beginRequest, Message.request_payload hfits, List.append_assoc]
  exact Manifest.ofBytes_toBytes manifest (leBytes 4 transferId) _

theorem dataRequest_fields {w : ByteWrite} (hlength : w.2.length ≤ 44) :
    let request := dataRequest sequence transferId w
    request.length.toNat = 8 + w.2.length ∧ request.word 0 = UInt32.ofNat transferId ∧
      request.word 4 = UInt32.ofNat w.1 ∧ request.workloadData = w.2 := by
  intro request
  have h52 : payloadSize = 52 := rfl
  have hlen : (leBytes 4 transferId ++ (leBytes 4 w.1 ++ w.2)).length = 8 + w.2.length := by
    simp only [List.length_append, length_leBytes]
    omega
  have hfits := Nat.le_trans (Nat.le_of_eq hlen) (show 8 + w.2.length ≤ payloadSize by omega)
  have hlength' : request.length.toNat = 8 + w.2.length :=
    (Message.request_length hfits).trans hlen
  refine ⟨hlength', (Message.request_word hfits (by omega)).trans (le32_leBytes _ _),
    (Message.request_word hfits (by omega)).trans ?_, ?_⟩
  · simp [le32_append_of_le, le32_leBytes]
  · rw [Message.workloadData, hlength', Nat.add_sub_cancel_left]
    refine (Message.request_slice hfits (by omega)).trans ?_
    simp [List.drop_append, List.drop_of_length_le]

theorem commitRequest_fields (imageCrc32 : ℕ) :
    let request := commitRequest sequence transferId imageCrc32
    request.length.toNat = 8 ∧ request.word 0 = UInt32.ofNat transferId ∧
      request.word 4 = UInt32.ofNat imageCrc32 := by
  intro request
  have hlen : (leBytes 4 transferId ++ leBytes 4 imageCrc32).length = 8 := by simp
  have hfits := Nat.le_trans (Nat.le_of_eq hlen) (show 8 ≤ payloadSize by decide)
  refine ⟨(Message.request_length hfits).trans hlen,
    (Message.request_word hfits (by omega)).trans (le32_leBytes _ _),
    (Message.request_word hfits (by omega)).trans ?_⟩
  simp [le32_append_of_le, le32_leBytes_nil]

end

/-! ### Upload -/

variable (env : Env) (request : Message) (workloadId : UInt32) (fw : Firmware)

theorem handleBegin_cases :
    handleBegin request fw = (.badWorkload, fw) ∨
    ∃ manifest, manifestValid manifest fw.backing = true ∧ fw.manager.state ≠ .running ∧
      fw.manager.state ≠ .completed ∧
      workloadBegin fw.manager fw.backing (request.word 0) (some manifest) = some { fw.manager with
        manifest := manifest, transferId := request.word 0, received := 0, runningCrc32 := 0,
        state := .receiving } ∧
      manifest = Manifest.ofBytes request.payload 4 ∧
      handleBegin request fw = (.ok, { fw with
        manager := { fw.manager with
          manifest := manifest, transferId := request.word 0, received := 0, runningCrc32 := 0,
          state := .receiving }
        executor := workloadExecutorClearDiagnostics fw.executor }) := by
  unfold handleBegin
  cases h : workloadBegin fw.manager fw.backing (request.word 0)
      (some (Manifest.ofBytes request.payload 4)) with
  | none => exact Or.inl rfl
  | some manager =>
    obtain ⟨manifest, hmanifest, hvalid, hrun, hcomp, rfl⟩ := workloadBegin_eq_some h
    obtain rfl := Option.some.inj hmanifest
    exact Or.inr ⟨_, hvalid, hrun, hcomp, h, rfl, rfl⟩

theorem handleData_cases :
    handleData request fw = (.badSequence, fw) ∨
    ∃ manager backing, workloadWrite fw.manager fw.backing (request.word 0) (request.word 4)
        (some request.workloadData) = some (manager, backing) ∧
      handleData request fw = (.ok, { fw with manager := manager, backing := backing }) := by
  unfold handleData
  cases h : workloadWrite fw.manager fw.backing (request.word 0) (request.word 4)
      (some request.workloadData) with
  | none => exact Or.inl rfl
  | some p => exact Or.inr ⟨p.1, p.2, rfl, rfl⟩

/-- A commit is refused outside `RECEIVING`, faults the upload, or stages the image. -/
theorem handleCommit_cases :
    (fw.manager.state ≠ .receiving ∧ handleCommit request fw = (.badSequence, fw)) ∨
    (fw.manager.state = .receiving ∧
      workloadCommit fw.manager (request.word 0) (request.word 4)
        = (false, { fw.manager with state := .faulted }) ∧
      handleCommit request fw
        = (.badCrc, { fw with manager := { fw.manager with state := .faulted } })) ∨
    (fw.manager.state = .receiving ∧
      workloadCommit fw.manager (request.word 0) (request.word 4) = (true, { fw.manager with
        workloadId := nextWorkloadId fw.manager.workloadId, state := .staged }) ∧
      handleCommit request fw = (.ok, { fw with
        manager := { fw.manager with
          workloadId := nextWorkloadId fw.manager.workloadId, state := .staged }
        executor := workloadExecutorStage fw.manager.manifest.flags fw.executor })) := by
  unfold handleCommit
  rcases workloadCommit_cases fw.manager (request.word 0) (request.word 4) with
    ⟨hst, h⟩ | ⟨hst, h⟩ | ⟨hst, -, -, -, -, h⟩
  · exact Or.inl ⟨hst, by simp [h, hst]⟩
  · exact Or.inr (Or.inl ⟨hst, h, by simp [h, hst]⟩)
  · exact Or.inr (Or.inr ⟨hst, h, by simp [h]⟩)

/-! ### Start and stop -/

/-- How the start of a workload ended, for an executor that is not active. -/
inductive StartEffect (env : Env) (fw : Firmware) : Bool → HostStatus → Firmware → Prop
  | calculator (m : Machine) (hvalid : calculatorWorkloadValid fw.manager fw.backing = true)
      (hframe : RequestFrame fw.machine.board m.board) :
      StartEffect env fw true .ok { fw with machine := m }
  | calculatorFailed (m : Machine) (hframe : RequestFrame fw.machine.board m.board) :
      StartEffect env fw true .badWorkload
        { fw with manager := { fw.manager with state := .faulted }, machine := m }
  | general (x : Executor) (backing : Backing) (m : Machine)
      (hspec : StartSpec env fw.backing fw.executor fw.machine true x backing m) :
      StartEffect env fw false .ok { fw with backing := backing, executor := x, machine := m }
  | generalFailed (x : Executor) (backing : Backing) (m : Machine)
      (hspec : StartSpec env fw.backing fw.executor fw.machine false x backing m) :
      StartEffect env fw false .badWorkload { fw with
        manager := { fw.manager with state := .faulted }
        backing := backing
        executor := x
        machine := m }

theorem startWorkload_effect (calculator : Bool) (fw : Firmware)
    (hactive : fw.executor.active = false) :
    StartEffect env fw calculator (startWorkload env calculator fw).1
      (startWorkload env calculator fw).2 := by
  unfold startWorkload
  cases calculator with
  | true =>
    have hframe := startCalculatorWorkload_request env fw.manager fw.backing fw.machine
    have hvalid := @calculatorWorkloadValid_of_start env fw.manager fw.backing fw.machine
    simp only [↓reduceIte]
    split
    · next m heq =>
      rw [heq] at hframe hvalid
      exact .calculator m (hvalid rfl) hframe
    · next m heq =>
      rw [heq] at hframe
      exact .calculatorFailed m hframe
  | false =>
    have hspec :=
      workloadExecutorStart_spec env fw.manager fw.backing fw.executor fw.machine hactive
    simp only [Bool.false_eq_true, ↓reduceIte]
    split
    · next x backing m heq =>
      rw [heq] at hspec
      exact .general x backing m hspec
    · next x backing m heq =>
      rw [heq] at hspec
      exact .generalFailed x backing m hspec

/-- Stopping the executor parks the processor, if there is anything to stop. -/
theorem stopIfActive_cases :
    (fw.executor.active = true ∧ ∃ m, fw.machine.StopsTo m ∧
      stopIfActive env fw = { fw with executor := fw.executor.halt, machine := m }) ∨
    (fw.executor.active = false ∧ stopIfActive env fw = fw) := by
  unfold stopIfActive
  cases hactive : fw.executor.active with
  | true =>
    have heq := @workloadExecutorStop_active env fw.executor fw.machine hactive
    refine Or.inl ⟨rfl, _, @workloadExecutorStop_stopsTo env _ _ hactive, ?_⟩
    rw [heq]
    rfl
  | false => exact Or.inr ⟨rfl, by simp⟩

/-! ### Control -/

theorem handleRun_cases :
    handleRun env workloadId fw = (.badWorkload, fw) ∨
    (workloadRun fw.manager workloadId = some { fw.manager with state := .running } ∧
      (fw.manager.state = .staged ∨ fw.manager.state = .stopped) ∧
      handleRun env workloadId fw
        = startWorkload env (calculatorWorkloadValid fw.manager fw.backing)
            { fw with manager := { fw.manager with state := .running } }) := by
  unfold handleRun workloadRun
  simp only
  cases h : workloadTransition [.staged, .stopped] .running fw.manager workloadId with
  | none => exact Or.inl rfl
  | some manager =>
    obtain ⟨-, hst, rfl⟩ := workloadTransition_eq_some h
    exact Or.inr ⟨rfl, by simpa using hst, rfl⟩

theorem handleRestart_cases :
    handleRestart env workloadId fw = (.badWorkload, fw) ∨
    (workloadRestart fw.manager workloadId = some { fw.manager with state := .running } ∧
      handleRestart env workloadId fw
        = startWorkload env (calculatorWorkloadValid fw.manager fw.backing)
            (stopIfActive env { fw with manager := { fw.manager with state := .running } })) := by
  unfold handleRestart workloadRestart
  simp only
  cases h : workloadTransition [.staged, .running, .stopped, .completed] .running fw.manager
      workloadId with
  | none => exact Or.inl rfl
  | some manager =>
    obtain ⟨-, -, rfl⟩ := workloadTransition_eq_some h
    exact Or.inr ⟨rfl, rfl⟩

/-- An accepted stop halts the executor; without an active executor it parks the prepared
calculator, if that is the workload. -/
theorem handleStop_cases :
    handleStop env workloadId fw = (.badState, fw) ∨
    (workloadStop fw.manager workloadId = some { fw.manager with state := .stopped } ∧
      ((fw.executor.active = true ∧ ∃ m, fw.machine.StopsTo m ∧
          handleStop env workloadId fw = (.ok, { fw with
            manager := { fw.manager with state := .stopped }
            executor := fw.executor.halt
            machine := m })) ∨
        (fw.executor.active = false ∧ ∃ m, MachineFrame fw.machine m ∧
          (calculatorWorkloadValid fw.manager fw.backing = true →
            m = parkPhysicalProcessor env fw.machine) ∧
          handleStop env workloadId fw = (.ok, { fw with
            manager := { fw.manager with state := .stopped }
            machine := m })))) := by
  unfold handleStop workloadStop
  simp only
  cases h : workloadTransition [.running, .completed] .stopped fw.manager workloadId with
  | none => exact Or.inl rfl
  | some manager =>
    obtain ⟨-, -, rfl⟩ := workloadTransition_eq_some h
    refine Or.inr ⟨rfl, ?_⟩
    simp only
    rcases stopIfActive_cases env { fw with manager := { fw.manager with state := .stopped } } with
      ⟨hactive, m, hstops, heq⟩ | ⟨hactive, -⟩
    · have hactive : fw.executor.active = true := hactive
      exact Or.inl ⟨hactive, m, hstops, by rw [if_pos hactive, heq]⟩
    · have hactive : fw.executor.active = false := hactive
      refine Or.inr ⟨hactive, ?_⟩
      cases hcalc : calculatorWorkloadValid fw.manager fw.backing with
      | true => exact ⟨_, .park env _, fun _ => rfl, by simp [hactive]⟩
      | false => exact ⟨_, .refl _, fun h => Bool.noConfusion h, by simp [hactive]⟩

/-! ### Timeout requests -/

/-- A timeout request reads the clock at most once and changes the executor only by an accepted
SET. -/
theorem handleTimeoutRequest_cases :
    ∃ x b, (handleTimeoutRequest env request fw).2
        = { fw with executor := x, machine := { fw.machine with board := b } } ∧
      (b = fw.machine.board ∨ b = fw.machine.board.next) ∧
      (x = fw.executor ∨ ∃ value, request.word 0 = workloadTimeoutSet ∧
        value ≤ workloadTimeoutMaxMs ∧
        ¬ (value ≠ 0 ∧ fw.manager.state = .running ∧ fw.executor.active = false) ∧
        x = fw.executor.setTimeout value) := by
  unfold handleTimeoutRequest workloadExecutorTimeoutRequest timeUs64
  simp only
  split_ifs with htype hversion hlength hvalue hprepared hset
  · exact ⟨_, _, rfl, Or.inl rfl, Or.inl rfl⟩
  · exact ⟨_, _, rfl, Or.inl rfl, Or.inl rfl⟩
  · exact ⟨_, _, rfl, Or.inl rfl, Or.inl rfl⟩
  · exact ⟨_, _, rfl, Or.inl rfl, Or.inl rfl⟩
  · exact ⟨_, _, rfl, Or.inl rfl, Or.inl rfl⟩
  · simp only [not_or] at hvalue
    refine ⟨_, _, rfl, Or.inr rfl, Or.inr ⟨request.word 4, hset, UInt32.not_lt.mp hvalue.2.1, ?_,
      rfl⟩⟩
    rintro ⟨hne, hrun, hactive⟩
    exact hprepared ⟨hset, hne, hrun, by simp [hactive]⟩
  · exact ⟨_, _, rfl, Or.inr rfl, Or.inl rfl⟩

end Rp86
