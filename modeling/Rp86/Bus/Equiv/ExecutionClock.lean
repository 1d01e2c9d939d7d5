import Rp86.Bus.ExecutionClock
import Rp86.Lib.Run

/-!
# What the clock's mode says

The mode of the execution clock is a record of the firmware; `ClockTruth` says that the state
machine does what is recorded.  It is kept by every call that meets `Undisturbed`: `pio_sm_init`
succeeds, a step that has put its token gets the answer in time, and so does a stop of the
free-running clock.  In the other cases the record is wrong (`clock_mode_untrue`).
-/

namespace Rp86

open Lib

variable {env : Env} {b : Board}

/-! ### One exchange with the state machine -/

/-- The two waits of an exchange, and what is left of it when one of them times out. -/
theorem exchangeToken_cases (env : Env) (b : Board) :
    (env.fifoReady b.reads = false ∧ exchangeToken env b = (false, b.next)) ∨
    (env.fifoReady b.reads = true ∧ env.fifoReady (b.reads + 1) = false ∧
      exchangeToken env b = (false, { b with
        reads := b.reads + 2
        clock := { b.clock with issued := b.clock.issued + 1 } })) ∨
    (env.fifoReady b.reads = true ∧ env.fifoReady (b.reads + 1) = true ∧
      exchangeToken env b = (true, { b with
        reads := b.reads + 2
        clock := { b.clock with
          issued := b.clock.issued + 1
          acknowledged := b.clock.acknowledged + 1 } })) := by
  unfold exchangeToken
  cases hput : env.fifoReady b.reads with
  | false => exact Or.inl ⟨rfl, rfl⟩
  | true =>
    have hindex : b.next.reads = b.reads + 1 := rfl
    cases hget : env.fifoReady (b.reads + 1) with
    | false =>
      simp only [hindex, hget, Bool.not_true, Bool.not_false, Bool.false_eq_true, ↓reduceIte]
      exact Or.inr (Or.inl ⟨trivial, trivial, rfl⟩)
    | true =>
      simp only [hindex, hget, Bool.not_true, Bool.false_eq_true, ↓reduceIte]
      exact Or.inr (Or.inr ⟨trivial, trivial, rfl⟩)

/-! ### The record and the state machine -/

def ExecutionClockMode.program : ExecutionClockMode → Option ClockProgram
  | .stopped => none
  | .freeRunning => some .freeRunning
  | .clockStepped => some .clockStepped

/-- The mode tells what the state machine does. -/
structure ClockTruth (b : Board) : Prop where
  /-- In both running modes the state machine is enabled and runs the program of the mode. -/
  running : b.clock.mode ≠ .stopped →
    b.clock.smEnabled = true ∧ b.clock.program = b.clock.mode.program
  /-- In `STOPPED` it is disabled and SIO drives `CLK` low. -/
  stopped : b.clock.mode = .stopped → b.clock.smEnabled = false ∧ b.clk = .sioLow

/-- A step put one token and took the acknowledgement with the number of that token. -/
def TookOwnAcknowledgement (b b' : Board) : Prop :=
  b'.clock.issued = b.clock.issued + 1 ∧ b'.clock.acknowledged = b'.clock.issued

/-- `ClockTruth` with what carries it on: between steps no acknowledgement is outstanding. -/
structure ClockInv (b : Board) : Prop extends ClockTruth b where
  acknowledged : b.clock.mode = .clockStepped → b.clock.acknowledged = b.clock.issued

/-- The primitives that a call uses succeed. -/
def Undisturbed (env : Env) (b : Board) : ClockCall → Prop
  | .setMode .clockStepped =>
    (b.clock.mode = .stopped → env.smInit b.reads = true) ∧
      (b.clock.mode = .freeRunning → env.fifoReady b.reads = true →
        env.fifoReady (b.reads + 1) = true → env.smInit (b.reads + 2) = true)
  | .setMode .freeRunning =>
    b.clock.mode = .clockStepped → env.clkHigh b.reads = false → env.smInit (b.reads + 1) = true
  | .setMode .stopped => True
  | .step =>
    b.clock.mode = .clockStepped → env.fifoReady b.reads = true →
      env.fifoReady (b.reads + 1) = true
  | .stopLow =>
    b.clock.mode = .freeRunning →
      env.fifoReady b.reads = true ∧ env.fifoReady (b.reads + 1) = true

/-! ### The changes of mode -/

/-- The clock-stepped program runs, with empty FIFOs. -/
structure Stepping (b : Board) : Prop where
  mode : b.clock.mode = .clockStepped
  smEnabled : b.clock.smEnabled = true
  program : b.clock.program = some .clockStepped
  acknowledged : b.clock.acknowledged = b.clock.issued

theorem Stepping.inv (h : Stepping b) : ClockInv b := by
  refine ⟨⟨?_, ?_⟩, fun _ => h.acknowledged⟩
  · intro _
    rw [h.mode]
    exact ⟨h.smEnabled, h.program⟩
  · intro hstopped
    rw [h.mode] at hstopped
    cases hstopped

theorem prepareClockStepped_ok (h : env.smInit b.reads = true) :
    (prepareClockStepped env b).1 = true ∧ Stepping (prepareClockStepped env b).2 := by
  have hindex : (prepareCommon b).reads = b.reads := rfl
  unfold prepareClockStepped
  simp only [hindex, h, ↓reduceIte]
  exact ⟨trivial, rfl, rfl, rfl, rfl⟩

/-- It reports success only with the program running. -/
theorem stepping_of_prepareClockStepped (h : (prepareClockStepped env b).1 = true) :
    Stepping (prepareClockStepped env b).2 := by
  cases hinit : env.smInit b.reads with
  | true => exact (prepareClockStepped_ok hinit).2
  | false =>
    have hindex : (prepareCommon b).reads = b.reads := rfl
    unfold prepareClockStepped at h
    simp only [hindex, hinit, Bool.false_eq_true, ↓reduceIte] at h

/-- The free-running program is only started from a low clock. -/
theorem prepareFreeRunning_cases (env : Env) (b : Board) :
    (env.clkHigh b.reads = true ∧ prepareFreeRunning env b = (false, b.next)) ∨
    (env.clkHigh b.reads = false ∧ env.smInit (b.reads + 1) = false ∧
      (prepareFreeRunning env b).1 = false) ∨
    (env.clkHigh b.reads = false ∧ env.smInit (b.reads + 1) = true ∧
      (prepareFreeRunning env b).1 = true ∧
      (prepareFreeRunning env b).2.clock.mode = .freeRunning ∧
      (prepareFreeRunning env b).2.clock.smEnabled = true ∧
      (prepareFreeRunning env b).2.clock.program = some .freeRunning) := by
  have hindex : (prepareCommon b.next).reads = b.reads + 1 := rfl
  unfold prepareFreeRunning
  cases hclk : env.clkHigh b.reads with
  | true => exact Or.inl ⟨rfl, rfl⟩
  | false =>
    simp only [Bool.false_eq_true, ↓reduceIte, hindex]
    cases hinit : env.smInit (b.reads + 1) with
    | false => exact Or.inr (Or.inl ⟨trivial, rfl, rfl⟩)
    | true => exact Or.inr (Or.inr ⟨trivial, rfl, rfl, rfl, rfl, rfl⟩)

/-- The stop of a free-running clock either has the answer, or leaves the mode as it was. -/
theorem stopFreeRunningLow_cases (env : Env) (b : Board) :
    (env.fifoReady b.reads = true ∧ env.fifoReady (b.reads + 1) = true ∧
      (stopFreeRunningLow env b).1 = true ∧
      (stopFreeRunningLow env b).2.reads = b.reads + 2 ∧
      (stopFreeRunningLow env b).2.clock.smEnabled = false) ∨
    (¬ (env.fifoReady b.reads = true ∧ env.fifoReady (b.reads + 1) = true) ∧
      (stopFreeRunningLow env b).1 = false ∧
      (stopFreeRunningLow env b).2.clock.mode = b.clock.mode ∧
      (stopFreeRunningLow env b).2.clock.smEnabled = b.clock.smEnabled ∧
      (stopFreeRunningLow env b).2.clock.program = b.clock.program) := by
  unfold stopFreeRunningLow
  rcases exchangeToken_cases env b with ⟨hput, heq⟩ | ⟨hput, hget, heq⟩ | ⟨hput, hget, heq⟩
  · rw [heq]
    exact Or.inr ⟨by simp [hput], rfl, rfl, rfl, rfl⟩
  · rw [heq]
    exact Or.inr ⟨by simp [hget], rfl, rfl, rfl, rfl⟩
  · rw [heq]
    exact Or.inl ⟨hput, hget, rfl, rfl, rfl⟩

/-- A clock that keeps its free-running state keeps the record true. -/
theorem ClockInv.of_freeRunning {b' : Board} (hmode : b'.clock.mode = .freeRunning)
    (henabled : b'.clock.smEnabled = true) (hprogram : b'.clock.program = some .freeRunning) :
    ClockInv b' := by
  refine ⟨⟨?_, ?_⟩, ?_⟩
  · intro _
    rw [hmode]
    exact ⟨henabled, hprogram⟩
  · intro hstopped
    rw [hmode] at hstopped
    cases hstopped
  · intro hstepped
    rw [hmode] at hstepped
    cases hstepped

theorem ClockInv.next (h : ClockInv b) : ClockInv b.next :=
  ⟨⟨h.running, h.stopped⟩, h.acknowledged⟩

/-- A change of mode that returns true has made the change. -/
theorem executionClockSetMode_ok {mode : ExecutionClockMode} (h : ClockInv b)
    (hok : (executionClockSetMode env mode b).1 = true) :
    (executionClockSetMode env mode b).2.clock.mode = mode ∧
      ClockInv (executionClockSetMode env mode b).2 := by
  unfold executionClockSetMode at hok ⊢
  by_cases hsame : b.clock.mode = mode
  · rw [if_pos hsame]
    exact ⟨hsame, h⟩
  · rw [if_neg hsame] at hok ⊢
    cases mode with
    | stopped => cases hok
    | freeRunning =>
      split_ifs at hok ⊢ with hstepped
      rcases prepareFreeRunning_cases env b with
        ⟨-, heq⟩ | ⟨-, -, hfail⟩ | ⟨-, -, -, hmode, henabled, hprogram⟩
      · rw [heq] at hok
        cases hok
      · rw [hfail] at hok
        cases hok
      · exact ⟨hmode, .of_freeRunning hmode henabled hprogram⟩
    | clockStepped =>
      by_cases hfree : b.clock.mode = .freeRunning
      · rw [if_pos hfree] at hok ⊢
        generalize stopFreeRunningLow env b = stop at hok ⊢
        obtain ⟨stopped, b'⟩ := stop
        cases stopped with
        | false => cases hok
        | true =>
          have hstepping := stepping_of_prepareClockStepped hok
          exact ⟨hstepping.mode, hstepping.inv⟩
      · rw [if_neg hfree] at hok ⊢
        have hstepping := stepping_of_prepareClockStepped hok
        exact ⟨hstepping.mode, hstepping.inv⟩

theorem executionClockSetMode_inv {mode : ExecutionClockMode} (h : ClockInv b)
    (hundisturbed : Undisturbed env b (.setMode mode)) :
    ClockInv (executionClockSetMode env mode b).2 := by
  unfold executionClockSetMode
  by_cases hsame : b.clock.mode = mode
  · rw [if_pos hsame]
    exact h
  · rw [if_neg hsame]
    cases mode with
    | stopped => exact h
    | freeRunning =>
      by_cases hstepped : b.clock.mode = .clockStepped
      · simp only [hstepped, ne_eq, not_true_eq_false, ↓reduceIte]
        -- the program is not started from a high clock; an undisturbed start succeeds
        rcases prepareFreeRunning_cases env b with
          ⟨-, heq⟩ | ⟨hclk, hinit, -⟩ | ⟨-, -, -, hmode, henabled, hprogram⟩
        · rw [heq]
          exact h.next
        · rw [hundisturbed hstepped hclk] at hinit
          cases hinit
        · exact .of_freeRunning hmode henabled hprogram
      · simp only [hstepped, ne_eq, not_false_eq_true, ↓reduceIte]
        exact h
    | clockStepped =>
      cases hmode : b.clock.mode with
      | clockStepped => exact absurd hmode hsame
      | stopped =>
        simp only [reduceCtorEq, ↓reduceIte]
        exact (prepareClockStepped_ok (hundisturbed.1 hmode)).2.inv
      | freeRunning =>
        simp only [↓reduceIte]
        have hrunning := h.running (by rw [hmode]; decide)
        rw [hmode] at hrunning
        rcases stopFreeRunningLow_cases env b with
          ⟨hput, hget, hstop, hreads, -⟩ | ⟨-, hstop, hmode', henabled, hprogram⟩
        · have hinit : env.smInit (stopFreeRunningLow env b).2.reads = true := by
            rw [hreads]
            exact hundisturbed.2 hmode hput hget
          generalize stopFreeRunningLow env b = stop at hstop hinit ⊢
          obtain ⟨stopped, b'⟩ := stop
          obtain rfl : stopped = true := hstop
          exact (prepareClockStepped_ok hinit).2.inv
        · -- the stop timed out, and the clock runs on
          generalize stopFreeRunningLow env b = stop at hstop hmode' henabled hprogram ⊢
          obtain ⟨stopped, b'⟩ := stop
          obtain rfl : stopped = false := hstop
          exact .of_freeRunning (hmode'.trans hmode) (henabled.trans hrunning.1)
            (hprogram.trans hrunning.2)

/-- A step that returns true took the acknowledgement of its own pulse. -/
theorem executionClockStep_ok (h : ClockInv b) (hok : (executionClockStep env b).1 = true) :
    TookOwnAcknowledgement b (executionClockStep env b).2 := by
  unfold executionClockStep at hok ⊢
  by_cases hmode : b.clock.mode = .clockStepped
  · rw [if_neg (not_not.mpr hmode)] at hok ⊢
    rcases exchangeToken_cases env b with ⟨-, heq⟩ | ⟨-, -, heq⟩ | ⟨-, -, heq⟩
    · rw [heq] at hok
      cases hok
    · rw [heq] at hok
      cases hok
    · rw [heq]
      exact ⟨rfl, congrArg (· + 1) (h.acknowledged hmode)⟩
  · rw [if_pos hmode] at hok
    cases hok

theorem executionClockStep_inv (h : ClockInv b) (hundisturbed : Undisturbed env b .step) :
    ClockInv (executionClockStep env b).2 := by
  unfold executionClockStep
  by_cases hmode : b.clock.mode = .clockStepped
  · rw [if_neg (not_not.mpr hmode)]
    rcases exchangeToken_cases env b with ⟨-, heq⟩ | ⟨hput, hget, -⟩ | ⟨-, -, heq⟩
    · rw [heq]
      exact h.next
    · rw [hundisturbed hmode hput] at hget
      cases hget
    · rw [heq]
      exact ⟨⟨h.running, h.stopped⟩, fun _ => congrArg (· + 1) (h.acknowledged hmode)⟩
  · rw [if_pos hmode]
    exact h

theorem executionClockStopLow_inv (hundisturbed : Undisturbed env b .stopLow) :
    ClockInv (executionClockStopLow env b) := by
  have hstopped : ∀ b' : Board, b'.clock.smEnabled = false → ClockInv
      { forceClockLow b' with clock := { (forceClockLow b').clock with mode := .stopped } } := by
    intro b' henabled
    exact ⟨⟨fun hne => absurd rfl hne, fun _ => ⟨henabled, rfl⟩⟩, fun hmode => nomatch hmode⟩
  unfold executionClockStopLow
  by_cases hfree : b.clock.mode = .freeRunning
  · simp only [hfree, ↓reduceIte]
    obtain ⟨hput, hget⟩ := hundisturbed hfree
    rcases stopFreeRunningLow_cases env b with ⟨-, -, -, -, henabled⟩ | ⟨hnot, -⟩
    · exact hstopped _ henabled
    · exact absurd ⟨hput, hget⟩ hnot
  · simp only [hfree, ↓reduceIte]
    exact hstopped _ rfl

/-! ### Runs -/

theorem clockCall_inv {call : ClockCall} (hundisturbed : Undisturbed env b call)
    (h : ClockInv b) : ClockInv (clockCall env b call) := by
  cases call with
  | setMode mode => exact executionClockSetMode_inv h hundisturbed
  | step => exact executionClockStep_inv h hundisturbed
  | stopLow => exact executionClockStopLow_inv hundisturbed

/-- **The mode tells the truth.**  After an initialisation that succeeds, in every run of calls
whose primitives succeed: the mode says what the state machine does, a change of mode that returns
true has put the mode in force, and a step that returns true took the acknowledgement of its own
pulse. -/
theorem clock_mode_truth (env : Env) (board : Board)
    (hinit : (executionClockInit env board).1 = true) (calls : List ClockCall)
    (hundisturbed : StepsMeet (clockCall env) (Undisturbed env) (executionClockInit env board).2
      calls) :
    let b := run (clockCall env) (executionClockInit env board).2 calls
    ClockTruth b ∧
      (∀ mode, (executionClockSetMode env mode b).1 = true →
        (executionClockSetMode env mode b).2.clock.mode = mode ∧
          ClockTruth (executionClockSetMode env mode b).2) ∧
      ((executionClockStep env b).1 = true →
        TookOwnAcknowledgement b (executionClockStep env b).2) := by
  intro b
  have hstart : ClockInv (executionClockInit env board).2 :=
    (stepping_of_prepareClockStepped hinit).inv
  have hinv : ClockInv b := run_invariant_of_stepsMeet
    (fun _ _ hmeets h => clockCall_inv hmeets h) calls hundisturbed hstart
  refine ⟨hinv.toClockTruth, ?_, ?_⟩
  · intro mode hok
    obtain ⟨hmode, htruth⟩ := executionClockSetMode_ok hinv hok
    exact ⟨hmode, htruth.toClockTruth⟩
  · intro hok
    exact executionClockStep_ok hinv hok

/-- A low clock, with the given outcomes of the waits for a FIFO and of `pio_sm_init`. -/
def pioEnv (fifoReady smInit : ℕ → Bool) : Env where
  timeUs _ := 0
  fifoReady := fifoReady
  smInit := smInit
  clkHigh _ := false
  gpioIn _ := 0
  streamPrimed _ := true
  resetClocks _ := true
  livePolls _ := []
  recordSent _ := true

/-- The board before the controller is initialised. -/
def unclockedBoard : Board where
  reads := 0
  intr := false
  intrRequest := false
  reset := true
  clk := .sioLow
  adRoute := .sio
  adOe := 0
  adOut := 0
  clock := ⟨.stopped, false, none, 0, 0⟩
  faulted := false
  lastStepUs := 0
  maxStepIntervalUs := 0

def clockRun (env : Env) (calls : List ClockCall) : Board :=
  run (clockCall env) (executionClockInit env unclockedBoard).2 calls

theorem clock_mode_truth_round :
    let env := pioEnv (fun _ => true) fun _ => true
    let b := clockRun env [.setMode .freeRunning, .setMode .clockStepped]
    b.clock.mode = .clockStepped ∧ ClockTruth b ∧
      (executionClockStep env b).1 = true ∧
      TookOwnAcknowledgement b (executionClockStep env b).2 := by
  intro env b
  have hundisturbed : StepsMeet (clockCall env) (Undisturbed env)
      (executionClockInit env unclockedBoard).2
      [.setMode .freeRunning, .setMode .clockStepped] := by
    refine stepsMeet_cons.mpr ⟨?_, stepsMeet_cons.mpr ⟨⟨?_, ?_⟩, stepsMeet_nil⟩⟩
    · exact fun _ _ => rfl
    · exact fun _ => rfl
    · exact fun _ _ _ => rfl
  obtain ⟨htruth, -, hstep⟩ := clock_mode_truth env unclockedBoard rfl _ hundisturbed
  exact ⟨rfl, htruth, rfl, hstep rfl⟩

/-- Three ways in which the record is wrong.  A failed start of the free-running program leaves
`CLOCK_STEPPED` with the state machine disabled, and the next change to `CLOCK_STEPPED` returns true
at once.  A stop of the free-running clock without an answer leaves `STOPPED` with the state machine
enabled.  After a step without an answer the next step takes the answer to that one. -/
theorem clock_mode_untrue :
    (let env := pioEnv (fun _ => true) fun i => i == 0
     let b := clockRun env [.setMode .freeRunning]
     b.clock.mode = .clockStepped ∧ b.clock.smEnabled = false ∧
       (executionClockSetMode env .clockStepped b).1 = true ∧
       (executionClockSetMode env .clockStepped b).2.clock.smEnabled = false) ∧
    (let b := clockRun (pioEnv (fun _ => false) fun _ => true) [.setMode .freeRunning, .stopLow]
     b.clock.mode = .stopped ∧ b.clock.smEnabled = true) ∧
    (let env := pioEnv (fun i => i != 2) fun _ => true
     let b := clockRun env [.step]
     (executionClockStep env b).1 = true ∧
       (executionClockStep env b).2.clock.issued = 2 ∧
       (executionClockStep env b).2.clock.acknowledged = 1) := by
  refine ⟨⟨?_, ?_, ?_, ?_⟩, ⟨?_, ?_⟩, ⟨?_, ?_, ?_⟩⟩ <;> decide

end Rp86
