import Rp86.Bus.ProcessorBus

/-!
# What the bus primitives keep

No bus primitive touches `INTR`, and none takes back a read of the environment (`BusFrame`).  The
safe state that ends a halt or a fault is `Board.Safe`: `RESET` asserted, the clock stopped with
`CLK` low, and no AD pin driven.
-/

namespace Rp86

/-- The lines that the bus primitives leave alone, and the count of reads. -/
structure BusFrame (b b' : Board) : Prop where
  intr : b'.intr = b.intr
  intrRequest : b'.intrRequest = b.intrRequest
  reads : b.reads ≤ b'.reads

variable (env : Env) (n : ℕ) (b : Board)

theorem BusFrame.refl : BusFrame b b := ⟨rfl, rfl, Nat.le_refl _⟩

theorem BusFrame.trans {b₁ b₂ b₃ : Board} (h : BusFrame b₁ b₂) (h' : BusFrame b₂ b₃) :
    BusFrame b₁ b₃ :=
  ⟨h'.intr.trans h.intr, h'.intrRequest.trans h.intrRequest, Nat.le_trans h.reads h'.reads⟩

/-- No call of `rp86_processor_bus_set_intr`, and no read taken back; `INTR` itself may have been
driven. -/
structure RequestFrame (b b' : Board) : Prop where
  intrRequest : b'.intrRequest = b.intrRequest
  reads : b.reads ≤ b'.reads

theorem BusFrame.request {b b' : Board} (h : BusFrame b b') : RequestFrame b b' :=
  ⟨h.intrRequest, h.reads⟩

theorem RequestFrame.refl : RequestFrame b b := ⟨rfl, Nat.le_refl _⟩

theorem RequestFrame.trans {b₁ b₂ b₃ : Board} (h : RequestFrame b₁ b₂) (h' : RequestFrame b₂ b₃) :
    RequestFrame b₁ b₃ :=
  ⟨h'.intrRequest.trans h.intrRequest, Nat.le_trans h.reads h'.reads⟩

theorem BusFrame.next : BusFrame b b.next := ⟨rfl, rfl, Nat.le_succ _⟩

/-! ### Execution clock -/

theorem exchangeToken_frame : BusFrame b (exchangeToken env b).2 := by
  unfold exchangeToken
  simp only
  split
  · exact .next b
  · split
    · exact ⟨rfl, rfl, Nat.le_add_right _ 2⟩
    · exact ⟨rfl, rfl, Nat.le_add_right _ 2⟩

theorem prepareClockStepped_frame : BusFrame b (prepareClockStepped env b).2 := by
  unfold prepareClockStepped
  simp only
  split <;> exact ⟨rfl, rfl, Nat.le_succ _⟩

theorem prepareFreeRunning_frame : BusFrame b (prepareFreeRunning env b).2 := by
  unfold prepareFreeRunning
  simp only
  split
  · exact .next b
  · split <;> exact ⟨rfl, rfl, Nat.le_add_right _ 2⟩

theorem stopFreeRunningLow_frame : BusFrame b (stopFreeRunningLow env b).2 := by
  have h := exchangeToken_frame env b
  unfold stopFreeRunningLow
  split <;> next heq => rw [heq] at h; exact ⟨h.intr, h.intrRequest, h.reads⟩

theorem executionClockSetMode_frame (mode : ExecutionClockMode) (b : Board) :
    BusFrame b (executionClockSetMode env mode b).2 := by
  unfold executionClockSetMode
  split
  · exact .refl b
  · split
    · split
      · have h := stopFreeRunningLow_frame env b
        split
        · next heq => rw [heq] at h; exact h
        · next heq => rw [heq] at h; exact h.trans (prepareClockStepped_frame env _)
      · exact prepareClockStepped_frame env b
    · split
      · exact .refl b
      · exact prepareFreeRunning_frame env b
    · exact .refl b

theorem executionClockStep_frame : BusFrame b (executionClockStep env b).2 := by
  unfold executionClockStep
  split
  · exact .refl b
  · have h := exchangeToken_frame env b
    split
    · next heq => rw [heq] at h; exact h
    · next heq => rw [heq] at h; exact h.trans (.next _)

theorem executionClockStopLow_frame : BusFrame b (executionClockStopLow env b) := by
  unfold executionClockStopLow
  split
  · have h := stopFreeRunningLow_frame env b
    exact ⟨h.intr, h.intrRequest, h.reads⟩
  · exact ⟨rfl, rfl, Nat.le_refl _⟩

/-! ### Bus cycles -/

theorem processorBusForceSafeState_frame : BusFrame b (processorBusForceSafeState env b) := by
  have h := executionClockStopLow_frame env (processorBusHoldReset true (processorBusReleaseAd b))
  exact ⟨h.intr, h.intrRequest, h.reads⟩

theorem processorBusStep_frame : BusFrame b (processorBusStep env b).2 := by
  have hstep := executionClockStep_frame env (recordStepTime (env.timeUs b.reads) b.next)
  have hrec : BusFrame b (recordStepTime (env.timeUs b.reads) b.next) :=
    ⟨rfl, rfl, Nat.le_succ _⟩
  refine BusFrame.trans ?_ (.next _)
  split
  · next heq => rw [heq] at hstep; exact hrec.trans hstep
  · next b' heq =>
    rw [heq] at hstep
    have hfault : BusFrame b' { b' with faulted := true } := ⟨rfl, rfl, Nat.le_refl _⟩
    exact hrec.trans (hstep.trans (hfault.trans (processorBusForceSafeState_frame env _)))

theorem processorBusSteps_frame : BusFrame b (processorBusSteps env n b).2 := by
  induction n generalizing b with
  | zero => exact .refl b
  | succ n ih =>
    have h := processorBusStep_frame env b
    unfold processorBusSteps
    simp only
    split
    · exact h
    · exact h.trans (ih _)

theorem processorBusResetSequence_frame : BusFrame b (processorBusResetSequence env n b).2 := by
  have h := processorBusSteps_frame env n
    (processorBusHoldReset true (processorBusReleaseAd (processorBusClearFault b)))
  unfold processorBusResetSequence
  simp only
  split <;> next heq => rw [heq] at h; exact ⟨h.intr, h.intrRequest, h.reads⟩

theorem waitAle_frame (idle : ℕ) (b : Board) : BusFrame b (waitAle env n idle b).2 := by
  induction n generalizing idle b with
  | zero => exact .refl b
  | succ n ih =>
    have h := processorBusStep_frame env b
    unfold waitAle
    simp only
    split
    · exact h
    · split
      · exact h
      · exact h.trans (ih _ _)

theorem processorBusWaitCycle_frame : BusFrame b (processorBusWaitCycle env n b).2 := by
  have h := waitAle_frame env n 0 b
  unfold processorBusWaitCycle
  split
  · next heq => rw [heq] at h; exact h
  · next heq =>
    rw [heq] at h
    have h' := h.trans (processorBusStep_frame env _)
    simp only
    split <;> exact h'

theorem processorBusCompleteRead_frame : BusFrame b (processorBusCompleteRead env b).2 := by
  have h1 := processorBusStep_frame env b
  have h2 := h1.trans (processorBusStep_frame env _)
  unfold processorBusCompleteRead
  simp only
  split
  · exact h1
  · split
    · exact h2
    · exact ⟨h2.intr, h2.intrRequest, h2.reads⟩

theorem processorBusCompleteInterruptAck_frame (drive : Bool) (vector : UInt8) (b : Board) :
    BusFrame b (processorBusCompleteInterruptAck env drive vector b).2 := by
  unfold processorBusCompleteInterruptAck
  simp only
  have h0 : BusFrame b (if drive then processorBusDriveData vector.toUInt16 .low b
      else processorBusReleaseAd b) := by
    split <;> exact ⟨rfl, rfl, Nat.le_refl _⟩
  generalize (if drive = true then processorBusDriveData vector.toUInt16 .low b
    else processorBusReleaseAd b) = b₀ at h0 ⊢
  have h1 := h0.trans (processorBusStep_frame env b₀)
  have h2 := h1.trans (processorBusStep_frame env _)
  split
  · exact ⟨h1.intr, h1.intrRequest, h1.reads⟩
  · split <;> exact ⟨h2.intr, h2.intrRequest, h2.reads⟩

theorem processorBusCompleteWrite_frame (cycle : BusCycle) (b : Board) :
    BusFrame b (processorBusCompleteWrite env cycle b).2 := by
  have h1 := processorBusStep_frame env (processorBusReleaseAd b)
  have h2 := h1.trans (processorBusStep_frame env _)
  unfold processorBusCompleteWrite
  simp only
  split
  · exact ⟨h1.intr, h1.intrRequest, h1.reads⟩
  · split <;> exact ⟨h2.intr, h2.intrRequest, h2.reads⟩

theorem processorBusSafeHalt_frame : BusFrame b (processorBusSafeHalt env n b) := by
  have h := executionClockSetMode_frame env .clockStepped (processorBusReleaseAd b)
  unfold processorBusSafeHalt processorBusSetExecutionClockMode
  simp only
  split
  · next b' heq =>
    rw [heq] at h
    have hs := processorBusForceSafeState_frame env { b' with faulted := true }
    exact ⟨hs.intr.trans h.intr, hs.intrRequest.trans h.intrRequest,
      Nat.le_trans h.reads hs.reads⟩
  · next b' heq =>
    rw [heq] at h
    have hs := (processorBusSteps_frame env n
      (processorBusHoldReset true (processorBusClearFault b'))).trans
      (processorBusForceSafeState_frame env _)
    exact ⟨hs.intr.trans h.intr, hs.intrRequest.trans h.intrRequest,
      Nat.le_trans h.reads hs.reads⟩

/-! ### The safe state -/

/-- `RESET` asserted, the clock stopped with `CLK` low, no AD pin driven by SIO. -/
structure Board.Safe (b : Board) : Prop where
  reset : b.reset = true
  mode : b.clock.mode = .stopped
  clk : b.clk = .sioLow
  adOe : b.adOe &&& adBusMask = 0

theorem and_not_and_self (x mask : UInt32) : (x &&& ~~~ mask) &&& mask = 0 := by
  rw [UInt32.and_assoc, UInt32.not_and_self, UInt32.and_zero]

/-- Stopping the clock drives no AD pin and leaves `RESET` alone. -/
theorem executionClockStopLow_adOe :
    (executionClockStopLow env b).adOe = b.adOe ∧
      (executionClockStopLow env b).reset = b.reset := by
  unfold executionClockStopLow stopFreeRunningLow exchangeToken
  simp only
  split_ifs <;> exact ⟨rfl, rfl⟩

theorem processorBusForceSafeState_safe : (processorBusForceSafeState env b).Safe := by
  obtain ⟨had, hreset⟩ :=
    executionClockStopLow_adOe env (processorBusHoldReset true (processorBusReleaseAd b))
  refine ⟨hreset, rfl, rfl, ?_⟩
  change (executionClockStopLow env _).adOe &&& adBusMask = 0
  rw [had]
  exact and_not_and_self _ _

/-- **Every halt ends in the safe state.** -/
theorem processorBusSafeHalt_safe : (processorBusSafeHalt env n b).Safe := by
  unfold processorBusSafeHalt
  simp only
  split <;> exact processorBusForceSafeState_safe env _

end Rp86
