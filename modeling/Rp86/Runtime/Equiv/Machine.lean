import Rp86.Bus.Equiv.Frame
import Rp86.Runtime.Machine

/-!
# What the processor functions do to the board

Parking ends in the safe state with `INTR` low (`parkPhysicalProcessor_parked`).  No function of the
prepared runtime calls `rp86_processor_bus_set_intr`: they drive the pin directly, so the last
request is framed (`RequestFrame`).
-/

namespace Rp86

/-! ### Parking -/

/-- The processor held in reset with its clock stopped and its bus and interrupt line idle. -/
structure Machine.Parked (m : Machine) : Prop where
  safe : m.board.Safe
  intr : m.board.intr = false
  busActive : m.busActive = false

variable (env : Env) (b : Board) (manager : WorkloadManager) (backing : Backing)
  (record : Message) (m : Machine)

theorem parkPhysicalProcessor_parked : (parkPhysicalProcessor env m).Parked := by
  have hframe := executionClockStopLow_frame env ((m.board.putIntr false).putReset true)
  obtain ⟨had, hreset⟩ := executionClockStopLow_adOe env ((m.board.putIntr false).putReset true)
  refine ⟨⟨hreset, rfl, rfl, ?_⟩, hframe.intr, rfl⟩
  exact and_not_and_self _ _

theorem RequestFrame.park {b : Board} {m : Machine} (env : Env) (h : RequestFrame b m.board) :
    RequestFrame b (parkPhysicalProcessor env m).board := by
  have hstop := executionClockStopLow_frame env ((m.board.putIntr false).putReset true)
  exact h.trans ⟨hstop.intrRequest, hstop.reads⟩

/-! ### Handing the bus to the executor -/

/-- Setting the clock mode, then forcing the safe state if that failed. -/
theorem setModeOrSafe_request (mode : ExecutionClockMode) (b : Board) :
    RequestFrame b (executionClockSetMode env mode b).2 ∧
      RequestFrame b (processorBusForceSafeState env (executionClockSetMode env mode b).2) := by
  have h := (executionClockSetMode_frame env mode b).request
  exact ⟨h, h.trans (processorBusForceSafeState_frame env _).request⟩

theorem disablePreparedRuntime_request :
    RequestFrame m.board (disablePreparedRuntime env m).2.board := by
  obtain ⟨h1, h2⟩ :=
    setModeOrSafe_request env .clockStepped ((m.board.putIntr false).putReset true)
  unfold disablePreparedRuntime processorBusSetExecutionClockMode
  simp only
  split
  · next heq => rw [heq] at h2; exact ⟨h2.intrRequest, h2.reads⟩
  · next heq => rw [heq] at h1; exact ⟨h1.intrRequest, h1.reads⟩

theorem prepareGeneralWorkloadBus_request :
    RequestFrame m.board (prepareGeneralWorkloadBus env m).2.board := by
  obtain ⟨h1, h2⟩ := setModeOrSafe_request env .clockStepped (processorBusHoldReset true m.board)
  unfold prepareGeneralWorkloadBus processorBusSetExecutionClockMode
  simp only
  split
  · exact disablePreparedRuntime_request env m
  · split
    · next heq => rw [heq] at h2; exact ⟨h2.intrRequest, h2.reads⟩
    · next heq => rw [heq] at h1; exact ⟨h1.intrRequest, h1.reads⟩

theorem prepareGeneralWorkloadBus_bootId :
    (prepareGeneralWorkloadBus env m).2.processorBootId = m.processorBootId := by
  unfold prepareGeneralWorkloadBus disablePreparedRuntime
  simp only
  split_ifs
  · split <;> rfl
  · split <;> rfl

/-! ### Live rounds -/

theorem rearmExactStreams_frame : BusFrame b (rearmExactStreams env b).2 := by
  unfold rearmExactStreams
  split_ifs
  · exact .next b
  · exact (BusFrame.next b).trans (.next _)
  · exact (BusFrame.next b).trans ((BusFrame.next _).trans (.next _))

theorem RequestFrame.liveRound {b : Board} {m : Machine} (env : Env) (record : Message)
    (h : RequestFrame b m.board) : RequestFrame b (liveRound env record m).2.board := by
  have hrearm := h.trans (rearmExactStreams_frame env m.board).request
  unfold Rp86.liveRound
  split
  · next heq => rw [heq] at hrearm; exact hrearm
  · next b' heq =>
    rw [heq] at hrearm
    have hnext : RequestFrame b ((b'.putIntr true).next.putIntr false) :=
      ⟨hrearm.intrRequest, Nat.le_trans hrearm.reads (Nat.le_succ _)⟩
    simp only
    split <;> exact hnext

theorem selectCalculatorOpcode_machine :
    ∃ opcode entry, (selectCalculatorOpcode manager backing record m).2
      = { m with calculatorOpcode := opcode, calculatorEntryLinear := entry } := by
  unfold selectCalculatorOpcode
  simp only
  cases calculatorOperation record with
  | none | some operation => split_ifs <;> exact ⟨_, _, rfl⟩

/-- `run_live_round` selects the operation, and then it fails or makes the round. -/
theorem runLiveRound_cases :
    ∃ opcode entry, ∃ m₁ : Machine,
      m₁ = { m with calculatorOpcode := opcode, calculatorEntryLinear := entry } ∧
      (runLiveRound env manager backing record m = (false, m₁) ∨
        runLiveRound env manager backing record m = liveRound env record m₁) := by
  unfold runLiveRound
  simp only
  split_ifs
  · obtain ⟨opcode, entry, hselect⟩ := selectCalculatorOpcode_machine manager backing record
      { m with
        calculatorOpcode := calculatorOpcodeAdd
        calculatorEntryLinear := manager.manifest.loadAddress }
    split
    · next heq =>
      rw [heq] at hselect
      exact ⟨opcode, entry, _, hselect, Or.inl rfl⟩
    · next heq =>
      rw [heq] at hselect
      exact ⟨opcode, entry, _, hselect, Or.inr rfl⟩
  · exact ⟨_, _, _, rfl, Or.inr rfl⟩

/-- `INTR` is not left high where it was low, and is not requested; no read is taken back. -/
structure LineFrame (b b' : Board) : Prop where
  intr : b.intr = false → b'.intr = false
  request : RequestFrame b b'

theorem BusFrame.line {b b' : Board} (h : BusFrame b b') : LineFrame b b' :=
  ⟨h.intr.trans, h.request⟩

theorem LineFrame.refl : LineFrame b b := ⟨id, .refl b⟩

theorem LineFrame.trans {b₁ b₂ b₃ : Board} (h : LineFrame b₁ b₂) (h' : LineFrame b₂ b₃) :
    LineFrame b₁ b₃ :=
  ⟨h'.intr ∘ h.intr, h.request.trans h'.request⟩

theorem LineFrame.park : LineFrame m.board (parkPhysicalProcessor env m).board :=
  ⟨fun _ => (parkPhysicalProcessor_parked env m).intr, (RequestFrame.refl _).park env⟩

/-- What a record that starts nothing leaves alone of the machine. -/
structure MachineFrame (m m' : Machine) : Prop where
  line : LineFrame m.board m'.board
  processorBootId : m'.processorBootId = m.processorBootId
  available : m'.prepared.available = m.prepared.available

theorem MachineFrame.refl : MachineFrame m m := ⟨.refl _, rfl, rfl⟩

theorem MachineFrame.park : MachineFrame m (parkPhysicalProcessor env m) :=
  ⟨.park env m, rfl, rfl⟩

/-- A live round ends with `INTR` as low as it found it. -/
theorem MachineFrame.liveRound : MachineFrame m (liveRound env record m).2 := by
  have hrequest := (RequestFrame.refl m.board).liveRound env record
  have hrearm := rearmExactStreams_frame env m.board
  unfold Rp86.liveRound at hrequest ⊢
  split at hrequest
  · next heq =>
    rw [heq] at hrearm
    exact ⟨hrearm.line, rfl, rfl⟩
  · simp only at hrequest ⊢
    split at hrequest
    · exact ⟨⟨fun _ => rfl, hrequest⟩, rfl, rfl⟩
    · exact ⟨⟨fun _ => rfl, hrequest⟩, rfl, rfl⟩

theorem MachineFrame.runLiveRound :
    MachineFrame m (runLiveRound env manager backing record m).2 := by
  obtain ⟨opcode, entry, m₁, rfl, heq | heq⟩ := runLiveRound_cases env manager backing record m
  · rw [heq]
    exact ⟨.refl _, rfl, rfl⟩
  · rw [heq]
    obtain ⟨hline, hboot, havailable⟩ := MachineFrame.liveRound env record { m with
      calculatorOpcode := opcode
      calculatorEntryLinear := entry }
    exact ⟨hline, hboot, havailable⟩

theorem RequestFrame.runLiveRound {b : Board} {m : Machine} (env : Env)
    (manager : WorkloadManager) (backing : Backing) (record : Message)
    (h : RequestFrame b m.board) :
    RequestFrame b (runLiveRound env manager backing record m).2.board :=
  h.trans (MachineFrame.runLiveRound env manager backing record m).line.request

/-! ### Starting the calculator -/

theorem RequestFrame.setMode {b b' : Board} (env : Env) (mode : ExecutionClockMode)
    (h : RequestFrame b b') : RequestFrame b (executionClockSetMode env mode b').2 :=
  h.trans (executionClockSetMode_frame env mode b').request

theorem RequestFrame.calculatorResetClocks {b b' : Board} (env : Env) (h : RequestFrame b b') :
    RequestFrame b (calculatorResetClocks env b').2 := by
  unfold Rp86.calculatorResetClocks processorBusSetExecutionClockMode
  have h0 : RequestFrame b (if b'.clock.mode = .stopped then
      executionClockSetMode env .clockStepped b' else (true, b')).2 := by
    split_ifs
    · exact h.setMode env _
    · exact h
  generalize (if b'.clock.mode = .stopped then
    executionClockSetMode env .clockStepped b' else (true, b')) = r at h0 ⊢
  simp only at h0 ⊢
  split_ifs
  · exact h0
  · have h1 := h0.setMode env .freeRunning
    split
    · next heq => rw [heq] at h1; exact h1
    · next b₁ heq =>
      rw [heq] at h1
      have h2 := h1.trans (BusFrame.next b₁).request
      split_ifs
      · exact h2
      · exact h2.setMode env _

theorem startCalculatorWorkload_request :
    RequestFrame m.board (startCalculatorWorkload env manager backing m).2.board := by
  unfold startCalculatorWorkload processorBusSetExecutionClockMode
  simp only
  split_ifs
  · exact .refl _
  have h0 : RequestFrame m.board ((m.board.putIntr false).putReset true) := ⟨rfl, Nat.le_refl _⟩
  have h1 := h0.trans (rearmExactStreams_frame env _).request
  split
  · next heq => rw [heq] at h1; exact h1.park env
  next b₁ heq =>
  rw [heq] at h1
  have hroute : RequestFrame m.board (preparedRouteAdToResponder b₁) :=
    ⟨h1.intrRequest, h1.reads⟩
  have h2 := hroute.calculatorResetClocks env
  split
  · next heq => rw [heq] at h2; exact h2.park env
  next b₂ heq =>
  rw [heq] at h2
  have h3 := h2.setMode env .freeRunning
  split
  · next heq => rw [heq] at h3; exact h3.park env
  next b₃ heq =>
  rw [heq] at h3
  have hrelease : RequestFrame m.board (b₃.putReset false) := ⟨h3.intrRequest, h3.reads⟩
  split
  · next m' heq =>
    have h4 : RequestFrame m.board m'.board := by
      have hboard := congrArg (fun r => r.2.board) heq
      exact hboard ▸ RequestFrame.runLiveRound env manager backing proofRecord hrelease
    exact h4.park env
  · next m' heq =>
    have hboard := congrArg (fun r => r.2.board) heq
    exact hboard ▸ RequestFrame.runLiveRound env manager backing proofRecord hrelease

/-- A calculator that started had a recognised image. -/
theorem calculatorWorkloadValid_of_start {env : Env} {manager : WorkloadManager}
    {backing : Backing} {m : Machine}
    (h : (startCalculatorWorkload env manager backing m).1 = true) :
    calculatorWorkloadValid manager backing = true := by
  unfold startCalculatorWorkload at h
  split_ifs at h with hguard
  simpa using (Bool.or_eq_false_iff.mp (Bool.eq_false_iff.mpr hguard)).2

end Rp86
