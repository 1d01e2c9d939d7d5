import Rp86.Runtime.ExecutorIo

/-!
# What a port write does

`IoWritten` says once what `io_write` can do: take a byte of output, end an interrupt, arm the halt,
or nothing to the executor.
-/

namespace Rp86

/-- What `io_write` returns for a word on some lanes of a port. -/
inductive IoWritten (env : Env) (cycles : UInt32) (port : UInt16) (lanes : BusLanes)
    (value : UInt16) (s : IoState) (b : Board) : Bool × IoState × Board → Prop
  | diagnostic (hport : port = ioPortDiagnostic) :
      IoWritten env cycles port lanes value s b (true,
        { s with output := writeDiagnostic (laneValue lanes value).toUInt8 s.output }, b)
  | eoi (hport : port = ioPortPicCommand)
      (hvalue : laneValue lanes value &&& 0xFF = picCommandEoi) :
      IoWritten env cycles port lanes value s b (true,
        { s with tick := (tickEoi env cycles s.tick b).1 }, (tickEoi env cycles s.tick b).2)
  | idlePrepare (hport : port = ioPortControl)
      (hvalue : laneValue lanes value = controlIdlePrepare) :
      IoWritten env cycles port lanes value s b (true,
        { s with tick := (tickIdlePrepare s.tick b).1, idleArmed := true },
        (tickIdlePrepare s.tick b).2)
  | other (completed : Bool) (hdiagnostic : port ≠ ioPortDiagnostic)
      (heoi : ¬ (port = ioPortPicCommand ∧ laneValue lanes value &&& 0xFF = picCommandEoi))
      (hidle : ¬ (port = ioPortControl ∧ laneValue lanes value = controlIdlePrepare)) :
      IoWritten env cycles port lanes value s b (completed, s, b)

/-- **Every port write is one of these.** -/
theorem ioWrite_written (clockMode : WorkloadClockMode) (env : Env) (stats : ClockSteppedStats)
    (port : UInt16) (lanes : BusLanes) (value : UInt16) (s : IoState) (b : Board) :
    IoWritten env stats.cycles port lanes value s b
      (ioWrite clockMode env stats port lanes value s b) := by
  -- a port that is neither of the three
  have hother : ∀ {p : UInt16} (completed : Bool), port = p → p ≠ ioPortDiagnostic →
      p ≠ ioPortPicCommand → p ≠ ioPortControl →
      IoWritten env stats.cycles port lanes value s b (completed, s, b) := by
    rintro p completed rfl hdiagnostic heoi hidle
    exact .other completed hdiagnostic (fun h => heoi h.1) fun h => hidle h.1
  unfold ioWrite
  simp only
  split_ifs with hdiagnostic hresult hfree hstepped heoi hidle
  · exact .diagnostic hdiagnostic
  · exact hother _ hresult (by decide) (by decide) (by decide)
  · exact hother _ hfree.1 (by decide) (by decide) (by decide)
  · exact hother _ hstepped.1 (by decide) (by decide) (by decide)
  · exact .eoi heoi.1 heoi.2
  · exact .idlePrepare hidle.1 hidle.2
  · exact .other _ hdiagnostic heoi hidle

end Rp86
