import Rp86.Bus.Equiv.Frame
import Rp86.Runtime.Tick

/-!
# The tick ledger

`TickLedger`: every generated tick is pending, delivered or coalesced, every delivered one is
acknowledged or between its two acknowledge cycles, and every acknowledged one is ended or in
service, modulo `2 ^ 32`.  The counts only add up together with the exclusions between a pending
request, an acknowledge in progress and an interrupt in service, so all of them are one invariant.
-/

namespace Rp86

/-- One if the condition holds. -/
def flagCount (p : Bool) : UInt32 := if p then 1 else 0

/-- What holds of the tick state while the tick is enabled. -/
structure TickLedger (t : TickState) : Prop where
  pending_of_intr : t.intrAsserted = true → t.pending = true
  phase_of_intr : t.intrAsserted = true → t.ackPhase = 0
  service_of_intr : t.intrAsserted = true → t.inService = false
  phase : t.ackPhase = 0 ∨ t.ackPhase = 1
  pending_of_phase : t.ackPhase = 1 → t.pending = false
  pending_of_service : t.inService = true → t.pending = false
  service_of_phase : t.ackPhase = 1 → t.inService = false
  generated : t.generated = t.delivered + t.coalesced + flagCount t.pending
  delivered : t.delivered = t.acknowledged + flagCount (t.ackPhase = 1)
  acknowledged : t.acknowledged = t.eoi + flagCount t.inService

/-- The ledger and the interrupt line, while the tick is enabled. -/
def TickOk (t : TickState) (b : Board) : Prop :=
  t.enabled = true → TickLedger t ∧ b.intrRequest = t.intrAsserted

variable {t : TickState} {b : Board}

theorem TickOk.of_disabled (h : t.enabled = false) : TickOk t b :=
  fun hc => absurd hc (Bool.eq_false_iff.mp h)

theorem TickOk.request {b' : Board} (h : TickOk t b) (hframe : RequestFrame b b') : TickOk t b' :=
  fun hen => ⟨(h hen).1, hframe.intrRequest.trans (h hen).2⟩

theorem tickLedger_fresh (enabled : Bool) (nextUs : UInt64) :
    TickLedger { TickState.fresh enabled with nextUs := nextUs } := by
  constructor <;> simp [TickState.fresh, flagCount]

/-! ### Counting periods -/

/-- All but one of the periods that have passed are coalesced. -/
theorem coalesced_elapsed (x : UInt64) (c : UInt32) :
    (if 1 + x / periodicTickUs > 1 then c + (1 + x / periodicTickUs - 1).toUInt32 else c) + 1
      = c + (1 + x / periodicTickUs).toUInt32 := by
  have hq : (x / periodicTickUs).toNat = x.toNat / 10000 := UInt64.toNat_div ..
  have hx := x.toNat_lt
  have hone : (1 : UInt64).toNat = 1 := rfl
  split_ifs with h
  · have hcast : UInt64.toUInt32 1 = 1 := rfl
    rw [UInt64.toUInt32_sub, hcast]
    grind
  · -- no period beside the first one
    have hzero : x / periodicTickUs = 0 := by
      rw [gt_iff_lt, UInt64.lt_iff_toNat_lt, UInt64.toNat_add, hq] at h
      rw [← UInt64.toNat_inj, hq, UInt64.toNat_zero]
      omega
    rw [hzero]
    rfl

theorem TickLedger.generate (h : TickLedger t) (now : UInt64) :
    TickLedger (generateTicks now t) := by
  have hgen := h.generated
  unfold generateTicks
  split_ifs with hlt
  · exact h
  · simp only
    -- the inner condition of the second branch stays for `coalesced_elapsed`
    by_cases hbusy : t.ackPhase ≠ 0 ∨ t.inService = true
    · rw [if_pos hbusy]
      have hidle : t.pending = false := by
        rcases hbusy with hphase | hservice
        · exact h.pending_of_phase (h.phase.resolve_left hphase)
        · exact h.pending_of_service hservice
      exact { h with generated := by simp only [hgen, hidle]; grind }
    · rw [if_neg hbusy]
      simp only [not_or, ne_eq, Decidable.not_not, Bool.not_eq_true] at hbusy
      by_cases hheld : t.pending = true
      · rw [if_neg (by simpa using hheld)]
        exact { h with generated := by simp only [hgen, hheld]; grind }
      · have hidle : t.pending = false := by simpa using hheld
        have hsum := coalesced_elapsed (now - t.nextUs) t.coalesced
        rw [if_pos (by simpa using hidle)]
        exact { h with
          pending_of_intr := fun _ => rfl
          pending_of_phase := fun hc => absurd (hbusy.1.symm.trans hc) (by decide)
          pending_of_service := fun hc => absurd (hbusy.2.symm.trans hc) (by decide)
          generated := by
            simp only [hgen, hidle, flagCount] at hsum ⊢
            grind }

/-- The fields that the update of the tick leaves alone. -/
structure TickState.SameFence (t t' : TickState) : Prop where
  enabled : t'.enabled = t.enabled
  inService : t'.inService = t.inService
  ackPhase : t'.ackPhase = t.ackPhase
  deliveryNotBeforeUs : t'.deliveryNotBeforeUs = t.deliveryNotBeforeUs
  deliveryNotBeforeCycle : t'.deliveryNotBeforeCycle = t.deliveryNotBeforeCycle

theorem generateTicks_sameFence (now : UInt64) (t : TickState) :
    t.SameFence (generateTicks now t) := by
  unfold generateTicks
  split_ifs
  · exact ⟨rfl, rfl, rfl, rfl, rfl⟩
  · simp only
    split_ifs <;> exact ⟨rfl, rfl, rfl, rfl, rfl⟩

theorem generateTicks_intrAsserted (now : UInt64) (t : TickState) :
    (generateTicks now t).intrAsserted = t.intrAsserted := by
  unfold generateTicks
  split_ifs
  · rfl
  · simp only
    split_ifs <;> rfl

theorem updatePeriodicTick_sameFence (env : Env) (idleArmed : Bool) (cycles : UInt32)
    (t : TickState) (b : Board) :
    t.SameFence (updatePeriodicTick env idleArmed cycles t b).1 := by
  have h := generateTicks_sameFence (env.timeUs b.reads) t
  unfold updatePeriodicTick timeUs64 deliverTick
  simp only
  split_ifs
  · exact ⟨rfl, rfl, rfl, rfl, rfl⟩
  · exact ⟨h.enabled, h.inService, h.ackPhase, h.deliveryNotBeforeUs, h.deliveryNotBeforeCycle⟩
  · exact h

/-! ### The handlers -/

theorem TickOk.deliver (h : TickOk t b) (now : UInt64) (cycles : UInt32) :
    TickOk (deliverTick now cycles t b).1 (deliverTick now cycles t b).2 := by
  unfold deliverTick
  split_ifs with hdue
  · intro hen
    obtain ⟨hpending, -, hphase, hservice, -⟩ := hdue
    exact ⟨{ (h hen).1 with
      pending_of_intr := fun _ => hpending
      phase_of_intr := fun _ => hphase
      service_of_intr := fun _ => by simpa using hservice }, rfl⟩
  · exact h

theorem TickOk.update (h : TickOk t b) (env : Env) (idleArmed : Bool) (cycles : UInt32) :
    TickOk (updatePeriodicTick env idleArmed cycles t b).1
      (updatePeriodicTick env idleArmed cycles t b).2 := by
  unfold updatePeriodicTick
  split_ifs
  · exact h
  · refine TickOk.deliver (fun hen => ?_) _ _
    rw [(generateTicks_sameFence _ t).enabled] at hen
    rw [generateTicks_intrAsserted]
    exact ⟨(h hen).1.generate _, (h hen).2⟩

theorem TickOk.interruptAck (h : TickOk t b) :
    TickOk (tickInterruptAck t b).2.1 (tickInterruptAck t b).2.2 := by
  unfold tickInterruptAck
  split_ifs with hdis hphase hintr hphase'
  · exact h
  · exact h
  · -- the pending request becomes the delivered one
    intro hen
    obtain ⟨hl, -⟩ := h hen
    have hasserted : t.intrAsserted = true := by simpa using hintr
    have hpending := hl.pending_of_intr hasserted
    have hservice := hl.service_of_intr hasserted
    have hgen := hl.generated
    have hdel := hl.delivered
    refine ⟨{ hl with
      pending_of_intr := fun hc => absurd hc (by simp)
      phase_of_intr := fun hc => absurd hc (by simp)
      service_of_intr := fun hc => absurd hc (by simp)
      phase := Or.inr rfl
      pending_of_phase := fun _ => rfl
      pending_of_service := fun _ => rfl
      service_of_phase := fun _ => hservice
      generated := ?_
      delivered := ?_ }, rfl⟩
    · simp only [hgen, hpending, flagCount]
      grind
    · simp only [hdel, hphase, flagCount]
      grind
  · -- the delivered request is now in service
    intro hen
    obtain ⟨hl, hline⟩ := h hen
    have hpending := hl.pending_of_phase hphase'
    have hservice := hl.service_of_phase hphase'
    have hdel := hl.delivered
    have hack := hl.acknowledged
    have hlow : t.intrAsserted = false := by
      by_contra hc
      exact hphase (hl.phase_of_intr (by simpa using hc))
    refine ⟨{ hl with
      phase_of_intr := fun _ => rfl
      service_of_intr := fun hc => absurd (hlow.symm.trans hc) (by simp)
      phase := Or.inl rfl
      pending_of_phase := fun _ => hpending
      pending_of_service := fun _ => hpending
      service_of_phase := fun hc => absurd hc (by simp)
      delivered := ?_
      acknowledged := ?_ }, hline⟩
    · simp only [hdel, hphase', flagCount]
      grind
    · simp only [hack, hservice, flagCount]
      grind
  · exact h

theorem TickOk.retract (h : TickOk t b) : TickOk (retractTick t b).1 (retractTick t b).2 := by
  unfold retractTick
  split_ifs
  · intro hen
    exact ⟨{ (h hen).1 with
      pending_of_intr := fun hc => absurd hc (by simp)
      phase_of_intr := fun hc => absurd hc (by simp)
      service_of_intr := fun hc => absurd hc (by simp) }, rfl⟩
  · exact h

theorem TickOk.closeService (h : TickOk t b) (env : Env) :
    TickOk (closeService env t b).1 (closeService env t b).2 := by
  unfold Rp86.closeService
  split_ifs with hservice
  · intro hen
    obtain ⟨hl, hline⟩ := h hen
    have hpending := hl.pending_of_service hservice
    have hack := hl.acknowledged
    refine ⟨{ hl with
      service_of_intr := fun _ => rfl
      pending_of_service := fun _ => hpending
      service_of_phase := fun _ => rfl
      acknowledged := ?_ }, hline⟩
    simp only [hack, hservice, flagCount]
    grind
  · exact h

theorem TickOk.eoi (h : TickOk t b) (env : Env) (cycles : UInt32) :
    TickOk (tickEoi env cycles t b).1 (tickEoi env cycles t b).2 := by
  unfold tickEoi
  split_ifs
  · intro hen
    obtain ⟨hl, hline⟩ := h.retract.closeService env hen
    exact ⟨{ hl with }, hline⟩
  · exact h

theorem TickOk.idlePrepare : TickOk (tickIdlePrepare t b).1 (tickIdlePrepare t b).2 := by
  unfold tickIdlePrepare
  split_ifs with hen
  · exact .of_disabled rfl
  · exact .of_disabled (by simpa using hen)

end Rp86
