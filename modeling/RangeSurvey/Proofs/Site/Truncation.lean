import RangeSurvey.Proofs.Site.Starts

/-!
# What the deadlines of a slot lose

A deadline is never later than it should be. As long as the slot starts within the first range of
the mask, the active deadline is less than a step early, and the passive deadline is a whole preamble
before the start and before the active one. A slot that starts later than that loses a multiple of
the range.
-/

namespace RangeSurvey

namespace Deadline

theorem preambleLength_lt (preamble : UInt32) : preambleLength preamble < maskRange := by
  have word := preamble.toNat_lt
  simp only [preambleLength, maskRange]
  omega

/-- The active deadline lacks the lowest nine bits of the start, and those from bit 48 on. -/
theorem active_lacks (start : UInt64) : (active start).toNat + start.toNat % resolution +
    start.toNat / maskRange * maskRange = start.toNat := by
  rw [toNat_active]
  simp only [maskRange, resolution]
  omega

theorem early_lt_iff (start : UInt64) :
    start.toNat - (active start).toNat < resolution ↔ start.toNat < maskRange := by
  have lacks := active_lacks start
  simp only [maskRange, resolution] at lacks ⊢
  omega

/-- The passive deadline is a preamble before the start, or at time zero. -/
theorem passive_le (start : UInt64) (preamble : UInt32) :
    (passive start preamble).toNat ≤ start.toNat - preambleLength preamble := by
  rw [toNat_passive]
  simp only [maskRange, resolution]
  omega

/-- The passive deadline is the earlier one unless a multiple of the range lies between the two. -/
theorem passive_lt_active_iff {start : UInt64} {preamble : UInt32} (some : 0 < preamble)
    (room : preambleLength preamble ≤ start.toNat) :
    (passive start preamble).toNat < (active start).toNat ↔
      preambleLength preamble ≤ start.toNat % maskRange := by
  have short := preambleLength_lt preamble
  have positive : 0 < preambleLength preamble :=
    Nat.mul_pos (UInt32.lt_iff_toNat_lt.mp some) (by decide)
  obtain ⟨steps, length⟩ := resolution_dvd preamble
  rw [toNat_passive, toNat_active]
  rw [length] at room short positive ⊢
  simp only [maskRange, resolution] at room short positive ⊢
  omega

/-- The active deadline lacks nothing but the lowest bits of the start, and the passive one is before
it and a preamble before the start, if there has been so much time. -/
structure Faithful (start : UInt64) (preamble : UInt32) : Prop where
  active_le : (active start).toNat ≤ start.toNat
  active_near : start.toNat - (active start).toNat < 512
  passive_lt : preambleLength preamble ≤ start.toNat →
    (passive start preamble).toNat < (active start).toNat
  passive_le : preambleLength preamble ≤ start.toNat →
    (passive start preamble).toNat ≤ start.toNat - preambleLength preamble

/-- How far the deadlines of a slot are from its start, whenever this is. -/
structure Truncates (start : UInt64) (preamble : UInt32) : Prop where
  faithful_iff : Faithful start preamble ↔ start.toNat < 2 ^ 48
  active_le : (active start).toNat ≤ start.toNat
  lacks : start.toNat - (active start).toNat =
    start.toNat % 512 + start.toNat / 2 ^ 48 * 2 ^ 48
  passive_le : (passive start preamble).toNat ≤ start.toNat - preambleLength preamble
  passive_lt_iff : preambleLength preamble ≤ start.toNat →
    ((passive start preamble).toNat < (active start).toNat ↔
      preambleLength preamble ≤ start.toNat % 2 ^ 48)

theorem truncates (start : UInt64) {preamble : UInt32} (some : 0 < preamble) :
    Truncates start preamble := by
  have lacks := active_lacks start
  have active_le : (active start).toNat ≤ start.toNat := by omega
  refine ⟨⟨?_, ?_⟩, active_le, ?_, passive_le start preamble, passive_lt_active_iff some⟩
  · intro faithful
    exact (early_lt_iff start).mp faithful.active_near
  · intro (inside : start.toNat < maskRange)
    refine ⟨active_le, (early_lt_iff start).mpr inside, fun room => ?_,
      fun _ => passive_le start preamble⟩
    rw [passive_lt_active_iff some room, Nat.mod_eq_of_lt inside]
    exact room
  · simp only [maskRange, resolution] at lacks
    omega

end Deadline

namespace Site

/-- The deadlines of a slot are faithful to its start exactly if it starts within the first range of
the mask. A station that is told of the slot has its unit start at no other time. -/
theorem deadlines_truncate (slot : Slot) (clock : Clock) {preamble : UInt32}
    (some : 0 < preamble) :
    Deadline.Truncates (slot.start clock) preamble ∧
    ∀ {H : Type} [Hardware H] (site : Site H) (k : Nat) (job : SlotJob) (id : Nat) (s : Station)
      (actions : List (Action H)), site.ToldOf k job id s → job.slot = slot →
      job.clock = clock → Hardware.preamble site.hardware s.unit = preamble →
      ∀ t ∈ site.starts k (.poll k :: actions),
        t = if hasTurn slot.round s.nodeCount s.slot then Deadline.active (slot.start clock)
          else Deadline.passive (slot.start clock) preamble := by
  refine ⟨Deadline.truncates (slot.start clock) some, ?_⟩
  rintro H _ site k job id s actions told rfl rfl rfl t ht
  exact told.starts_eq actions t ht

def midRound : SlotJob :=
  { device := 0, kind := .broadcast, slot := ⟨0, 1, 1000, 3, 0x123456789AB⟩ }

def toReceive : List (Action Bench) :=
  [.enrol ⟨0, 2, ⟨0x101, 1, 12⟩, {}, 0⟩, .start 0 (.slot midRound)]

/-- The unit starts 256 units of the clock more than a preamble before the slot. -/
theorem deadlines_truncate_midRound :
    let site := ({ hardware := {} } : Site Bench).performAll toReceive
    let start := midRound.slot.start midRound.clock
    (0 : UInt32) < 130 ∧ site.starts 0 [.poll 0] = [Deadline.passive start 130] ∧
      start.toNat = (Deadline.passive start 130).toNat + 130 * 65536 + 256 ∧
      Deadline.Faithful start 130 := by
  intro site start
  have started : site.starts 0 [.poll 0] = [0x1234632DE00] := by decide +kernel
  have known : (site.stations[0]?).map (fun s => (s.nodeCount, s.slot, s.unit)) =
      some (2, 1, 0) := by decide +kernel
  obtain ⟨s, hs, fields⟩ := Option.map_eq_some_iff.mp known
  simp only [Prod.mk.injEq] at fields
  obtain ⟨nodes, slot, unit⟩ := fields
  have told : site.ToldOf 0 midRound 0 s := ⟨nodup_pending _ _, rfl, by decide +kernel, hs⟩
  obtain ⟨truncates, only⟩ :=
    deadlines_truncate midRound.slot midRound.clock (show (0 : UInt32) < 130 by decide)
  have passive := only site 0 midRound 0 s [] told rfl rfl (by rw [unit]; decide +kernel)
    0x1234632DE00 (by simp [started])
  rw [nodes, slot, if_neg (by decide)] at passive
  exact ⟨by decide, started.trans (congrArg (fun t => [t]) passive), by decide +kernel,
    truncates.faithful_iff.mpr (by decide +kernel)⟩

/-- A slot that starts when one range of the mask is over has its active deadline at time zero. -/
theorem deadline_wraps :
    let start := (⟨0, 0, 1000, 2, 0x1000000000000⟩ : Slot).start .exact
    start.toNat = 2 ^ 48 ∧ (Deadline.active start).toNat = 0 ∧
      ¬ (Deadline.passive start 130).toNat < (Deadline.active start).toNat ∧
      ¬ Deadline.Faithful start 130 := by
  intro start
  have late : ¬ start.toNat - (Deadline.active start).toNat < 512 := by decide
  exact ⟨by decide, by decide, by decide, fun faithful => late faithful.active_near⟩

end Site

end RangeSurvey
