import Mathlib.Data.Nat.Bitwise
import RangeSurvey.Slot

/-!
# Deadlines under the mask

A deadline is a time of which bits 9 to 47 are left: it is taken modulo the range of the mask and
rounded down to a step. A preamble is a whole number of these steps, so that exactly one preamble
lies between the two deadlines of a slot modulo this range, unless the slot starts less than a
preamble after time zero.
-/

namespace RangeSurvey.Deadline

/-- Times that differ by a multiple of this are the same under the mask. -/
def maskRange : Nat := 2 ^ 48

/-- The steps in which a delayed start can be set. -/
def resolution : Nat := 512

/-- How far one time is ahead of another one, modulo the range of the mask. -/
def ahead (early late : UInt64) : Nat := (late - early).toNat % maskRange

def preambleLength (preamble : UInt32) : Nat := preamble.toNat * 65536

structure Resolved (t : UInt64) : Prop where
  inside : t.toNat < maskRange
  step : resolution ∣ t.toNat

/-- The mask keeps bits 9 to 47. -/
theorem testBit_mask (i : Nat) : mask.toNat.testBit i = decide (9 ≤ i ∧ i < 48) := by
  have bits : mask.toNat = (2 ^ 39 - 1) <<< 9 := by decide
  rw [bits, Nat.testBit_shiftLeft, Nat.testBit_two_pow_sub_one, ← Bool.decide_and]
  apply decide_eq_decide.mpr
  omega

theorem toNat_and_mask (t : UInt64) :
    (t &&& mask).toNat = t.toNat % maskRange / resolution * resolution := by
  apply Nat.eq_of_testBit_eq
  intro i
  have steps : t.toNat % maskRange / resolution * resolution =
      ((t.toNat % 2 ^ 48) >>> 9) <<< 9 := by
    rw [Nat.shiftLeft_eq, Nat.shiftRight_eq_div_pow]
    rfl
  rw [steps, UInt64.toNat_and, Nat.testBit_and, testBit_mask, Nat.testBit_shiftLeft,
    Nat.testBit_shiftRight, Nat.testBit_mod_two_pow]
  rcases Nat.lt_or_ge i 9 with low | high
  · simp [Nat.not_le_of_lt low]
  · rw [Nat.add_sub_cancel' high]
    simp [high, Bool.and_comm]

theorem resolved_and_mask (t : UInt64) : Resolved (t &&& mask) := by
  have le : t.toNat % maskRange / resolution * resolution ≤ t.toNat % maskRange :=
    Nat.div_mul_le_self _ _
  constructor
  case inside =>
    rw [toNat_and_mask]
    exact Nat.lt_of_le_of_lt le (Nat.mod_lt _ (by decide))
  case step =>
    rw [toNat_and_mask]
    exact Nat.dvd_mul_left _ _

theorem toNat_active (start : UInt64) :
    (active start).toNat = start.toNat % maskRange / resolution * resolution :=
  toNat_and_mask start

theorem toNat_passive (start : UInt64) (preamble : UInt32) : (passive start preamble).toNat =
    (start.toNat - preambleLength preamble) % maskRange / resolution * resolution := by
  have fits : start.toNat - preambleLength preamble < UInt64.size :=
    Nat.lt_of_le_of_lt (Nat.sub_le _ _) start.toNat_lt
  rw [passive, toNat_and_mask, ← preambleLength, UInt64.toNat_ofNat_of_lt' fits]

/-- A preamble is a whole number of steps. -/
theorem resolution_dvd (preamble : UInt32) : resolution ∣ preambleLength preamble :=
  Nat.dvd_mul_left_of_dvd (by decide : resolution ∣ 65536) _

theorem ahead_passive (start : UInt64) (preamble : UInt32)
    (room : preambleLength preamble ≤ start.toNat) :
    ahead (passive start preamble) (active start) = preambleLength preamble % maskRange := by
  have early := toNat_passive start preamble
  have late := toNat_active start
  obtain ⟨steps, length⟩ := resolution_dvd preamble
  rw [ahead, UInt64.toNat_sub, early, late, length]
  rw [length] at room
  simp only [maskRange, resolution] at room ⊢
  omega

theorem passive_of_early (start : UInt64) (preamble : UInt32)
    (early : start.toNat < preambleLength preamble) : passive start preamble = 0 := by
  apply UInt64.toNat_inj.mp
  rw [toNat_passive, Nat.sub_eq_zero_of_le early.le]
  rfl

/-- The two deadlines of a slot: its start under the mask, and a preamble before that or, if there has
not been so much time, time zero. -/
structure Spaced (start : UInt64) (preamble : UInt32) : Prop where
  active_eq : (active start).toNat = start.toNat % 2 ^ 48 / 512 * 512
  active : Resolved (active start)
  passive : Resolved (passive start preamble)
  ahead : preambleLength preamble ≤ start.toNat →
    ahead (Deadline.passive start preamble) (Deadline.active start) =
      preambleLength preamble % 2 ^ 48
  early : start.toNat < preambleLength preamble → Deadline.passive start preamble = 0

theorem spaced (start : UInt64) (preamble : UInt32) : Spaced start preamble where
  active_eq := toNat_active start
  active := resolved_and_mask _
  passive := resolved_and_mask _
  ahead := ahead_passive start preamble
  early := passive_of_early start preamble

end RangeSurvey.Deadline
