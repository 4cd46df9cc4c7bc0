import Mathlib.Algebra.Order.Floor.Div
import RangeSurvey.Slot

/-!
# When slots start

The offset of a slot in its round is a quotient of whole numbers that neither stops at the ceiling
nor wraps, so that the start of a slot is exact up to the wrap of the clock. Without skew the slots
of a round share it out: the first one starts with the round, each of them has the quotient of round
and number of slots, rounded down or up, and the last one ends with the round.
-/

namespace RangeSurvey.Slot

def roundLength (s : Slot) : Nat := s.period.toNat * 65536

def placed (s : Slot) (position : UInt16) : Slot := { s with position }

/-- How long after its round a slot starts on a clock without skew. -/
def lag (s : Slot) : Nat := (s.start .exact - s.epoch).toNat

/-! ## Offsets -/

section Offset

variable (s : Slot)

/-- Period, unit and position have 32, 16 and 16 bits, and their product is below the ceiling. -/
theorem product_lt_ceiling : s.roundLength * s.position.toNat < ceiling := by
  have period : s.period.toNat ≤ 2 ^ 32 - 1 := Nat.le_sub_one_of_lt s.period.toNat_lt
  have position : s.position.toNat ≤ 2 ^ 16 - 1 := Nat.le_sub_one_of_lt s.position.toNat_lt
  calc s.roundLength * s.position.toNat
      ≤ (2 ^ 32 - 1) * 65536 * (2 ^ 16 - 1) :=
        Nat.mul_le_mul (Nat.mul_le_mul_right _ period) position
    _ < ceiling := by decide

theorem offset_eq : s.offset = s.roundLength * s.position.toNat / s.total.toNat := by
  rw [offset, ← roundLength, Nat.min_eq_right s.product_lt_ceiling.le]

theorem toNat_offset : (UInt64.ofNat s.offset).toNat = s.offset := by
  apply UInt64.toNat_ofNat_of_lt'
  calc s.offset
      = s.roundLength * s.position.toNat / s.total.toNat := s.offset_eq
    _ ≤ s.roundLength * s.position.toNat := Nat.div_le_self _ _
    _ < ceiling := s.product_lt_ceiling
    _ < UInt64.size := by decide

theorem lag_eq : s.lag = s.roundLength * s.position.toNat / s.total.toNat := by
  have behind : s.start .exact - s.epoch = UInt64.ofNat s.offset := by
    rw [start, UInt64.add_comm, UInt64.add_sub_cancel]
    rfl
  rw [lag, behind, toNat_offset, offset_eq]

theorem lag_placed (position : UInt16) :
    (s.placed position).lag = s.roundLength * position.toNat / s.total.toNat :=
  (s.placed position).lag_eq

end Offset

/-! ## Shares -/

theorem ceilDiv_of_uneven {a t : Nat} (some : 0 < t) (uneven : a % t ≠ 0) :
    a ⌈/⌉ t = a / t + 1 := by
  have rest : a % t + (t - 1) = (a % t - 1) + t := by omega
  have small : a % t - 1 < t := by
    have := Nat.mod_lt a some
    omega
  calc a ⌈/⌉ t
      = (t * (a / t) + (a % t + (t - 1))) / t := by
        rw [Nat.ceilDiv_eq_add_pred_div, ← Nat.add_assoc, Nat.div_add_mod, Nat.add_sub_assoc some]
    _ = a / t + (a % t - 1 + t) / t := by rw [Nat.mul_add_div some, rest]
    _ = a / t + 1 := by rw [Nat.add_div_right _ some, Nat.div_eq_of_lt small]

/-- From one multiple of `a` to the next the quotient grows by that of `a`, rounded down or up. -/
theorem mul_succ_div (a p : Nat) {t : Nat} (some : 0 < t) :
    a * (p + 1) / t = a * p / t + a / t ∨ a * (p + 1) / t = a * p / t + a ⌈/⌉ t := by
  rw [Nat.mul_succ, Nat.add_div some]
  split
  · next carried =>
    -- the remainder before is too small to be carried over without one of `a`
    have uneven : a % t ≠ 0 := by
      have := Nat.mod_lt (a * p) some
      omega
    right
    rw [ceilDiv_of_uneven some uneven, Nat.add_assoc]
  · exact Or.inl rfl

/-- Without skew the slots of a round share it out, none of them by more than one unit longer than
another. -/
structure EvenlySpaced (s : Slot) : Prop where
  first : (s.placed 0).lag = 0
  mono : ∀ p q : UInt16, p ≤ q → (s.placed p).lag ≤ (s.placed q).lag
  inside : 0 < s.period → ∀ p : UInt16, p < s.total → (s.placed p).lag < s.roundLength
  step : ∀ p q : UInt16, q.toNat = p.toNat + 1 →
    (s.placed q).lag = (s.placed p).lag + s.roundLength / s.total.toNat ∨
      (s.placed q).lag = (s.placed p).lag + s.roundLength ⌈/⌉ s.total.toNat
  last : (s.placed s.total).lag = s.roundLength

theorem evenlySpaced (s : Slot) (some : 0 < s.total.toNat) : s.EvenlySpaced := by
  constructor
  case first =>
    rw [lag_placed]
    exact Nat.zero_div _
  case mono =>
    intro p q le
    rw [lag_placed, lag_placed]
    exact Nat.div_le_div_right (Nat.mul_le_mul_left _ (UInt16.le_iff_toNat_le.mp le))
  case inside =>
    intro positive p before
    have length : 0 < s.roundLength :=
      Nat.mul_pos (UInt32.lt_iff_toNat_lt.mp positive) (by decide)
    rw [lag_placed]
    apply Nat.div_lt_of_lt_mul
    rw [Nat.mul_comm s.total.toNat]
    exact Nat.mul_lt_mul_of_pos_left (UInt16.lt_iff_toNat_lt.mp before) length
  case step =>
    intro p q next
    rw [lag_placed, lag_placed, next]
    exact mul_succ_div _ _ some
  case last =>
    rw [lag_placed]
    exact Nat.mul_div_cancel _ some

/-- A slot starts after its round by what the local clock makes of its offset: the product of the
length of the round and its place, which is never cut off, over the number of slots, rounded down,
or nothing in a round without slots. Without skew the slots of a round share it out evenly. -/
theorem start_exact (s : Slot) (clock : Clock) :
    s.roundLength * s.position.toNat < ceiling ∧
    (∃ offset : UInt64,
      offset.toNat = (if s.total = 0 then 0
        else s.roundLength * s.position.toNat / s.total.toNat) ∧
      (s.start clock).toNat = (s.epoch.toNat + (clock.adjust offset).toNat) % 2 ^ 64) ∧
    (0 < s.total → s.EvenlySpaced) := by
  refine ⟨s.product_lt_ceiling, ⟨UInt64.ofNat s.offset, ?_, UInt64.toNat_add _ _⟩, ?_⟩
  · rw [toNat_offset, offset_eq]
    split
    · next none => rw [none, UInt16.toNat_zero, Nat.div_zero]
    · rfl
  · intro some
    exact s.evenlySpaced (UInt16.lt_iff_toNat_lt.mp some)

/-- The last of three slots in a round of 1001 microseconds that starts just before the clock wraps,
on a clock that runs at twice the speed. The round does not divide evenly: without skew its last
slot is one unit longer than the first. -/
theorem start_exact_wrapping :
    let s : Slot := ⟨0, 2, 1001, 3, 0xFFFFFFFFFFFFFFFF⟩
    0 < s.total ∧ (s.start (.scaled 2 1)).toNat = 87468713 ∧
      (s.placed 0).lag = 0 ∧ (s.placed 1).lag = 21867178 ∧
      (s.placed 2).lag = 43734357 ∧ (s.placed 3).lag = 65601536 := by
  intro s
  obtain ⟨-, ⟨offset, share, starts⟩, spaced⟩ := start_exact s (.scaled 2 1)
  have slots : 0 < s.total := by decide
  have even := spaced slots
  have third : offset = 43734357 := UInt64.toNat_inj.mp (share.trans (by decide))
  refine ⟨slots, ?_, even.first, by decide +kernel, by decide +kernel, ?_⟩
  · rw [starts, third]
    decide +kernel
  · rw [even.last]
    decide +kernel

end RangeSurvey.Slot
