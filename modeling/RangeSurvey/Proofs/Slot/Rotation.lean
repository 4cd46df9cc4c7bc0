import Mathlib.Data.List.Nodup
import Mathlib.Data.Nat.ModEq
import RangeSurvey.Slot

/-!
# Whose turn it is

The round counter of the network has 32 bits and goes on at zero. In as many consecutive rounds as
there are stations every slot has its turn exactly once if the counter does not wrap in between, or
if the number of stations divides the number of its values. Otherwise the rotation jumps where the
counter wraps: some slot has two turns, and another one has none.
-/

namespace RangeSurvey.Rotation

def values : Nat := 2 ^ 32

def rounds (start : UInt32) (n : Nat) : List UInt32 :=
  (List.range n).map fun k => start + UInt32.ofNat k

/-- How often slot `slot` of `n` has its turn in `n` consecutive rounds. -/
def turns (start : UInt32) (n slot : Nat) : Nat :=
  (rounds start n).countP fun round => hasTurn round n slot

/-! ## Remainders of consecutive numbers -/

section Remainders

variable {s n slot : Nat}

/-- No two of `n` consecutive numbers leave the same remainder. -/
theorem remainder_inj {i j : Nat} (hi : i < n) (hj : j < n) (same : (s + i) % n = (s + j) % n) :
    i = j := by
  have congruent : Nat.ModEq n i j := Nat.ModEq.add_left_cancel' s same
  rwa [Nat.ModEq, Nat.mod_eq_of_lt hi, Nat.mod_eq_of_lt hj] at congruent

/-- One of `n` consecutive numbers leaves a given remainder. -/
theorem exists_remainder (s : Nat) (inside : slot < n) : ∃ k < n, (s + k) % n = slot := by
  have positive : 0 < n := Nat.zero_lt_of_lt inside
  have below := Nat.mod_lt s positive
  have whole : s + (slot + n - s % n) = n * (s / n + 1) + slot := by
    have := Nat.div_add_mod s n
    rw [Nat.mul_add]
    omega
  refine ⟨(slot + n - s % n) % n, Nat.mod_lt _ positive, ?_⟩
  rw [Nat.add_mod_mod, whole, Nat.mul_add_mod, Nat.mod_eq_of_lt inside]

theorem countP_remainder (s : Nat) (inside : slot < n) :
    (List.range n).countP (fun k => (s + k) % n == slot) = 1 := by
  have nodup : ((List.range n).map fun k => (s + k) % n).Nodup := by
    refine List.Nodup.map_on ?_ List.nodup_range
    intro i hi j hj same
    exact remainder_inj (List.mem_range.mp hi) (List.mem_range.mp hj) same
  obtain ⟨k, hk, here⟩ := exists_remainder s inside
  have member : slot ∈ (List.range n).map fun k => (s + k) % n :=
    List.mem_map.mpr ⟨k, List.mem_range.mpr hk, here⟩
  have once := nodup.count (a := slot)
  rwa [if_pos member, List.count, List.countP_map] at once

end Remainders

/-! ## Rounds -/

section Rounds

variable {start : UInt32} {n slot : Nat}

theorem toNat_round (start : UInt32) (k : Nat) :
    (start + UInt32.ofNat k).toNat = (start.toNat + k) % values := by
  rw [UInt32.toNat_add, UInt32.toNat_ofNat', Nat.add_mod_mod, values]

theorem turns_eq (start : UInt32) (n slot : Nat) :
    turns start n slot =
      (List.range n).countP fun k => (start.toNat + k) % values % n == slot := by
  rw [turns, rounds, List.countP_map]
  apply List.countP_congr
  intro k hk
  have positive : n ≠ 0 := by
    rintro rfl
    cases hk
  simp only [Function.comp_apply, hasTurn, toNat_round, Bool.and_eq_true, bne_iff_ne, positive,
    ne_eq, not_false_eq_true, true_and]

/-- Without a wrap, or with one that the rotation does not notice, everybody has one turn. -/
theorem turns_eq_one (unnoticed : start.toNat + n ≤ values ∨ n ∣ values) (inside : slot < n) :
    turns start n slot = 1 := by
  rw [turns_eq, ← countP_remainder start.toNat inside]
  apply List.countP_congr
  intro k hk
  have before : k < n := List.mem_range.mp hk
  have same : (start.toNat + k) % values % n = (start.toNat + k) % n := by
    rcases unnoticed with short | divides
    · rw [Nat.mod_eq_of_lt (by omega : start.toNat + k < values)]
    · exact Nat.mod_mod_of_dvd _ divides
  rw [same]

/-- Where the counter wraps, some slot has two turns. With `m` rounds before the wrap and a
remainder `r` of the number of values, they are `r` rounds apart: the first one is `r` rounds before
the wrap if there are as many, and the first of all rounds if not. -/
theorem exists_repeated (wraps : values < start.toNat + n) (uneven : ¬ n ∣ values) :
    ∃ i j, i < j ∧ j < n ∧ (start.toNat + i) % values % n = (start.toNat + j) % values % n := by
  have below : start.toNat < values := start.toNat_lt
  have positive : 0 < n := by omega
  have remainder : 0 < values % n :=
    Nat.pos_of_ne_zero fun none => uneven (Nat.dvd_of_mod_eq_zero none)
  have small : values % n < n := Nat.mod_lt _ positive
  have le : values % n ≤ values := Nat.mod_le _ _
  have whole := Nat.div_add_mod values n
  generalize values % n = r at remainder small le whole
  generalize hm : values - start.toNat = m
  refine ⟨m - r, m - r + r, by omega, by omega, ?_⟩
  have first : (start.toNat + (m - r)) % values = n * (values / n) + (r - m) := by
    rw [Nat.mod_eq_of_lt (by omega)]
    omega
  have second : (start.toNat + (m - r + r)) % values = r - m := by
    rw [show start.toNat + (m - r + r) = values + (r - m) by omega, Nat.add_mod_left,
      Nat.mod_eq_of_lt (by omega)]
  rw [first, second, Nat.mul_add_mod]

/-- A slot that has a turn in two rounds of the window has more than one. -/
theorem turns_ne_one {i j : Nat} (apart : i < j) (hj : j < n)
    (same : (start.toNat + i) % values % n = (start.toNat + j) % values % n) :
    turns start n ((start.toNat + j) % values % n) ≠ 1 := by
  intro once
  rw [turns_eq, List.countP_eq_length_filter, List.length_eq_one_iff] at once
  obtain ⟨k, only⟩ := once
  have here {l : Nat} (hl : l < n)
      (turn : (start.toNat + l) % values % n = (start.toNat + j) % values % n) : l = k := by
    apply List.mem_singleton.mp
    rw [← only, List.mem_filter, List.mem_range, beq_iff_eq]
    exact ⟨hl, turn⟩
  have := here (Nat.lt_trans apart hj) same
  have := here hj rfl
  omega

end Rounds

/-- In `n` consecutive rounds every slot of `n` has its turn exactly once if and only if the counter
does not wrap in between or `n` divides the number of its values. -/
theorem turns_eq_one_iff (start : UInt32) (n : Nat) :
    (∀ slot, slot < n → turns start n slot = 1) ↔
      start.toNat + n ≤ 2 ^ 32 ∨ n ∣ 2 ^ 32 := by
  constructor
  · intro once
    by_contra noticed
    obtain ⟨wraps, uneven⟩ := not_or.mp noticed
    obtain ⟨i, j, apart, hj, same⟩ := exists_repeated (Nat.lt_of_not_le wraps) uneven
    have inside : (start.toNat + j) % values % n < n := Nat.mod_lt _ (Nat.zero_lt_of_lt hj)
    exact turns_ne_one apart hj same (once _ inside)
  · intro unnoticed slot inside
    exact turns_eq_one unnoticed inside

/-- Of three slots the first has two turns around the wrap of the counter, and the second has
none. -/
theorem turns_at_wrap : rounds 4294967294 3 = [4294967294, 4294967295, 0] ∧
    turns 4294967294 3 0 = 2 ∧ turns 4294967294 3 1 = 0 ∧ turns 4294967294 3 2 = 1 := by
  decide +kernel

end RangeSurvey.Rotation
