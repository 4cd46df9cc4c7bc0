import RangeSurvey.PeerSet

/-!
# The members of a peer set

The list of members holds what the set contains, and it is as long as the count says.
-/

namespace RangeSurvey.PeerSet

/-- How many of the `width` lowest digits of a word are ones is how many positions hold one. -/
theorem length_positions (width start word : Nat) :
    (positions width start word).length = ones width word := by
  induction width generalizing start word with
  | zero => rfl
  | succ width ih =>
    have := Nat.mod_two_eq_zero_or_one word
    unfold positions ones
    split
    · next h => simp [ih, h]; omega
    · next h =>
      have h0 : word % 2 = 0 := by omega
      rw [ih, h0, Nat.zero_add]

theorem mem_positions {width start word p : Nat} :
    p ∈ positions width start word ↔
      start ≤ p ∧ p < start + width ∧ word.testBit (p - start) = true := by
  induction width generalizing start word with
  | zero => simp [positions]; omega
  | succ width ih =>
    have tail : p ∈ positions width (start + 1) (word / 2) ↔
        start + 1 ≤ p ∧ p < start + 1 + width ∧ word.testBit (p - start) = true := by
      rw [ih]
      constructor
      · rintro ⟨h, h', hb⟩
        refine ⟨h, h', ?_⟩
        rw [show p - start = p - (start + 1) + 1 by omega, Nat.testBit_succ]
        exact hb
      · rintro ⟨h, h', hb⟩
        refine ⟨h, h', ?_⟩
        rw [show p - start = p - (start + 1) + 1 by omega, Nat.testBit_succ] at hb
        exact hb
    unfold positions
    split
    · next h =>
      rw [List.mem_cons, tail]
      constructor
      · rintro (rfl | ⟨h1, h2, hb⟩)
        · refine ⟨Nat.le_refl _, by omega, ?_⟩
          simp [Nat.testBit_zero, h]
        · exact ⟨by omega, by omega, hb⟩
      · rintro ⟨h1, h2, hb⟩
        by_cases hp : p = start
        · exact Or.inl hp
        · exact Or.inr ⟨by omega, by omega, hb⟩
    · next h =>
      rw [tail]
      constructor
      · rintro ⟨h1, h2, hb⟩
        exact ⟨by omega, by omega, hb⟩
      · rintro ⟨h1, h2, hb⟩
        refine ⟨?_, by omega, hb⟩
        have : p ≠ start := by
          rintro rfl
          simp [Nat.testBit_zero, h] at hb
        omega

/-- Counting the members and listing them read the same set. -/
theorem length_members (s : PeerSet) : s.members.length = s.count := length_positions 32 0 _

theorem mem_members {s : PeerSet} {p : Nat} : p ∈ s.members ↔ s.contains p = true := by
  rw [members, mem_positions]
  constructor
  · rintro ⟨_, _, h⟩
    exact h
  · intro h
    exact ⟨Nat.zero_le _, by have := lt_of_contains h; omega, h⟩

end RangeSurvey.PeerSet
