import RangeSurvey.PeerSet.Members

/-!
# Ranks in a peer set

The members are the slots below the width that the set contains, in ascending order, and the rank
of a member is its place among them. A set of slots below `n` has at most `n` members, and fewer
when one of the slots is missing.
-/

namespace RangeSurvey.PeerSet

theorem positions_eq (width start word : Nat) :
    positions width start word =
      (List.range' start width).filter fun p => word.testBit (p - start) := by
  induction width generalizing start word with
  | zero => rfl
  | succ width ih =>
    have tail : (List.range' (start + 1) width).filter (fun p => word.testBit (p - start)) =
        positions width (start + 1) (word / 2) := by
      rw [ih]
      apply List.filter_congr
      intro p hp
      have above : start + 1 ≤ p := (List.mem_range'_1.mp hp).1
      rw [show p - start = p - (start + 1) + 1 by omega, Nat.testBit_succ]
    rw [positions, List.range'_succ, List.filter_cons, tail, Nat.sub_self, Nat.testBit_zero]
    by_cases h : word % 2 = 1 <;> simp [h]

theorem members_eq (s : PeerSet) : s.members = (List.range 32).filter s.contains := by
  rw [members, positions_eq, List.range_eq_range']
  rfl

/-- A range that is cut in two at `p`. -/
theorem range_cut {p n : Nat} (h : p < n) :
    List.range n = List.range p ++ p :: List.range' (p + 1) (n - (p + 1)) := by
  have whole : List.range' 0 p ++ List.range' (0 + p) (n - p) = List.range' 0 n := by
    rw [List.range'_append_1]
    congr 1
    omega
  rw [List.range_eq_range', ← whole, Nat.zero_add, List.range_eq_range',
    show n - p = n - (p + 1) + 1 by omega, List.range'_succ]

/-- Counting the bits below `p` counts the members below `p`. -/
theorem ones_below (s : PeerSet) {p : Nat} (h : p < 32) :
    ones 32 (s.bits.toNat % (1 <<< p)) = ((List.range p).filter s.contains).length := by
  have bit : ∀ i, (s.bits.toNat % (1 <<< p)).testBit (i - 0) =
      (decide (i < p) && s.contains i) := by
    intro i
    rw [Nat.one_shiftLeft, Nat.testBit_mod_two_pow]
    rfl
  have below : (List.range p).filter (fun i => decide (i < p) && s.contains i) =
      (List.range p).filter s.contains := by
    apply List.filter_congr
    intro i hi
    simp [List.mem_range.mp hi]
  have above : (p :: List.range' (p + 1) (32 - (p + 1))).filter
      (fun i => decide (i < p) && s.contains i) = [] := by
    rw [List.filter_eq_nil_iff]
    intro i hi
    have hle : p ≤ i := by
      rcases List.mem_cons.mp hi with rfl | hi
      · exact Nat.le_refl i
      · have := (List.mem_range'_1.mp hi).1
        omega
    simp [Nat.not_lt.mpr hle]
  rw [← length_positions 32 0, positions_eq, ← List.range_eq_range', range_cut h]
  simp only [bit, List.filter_append, below, above, List.append_nil]

/-- The rank of a member is its place among the members. -/
theorem rank_spec {s : PeerSet} {p : Nat} (h : s.contains p = true) :
    ∃ place, s.rank p = some place ∧ s.members[place]? = some p := by
  refine ⟨((List.range p).filter s.contains).length, ?_, ?_⟩
  · rw [rank, if_pos h, ones_below s (lt_of_contains h)]
  · rw [members_eq, range_cut (lt_of_contains h), List.filter_append, List.filter_cons_of_pos h,
      List.getElem?_append_right (Nat.le_refl _), Nat.sub_self, List.getElem?_cons_zero]

/-- Values in the order of the members are found by their ranks. -/
theorem rank_values {α : Type} {s : PeerSet} {values : List α} {f : Nat → Option α}
    (order : values.map some = s.members.map f) (rest : List α) {p : Nat}
    (h : s.contains p = true) :
    ((s.rank p).bind fun place => (values ++ rest)[place]?) = f p := by
  obtain ⟨place, rank, member⟩ := rank_spec h
  have here : (values.map some)[place]? = some (f p) := by
    rw [order, List.getElem?_map, member, Option.map_some]
  rw [List.getElem?_map] at here
  obtain ⟨d, hd, value⟩ := Option.map_eq_some_iff.mp here
  have inside : place < values.length := (List.getElem?_eq_some_iff.mp hd).1
  rw [rank, Option.bind_some, List.getElem?_append_left inside, hd, value]

theorem rank_none {s : PeerSet} {p : Nat} (h : s.contains p = false) : s.rank p = none := by
  simp [rank, h]

theorem nodup_members (s : PeerSet) : s.members.Nodup := by
  rw [members_eq]
  exact List.nodup_range.filter _

/-- The members are in ascending order. -/
theorem members_ascending (s : PeerSet) : s.members.Pairwise (· < ·) := by
  rw [members_eq]
  exact List.pairwise_lt_range.filter _

/-- Slots in ascending order, all of a set and no others, are its members. -/
theorem eq_members {s : PeerSet} {slots : List Nat} (ascending : slots.Pairwise (· < ·))
    (all : ∀ p, p ∈ slots ↔ s.contains p = true) : slots = s.members := by
  have alike : slots.Perm s.members := by
    refine (List.perm_ext_iff_of_nodup (ascending.imp Nat.ne_of_lt) s.nodup_members).mpr ?_
    intro p
    rw [all, mem_members]
  exact alike.eq_of_pairwise (fun a b _ _ ab ba => absurd ba (Nat.lt_asymm ab)) ascending
    s.members_ascending

theorem within_iff {s : PeerSet} {n : Nat} :
    s.within n = true ↔ ∀ p, s.contains p = true → p < n := by
  have outside : s.within n = true ↔
      ∀ p, p < 32 → (s.bits &&& ~~~(below n).bits).getLsbD p = false := by
    simp only [within, beq_iff_eq]
    constructor
    · intro h p _
      simp [h]
    · intro h
      apply BitVec.eq_of_getLsbD_eq
      intro p hp
      simpa using h p hp
  have digit (p : Nat) (hp : p < 32) : (s.bits &&& ~~~(below n).bits).getLsbD p =
      (s.contains p && !decide (p < n)) := by
    have bound : (below n).bits.getLsbD p = (decide (p < n) && decide (p < 32)) :=
      contains_below n p
    rw [BitVec.getLsbD_and, BitVec.getLsbD_not, bound]
    simp [contains, hp]
  rw [outside]
  constructor
  · intro h p member
    have out := h p (lt_of_contains member)
    rw [digit p (lt_of_contains member), member] at out
    simpa using out
  · intro h p hp
    rw [digit p hp]
    cases member : s.contains p with
    | false => rfl
    | true => simp [h p member]

theorem within_empty (n : Nat) : empty.within n = true := by
  simp [within, empty]

theorem within_inter_below (answered : PeerSet) (n : Nat) :
    (answered.inter (below n)).within n = true := by
  rw [within_iff]
  intro p member
  rw [contains_inter, contains_below] at member
  simp only [Bool.and_eq_true, decide_eq_true_eq] at member
  exact member.2.1

/-- The members below `n` come before all others. -/
theorem members_inter_below (s : PeerSet) (n : Nat) :
    ∃ beyond, s.members = (s.inter (below n)).members ++ beyond := by
  have inside : (s.inter (below n)).members = (List.range 32).filter fun p =>
      decide (p < n) && s.contains p := by
    rw [members_eq]
    apply List.filter_congr
    intro p hp
    rw [contains_inter, contains_below, decide_eq_true (List.mem_range.mp hp), Bool.and_true,
      Bool.and_comm]
  rcases Nat.lt_or_ge n 32 with narrow | wide
  · have front : (List.range n).filter (fun p => decide (p < n) && s.contains p) =
        (List.range n).filter s.contains := by
      apply List.filter_congr
      intro p hp
      rw [decide_eq_true (List.mem_range.mp hp), Bool.true_and]
    have behind : (n :: List.range' (n + 1) (32 - (n + 1))).filter
        (fun p => decide (p < n) && s.contains p) = [] := by
      rw [List.filter_eq_nil_iff]
      intro p hp
      have above : n ≤ p := by
        rcases List.mem_cons.mp hp with rfl | hp
        · exact Nat.le_refl p
        · have := (List.mem_range'_1.mp hp).1
          omega
      simp [Nat.not_lt.mpr above]
    rw [inside, members_eq, range_cut narrow, List.filter_append, List.filter_append, front, behind,
      List.append_nil]
    exact ⟨_, rfl⟩
  · refine ⟨[], ?_⟩
    rw [inside, members_eq, List.append_nil]
    apply List.filter_congr
    intro p hp
    have below : p < n := Nat.lt_of_lt_of_le (List.mem_range.mp hp) wide
    rw [decide_eq_true below, Bool.true_and]

/-- A set of slots below `n` has at most `n` members. -/
theorem count_le {s : PeerSet} {n : Nat} (within : ∀ p, s.contains p = true → p < n) :
    s.count ≤ n := by
  have members : s.members.length ≤ (List.range n).length := by
    apply s.nodup_members.length_le_of_subset
    intro p hp
    exact List.mem_range.mpr (within p (mem_members.mp hp))
  rwa [length_members, List.length_range] at members

/-- A set of slots below `n` that misses one of them has fewer than `n` members. -/
theorem count_lt {s : PeerSet} {n i : Nat} (within : ∀ p, s.contains p = true → p < n) (hi : i < n)
    (missing : s.contains i = false) : s.count < n := by
  have members : s.members.length ≤ ((List.range n).filter s.contains).length := by
    apply s.nodup_members.length_le_of_subset
    intro p hp
    have contained := mem_members.mp hp
    exact List.mem_filter.mpr ⟨List.mem_range.mpr (within p contained), contained⟩
  have fewer : ((List.range n).filter s.contains).length < (List.range n).length := by
    rw [List.length_filter_lt_length_iff_exists]
    exact ⟨i, List.mem_range.mpr hi, by simp [missing]⟩
  rw [← length_members]
  rw [List.length_range] at fewer
  omega

end RangeSurvey.PeerSet
