import Mathlib.Algebra.Group.Nat.Defs
import RangeSurvey.Proofs.PeerSet.Rank

/-!
# Walking a peer set

A peer set can be walked without a list of its members: the zeros at the end of its word tell the
lowest member, and the word less one, laid over the word, is the word without that member. A walk
ends when the word is zero, and has then come to every member once, in ascending order. So a peer
set is a finite set of slots, and the rank of a member is its place on the walk.
-/

namespace RangeSurvey.PeerSet

/-- The next step of a walk: the lowest member, and the set without it. -/
def next? (s : PeerSet) : Option (Nat × PeerSet) :=
  if s.isEmpty then none else some (s.bits.ctz.toNat, ⟨s.bits &&& (s.bits - 1#32)⟩)

/-- A walk over a set comes to some slots, one after the other, and ends. -/
inductive Walks : PeerSet → List Nat → Prop where
  | done {s : PeerSet} : s.next? = none → Walks s []
  | step {s rest : PeerSet} {p : Nat} {slots : List Nat} : s.next? = some (p, rest) →
      Walks rest slots → Walks s (p :: slots)

/-- Every reading of a set is one of the same finite set: the list of its members in ascending
order, their number, and the rank of each of them. -/
structure Enumerated (s : PeerSet) : Prop where
  members : ∀ p, p ∈ s.members ↔ s.contains p = true
  ascending : s.members.Pairwise (· < ·)
  count : s.members.length = s.count
  rank : ∀ p k, s.rank p = some k ↔ s.members[k]? = some p

/-! ## The lowest member -/

/-- A number whose lowest one is at digit `t` has a zero there when it is less by one, and the same
digits above. -/
theorem testBit_sub_one {x t i : Nat} (lowest : x % 2 ^ (t + 1) = 2 ^ t) (above : t ≤ i) :
    (x - 1).testBit i = (x.testBit i && decide (i ≠ t)) := by
  have positive : 0 < 2 ^ t := Nat.two_pow_pos t
  have split := Nat.div_add_mod x (2 ^ (t + 1))
  have less : x - 1 = 2 ^ (t + 1) * (x / 2 ^ (t + 1)) + (2 ^ t - 1) := by omega
  have small : 2 ^ t - 1 < 2 ^ (t + 1) := by
    rw [Nat.pow_succ]
    omega
  rw [less, Nat.testBit_two_pow_mul_add _ small]
  rcases Nat.eq_or_lt_of_le above with rfl | higher
  · simp
  · rw [if_neg (by omega), Nat.testBit_div_two_pow, decide_eq_true (by omega), Bool.and_true]
    congr 1
    omega

section Lowest

variable {s : PeerSet}

theorem contains_ctz (some : s.bits ≠ 0#32) : s.contains s.bits.ctz.toNat = true :=
  BitVec.getLsbD_true_ctz_of_ne_zero some

theorem not_contains_of_lt_ctz {p : Nat} (below : p < s.bits.ctz.toNat) : s.contains p = false :=
  BitVec.getLsbD_false_of_lt_ctz below

theorem ctz_le {p : Nat} (member : s.contains p = true) : s.bits.ctz.toNat ≤ p := by
  refine Nat.le_of_not_lt fun below => ?_
  rw [not_contains_of_lt_ctz below] at member
  cases member

/-- Of the digits up to the lowest member only that of the lowest member is set. -/
theorem mod_ctz (some : s.bits ≠ 0#32) :
    s.bits.toNat % 2 ^ (s.bits.ctz.toNat + 1) = 2 ^ s.bits.ctz.toNat := by
  apply Nat.eq_of_testBit_eq
  intro i
  rw [Nat.testBit_mod_two_pow, Nat.testBit_two_pow]
  change (_ && s.contains i) = _
  rcases Nat.lt_trichotomy i s.bits.ctz.toNat with below | rfl | above
  · rw [not_contains_of_lt_ctz below, Bool.and_false, decide_eq_false (by omega)]
  · rw [contains_ctz some, Bool.and_true, decide_eq_true (by omega), decide_eq_true rfl]
  · rw [decide_eq_false (by omega), Bool.false_and, decide_eq_false (by omega)]

/-- The word less one, laid over the word, is the set without its lowest member. -/
theorem and_sub_one (some : s.bits ≠ 0#32) :
    (⟨s.bits &&& (s.bits - 1#32)⟩ : PeerSet) = s.erase s.bits.ctz.toNat := by
  have one : 1#32 ≤ s.bits :=
    BitVec.le_def.mpr (Nat.pos_of_ne_zero fun zero => some (BitVec.eq_of_toNat_eq zero))
  apply ext_contains
  intro p
  have digit : (⟨s.bits &&& (s.bits - 1#32)⟩ : PeerSet).contains p =
      (s.contains p && (s.bits.toNat - 1).testBit p) := by
    have less : (s.bits - 1#32).toNat = s.bits.toNat - 1 := BitVec.toNat_sub_of_le one
    rw [← less, contains, BitVec.getLsbD_and]
    rfl
  rw [digit, contains_erase]
  cases member : s.contains p with
  | false => rw [Bool.false_and, Bool.false_and]
  | true =>
    have here : s.bits.toNat.testBit p = true := member
    rw [testBit_sub_one (mod_ctz some) (ctz_le member), here, Bool.true_and]

/-- The members of a set with a lowest member are this one and those of the set without it. -/
theorem members_of_lowest {p : Nat} (member : s.contains p = true)
    (lowest : ∀ q, s.contains q = true → p ≤ q) : s.members = p :: (s.erase p).members := by
  have others (q : Nat) : q ∈ (s.erase p).members ↔ s.contains q = true ∧ q ≠ p := by
    rw [mem_members, contains_erase, Bool.and_eq_true, decide_eq_true_eq]
  symm
  apply eq_members
  · rw [List.pairwise_cons]
    refine ⟨fun q later => ?_, members_ascending _⟩
    obtain ⟨there, other⟩ := (others q).mp later
    exact Nat.lt_of_le_of_ne (lowest q there) (Ne.symm other)
  · intro q
    rw [List.mem_cons, others]
    constructor
    · rintro (rfl | ⟨there, -⟩)
      · exact member
      · exact there
    · intro there
      by_cases first : q = p
      · exact Or.inl first
      · exact Or.inr ⟨there, first⟩

/-- A walk goes on with the first of the members, and then over the others. -/
theorem next?_eq (s : PeerSet) : s.next? = s.members.head?.map fun p => (p, s.erase p) := by
  by_cases empty : s.bits = 0#32
  · have none : s.members = [] := by
      rw [← List.length_eq_zero_iff, length_members, count, empty]
      rfl
    rw [next?, isEmpty, empty, none]
    rfl
  · rw [members_of_lowest (contains_ctz empty) fun _ => ctz_le, next?, isEmpty,
      if_neg (by simpa using empty), and_sub_one empty]
    rfl

end Lowest

/-! ## The walk -/

/-- A walk comes to the members in ascending order, and then it ends. -/
theorem walks_members (s : PeerSet) : s.Walks s.members := by
  -- with every step a member less is left
  induction left : s.members generalizing s with
  | nil => exact .done (by rw [next?_eq, left]; rfl)
  | cons p slots ih =>
    have ascending := s.members_ascending
    rw [left, List.pairwise_cons] at ascending
    have member : s.contains p = true := mem_members.mp (left ▸ List.mem_cons_self)
    have lowest (q : Nat) (there : s.contains q = true) : p ≤ q := by
      rw [← mem_members, left, List.mem_cons] at there
      rcases there with rfl | later
      · exact Nat.le_refl q
      · exact Nat.le_of_lt (ascending.1 q later)
    have rest := members_of_lowest member lowest
    rw [left, List.cons.injEq] at rest
    exact .step (by rw [next?_eq, left]; rfl) (ih _ rest.2.symm)

/-- A walk comes to the same slots every time. -/
theorem Walks.eq {s : PeerSet} {slots slots' : List Nat} (walks : s.Walks slots)
    (walks' : s.Walks slots') : slots = slots' := by
  induction walks generalizing slots' with
  | done none =>
    cases walks' with
    | done => rfl
    | step next => cases none.symm.trans next
  | step next _ ih =>
    cases walks' with
    | done none => cases none.symm.trans next
    | step next' rest =>
      cases next.symm.trans next'
      rw [ih rest]

/-! ## Ranks -/

theorem rank_eq_some {s : PeerSet} {p k : Nat} : s.rank p = some k ↔ s.members[k]? = some p := by
  constructor
  · intro ranked
    cases member : s.contains p with
    | false =>
      rw [rank_none member] at ranked
      cases ranked
    | true =>
      obtain ⟨place, rank, there⟩ := rank_spec member
      obtain rfl := Option.some.inj (rank.symm.trans ranked)
      exact there
  · intro there
    obtain ⟨place, rank, there'⟩ := rank_spec (mem_members.mp (List.mem_of_getElem? there))
    have inside : place < s.members.length := (List.getElem?_eq_some_iff.mp there').1
    rw [rank, (List.getElem?_inj inside s.nodup_members).mp (there'.trans there.symm)]

theorem rank_isSome {s : PeerSet} (p : Nat) : (s.rank p).isSome = s.contains p := by
  rw [rank]
  cases s.contains p <;> rfl

theorem rank_lt {s : PeerSet} {p k : Nat} (ranked : s.rank p = some k) : k < s.count := by
  rw [← length_members]
  exact (List.getElem?_eq_some_iff.mp (rank_eq_some.mp ranked)).1

theorem enumerated (s : PeerSet) : s.Enumerated where
  members _ := mem_members
  ascending := s.members_ascending
  count := s.length_members
  rank _ _ := rank_eq_some

/-- Leaving out the slots from some on does not change the rank of those that are left. -/
theorem rank_inter_below {s : PeerSet} {n p : Nat} (left : (s.inter (below n)).contains p = true) :
    (s.inter (below n)).rank p = s.rank p := by
  obtain ⟨place, rank, there⟩ := rank_spec left
  obtain ⟨beyond, members⟩ := s.members_inter_below n
  have inside := (List.getElem?_eq_some_iff.mp there).1
  have found : s.members[place]? = some p := by
    rw [members, List.getElem?_append_left inside, there]
  rw [rank, rank_eq_some.mpr found]

/-- A peer set is a finite set of slots, with its operations. A walk over it comes to its members in
ascending order, and the rank of a slot is its place on the walk. -/
theorem finite_ranked (s : PeerSet) :
    (∀ slots, s.Walks slots ↔ slots = s.members) ∧ s.Enumerated ∧
      (∀ p, (s.rank p).isSome = s.contains p) ∧
      (∀ k, k < s.count → ∃ p, s.rank p = some k ∧ ∀ q, s.rank q = some k → q = p) ∧
      (∀ p k, s.rank p = some k → k < s.count) ∧
      (∀ p, s.contains p = true → p < 32) ∧
      (∀ p q, (s.insert p).contains q = true ↔ s.contains q = true ∨ q = p ∧ p < 32) ∧
      (∀ p q, (s.erase p).contains q = true ↔ s.contains q = true ∧ q ≠ p) ∧
      (∀ n q, (below n).contains q = true ↔ q < min n 32) ∧
      (∀ n p q, (others n p).contains q = true ↔ q < min n 32 ∧ q ≠ p) ∧
      (∀ n, s.within n = true ↔ ∀ p, s.contains p = true → p < n) ∧
      (∀ n p, (s.inter (below n)).contains p = true ↔ s.contains p = true ∧ p < n) ∧
      ∀ n p, (s.inter (below n)).contains p = true →
        (s.inter (below n)).rank p = s.rank p := by
  refine ⟨fun slots => ⟨fun walks => walks.eq s.walks_members, ?_⟩, s.enumerated, rank_isSome,
    fun k inside => ?_, fun p k => rank_lt, fun p => lt_of_contains, fun p q => ?_, fun p q => ?_,
    fun n q => ?_, fun n p q => ?_, fun n => within_iff, fun n p => ?_,
    fun n p => rank_inter_below⟩
  · rintro rfl
    exact s.walks_members
  · rw [← length_members] at inside
    refine ⟨s.members[k], rank_eq_some.mpr (List.getElem?_eq_getElem inside), fun q ranked => ?_⟩
    rw [rank_eq_some, List.getElem?_eq_getElem inside] at ranked
    exact (Option.some.inj ranked).symm
  · rw [contains_insert, Bool.or_eq_true, Bool.and_eq_true, decide_eq_true_eq, decide_eq_true_eq]
  · rw [contains_erase, Bool.and_eq_true, decide_eq_true_eq]
  · rw [contains_below, Bool.and_eq_true, decide_eq_true_eq, decide_eq_true_eq, Nat.lt_min]
  · rw [contains_others, Bool.and_eq_true, Bool.and_eq_true, decide_eq_true_eq, decide_eq_true_eq,
      decide_eq_true_eq, Nat.lt_min]
  · rw [contains_inter, contains_below, Bool.and_eq_true, Bool.and_eq_true, decide_eq_true_eq,
      decide_eq_true_eq]
    constructor
    · rintro ⟨member, under, -⟩
      exact ⟨member, under⟩
    · rintro ⟨member, under⟩
      exact ⟨member, under, lt_of_contains member⟩

end RangeSurvey.PeerSet
