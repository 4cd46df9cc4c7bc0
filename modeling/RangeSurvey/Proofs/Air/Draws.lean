import RangeSurvey.Air.Hearing

/-!
# Which draws lose

A medium makes one draw for each frame or answer that is on its way, in order. What a draw decides
has no influence on those that come after it, so that the same draws are made at every loss rate but
zero, and whatever is lost at one rate is lost at every higher one.
-/

namespace RangeSurvey.Medium

universe u

variable {α : Type u}

def drawn (lossPercent : Nat) (random : Random) : Nat → Random
  | 0 => random
  | n + 1 => drawn lossPercent (draw lossPercent random).1 n

/-- Whether the draw after `n` others loses. -/
def losesAt (lossPercent : Nat) (random : Random) (n : Nat) : Bool :=
  (draw lossPercent (drawn lossPercent random n)).2

/-- Those of a list that are not lost when a draw is made for each in turn. -/
def survivors (lossPercent : Nat) : List α → Random → List α
  | [], _ => []
  | x :: l, random =>
    if (draw lossPercent random).2 then survivors lossPercent l (draw lossPercent random).1
    else x :: survivors lossPercent l (draw lossPercent random).1

variable {lossPercent : Nat} {random : Random}

theorem drawn_add (m n : Nat) :
    drawn lossPercent random (m + n) = drawn lossPercent (drawn lossPercent random m) n := by
  induction m generalizing random with
  | zero => rw [Nat.zero_add, drawn]
  | succ m ih => rw [Nat.add_right_comm, drawn, ih, drawn]

theorem survivors_sublist (l : List α) : (survivors lossPercent l random).Sublist l := by
  induction l generalizing random with
  | nil => exact List.Sublist.refl _
  | cons x l ih =>
    simp only [survivors]
    split
    · exact ih.cons x
    · exact ih.cons_cons x

/-- The draw that decides on something is the one that belongs to its place in the list. -/
theorem survivors_eq_filter [DecidableEq α] {l : List α} (nodup : l.Nodup) :
    survivors lossPercent l random =
      l.filter fun x => !losesAt lossPercent random (l.idxOf x) := by
  induction l generalizing random with
  | nil => rfl
  | cons x l ih =>
    rw [List.nodup_cons] at nodup
    have rest : survivors lossPercent l (draw lossPercent random).1 =
        l.filter fun y => !losesAt lossPercent random ((x :: l).idxOf y) := by
      rw [ih nodup.2]
      apply List.filter_congr
      intro y hy
      have other : (x == y) = false := beq_eq_false_iff_ne.mpr fun same => nodup.1 (same ▸ hy)
      rw [List.idxOf_cons, other]
      rfl
    have first : losesAt lossPercent random ((x :: l).idxOf x) = (draw lossPercent random).2 := by
      rw [List.idxOf_cons_self]
      rfl
    rw [survivors, rest, List.filter_cons, first]
    cases (draw lossPercent random).2 <;> rfl

/-- A receiver hears the senders that survive. -/
theorem sift_eq (senders : List Nat) :
    sift lossPercent senders random =
      ⟨drawn lossPercent random senders.length, survivors lossPercent senders random,
        senders.length - (survivors lossPercent senders random).length⟩ := by
  induction senders generalizing random with
  | nil => rfl
  | cons sender senders ih =>
    rcases hd : draw lossPercent random with ⟨random', _ | _⟩
    · simp [sift, survivors, drawn, hd, ih]
    · have few : (survivors lossPercent senders random').length ≤ senders.length :=
        (survivors_sublist senders).length_le
      simp only [sift, survivors, drawn, hd, ih, if_true, List.length_cons]
      congr 1
      omega

/-! ## No loss, and nothing but loss -/

theorem drawn_zero (random : Random) (n : Nat) : drawn 0 random n = random := by
  induction n with
  | zero => rfl
  | succ n ih => exact ih

theorem survivors_zero (l : List α) (random : Random) : survivors 0 l random = l := by
  induction l with
  | nil => rfl
  | cons x l ih => exact congrArg (x :: ·) ih

theorem draw_full (all : 100 ≤ lossPercent) (random : Random) :
    (draw lossPercent random).2 = true := by
  have some : lossPercent ≠ 0 := by omega
  have word := Nat.mod_lt random.next32.2.toNat (show 0 < 100 by decide)
  simp only [draw, if_neg some]
  exact decide_eq_true (Nat.lt_of_lt_of_le word all)

theorem survivors_full (all : 100 ≤ lossPercent) (l : List α) (random : Random) :
    survivors lossPercent l random = [] := by
  induction l generalizing random with
  | nil => rfl
  | cons x l ih => rw [survivors, if_pos (draw_full all random), ih]

/-! ## Two rates of loss -/

section Rates

variable {low high : Nat}

theorem draw_random (some : 0 < low) (le : low ≤ high) (random : Random) :
    (draw high random).1 = (draw low random).1 := by
  simp only [draw, if_neg (Nat.ne_of_gt some), if_neg (Nat.ne_of_gt (Nat.lt_of_lt_of_le some le))]

theorem draw_mono (some : 0 < low) (le : low ≤ high) (random : Random)
    (lost : (draw low random).2 = true) : (draw high random).2 = true := by
  simp only [draw, if_neg (Nat.ne_of_gt some), decide_eq_true_eq] at lost
  simp only [draw, if_neg (Nat.ne_of_gt (Nat.lt_of_lt_of_le some le)), decide_eq_true_eq]
  exact Nat.lt_of_lt_of_le lost le

theorem drawn_rates (some : 0 < low) (le : low ≤ high) (random : Random) (n : Nat) :
    drawn high random n = drawn low random n := by
  induction n generalizing random with
  | zero => rfl
  | succ n ih => rw [drawn, drawn, draw_random some le, ih]

theorem survivors_rates (some : 0 < low) (le : low ≤ high) (l : List α) (random : Random) :
    (survivors high l random).Sublist (survivors low l random) := by
  induction l generalizing random with
  | nil => exact List.Sublist.refl _
  | cons x l ih =>
    have rest := ih (draw low random).1
    simp only [survivors, draw_random some le]
    cases lost : (draw low random).2 with
    | true => simpa [draw_mono some le random lost] using rest
    | false =>
      rw [if_neg Bool.false_ne_true]
      split
      · exact rest.cons x
      · exact rest.cons_cons x

end Rates

end RangeSurvey.Medium
