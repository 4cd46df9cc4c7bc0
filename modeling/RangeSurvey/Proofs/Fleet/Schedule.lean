import RangeSurvey.Fleet

/-!
# Schedules of a slot

A slot of a fleet in any order of its parts. Before the medium decides who hears what, and again
afterwards, tasks are looked at in any order, radios are reset and the medium is disturbed. The
slot that looks at all tasks twice, resets some radios, ends and looks at all tasks once more is
one of these schedules.

That a schedule is fair is what the settling of the medium is for: it ends the slot at its ninth
turn only, and by then whoever is looked at in every round was looked at eight times.
-/

namespace RangeSurvey

inductive Disturbance where
  | move (node : Nat) (position : Point)
  | loss (percent : Nat)
  | failTransmit (node : Nat)
  | failReceive (node : Nat)
deriving DecidableEq, Repr

def Medium.disturb (m : Medium) : Disturbance → Medium
  | .move node position => m.move node position
  | .loss percent => m.setLoss percent
  | .failTransmit node => m.failNextTransmit node
  | .failReceive node => m.failNextReceive node

inductive Move where
  /-- Somebody looks at a task. -/
  | look (task : Nat)
  /-- The radio of a node is reset. -/
  | reset (node : Nat)
  | disturb (d : Disturbance)
deriving DecidableEq, Repr

/-- A slot as it is carried out: what happens before the medium decides who hears what, and what
happens afterwards. What happens between two slots is counted to the second of them. -/
structure Schedule where
  before : List Move
  after : List Move
deriving DecidableEq, Repr

namespace Schedule

/-- Each of the first `n` tasks gets on: it is looked at twice before the end of the slot and once
afterwards. -/
def Fair (c : Schedule) (n : Nat) : Prop :=
  ∀ k < n, 2 ≤ c.before.count (.look k) ∧ .look k ∈ c.after

instance (c : Schedule) (n : Nat) : Decidable (c.Fair n) :=
  inferInstanceAs (Decidable (∀ k < n, 2 ≤ c.before.count (.look k) ∧ .look k ∈ c.after))

def Calm (c : Schedule) : Prop := ∀ m ∈ c.before ++ c.after, ∃ k, m = .look k

end Schedule

namespace Fleet

/-- Does one thing; a task that is over by it is given with what came of it. -/
def move (f : Fleet) : Move → Fleet × List (Nat × Outcome)
  | .look k =>
    let (f, outcome) := Site.poll k f
    (f, (outcome.map fun o => (k, o)).toList)
  | .reset node => (f.resetRadio node, [])
  | .disturb d => (f.mapHardware fun m => m.disturb d, [])

/-- Does several things in turn. -/
def play (f : Fleet) : List Move → Fleet × List (Nat × Outcome)
  | [] => (f, [])
  | m :: ms =>
    let (f, done) := f.move m
    let (f, later) := f.play ms
    (f, done ++ later)

/-- The fleet at the end of a slot, when all that is armed is on air. -/
def onAir (f : Fleet) (jobs : List SlotJob) (c : Schedule) : Fleet :=
  ((startAll 0 jobs f).play c.before).1

/-- Carries out a slot. The tasks that are over are given with what came of them. -/
def carryOut (f : Fleet) (jobs : List SlotJob) (c : Schedule) : Fleet × List (Nat × Outcome) :=
  let (f, first) := (startAll 0 jobs f).play c.before
  let (f, last) := (endSlot f).play c.after
  (f, first ++ last)

theorem play_append (f : Fleet) (first second : List Move) :
    f.play (first ++ second) =
      (((f.play first).1.play second).1, (f.play first).2 ++ ((f.play first).1.play second).2) := by
  induction first generalizing f with
  | nil => rfl
  | cons m first ih => simp only [List.cons_append, play, ih, List.append_assoc]

theorem play_looks (f : Fleet) (order : List Nat) :
    f.play (order.map .look) = pass Site.poll order f := by
  induction order generalizing f with
  | nil => rfl
  | cons k order ih =>
    simp only [List.map_cons, play, move, ih, pass]
    split
    · next f' h =>
      rw [h]
      rfl
    · next f' o h =>
      rw [h]
      rfl

theorem play_resets (f : Fleet) (nodes : List Nat) :
    f.play (nodes.map .reset) = (nodes.foldl resetRadio f, []) := by
  induction nodes generalizing f with
  | nil => rfl
  | cons node nodes ih =>
    simp only [List.map_cons, play, move, ih, List.foldl_cons, List.nil_append]

/-- The slot that looks at its tasks in one order throughout is one of the schedules. -/
theorem slot_eq_carryOut (f : Fleet) (jobs : List SlotJob) (order resets : List Nat) :
    f.slot jobs order resets =
      f.carryOut jobs ⟨order.map .look ++ order.map .look ++ resets.map .reset,
        order.map .look⟩ := by
  simp only [slot, carryOut, play_append, play_looks, play_resets, List.append_nil]

inductive Occurrence where
  | move (m : Move)
  /-- Somebody looks at the medium. -/
  | medium
deriving DecidableEq, Repr

/-- What happens to the fleet, without the turns of the medium. -/
def moves (os : List Occurrence) : List Move :=
  os.filterMap fun
    | .move m => some m
    | .medium => none

@[simp] theorem moves_append (first second : List Occurrence) :
    moves (first ++ second) = moves first ++ moves second :=
  List.filterMap_append

theorem mem_moves {m : Move} {os : List Occurrence} : m ∈ moves os ↔ .move m ∈ os := by
  simp only [moves, List.mem_filterMap]
  constructor
  · rintro ⟨_ | _, mem, eq⟩ <;> simp_all
  · exact fun mem => ⟨_, mem, rfl⟩

namespace Running

def play (r : Running) : List Occurrence → Running × List (Nat × Outcome)
  | [] => (r, [])
  | .move m :: os =>
    let (f, done) := r.fleet.move m
    let (r, later) := play { r with fleet := f } os
    (r, done ++ later)
  | .medium :: os => play r.look os

theorem play_append (r : Running) (first second : List Occurrence) :
    r.play (first ++ second) =
      (((r.play first).1.play second).1, (r.play first).2 ++ ((r.play first).1.play second).2) := by
  induction first generalizing r with
  | nil => rfl
  | cons o first ih => cases o <;> simp only [List.cons_append, play, ih, List.append_assoc]

/-- As long as the medium gives way, its turns change nothing. -/
theorem play_settling (f : Fleet) (os : List Occurrence) (n : Nat) :
    play ⟨f, some (os.count .medium + n)⟩ os =
      (⟨(f.play (moves os)).1, some n⟩, (f.play (moves os)).2) := by
  induction os generalizing f with
  | nil => simp only [List.count_nil, Nat.zero_add, play, moves, List.filterMap_nil, Fleet.play]
  | cons o os ih =>
    cases o with
    | move m =>
      rw [List.count_cons_of_ne Occurrence.noConfusion]
      simp only [play, ih]
      rfl
    | medium =>
      rw [List.count_cons_self, Nat.add_right_comm]
      exact ih f

theorem play_over (f : Fleet) (os : List Occurrence) :
    play ⟨f, none⟩ os = (⟨(f.play (moves os)).1, none⟩, (f.play (moves os)).2) := by
  induction os generalizing f with
  | nil => rfl
  | cons o os ih =>
    cases o with
    | move m =>
      simp only [play, ih]
      rfl
    | medium => exact ih f

/-- A slot that runs is carried out by the schedule that the first turn at which the medium does
not give way cuts out of it. -/
theorem play_eq_carryOut (f : Fleet) (jobs : List SlotJob) {before : List Occurrence}
    (settled : before.count .medium = settleYields) (after : List Occurrence) :
    play { fleet := startAll 0 jobs f } (before ++ .medium :: after) =
      (⟨(f.carryOut jobs ⟨moves before, moves after⟩).1, none⟩,
        (f.carryOut jobs ⟨moves before, moves after⟩).2) := by
  have settling := play_settling (startAll 0 jobs f) before 0
  rw [settled, Nat.add_zero] at settling
  rw [play_append, settling]
  simp only [play, look, play_over]
  rfl

end Running

/-- One round of whoever looks at things: the medium and the first `n` tasks have their turn, in
any order, and more may happen. -/
def GoesRound (n : Nat) (turn : List Occurrence) : Prop :=
  turn.count .medium = 1 ∧ ∀ k < n, .move (.look k) ∈ turn

theorem count_medium {n : Nat} {turns : List (List Occurrence)}
    (round : ∀ turn ∈ turns, GoesRound n turn) : turns.flatten.count .medium = turns.length := by
  induction turns with
  | nil => rfl
  | cons turn turns ih =>
    rw [List.flatten_cons, List.count_append, List.length_cons, (round turn (.head _)).1,
      ih fun t mem => round t (.tail _ mem), Nat.add_comm]

theorem le_count_look {n k : Nat} {turns : List (List Occurrence)} (hk : k < n)
    (round : ∀ turn ∈ turns, GoesRound n turn) :
    turns.length ≤ (moves turns.flatten).count (.look k) := by
  induction turns with
  | nil => exact Nat.zero_le _
  | cons turn turns ih =>
    have here := List.count_pos_iff.mpr (mem_moves.mpr ((round turn (.head _)).2 k hk))
    have rest := ih fun t mem => round t (.tail _ mem)
    rw [List.flatten_cons, moves_append, List.count_append, List.length_cons]
    omega

/-- The medium ends the slot in the round after those in which it gives way, and whoever has a turn
in every round has had one in each of these and has another one afterwards. -/
theorem rounds_settle {n : Nat} {turns : List (List Occurrence)}
    (enough : settleYields + 2 ≤ turns.length) (round : ∀ turn ∈ turns, GoesRound n turn) :
    ∃ before after, turns.flatten = before ++ .medium :: after ∧
      before.count .medium = settleYields ∧
      ∀ k < n, settleYields ≤ (moves before).count (.look k) ∧ .look k ∈ moves after := by
  obtain ⟨settling, last, later, rfl, long⟩ :
      ∃ settling last later, turns = settling ++ last :: later ∧
        settling.length = settleYields :=
    ⟨turns.take settleYields, turns[settleYields], turns.drop (settleYields + 1),
      by rw [← List.drop_eq_getElem_cons, List.take_append_drop],
      List.length_take_of_le (by omega)⟩
  simp only [List.forall_mem_append, List.forall_mem_cons] at round
  obtain ⟨rounds, ⟨once, -⟩, rounds'⟩ := round
  obtain ⟨a, b, rfl⟩ := List.append_of_mem (List.count_pos_iff.mp (once ▸ Nat.one_pos))
  refine ⟨settling.flatten ++ a, b ++ later.flatten, by simp, ?_, fun k hk => ⟨?_, ?_⟩⟩
  · rw [List.count_append, List.count_cons_self] at once
    rw [List.count_append, count_medium rounds, long]
    omega
  · have looks := le_count_look hk rounds
    rw [long] at looks
    rw [moves_append, List.count_append]
    exact Nat.le_add_right_of_le looks
  · have some_later : 0 < later.length := by
      simp only [List.length_append, List.length_cons] at enough
      omega
    have looks := le_count_look hk rounds'
    rw [moves_append]
    exact List.mem_append_right _ (List.count_pos_iff.mp (Nat.lt_of_lt_of_le some_later looks))

/-- A slot that goes round long enough for the medium to settle, to end it and to let everybody
see the end is carried out by a fair schedule. -/
theorem rounds_fair {n : Nat} {turns : List (List Occurrence)}
    (enough : settleYields + 2 ≤ turns.length) (round : ∀ turn ∈ turns, GoesRound n turn) :
    ∃ c : Schedule, c.Fair n ∧ c.before ++ c.after = moves turns.flatten ∧
      ∀ (f : Fleet) (jobs : List SlotJob),
        Running.play { fleet := startAll 0 jobs f } turns.flatten =
          (⟨(f.carryOut jobs c).1, none⟩, (f.carryOut jobs c).2) := by
  obtain ⟨before, after, split, settled, looks⟩ := rounds_settle enough round
  have twice : 2 ≤ settleYields := by decide
  refine ⟨⟨moves before, moves after⟩,
    fun k hk => ⟨Nat.le_trans twice (looks k hk).1, (looks k hk).2⟩, ?_, fun f jobs => ?_⟩
  · rw [split, moves_append]
    rfl
  · rw [split]
    exact Running.play_eq_carryOut f jobs settled after

end Fleet

end RangeSurvey
