import RangeSurvey.Proofs.Fleet.Past

/-!
# Agreement under loss

A survey is a deployed fleet in any number of slots, of any kind and in any order, each with its own
disturbances. Whatever gets lost, a row that a station holds of another one is still blank, or it
is the row that the other one had when it was on air. A receive that succeeds brings the row of its
own slot, and no slot changes anything else.
-/

namespace RangeSurvey

/-- The last broadcast slot in which it was the turn of station `i`, when the last slots come
first. -/
def latest (plan : Plan) (i : Nat) (pasts : List Past) : Option Past :=
  pasts.find? fun p => p.turn.kind == .broadcast && p.turn.active plan == i

namespace Fleet

/-- The fleet after some slots since it was deployed, of which the last one comes first. -/
inductive Surveyed (plan : Plan) (stations : Nat) : List Past → Fleet → Prop where
  | deployed (generator : UInt64 → Random) (positions : List Point) (settings : MediumSettings) :
      stations ≤ positions.length →
      Surveyed plan stations [] (deploy generator plan positions settings stations)
  | slot {pasts : List Past} {f : Fleet} (t : Turn) : Surveyed plan stations pasts f →
      t.schedule.Fair stations →
      Surveyed plan stations (f.past stations t :: pasts) (f.past stations t).finish

/-- Every row that a station of the fleet holds of another one is accounted for by the slots since
the fleet was deployed. -/
structure Agrees (plan : Plan) (stations : Nat) (pasts : List Past) (f : Fleet) : Prop where
  regular : Regular plan stations f
  certified : ∀ i j, i < stations → j < stations → i ≠ j → ∃ row, f.row? j i = some row ∧
    (row = Row.blank plan.nodeCount ∨ ∃ p ∈ pasts, p.Announces plan i row)
  current : ∀ i j, i < stations → j < stations → i ≠ j → ∀ p, latest plan i pasts = some p →
    p.received j = true → ∃ row, p.Announces plan i row ∧ f.row? j i = some row

namespace Agrees

variable {plan : Plan} {stations : Nat} {pasts : List Past} {f : Fleet} {t : Turn}

theorem deployed {generator : UInt64 → Random} (admits : plan.Admits stations)
    {positions : List Point} (settings : MediumSettings) (nodes : stations ≤ positions.length) :
    Agrees plan stations [] (deploy generator plan positions settings stations) := by
  refine ⟨regular_deploy admits settings nodes, ?_, ?_⟩
  · intro i j hi hj _
    have slot : i < plan.nodeCount := Nat.lt_of_lt_of_le hi admits.2.2
    exact ⟨_, row?_deploy admits settings nodes hj slot, Or.inl rfl⟩
  · intro i j _ _ _ p hp
    cases hp

/-- A slot either leaves a row of another station alone, and then is no slot in which the row was
received, or it brings the row in. -/
theorem slot (h : Agrees plan stations pasts f) (admits : plan.Admits stations)
    (fair : t.schedule.Fair stations) :
    Agrees plan stations (f.past stations t :: pasts) (f.past stations t).finish := by
  have regular := (h.regular.past admits fair).regular
  refine ⟨regular, ?_, ?_⟩
  · intro i j hi hj hij
    rcases h.regular.past_row? admits fair j i with same | own | taken
    · obtain ⟨row, hrow, certified⟩ := h.certified i j hi hj hij
      refine ⟨row, same.trans hrow, ?_⟩
      rcases certified with blank | ⟨p, hp, announces⟩
      · exact Or.inl blank
      · exact Or.inr ⟨p, List.mem_cons_of_mem _ hp, announces⟩
    · exact absurd own.2.2 hij
    · obtain ⟨-, rfl, -, received⟩ := taken
      obtain ⟨row, announces, hrow⟩ := h.regular.past_received admits fair hj received
      exact ⟨row, hrow, Or.inr ⟨_, List.mem_cons_self, announces⟩⟩
  · intro i j hi hj hij p hp received
    by_cases turn : t.kind = .broadcast ∧ t.active plan = i
    · obtain ⟨kind, rfl⟩ := turn
      have now : latest plan (t.active plan) (f.past stations t :: pasts) =
          some (f.past stations t) := List.find?_cons_of_pos (by simp [past, kind])
      rw [now] at hp
      obtain rfl := Option.some.inj hp
      exact h.regular.past_received admits fair hj received
    · have before : latest plan i (f.past stations t :: pasts) = latest plan i pasts :=
        List.find?_cons_of_neg (by simpa [past] using turn)
      rw [before] at hp
      obtain ⟨row, announces, hrow⟩ := h.current i j hi hj hij p hp received
      refine ⟨row, announces, ?_⟩
      rcases h.regular.past_row? admits fair j i with same | own | taken
      · exact same.trans hrow
      · exact absurd own.2.2 hij
      · exact absurd ⟨taken.1, taken.2.1⟩ turn

end Agrees

theorem Surveyed.agrees {plan : Plan} {stations : Nat} {pasts : List Past} {f : Fleet}
    (run : Surveyed plan stations pasts f) (admits : plan.Admits stations) :
    Agrees plan stations pasts f := by
  induction run with
  | deployed _ positions settings nodes => exact Agrees.deployed admits settings nodes
  | slot t _ fair ih => exact ih.slot admits fair

/-- The rows that each slot of a survey has changed. -/
theorem Surveyed.changed {plan : Plan} {stations : Nat} {pasts : List Past} {f : Fleet}
    (run : Surveyed plan stations pasts f) (admits : plan.Admits stations) :
    ∀ p ∈ pasts, ∀ j slot, p.finish.row? j slot ≠ p.start.row? j slot →
      p.turn.kind = .ranging ∧ p.turn.active plan = j ∧ slot = j ∨
      p.turn.kind = .broadcast ∧ p.turn.active plan = slot ∧ j ≠ slot ∧ p.received j = true := by
  induction run with
  | deployed =>
    intro p hp
    cases hp
  | @slot pasts f t before fair ih =>
    intro p hp j slot changed
    rcases List.mem_cons.mp hp with rfl | hp
    · rcases (before.agrees admits).regular.past_row? admits fair j slot with same | changes
      · exact absurd same changed
      · exact changes
    · exact ih p hp j slot changed

/-- Agreement under loss: a row that a station holds of another one is blank or was on air in some
slot, and is the latest one if the station received in the last slot of that turn. -/
theorem rows_agree {plan : Plan} {stations : Nat} {pasts : List Past} {f : Fleet}
    (admits : plan.Admits stations) (run : Surveyed plan stations pasts f) :
    (∀ i j, i < stations → j < stations → i ≠ j → ∃ row, f.row? j i = some row ∧
      (row = Row.blank plan.nodeCount ∨ ∃ p ∈ pasts, p.Announces plan i row) ∧
      ∀ p, latest plan i pasts = some p → p.received j = true → p.Announces plan i row) ∧
    ∀ p ∈ pasts, ∀ j slot, p.finish.row? j slot ≠ p.start.row? j slot →
      p.turn.kind = .ranging ∧ p.turn.active plan = j ∧ slot = j ∨
      p.turn.kind = .broadcast ∧ p.turn.active plan = slot ∧ j ≠ slot ∧ p.received j = true := by
  have agrees := run.agrees admits
  refine ⟨?_, run.changed admits⟩
  intro i j hi hj hij
  obtain ⟨row, hrow, certified⟩ := agrees.certified i j hi hj hij
  refine ⟨row, hrow, certified, ?_⟩
  intro p hp received
  obtain ⟨row', announces, hrow'⟩ := agrees.current i j hi hj hij p hp received
  rw [hrow] at hrow'
  obtain rfl := Option.some.inj hrow'
  exact announces

def sally (kind : SlotKind) : Turn where
  kind
  slot := ⟨3, 0, 0, 1, 0⟩
  clock _ := .exact
  notify _ := false
  schedule := bumpy

theorem rows_agree_outpost :
    let first := outpost.past 3 (sally .ranging)
    let second := first.finish.past 3 (sally .broadcast)
    trio.Admits 3 ∧ Surveyed trio 3 [second, first] second.finish ∧
      ∃ row, second.finish.row? 1 0 = some row ∧
        (row = Row.blank 3 ∨ ∃ p ∈ [second, first], p.Announces trio 0 row) ∧
        (second.received 1 = true → second.Announces trio 0 row) := by
  intro first second
  have admits : trio.Admits 3 := by decide
  have fair : bumpy.Fair 3 := by decide
  have deployed : Surveyed trio 3 [] outpost := .deployed _ _ _ (by decide)
  have run : Surveyed trio 3 [second, first] second.finish := (deployed.slot _ fair).slot _ fair
  obtain ⟨row, hrow, certified, current⟩ :=
    (rows_agree admits run).1 0 1 (by decide) (by decide) (by decide)
  have turn : ((sally .broadcast).kind == .broadcast && (sally .broadcast).active trio == 0) =
      true := by decide
  exact ⟨admits, run, row, hrow, certified, current second (List.find?_cons_of_pos turn)⟩

end Fleet

end RangeSurvey
