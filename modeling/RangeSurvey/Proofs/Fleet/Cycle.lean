import RangeSurvey.Proofs.Fleet.Calm
import RangeSurvey.Proofs.Slot.Rotation

/-!
# A full survey cycle

A cycle gives every station one round, with a ranging slot and a broadcast slot. On a medium that
loses nothing, and if nothing disturbs it, it leaves every station with its own measurements and
with those of all stations that reach it.
-/

namespace RangeSurvey

namespace Plan

/-- The stations whose turn it is in `k` rounds from round `start` on. -/
def actives (plan : Plan) (start k : Nat) : List Nat :=
  (List.range k).map fun r => (start + r) % plan.nodeCount

variable {plan : Plan} {start k : Nat}

theorem actives_succ :
    plan.actives start (k + 1) = plan.actives start k ++ [(start + k) % plan.nodeCount] := by
  simp only [actives, List.range_succ, List.map_append, List.map_cons, List.map_nil]

/-- Nobody has a second turn in a cycle. -/
theorem not_mem_actives (hk : k < plan.nodeCount) :
    (start + k) % plan.nodeCount ∉ plan.actives start k := by
  intro mem
  obtain ⟨r, hr, same⟩ := List.mem_map.mp mem
  have before : r < k := List.mem_range.mp hr
  exact Nat.ne_of_lt before (Rotation.remainder_inj (Nat.lt_trans before hk) hk same)

/-- Everybody has a turn in a cycle. -/
theorem mem_actives {i : Nat} (hi : i < plan.nodeCount) :
    i ∈ plan.actives start plan.nodeCount := by
  obtain ⟨k, hk, turn⟩ := Rotation.exists_remainder start hi
  exact List.mem_map.mpr ⟨k, List.mem_range.mpr hk, turn⟩

theorem count_actives {i : Nat} (hi : i < plan.nodeCount) :
    (plan.actives start plan.nodeCount).count i = 1 := by
  rw [actives, List.count, List.countP_map]
  exact Rotation.countP_remainder start hi

end Plan

namespace Fleet

/-- `k` rounds of a cycle that starts with round `start`, since the fleet was deployed. The last
slot comes first. -/
inductive Cycle (generator : UInt64 → Random) (plan : Plan) (positions : List Point)
    (settings : MediumSettings) (start : Nat) : Nat → List Past → Fleet → Prop where
  | deployed : Cycle generator plan positions settings start 0 []
      (deploy generator plan positions settings plan.nodeCount)
  | round {k : Nat} {pasts : List Past} {f : Fleet} (t u : Turn) :
      Cycle generator plan positions settings start k pasts f →
      t.Smooth .ranging (start + k) plan.nodeCount →
      u.Smooth .broadcast (start + k) plan.nodeCount →
      Cycle generator plan positions settings start (k + 1)
        ((f.past plan.nodeCount t).finish.past plan.nodeCount u :: f.past plan.nodeCount t :: pasts)
        ((f.past plan.nodeCount t).finish.past plan.nodeCount u).finish

/-- A receiver that the active station reaches has received without a failure, and any other one has
timed out. -/
def Served (plan : Plan) (m : Medium) (p : Past) : Prop :=
  p.turn.kind = .broadcast → ∀ j, j < plan.nodeCount → p.turn.active plan ≠ j →
    ∃ report, p.reports j = [report] ∧ report.role = .receiver ∧
      if m.reaches (p.turn.active plan) j then report.status.succeeded = true
      else report.status.timedOut = true

/-! ## One round -/

/-- What a round does whose turn is that of station `a`, over the air of `m`. The fleet is `f`
before it, and its slots are `first` and `second`. -/
structure Round (plan : Plan) (m : Medium) (a : Nat) (f : Fleet) (first second : Past) : Prop where
  undisturbed : Undisturbed plan m second.finish
  others : ∀ i j, i ≠ a → second.finish.row? j i = f.row? j i
  measured : ∃ row, second.finish.row? a a = some row ∧ m.Measures plan.nodeCount a row
  known : ∀ j, j < plan.nodeCount → a ≠ j → m.reaches a j = true →
    second.finish.row? j a = second.finish.row? a a
  missed : ∀ j, j < plan.nodeCount → a ≠ j → m.reaches a j = false →
    second.finish.row? j a = f.row? j a
  requests : ∀ i, i < plan.nodeCount →
    first.plays i .requester = (a == i) ∧ second.plays i .requester = false
  broadcasts : ∀ i, i < plan.nodeCount →
    first.plays i .broadcaster = false ∧ second.plays i .broadcaster = (a == i)
  served : Served plan m first ∧ Served plan m second

/-- A round brings the measurements of the station whose turn it is to all whom it reaches. -/
theorem Undisturbed.round {plan : Plan} {m : Medium} {round : Nat} {f : Fleet} {t u : Turn}
    (h : Undisturbed plan m f) (admits : plan.Admits plan.nodeCount) (lossless : m.lossPercent = 0)
    (ranging : t.Smooth .ranging round plan.nodeCount)
    (broadcast : u.Smooth .broadcast round plan.nodeCount) :
    Round plan m (u.active plan) f (f.past plan.nodeCount t)
      ((f.past plan.nodeCount t).finish.past plan.nodeCount u) := by
  have after := h.past admits ranging
  have turn : t.active plan = u.active plan := by rw [ranging.active, broadcast.active]
  obtain ⟨row, hrow, measures⟩ := h.ranged admits lossless ranging
  rw [turn] at hrow measures
  have own : ((f.past plan.nodeCount t).finish.past plan.nodeCount u).finish.row? (u.active plan)
      (u.active plan) = (f.past plan.nodeCount t).finish.row? (u.active plan) (u.active plan) :=
    after.broadcast_row? admits broadcast fun h => h
  have told := fun j (hj : j < plan.nodeCount) (hne : u.active plan ≠ j) =>
    after.announced admits lossless broadcast hrow measures hj hne
  refine ⟨after.past admits broadcast, ?_, ⟨row, own.trans hrow, measures⟩, ?_, ?_, ?_, ?_, ?_⟩
  · intro i j other
    rw [after.broadcast_row? admits broadcast fun same => absurd same.symm other]
    refine h.ranging_row? admits ranging ?_
    intro same own
    exact other (own.trans (same.symm.trans turn))
  · intro j hj hne reaches
    obtain ⟨report, -, -, heard, -⟩ := told j hj hne
    rw [(heard reaches).2, own, hrow]
  · intro j hj hne reaches
    obtain ⟨report, -, -, -, unheard⟩ := told j hj hne
    rw [(unheard reaches).2]
    exact h.ranging_row? admits ranging fun _ same => hne same
  · intro i hi
    rw [h.plays admits ranging hi, after.plays admits broadcast hi, turn]
    cases u.active plan == i <;> exact ⟨rfl, rfl⟩
  · intro i hi
    rw [h.plays admits ranging hi, after.plays admits broadcast hi]
    cases t.active plan == i <;> cases u.active plan == i <;> exact ⟨rfl, rfl⟩
  · constructor
    · intro kind
      have impossible := ranging.kind.symm.trans kind
      cases impossible
    · intro _ j hj hne
      obtain ⟨report, reports, role, heard, unheard⟩ := told j hj hne
      refine ⟨report, reports, role, ?_⟩
      change if m.reaches (u.active plan) j then _ else _
      cases hr : m.reaches (u.active plan) j with
      | true => exact (heard hr).1
      | false => exact (unheard hr).1

/-! ## Any number of rounds -/

/-- What `k` rounds have brought about over the air of `m`. Whoever has had its turn has measured,
and is known to all whom it reaches; everything else is blank. -/
structure Cycled (plan : Plan) (m : Medium) (start k : Nat) (pasts : List Past) (f : Fleet) :
    Prop where
  undisturbed : Undisturbed plan m f
  measured : ∀ i, i < plan.nodeCount → i ∈ plan.actives start k →
    ∃ row, f.row? i i = some row ∧ m.Measures plan.nodeCount i row
  pending : ∀ i, i < plan.nodeCount → i ∉ plan.actives start k →
    f.row? i i = some (Row.blank plan.nodeCount)
  known : ∀ i j, i < plan.nodeCount → j < plan.nodeCount → i ≠ j → i ∈ plan.actives start k →
    m.reaches i j = true → f.row? j i = f.row? i i
  blank : ∀ i j, i < plan.nodeCount → j < plan.nodeCount → i ≠ j →
    (i ∈ plan.actives start k → m.reaches i j = false) →
      f.row? j i = some (Row.blank plan.nodeCount)
  requests : ∀ i, i < plan.nodeCount →
    pasts.countP (fun p => p.plays i .requester) = (plan.actives start k).count i
  broadcasts : ∀ i, i < plan.nodeCount →
    pasts.countP (fun p => p.plays i .broadcaster) = (plan.actives start k).count i
  served : ∀ p ∈ pasts, Served plan m p

namespace Cycled

variable {plan : Plan} {m : Medium} {start k : Nat} {pasts : List Past} {f : Fleet}

theorem deployed {generator : UInt64 → Random} (admits : plan.Admits plan.nodeCount)
    {positions : List Point} (settings : MediumSettings)
    (nodes : plan.nodeCount ≤ positions.length) :
    Cycled plan (Medium.seeded generator positions settings) start 0 []
      (deploy generator plan positions settings plan.nodeCount) := by
  obtain ⟨trace, deployed⟩ :=
    deploy_eq admits positions settings plan.nodeCount (Nat.le_refl _) nodes
  have blank : ∀ i j, i < plan.nodeCount → j < plan.nodeCount →
      (deploy generator plan positions settings plan.nodeCount).row? j i =
        some (Row.blank plan.nodeCount) :=
    fun i j hi hj => row?_deploy admits settings nodes hj hi
  have nobody : ∀ i, i ∉ plan.actives start 0 := by
    intro i hi
    cases hi
  refine ⟨⟨regular_deploy admits settings nodes, ?_, ?_⟩, ?_, ?_, ?_, ?_, ?_, ?_, ?_⟩
  · rw [deployed]
    exact Medium.SameAir.refl _
  · intro n hn
    rw [deployed] at hn
    obtain ⟨position, -, rfl⟩ := List.mem_map.mp hn
    exact ⟨rfl, rfl⟩
  · exact fun i _ turn => absurd turn (nobody i)
  · exact fun i hi _ => blank i i hi hi
  · exact fun i _ _ _ _ turn => absurd turn (nobody i)
  · exact fun i j hi hj _ _ => blank i j hi hj
  · exact fun _ _ => rfl
  · exact fun _ _ => rfl
  · intro p hp
    cases hp

theorem round (h : Cycled plan m start k pasts f) (hk : k < plan.nodeCount) {first second : Past}
    (round : Round plan m ((start + k) % plan.nodeCount) f first second) :
    Cycled plan m start (k + 1) (second :: first :: pasts) second.finish := by
  have fresh : (start + k) % plan.nodeCount ∉ plan.actives start k := Plan.not_mem_actives hk
  have mem : ∀ i, i ∈ plan.actives start (k + 1) ↔
      i ∈ plan.actives start k ∨ i = (start + k) % plan.nodeCount := by
    intro i
    rw [Plan.actives_succ, List.mem_append, List.mem_singleton]
  have count : ∀ i, (plan.actives start (k + 1)).count i =
      (plan.actives start k).count i + if (start + k) % plan.nodeCount == i then 1 else 0 := by
    intro i
    rw [Plan.actives_succ, List.count_append, List.count_singleton]
  generalize (start + k) % plan.nodeCount = a at round fresh mem count
  refine ⟨round.undisturbed, ?_, ?_, ?_, ?_, ?_, ?_, ?_⟩
  · intro i hi turn
    by_cases hia : i = a
    · subst hia
      exact round.measured
    · rw [round.others i i hia]
      exact h.measured i hi (((mem i).mp turn).resolve_right hia)
  · intro i hi later
    rw [mem, not_or] at later
    rw [round.others i i later.2]
    exact h.pending i hi later.1
  · intro i j hi hj hij turn reaches
    by_cases hia : i = a
    · subst hia
      exact round.known j hj hij reaches
    · rw [round.others i j hia, round.others i i hia]
      exact h.known i j hi hj hij (((mem i).mp turn).resolve_right hia) reaches
  · intro i j hi hj hij unheard
    by_cases hia : i = a
    · subst hia
      rw [round.missed j hj hij (unheard ((mem i).mpr (Or.inr rfl)))]
      exact h.blank i j hi hj hij fun turn => absurd turn fresh
    · rw [round.others i j hia]
      exact h.blank i j hi hj hij fun turn => unheard ((mem i).mpr (Or.inl turn))
  · intro i hi
    obtain ⟨now, not⟩ := round.requests i hi
    simp only [List.countP_cons, now, not, h.requests i hi, count, Bool.false_eq_true, if_false,
      Nat.add_zero]
  · intro i hi
    obtain ⟨not, now⟩ := round.broadcasts i hi
    simp only [List.countP_cons, now, not, h.broadcasts i hi, count, Bool.false_eq_true, if_false,
      Nat.add_zero]
  · intro p hp
    rcases List.mem_cons.mp hp with rfl | hp
    · exact round.served.2
    · rcases List.mem_cons.mp hp with rfl | hp
      · exact round.served.1
      · exact h.served p hp

end Cycled

theorem Cycle.cycled {generator : UInt64 → Random} {plan : Plan} {positions : List Point}
    {settings : MediumSettings} {start k : Nat} {pasts : List Past} {f : Fleet}
    (admits : plan.Admits plan.nodeCount)
    (nodes : plan.nodeCount ≤ positions.length) (lossless : settings.lossPercent = 0)
    (cycle : Cycle generator plan positions settings start k pasts f) (hk : k ≤ plan.nodeCount) :
    Cycled plan (Medium.seeded generator positions settings) start k pasts f := by
  induction cycle with
  | deployed => exact Cycled.deployed admits settings nodes
  | round t u _ ranging broadcast ih =>
    have before := ih (by omega)
    have round := before.undisturbed.round admits lossless ranging broadcast
    rw [broadcast.active] at round
    exact before.round (by omega) round

/-- What a survey is for, over the air of `m`: the own rows hold what the medium measures, whoever
is within reach of a station knows its row, and nobody has a distance to itself. No station waits
for anything, each has had either turn once, and all receivers were served. -/
structure Complete (plan : Plan) (m : Medium) (pasts : List Past) (f : Fleet) : Prop where
  measured : ∀ i, i < plan.nodeCount → ∃ row, f.row? i i = some row ∧
    m.Measures plan.nodeCount i row
  shared : ∀ i j, i < plan.nodeCount → j < plan.nodeCount → i ≠ j →
    f.row? j i = if m.reaches i j then f.row? i i else some (Row.blank plan.nodeCount)
  irreflexive : ∀ i j, i < plan.nodeCount → j < plan.nodeCount →
    ∃ row, f.row? j i = some row ∧ row.distance? i = none
  idle : ∀ s ∈ f.stations, s.isIdle = true
  requests : ∀ i, i < plan.nodeCount → pasts.countP (fun p => p.plays i .requester) = 1
  broadcasts : ∀ i, i < plan.nodeCount → pasts.countP (fun p => p.plays i .broadcaster) = 1
  served : ∀ p ∈ pasts, Served plan m p

/-- A full cycle on a medium that loses nothing completes the survey: any number of stations that a
survey may have, anywhere, with any reach, and with the rounds starting anywhere. -/
theorem cycle_completes {generator : UInt64 → Random} {plan : Plan} {positions : List Point}
    {settings : MediumSettings} {start : Nat} {pasts : List Past} {f : Fleet}
    (admits : plan.Admits plan.nodeCount)
    (nodes : plan.nodeCount ≤ positions.length) (lossless : settings.lossPercent = 0)
    (cycle : Cycle generator plan positions settings start plan.nodeCount pasts f) :
    Complete plan (Medium.seeded generator positions settings) pasts f := by
  have h := cycle.cycled admits nodes lossless (Nat.le_refl _)
  have turn : ∀ i, i < plan.nodeCount → i ∈ plan.actives start plan.nodeCount :=
    fun i hi => Plan.mem_actives hi
  have measured := fun i hi => h.measured i hi (turn i hi)
  have shared : ∀ i j, i < plan.nodeCount → j < plan.nodeCount → i ≠ j → f.row? j i =
      if (Medium.seeded generator positions settings).reaches i j then f.row? i i
      else some (Row.blank plan.nodeCount) := by
    intro i j hi hj hij
    cases hr : (Medium.seeded generator positions settings).reaches i j with
    | true => exact h.known i j hi hj hij (turn i hi) hr
    | false => exact h.blank i j hi hj hij fun _ => hr
  refine ⟨measured, shared, ?_, ?_, ?_, ?_, h.served⟩
  · intro i j hi hj
    obtain ⟨row, hrow, measures⟩ := measured i hi
    have unranked : row.distance? i = none := by
      rw [Row.distance?, PeerSet.rank_none measures.misses, Option.bind_none]
    by_cases hij : i = j
    · subst hij
      exact ⟨row, hrow, unranked⟩
    · rw [shared i j hi hj hij]
      cases (Medium.seeded generator positions settings).reaches i j with
      | true => exact ⟨row, hrow, unranked⟩
      | false =>
        refine ⟨_, rfl, ?_⟩
        rw [Row.distance?, Row.blank, PeerSet.rank_none (PeerSet.contains_empty i),
          Option.bind_none]
  · intro s hs
    rw [Station.isIdle, h.undisturbed.regular.atRest.available s hs]
    rfl
  · intro i hi
    rw [h.requests i hi, Plan.count_actives hi]
  · intro i hi
    rw [h.broadcasts i hi, Plan.count_actives hi]

def lull (kind : SlotKind) (round : UInt32) : Turn where
  kind
  slot := ⟨round, 0, 0, 1, 0⟩
  clock _ := .exact
  notify _ := false
  schedule := ⟨[.look 0, .look 1, .look 2, .look 2, .look 1, .look 0],
    [.look 1, .look 0, .look 2]⟩

theorem smooth_lull (kind : SlotKind) (round : UInt32) :
    (lull kind round).Smooth kind round.toNat 3 := by
  refine ⟨rfl, rfl, ?_, ?_⟩
  · change Schedule.Fair ⟨_, _⟩ 3
    decide
  · simp [Schedule.Calm, lull]

/-- Three stations in a row of which only neighbours hear each other. -/
theorem cycle_completes_trio :
    let positions : List Point := [⟨0, 0⟩, ⟨0x40400000, 0⟩, ⟨0x40C00000, 0⟩]
    let settings : MediumSettings := { range := 0x40800000 }
    ∃ pasts f, trio.Admits 3 ∧ Cycle wyrand trio positions settings 4 3 pasts f ∧
      Complete trio (Medium.seeded wyrand positions settings) pasts f := by
  intro positions settings
  have admits : trio.Admits 3 := by decide
  have start : Cycle wyrand trio positions settings 4 0 []
      (deploy wyrand trio positions settings 3) := .deployed
  have first := start.round _ _ (smooth_lull .ranging 4) (smooth_lull .broadcast 4)
  have second := first.round _ _ (smooth_lull .ranging 5) (smooth_lull .broadcast 5)
  have third := second.round _ _ (smooth_lull .ranging 6) (smooth_lull .broadcast 6)
  exact ⟨_, _, admits, third, cycle_completes admits (by decide) rfl third⟩

end Fleet

end RangeSurvey
