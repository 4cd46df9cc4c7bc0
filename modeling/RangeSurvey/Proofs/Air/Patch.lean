import RangeSurvey.Proofs.Air.Ranging
import RangeSurvey.Proofs.Site.Deeds

/-!
# Changes at one node of the medium

What the radio and the engine of one node do is a patch of the medium: the node changes, and a
request draws random numbers and measures. The radio of another node takes no notice of a patch,
and neither does its engine as long as the patch is quiet.
-/

namespace RangeSurvey

namespace Medium

/-- A change of a medium at one node, with what is drawn and counted meanwhile. -/
structure Patch where
  unit : Nat
  node : Node → Node := id
  random : Random → Random := id
  requests : Nat := 0
  listens : Nat := 0

namespace Patch

def apply (q : Patch) (m : Medium) : Medium :=
  { m with
    nodes := m.nodes.modify q.unit q.node
    random := q.random m.random
    counters := { m.counters with
      rangingRequests := m.counters.rangingRequests + q.requests
      rangingListens := m.counters.rangingListens + q.listens } }

/-- Nothing is drawn, and the node stays where it is and keeps what it has measured. -/
structure Quiet (q : Patch) : Prop where
  random : ∀ r, q.random r = r
  position : ∀ n, (q.node n).position = n.position
  answered : ∀ n, (q.node n).answered = n.answered
  distances : ∀ n, (q.node n).distances = n.distances

variable {q : Patch} {m : Medium} {u : Nat}

theorem node?_apply (q : Patch) (m : Medium) (u : Nat) :
    (q.apply m).node? u = if q.unit = u then (m.node? u).map q.node else m.node? u := by
  simp only [node?, apply, List.getElem?_modify]
  split <;> simp

theorem modifyNode_apply (other : q.unit ≠ u) (m : Medium) (g : Node → Node) :
    (q.apply m).modifyNode u g = q.apply (m.modifyNode u g) := by
  simp only [modifyNode, apply, List.modify_modify_ne q.node g m.nodes other]

theorem armTransmit_apply (other : q.unit ≠ u) (m : Medium) :
    (q.apply m).armTransmit u = (q.apply (m.armTransmit u).1, (m.armTransmit u).2) := by
  simp only [armTransmit, node?_apply, if_neg other]
  split
  · rfl
  · split
    · rw [modifyNode_apply other]
    · rw [modifyNode_apply other]

theorem armReceive_apply (other : q.unit ≠ u) (m : Medium) :
    (q.apply m).armReceive u = (q.apply (m.armReceive u).1, (m.armReceive u).2) := by
  simp only [armReceive, node?_apply, if_neg other]
  split
  · rfl
  · split
    · rw [modifyNode_apply other]
    · rw [modifyNode_apply other]

theorem nodeCount_apply (q : Patch) (m : Medium) : (q.apply m).nodeCount = m.nodeCount :=
  List.length_modify ..

theorem Quiet.sameAir (quiet : q.Quiet) (m : Medium) : m.SameAir (q.apply m) := by
  refine ⟨rfl, rfl, fun i => ?_⟩
  rw [node?_apply]
  split
  · cases m.node? i with
    | none => rfl
    | some n => simp [quiet.position]
  · rfl

theorem Quiet.ask? (quiet : q.Quiet) (m : Medium) (i : Nat) (peers : List Nat) (random : Random) :
    (q.apply m).ask? i peers random = m.ask? i peers random := by
  have air := quiet.sameAir m
  induction peers generalizing random with
  | nil => rfl
  | cons peer peers ih =>
    simp only [Medium.ask?, nodeCount_apply, hears?, air.distance?, air.range, air.lossPercent, ih]

theorem Quiet.request? (quiet : q.Quiet) (other : q.unit ≠ u) (m : Medium) (peers : PeerSet) :
    (q.apply m).request? u peers = (m.request? u peers).map q.apply := by
  have same : (q.apply m).random = m.random := quiet.random m.random
  simp only [Medium.request?, quiet.ask?, same, Option.map_map]
  congr 1
  funext a
  rw [Function.comp_apply, ← modifyNode_apply other]
  simp only [apply, modifyNode, quiet.random, Nat.add_right_comm]

theorem Quiet.measured (quiet : q.Quiet) (m : Medium) (i : Nat) (cells : List Distance) :
    (q.apply m).measured i cells = m.measured i cells := by
  simp only [Medium.measured, node?_apply]
  by_cases here : q.unit = i
  · rw [if_pos here]
    cases m.node? i with
    | none => rfl
    | some n => simp only [Option.map_some, quiet.answered, quiet.distances]
  · rw [if_neg here]

theorem pollExchange_apply {e : Exchange} {id : Nat} (other : q.unit ≠ u)
    (quiet : e.measurer? id ≠ none → q.Quiet) (m : Medium) (first : Bool) :
    (q.apply m).pollExchange u first e =
      (q.apply (m.pollExchange u first e).1, (m.pollExchange u first e).2) := by
  cases e with
  | listen start timeout =>
    cases first with
    | true => simp [pollExchange, listen, apply, Nat.add_right_comm]
    | false => rfl
  | request destination start mode peers =>
    cases first with
    | true => rfl
    | false =>
      simp only [pollExchange, Bool.false_eq_true, if_false, (quiet nofun).request? other]
      cases m.request? u peers <;> rfl

/-- Patches of different nodes, of which one at most draws random numbers, may be applied in either
order. -/
theorem apply_comm {r : Patch} (other : q.unit ≠ r.unit) (quiet : q.Quiet ∨ r.Quiet) (m : Medium) :
    q.apply (r.apply m) = r.apply (q.apply m) := by
  have nodes := List.modify_modify_ne r.node q.node m.nodes (Ne.symm other)
  have random : q.random (r.random m.random) = r.random (q.random m.random) := by
    rcases quiet with quiet | quiet
    · rw [quiet.random, quiet.random]
    · rw [quiet.random, quiet.random]
  simp only [apply, nodes, random, Nat.add_right_comm]

def andThen (first second : Patch) : Patch where
  unit := first.unit
  node := second.node ∘ first.node
  random := second.random ∘ first.random
  requests := first.requests + second.requests
  listens := first.listens + second.listens

theorem andThen_apply {first second : Patch} (same : second.unit = first.unit) (m : Medium) :
    (first.andThen second).apply m = second.apply (first.apply m) := by
  simp only [apply, andThen, same, List.modify_modify_eq, Function.comp_apply, Nat.add_assoc]

theorem Quiet.andThen {first second : Patch} (hf : first.Quiet) (hs : second.Quiet) :
    (first.andThen second).Quiet where
  random r := (hs.random _).trans (hf.random r)
  position n := (hs.position _).trans (hf.position n)
  answered n := (hs.answered _).trans (hf.answered n)
  distances n := (hs.distances _).trans (hf.distances n)

end Patch

/-- The medium changes at node `unit` alone, and only by ranging, if it is allowed at all, does it
draw or measure anything. -/
def Goes (unit : Nat) (ranging : Prop) (m m' : Medium) : Prop :=
  ∃ q : Patch, q.unit = unit ∧ (¬ ranging → q.Quiet) ∧ m' = q.apply m

namespace Goes

variable {unit : Nat} {ranging : Prop} {m m' m'' : Medium}

theorem refl (unit : Nat) (ranging : Prop) (m : Medium) : Goes unit ranging m m := by
  refine ⟨{ unit }, rfl, fun _ => ⟨fun _ => rfl, fun _ => rfl, fun _ => rfl, fun _ => rfl⟩, ?_⟩
  simp [Patch.apply]

theorem trans (first : Goes unit ranging m m') (second : Goes unit ranging m' m'') :
    Goes unit ranging m m'' := by
  obtain ⟨q, hq, quiet, rfl⟩ := first
  obtain ⟨r, hr, quiet', rfl⟩ := second
  exact ⟨q.andThen r, hq, fun h => (quiet h).andThen (quiet' h),
    (Patch.andThen_apply (hr.trans hq.symm) m).symm⟩

theorem modifyNode (m : Medium) (unit : Nat) (ranging : Prop) (g : Node → Node)
    (position : ∀ n, (g n).position = n.position) (answered : ∀ n, (g n).answered = n.answered)
    (distances : ∀ n, (g n).distances = n.distances) :
    Goes unit ranging m (m.modifyNode unit g) :=
  ⟨{ unit, node := g }, rfl, fun _ => ⟨fun _ => rfl, position, answered, distances⟩, rfl⟩

theorem armTransmit (m : Medium) (unit : Nat) (ranging : Prop) :
    Goes unit ranging m (m.armTransmit unit).1 := by
  simp only [Medium.armTransmit]
  split
  · exact refl unit ranging m
  · split
    · exact modifyNode m unit ranging _ (fun _ => rfl) (fun _ => rfl) fun _ => rfl
    · exact modifyNode m unit ranging _ (fun _ => rfl) (fun _ => rfl) fun _ => rfl

theorem armReceive (m : Medium) (unit : Nat) (ranging : Prop) :
    Goes unit ranging m (m.armReceive unit).1 := by
  simp only [Medium.armReceive]
  split
  · exact refl unit ranging m
  · split
    · exact modifyNode m unit ranging _ (fun _ => rfl) (fun _ => rfl) fun _ => rfl
    · exact modifyNode m unit ranging _ (fun _ => rfl) (fun _ => rfl) fun _ => rfl

theorem pollExchange (m : Medium) (unit : Nat) (first : Bool) {e : Exchange} {id : Nat}
    (asks : e.measurer? id ≠ none → ranging) :
    Goes unit ranging m (m.pollExchange unit first e).1 := by
  cases e with
  | listen start timeout =>
    cases first with
    | true =>
      exact ⟨{ unit, listens := 1 }, rfl,
        fun _ => ⟨fun _ => rfl, fun _ => rfl, fun _ => rfl, fun _ => rfl⟩,
        by simp [Medium.pollExchange, Medium.listen, Patch.apply]⟩
    | false => exact refl unit ranging m
  | request destination start mode peers =>
    have asked : ranging := asks nofun
    cases first with
    | true => exact refl unit ranging m
    | false =>
      simp only [Medium.pollExchange, Bool.false_eq_true, if_false]
      cases requested : m.request? unit peers with
      | none => exact refl unit ranging m
      | some m' =>
        simp only [request?, Option.map_eq_some_iff] at requested
        obtain ⟨a, -, rfl⟩ := requested
        exact ⟨{ unit
                 node := fun n => { n with answered := a.answered, distances := a.distances }
                 random := fun _ => a.random
                 requests := 1 }, rfl, fun h => absurd asked h, rfl⟩

end Goes

/-- A radio on the medium reports nothing before it has started. -/
theorem armTransmit_silent (m : Medium) (unit : Nat) {events : List RadioEvent}
    (started : (m.armTransmit unit).2 = .ok events) : events = [] := by
  simp only [armTransmit] at started
  split at started
  · cases started
  · split at started
    · cases started
    · exact (Except.ok.inj started).symm

theorem armReceive_silent (m : Medium) (unit : Nat) {events : List RadioEvent}
    (started : (m.armReceive unit).2 = .ok events) : events = [] := by
  simp only [armReceive] at started
  split at started
  · cases started
  · split at started
    · cases started
    · exact (Except.ok.inj started).symm

end Medium

end RangeSurvey
