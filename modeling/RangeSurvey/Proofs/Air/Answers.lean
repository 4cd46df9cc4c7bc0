import RangeSurvey.Proofs.Air.Draws
import RangeSurvey.Proofs.Air.Ranging
import RangeSurvey.Proofs.PeerSet.Rank

/-!
# Who answers a ranging request

A request makes one draw for each peer that exists and is within reach, in ascending order, and the
peers whose answer is not lost are those that answer, each at the distance of the medium. It has no
result only when the node that asks does not exist and a peer does.
-/

namespace RangeSurvey

namespace PeerSet

def ofList (l : List Nat) : PeerSet := l.foldr (fun p s => s.insert p) .empty

theorem contains_ofList (l : List Nat) (p : Nat) :
    (ofList l).contains p = (decide (p ∈ l) && decide (p < 32)) := by
  induction l with
  | nil => simp [ofList]
  | cons q l ih =>
    have first : (ofList (q :: l)).contains p =
        ((ofList l).contains p || (decide (p = q) && decide (q < 32))) := contains_insert ..
    rw [first, ih]
    by_cases same : p = q
    · simp [same]
    · simp [same]

/-- Slots in ascending order are the members of their set. -/
theorem members_ofList {l : List Nat} (ascending : l.Pairwise (· < ·)) (small : ∀ p ∈ l, p < 32) :
    (ofList l).members = l := by
  refine (eq_members ascending fun p => ?_).symm
  rw [contains_ofList, Bool.and_eq_true, decide_eq_true_eq, decide_eq_true_eq]
  exact ⟨fun h => ⟨h, small p h⟩, fun h => h.1⟩

end PeerSet

namespace Medium

/-- The peers that a request of node `i` gets to. -/
def reached (m : Medium) (i : Nat) (peers : PeerSet) : List Nat :=
  peers.members.filter (m.reaches i)

def answerLost (m : Medium) (i : Nat) (peers : PeerSet) (p : Nat) : Bool :=
  losesAt m.lossPercent m.random ((m.reached i peers).idxOf p)

/-- The peers that answer a request of node `i`. -/
def answering (m : Medium) (i : Nat) (peers : PeerSet) : List Nat :=
  (m.reached i peers).filter fun p => !m.answerLost i peers p

/-- Somebody who exists is asked by a node that does not. -/
def AsksFromNowhere (m : Medium) (i : Nat) (peers : List Nat) : Prop :=
  m.nodeCount ≤ i ∧ ∃ p ∈ peers, p < m.nodeCount

def requested (m : Medium) (i : Nat) (peers : PeerSet) : Medium :=
  ({ m with
      random := drawn m.lossPercent m.random (m.reached i peers).length
      counters := { m.counters with rangingRequests := m.counters.rangingRequests + 1 } } :
    Medium).modifyNode i fun n =>
      { n with
        answered := PeerSet.ofList (m.answering i peers)
        distances := (m.answering i peers).filterMap (m.distance? i) }

variable {m : Medium} {i : Nat}

theorem answering_eq (m : Medium) (i : Nat) (peers : PeerSet) :
    m.answering i peers = survivors m.lossPercent (m.reached i peers) m.random :=
  (survivors_eq_filter (peers.nodup_members.filter _)).symm

theorem mem_answering {peers : PeerSet} {p : Nat} :
    p ∈ m.answering i peers ↔
      peers.contains p = true ∧ m.reaches i p = true ∧ m.answerLost i peers p = false := by
  simp only [answering, reached, List.mem_filter, PeerSet.mem_members, Bool.not_eq_true', and_assoc]

theorem contains_answering (m : Medium) (i : Nat) (peers : PeerSet) (p : Nat) :
    (PeerSet.ofList (m.answering i peers)).contains p = decide (p ∈ m.answering i peers) := by
  rw [PeerSet.contains_ofList]
  by_cases answers : p ∈ m.answering i peers
  · simp [answers, PeerSet.lt_of_contains (mem_answering.mp answers).1]
  · simp [answers]

theorem members_answering (m : Medium) (i : Nat) (peers : PeerSet) :
    (PeerSet.ofList (m.answering i peers)).members = m.answering i peers := by
  refine PeerSet.members_ofList ((peers.members_ascending.filter _).filter _) fun p answers => ?_
  exact PeerSet.lt_of_contains (mem_answering.mp answers).1

/-- Everybody within reach has a distance. -/
theorem distances_within {peers : List Nat} (within : ∀ p ∈ peers, m.reaches i p = true) :
    (peers.filterMap (m.distance? i)).map some = peers.map (m.distance? i) := by
  induction peers with
  | nil => rfl
  | cons p peers ih =>
    obtain ⟨-, here, there⟩ := reaches_lt (within p List.mem_cons_self)
    obtain ⟨d, hd⟩ := distance?_of_lt here there
    rw [List.filterMap_cons_some hd, List.map_cons, List.map_cons, hd,
      ih fun q hq => within q (List.mem_cons_of_mem p hq)]

theorem distances_answering (m : Medium) (i : Nat) (peers : PeerSet) :
    ((m.answering i peers).filterMap (m.distance? i)).map some =
      (m.answering i peers).map (m.distance? i) :=
  distances_within fun _ answers => (mem_answering.mp answers).2.1

/-- The answers to a request, of which the peers come in order. -/
theorem ask?_eq (peers : List Nat) (random : Random) (asks : ¬ m.AsksFromNowhere i peers) :
    m.ask? i peers random = some
      ⟨drawn m.lossPercent random (peers.filter (m.reaches i)).length,
        PeerSet.ofList (survivors m.lossPercent (peers.filter (m.reaches i)) random),
        (survivors m.lossPercent (peers.filter (m.reaches i)) random).filterMap
          (m.distance? i)⟩ := by
  induction peers generalizing random with
  | nil => rfl
  | cons peer peers ih =>
    have rest := fun random => ih random fun ⟨absent, p, hp, present⟩ =>
      asks ⟨absent, p, List.mem_cons_of_mem peer hp, present⟩
    have skip (unreached : m.reaches i peer = false) :
        (peer :: peers).filter (m.reaches i) = peers.filter (m.reaches i) :=
      List.filter_cons_of_neg (Bool.eq_false_iff.mp unreached)
    simp only [ask?]
    split
    next beyond =>
      have unreached : m.reaches i peer = false := by
        rw [Bool.eq_false_iff]
        intro reaches
        exact absurd (reaches_lt reaches).2.2 (Nat.not_lt.mpr beyond)
      rw [skip unreached, rest]
    next inside =>
      have there : peer < m.nodeCount := Nat.lt_of_not_le inside
      have here : i < m.nodeCount := Nat.lt_of_not_le fun absent =>
        asks ⟨absent, peer, List.mem_cons_self, there⟩
      rw [hears?_of_lt here there]
      cases reaches : m.reaches i peer with
      | false => rw [skip reaches, rest]
      | true =>
        obtain ⟨d, hd⟩ := distance?_of_lt here there
        rw [List.filter_cons_of_pos reaches, survivors, List.length_cons, drawn]
        rcases drew : draw m.lossPercent random with ⟨random', _ | _⟩
        · simp [rest, hd, PeerSet.ofList]
        · simp [rest]

/-- Nobody who asks from nowhere gets an answer. -/
theorem ask?_nowhere {peers : List Nat} (nowhere : m.AsksFromNowhere i peers) (random : Random) :
    m.ask? i peers random = none := by
  obtain ⟨absent, p, hp, present⟩ := nowhere
  induction peers with
  | nil => cases hp
  | cons peer peers ih =>
    simp only [ask?]
    split
    next beyond =>
      refine ih ((List.mem_cons.mp hp).resolve_left fun same => ?_)
      exact Nat.not_lt.mpr beyond (same ▸ present)
    next inside =>
      have nobody : m.node? i = none := List.getElem?_eq_none absent
      have other : i ≠ peer := fun same => inside (same ▸ absent)
      have unheard : m.hears? i peer = none := by
        rw [hears?, if_neg other, distance?, nobody, Option.map_none]
      rw [unheard]

theorem asks_of_lt (hi : i < m.nodeCount) (peers : List Nat) : ¬ m.AsksFromNowhere i peers :=
  fun nowhere => Nat.not_le.mpr hi nowhere.1

theorem request?_eq (peers : PeerSet) (asks : ¬ m.AsksFromNowhere i peers.members) :
    m.request? i peers = some (m.requested i peers) := by
  rw [request?, ask?_eq _ _ asks, requested, answering_eq]
  rfl

theorem request?_nowhere {peers : PeerSet} (nowhere : m.AsksFromNowhere i peers.members) :
    m.request? i peers = none := by
  rw [request?, ask?_nowhere nowhere, Option.map_none]

/-- What the engine of a node hands out after a request. -/
theorem measured_requested (here : i < m.nodeCount) (peers : PeerSet) (cells : List Distance) :
    (m.requested i peers).measured i cells =
      (PeerSet.ofList (m.answering i peers),
        ((m.answering i peers).filterMap (m.distance? i)).take cells.length ++
          cells.drop ((m.answering i peers).filterMap (m.distance? i)).length) := by
  obtain ⟨n, hn⟩ := node?_of_lt here
  have there : m.nodes[i]? = some n := hn
  simp [measured, node?, requested, modifyNode, there]

theorem answering_lossless (lossless : m.lossPercent = 0) (i : Nat) (peers : PeerSet) :
    m.answering i peers = m.reached i peers := by
  rw [answering_eq, lossless, survivors_zero]

end Medium

end RangeSurvey
