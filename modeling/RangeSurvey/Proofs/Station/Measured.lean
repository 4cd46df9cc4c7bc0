import RangeSurvey.Proofs.Air.Answers
import RangeSurvey.Proofs.Station.Parts

/-!
# What a station measures

On a medium that loses nothing, a request leaves the station with a row that names the peers within
its reach and nobody else, and gives for each of them the distance of the medium, bit for bit.
-/

namespace RangeSurvey

/-- The row names exactly those of `n` nodes that node `i` reaches, at the distances that the medium
gives. -/
structure Medium.Measures (m : Medium) (n i : Nat) (row : Row) : Prop where
  peers : ∀ p, row.peers.contains p = (decide (p < n) && m.reaches i p)
  distances : ∀ p, row.peers.contains p = true → row.distance? p = m.distance? i p

namespace Medium.Measures

variable {m m' : Medium} {n i : Nat} {row : Row}

/-- Nobody has a distance to itself. -/
theorem misses (h : m.Measures n i row) : row.peers.contains i = false := by
  rw [h.peers]
  cases hr : m.reaches i i with
  | false => simp
  | true => exact absurd rfl (reaches_lt hr).1

theorem count_lt (h : m.Measures n i row) (hi : i < n) : row.peers.count < n := by
  refine PeerSet.count_lt ?_ hi h.misses
  intro p hp
  rw [h.peers] at hp
  simp only [Bool.and_eq_true, decide_eq_true_eq] at hp
  exact hp.1

/-- A row is not empty when somebody is within reach. -/
theorem count_ne_zero (h : m.Measures n i row) {p : Nat} (hp : p < n)
    (reaches : m.reaches i p = true) : row.peers.count ≠ 0 := by
  have member : p ∈ row.peers.members := by
    rw [PeerSet.mem_members, h.peers]
    simp [hp, reaches]
  rw [← PeerSet.length_members]
  exact Nat.ne_of_gt (List.length_pos_of_mem member)

theorem sameAir (h : m.Measures n i row) (air : m'.SameAir m) : m'.Measures n i row := by
  constructor
  · intro p
    rw [h.peers, air.reaches]
  · intro p hp
    rw [h.distances p hp, air.distance?]

end Medium.Measures

/-- What an engine hands out after a request on a medium that loses nothing. -/
theorem Medium.request?_measured {m m' : Medium} {i : Nat} {peers : PeerSet} (hi : i < m.nodeCount)
    (lossless : m.lossPercent = 0) (hm : m.request? i peers = some m') (cells : List Distance) :
    ∃ (answered : PeerSet) (distances : List Distance),
      m'.measured i cells = (answered, distances.take cells.length ++ cells.drop distances.length) ∧
      (∀ p, answered.contains p = (peers.contains p && m.reaches i p)) ∧
      distances.map some = answered.members.map (m.distance? i) := by
  have asked := request?_eq peers (asks_of_lt hi peers.members)
  rw [hm] at asked
  obtain rfl := Option.some.inj asked
  refine ⟨_, _, measured_requested hi peers cells, ?_, ?_⟩
  · intro p
    rw [contains_answering, answering_lossless lossless, Bool.eq_iff_iff]
    simp [reached, PeerSet.mem_members]
  · rw [distances_answering, members_answering]

namespace Row

/-- Values that are put into a row and claimed by as many peers stand at its front. -/
theorem cells_withPeers_fill {r : Row} {values cells : List Distance} {peers : PeerSet}
    (count : values.length = peers.count) (room : values.length ≤ r.capacity) :
    ((r.fill (values ++ cells)).withPeers peers).cells =
      values ++ List.replicate (r.capacity - peers.count) 0 := by
  have used : min peers.count (r.fill (values ++ cells)).capacity = values.length := by
    rw [capacity_fill]
    omega
  have front : (r.fill (values ++ cells)).cells.take values.length = values := by
    rw [fill, List.take_append_of_le_length, List.take_take, Nat.min_eq_left room,
      List.take_left]
    rw [List.length_take, List.length_append]
    omega
  simp only [withPeers, used, front]
  rw [capacity_fill, count]

/-- Distances that stand in the order of the peers are found by their ranks. -/
theorem distance?_eq {r : Row} {values rest : List Distance} {f : Nat → Option Distance}
    (cells : r.cells = values ++ rest) (order : values.map some = r.peers.members.map f) {p : Nat}
    (hp : r.peers.contains p = true) : r.distance? p = f p := by
  rw [distance?, cells]
  exact PeerSet.rank_values order _ hp

end Row

namespace Station

/-- A request on a medium that loses nothing leaves the station with what the medium measures. -/
theorem measure_measures {s : Station} {m m' : Medium} {row : Row} (own : s.ownRow? = some row)
    (capacity : row.capacity = s.nodeCount) (few : s.nodeCount ≤ maxNodes)
    (turn : s.slot < s.nodeCount) (node : s.slot < m.nodeCount) (lossless : m.lossPercent = 0)
    (hm : m.request? s.slot s.peers = some m') :
    ∃ row', (s.measure m').ownRow? = some row' ∧ m.Measures s.nodeCount s.slot row' := by
  obtain ⟨answered, distances, measured, contains, order⟩ :=
    Medium.request?_measured node lossless hm row.cells
  -- Only peers of the survey are asked, so that none of those who answer is left out.
  have named : ∀ p, answered.contains p = (decide (p < s.nodeCount) && m.reaches s.slot p) := by
    intro p
    rw [contains, peers, PeerSet.contains_others, Bool.eq_iff_iff]
    simp only [Bool.and_eq_true, decide_eq_true_eq]
    constructor
    · rintro ⟨⟨⟨below, -⟩, -⟩, reaches⟩
      exact ⟨below, reaches⟩
    · rintro ⟨below, reaches⟩
      have width : maxNodes = 32 := rfl
      exact ⟨⟨⟨below, by omega⟩, fun same => (Medium.reaches_lt reaches).1 same.symm⟩, reaches⟩
  have kept : answered.inter (PeerSet.below s.nodeCount) = answered := by
    apply PeerSet.ext_contains
    intro p
    rw [PeerSet.contains_inter, PeerSet.contains_below, Bool.eq_iff_iff]
    simp only [Bool.and_eq_true, decide_eq_true_eq]
    constructor
    · exact fun h => h.1
    · intro h
      have below := h
      rw [named] at below
      simp only [Bool.and_eq_true, decide_eq_true_eq] at below
      exact ⟨h, below.1, PeerSet.lt_of_contains h⟩
  have count : distances.length = answered.count := by
    have length := congrArg List.length order
    rw [List.length_map, List.length_map, PeerSet.length_members] at length
    exact length
  have room : distances.length ≤ row.capacity := by
    have within : ∀ p, answered.contains p = true → p < s.nodeCount := by
      intro p hp
      rw [named] at hp
      simp only [Bool.and_eq_true, decide_eq_true_eq] at hp
      exact hp.1
    have missing : answered.contains s.slot = false := by
      rw [contains, peers, PeerSet.contains_others]
      simp
    have := PeerSet.count_lt within turn missing
    omega
  refine ⟨(row.fill (distances ++ row.cells.drop distances.length)).withPeers answered, ?_, named,
    fun p hp => Row.distance?_eq (Row.cells_withPeers_fill count room) order hp⟩
  have whole : distances.take row.cells.length = distances := List.take_of_length_le room
  simp only [measure, own, measured, whole, endRequest, kept]
  change (s.table.modifyRow s.slot _).row? s.slot = _
  rw [Table.row?_modifyRow_self, show s.table.row? s.slot = some row from own, Option.map_some]

end Station

end RangeSurvey
