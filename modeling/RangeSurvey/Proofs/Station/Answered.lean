import RangeSurvey.Proofs.Row.Sound
import RangeSurvey.Proofs.Station.Measured

/-!
# What an engine leaves in a row

An engine packs a distance for each peer that has answered into the cells of the own row, in
ascending order of the peer. The peers beyond the survey come last, so that the row can leave them
out and every other distance stays with its peer. What the engine does not write over stays in the
row up to the last peer that it names.
-/

namespace RangeSurvey

namespace PeerSet

/-- Some cells begin with the values of the members in ascending order, as many as there is room
for. -/
def Packed (s : PeerSet) (value : Nat → Distance) (cells : List Distance) : Prop :=
  cells.take s.count = (s.members.map value).take cells.length

/-- The values of the members are packed when they are written over the front of some cells. -/
theorem packed_values (s : PeerSet) (value : Nat → Distance) (cells : List Distance) :
    s.Packed value
      ((s.members.map value).take cells.length ++ cells.drop (s.members.map value).length) := by
  have size : (s.members.map value).length = s.count := by
    rw [List.length_map, length_members]
  have length : min cells.length s.count + (cells.length - s.count) = cells.length := by omega
  rw [Packed, List.length_append, List.length_take, List.length_drop, size, length]
  rcases Nat.le_total s.count cells.length with room | full
  · have whole : (s.members.map value).length ≤ cells.length :=
      Nat.le_trans (Nat.le_of_eq size) room
    rw [List.take_of_length_le whole, List.take_left' size]
  · have short : ((s.members.map value).take cells.length).length ≤ s.count := by
      rw [List.length_take]
      omega
    rw [List.drop_eq_nil_of_le full, List.append_nil, List.take_of_length_le short]

end PeerSet

namespace Row

/-- The cells that belong to the members below `n` hold the values of these members. -/
theorem cells_of_packed {reported : PeerSet} {value : Nat → Distance} {cells : List Distance}
    (packed : reported.Packed value cells) {n : Nat} (size : cells.length = n) :
    cells = (reported.inter (PeerSet.below n)).members.map value ++
      cells.drop (reported.inter (PeerSet.below n)).count := by
  obtain ⟨beyond, members⟩ := PeerSet.members_inter_below reported n
  have within := PeerSet.within_iff.mp (PeerSet.within_inter_below reported n)
  have room : (reported.inter (PeerSet.below n)).count ≤ cells.length := by
    rw [size]
    exact PeerSet.count_le within
  have fewer : (reported.inter (PeerSet.below n)).count ≤ reported.count := by
    rw [← PeerSet.length_members, ← PeerSet.length_members, members, List.length_append]
    omega
  have front : cells.take (reported.inter (PeerSet.below n)).count =
      (reported.inter (PeerSet.below n)).members.map value :=
    calc cells.take (reported.inter (PeerSet.below n)).count
      _ = (cells.take reported.count).take (reported.inter (PeerSet.below n)).count := by
        rw [List.take_take, Nat.min_eq_left fewer]
      _ = (reported.members.map value).take (reported.inter (PeerSet.below n)).count := by
        rw [packed, List.take_take, Nat.min_eq_left room]
      _ = (reported.inter (PeerSet.below n)).members.map value := by
        rw [members, List.map_append]
        apply List.take_left'
        rw [List.length_map, PeerSet.length_members]
  rw [← front, List.take_append_drop]

/-- The row of a survey of `n` gives those of some peers that are below `n` their values, and nobody
else any, and holds zero behind the last of them. -/
structure Assigns (r : Row) (n : Nat) (peers : PeerSet) (value : Nat → Distance) : Prop where
  capacity : r.capacity = n
  distances : ∀ p, r.distance? p = if p ∈ peers ∧ p < n then some (value p) else none
  cleared : ∀ k, (peers.inter (PeerSet.below n)).count ≤ k → k < n → r.cells[k]? = some 0

/-- What is stored of a packed answer gives every peer that is below `n` its value. -/
theorem assigns_measured {r : Row} {n : Nat} (capacity : r.capacity = n) {reported : PeerSet}
    {value : Nat → Distance} {cells : List Distance} (packed : reported.Packed value cells)
    (size : cells.length = n) :
    ((r.fill cells).withPeers (reported.inter (PeerSet.below n))).Assigns n reported value := by
  have few : (reported.inter (PeerSet.below n)).count ≤ r.capacity := by
    rw [capacity]
    exact PeerSet.count_le (PeerSet.within_iff.mp (PeerSet.within_inter_below reported n))
  have count : ((reported.inter (PeerSet.below n)).members.map value).length =
      (reported.inter (PeerSet.below n)).count := by
    rw [List.length_map, PeerSet.length_members]
  have stored : ((r.fill cells).withPeers (reported.inter (PeerSet.below n))).cells =
      (reported.inter (PeerSet.below n)).members.map value ++
        List.replicate (r.capacity - (reported.inter (PeerSet.below n)).count) 0 := by
    rw [cells_of_packed packed size]
    exact cells_withPeers_fill count (count ▸ few)
  refine ⟨?_, ?_, ?_⟩
  · rw [capacity_withPeers, capacity_fill, capacity]
  · intro p
    have member : (reported.inter (PeerSet.below n)).contains p = true ↔
        p ∈ reported ∧ p < n := by
      simp only [PeerSet.contains_inter, PeerSet.contains_below, Bool.and_eq_true,
        decide_eq_true_eq]
      constructor
      · rintro ⟨here, below, -⟩
        exact ⟨here, below⟩
      · rintro ⟨here, below⟩
        exact ⟨here, below, PeerSet.lt_of_contains here⟩
    split
    · next named =>
      refine distance?_eq (f := fun p => some (value p)) stored ?_ (member.mpr named)
      rw [List.map_map]
      rfl
    · next unnamed =>
      have missing : (reported.inter (PeerSet.below n)).contains p = false :=
        Bool.eq_false_iff.mpr fun named => unnamed (member.mp named)
      have rank : ((r.fill cells).withPeers (reported.inter (PeerSet.below n))).peers.rank p =
          none := PeerSet.rank_none missing
      rw [distance?, rank, Option.bind_none]
  · intro k behind inside
    rw [stored, List.getElem?_append_right (Nat.le_trans (Nat.le_of_eq count) behind),
      List.getElem?_replicate, if_pos (by omega)]

/-- Values that are written into the front of the cells may as well be put there by the row. -/
theorem fill_fill (r : Row) (values : List Distance) :
    r.fill (values.take r.cells.length ++ r.cells.drop values.length) = r.fill values := by
  have length : (values.take r.cells.length ++ r.cells.drop values.length).length =
      r.cells.length := by
    rw [List.length_append, List.length_take, List.length_drop]
    omega
  simp only [fill, capacity, Row.mk.injEq, true_and]
  rw [List.take_of_length_le (Nat.le_of_eq length), length, List.drop_length, List.append_nil]

/-- Two rows are the same after one answer exactly if they were the same in the cells between the
last value that is written and the last peer that is named. -/
theorem withPeers_fill_inj {r r' : Row} (size : r'.capacity = r.capacity) {peers : PeerSet}
    (few : peers.count ≤ r.capacity) (values : List Distance) :
    (r'.fill values).withPeers peers = (r.fill values).withPeers peers ↔
      (r'.cells.take peers.count).drop values.length =
        (r.cells.take peers.count).drop values.length := by
  have cells {q : Row} (same : q.capacity = r.capacity) :
      ((q.fill values).withPeers peers).cells = (values.take r.capacity).take peers.count ++
        ((q.cells.take peers.count).drop values.length ++
          List.replicate (r.capacity - peers.count) 0) := by
    have used : min peers.count (q.fill values).capacity = peers.count := by
      rw [capacity_fill, same]
      exact Nat.min_eq_left few
    have left : peers.count - (values.take r.capacity).length = peers.count - values.length := by
      rw [List.length_take]
      omega
    simp only [withPeers, used]
    rw [capacity_fill, same, fill, same, List.take_append, left, List.drop_take, List.append_assoc]
  rw [Row.mk.injEq, cells size, cells rfl, List.append_cancel_left_eq,
    List.append_cancel_right_eq]
  exact ⟨fun h => h.2, fun h => ⟨rfl, h⟩⟩

/-- What was in a row does not matter if a value is written for every peer. -/
theorem withPeers_fill_congr {r r' : Row} (size : r'.capacity = r.capacity) {peers : PeerSet}
    (few : peers.count ≤ r.capacity) {values : List Distance}
    (enough : peers.count ≤ values.length) :
    (r'.fill values).withPeers peers = (r.fill values).withPeers peers := by
  have nothing (q : Row) : (q.cells.take peers.count).drop values.length = [] := by
    rw [List.drop_eq_nil_iff, List.length_take]
    omega
  rw [withPeers_fill_inj size few, nothing, nothing]

end Row

end RangeSurvey
