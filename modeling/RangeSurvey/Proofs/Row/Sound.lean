import RangeSurvey.Proofs.Frame.Announcement
import RangeSurvey.Proofs.PeerSet.Rank

/-!
# Sound rows

A row of a survey of `n` stations has `n` cells, names slots below `n` only, and holds zero behind
its last distance. Everything that is ever written into a row leaves it sound, and the ways to read
a sound row agree with each other.
-/

namespace RangeSurvey.Row

structure Sound (r : Row) (n : Nat) : Prop where
  capacity : r.capacity = n
  peers : ∀ p, r.peers.contains p = true → p < n
  cleared : ∀ k, r.peers.count ≤ k → k < n → r.cells[k]? = some 0

/-- The ways to read a row agree: as many packed distances as peers, a distance to each peer and to
nobody else, and the same distances in a list in ascending order of the peer. -/
structure Reads (r : Row) : Prop where
  packed : r.packed.length = r.peers.count
  known : ∀ p, (r.distance? p).isSome = r.peers.contains p
  pairs : ∀ p d, (p, d) ∈ r.pairs ↔ r.distance? p = some d
  ascending : (r.pairs.map Prod.fst).Pairwise (· < ·)

/-- The cells behind the last distance of a packed row hold zero. -/
theorem IsPacked.cleared {r : Row} (h : r.IsPacked) {k : Nat} (behind : r.peers.count ≤ k)
    (inside : k < r.capacity) : r.cells[k]? = some 0 := by
  have kept : (r.packed.take r.capacity).length ≤ k := by
    rw [List.length_take, r.length_packed]
    omega
  have whole : (r.packed.take r.capacity).length + (r.capacity -
      (r.packed.take r.capacity).length) = r.capacity := by
    rw [List.length_take]
    omega
  rw [← congrArg Row.cells h]
  change (r.packed.take r.capacity ++
    List.replicate (r.capacity - (r.packed.take r.capacity).length) 0)[k]? = some 0
  rw [List.getElem?_append_right kept, List.getElem?_replicate, if_pos (by omega)]

theorem IsPacked.sound {r : Row} {n : Nat} (h : r.IsPacked) (capacity : r.capacity = n)
    (within : r.peers.within n = true) : r.Sound n := by
  refine ⟨capacity, PeerSet.within_iff.mp within, ?_⟩
  intro k behind inside
  exact h.cleared behind (by omega)

theorem sound_blank (n : Nat) : (blank n).Sound n :=
  (isPacked_blank n).sound (capacity_blank n) (PeerSet.within_empty n)

namespace Sound

variable {r : Row} {n : Nat}

/-- A sound row is packed, so that it can be announced. -/
theorem isPacked (h : r.Sound n) : r.IsPacked := by
  apply isPacked_of_drop
  apply List.ext_getElem?
  intro k
  have capacity : r.cells.length = n := h.capacity
  rw [List.getElem?_drop, List.getElem?_replicate, h.capacity]
  by_cases inside : k < n - r.peers.count
  · rw [if_pos inside]
    exact h.cleared _ (by omega) (by omega)
  · rw [if_neg inside, List.getElem?_eq_none_iff]
    omega

/-- What an engine leaves behind in the cells does not matter, nor whom it reports. -/
theorem measured (h : r.Sound n) (cells : List Distance) (reported : PeerSet) :
    ((r.fill cells).withPeers (reported.inter (PeerSet.below n))).Sound n := by
  refine (isPacked_withPeers _ _).sound ?_ (PeerSet.within_inter_below reported n)
  rw [capacity_withPeers, capacity_fill, h.capacity]

theorem replace (h : r.Sound n) {peers : PeerSet} {values : List Distance}
    (within : peers.within n = true) (few : values.length ≤ peers.count) :
    (r.replace peers values).Sound n :=
  (isPacked_replace r few).sound ((r.capacity_replace peers values).trans h.capacity) within

theorem count_le (h : r.Sound n) : r.peers.count ≤ n := PeerSet.count_le h.peers

/-- There is a cell for every peer. -/
theorem roomy (h : r.Sound n) : r.peers.members.length ≤ r.cells.length := by
  rw [PeerSet.length_members]
  exact Nat.le_trans h.count_le (Nat.le_of_eq h.capacity.symm)

theorem length_packed (h : r.Sound n) : r.packed.length = r.peers.count := by
  rw [r.length_packed, h.capacity]
  exact Nat.min_eq_left h.count_le

theorem reads (h : r.Sound n) : r.Reads := by
  have place {k : Nat} {p : Nat} (hk : r.peers.members[k]? = some p) :
      r.distance? p = r.cells[k]? := by
    have inside := (List.getElem?_eq_some_iff.mp hk).1
    obtain ⟨k', rank, hk'⟩ :=
      PeerSet.rank_spec (PeerSet.mem_members.mp (List.mem_of_getElem? hk))
    obtain rfl : k = k' := (List.getElem?_inj inside r.peers.nodup_members).mp (hk.trans hk'.symm)
    rw [distance?, rank, Option.bind_some]
  refine ⟨h.length_packed, ?_, ?_, ?_⟩
  · intro p
    cases member : r.peers.contains p with
    | false => rw [distance?, PeerSet.rank_none member, Option.bind_none, Option.isSome_none]
    | true =>
      obtain ⟨k, hk⟩ := List.mem_iff_getElem?.mp (PeerSet.mem_members.mpr member)
      have inside := (List.getElem?_eq_some_iff.mp hk).1
      rw [place hk, List.getElem?_eq_getElem (Nat.lt_of_lt_of_le inside h.roomy),
        Option.isSome_some]
  · intro p d
    rw [Row.pairs, List.mem_iff_getElem?]
    simp only [List.getElem?_zip_eq_some]
    constructor
    · rintro ⟨k, hk, hd⟩
      rw [place hk, hd]
    · intro hd
      cases member : r.peers.contains p with
      | false =>
        rw [distance?, PeerSet.rank_none member] at hd
        cases hd
      | true =>
        obtain ⟨k, hk⟩ := List.mem_iff_getElem?.mp (PeerSet.mem_members.mpr member)
        exact ⟨k, hk, (place hk).symm.trans hd⟩
  · rw [Row.pairs, List.map_fst_zip h.roomy]
    exact r.peers.members_ascending

end Sound

end RangeSurvey.Row
