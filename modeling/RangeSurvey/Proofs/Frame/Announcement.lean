import RangeSurvey.PeerSet.Members
import RangeSurvey.Station.Events
import RangeSurvey.Frame.Buffer

/-!
# Announced rows

A row travels as the set of its peers and its packed distances. A packed row, one with zeros behind
the last distance, comes back from these bit for bit, and the frame that a station writes over the
frame before announces exactly its row.
-/

namespace RangeSurvey

namespace Row

/-- The cells behind the last distance hold zero. -/
def IsPacked (r : Row) : Prop := r.replace r.peers r.packed = r

theorem replace_congr {r r' : Row} (h : r.capacity = r'.capacity) (peers : PeerSet)
    (values : List Distance) : r.replace peers values = r'.replace peers values := by
  simp only [replace, h]

/-- A packed row comes back from its peers and distances, whatever row they replace. -/
theorem replace_packed {r own : Row} (h : own.IsPacked) (capacity : r.capacity = own.capacity) :
    r.replace own.peers own.packed = own :=
  (replace_congr capacity _ _).trans h

theorem length_packed (r : Row) : r.packed.length = min r.peers.count r.capacity := by
  simp only [packed, capacity, List.length_take]
  omega

theorem isPacked_of_drop {r : Row}
    (h : r.cells.drop r.peers.count = List.replicate (r.capacity - r.peers.count) 0) :
    r.IsPacked := by
  have packed : r.packed.take r.capacity = r.cells.take r.peers.count := by
    rw [Row.packed, List.take_take, capacity]
    rcases Nat.le_total r.peers.count r.cells.length with hle | hge
    · rw [Nat.min_eq_left hle, Nat.min_eq_right hle]
    · rw [Nat.min_eq_right hge, Nat.min_self, List.take_of_length_le (Nat.le_refl _),
        List.take_of_length_le hge]
  have length : r.capacity - (r.cells.take r.peers.count).length = r.capacity - r.peers.count := by
    simp only [capacity, List.length_take]
    omega
  have cells : r.cells.take r.peers.count ++
      List.replicate (r.capacity - r.peers.count) 0 = r.cells := by
    rw [← h, List.take_append_drop]
  rw [IsPacked, replace, packed, length]
  simp only [cells]

theorem isPacked_blank (n : Nat) : (blank n).IsPacked := by
  apply isPacked_of_drop
  rw [capacity_blank]
  exact List.drop_replicate

theorem isPacked_replace (r : Row) {peers : PeerSet} {values : List Distance}
    (h : values.length ≤ peers.count) : (r.replace peers values).IsPacked := by
  apply isPacked_of_drop
  rw [capacity_replace]
  change (values.take r.capacity ++
    List.replicate (r.capacity - (values.take r.capacity).length) 0).drop peers.count =
      List.replicate (r.capacity - peers.count) 0
  generalize peers.count = count at h ⊢
  have kept : (values.take r.capacity).length ≤ count := by
    rw [List.length_take]
    omega
  rw [List.drop_append, List.drop_eq_nil_of_le kept, List.nil_append, List.drop_replicate]
  congr 1
  omega

theorem isPacked_withPeers (r : Row) (peers : PeerSet) : (r.withPeers peers).IsPacked := by
  apply isPacked_of_drop
  rw [capacity_withPeers]
  change (r.cells.take (min peers.count r.capacity) ++
    List.replicate (r.capacity - min peers.count r.capacity) 0).drop peers.count =
      List.replicate (r.capacity - peers.count) 0
  generalize peers.count = count
  have used : (r.cells.take (min count r.capacity)).length = min count r.capacity := by
    rw [List.length_take, capacity]
    omega
  rw [List.drop_append, List.drop_eq_nil_of_le (by omega), List.nil_append, List.drop_replicate,
    used]
  congr 1
  omega

end Row

namespace Frame

/-- The announcement consists of the fixed fields and of those of the round. -/
theorem toBytes_announcement (source cell : UInt16) (round : UInt32) (slot : UInt16)
    (peers : PeerSet) (distances : List Distance) :
    (announcement source cell round slot peers distances).toBytes =
      fixedFields source cell ++ roundFields round slot peers distances := by
  simp only [toBytes, announcement, fixedFields, roundFields, List.append_assoc]

theorem length_fixedFields (source cell : UInt16) :
    (fixedFields source cell).length = roundOffset := rfl

theorem length_roundFields (round : UInt32) (slot : UInt16) (peers : PeerSet)
    (distances : List Distance) :
    roundOffset + (roundFields round slot peers distances).length = lengthFor distances.length := by
  simp only [roundFields, List.length_append, Bytes.length_ofWord32, Bytes.length_ofWord16,
    Bytes.length_ofWords32, roundOffset, lengthFor, headerLength, distanceLength]
  omega

/-- Writing a row over the frame before leaves the announcement of the row at the front of the
buffer, and the fixed fields where they were. -/
theorem take_writeRound? {buffer buffer' : List UInt8} {source cell slot : UInt16} {round : UInt32}
    {peers : PeerSet} {distances : List Distance} {length : Nat}
    (front : buffer.take roundOffset = fixedFields source cell)
    (h : writeRound? buffer round slot peers distances = some (buffer', length)) :
    buffer'.take length = (announcement source cell round slot peers distances).toBytes ∧
      buffer'.length = buffer.length ∧ buffer'.take roundOffset = fixedFields source cell := by
  simp only [writeRound?] at h
  split at h
  · cases h
  next room =>
    obtain ⟨rfl, rfl⟩ := Prod.mk.inj (Option.some.inj h)
    have whole := length_roundFields round slot peers distances
    have fits : roundOffset + (roundFields round slot peers distances).length ≤ buffer.length := by
      omega
    refine ⟨?_, Bytes.length_splice fits, ?_⟩
    · rw [Bytes.splice, front, toBytes_announcement]
      apply List.take_left'
      rw [List.length_append, length_fixedFields, whole]
    · rw [Bytes.splice, front, List.append_assoc]
      exact List.take_left' (length_fixedFields source cell)

theorem length_writeFixed {buffer : List UInt8} (room : headerLength ≤ buffer.length)
    (source cell : UInt16) : (writeFixed buffer source cell).length = buffer.length := by
  apply Bytes.length_splice
  rw [length_fixedFields, Nat.zero_add]
  exact Nat.le_trans (by decide) room

theorem take_writeFixed (buffer : List UInt8) (source cell : UInt16) :
    (writeFixed buffer source cell).take roundOffset = fixedFields source cell := by
  rw [writeFixed, Bytes.splice, List.take_zero, List.nil_append]
  exact List.take_left' (length_fixedFields source cell)

theorem distances_announcement (source cell : UInt16) (round : UInt32) (slot : UInt16) (r : Row) :
    (announcement source cell round slot r.peers r.packed).distances = r.packed := by
  simp only [distances, announcement, Bytes.words32_ofWords32]
  apply List.take_of_length_le
  rw [r.length_packed]
  exact Nat.min_le_left _ _

/-- The announcement of a row that fits the survey is sound. -/
theorem isSound_announcement (source cell : UInt16) (round : UInt32) {slot : UInt16} {r : Row}
    {nodes : Nat} (hslot : slot.toNat < nodes) (peers : r.peers.within nodes = true)
    (count : r.peers.count ≤ nodes) (capacity : r.capacity = nodes) :
    (announcement source cell round slot r.peers r.packed).isSound nodes = true := by
  have length : (announcement source cell round slot r.peers r.packed).length =
      lengthFor r.peers.count := by
    simp only [Frame.length, announcement, Bytes.length_ofWords32, r.length_packed, lengthFor,
      headerLength, distanceLength]
    omega
  simp only [isSound, isComplete, length, maxLength, lengthFor, distanceLength, Bool.and_eq_true,
    decide_eq_true_eq]
  refine ⟨⟨⟨by omega, hslot⟩, peers⟩, Nat.le_refl _⟩

end Frame

end RangeSurvey
