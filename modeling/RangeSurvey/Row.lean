import RangeSurvey.PeerSet

/-!
# Rows of distances

What one station measured: the set of peers that answered and their distances, packed in
ascending order of the peer. A row has a fixed number of cells, and the cells behind the last
packed distance hold zero.
-/

namespace RangeSurvey

/-- A distance is kept as the bit pattern of a single-precision number. It is only ever copied, so
every pattern survives, those of not-a-number included. -/
abbrev Distance := UInt32

structure Row where
  peers : PeerSet
  cells : List Distance
deriving DecidableEq, Repr

namespace Row

def blank (n : Nat) : Row := ⟨PeerSet.empty, List.replicate n 0⟩

def capacity (r : Row) : Nat := r.cells.length

def isEmpty (r : Row) : Bool := r.peers.isEmpty

/-- The packed distances, one for every peer of the row that has a cell. -/
def packed (r : Row) : List Distance := r.cells.take (min r.peers.count r.capacity)

def distance? (r : Row) (peer : Nat) : Option Distance :=
  (r.peers.rank peer).bind fun place => r.cells[place]?

def pairs (r : Row) : List (Nat × Distance) := r.peers.members.zip r.cells

/-- Replaces the whole row. Values without a cell are dropped and cells without a value hold
zero, so nothing of the earlier row survives. -/
def replace (r : Row) (peers : PeerSet) (values : List Distance) : Row :=
  let kept := values.take r.capacity
  ⟨peers, kept ++ List.replicate (r.capacity - kept.length) 0⟩

/-- Puts `values` into the front of the cells and leaves the cells behind them alone. -/
def fill (r : Row) (values : List Distance) : Row :=
  { r with cells := values.take r.capacity ++ r.cells.drop values.length }

/-- Names the peers that the cells belong to and clears the cells behind the last of them. -/
def withPeers (r : Row) (peers : PeerSet) : Row :=
  let used := min peers.count r.capacity
  ⟨peers, r.cells.take used ++ List.replicate (r.capacity - used) 0⟩

@[simp] theorem capacity_blank (n : Nat) : (blank n).capacity = n := by
  simp [blank, capacity]

@[simp] theorem capacity_replace (r : Row) (peers : PeerSet) (values : List Distance) :
    (r.replace peers values).capacity = r.capacity := by
  simp only [replace, capacity, List.length_append, List.length_take, List.length_replicate]
  omega

@[simp] theorem capacity_fill (r : Row) (values : List Distance) :
    (r.fill values).capacity = r.capacity := by
  simp only [fill, capacity, List.length_append, List.length_take, List.length_drop]
  omega

@[simp] theorem capacity_withPeers (r : Row) (peers : PeerSet) :
    (r.withPeers peers).capacity = r.capacity := by
  simp only [withPeers, capacity, List.length_append, List.length_take, List.length_replicate]
  omega

end Row

end RangeSurvey
