import RangeSurvey.Proofs.Frame.Announcement

/-!
# Reading back what was written last

A buffer gets its fixed fields once and then one row after the other, each over the one before. A
row that does not fit leaves the buffer alone. At any time the buffer starts with the frame of the
last row that fitted, and nothing of what it held before can be told from that frame.
-/

namespace RangeSurvey.Frame

/-- A row to be written, with one distance for each of its peers. -/
structure Writing where
  round : UInt32
  slot : UInt16
  peers : PeerSet
  distances : List Distance
  complete : distances.length = peers.count

namespace Writing

def length (w : Writing) : Nat := 21 + 4 * w.peers.count

def into? (w : Writing) (buffer : List UInt8) : Option (List UInt8 × Nat) :=
  writeRound? buffer w.round w.slot w.peers w.distances

theorem lengthFor_distances (w : Writing) : lengthFor w.distances.length = w.length := by
  rw [w.complete, lengthFor, headerLength, distanceLength, length, Nat.mul_comm]

/-- A row is refused for want of room only. -/
theorem into?_eq_none_iff (w : Writing) (buffer : List UInt8) :
    w.into? buffer = none ↔ buffer.length < w.length := by
  simp only [into?, writeRound?, w.lengthFor_distances]
  split <;> simp_all

theorem into?_eq_some {w : Writing} {buffer buffer' : List UInt8} {length : Nat}
    (h : w.into? buffer = some (buffer', length)) :
    length = w.length ∧ w.length ≤ buffer.length := by
  simp only [into?, writeRound?, w.lengthFor_distances] at h
  split at h
  · cases h
  · next room =>
    obtain ⟨-, rfl⟩ := Prod.mk.inj (Option.some.inj h)
    exact ⟨rfl, Nat.not_lt.mp room⟩

end Writing

/-- The frame of a row: the constants of the survey, the sender and its cell, and the row. -/
structure Carries (f : Frame) (source cell : UInt16) (w : Writing) : Prop where
  network : f.network = 0xDECA
  control : f.control = 0x8841
  destination : f.destination = 0xFFFF
  source : f.source = source
  code : f.code = 0x31
  cell : f.cell = cell
  round : f.round = w.round
  slot : f.slot = w.slot
  peers : f.peers = w.peers
  complete : f.isComplete = true
  distances : f.distances = w.distances

theorem carries_announcement (source cell : UInt16) (w : Writing) :
    (announcement source cell w.round w.slot w.peers w.distances).Carries source cell w where
  network := rfl
  control := rfl
  destination := rfl
  source := rfl
  code := rfl
  cell := rfl
  round := rfl
  slot := rfl
  peers := rfl
  complete := by
    simp only [isComplete, Frame.length, announcement, Bytes.length_ofWords32, w.complete, lengthFor,
      distanceLength, decide_eq_true_eq]
    omega
  distances := by
    simp only [Frame.distances, announcement, Bytes.words32_ofWords32]
    exact List.take_of_length_le (Nat.le_of_eq w.complete)

/-- A buffer, with the row that was written last and the length that it was given. -/
structure Draft where
  buffer : List UInt8
  last : Option (Writing × Nat)

namespace Draft

def fresh (buffer : List UInt8) (source cell : UInt16) : Draft :=
  ⟨writeFixed buffer source cell, none⟩

def write (d : Draft) (w : Writing) : Draft :=
  match w.into? d.buffer with
  | some (buffer, length) => ⟨buffer, some (w, length)⟩
  | none => d

def writeAll (d : Draft) : List Writing → Draft
  | [] => d
  | w :: ws => (d.write w).writeAll ws

def after (buffer : List UInt8) (source cell : UInt16) (ws : List Writing) : Draft :=
  (fresh buffer source cell).writeAll ws

/-- What holds of a buffer of `n` bytes from its fixed fields on. -/
structure Holds (d : Draft) (source cell : UInt16) (n : Nat) : Prop where
  length : d.buffer.length = n
  fixed : d.buffer.take roundOffset = fixedFields source cell
  written : ∀ w length, d.last = some (w, length) → length = w.length ∧
    d.buffer.take length = (announcement source cell w.round w.slot w.peers w.distances).toBytes

theorem fresh_holds {buffer : List UInt8} (room : headerLength ≤ buffer.length)
    (source cell : UInt16) : (fresh buffer source cell).Holds source cell buffer.length where
  length := length_writeFixed room source cell
  fixed := take_writeFixed buffer source cell
  written _ _ last := nomatch last

theorem write_of_room {d : Draft} {w : Writing} (room : w.length ≤ d.buffer.length) :
    ∃ buffer, w.into? d.buffer = some (buffer, w.length) ∧
      d.write w = ⟨buffer, some (w, w.length)⟩ := by
  cases written : w.into? d.buffer with
  | none => exact absurd ((w.into?_eq_none_iff _).mp written) (Nat.not_lt.mpr room)
  | some outcome =>
    obtain ⟨buffer, length⟩ := outcome
    have given : length = w.length := (Writing.into?_eq_some written).1
    rw [given] at written
    exact ⟨buffer, by rw [given], by rw [write, written]⟩

theorem write_of_no_room {d : Draft} {w : Writing} (tight : d.buffer.length < w.length) :
    d.write w = d := by
  rw [write, (w.into?_eq_none_iff _).mpr tight]

theorem write_holds {d : Draft} {source cell : UInt16} {n : Nat} (h : d.Holds source cell n)
    (w : Writing) : (d.write w).Holds source cell n := by
  rcases Nat.lt_or_ge d.buffer.length w.length with tight | room
  · rw [write_of_no_room tight]
    exact h
  · obtain ⟨buffer, written, now⟩ := write_of_room room
    obtain ⟨front, length, fixed⟩ := take_writeRound? h.fixed written
    rw [now]
    refine ⟨length.trans h.length, fixed, ?_⟩
    intro v m last
    obtain ⟨rfl, rfl⟩ := Prod.mk.inj (Option.some.inj last)
    exact ⟨rfl, front⟩

theorem writeAll_holds {d : Draft} {source cell : UInt16} {n : Nat} (h : d.Holds source cell n)
    (ws : List Writing) : (d.writeAll ws).Holds source cell n := by
  induction ws generalizing d with
  | nil => exact h
  | cons w ws ih => exact ih (write_holds h w)

/-- The last row that fits is the one that the buffer starts with; if none fits, nothing changes. -/
theorem writeAll_last {d : Draft} {source cell : UInt16} {n : Nat} (h : d.Holds source cell n)
    (ws : List Writing) :
    (d.writeAll ws).last =
      ((ws.filter (·.length ≤ n)).getLast?.map fun w => (w, w.length)).or d.last := by
  induction ws generalizing d with
  | nil => rfl
  | cons w ws ih =>
    rw [writeAll, ih (write_holds h w)]
    rcases Nat.lt_or_ge n w.length with tight | room
    · rw [write_of_no_room (h.length.symm ▸ tight), List.filter_cons_of_neg (by simpa using tight)]
    · obtain ⟨buffer, -, now⟩ := write_of_room (h.length.symm ▸ room)
      rw [now, List.filter_cons_of_pos (by simpa using room), List.getLast?_cons]
      cases (ws.filter (·.length ≤ n)).getLast? <;> rfl

/-- However often a buffer has been written to, it starts with the frame of the last row that fits,
and the frame read back is that row bit for bit. -/
theorem last_reads_back {buffer : List UInt8} (room : 21 ≤ buffer.length) (source cell : UInt16)
    (ws : List Writing) :
    (after buffer source cell ws).last =
        (ws.filter (·.length ≤ buffer.length)).getLast?.map (fun w => (w, w.length)) ∧
      (∀ w length, (after buffer source cell ws).last = some (w, length) →
        length = 21 + 4 * w.peers.count ∧ length ≤ (after buffer source cell ws).buffer.length ∧
        (∃ f, ofBytes? ((after buffer source cell ws).buffer.take length) = some f ∧
          f.Carries source cell w) ∧
        ∀ other vs, 21 ≤ other.length → (after other source cell vs).last = some (w, length) →
          (after other source cell vs).buffer.take length =
            (after buffer source cell ws).buffer.take length) ∧
      ∀ w : Writing,
        (w.into? (after buffer source cell ws).buffer = none ↔
          buffer.length < 21 + 4 * w.peers.count) ∧
        (w.into? (after buffer source cell ws).buffer = none →
          (after buffer source cell ws).write w = after buffer source cell ws) := by
  have started := fresh_holds room source cell
  have holds : (after buffer source cell ws).Holds source cell buffer.length :=
    writeAll_holds started ws
  have last : (after buffer source cell ws).last =
      (ws.filter (·.length ≤ buffer.length)).getLast?.map (fun w => (w, w.length)) := by
    rw [after, writeAll_last started ws]
    exact Option.or_none
  refine ⟨last, ?_, ?_⟩
  · intro w length hlast
    obtain ⟨given, front⟩ := holds.written w length hlast
    refine ⟨given, ?_, ⟨_, ?_, carries_announcement source cell w⟩, ?_⟩
    · -- The last row is one of those that fit.
      rw [last, Option.map_eq_some_iff] at hlast
      obtain ⟨v, hv, same⟩ := hlast
      have fits := (List.mem_filter.mp (List.mem_of_getLast? hv)).2
      rw [holds.length, ← (Prod.mk.inj same).2]
      exact of_decide_eq_true fits
    · rw [front, ofBytes?_toBytes]
    · intro other vs room' hlast'
      have holds' := writeAll_holds (fresh_holds room' source cell) vs
      rw [front]
      exact (holds'.written w length hlast').2
  · intro w
    constructor
    · rw [w.into?_eq_none_iff, holds.length, Writing.length]
    · intro refused
      exact write_of_no_room ((w.into?_eq_none_iff _).mp refused)

def rows : List Writing :=
  [⟨5, 1, ⟨0b101#32⟩, [0x3f800000, 0x7fc00001], by decide⟩,
    ⟨6, 1, ⟨0b1101#32⟩, [1, 2, 3], by decide⟩, ⟨0xa1b2c3d4, 2, ⟨0b10#32⟩, [0xffffffff], by decide⟩,
    ⟨7, 3, ⟨0b111#32⟩, [4, 5, 6], by decide⟩]

/-- In 30 bytes there is no room for three distances. -/
theorem last_reads_back_stained :
    21 ≤ (List.replicate 30 (0xee : UInt8)).length ∧
      ∃ f, ofBytes? ((after (List.replicate 30 0xee) 0x1234 7 rows).buffer.take 25) = some f ∧
        f.Carries 0x1234 7 ⟨0xa1b2c3d4, 2, ⟨0b10#32⟩, [0xffffffff], by decide⟩ := by
  have room : 21 ≤ (List.replicate 30 (0xee : UInt8)).length := by decide
  obtain ⟨last, read, -⟩ := last_reads_back room 0x1234 7 rows
  obtain ⟨-, -, found, -⟩ := read ⟨0xa1b2c3d4, 2, ⟨0b10#32⟩, [0xffffffff], by decide⟩ 25 last
  exact ⟨room, found⟩

end Draft

end RangeSurvey.Frame
