import RangeSurvey.Proofs.Site.Representation

/-!
# How frames are classified

What a station answers to a frame is decided by the bytes of the frame, read at their offsets, and
by the latch, the cell, the round and the size of the station. A frame that is accepted replaces the
row of its sender and ends the wait; any other frame leaves the station as it is, but for one that
is counted because nobody waits.
-/

namespace RangeSurvey

open Bytes

namespace Frame

/-- The bytes reach to the control field, and it is the one of ranging traffic. -/
def IsRanging (bytes : List UInt8) : Prop := 4 ≤ bytes.length ∧ word16At bytes 2 = 0x8841

instance (bytes : List UInt8) : Decidable (IsRanging bytes) :=
  inferInstanceAs (Decidable (_ ∧ _))

def slotAt (bytes : List UInt8) : Nat := (word16At bytes 15).toNat

def peersAt (bytes : List UInt8) : PeerSet := PeerSet.ofWord (word32At bytes 17)

def distanceAt (bytes : List UInt8) (k : Nat) : Distance := word32At bytes (21 + 4 * k)

/-- A survey of `n` stations can store the row: it is no longer than the longest one, its sender
has a slot, it names nobody beyond the survey, and there is a distance to everybody it names. -/
structure Fits (bytes : List UInt8) (n : Nat) : Prop where
  length : bytes.length ≤ 21 + 4 * n
  slot : slotAt bytes < n
  peers : ∀ p, (peersAt bytes).contains p = true → p < n
  complete : 21 + 4 * (peersAt bytes).count ≤ bytes.length

theorem isSound_read {bytes : List UInt8} (h : 21 ≤ bytes.length) (n : Nat) :
    (read bytes).isSound n = true ↔ Fits bytes n := by
  have longest : maxLength n = 21 + 4 * n := by
    simp only [maxLength, lengthFor, headerLength, distanceLength]
    omega
  have announced : lengthFor (read bytes).peers.count = 21 + 4 * (peersAt bytes).count := by
    simp only [lengthFor, headerLength, distanceLength, read, peersAt]
    omega
  simp only [isSound, isComplete, length_read h, longest, announced, Bool.and_eq_true,
    decide_eq_true_eq, PeerSet.within_iff]
  constructor
  · rintro ⟨⟨⟨short, slot⟩, peers⟩, complete⟩
    exact ⟨short, slot, peers, complete⟩
  · rintro ⟨short, slot, peers, complete⟩
    exact ⟨⟨⟨short, slot⟩, peers⟩, complete⟩

theorem peekControl?_ranging (bytes : List UInt8) :
    peekControl? bytes = some rangingControl ↔ IsRanging bytes := by
  rw [peekControl?_eq]
  constructor
  · intro h
    split at h
    · next long => exact ⟨long, Option.some.inj h⟩
    · cases h
  · rintro ⟨long, control⟩
    rw [if_pos long, control]
    rfl

end Frame

namespace Station

open RangeSurvey.Frame

/-- A survey frame for everybody, of the cell of the station and the round that it is in. -/
structure Concerns (s : Station) (bytes : List UInt8) : Prop where
  destination : word16At bytes 4 = 0xFFFF
  code : bytes.getD 8 0 = 0x31
  cell : word16At bytes 9 = s.identity.cell
  round : word32At bytes 11 = s.round

variable {s : Station} {bytes : List UInt8}

/-- The row that a frame announces, in a survey of `n` stations. -/
def announcedRow (bytes : List UInt8) (n : Nat) : Row where
  peers := peersAt bytes
  cells := (List.range (peersAt bytes).count).map (distanceAt bytes) ++
    List.replicate (n - (peersAt bytes).count) 0

def accepted (s : Station) (bytes : List UInt8) : Station :=
  { s with
    table := ⟨s.table.rows.set (slotAt bytes) (announcedRow bytes s.nodeCount)⟩
    latch := .available }

def countUnsolicited (s : Station) : Station :=
  { s with counters := { s.counters with unsolicited := s.counters.unsolicited + 1 } }

theorem hearFrame_other (other : ¬ IsRanging bytes) : s.hearFrame bytes = ⟨s, .notMine, []⟩ := by
  rw [hearFrame, if_pos]
  rwa [Ne, peekControl?_ranging]

theorem hearFrame_unsolicited (ranging : IsRanging bytes) (available : s.latch = .available) :
    s.hearFrame bytes = ⟨s.countUnsolicited, .notMine, [.unsolicited]⟩ := by
  rw [hearFrame, if_neg, if_pos (isIdle_iff.mpr available)]
  · rfl
  · rw [Decidable.not_not]
    exact (peekControl?_ranging bytes).mpr ranging

/-- A waiting station looks at the header of a ranging frame. -/
theorem hearFrame_waiting (ranging : IsRanging bytes) (held : s.latch = .held) :
    s.hearFrame bytes =
      if 21 ≤ bytes.length then
        if word16At bytes 4 ≠ 0xFFFF ∨ bytes.getD 8 0 ≠ 0x31 then ⟨s, .notMine, []⟩
        else s.hearSurveyFrame (read bytes)
      else ⟨s, .malformed, []⟩ := by
  have busy : ¬ s.isIdle = true := by
    rw [isIdle_iff, held]
    nofun
  rw [hearFrame, if_neg, if_neg busy, ofBytes?_eq]
  · by_cases long : headerLength ≤ bytes.length
    · rw [if_pos long, if_pos (show 21 ≤ bytes.length from long)]
      rfl
    · rw [if_neg long, if_neg (show ¬ 21 ≤ bytes.length from long)]
  · rw [Decidable.not_not]
    exact (peekControl?_ranging bytes).mpr ranging

theorem hearFrame_short (ranging : IsRanging bytes) (held : s.latch = .held)
    (short : bytes.length < 21) : s.hearFrame bytes = ⟨s, .malformed, []⟩ := by
  rw [hearFrame_waiting ranging held, if_neg (Nat.not_le.mpr short)]

theorem hearFrame_foreign (ranging : IsRanging bytes) (held : s.latch = .held)
    (long : 21 ≤ bytes.length) (foreign : ¬ s.Concerns bytes) :
    (s.hearFrame bytes).station = s ∧ (s.hearFrame bytes).verdict = .notMine := by
  rw [hearFrame_waiting ranging held, if_pos long]
  split
  · exact ⟨rfl, rfl⟩
  · next survey =>
    obtain ⟨destination, code⟩ := not_or.mp survey
    rw [Decidable.not_not] at destination code
    have apart : (read bytes).cell ≠ s.identity.cell ∨ (read bytes).round ≠ s.round := by
      by_cases cell : word16At bytes 9 = s.identity.cell
      · right
        intro round
        exact foreign ⟨destination, code, cell, round⟩
      · exact Or.inl cell
    rw [hearSurveyFrame, if_pos apart]
    exact ⟨rfl, rfl⟩

/-- A frame that concerns a waiting station is stored or malformed. -/
theorem hearFrame_concerning (ranging : IsRanging bytes) (held : s.latch = .held)
    (long : 21 ≤ bytes.length) (concerns : s.Concerns bytes) :
    s.hearFrame bytes = if (read bytes).isSound s.nodeCount then
        ⟨s.store (read bytes), .handled, [.rowAccepted (read bytes).slot (peersAt bytes).count]⟩
      else ⟨s, .malformed, [.malformed (read bytes).slot (read bytes).length]⟩ := by
  obtain ⟨destination, code, cell, round⟩ := concerns
  have survey : ¬ (word16At bytes 4 ≠ 0xFFFF ∨ bytes.getD 8 0 ≠ 0x31) := by
    rw [destination, code]
    decide
  have alike : ¬ ((read bytes).cell ≠ s.identity.cell ∨ (read bytes).round ≠ s.round) := by
    rw [not_or, Decidable.not_not, Decidable.not_not]
    exact ⟨cell, round⟩
  rw [hearFrame_waiting ranging held, if_pos long, if_neg survey, hearSurveyFrame, if_neg alike]
  rfl

/-- What a sound station makes of a frame that fits. -/
theorem Sound.store_read (sound : s.Sound) (long : 21 ≤ bytes.length)
    (fits : Fits bytes s.nodeCount) : s.store (read bytes) = s.accepted bytes := by
  have few : (peersAt bytes).count ≤ s.nodeCount := PeerSet.count_le fits.peers
  have complete : (read bytes).isComplete = true := by
    have isSound := (isSound_read long s.nodeCount).mpr fits
    simp only [Frame.isSound, Bool.and_eq_true] at isSound
    exact isSound.2
  have distances : (read bytes).distances =
      (List.range (peersAt bytes).count).map (distanceAt bytes) := distances_read long complete
  obtain ⟨row, hrow, capacity⟩ : ∃ row, s.table.row? (slotAt bytes) = some row ∧
      row.capacity = s.nodeCount := by
    have inside : slotAt bytes < s.table.rows.length := by
      rw [show s.table.rows.length = s.nodeCount from sound.rows]
      exact fits.slot
    exact ⟨_, List.getElem?_eq_getElem inside, (sound.row _ (List.getElem_mem inside)).capacity⟩
  have replaced : row.replace (read bytes).peers (read bytes).distances =
      announcedRow bytes s.nodeCount := by
    have length : (read bytes).distances.length = (peersAt bytes).count := by
      rw [distances, List.length_map, List.length_range]
    rw [Row.replace, capacity, List.take_of_length_le (by omega), length, distances]
    rfl
  rw [Station.store, show (read bytes).slot.toNat = slotAt bytes from rfl,
    Table.modifyRow_eq_set hrow, replaced, Latch.putBack_fst]
  rfl

/-- What a sound station answers to bytes, and what it is then. -/
theorem Sound.classified (sound : s.Sound) (bytes : List UInt8) :
    ((s.hearFrame bytes).verdict = .handled ↔ s.latch = .held ∧ IsRanging bytes ∧
        21 ≤ bytes.length ∧ s.Concerns bytes ∧ Fits bytes s.nodeCount) ∧
      ((s.hearFrame bytes).verdict = .malformed ↔ s.latch = .held ∧ IsRanging bytes ∧
        (bytes.length < 21 ∨ s.Concerns bytes ∧ ¬ Fits bytes s.nodeCount)) ∧
      (s.hearFrame bytes).station =
        if (s.hearFrame bytes).verdict = .handled then s.accepted bytes
        else if IsRanging bytes ∧ s.latch = .available then s.countUnsolicited else s := by
  by_cases ranging : IsRanging bytes
  case neg => simp [hearFrame_other ranging, ranging]
  cases latch : s.latch with
  | available => simp [hearFrame_unsolicited ranging latch, ranging]
  | held =>
    by_cases long : 21 ≤ bytes.length
    case neg =>
      simp [hearFrame_short ranging latch (Nat.not_le.mp long), ranging, long, Nat.not_le.mp long]
    by_cases concerns : s.Concerns bytes
    case neg =>
      obtain ⟨same, verdict⟩ := hearFrame_foreign ranging latch long concerns
      simp [same, verdict, ranging, long, concerns]
    have stored := hearFrame_concerning ranging latch long concerns
    by_cases fits : Fits bytes s.nodeCount
    · rw [if_pos ((isSound_read long _).mpr fits), sound.store_read long fits] at stored
      simp [stored, ranging, long, concerns, fits]
    · rw [if_neg (fun isSound => fits ((isSound_read long _).mp isSound))] at stored
      simp [stored, ranging, long, concerns, fits]

end Station

namespace Site

open RangeSurvey.Frame

/-- What a station makes of any bytes: exactly those of a frame that concerns it while it waits, and
fits the survey, are stored. Other bytes leave it as it is, but for a count. -/
theorem frames_classified {H : Type} [Hardware H] (hardware : H) (actions : List (Action H))
    {site : Site H} {id : Nat} {s : Station}
    (passes : (({ hardware } : Site H).performAll actions).Passes site)
    (hs : site.stations[id]? = some s) (bytes : List UInt8) :
    ((s.hear (.received bytes)).verdict = .handled ↔ s.latch = .held ∧ IsRanging bytes ∧
        21 ≤ bytes.length ∧ s.Concerns bytes ∧ Fits bytes s.nodeCount) ∧
      ((s.hear (.received bytes)).verdict = .malformed ↔ s.latch = .held ∧ IsRanging bytes ∧
        (bytes.length < 21 ∨ s.Concerns bytes ∧ ¬ Fits bytes s.nodeCount)) ∧
      (s.hear (.received bytes)).station =
        if (s.hear (.received bytes)).verdict = .handled then s.accepted bytes
        else if IsRanging bytes ∧ s.latch = .available then s.countUnsolicited else s := by
  have sound : s.Sound := Passes.sound ((performAll_passes _ actions).trans passes) hs
  exact sound.classified bytes

def awaiting : List (Action Bench) :=
  [.enrol ⟨0, 2, ⟨0x100, 0, 12⟩, {}, 0⟩,
    .start 0 (.call { station := 0, activity := .receive, deadline := 0 }), .poll 0]

def answer : List UInt8 := (Frame.announcement 0x101 12 0 1 ⟨1#32⟩ [5]).toBytes

theorem frames_classified_awaiting :
    ∃ s, (({ hardware := oneAnswer } : Site Bench).performAll awaiting).stations[0]? = some s ∧
      (s.hear (.received answer)).verdict = .handled ∧
      (s.hear (.received answer)).station = s.accepted answer := by
  have verdict : ((({ hardware := oneAnswer } : Site Bench).performAll awaiting).stations[0]?).map
      (fun s => (s.hear (.received answer)).verdict) = some .handled := by decide +kernel
  obtain ⟨s, hs, handled⟩ := Option.map_eq_some_iff.mp verdict
  obtain ⟨-, -, station⟩ := frames_classified oneAnswer awaiting (Does.refl _ _) hs answer
  rw [if_pos handled] at station
  exact ⟨s, hs, handled, station⟩

end Site

end RangeSurvey
