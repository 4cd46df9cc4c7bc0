import RangeSurvey.Proofs.Frame.Fields
import RangeSurvey.Proofs.Row.Sound
import RangeSurvey.Proofs.Site.Deeds
import RangeSurvey.Proofs.Station.Parts

/-!
# Sound stations

A station of `n` has its slot below `n`, `n` sound rows, and a buffer for the longest frame in which
the fixed fields stand as they were written when the station was made. This holds from the making
of a station on, whatever the engine measures and whatever the radio brings. A sound station has a
row of its own, and its buffer has room for it.
-/

namespace RangeSurvey

namespace Station

structure Sound (s : Station) : Prop where
  nodeCount : minNodes ≤ s.nodeCount ∧ s.nodeCount ≤ maxNodes
  slot : s.slot < s.nodeCount
  rows : s.table.nodeCount = s.nodeCount
  row : ∀ r ∈ s.table.rows, r.Sound s.nodeCount
  room : s.buffer.length = Frame.maxLength s.nodeCount
  front : s.buffer.take Frame.roundOffset =
    Frame.fixedFields s.identity.address s.identity.cell

theorem build_eq {e : Enrolment} {ownsStorage : Bool} {s : Station}
    (h : build e ownsStorage = .ok s) :
    s = fresh e ownsStorage ∧ (minNodes ≤ e.nodeCount ∧ e.nodeCount ≤ maxNodes) ∧
      e.identity.slot.toNat < e.nodeCount := by
  simp only [build, checkNodeCount] at h
  split at h
  · cases h
  next counted =>
    split at counted
    · next size =>
      split at h
      · next slot =>
        cases h
        exact ⟨rfl, size, slot⟩
      · cases h
    · cases counted

namespace Sound

variable {s s' : Station}

theorem of_build {e : Enrolment} {ownsStorage : Bool} (h : build e ownsStorage = .ok s) :
    s.Sound := by
  obtain ⟨rfl, size, slot⟩ := build_eq h
  obtain ⟨room, front⟩ := fresh_buffer e ownsStorage
  refine ⟨size, slot, Table.nodeCount_blank _, ?_, room, front⟩
  intro r hr
  rw [List.eq_of_mem_replicate hr]
  exact Row.sound_blank e.nodeCount

/-- Only identity, size, table and buffer matter. -/
theorem same (h : s.Sound) (identity : s'.identity = s.identity)
    (nodeCount : s'.nodeCount = s.nodeCount) (table : s'.table = s.table)
    (buffer : s'.buffer = s.buffer) : s'.Sound := by
  obtain ⟨size, slot, rows, row, room, front⟩ := h
  refine ⟨?_, ?_, ?_, ?_, ?_, ?_⟩
  · rw [nodeCount]
    exact size
  · rw [Station.slot, identity, nodeCount]
    exact slot
  · rw [table, nodeCount]
    exact rows
  · rw [table, nodeCount]
    exact row
  · rw [buffer, nodeCount]
    exact room
  · rw [buffer, identity]
    exact front

theorem keeps (h : s.Sound) (keeps : s.Keeps s') : s'.Sound :=
  h.same keeps.kin.identity keeps.kin.nodeCount keeps.table keeps.buffer

/-- A row may change for a sound one. -/
theorem modifyRow (h : s.Sound) (slot : Nat) {g : Row → Row}
    (sound : ∀ r, r.Sound s.nodeCount → (g r).Sound s.nodeCount) :
    ({ s with table := s.table.modifyRow slot g } : Station).Sound := by
  refine ⟨h.nodeCount, h.slot, (s.table.nodeCount_modifyRow slot g).trans h.rows, ?_, h.room,
    h.front⟩
  intro r hr
  rcases Table.mem_modifyRow hr with old | ⟨r₀, hr₀, rfl⟩
  · exact h.row r old
  · exact sound r₀ (h.row r₀ (List.mem_of_getElem? hr₀))

theorem endRequest (h : s.Sound) (reported : PeerSet) (cells : List Distance) :
    (s.endRequest reported cells).1.Sound := by
  have stored := h.modifyRow s.slot fun r hr => hr.measured cells reported
  exact stored.same rfl rfl rfl rfl

theorem beginBroadcast (h : s.Sound) : s.beginBroadcast.1.Sound := by
  obtain ⟨room, front⟩ := beginBroadcast_buffer h.front
  obtain ⟨buffer, nothingToSend, invalidRow, begun⟩ := s.beginBroadcast_eq
  rw [begun] at room front ⊢
  exact ⟨h.nodeCount, h.slot, h.rows, h.row, room.trans h.room, front⟩

theorem part (h : s.Sound) (p : Part) : (p.run s).1.Sound := by
  cases p with
  | endRequest reported cells => exact h.endRequest reported cells
  | beginBroadcast => exact h.beginBroadcast
  | beginRequest => exact h.same rfl rfl rfl rfl
  | takeEngine => exact h.same rfl rfl rfl rfl
  | freeEngine => exact h.same rfl rfl rfl rfl
  | beginListen => exact h.same rfl rfl rfl rfl
  | skipBroadcast b => exact h.same rfl rfl rfl rfl
  | failTransmit => exact h.same rfl rfl rfl rfl
  | beginReceive => exact h.same rfl rfl rfl rfl
  | failReceive => exact h.same rfl rfl rfl rfl
  | endWait => exact h.same rfl rfl rfl rfl
  | enterRound round role deadline => exact h.same rfl rfl rfl rfl
  | configure config => exact h.same rfl rfl rfl rfl
  | suspend => exact h.same rfl rfl rfl rfl
  | say notice => exact h

/-- A sound frame leaves the rows sound. -/
theorem store (h : s.Sound) {f : Frame} (sound : f.isSound s.nodeCount = true) :
    (s.store f).Sound := by
  simp only [Frame.isSound, Bool.and_eq_true, decide_eq_true_eq] at sound
  obtain ⟨⟨⟨-, -⟩, within⟩, -⟩ := sound
  have few : f.distances.length ≤ f.peers.count := List.length_take_le _ _
  have stored := h.modifyRow f.slot.toNat fun r hr => hr.replace within few
  exact stored.same rfl rfl rfl rfl

theorem hearFrame (h : s.Sound) (bytes : List UInt8) : (s.hearFrame bytes).station.Sound := by
  simp only [Station.hearFrame]
  split
  · exact h
  split
  · exact h.same rfl rfl rfl rfl
  split
  · exact h
  split
  · exact h
  simp only [hearSurveyFrame]
  split
  · exact h
  split
  · next sound => exact h.store sound
  · exact h

theorem hear (h : s.Sound) (event : RadioEvent) : (s.hear event).station.Sound := by
  cases event with
  | received bytes => exact h.hearFrame bytes
  | sent => exact h.keeps s.hearSent_keeps
  | timedOut => exact h.keeps s.hearTimeout_keeps
  | reset => exact h.keeps s.hearReset_keeps

theorem moves {d : Site.Deed} {id : Nat} (moved : d.Moves id s s') (h : s.Sound) : s'.Sound := by
  cases moved with
  | still => exact h
  | part p => exact h.part p
  | hear event => exact h.hear event

end Sound

/-- What nothing that a station does or hears changes. -/
structure Stays (s s' : Station) : Prop where
  device : s'.device = s.device
  unit : s'.unit = s.unit
  identity : s'.identity = s.identity
  nodeCount : s'.nodeCount = s.nodeCount

theorem Stays.refl (s : Station) : s.Stays s := ⟨rfl, rfl, rfl, rfl⟩

theorem Stays.trans {a b c : Station} (hab : a.Stays b) (hbc : b.Stays c) : a.Stays c :=
  ⟨hbc.device.trans hab.device, hbc.unit.trans hab.unit, hbc.identity.trans hab.identity,
    hbc.nodeCount.trans hab.nodeCount⟩

theorem Stays.slot {s s' : Station} (h : s.Stays s') : s'.slot = s.slot := by
  simp only [Station.slot, h.identity]

theorem stays_of_moves {d : Site.Deed} {id : Nat} {s s' : Station} (moved : d.Moves id s s') :
    s.Stays s' := by
  cases moved with
  | still => exact .refl s
  | part p =>
    cases p with
    | beginBroadcast =>
      obtain ⟨kin, -⟩ := beginBroadcast_begun (Prod.eta s.beginBroadcast).symm
      exact ⟨kin.device, kin.unit, kin.identity, kin.nodeCount⟩
    | _ => exact ⟨rfl, rfl, rfl, rfl⟩
  | hear event =>
    obtain ⟨table, latch, status, counters, heard⟩ := s.hear_eq event
    rw [heard]
    exact ⟨rfl, rfl, rfl, rfl⟩

theorem hear_ready (s : Station) (event : RadioEvent) :
    (s.hear event).station.status.ready = s.status.ready := by
  cases event with
  | received bytes =>
    simp only [hear, hearFrame, hearSurveyFrame]
    repeat' split
    all_goals rfl
  | sent => exact s.hearSent_keeps.kin.ready
  | timedOut => exact s.hearTimeout_keeps.kin.ready
  | reset => exact s.hearReset_keeps.kin.ready

/-- Only what sets a station up or tears it down makes it ready or lets it rest. -/
theorem ready_of_moves {d : Site.Deed} {id : Nat} {s s' : Station} (moved : d.Moves id s s')
    (setup : d.isSetup = false) : s'.status.ready = s.status.ready := by
  cases moved with
  | still => rfl
  | part p =>
    cases p with
    | configure config => cases setup
    | suspend => cases setup
    | beginBroadcast =>
      obtain ⟨kin, -⟩ := beginBroadcast_begun (Prod.eta s.beginBroadcast).symm
      exact kin.ready
    | _ => rfl
  | hear event => exact s.hear_ready event

/-! ## What follows -/

namespace Sound

variable {s : Station}

theorem ownRow (h : s.Sound) : ∃ row, s.ownRow? = some row ∧ row.Sound s.nodeCount := by
  have inside : s.slot < s.table.rows.length := by
    have rows := h.rows
    have slot := h.slot
    simp only [Table.nodeCount] at rows
    omega
  refine ⟨_, List.getElem?_eq_getElem inside, h.row _ (List.getElem_mem inside)⟩

/-- A sound station that prepares its row has one, and finds room for it in its buffer. -/
theorem prepares (h : s.Sound) : s.prepare.2 ≠ .noRow ∧ ∀ peers, s.prepare.2 ≠ .noRoom peers := by
  obtain ⟨row, own, sound⟩ := h.ownRow
  simp only [prepare, own]
  split
  · simp
  split
  · simp
  next few =>
    have room : ¬ s.buffer.length < Frame.lengthFor row.packed.length := by
      rw [h.room, sound.length_packed]
      simp only [Frame.maxLength, Frame.lengthFor, Frame.distanceLength]
      omega
    simp only [Frame.writeRound?, if_neg room]
    simp

theorem beginBroadcast_prepares (h : s.Sound) :
    s.beginBroadcast.2 ≠ .noRow ∧ ∀ peers, s.beginBroadcast.2 ≠ .noRoom peers :=
  prepares (s := { s with
    latch := s.latch.take.1
    counters := { s.counters with broadcasts := s.counters.broadcasts + 1 }
    status := s.status.clearStep }) (h.same rfl rfl rfl rfl)

/-- The header in the buffer of a sound station. -/
theorem header (h : s.Sound) : ∃ f, Frame.ofBytes? s.buffer = some f ∧ f.network = networkId ∧
    f.control = rangingControl ∧ f.destination = everybody ∧ f.source = s.identity.address ∧
    f.code = surveyCode ∧ f.cell = s.identity.cell := by
  have complete : Frame.headerLength ≤ s.buffer.length := by
    rw [h.room]
    simp only [Frame.maxLength, Frame.lengthFor]
    omega
  have whole : s.buffer = Frame.fixedFields s.identity.address s.identity.cell ++
      s.buffer.drop Frame.roundOffset := by
    rw [← h.front, List.take_append_drop]
  refine ⟨Frame.read s.buffer, by rw [Frame.ofBytes?_eq, if_pos complete], ?_⟩
  rw [whole]
  exact Frame.read_fixedFields _ _ _

end Sound

end Station

/-- A station stays what it is, where it is. -/
theorem Site.Does.stays {H : Type} {ok : Site.Deed → Prop} {a b : Site H} {id : Nat} {s : Station}
    (h : Site.Does ok a b) (hs : a.stations[id]? = some s) :
    ∃ s', b.stations[id]? = some s' ∧ s.Stays s' := by
  refine h.station (P := fun s' => s.Stays s') ?_ hs (.refl s)
  intro d t t' _ moved stays
  exact stays.trans (Station.stays_of_moves moved)

end RangeSurvey
