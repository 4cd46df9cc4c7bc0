import RangeSurvey.Air.Medium
import RangeSurvey.Proofs.Frame.Announcement
import RangeSurvey.Station.Steps

/-!
# What the parts of a step leave alone

The parts of a step and the events that a station hears change its latch, its counters, the outcome
of the step and some row. Identity, size and configuration stay. A station that waits and is told
what its radio did waits no longer.
-/

namespace RangeSurvey

namespace Station

/-- What stays the same about a station as long as it is not configured anew. -/
structure Kin (s s' : Station) : Prop where
  device : s'.device = s.device
  unit : s'.unit = s.unit
  identity : s'.identity = s.identity
  nodeCount : s'.nodeCount = s.nodeCount
  config : s'.config = s.config
  ready : s'.status.ready = s.status.ready

theorem Kin.refl (s : Station) : s.Kin s := ⟨rfl, rfl, rfl, rfl, rfl, rfl⟩

theorem Kin.trans {a b c : Station} (hab : a.Kin b) (hbc : b.Kin c) : a.Kin c :=
  ⟨hbc.device.trans hab.device, hbc.unit.trans hab.unit, hbc.identity.trans hab.identity,
    hbc.nodeCount.trans hab.nodeCount, hbc.config.trans hab.config, hbc.ready.trans hab.ready⟩

theorem Kin.slot {s s' : Station} (h : s.Kin s') : s'.slot = s.slot := by
  simp only [Station.slot, h.identity]

/-- What stays the same about a station that neither stores a row nor writes a frame. -/
structure Keeps (s s' : Station) : Prop where
  kin : s.Kin s'
  table : s'.table = s.table
  buffer : s'.buffer = s.buffer

theorem Keeps.trans {a b c : Station} (hab : a.Keeps b) (hbc : b.Keeps c) : a.Keeps c :=
  ⟨hab.kin.trans hbc.kin, hbc.table.trans hab.table, hbc.buffer.trans hab.buffer⟩

/-- Round, latch, engine, counters and the flags of the last step may change freely. -/
theorem keeps_with (s : Station) (round : UInt32) (status : Status) (counters : Counters)
    (latch : Latch) (engineBusy : Bool) (ready : status.ready = s.status.ready) :
    s.Keeps { s with round, status, counters, latch, engineBusy } :=
  ⟨⟨rfl, rfl, rfl, rfl, rfl, ready⟩, rfl, rfl⟩

theorem enterRound_keeps (s : Station) (round : UInt32) : s.Keeps (s.enterRound round) :=
  s.keeps_with _ _ _ _ _ rfl

theorem beginRequest_keeps (s : Station) : s.Keeps s.beginRequest.1 := s.keeps_with _ _ _ _ _ rfl

theorem beginListen_keeps (s : Station) : s.Keeps s.beginListen := s.keeps_with _ _ _ _ _ rfl

theorem beginReceive_keeps (s : Station) : s.Keeps s.beginReceive := s.keeps_with _ _ _ _ _ rfl

theorem takeEngine_keeps (s : Station) : s.Keeps s.takeEngine := s.keeps_with _ _ _ _ _ rfl

theorem freeEngine_keeps (s : Station) : s.Keeps s.freeEngine := s.keeps_with _ _ _ _ _ rfl

theorem skipBroadcast_keeps (s : Station) (b : Broadcast) : s.Keeps (s.skipBroadcast b).1 :=
  s.keeps_with _ _ _ _ _ rfl

theorem failTransmit_keeps (s : Station) : s.Keeps s.failTransmit.1 := s.keeps_with _ _ _ _ _ rfl

theorem failReceive_keeps (s : Station) : s.Keeps s.failReceive.1 := s.keeps_with _ _ _ _ _ rfl

@[simp] theorem takeEngine_latch (s : Station) : s.takeEngine.latch = s.latch := rfl

@[simp] theorem freeEngine_latch (s : Station) : s.freeEngine.latch = s.latch := rfl

@[simp] theorem beginListen_latch (s : Station) : s.beginListen.latch = s.latch := rfl

@[simp] theorem beginReceive_engine (s : Station) :
    s.beginReceive.engineBusy = s.engineBusy := rfl

@[simp] theorem failReceive_engine (s : Station) :
    s.failReceive.1.engineBusy = s.engineBusy := rfl

theorem hearSent_keeps (s : Station) : s.Keeps s.hearSent.station := by
  cases h : s.latch <;> simp only [hearSent, h, Latch.putBack] <;> exact s.keeps_with _ _ _ _ _ rfl

theorem hearTimeout_keeps (s : Station) : s.Keeps s.hearTimeout.station := by
  cases h : s.latch <;> simp only [hearTimeout, h, Latch.putBack] <;>
    exact s.keeps_with _ _ _ _ _ rfl

theorem hearReset_keeps (s : Station) : s.Keeps s.hearReset.station := by
  cases h : s.latch <;> simp only [hearReset, h, Latch.putBack] <;>
    exact s.keeps_with _ _ _ _ _ rfl

/-- An event changes table, latch, flags and counters at most. -/
theorem hear_eq (s : Station) (event : RadioEvent) :
    ∃ table latch status counters,
      (s.hear event).station = { s with table, latch, status, counters } := by
  cases event with
  | received bytes =>
    simp only [hear, hearFrame, hearSurveyFrame]
    repeat' split
    all_goals exact ⟨_, _, _, _, rfl⟩
  | sent =>
    cases h : s.latch <;> simp only [hear, hearSent, h, Latch.putBack] <;>
      exact ⟨_, _, _, _, rfl⟩
  | timedOut =>
    cases h : s.latch <;> simp only [hear, hearTimeout, h, Latch.putBack] <;>
      exact ⟨_, _, _, _, rfl⟩
  | reset =>
    cases h : s.latch <;> simp only [hear, hearReset, h, Latch.putBack] <;>
      exact ⟨_, _, _, _, rfl⟩

def measure (s : Station) (m : Medium) : Station :=
  match s.ownRow? with
  | none => s.freeEngine
  | some row =>
    (s.endRequest (m.measured s.slot row.cells).1 (m.measured s.slot row.cells).2).1

/-- A station after what a node has been told, which goes on with a timeout when it is a frame that
nobody consumes. -/
def told (s : Station) : RadioEvent → Station
  | .received bytes =>
    let r := s.hear (.received bytes)
    if r.verdict = .handled then r.station else (r.station.hear .timedOut).station
  | event => (s.hear event).station

def accepts? (s : Station) (bytes : List UInt8) : Option Frame :=
  (Frame.ofBytes? bytes).filter fun f =>
    f.control = rangingControl ∧ f.destination = everybody ∧ f.code = surveyCode ∧
      f.cell = s.identity.cell ∧ f.round = s.round ∧ f.isSound s.nodeCount

theorem measure_kin (s : Station) (m : Medium) : s.Kin (s.measure m) := by
  simp only [measure]
  split <;> exact ⟨rfl, rfl, rfl, rfl, rfl, rfl⟩

theorem measure_latch (s : Station) (m : Medium) : (s.measure m).latch = s.latch := by
  simp only [measure]
  split <;> rfl

theorem measure_engine (s : Station) (m : Medium) : (s.measure m).engineBusy = false := by
  simp only [measure]
  split <;> rfl

/-- Beginning a broadcast takes the token and may write the buffer and two flags. -/
theorem beginBroadcast_eq (s : Station) :
    ∃ buffer nothingToSend invalidRow, s.beginBroadcast.1 =
      { s with
        latch := .held
        counters := { s.counters with broadcasts := s.counters.broadcasts + 1 }
        status := { s.status.clearStep with nothingToSend, invalidRow }
        buffer } := by
  simp only [beginBroadcast, Latch.take_fst, prepare]
  split
  · exact ⟨_, _, _, rfl⟩
  split
  · exact ⟨_, _, _, rfl⟩
  split
  · exact ⟨_, _, _, rfl⟩
  split
  · exact ⟨_, _, _, rfl⟩
  · exact ⟨_, _, _, rfl⟩

/-- Beginning a broadcast takes the token, and neither identity nor table change. -/
theorem beginBroadcast_begun {s s' : Station} {b : Broadcast} (h : s.beginBroadcast = (s', b)) :
    s.Kin s' ∧ s'.latch = .held ∧ s'.engineBusy = s.engineBusy ∧ s'.table = s.table ∧
      s'.round = s.round := by
  obtain ⟨buffer, nothingToSend, invalidRow, heq⟩ := s.beginBroadcast_eq
  rw [h] at heq
  obtain rfl : s' = _ := heq
  exact ⟨⟨rfl, rfl, rfl, rfl, rfl, rfl⟩, rfl, rfl, rfl, rfl⟩

/-- Preparing a row keeps the length of the buffer and its fixed fields. -/
theorem prepare_buffer {s : Station} {source cell : UInt16}
    (front : s.buffer.take Frame.roundOffset = Frame.fixedFields source cell) :
    s.prepare.1.buffer.length = s.buffer.length ∧
      s.prepare.1.buffer.take Frame.roundOffset = Frame.fixedFields source cell := by
  simp only [prepare]
  split
  · exact ⟨rfl, front⟩
  split
  · exact ⟨rfl, front⟩
  split
  · exact ⟨rfl, front⟩
  split
  · next written => exact (Frame.take_writeRound? front written).2
  · exact ⟨rfl, front⟩

theorem beginBroadcast_buffer {s : Station} {source cell : UInt16}
    (front : s.buffer.take Frame.roundOffset = Frame.fixedFields source cell) :
    s.beginBroadcast.1.buffer.length = s.buffer.length ∧
      s.beginBroadcast.1.buffer.take Frame.roundOffset = Frame.fixedFields source cell :=
  prepare_buffer (s := { s with
    latch := s.latch.take.1
    counters := { s.counters with broadcasts := s.counters.broadcasts + 1 }
    status := s.status.clearStep }) front

/-- The buffer of a station that has just been made. -/
theorem fresh_buffer (e : Enrolment) (ownsStorage : Bool) :
    (fresh e ownsStorage).buffer.length = Frame.maxLength e.nodeCount ∧
      (fresh e ownsStorage).buffer.take Frame.roundOffset =
        Frame.fixedFields e.identity.address e.identity.cell := by
  have length : (List.replicate (Frame.maxLength e.nodeCount) (0 : UInt8)).length =
      Frame.maxLength e.nodeCount := List.length_replicate
  have room : Frame.headerLength ≤
      (List.replicate (Frame.maxLength e.nodeCount) (0 : UInt8)).length := by
    rw [length]
    exact Nat.le_add_right ..
  exact ⟨(Frame.length_writeFixed room _ _).trans length, Frame.take_writeFixed ..⟩

theorem prepare_written {s s' : Station} {length : Nat} (h : s.prepare = (s', .frame length)) :
    ∃ (row : Row) (buffer : List UInt8),
      Frame.writeRound? s.buffer s.round s.identity.slot row.peers row.packed =
        some (buffer, length) ∧ s' = { s with buffer } := by
  simp only [prepare] at h
  split at h
  · cases h
  split at h
  · cases h
  split at h
  · cases h
  split at h
  next row _ _ _ _ buffer long hw =>
    obtain ⟨rfl, same⟩ := Prod.mk.inj h
    cases same
    exact ⟨row, buffer, hw, rfl⟩
  · cases h

/-- The buffer of a station that is about to send begins with the frame. -/
theorem prepare_fits {s s' : Station} {length : Nat} (h : s.prepare = (s', .frame length)) :
    length ≤ s'.buffer.length := by
  obtain ⟨row, buffer, written, rfl⟩ := prepare_written h
  rw [Frame.writeRound?] at written
  split at written
  · cases written
  · next room =>
    obtain ⟨rfl, rfl⟩ := Prod.mk.inj (Option.some.inj written)
    have fits : Frame.roundOffset +
        (Frame.roundFields s.round s.identity.slot row.peers row.packed).length ≤
          s.buffer.length := by
      simp only [Frame.roundFields, List.length_append, Bytes.length_ofWord32,
        Bytes.length_ofWord16, Bytes.length_ofWords32, Frame.roundOffset]
      simp only [Frame.lengthFor, Frame.headerLength, Frame.distanceLength] at room
      omega
    rw [Bytes.length_splice fits]
    omega

theorem isIdle_iff {s : Station} : s.isIdle = true ↔ s.latch = .available := by
  simp [isIdle, Latch.isAvailable]

theorem endWait_of_available {s : Station} (h : s.latch = .available) : s.endWait = s := by
  simp only [endWait, Latch.putBack_fst]
  rw [← h]

theorem peek_of_ofBytes? {bytes : List UInt8} {f : Frame} (h : Frame.ofBytes? bytes = some f) :
    Frame.peekControl? bytes = some f.control := by
  simp only [Frame.ofBytes?] at h
  split at h
  · obtain rfl := Option.some.inj h
    rfl
  · cases h

/-- A waiting station stores the frame that it accepts. -/
theorem hearFrame_accepts {s : Station} (held : s.latch = .held) {bytes : List UInt8} {f : Frame}
    (accepts : s.accepts? bytes = some f) :
    s.hearFrame bytes = ⟨s.store f, .handled, [.rowAccepted f.slot f.peers.count]⟩ := by
  have busy : s.isIdle = false := by simp [isIdle, Latch.isAvailable, held]
  obtain ⟨hf, ok⟩ := Option.filter_eq_some_iff.mp accepts
  obtain ⟨control, destination, code, cell, round, sound⟩ := of_decide_eq_true ok
  simp [hearFrame, hearSurveyFrame, peek_of_ofBytes? hf, busy, hf, control, destination, code, cell,
    round, sound]

/-- A waiting station does not handle any other frame, and stays as it is. -/
theorem hearFrame_rejects {s : Station} (held : s.latch = .held) {bytes : List UInt8}
    (rejects : s.accepts? bytes = none) :
    (s.hearFrame bytes).station = s ∧ (s.hearFrame bytes).verdict ≠ .handled := by
  have busy : s.isIdle = false := by simp [isIdle, Latch.isAvailable, held]
  cases hf : Frame.ofBytes? bytes with
  | none =>
    simp only [hearFrame, busy, hf]
    split <;> simp
  | some f =>
    have peek := peek_of_ofBytes? hf
    have bad : ¬ (f.control = rangingControl ∧ f.destination = everybody ∧ f.code = surveyCode ∧
        f.cell = s.identity.cell ∧ f.round = s.round ∧ f.isSound s.nodeCount) := by
      intro ok
      simp only [accepts?, hf, Option.filter_some, decide_eq_true ok, if_true] at rejects
      cases rejects
    simp only [hearFrame, busy, hf, peek, hearSurveyFrame]
    split
    · simp
    split
    · simp_all
    split
    · simp
    split
    · simp
    split
    · simp_all
    · simp

/-- A waiting station stores the frame that it accepts; any other frame ends in a timeout. -/
theorem told_received {s : Station} (held : s.latch = .held) (bytes : List UInt8) :
    s.told (.received bytes) =
      match s.accepts? bytes with
      | some f => s.store f
      | none => s.hearTimeout.station := by
  cases accepts : s.accepts? bytes with
  | some f => simp only [told, hear, hearFrame_accepts held accepts, if_true]
  | none =>
    obtain ⟨same, verdict⟩ := hearFrame_rejects held accepts
    simp only [told, hear, if_neg verdict, same]

/-- A station that has a frame to send has a row of its own that names somebody, and announces
it. -/
theorem beginBroadcast_frame {s s' : Station} {source cell : UInt16} {length : Nat}
    (front : s.buffer.take Frame.roundOffset = Frame.fixedFields source cell)
    (h : s.beginBroadcast = (s', .frame length)) :
    ∃ row, s.ownRow? = some row ∧ row.peers.count ≠ 0 ∧ row.peers.count < s.nodeCount ∧
      s'.buffer.take length = (Frame.announcement source cell s.round s.identity.slot row.peers
        row.packed).toBytes := by
  have own (counters : Counters) (latch : Latch) (status : Status) :
      ({ s with latch, counters, status } : Station).ownRow? = s.ownRow? := rfl
  simp only [beginBroadcast, prepare] at h
  rw [own] at h
  split at h
  · cases h
  next row hrow =>
    split at h
    · cases h
    next filled =>
      split at h
      · cases h
      next few =>
        split at h
        next buffer long hw =>
          obtain ⟨rfl, hlong⟩ := Prod.mk.inj h
          cases hlong
          exact ⟨row, hrow, filled, Nat.lt_of_not_le few, (Frame.take_writeRound? front hw).1⟩
        · cases h

/-- A station that waits in the cell and the round of an announced row stores the row as it is. -/
theorem hear_announcement {s : Station} (held : s.latch = .held) {source slot : UInt16} {row : Row}
    (packed : row.IsPacked)
    (capacity : ∀ r, s.table.row? slot.toNat = some r → r.capacity = row.capacity)
    (sound : (Frame.announcement source s.identity.cell s.round slot row.peers row.packed).isSound
      s.nodeCount = true) :
    s.hear (.received (Frame.announcement source s.identity.cell s.round slot row.peers
        row.packed).toBytes) =
      ⟨{ s with table := s.table.modifyRow slot.toNat fun _ => row, latch := .available },
        .handled, [.rowAccepted slot row.peers.count]⟩ := by
  have accepts : s.accepts? (Frame.announcement source s.identity.cell s.round slot row.peers
      row.packed).toBytes = some (Frame.announcement source s.identity.cell s.round slot row.peers
        row.packed) := by
    simp only [accepts?]
    rw [Frame.ofBytes?_toBytes, Option.filter_some]
    exact if_pos (decide_eq_true ⟨rfl, rfl, rfl, rfl, rfl, sound⟩)
  have stored : s.table.modifyRow slot.toNat (fun r => r.replace row.peers (Frame.announcement source
      s.identity.cell s.round slot row.peers row.packed).distances) =
        s.table.modifyRow slot.toNat fun _ => row := by
    apply Table.modifyRow_congr
    intro r hr
    rw [Frame.distances_announcement]
    exact Row.replace_packed packed (capacity r hr)
  rw [hear, hearFrame_accepts held accepts, store, Latch.putBack_fst]
  exact congrArg (fun table => (⟨{ s with table, latch := .available }, .handled, _⟩ : Reaction))
    stored

/-- What a waiting station is told ends the wait. -/
theorem told_available {s : Station} (held : s.latch = .held) (event : RadioEvent) :
    (s.told event).latch = .available := by
  cases event with
  | received bytes =>
    rw [told_received held]
    split
    · exact Latch.putBack_fst _
    · simp [hearTimeout, held, Latch.putBack]
  | sent => simp [told, hear, hearSent, held, Latch.putBack]
  | timedOut => simp [told, hear, hearTimeout, held, Latch.putBack]
  | reset => simp [told, hear, hearReset, held, Latch.putBack]

theorem hearReset_available (s : Station) : s.hearReset.station.latch = .available := by
  cases h : s.latch <;> simp [hearReset, h, Latch.putBack]

theorem hearReset_of_available {s : Station} (h : s.latch = .available) :
    s.hearReset.station = s := by
  simp [hearReset, h, Latch.putBack]

theorem told_kin {s : Station} (held : s.latch = .held) (event : RadioEvent) :
    s.Kin (s.told event) := by
  cases event with
  | received bytes =>
    rw [told_received held]
    split
    · exact ⟨rfl, rfl, rfl, rfl, rfl, rfl⟩
    · exact s.hearTimeout_keeps.kin
  | sent => exact s.hearSent_keeps.kin
  | timedOut => exact s.hearTimeout_keeps.kin
  | reset => exact s.hearReset_keeps.kin

theorem hearReset_engine (s : Station) : s.hearReset.station.engineBusy = s.engineBusy := by
  cases h : s.latch <;> simp only [hearReset, h, Latch.putBack]

theorem told_engine {s : Station} (held : s.latch = .held) (event : RadioEvent) :
    (s.told event).engineBusy = s.engineBusy := by
  cases event with
  | received bytes =>
    rw [told_received held]
    split
    · rfl
    · simp only [hearTimeout, held, Latch.putBack]
  | sent => simp only [told, hear, hearSent, held, Latch.putBack]
  | timedOut => simp only [told, hear, hearTimeout, held, Latch.putBack]
  | reset => exact s.hearReset_engine

end Station

end RangeSurvey
