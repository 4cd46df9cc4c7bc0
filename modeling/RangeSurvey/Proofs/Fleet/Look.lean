import RangeSurvey.Proofs.Air.Answers
import RangeSurvey.Proofs.Fleet.Seat

/-!
# Looking at the task of a seat

What one look at a task does to the station that takes part, to its node and to the task. Every
look takes the part from one of its phases to another.
-/

namespace RangeSurvey

namespace Node

theorem frame_write (n : Node) {bytes : List UInt8} (short : bytes.length < UInt64.size) (duty : Duty)
    (failTransmit : Bool) :
    ({ n.write bytes 0 with frameLength := bytes.length, duty, failTransmit } : Node).frame =
      bytes := by
  have fits : (0 : UInt64).toNat + bytes.length < UInt64.size := by simpa using short
  rw [frame, write, written?_eq, if_pos fits]
  simp

end Node

/-- No frame is longer than one with a distance for each slot that a peer set can name. -/
theorem Station.prepare_short {s s' : Station} {length : Nat}
    (h : s.prepare = (s', .frame length)) : length ≤ Frame.lengthFor 32 := by
  obtain ⟨row, buffer, written, -⟩ := prepare_written h
  rw [Frame.writeRound?] at written
  split at written
  · cases written
  · obtain ⟨-, rfl⟩ := Prod.mk.inj (Option.some.inj written)
    have few : row.peers.count ≤ 32 := PeerSet.count_le fun p => PeerSet.lt_of_contains
    have packed : row.packed.length ≤ row.peers.count := by
      rw [Row.packed, List.length_take]
      omega
    exact Nat.add_le_add_left (Nat.mul_le_mul_right _ (Nat.le_trans packed few)) _

namespace Medium

variable {m : Medium} {i : Nat} {n : Node}

theorem armTransmit_fails (hn : m.node? i = some n) (fails : n.failTransmit = true) :
    m.armTransmit i =
      (m.modifyNode i fun n => { n with failTransmit := false }, .error .transmit) := by
  simp only [armTransmit, hn, fails, if_true]

theorem armTransmit_starts (hn : m.node? i = some n) (starts : n.failTransmit = false) :
    m.armTransmit i = (m.modifyNode i fun n => { n with duty := .sending }, .ok []) := by
  simp only [armTransmit, hn, starts, Bool.false_eq_true, if_false]

theorem armReceive_fails (hn : m.node? i = some n) (fails : n.failReceive = true) :
    m.armReceive i =
      (m.modifyNode i fun n => { n with failReceive := false }, .error .receive) := by
  simp only [armReceive, hn, fails, if_true]

theorem armReceive_starts (hn : m.node? i = some n) (starts : n.failReceive = false) :
    m.armReceive i = (m.modifyNode i fun n => { n with duty := .listening }, .ok []) := by
  simp only [armReceive, hn, starts, Bool.false_eq_true, if_false]

end Medium

namespace Fleet

namespace Changes

variable {f f' : Fleet} {id unit : Nat} {s : Station} {n : Node}

theorem finish (h : Changes f id s unit n f') {c : Call} (hc : c.station = id) :
    f'.finish c = (f', .done s.status) := by
  subst hc
  simp only [Site.finish, h.station]

theorem announce (h : Changes f id s unit n f') :
    Changes f id s unit n (f'.announce id s) := by
  simp only [Site.announce]
  split
  · exact ⟨h.isStation, h.isNode, h.stations, h.nodes, h.range, h.lossPercent, h.chain, h.roster,
      h.tasks⟩
  · exact (h.record _).say _

/-- What comes of a call in a slot is the part of the station with its status. -/
theorem conclude (h : Changes f id s unit n f') {c : Call} (hc : c.station = id)
    {part : SlotPart} (hp : c.part = some part) (status : Status) :
    Changes f id s unit n (f'.conclude c status).1 ∧
      (f'.conclude c status).2 = .slot (some ⟨part.role, c.deadline, status⟩) := by
  subst hc
  simp only [Site.conclude, hp, h.station]
  cases part.kind with
  | ranging => exact ⟨h, rfl⟩
  | broadcast =>
    simp only
    split
    · exact ⟨h.announce, rfl⟩
    · exact ⟨h, rfl⟩

/-- The first look at an exchange leaves it under way. -/
theorem beginExchange (h : Changes f id s unit n f') {c : Call} (hc : c.station = id)
    (known : Station) (e : Exchange) :
    ∃ f'', f'.beginExchange c known e = (f'', .waiting { c with stage := .exchanging e }) ∧
      Changes f id s.takeEngine unit n f'' := by
  subst hc
  have taken := (h.update Station.takeEngine).record (.called (.exchange known.unit e))
  cases e with
  | request destination start mode peers => exact ⟨_, rfl, taken⟩
  | listen start timeout => exact ⟨_, rfl, taken.draw _ _⟩

/-- A listener is done at the second look. -/
theorem endListen (h : Changes f id s unit n f') {c : Call} (hc : c.station = id)
    (start : UInt64) (timeout : UInt16) :
    ∃ f'', f'.lookExchange c s false (.listen start timeout) = (f'', .done s.freeEngine.status) ∧
      Changes f id s.freeEngine unit n f'' := by
  subst hc
  have freed := h.update Station.freeEngine
  exact ⟨_, freed.finish rfl, freed⟩

/-- A request changes what the node has measured. -/
theorem request (h : Changes f id s unit n f') (peers : PeerSet) :
    ∃ m' n', f'.hardware.request? unit peers = some m' ∧
      Changes f id s unit n' { f' with hardware := m' } ∧ n.Steady n' ∧ n'.duty = n.duty := by
  have hlt : unit < f'.hardware.nodeCount := by rw [h.nodeCount]; exact h.isNode
  have hm := Medium.request?_eq peers (Medium.asks_of_lt hlt peers.members)
  exact ⟨_, _, hm, (h.draw _ _).modifyNode _, ⟨rfl, fun h => h, fun h => h⟩, rfl⟩

/-- A requester is done at the second look, with what the medium has measured by then. -/
theorem endRequest (h : Changes f id s unit n f') {c : Call} (hc : c.station = id)
    (hunit : s.unit = unit) (destination : UInt16) (start : UInt64) (mode : Sidedness)
    (peers : PeerSet) :
    ∃ f'' m' n', f'.hardware.request? unit peers = some m' ∧
      f'.lookExchange c s false (.request destination start mode peers) =
        (f'', .done (s.measure m').status) ∧
      Changes f id (s.measure m') unit n' f'' ∧ n.Steady n' ∧ n'.duty = n.duty := by
  subst hc
  obtain ⟨m', n', hm, asked, steady, duty⟩ := h.request peers
  have polled : Hardware.pollExchange f'.hardware s.unit false
      (.request destination start mode peers) = (m', true) := by
    change f'.hardware.pollExchange s.unit false _ = _
    simp only [Medium.pollExchange, Bool.false_eq_true, if_false, hunit, hm]
  simp only [Site.lookExchange, polled, if_true]
  cases hrow : s.ownRow? with
  | none =>
    have measured : s.measure m' = s.freeEngine := by simp only [Station.measure, hrow]
    have freed := asked.update Station.freeEngine
    rw [← measured] at freed
    refine ⟨_, m', n', hm, ?_, freed, steady, duty⟩
    simp only [Site.endExchange, hrow]
    exact freed.finish rfl
  | some row =>
    have measured : s.measure m' =
        (s.endRequest (m'.measured s.slot row.cells).1 (m'.measured s.slot row.cells).2).1 := by
      simp only [Station.measure, hrow]
    have stored := (asked.record (.called (.measured s.unit s.slot row.capacity))).act
      fun s' => s'.endRequest (m'.measured s.slot row.cells).1 (m'.measured s.slot row.cells).2
    rw [← measured] at stored
    refine ⟨_, m', n', hm, ?_, stored, steady, duty⟩
    simp only [Site.endExchange, hrow]
    exact stored.finish rfl

/-- A call whose radio is armed waits as long as the token is out. -/
theorem waits (h : Changes f id s unit n f') {c : Call} (hc : c.station = id)
    (held : s.latch = .held) : f'.waitArmed c = (f', .waiting { c with stage := .armed }) := by
  subst hc
  simp only [Site.waitArmed, h.station, Site.lookArmed, held]

/-- The frame is in the transmit buffer by the time the radio is told to send it. -/
theorem load (h : Changes f id s unit n f') {bytes : List UInt8} (short : bytes.length < UInt64.size)
    (ranging : Bool) :
    ∃ m' n', Hardware.setControl (Hardware.write f'.hardware unit bytes 0) unit bytes.length ranging
        = m' ∧
      Changes f id s unit n' { f' with hardware := m' } ∧ n.Steady n' ∧ n'.duty = n.duty ∧
      n'.failTransmit = n.failTransmit ∧ n'.frame = bytes := by
  have written := h.modifyNode fun n => n.write bytes 0
  have controlled := written.modifyNode fun n => { n with frameLength := bytes.length }
  refine ⟨_, _, rfl, controlled, ⟨rfl, fun h => h, fun h => h⟩, rfl, rfl, ?_⟩
  exact Node.frame_write n short n.duty n.failTransmit

theorem transmitFails (h : Changes f id s unit n f') {c : Call} (hc : c.station = id)
    (hunit : s.unit = unit) {length : Nat} (fits : length ≤ s.buffer.length)
    (short : length < UInt64.size)
    (fails : n.failTransmit = true) :
    ∃ f'' n', f'.transmit c s length = (f'', .done s.failTransmit.1.status) ∧
      Changes f id s.failTransmit.1 unit n' f'' ∧ n.Steady n' ∧ n'.duty = n.duty := by
  subst hc hunit
  obtain ⟨m', n', hm, loaded, steady, duty, due, -⟩ := h.load
    (show (s.buffer.take length).length < UInt64.size by rwa [List.length_take_of_le fits]) false
  rw [List.length_take_of_le fits] at hm
  have started : Hardware.armTransmit m' s.unit c.deadline =
      (m'.modifyNode s.unit fun n => { n with failTransmit := false }, .error .transmit) :=
    Medium.armTransmit_fails loaded.node (due.trans fails)
  have refused := loaded.modifyNode fun n => { n with failTransmit := false }
  have failed := (((refused.record (.called (.write s.unit 0 (s.buffer.take length)))).record
    (.called (.control s.unit length false))).record
    (.called (.armTransmit s.unit c.deadline))).act Station.failTransmit
  refine ⟨_, _, ?_, failed, steady.trans ⟨rfl, fun _ => rfl, fun h => h⟩, duty⟩
  simp only [Site.transmit_eq, hm, started]
  exact failed.finish rfl

/-- A transmission that starts waits with its frame in the transmit buffer. -/
theorem transmits (h : Changes f id s unit n f') {c : Call} (hc : c.station = id)
    (hunit : s.unit = unit) {length : Nat} (fits : length ≤ s.buffer.length)
    (short : length < UInt64.size)
    (held : s.latch = .held) (starts : n.failTransmit = false) :
    ∃ f'' n', f'.transmit c s length = (f'', .waiting { c with stage := .armed }) ∧
      Changes f id s unit n' f'' ∧ n.Steady n' ∧ n'.duty = .sending ∧
      n'.frame = s.buffer.take length := by
  subst hc hunit
  obtain ⟨m', n', hm, loaded, steady, -, due, frame⟩ := h.load
    (show (s.buffer.take length).length < UInt64.size by rwa [List.length_take_of_le fits]) false
  rw [List.length_take_of_le fits] at hm
  have started : Hardware.armTransmit m' s.unit c.deadline =
      (m'.modifyNode s.unit fun n => { n with duty := .sending }, .ok []) :=
    Medium.armTransmit_starts loaded.node (due.trans starts)
  have armed := loaded.modifyNode fun n => { n with duty := .sending }
  have waiting := (((armed.record (.called (.write s.unit 0 (s.buffer.take length)))).record
    (.called (.control s.unit length false))).record
    (.called (.armTransmit s.unit c.deadline))).say (.broadcastStarted length)
  refine ⟨_, _, ?_, waiting, steady.trans ⟨rfl, fun h => h, fun h => h⟩, rfl, frame⟩
  simp only [Site.transmit_eq, hm, started, Site.raiseAll]
  exact waiting.waits rfl held

end Changes

end Fleet

namespace Seat

variable {p : Seat} {c : Course} {f f' : Fleet} {s : Station} {n : Node}

/-- The device of a seat finds its station and takes the part of the seat. -/
theorem enter (found : f.find? p.job.device = some p.id)
    (hs : f.stations[p.id]? = some p.station) (hn : f.hardware.nodes[p.unit]? = some n)
    (ready : p.station.status.ready = true) :
    ∃ f', f.enter p.job = (f', some (p.call .fresh)) ∧
      Fleet.Changes f p.id p.entered p.unit n f' := by
  have entered := (Fleet.Changes.start hs hn).act fun s =>
    (s.enterRound (roundNumber p.job.slot.round s.config.roundShift),
      [.slotPart p.job.slot.round p.role p.deadline])
  refine ⟨_, ?_, entered⟩
  simp only [Site.enter, found, hs, ready, if_true]
  rfl

theorem Armed.held (h : p.Armed s n) : s.latch = .held := by
  cases h with
  | receive => exact Latch.take_fst p.station.latch
  | broadcast _ hb _ _ => exact (Station.beginBroadcast_begun hb).2.1

theorem look_eq (h : Fleet.Changes f p.id s p.unit n f') (stage : Stage) :
    f'.look (p.call stage) = f'.advance (p.call stage) s := by
  have hs : f'.stations[(p.call stage).station]? = some s := h.station
  simp only [Site.look, hs]

/-- The first look at a ranging slot leaves the engine at work. -/
theorem look_ranging (h : Fleet.Changes f p.id p.entered p.unit n f')
    (free : p.station.engineBusy = false) (role : p.role = .requester ∨ p.role = .listener) :
    ∃ f'' s' e, f'.look (p.call .fresh) = (f'', .waiting (p.call (.exchanging e))) ∧
      Fleet.Changes f p.id s' p.unit n f'' ∧ p.Exchanging s' e := by
  have stage : (p.call .fresh).stage = .fresh := rfl
  have busy : p.entered.engineBusy = false := free
  rcases role with role | role
  · have activity : (p.call .fresh).activity = .request := congrArg Role.activity role
    have begun := h.act Station.beginRequest
    obtain ⟨f'', hf, changes⟩ := begun.beginExchange (c := p.call .fresh) rfl p.entered
      (.request everybody p.deadline p.station.config.mode p.station.peers)
    refine ⟨f'', _, _, ?_, changes, .request role⟩
    rw [look_eq h]
    simp only [Site.advance, stage, activity, Site.tryRequest, busy, Bool.false_eq_true, if_false]
    exact hf
  · have activity : (p.call .fresh).activity = .listen := congrArg Role.activity role
    have begun := (h.update Station.beginListen).say
      (.listening (Site.listenTimeout f' p.entered))
    obtain ⟨f'', hf, changes⟩ := begun.beginExchange (c := p.call .fresh) rfl p.entered
      (.listen p.deadline (Site.listenTimeout f' p.entered))
    refine ⟨f'', _, _, ?_, changes, .listen (Site.listenTimeout f' p.entered) role⟩
    rw [look_eq h]
    simp only [Site.advance, stage, activity, Site.tryListen, busy, Bool.false_eq_true, if_false]
    exact hf

/-- A broadcaster without a frame is done at the first look. -/
theorem look_skip (h : Fleet.Changes f p.id p.entered p.unit n f')
    (available : p.station.latch = .available) (role : p.role = .broadcaster)
    {b : Station.Broadcast} (hb : p.entered.beginBroadcast = (s, b))
    (noFrame : ∀ length, b ≠ .frame length) :
    ∃ f'', f'.look (p.call .fresh) = (f'', .done (s.skipBroadcast b).1.status) ∧
      Fleet.Changes f p.id (s.skipBroadcast b).1 p.unit n f'' := by
  have stage : (p.call .fresh).stage = .fresh := rfl
  have activity : (p.call .fresh).activity = .broadcast := congrArg Role.activity role
  have free : p.entered.latch = .available := available
  have skipped := (h.update fun _ => s).act fun s => s.skipBroadcast b
  refine ⟨_, ?_, skipped⟩
  rw [look_eq h]
  cases b with
  | frame length => exact absurd rfl (noFrame length)
  | noRow =>
    simp only [Site.advance, stage, activity, Site.tryBroadcast, free, hb]
    exact skipped.finish rfl
  | empty =>
    simp only [Site.advance, stage, activity, Site.tryBroadcast, free, hb]
    exact skipped.finish rfl
  | invalidRow peers =>
    simp only [Site.advance, stage, activity, Site.tryBroadcast, free, hb]
    exact skipped.finish rfl
  | noRoom peers =>
    simp only [Site.advance, stage, activity, Site.tryBroadcast, free, hb]
    exact skipped.finish rfl

/-- A broadcaster with a frame arms its radio at the first look, unless the start fails. -/
theorem look_send (h : Fleet.Changes f p.id p.entered p.unit n f')
    (available : p.station.latch = .available) (role : p.role = .broadcaster) {length : Nat}
    (hb : p.entered.beginBroadcast = (s, .frame length)) :
    ∃ f'' n', n.Steady n' ∧
      (n.failTransmit = true ∧ n'.duty = n.duty ∧
          f'.look (p.call .fresh) = (f'', .done s.failTransmit.1.status) ∧
          Fleet.Changes f p.id s.failTransmit.1 p.unit n' f'' ∨
        p.Armed s n' ∧ f'.look (p.call .fresh) = (f'', .waiting (p.call .armed)) ∧
          Fleet.Changes f p.id s p.unit n' f'') := by
  have stage : (p.call .fresh).stage = .fresh := rfl
  have activity : (p.call .fresh).activity = .broadcast := congrArg Role.activity role
  have free : p.entered.latch = .available := available
  obtain ⟨kin, held, -⟩ := Station.beginBroadcast_begun hb
  have hunit : s.unit = p.unit := kin.unit
  have fits : length ≤ s.buffer.length := Station.prepare_fits hb
  have short : length < UInt64.size := Nat.lt_of_le_of_lt (Station.prepare_short hb) (by decide)
  have begun := h.update fun _ => s
  rw [look_eq h]
  simp only [Site.advance, stage, activity, Site.tryBroadcast, free, hb]
  cases due : n.failTransmit with
  | true =>
    obtain ⟨f'', n', hf, changes, steady, duty⟩ :=
      begun.transmitFails (c := p.call .fresh) rfl hunit fits short due
    exact ⟨f'', n', steady, Or.inl ⟨rfl, duty, hf, changes⟩⟩
  | false =>
    obtain ⟨f'', n', hf, changes, steady, duty, frame⟩ :=
      begun.transmits (c := p.call .fresh) rfl hunit fits short held due
    exact ⟨f'', n', steady, Or.inr ⟨.broadcast role hb duty frame, hf, changes⟩⟩

/-- A receiver arms its radio at the first look, unless the start fails. -/
theorem look_receive (h : Fleet.Changes f p.id p.entered p.unit n f')
    (available : p.station.latch = .available) (role : p.role = .receiver) :
    ∃ f'' n', n.Steady n' ∧
      (n.failReceive = true ∧ n'.duty = n.duty ∧
          f'.look (p.call .fresh) = (f'', .done p.entered.beginReceive.failReceive.1.status) ∧
          Fleet.Changes f p.id p.entered.beginReceive.failReceive.1 p.unit n' f'' ∨
        p.Armed p.entered.beginReceive n' ∧
          f'.look (p.call .fresh) = (f'', .waiting (p.call .armed)) ∧
          Fleet.Changes f p.id p.entered.beginReceive p.unit n' f'') := by
  have stage : (p.call .fresh).stage = .fresh := rfl
  have activity : (p.call .fresh).activity = .receive := congrArg Role.activity role
  have free : p.entered.latch = .available := available
  have begun := h.update Station.beginReceive
  have timeout : ∀ g : Fleet, g.receiveTimeout p.entered =
      addDurations (Medium.airTime (Frame.maxLength p.entered.nodeCount))
        p.entered.config.receiveMargin := fun _ => rfl
  rw [look_eq h]
  simp only [Site.advance, stage, activity, Site.tryReceive_eq, free, timeout]
  generalize addDurations _ _ = wait
  cases due : n.failReceive with
  | true =>
    have started : Hardware.armReceive (f'.update (p.call .fresh).station
        Station.beginReceive).hardware p.entered.unit wait (p.call .fresh).deadline =
        ((f'.update p.id Station.beginReceive).hardware.modifyNode p.unit
          fun n => { n with failReceive := false }, .error .receive) :=
      Medium.armReceive_fails begun.node due
    have refused := begun.modifyNode fun n => { n with failReceive := false }
    have failed := (refused.record (.called (.armReceive p.unit wait p.deadline))).act
      Station.failReceive
    refine ⟨_, { n with failReceive := false }, ⟨rfl, fun h => h, fun _ => rfl⟩,
      Or.inl ⟨rfl, rfl, ?_, failed⟩⟩
    simp only [started]
    exact failed.finish rfl
  | false =>
    have started : Hardware.armReceive (f'.update (p.call .fresh).station
        Station.beginReceive).hardware p.entered.unit wait (p.call .fresh).deadline =
        ((f'.update p.id Station.beginReceive).hardware.modifyNode p.unit
          fun n => { n with duty := .listening }, .ok []) :=
      Medium.armReceive_starts begun.node due
    have armed := begun.modifyNode fun n => { n with duty := .listening }
    have waiting := armed.record (.called (.armReceive p.unit wait p.deadline))
    refine ⟨_, { n with duty := .listening }, ⟨rfl, fun h => h, fun h => h⟩,
      Or.inr ⟨.receive role rfl, ?_, waiting⟩⟩
    simp only [started]
    exact waiting.waits rfl (Latch.take_fst _)

theorem entered_keeps (p : Seat) : p.station.Keeps p.entered := p.station.enterRound_keeps _

theorem requested_keeps (p : Seat) : p.station.Keeps p.entered.beginRequest.1.takeEngine :=
  (p.entered_keeps.trans p.entered.beginRequest_keeps).trans (Station.takeEngine_keeps _)

theorem listening_keeps (p : Seat) : p.station.Keeps p.entered.beginListen.takeEngine :=
  (p.entered_keeps.trans p.entered.beginListen_keeps).trans (Station.takeEngine_keeps _)

theorem receiving_keeps (p : Seat) : p.station.Keeps p.entered.beginReceive :=
  p.entered_keeps.trans p.entered.beginReceive_keeps

theorem Armed.begun (h : p.Armed s n) :
    p.station.Kin s ∧ s.engineBusy = p.station.engineBusy := by
  cases h with
  | receive => exact ⟨p.receiving_keeps.kin, rfl⟩
  | broadcast _ hb _ _ =>
    obtain ⟨kin, -, engine, -⟩ := Station.beginBroadcast_begun hb
    exact ⟨p.entered_keeps.kin.trans kin, engine⟩

theorem Ended.kin (h : p.Ended c s) : p.station.Kin s := by
  have entered : p.station.Kin p.entered := p.entered_keeps.kin
  cases h with
  | answered => exact (p.listening_keeps.trans (Station.freeEngine_keeps _)).kin
  | requested => exact p.requested_keeps.kin.trans (Station.measure_kin _ _)
  | skipped _ hb =>
    have kin := entered.trans (Station.beginBroadcast_begun hb).1
    exact kin.trans (Station.skipBroadcast_keeps _ _).kin
  | transmitFailed _ hb =>
    have kin := entered.trans (Station.beginBroadcast_begun hb).1
    exact kin.trans (Station.failTransmit_keeps _).kin
  | receiveFailed => exact (p.receiving_keeps.trans (Station.failReceive_keeps _)).kin
  | cut armed => exact armed.begun.1.trans (Station.hearReset_keeps _).kin
  | told armed => exact armed.begun.1.trans (Station.told_kin armed.held _)

/-- However a part ends, the token is back and the engine free. -/
theorem Ended.atRest (available : p.station.latch = .available)
    (free : p.station.engineBusy = false) (h : p.Ended c s) :
    s.latch = .available ∧ s.engineBusy = false := by
  cases h with
  | answered =>
    constructor
    · rw [Station.freeEngine_latch, Station.takeEngine_latch, Station.beginListen_latch]
      exact available
    · rfl
  | requested =>
    exact ⟨(Station.measure_latch _ _).trans available, Station.measure_engine _ _⟩
  | skipped _ hb =>
    exact ⟨Latch.putBack_fst _, (Station.beginBroadcast_begun hb).2.2.1.trans free⟩
  | transmitFailed _ hb =>
    exact ⟨Latch.putBack_fst _, (Station.beginBroadcast_begun hb).2.2.1.trans free⟩
  | receiveFailed =>
    constructor
    · exact Latch.putBack_fst _
    · rw [Station.failReceive_engine, Station.beginReceive_engine]
      exact free
  | cut armed =>
    exact ⟨Station.hearReset_available _,
      ((Station.hearReset_engine _).trans armed.begun.2).trans free⟩
  | told armed =>
    exact ⟨Station.told_available armed.held _,
      ((Station.told_engine armed.held _).trans armed.begun.2).trans free⟩

theorem runCall_waiting {g : Fleet} {stage : Stage} {call : Call}
    (h : f.look (p.call stage) = (g, .waiting call)) :
    f.runCall (p.call stage) = (g, .waiting (.call call)) := by
  simp only [Site.runCall, h]

theorem runCall_done {g : Fleet} {stage : Stage}
    (h : f'.look (p.call stage) = (g, .done s.status))
    (changes : Fleet.Changes f p.id s p.unit n g) :
    ∃ g', f'.runCall (p.call stage) = (g', .over (p.outcome s)) ∧
      Fleet.Changes f p.id s p.unit n g' := by
  obtain ⟨kept, outcome⟩ := changes.conclude (c := p.call stage) rfl rfl s.status
  refine ⟨_, ?_, kept⟩
  simp only [Site.runCall, h]
  rw [← Prod.eta (g.conclude (p.call stage) s.status), outcome]
  rfl

/-- The station of a seat as its slot finds it: its device finds it, it is ready and it waits for
nothing. -/
structure Ready (p : Seat) (f : Fleet) : Prop where
  found : f.find? p.job.device = some p.id
  ready : p.station.status.ready = true
  available : p.station.latch = .available
  engineFree : p.station.engineBusy = false

/-- What one look makes of a part: the task waits again or is over, and the next phase has begun. -/
def Gone (c : Course) (p : Seat) (looks : Nat) (task : Task) (f : Fleet) (n : Node) : Prop :=
  ∃ f' s' n', Fleet.Changes f p.id s' p.unit n' f' ∧ n.Steady n' ∧
    ((∃ task', f.run task = (f', .waiting task') ∧ p.Phase c (looks + 1) (some task') s' n') ∨
      f.run task = (f', .over (p.outcome s')) ∧ p.Phase c (looks + 1) none s' n')

theorem gone_done {g : Fleet} {stage : Stage} {task : Task} {looks : Nat} {n' : Node}
    (hrun : f.run task = f'.runCall (p.call stage))
    (hlook : f'.look (p.call stage) = (g, .done s.status))
    (changes : Fleet.Changes f p.id s p.unit n' g) (steady : n.Steady n') (idle : n'.duty = .idle)
    (ended : p.Ended c s) : p.Gone c looks task f n := by
  obtain ⟨g', ran, kept⟩ := runCall_done hlook changes
  exact ⟨g', s, n', kept, steady, Or.inr ⟨hrun.trans ran, .finished idle ended⟩⟩

theorem gone_waiting {g : Fleet} {stage next : Stage} {task : Task} {looks : Nat} {n' : Node}
    (hrun : f.run task = f'.runCall (p.call stage))
    (hlook : f'.look (p.call stage) = (g, .waiting (p.call next)))
    (changes : Fleet.Changes f p.id s p.unit n' g) (steady : n.Steady n')
    (phase : p.Phase c (looks + 1) (some (.call (p.call next))) s n') :
    p.Gone c looks task f n :=
  ⟨g, s, n', changes, steady, Or.inl ⟨_, hrun.trans (runCall_waiting hlook), phase⟩⟩

/-- The first look at a seat. -/
theorem gone_untouched (ready : p.Ready f) (hs : f.stations[p.id]? = some p.station)
    (hn : f.hardware.nodes[p.unit]? = some n)
    (quiet : c.calm → n.failTransmit = false ∧ n.failReceive = false) (untold : c.told = none)
    (idle : n.duty = .idle) : p.Gone c 0 (.slot p.job) f n := by
  obtain ⟨f', hf, entered⟩ := enter ready.found hs hn ready.ready
  have hrun : f.run (.slot p.job) = f'.runCall (p.call .fresh) := by simp only [Site.run, hf]
  cases role : p.role with
  | requester =>
    obtain ⟨g, s', e, hlook, changes, begun⟩ := look_ranging entered ready.engineFree (Or.inl role)
    exact gone_waiting hrun hlook changes (Node.Steady.refl n)
      (.exchanging untold (Nat.le_refl 1) idle begun)
  | listener =>
    obtain ⟨g, s', e, hlook, changes, begun⟩ := look_ranging entered ready.engineFree (Or.inr role)
    exact gone_waiting hrun hlook changes (Node.Steady.refl n)
      (.exchanging untold (Nat.le_refl 1) idle begun)
  | broadcaster =>
    rcases hb : p.entered.beginBroadcast with ⟨s', b⟩
    by_cases frame : ∃ length, b = .frame length
    · obtain ⟨length, rfl⟩ := frame
      obtain ⟨g, n', steady, ⟨due, duty, hlook, changes⟩ | ⟨armed, hlook, changes⟩⟩ :=
        look_send entered ready.available role hb
      · refine gone_done hrun hlook changes steady (duty.trans idle) (.transmitFailed role hb ?_)
        intro calm
        rw [(quiet calm).1] at due
        cases due
      · exact gone_waiting hrun hlook changes steady (.armed untold armed)
    · have noFrame : ∀ length, b ≠ .frame length := fun length hl => frame ⟨length, hl⟩
      obtain ⟨g, hlook, changes⟩ := look_skip entered ready.available role hb noFrame
      exact gone_done hrun hlook changes (Node.Steady.refl n) idle (.skipped role hb noFrame)
  | receiver =>
    obtain ⟨g, n', steady, ⟨due, duty, hlook, changes⟩ | ⟨armed, hlook, changes⟩⟩ :=
      look_receive entered ready.available role
    · refine gone_done hrun hlook changes steady (duty.trans idle) (.receiveFailed role ?_)
      intro calm
      rw [(quiet calm).2] at due
      cases due
    · exact gone_waiting hrun hlook changes steady (.armed untold armed)

/-- A look at the engine at work ends the exchange. -/
theorem gone_exchanging (hs : f.stations[p.id]? = some s) (hn : f.hardware.nodes[p.unit]? = some n)
    (air : c.calm → c.air.SameAir f.hardware) (idle : n.duty = .idle) {e : Exchange}
    (begun : p.Exchanging s e) {looks : Nat} :
    p.Gone c looks (.call (p.call (.exchanging e))) f n := by
  have here := Fleet.Changes.start hs hn
  have hlook : f.look (p.call (.exchanging e)) =
      f.lookExchange (p.call (.exchanging e)) s false e := look_eq here _
  cases begun with
  | request role =>
    obtain ⟨g, m', n', hm, done, changes, steady, duty⟩ :=
      here.endRequest (c := p.call (.exchanging _)) rfl rfl everybody p.deadline
        p.station.config.mode p.station.peers
    exact gone_done rfl (hlook.trans done) changes steady (duty.trans idle) (.requested role hm air)
  | listen timeout role =>
    obtain ⟨g, done, changes⟩ :=
      here.endListen (c := p.call (.exchanging _)) rfl p.deadline timeout
    exact gone_done rfl (hlook.trans done) changes (Node.Steady.refl n) idle (.answered role)

/-- Looking at a seat takes its part on. -/
theorem Phase.look {looks : Nat} {task : Task} (h : p.Phase c looks (some task) s n)
    (ready : p.Ready f) (hs : f.stations[p.id]? = some s) (hn : f.hardware.nodes[p.unit]? = some n)
    (air : c.calm → c.air.SameAir f.hardware)
    (quiet : c.calm → n.failTransmit = false ∧ n.failReceive = false) :
    p.Gone c looks task f n := by
  have here := Fleet.Changes.start hs hn
  have hlook : f.look (p.call .armed) = f.lookArmed (p.call .armed) s := look_eq here .armed
  cases h with
  | untouched untold hlooks idle =>
    subst hlooks
    exact gone_untouched ready hs hn quiet untold idle
  | exchanging _ _ idle begun => exact gone_exchanging hs hn air idle begun
  | armed untold armed =>
    simp only [Site.lookArmed, armed.held] at hlook
    have again : f.look (p.call .armed) = (f, .waiting (p.call .armed)) := hlook
    exact gone_waiting rfl again here (Node.Steady.refl n) (.armed untold armed)
  | released _ idle ended =>
    have available := (ended.atRest ready.available ready.engineFree).1
    have waited := here.update Station.endWait
    rw [Station.endWait_of_available available] at waited
    simp only [Site.lookArmed, available] at hlook
    exact gone_done rfl (hlook.trans (waited.finish rfl)) waited (Node.Steady.refl n) idle ended

end Seat

end RangeSurvey
