import RangeSurvey.Proofs.Site.Representation

/-!
# From one station to another

What a broadcast hands to its radio is the announcement of the station's own row, whatever has been
sent before: another station of the same survey that waits in the same round takes these bytes for
its own and then has the row as it is, and no other row of its table changes.
-/

namespace RangeSurvey

def Entry.called? : Entry → Option HardwareCall
  | called c => some c
  | _ => none

namespace Station

variable {a b s' : Station} {row : Row} {length : Nat}

/-- The frame that a sound station has prepared fills the length that is programmed. -/
theorem Sound.announces (sound : a.Sound) (prepared : a.beginBroadcast = (s', .frame length)) :
    ∃ row, a.ownRow? = some row ∧ row.Sound a.nodeCount ∧
      s'.buffer.take length = (Frame.announcement a.identity.address a.identity.cell a.round
        a.identity.slot row.peers row.packed).toBytes ∧
      (s'.buffer.take length).length = length := by
  obtain ⟨row, own, -, -, sent⟩ := beginBroadcast_frame sound.front prepared
  obtain ⟨row', own', good⟩ := sound.ownRow
  obtain rfl := Option.some.inj (own.symm.trans own')
  have fits : length ≤ s'.buffer.length := prepare_fits prepared
  exact ⟨row, own, good, sent, List.length_take_of_le fits⟩

/-- A sound station of the same size that waits in the cell and the round of another one stores the
row that the other one announces. -/
theorem Sound.takes_over (sound : b.Sound) (held : b.latch = .held) (source : UInt16)
    {slot : UInt16} (good : row.Sound b.nodeCount) (inside : slot.toNat < b.nodeCount) :
    b.hear (.received (Frame.announcement source b.identity.cell b.round slot row.peers
        row.packed).toBytes) =
      ⟨{ b with table := b.table.modifyRow slot.toNat fun _ => row, latch := .available },
        .handled, [.rowAccepted slot row.peers.count]⟩ := by
  apply hear_announcement held good.isPacked
  · intro r hr
    exact (sound.row r (List.mem_of_getElem? hr)).capacity.trans good.capacity.symm
  · exact Frame.isSound_announcement _ _ _ inside (PeerSet.within_iff.mpr good.peers) good.count_le
      good.capacity

/-- The rows of a sound station of which one has been replaced. -/
theorem Sound.row?_replaced (sound : b.Sound) (row : Row) {slot : Nat}
    (inside : slot < b.nodeCount) :
    (b.table.modifyRow slot fun _ => row).row? slot = some row ∧
      ∀ k, k ≠ slot → (b.table.modifyRow slot fun _ => row).row? k = b.table.row? k := by
  constructor
  · have known : slot < b.table.rows.length := by
      have rows := sound.rows
      simp only [Table.nodeCount] at rows
      omega
    have there : b.table.row? slot = some _ := List.getElem?_eq_getElem known
    simp only [Table.row?_modifyRow_self, there, Option.map_some]
  · intro k other
    exact Table.row?_modifyRow_of_ne _ _ (Ne.symm other)

end Station

namespace Site

variable {H : Type}

/-- What has been asked of the hardware, the latest first. -/
def calls (site : Site H) : List HardwareCall := site.trace.filterMap Entry.called?

@[simp] theorem calls_call (site : Site H) (c : HardwareCall) :
    (site.call c).calls = c :: site.calls := rfl

@[simp] theorem calls_act (site : Site H) (id : Nat) (f : Station → Station × List StationNotice) :
    (site.act id f).calls = site.calls := by
  simp only [act]
  split
  · rfl
  · next s _ =>
    have silent : ((f s).2.map fun n => Entry.reported id s.slot n).reverse.filterMap
        Entry.called? = [] := by
      rw [List.filterMap_eq_nil_iff]
      rintro e he
      obtain ⟨n, -, rfl⟩ := List.mem_map.mp (List.mem_reverse.mp he)
      rfl
    simp only [calls, List.filterMap_append, silent, List.nil_append]

@[simp] theorem calls_update (site : Site H) (id : Nat) (f : Station → Station) :
    (site.update id f).calls = site.calls := calls_act site id _

@[simp] theorem calls_say (site : Site H) (id : Nat) (n : StationNotice) :
    (site.say id n).calls = site.calls := calls_act site id _

@[simp] theorem calls_offer (site : Site H) (event : RadioEvent) (sink : Sink) :
    (offer event sink site).1.calls = site.calls := by
  cases sink with
  | recorder label verdict => rfl
  | station id =>
    simp only [offer]
    split
    · rfl
    · exact calls_act site id _

theorem calls_offerAll (event : RadioEvent) (sinks : List Sink) (site : Site H) :
    (Chain.offerAll (offer event) sinks site).1.calls = site.calls := by
  induction sinks generalizing site with
  | nil => rfl
  | cons sink rest ih =>
    have first := calls_offer site event sink
    simp only [Chain.offerAll]
    split
    · next heq => rwa [heq] at first
    · next heq =>
      rw [heq] at first
      exact (ih _).trans first

/-- Events ask nothing of the hardware. -/
@[simp] theorem calls_raiseAll (site : Site H) (unit : Nat) (events : List RadioEvent) :
    (site.raiseAll unit events).calls = site.calls := by
  induction events generalizing site with
  | nil => rfl
  | cons event events ih => exact (ih _).trans (calls_offerAll event _ site)

@[simp] theorem calls_finish (site : Site H) (c : Call) : (site.finish c).1.calls = site.calls := by
  rw [finish_fst]

@[simp] theorem calls_waitArmed (site : Site H) (c : Call) :
    (site.waitArmed c).1.calls = site.calls := by
  simp only [waitArmed, lookArmed]
  split
  · rfl
  split
  · rfl
  · simp only [calls_finish, calls_update]

theorem hardware_offerAll (event : RadioEvent) (sinks : List Sink) (site : Site H) :
    (Chain.offerAll (offer event) sinks site).1.hardware = site.hardware := by
  induction sinks generalizing site with
  | nil => rfl
  | cons sink rest ih =>
    have first : (offer event sink site).1.hardware = site.hardware := by rw [offer_eq]
    simp only [Chain.offerAll]
    split
    · next heq => rwa [heq] at first
    · next heq =>
      rw [heq] at first
      exact (ih _).trans first

@[simp] theorem hardware_raiseAll (site : Site H) (unit : Nat) (events : List RadioEvent) :
    (site.raiseAll unit events).hardware = site.hardware := by
  induction events generalizing site with
  | nil => rfl
  | cons event events ih => exact (ih _).trans (hardware_offerAll event _ site)

@[simp] theorem hardware_waitArmed (site : Site H) (c : Call) :
    (site.waitArmed c).1.hardware = site.hardware := by
  simp only [waitArmed, lookArmed]
  split
  · rfl
  split
  · rfl
  · rw [finish_fst, update, hardware_act]

variable [Hardware H]

/-- From one site to another these things are asked of the hardware, the latest first, and nothing
else becomes of it. -/
structure Asks (asked : List HardwareCall) (a b : Site H) : Prop where
  calls : b.calls = asked ++ a.calls
  hardware : b.hardware = asked.foldr (fun c hardware => (c.perform hardware).1) a.hardware

theorem Asks.ask {asked : List HardwareCall} {a b : Site H} (asks : Asks asked a b)
    (c : HardwareCall) : Asks (c :: asked) a (b.ask c).1 where
  calls := congrArg (c :: ·) asks.calls
  hardware := congrArg (fun hardware => (c.perform hardware).1) asks.hardware

/-- Nothing more is asked. -/
theorem Asks.before {asked : List HardwareCall} {a b b' : Site H} (asks : Asks asked a b)
    (calls : b'.calls = b.calls) (hardware : b'.hardware = b.hardware) : Asks asked a b' :=
  ⟨calls.trans asks.calls, hardware.trans asks.hardware⟩

theorem asks_nothing {a b : Site H} (calls : b.calls = a.calls)
    (hardware : b.hardware = a.hardware) : Asks [] a b :=
  ⟨calls, hardware⟩

/-- What is asked of the radio for a transmission of some bytes, the latest first. -/
def sending (unit : Nat) (start : UInt64) (bytes : List UInt8) (length : Nat) :
    List HardwareCall :=
  [.armTransmit unit start, .control unit length false, .write unit 0 bytes]

theorem transmit_asks (site : Site H) (c : Call) (s : Station) (length : Nat) :
    Asks (sending s.unit c.deadline (s.buffer.take length) length) site
      (site.transmit c s length).1 := by
  have asked := (((asks_nothing rfl rfl : Asks [] site site).ask (.write s.unit 0
    (s.buffer.take length))).ask (.control s.unit length false)).ask
      (.armTransmit s.unit c.deadline)
  rw [transmit]
  split
  · next answer =>
    rw [answer] at asked
    refine asked.before ?_ ?_
    · simp only [calls_waitArmed, calls_say, calls_raiseAll]
    · rw [hardware_waitArmed, say, hardware_act, hardware_raiseAll]
  · next answer =>
    rw [answer] at asked
    refine asked.before ?_ ?_
    · simp only [calls_finish, calls_act]
    · rw [finish_fst, hardware_act]

theorem Asks.after_update {asked : List HardwareCall} {a b : Site H} {id : Nat}
    {f : Station → Station} (asks : Asks asked (a.update id f) b) : Asks asked a b where
  calls := by rw [asks.calls, calls_update]
  hardware := by rw [asks.hardware, update, hardware_act]

/-- A look at a broadcast that has not begun hands a frame to the radio, or asks nothing of the
hardware. -/
theorem look_broadcast_asks {site : Site H} {c : Call} {a : Station}
    (ha : site.stations[c.station]? = some a) (activity : c.activity = .broadcast)
    (fresh : c.stage = .fresh) :
    (∃ s' length, a.beginBroadcast = (s', .frame length) ∧
      Asks (sending a.unit c.deadline (s'.buffer.take length) length) site (site.look c).1) ∨
      Asks [] site (site.look c).1 := by
  have looked : site.look c = site.tryBroadcast c a := by
    simp only [look, ha, advance, fresh, activity]
  rw [looked, tryBroadcast]
  split
  · exact Or.inr (asks_nothing rfl rfl)
  simp only
  split
  · next length prepared =>
    left
    obtain ⟨kin, -⟩ := Station.beginBroadcast_begun (Prod.ext rfl prepared :
      a.beginBroadcast = (a.beginBroadcast.1, .frame length))
    refine ⟨a.beginBroadcast.1, length, Prod.ext rfl prepared, ?_⟩
    rw [← kin.unit]
    exact (transmit_asks _ c _ length).after_update
  · right
    refine asks_nothing ?_ ?_
    · simp only [calls_finish, calls_act, calls_update]
    · rw [finish_fst, hardware_act, update, hardware_act]

/-- A broadcast that starts a transmission has given its radio bytes and their length. A station of
the same size and cell that waits in the same round takes these bytes for its own, and has the
sender's own row as it is. -/
theorem broadcast_relayed {K : Type} [Hardware K] (hardware : H) (hardware' : K)
    (actions : List (Action H)) (actions' : List (Action K)) {near : Site H} {far : Site K}
    (passes : (({ hardware } : Site H).performAll actions).Passes near)
    (passes' : (({ hardware := hardware' } : Site K).performAll actions').Passes far)
    {c : Call} {j : Nat} {a b : Station} (ha : near.stations[c.station]? = some a)
    (hb : far.stations[j]? = some b) (activity : c.activity = .broadcast)
    (fresh : c.stage = .fresh) (size : b.nodeCount = a.nodeCount)
    (cell : b.identity.cell = a.identity.cell) (round : b.round = a.round)
    (waits : b.latch = .held) {asked : List HardwareCall}
    (calls : (near.look c).1.calls = asked ++ near.calls) {unit : Nat} {start : UInt64}
    (starts : .armTransmit unit start ∈ asked) :
    ∃ bytes row b', asked = [.armTransmit a.unit c.deadline,
        .control a.unit bytes.length false, .write a.unit 0 bytes] ∧
      Asks asked near (near.look c).1 ∧ a.ownRow? = some row ∧ row.Sound a.nodeCount ∧
      (offer (.received bytes) (.station j) far).2 = .handled ∧
      (offer (.received bytes) (.station j) far).1.stations[j]? = some b' ∧
      b'.table.row? a.slot = some row ∧ ∀ k, k ≠ a.slot → b'.table.row? k = b.table.row? k := by
  have soundA : a.Sound := Passes.sound ((performAll_passes _ actions).trans passes) ha
  have soundB : b.Sound := Passes.sound ((performAll_passes _ actions').trans passes') hb
  have inside : a.slot < b.nodeCount := size ▸ soundA.slot
  rcases look_broadcast_asks ha activity fresh with ⟨s', length, prepared, asks⟩ | silent
  · obtain ⟨row, own, good, sent, whole⟩ := soundA.announces prepared
    have heard := soundB.takes_over waits a.identity.address (size ▸ good : row.Sound b.nodeCount)
      inside
    rw [cell, round, ← sent] at heard
    obtain ⟨here, elsewhere⟩ := soundB.row?_replaced row inside
    have verdict : (offer (.received (s'.buffer.take length)) (.station j) far).2 = .handled := by
      simp only [offer, hb, heard]
    have after := Did.stations_offer far (.received (s'.buffer.take length)) j j
    rw [if_pos rfl, hb, Option.map_some, heard] at after
    obtain rfl := List.append_cancel_right (calls.symm.trans asks.calls)
    refine ⟨s'.buffer.take length, row, _, ?_, asks, own, good, verdict, after, here, elsewhere⟩
    rw [whole, sending]
  · have none : asked = [] := List.append_cancel_right (calls.symm.trans silent.calls)
    subst none
    cases starts

/-- Station 0 of three has sent a row with two distances. It has measured again since, and only
station 2 has answered, with a distance that is not a number. -/
def remeasured : List (Action Bench) :=
  [.enrol ⟨0, 3, ⟨0x100, 0, 12⟩, {}, 0⟩,
    .alter fun b => b.setEngine 0 { answered := ⟨6#32⟩, distances := [5, 7] },
    .start 0 (.call { station := 0, activity := .request, deadline := 0 }), .poll 0,
    .start 1 (.call { station := 0, activity := .broadcast, deadline := 0 }), .poll 1,
    .raise 0 .sent, .poll 1,
    .alter fun b => b.setEngine 0 { answered := ⟨4#32⟩, distances := [0x7FC00001] },
    .start 2 (.call { station := 0, activity := .request, deadline := 0 }), .poll 2]

def expecting : List (Action Bench) :=
  [.enrol ⟨0, 3, ⟨0x101, 1, 12⟩, {}, 0⟩,
    .start 0 (.call { station := 0, activity := .receive, deadline := 0 }), .poll 0]

/-- Nothing of the longer frame before is left in what is sent, and the distance arrives bit for
bit. -/
theorem broadcast_relayed_remeasured :
    let near := ({ hardware := oneAnswer } : Site Bench).performAll remeasured
    let far := ({ hardware := oneAnswer } : Site Bench).performAll expecting
    ∃ bytes b', (near.look { station := 0, activity := .broadcast, deadline := 0 }).1.calls =
        [.armTransmit 0 0, .control 0 bytes.length false, .write 0 0 bytes] ++ near.calls ∧
      (offer (.received bytes) (.station 0) far).2 = .handled ∧
      (offer (.received bytes) (.station 0) far).1.stations[0]? = some b' ∧
      b'.table.row? 0 = some ⟨⟨4#32⟩, [0x7FC00001, 0, 0]⟩ := by
  intro near far
  have sender : ((near.stations[0]?).map fun a =>
      (a.unit, a.nodeCount, a.identity.cell, a.round, a.slot)) = some (0, 3, 12, 0, 0) := by
    decide +kernel
  have measured : (near.stations[0]?).bind Station.ownRow? =
      some ⟨⟨4#32⟩, [0x7FC00001, 0, 0]⟩ := by decide +kernel
  have receiver : ((far.stations[0]?).map fun b =>
      (b.nodeCount, b.identity.cell, b.round, b.latch)) = some (3, 12, 0, .held) := by
    decide +kernel
  obtain ⟨a, ha, fields⟩ := Option.map_eq_some_iff.mp sender
  obtain ⟨b, hb, fields'⟩ := Option.map_eq_some_iff.mp receiver
  simp only [Prod.mk.injEq] at fields fields'
  obtain ⟨unit, nodes, cell, round, slot⟩ := fields
  rw [ha, Option.bind_some] at measured
  obtain ⟨nodes', cell', round', held⟩ := fields'
  have asked : ∃ asked,
      (near.look { station := 0, activity := .broadcast, deadline := 0 }).1.calls =
        asked ++ near.calls ∧ .armTransmit 0 0 ∈ asked := by
    refine ⟨(near.look { station := 0, activity := .broadcast, deadline := 0 }).1.calls.take 3, ?_,
      ?_⟩
    · decide +kernel
    · decide +kernel
  obtain ⟨asked, calls, starts⟩ := asked
  obtain ⟨bytes, row, b', rfl, -, own', -, handled, there, stored, -⟩ :=
    broadcast_relayed oneAnswer oneAnswer remeasured expecting (Does.refl _ near) (Does.refl _ far)
      ha hb rfl rfl (nodes'.trans nodes.symm) (cell'.trans cell.symm) (round'.trans round.symm)
      held calls starts
  obtain rfl := Option.some.inj (measured.symm.trans own')
  rw [unit] at calls
  rw [slot] at stored
  exact ⟨bytes, b', calls, handled, there, stored⟩

end Site

end RangeSurvey
