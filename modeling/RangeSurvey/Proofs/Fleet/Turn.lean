import RangeSurvey.Proofs.Fleet.Member
import RangeSurvey.Proofs.Fleet.Unblocked

/-!
# Slots of a deployed fleet

All devices of a deployed fleet are told of the same slot. One station at most has its turn, and in
a broadcast slot it is the only one that may be on air. What a slot does to a table is one of few
things: a requester changes its own row, a receiver that succeeds takes the row of the active
station over, and nobody else changes anything.
-/

namespace RangeSurvey

/-- A slot that all devices are told of, and how it is carried out. -/
structure Turn where
  kind : SlotKind
  slot : Slot
  /-- The local clock of each device. -/
  clock : Nat → Clock
  /-- Whether the end of a survey round is to be noted for a device. -/
  notify : Nat → Bool
  schedule : Schedule

namespace Turn

def job (t : Turn) (device : Nat) : SlotJob where
  device
  kind := t.kind
  slot := t.slot
  clock := t.clock device
  notify := t.notify device

def jobs (t : Turn) (stations : Nat) : List SlotJob := (List.range stations).map t.job

def active (t : Turn) (plan : Plan) : Nat := t.slot.round.toNat % plan.nodeCount

theorem length_jobs (t : Turn) (stations : Nat) : (t.jobs stations).length = stations := by
  simp [jobs]

theorem jobs_getElem? (t : Turn) {stations k : Nat} (hk : k < stations) :
    (t.jobs stations)[k]? = some (t.job k) := by
  rw [jobs, List.getElem?_map, List.getElem?_range hk, Option.map_some]

theorem nodup_devices (t : Turn) (stations : Nat) :
    ((t.jobs stations).map SlotJob.device).Nodup := by
  have devices : (t.jobs stations).map SlotJob.device = List.range stations := by
    rw [jobs, List.map_map]
    exact List.map_id _
  rw [devices]
  exact List.nodup_range

def seat (t : Turn) (j : Nat) (s : Station) : Seat := ⟨t.job j, j, s⟩

theorem role_seat (t : Turn) {plan : Plan} {stations j : Nat} (admits : plan.Admits stations)
    (hj : j < stations) {s : Station} (member : plan.Member j s) :
    (t.seat j s).role = Role.of t.kind (t.active plan == j) := by
  have least := admits.1
  have positive : plan.nodeCount ≠ 0 := by
    simp only [minNodes] at least
    omega
  have turn : (t.seat j s).turn = (t.active plan == j) := by
    change hasTurn t.slot.round s.nodeCount s.slot = _
    rw [member.nodeCount, member.slot admits hj, hasTurn, active]
    simp [positive]
  rw [Seat.role, turn]
  rfl

end Turn

namespace Fleet

namespace Regular

variable {plan : Plan} {stations j : Nat} {f : Fleet} {s : Station}

theorem find?_eq (h : Regular plan stations f) (hj : j < stations) : f.find? j = some j := by
  have device : ∀ k, k < stations →
      (f.stations[k]?).any (fun s => s.device == j) = (k == j) := by
    intro k hk
    obtain ⟨s, hs, member⟩ := h.member k hk
    rw [hs, Option.any_some, member.device]
  rw [Site.find?, h.roster, List.find?_range_eq_some]
  refine ⟨?_, List.mem_range.mpr hj, ?_⟩
  · rw [device j hj]
    exact beq_self_eq_true j
  · intro k hk
    rw [device k (by omega)]
    have hne : ¬ k = j := by omega
    simp [hne]

/-- Every station has a seat in every slot. -/
theorem seats (h : Regular plan stations f) (t : Turn) (hj : j < stations)
    (hs : f.stations[j]? = some s) : f.Seats (t.jobs stations) j (t.seat j s) := by
  obtain ⟨s', hs', member⟩ := h.member j hj
  rw [hs] at hs'
  obtain rfl := Option.some.inj hs'
  exact ⟨t.jobs_getElem? hj, h.find?_eq hj, hs, member.ready⟩

/-- There are no other seats. -/
theorem seat_eq (h : Regular plan stations f) {t : Turn} {p : Seat}
    (hp : f.Seats (t.jobs stations) j p) :
    j < stations ∧ ∃ s, f.stations[j]? = some s ∧ plan.Member j s ∧ p = t.seat j s := by
  have hj : j < stations := by
    have := hp.lt
    rwa [t.length_jobs] at this
  obtain ⟨s, hs, member⟩ := h.member j hj
  exact ⟨hj, s, hs, member, hp.seat_eq (h.seats t hj hs)⟩

end Regular

/-- Station `i` is on air with its own row `row`. -/
def Sends (f : Fleet) (i : Nat) (row : Row) : Prop :=
  i ∈ f.hardware.onDuty .sending ∧ ∃ s, f.stations[i]? = some s ∧ s.ownRow? = some row

/-- A station is on air with one row at most. -/
theorem Sends.row_eq {f : Fleet} {i : Nat} {row row' : Row} (h : f.Sends i row)
    (h' : f.Sends i row') : row = row' := by
  obtain ⟨-, s, hs, hrow⟩ := h
  obtain ⟨-, s', hs', hrow'⟩ := h'
  rw [hs] at hs'
  obtain rfl := Option.some.inj hs'
  exact Option.some.inj (hrow.symm.trans hrow')

def roundOf (plan : Plan) (t : Turn) : UInt32 :=
  roundNumber t.slot.round plan.config.roundShift

/-- What a slot, in which the fleet `air` was on air, made of station `j` of the fleet `f`: of `s`
it made `s'`. When nothing disturbs the slot, what a station measured, sent or missed is known. -/
inductive Played (plan : Plan) (t : Turn) (f air : Fleet) (calm : Prop) (j : Nat) (s s' : Station) :
    Prop where
  | listener : t.kind = .ranging → t.active plan ≠ j → s'.table = s.table → Played ..
  | requester {m m' : Medium} : t.kind = .ranging → t.active plan = j →
      m.request? j s.peers = some m' → (calm → f.hardware.SameAir m) →
      s'.table = (s.measure m').table → Played ..
  | broadcaster : t.kind = .broadcast → t.active plan = j → s'.table = s.table →
      (calm → ∀ row, s.ownRow? = some row → row.peers.count ≠ 0 →
        row.peers.count < plan.nodeCount → air.Sends j row) → Played ..
  | missed : t.kind = .broadcast → t.active plan ≠ j → s'.table = s.table →
      s'.status.succeeded = false →
      (calm → f.hardware.lossPercent = 0 → s'.status.timedOut = true ∧
        ∀ row, air.Sends (t.active plan) row → f.hardware.reaches (t.active plan) j = false) →
      Played ..
  | stored {row : Row} : t.kind = .broadcast → t.active plan ≠ j →
      t.active plan < f.stations.length →
      air.Sends (t.active plan) row → air.hardware.reaches (t.active plan) j = true →
      s'.table = s.table.modifyRow (t.active plan) (fun _ => row) →
      s'.status.succeeded = true → Played ..

section OnAir

variable {plan : Plan} {stations : Nat} {f air : Fleet} {t : Turn} {c : Course} {looks : Nat → Nat}
  {first : List (Nat × Outcome)}

/-- A node that is armed when all tasks have been looked at twice is that of a station whose call
has armed its radio. -/
theorem armed_station (regular : Regular plan stations f)
    (under : UnderWay f (t.jobs stations) c looks air first)
    (twice : ∀ k, k < (t.jobs stations).length → 2 ≤ looks k) {node : Nat} {n : Node}
    (hn : air.hardware.nodes[node]? = some n) (armed : n.duty ≠ .idle) :
    ∃ s s', node < stations ∧ f.stations[node]? = some s ∧ plan.Member node s ∧
      air.stations[node]? = some s' ∧ (t.seat node s).Armed s' n := by
  obtain ⟨k, p, hp, hunit⟩ := under.armed_seat hn armed
  obtain ⟨hk, s, hs, member, rfl⟩ := regular.seat_eq hp
  have hknode : k = node := member.unit.symm.trans hunit
  subst hknode
  obtain ⟨s', n', hs', hn', phase, -⟩ := under.seat k _ hp
  have looked := twice k hp.lt
  rw [show (t.seat k s).unit = k from hunit, hn] at hn'
  obtain rfl := Option.some.inj hn'
  refine ⟨s, s', hk, hs, member, hs', ?_⟩
  generalize air.task? k = task at phase
  cases phase with
  | untouched _ _ idle => exact absurd idle armed
  | exchanging _ _ idle => exact absurd idle armed
  | armed _ armed => exact armed
  | released _ idle => exact absurd idle armed
  | finished idle => exact absurd idle armed

/-- Whoever is on air is the active station of a broadcast slot, and announces its own row. -/
theorem sender_eq (regular : Regular plan stations f) (admits : plan.Admits stations)
    (under : UnderWay f (t.jobs stations) c looks air first)
    (twice : ∀ k, k < (t.jobs stations).length → 2 ≤ looks k) {v : Nat}
    (sending : v ∈ air.hardware.onDuty .sending) :
    t.kind = .broadcast ∧ t.active plan = v ∧ v < stations ∧
      ∃ s n row, f.stations[v]? = some s ∧ plan.Member v s ∧ air.hardware.node? v = some n ∧
        s.ownRow? = some row ∧ row.peers.count < plan.nodeCount ∧ air.Sends v row ∧
        n.frame = (plan.announcement v (roundOf plan t) row).toBytes := by
  obtain ⟨n, hn, duty⟩ := Medium.mem_onDuty.mp sending
  have armed : n.duty ≠ .idle := by
    rw [duty]
    decide
  obtain ⟨s, s', hv, hs, member, hs', armed⟩ := armed_station regular under twice hn armed
  have role := t.role_seat admits hv member
  cases armed with
  | receive _ listening =>
    rw [duty] at listening
    cases listening
  | broadcast broadcaster hb _ frame =>
    rw [broadcaster] at role
    have turn : t.kind = .broadcast ∧ t.active plan = v := by
      cases hkind : t.kind <;> cases hturn : t.active plan == v <;>
        simp [hkind, hturn, Role.of] at role
      exact ⟨rfl, by simpa using hturn⟩
    obtain ⟨kin, -, -, table, -⟩ := Station.beginBroadcast_begun hb
    have entered : plan.Member v (t.seat v s).entered :=
      Plan.Member.entered (p := t.seat v s) member
    obtain ⟨row, hrow, -, few, sent⟩ := entered.sends hb
    have round : (t.seat v s).entered.round = roundOf plan t := by
      change roundNumber t.slot.round s.config.roundShift = _
      rw [member.config]
      rfl
    have own : s'.ownRow? = some row := by
      rw [Station.ownRow?, table, kin.slot]
      exact hrow
    refine ⟨turn.1, turn.2, hv, s, n, row, hs, member, hn, hrow, few, ⟨sending, s', hs', own⟩, ?_⟩
    rw [frame, sent, round]

/-- What a receiver may be told: the row of the active station, or that time is up. -/
theorem receiver_told (regular : Regular plan stations f) (admits : plan.Admits stations)
    (under : UnderWay f (t.jobs stations) c looks air first)
    (twice : ∀ k, k < (t.jobs stations).length → 2 ≤ looks k) {j : Nat} {event : RadioEvent}
    (tells : air.hardware.Tells j event) (turn : t.active plan ≠ j) :
    (∃ row, air.Sends (t.active plan) row ∧ t.active plan < stations ∧
        air.hardware.reaches (t.active plan) j = true ∧ row.IsPacked ∧
        row.peers.within plan.nodeCount = true ∧ row.peers.count < plan.nodeCount ∧
        row.capacity = plan.nodeCount ∧
        event = .received (plan.announcement (t.active plan) (roundOf plan t) row).toBytes) ∨
      event = .timedOut ∧ (air.hardware.lossPercent = 0 → ∀ row, air.Sends (t.active plan) row →
        air.hardware.reaches (t.active plan) j = false) := by
  have sender := fun v hv => sender_eq (v := v) regular admits under twice hv
  cases tells with
  | sent sending => exact absurd (sender j sending).2.1 turn
  | heard listening sub lossless told =>
    rename_i senders
    have from_active : ∀ v ∈ senders, v ∈ air.hardware.onDuty .sending ∧
        air.hardware.reaches v j = true := by
      intro v hv
      have := sub.subset hv
      rw [Medium.reaching, List.mem_filter] at this
      exact this
    rcases senders with _ | ⟨v, _ | ⟨w, senders⟩⟩
    · obtain rfl := Option.some.inj told
      refine Or.inr ⟨rfl, ?_⟩
      intro hloss row sends
      have none := lossless hloss
      cases hr : air.hardware.reaches (t.active plan) j with
      | false => rfl
      | true =>
        have mem : t.active plan ∈ air.hardware.reaching j :=
          List.mem_filter.mpr ⟨sends.1, hr⟩
        rw [← none] at mem
        cases mem
    · obtain ⟨sending, reaches⟩ := from_active v List.mem_cons_self
      obtain ⟨kind, active, hv, s, n, row, hs, member, hn, hrow, few, sends, frame⟩ :=
        sender v sending
      obtain ⟨n', hn', rfl⟩ := Option.map_eq_some_iff.mp told
      rw [hn] at hn'
      obtain rfl := Option.some.inj hn'
      subst active
      obtain ⟨packed, within⟩ := member.own row hrow
      refine Or.inl ⟨row, sends, hv, reaches, packed, within, few, ?_, by rw [frame]⟩
      exact member.capacity row (List.mem_of_getElem? hrow)
    · -- Two senders would both be the active station.
      obtain ⟨hv, -⟩ := from_active v List.mem_cons_self
      obtain ⟨hw, -⟩ := from_active w (List.mem_cons_of_mem v List.mem_cons_self)
      have same : v = w := (sender v hv).2.1.symm.trans (sender w hw).2.1
      have nodup : (v :: w :: senders).Nodup :=
        (sub.trans List.filter_sublist).nodup (air.hardware.nodup_onDuty _)
      rw [same] at nodup
      exact absurd nodup (by simp)

theorem measure_table_congr {s s' : Station} (table : s'.table = s.table) (slot : s'.slot = s.slot)
    (nodeCount : s'.nodeCount = s.nodeCount) (m : Medium) :
    (s'.measure m).table = (s.measure m).table := by
  simp only [Station.measure, Station.ownRow?, table, slot]
  cases s.table.row? s.slot with
  | none => exact table
  | some row =>
    have hslot : s'.identity.slot.toNat = s.identity.slot.toNat := slot
    simp only [Station.endRequest, Station.freeEngine, table, nodeCount, Station.slot, hslot]

/-- A member with a row that can be sent has a frame for it. -/
theorem frame_of_row {s s' : Station} {j : Nat} (member : plan.Member j s) {b : Station.Broadcast}
    (hb : s.beginBroadcast = (s', b)) {row : Row} (hrow : s.ownRow? = some row)
    (answered : row.peers.count ≠ 0) (few : row.peers.count < plan.nodeCount) :
    ∃ length, b = .frame length := by
  have own (counters : Counters) (latch : Latch) (status : Status) :
      ({ s with latch, counters, status } : Station).ownRow? = some row := hrow
  have room : ¬ s.buffer.length < Frame.lengthFor row.packed.length := by
    have packed := row.length_packed
    rw [member.room, Frame.maxLength, Frame.lengthFor, Frame.lengthFor, Frame.distanceLength]
    omega
  simp only [Station.beginBroadcast, Station.prepare] at hb
  rw [own] at hb
  have few' : ¬ s.nodeCount ≤ row.peers.count := by
    rw [member.nodeCount]
    omega
  simp only [if_neg answered, if_neg few', Frame.writeRound?, if_neg room] at hb
  exact ⟨_, (Prod.mk.inj hb).2.symm⟩

theorem played_receiver {calm : Prop} {told : List (Nat × RadioEvent)}
    (regular : Regular plan stations f) (admits : plan.Admits stations)
    (under : UnderWay f (t.jobs stations) { air := f.hardware, calm } looks air first)
    (twice : ∀ k, k < (t.jobs stations).length → 2 ≤ looks k)
    (tells : ∀ node event, (node, event) ∈ told → air.hardware.Tells node event) {j : Nat}
    {s s' : Station} (member : plan.Member j s) (kind : t.kind = .broadcast)
    (turn : t.active plan ≠ j) {event : RadioEvent} (mem : (j, event) ∈ told)
    (hs' : s' = (t.seat j s).entered.beginReceive.told event) :
    Played plan t f air calm j s s' := by
  have waiting : plan.Member j (t.seat j s).entered.beginReceive :=
    member.keeps (t.seat j s).receiving_keeps
  have held : (t.seat j s).entered.beginReceive.latch = .held := Latch.take_fst _
  have round : (t.seat j s).entered.beginReceive.round = roundOf plan t := by
    change roundNumber t.slot.round s.config.roundShift = _
    rw [member.config]
    rfl
  rcases receiver_told regular admits under twice (tells j event mem) turn with
    ⟨row, sends, hactive, reaches, packed, within, few, capacity, rfl⟩ | ⟨rfl, missed⟩
  · obtain ⟨table, status⟩ := waiting.stores admits hactive held packed within few capacity
    rw [round, ← hs'] at table status
    refine .stored kind turn ?_ sends reaches table ?_
    · rw [regular.stationCount]
      exact hactive
    · rw [status]
      rfl
  · have timedOut : s'.status.timedOut = true := by
      rw [hs']
      simp only [Station.told, Station.hear, Station.hearTimeout, held, Latch.putBack]
    have keeps := (t.seat j s).receiving_keeps.trans (Station.hearTimeout_keeps _)
    refine .missed kind turn ?_ ?_ ?_
    · rw [hs']
      exact keeps.table
    · simp [Status.succeeded, timedOut]
    · intro hcalm hloss
      have sameAir : f.hardware.SameAir air.hardware := under.air hcalm
      refine ⟨timedOut, ?_⟩
      intro row sends
      rw [← sameAir.reaches]
      exact missed (sameAir.lossPercent.trans hloss) row sends

theorem turn_of_role {j : Nat} {s : Station} (admits : plan.Admits stations) (hj : j < stations)
    (member : plan.Member j s) :
    ((t.seat j s).role = .requester → t.kind = .ranging ∧ t.active plan = j) ∧
    ((t.seat j s).role = .listener → t.kind = .ranging ∧ t.active plan ≠ j) ∧
    ((t.seat j s).role = .broadcaster → t.kind = .broadcast ∧ t.active plan = j) ∧
    ((t.seat j s).role = .receiver → t.kind = .broadcast ∧ t.active plan ≠ j) := by
  rw [t.role_seat admits hj member]
  by_cases turn : t.active plan = j
  · cases t.kind <;> simp [Role.of, turn]
  · have other : (t.active plan == j) = false := by simp [turn]
    cases t.kind <;> simp [Role.of, other, turn]

/-- The active station of a broadcast slot is told nothing but that its frame is out. -/
theorem broadcaster_told (regular : Regular plan stations f) (admits : plan.Admits stations)
    (under : UnderWay f (t.jobs stations) c looks air first)
    (twice : ∀ k, k < (t.jobs stations).length → 2 ≤ looks k) {j : Nat} {event : RadioEvent}
    (tells : air.hardware.Tells j event) (turn : t.active plan = j) :
    event = .sent ∧ j ∈ air.hardware.onDuty .sending := by
  cases tells with
  | sent sending => exact ⟨rfl, sending⟩
  | heard listening =>
    obtain ⟨n, hn, duty⟩ := Medium.mem_onDuty.mp listening
    have armed : n.duty ≠ .idle := by
      rw [duty]
      decide
    obtain ⟨s, s', hj, -, member, -, armed⟩ := armed_station regular under twice hn armed
    obtain ⟨-, -, -, receiver⟩ := turn_of_role (t := t) admits hj member
    cases armed with
    | receive role _ => exact absurd turn (receiver role).2
    | broadcast _ _ sending _ =>
      rw [duty] at sending
      cases sending

/-- What a slot makes of a station is one of the few things that a slot can do. -/
theorem played {calm : Prop} {told : List (Nat × RadioEvent)}
    (regular : Regular plan stations f) (admits : plan.Admits stations)
    (under : UnderWay f (t.jobs stations) { air := f.hardware, calm } looks air first)
    (twice : ∀ k, k < (t.jobs stations).length → 2 ≤ looks k)
    (tells : ∀ node event, (node, event) ∈ told → air.hardware.Tells node event) {j : Nat}
    (hj : j < stations) {s s' : Station} (hs : f.stations[j]? = some s)
    (ended : (t.seat j s).Ended { air := f.hardware, calm, told := some told } s') :
    Played plan t f air calm j s s' := by
  obtain ⟨s₀, hs₀, member⟩ := regular.member j hj
  rw [hs] at hs₀
  obtain rfl := Option.some.inj hs₀
  obtain ⟨requester, listener, broadcaster, receiver⟩ := turn_of_role (t := t) admits hj member
  have unit : (t.seat j s).unit = j := member.unit
  cases ended with
  | answered role =>
    obtain ⟨kind, turn⟩ := listener role
    have keeps := (t.seat j s).listening_keeps.trans (Station.freeEngine_keeps _)
    exact .listener kind turn keeps.table
  | @requested m m' role hm sameAir =>
    obtain ⟨kind, turn⟩ := requester role
    rw [unit] at hm
    have begun := (t.seat j s).requested_keeps
    have table := measure_table_congr begun.table begun.kin.slot begun.kin.nodeCount m'
    exact .requester kind turn hm sameAir table
  | skipped role hb noFrame =>
    obtain ⟨kind, turn⟩ := broadcaster role
    obtain ⟨-, -, -, table, -⟩ := Station.beginBroadcast_begun hb
    refine .broadcaster kind turn table ?_
    intro _ row hrow answered few
    have entered : plan.Member j (t.seat j s).entered :=
      Plan.Member.entered (p := t.seat j s) member
    obtain ⟨length, hlength⟩ := frame_of_row entered hb hrow answered few
    exact absurd hlength (noFrame length)
  | transmitFailed role hb disturbed =>
    obtain ⟨kind, turn⟩ := broadcaster role
    obtain ⟨-, -, -, table, -⟩ := Station.beginBroadcast_begun hb
    exact .broadcaster kind turn table fun hcalm => absurd hcalm disturbed
  | receiveFailed role disturbed =>
    obtain ⟨kind, turn⟩ := receiver role
    have keeps := (t.seat j s).receiving_keeps.trans (Station.failReceive_keeps _)
    refine .missed kind turn keeps.table ?_ fun hcalm => absurd hcalm disturbed
    simp [Status.succeeded, Station.failReceive]
  | cut armed disturbed =>
    have held := armed.held
    cases armed with
    | receive role _ =>
      obtain ⟨kind, turn⟩ := receiver role
      have keeps := (t.seat j s).receiving_keeps.trans (Station.hearReset_keeps _)
      refine .missed kind turn keeps.table ?_ fun hcalm => absurd hcalm disturbed
      simp [Station.hearReset, held, Latch.putBack, Status.succeeded]
    | broadcast role hb _ _ =>
      obtain ⟨kind, turn⟩ := broadcaster role
      obtain ⟨-, -, -, table, -⟩ := Station.beginBroadcast_begun hb
      have same := (Station.hearReset_keeps _).table.trans table
      exact .broadcaster kind turn same fun hcalm => absurd hcalm disturbed
  | told armed htold mem =>
    obtain rfl := Option.some.inj htold
    rw [unit] at mem
    have held := armed.held
    cases armed with
    | receive role _ =>
      obtain ⟨kind, turn⟩ := receiver role
      exact played_receiver regular admits under twice tells member kind turn mem rfl
    | broadcast role hb _ _ =>
      obtain ⟨kind, turn⟩ := broadcaster role
      obtain ⟨-, -, -, table, -⟩ := Station.beginBroadcast_begun hb
      obtain ⟨rfl, sending⟩ :=
        broadcaster_told regular admits under twice (tells j _ mem) turn
      obtain ⟨-, -, -, s₁, n, own, hs₁, -, -, hown, -, sends, -⟩ :=
        sender_eq regular admits under twice sending
      rw [hs] at hs₁
      obtain rfl := Option.some.inj hs₁
      refine .broadcaster kind turn ((Station.hearSent_keeps _).table.trans table) ?_
      intro _ row hrow _ _
      rw [hown] at hrow
      obtain rfl := Option.some.inj hrow
      exact sends

end OnAir

/-- What a turn made of the fleet `f`, with what came of the tasks: of every station it made one of
the few things that a slot can make of it. -/
structure Turned (plan : Plan) (stations : Nat) (t : Turn) (calm : Prop) (f g : Fleet)
    (done : List (Nat × Outcome)) : Prop where
  regular : Regular plan stations g
  onAir : calm → f.hardware.SameAir (f.onAir (t.jobs stations) t.schedule).hardware
  air : calm → f.hardware.SameAir g.hardware
  quiet : calm → ∀ n ∈ g.hardware.nodes, n.failTransmit = false ∧ n.failReceive = false
  station : ∀ j s, f.stations[j]? = some s → ∃ s', g.stations[j]? = some s' ∧
    Played plan t f (f.onAir (t.jobs stations) t.schedule) calm j s s' ∧
    comeOf done j = [(t.seat j s).outcome s']

theorem Regular.lt {plan : Plan} {stations j : Nat} {f : Fleet} {s : Station}
    (h : Regular plan stations f) (hs : f.stations[j]? = some s) : j < stations := by
  rw [← h.stationCount]
  exact (List.getElem?_eq_some_iff.mp hs).1

/-- A slot that is over leaves a regular fleet regular. -/
theorem Regular.concluded {plan : Plan} {stations : Nat} {t : Turn} {f g : Fleet} {c : Course}
    {done : List (Nat × Outcome)} (h : Regular plan stations f)
    (ended : Concluded f (t.jobs stations) c g done) : Regular plan stations g := by
  refine ⟨ended.atRest h.atRest, ended.roster.trans h.roster,
    ended.stationCount.trans h.stationCount, ?_, ?_⟩
  · rw [Medium.nodeCount, ended.nodeCount]
    exact h.nodes
  · intro j hj
    obtain ⟨s, hs, member⟩ := h.member j hj
    obtain ⟨s', hs', part, -⟩ := ended.seat j _ (h.seats t hj hs)
    exact ⟨s', hs', Plan.Member.ended (p := t.seat j s) member part⟩

/-- Every slot of a regular fleet turns it into a regular fleet. -/
theorem Regular.turned {plan : Plan} {stations : Nat} {f : Fleet} (h : Regular plan stations f)
    (admits : plan.Admits stations) (t : Turn) (fair : t.schedule.Fair stations) {calm : Prop}
    (undisturbed : calm → t.schedule.Calm)
    (quiet : calm → ∀ n ∈ f.hardware.nodes, n.failTransmit = false ∧ n.failReceive = false) :
    Turned plan stations t calm f (f.carryOut (t.jobs stations) t.schedule).1
      (f.carryOut (t.jobs stations) t.schedule).2 := by
  have fair' : t.schedule.Fair (t.jobs stations).length := by
    rw [t.length_jobs]
    exact fair
  obtain ⟨told, looks, first, tells, twice, under, concluded⟩ :=
    carryOut_concludes h.atRest (t.nodup_devices stations) fair' undisturbed quiet
  refine ⟨h.concluded concluded, under.air, concluded.air, concluded.quiet, ?_⟩
  intro j s hs
  obtain ⟨s', hs', ended, come⟩ := concluded.seat j _ (h.seats t (h.lt hs) hs)
  exact ⟨s', hs', played h admits under twice tells (h.lt hs) hs ended, come⟩

end Fleet

end RangeSurvey
