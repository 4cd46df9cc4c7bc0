import RangeSurvey.Proofs.Site.Relay
import RangeSurvey.Proofs.Site.Status

/-!
# Steps that do not start the radio

A broadcast without a row that can be sent asks nothing of its radio. When it is skipped, or when a
radio does not start, the step is over at once: the token is back, one flag tells why, and nothing is
left for an event to end. A broadcast that does start has handed over the announcement of the own row
and nothing else.
-/

namespace RangeSurvey

/-- The flags by which a step tells that it has not started the radio. -/
def Status.unstarted (status : Status) : List Bool :=
  [status.nothingToSend, status.invalidRow, status.transmitFailed, status.receiveFailed]

def Action.isEvent {H : Type} : Action H → Bool
  | raise .. | tell .. => true
  | _ => false

namespace Station

variable {s t s' : Station}

/-- Station `s` has become `t` by a step that has not started the radio: the token is there, one
flag tells why, and but for the frame buffer and the counts of steps and of failed starts nothing
else has changed. -/
structure Declined (s t : Station) : Prop where
  kin : s.Kin t
  latch : t.latch = .available
  engine : t.engineBusy = s.engineBusy
  table : t.table = s.table
  round : t.round = s.round
  storage : t.status.ownsStorage = s.status.ownsStorage
  reason : t.status.unstarted.count true = 1
  unmet : t.status.timedOut = false ∧ t.status.wasReset = false
  waits : t.counters.timeouts = s.counters.timeouts ∧ t.counters.resets = s.counters.resets
  unsolicited : t.counters.unsolicited = s.counters.unsolicited

/-- A broadcast that has nothing to send, or a row that cannot be sent. -/
theorem Prepares.declined {b : Broadcast} (prepares : s.Prepares (s', b))
    (begun : s.beginBroadcast = (s', b)) (nothing : ∀ length, b ≠ .frame length) :
    s.Declined (s'.skipBroadcast b).1 := by
  obtain ⟨buffer, nothingToSend, invalidRow, begins⟩ := s.beginBroadcast_eq
  rw [begun] at begins
  obtain rfl : s' = _ := begins
  have reason : (nothingToSend = true ∧ invalidRow = false) ∨
      (nothingToSend = false ∧ invalidRow = true) := by
    cases prepares with
    | empty own none held tally =>
      exact Or.inl ⟨congrArg Tally.nothingToSend tally, congrArg Tally.invalidRow tally⟩
    | invalid own all held tally =>
      exact Or.inr ⟨congrArg Tally.nothingToSend tally, congrArg Tally.invalidRow tally⟩
    | frame length => exact absurd rfl (nothing length)
  refine ⟨⟨rfl, rfl, rfl, rfl, rfl, rfl⟩, rfl, rfl, rfl, rfl, rfl, ?_, ⟨rfl, rfl⟩, ⟨rfl, rfl⟩, rfl⟩
  rcases reason with ⟨rfl, rfl⟩ | ⟨rfl, rfl⟩
  · rfl
  · rfl

/-- A broadcast whose transmission does not start. -/
theorem Prepares.failTransmit_declined {length : Nat} (prepares : s.Prepares (s', .frame length))
    (begun : s.beginBroadcast = (s', .frame length)) : s.Declined s'.failTransmit.1 := by
  obtain ⟨buffer, nothingToSend, invalidRow, begins⟩ := s.beginBroadcast_eq
  rw [begun] at begins
  obtain rfl : s' = _ := begins
  cases prepares with
  | frame _ own some few held tally =>
    obtain rfl : nothingToSend = false := congrArg Tally.nothingToSend tally
    obtain rfl : invalidRow = false := congrArg Tally.invalidRow tally
    exact ⟨⟨rfl, rfl, rfl, rfl, rfl, rfl⟩, rfl, rfl, rfl, rfl, rfl, rfl, ⟨rfl, rfl⟩, ⟨rfl, rfl⟩,
      rfl⟩

/-- A receive whose reception does not start. -/
theorem failReceive_declined (s : Station) : s.Declined s.beginReceive.failReceive.1 :=
  ⟨⟨rfl, rfl, rfl, rfl, rfl, rfl⟩, Latch.putBack_fst _, rfl, rfl, rfl, rfl, rfl, ⟨rfl, rfl⟩,
    ⟨rfl, rfl⟩, rfl⟩

/-- A station that nobody waits at has no use for an event. -/
theorem hear_unawaited (available : s.latch = .available) (event : RadioEvent) :
    (s.hear event).verdict = .notMine ∧ ∃ unsolicited, (s.hear event).station =
      { s with counters := { s.counters with unsolicited } } := by
  cases event with
  | received bytes =>
    have idle : s.isIdle = true := isIdle_iff.mpr available
    simp only [hear, hearFrame, idle, if_true]
    split
    · exact ⟨rfl, s.counters.unsolicited, rfl⟩
    · exact ⟨rfl, s.counters.unsolicited + 1, rfl⟩
  | sent =>
    have still : s.hear .sent = ⟨s, .notMine, []⟩ := by
      simp only [hear, hearSent, available, Latch.putBack]
    rw [still]
    exact ⟨rfl, s.counters.unsolicited, rfl⟩
  | timedOut =>
    have still : s.hear .timedOut = ⟨s, .notMine, []⟩ := by
      simp only [hear, hearTimeout, available, Latch.putBack]
    rw [still]
    exact ⟨rfl, s.counters.unsolicited, rfl⟩
  | reset =>
    have still : s.hear .reset = ⟨s, .notMine, []⟩ := by
      simp only [hear, hearReset, available, Latch.putBack]
    rw [still]
    exact ⟨rfl, s.counters.unsolicited, rfl⟩

end Station

namespace Site

variable {H : Type}

/-! ## Events that nobody waits for -/

/-- On the way to `b` station `id`, which was `t`, has taken no event for its own, and of itself it
has changed the count of frames that nobody waited for at most. -/
def Ignored (a b : Site H) (id : Nat) (t : Station) : Prop :=
  ∃ unsolicited news,
    b.stations[id]? = some { t with counters := { t.counters with unsolicited } } ∧
    b.trace = news ++ a.trace ∧
    ∀ event verdict, .offered (.station id) event verdict ∈ news → verdict = .notMine

section Ignored

variable {a b : Site H} {id : Nat} {t : Station}

theorem Ignored.of_eq (ht : a.stations[id]? = some t) (stations : b.stations = a.stations)
    (trace : b.trace = a.trace) : Ignored a b id t :=
  ⟨t.counters.unsolicited, [], by rw [stations, ht], trace, nofun⟩

/-- One more entry on record that tells of no event at the station. -/
theorem Ignored.record (ht : a.stations[id]? = some t) {e : Entry}
    (other : ∀ event verdict, e ≠ .offered (.station id) event verdict) :
    Ignored a (a.record e) id t := by
  refine ⟨t.counters.unsolicited, [e], ht, rfl, ?_⟩
  intro event verdict told
  exact absurd (List.mem_singleton.mp told).symm (other event verdict)

theorem Ignored.offer (ht : a.stations[id]? = some t) (available : t.latch = .available)
    (sink : Sink) (event : RadioEvent) : Ignored a (Site.offer event sink a).1 id t := by
  cases sink with
  | recorder label verdict => exact .record ht fun _ _ => by simp
  | station j =>
    cases hs : a.stations[j]? with
    | none => exact .of_eq ht (by simp only [Site.offer, hs]) (by simp only [Site.offer, hs])
    | some s =>
      have offered : (Site.offer event (.station j) a).1 =
          (a.act j fun _ => ((s.hear event).station, (s.hear event).notices)).record
            (.offered (.station j) event (s.hear event).verdict) := by
        simp only [Site.offer, hs]
      have known (e : RadioEvent) (v : Verdict)
          (told : .offered (.station id) e v ∈ Entry.offered (.station j) event
            (s.hear event).verdict :: ((s.hear event).notices.map fun n =>
              Entry.reported j s.slot n).reverse) : j = id ∧ v = (s.hear event).verdict := by
        rcases List.mem_cons.mp told with same | reported
        · simp only [Entry.offered.injEq, Sink.station.injEq] at same
          exact ⟨same.1.symm, same.2.2⟩
        · obtain ⟨n, -, named⟩ := List.mem_map.mp (List.mem_reverse.mp reported)
          cases named
      rw [offered, act_some _ hs]
      by_cases here : j = id
      · subst here
        obtain rfl := Option.some.inj (hs.symm.trans ht)
        obtain ⟨verdict, unsolicited, heard⟩ := Station.hear_unawaited available event
        have inside := (List.getElem?_eq_some_iff.mp hs).1
        refine ⟨unsolicited, _ :: _, ?_, rfl, fun e v told => (known e v told).2.trans verdict⟩
        rw [← heard]
        exact List.getElem?_set_self inside
      · exact ⟨t.counters.unsolicited, _ :: _, (List.getElem?_set_ne here).trans ht, rfl,
          fun e v told => absurd (known e v told).1 here⟩

theorem Did.ignored {d : Deed} (did : Did d a b) (aside : d.Aside) (ht : a.stations[id]? = some t)
    (available : t.latch = .available) : Ignored a b id t := by
  have setup := aside.setup
  cases did with
  | part =>
    cases aside.outside with
    | configure => cases setup
    | suspend => cases setup
  | offer _ sink event => exact .offer ht available sink event
  | arm => cases aside.outside
  | record _ plain =>
    refine .record ht ?_
    rintro event verdict rfl
    cases plain
  | join => cases setup
  | rewire => cases setup
  | setting stations trace => exact .of_eq ht stations trace
  | tasking => cases aside.outside

/-- Whatever events are raised, a station that does not wait ignores them. -/
theorem Does.ignored (h : Does Deed.Aside a b) (ht : a.stations[id]? = some t)
    (available : t.latch = .available) : Ignored a b id t := by
  induction h with
  | refl => exact .of_eq ht rfl rfl
  | tail before last ih =>
    obtain ⟨d, aside, did⟩ := last
    obtain ⟨u, news, there, trace, unheard⟩ := ih
    obtain ⟨u', added, there', trace', unheard'⟩ := did.ignored aside there available
    refine ⟨u', added ++ news, there', by rw [trace', trace, List.append_assoc], ?_⟩
    intro event verdict told
    rcases List.mem_append.mp told with new | old
    · exact unheard' event verdict new
    · exact unheard event verdict old

end Ignored

/-! ## Looks -/

variable [Hardware H] {site : Site H} {c : Call} {s : Station}

/-- A look at step `c` of station `s` ends the step, the radio not having been started. -/
def Declines (site : Site H) (c : Call) (s : Station) : Prop :=
  ∃ hardware trace t, s.Declined t ∧ site.look c =
    ({ site with hardware, stations := site.stations.set c.station t, trace }, .done t.status)

omit [Hardware H] in
/-- The last part of a step that ends at once. -/
theorem finish_set {a : Station} (hs : site.stations[c.station]? = some s) (hardware : H)
    (trace : List Entry) (f : Station → Station × List StationNotice) :
    ∃ trace', (({ site with
        hardware, stations := site.stations.set c.station a, trace } : Site H).act c.station
          f).finish c =
      ({ site with hardware, stations := site.stations.set c.station (f a).1, trace := trace' },
        .done (f a).1.status) := by
  have inside := (List.getElem?_eq_some_iff.mp hs).1
  have here : ({ site with hardware, stations := site.stations.set c.station a, trace } :
      Site H).stations[c.station]? = some a := List.getElem?_set_self inside
  have stored := act_some f here
  simp only [List.set_set] at stored
  exact ⟨_, Prod.ext ((finish_fst _ c).trans stored) (finish_act here)⟩

theorem look_skipped (hs : site.stations[c.station]? = some s) (sound : s.Sound)
    (fresh : c.stage = .fresh) (activity : c.activity = .broadcast)
    (available : s.latch = .available) (unstarted : site.started? c s = none) :
    site.Declines c s ∧ (site.look c).1.calls = site.calls ∧
      (site.look c).1.hardware = site.hardware := by
  have prepares := sound.prepares_broadcast
  simp only [started?, activity] at unstarted
  generalize begins : s.beginBroadcast = result at prepares unstarted
  obtain ⟨s', b⟩ := result
  have nothing : ∀ length, b ≠ .frame length := by
    rintro length rfl
    cases unstarted
  have looked : site.look c =
      ((site.update c.station fun _ => s').act c.station fun s => s.skipBroadcast b).finish c := by
    simp only [look, hs, advance, fresh, activity, tryBroadcast, available, begins]
  rw [Declines, looked]
  refine ⟨?_, ?_, ?_⟩
  · rw [update, act_some _ hs]
    obtain ⟨trace, ended⟩ := finish_set (a := s') hs site.hardware site.trace
      fun s => s.skipBroadcast b
    exact ⟨_, trace, _, prepares.declined begins nothing, ended⟩
  · simp only [calls_finish, calls_act, calls_update]
  · rw [finish_fst, hardware_act, update, hardware_act]

/-- A broadcast with a row that can be sent gets as far as to its radio. -/
theorem look_transmits {s' : Station} {length : Nat} (hs : site.stations[c.station]? = some s)
    (fresh : c.stage = .fresh) (activity : c.activity = .broadcast)
    (available : s.latch = .available) (begins : s.beginBroadcast = (s', .frame length)) :
    site.look c = (site.update c.station fun _ => s').transmit c s' length := by
  simp only [look, hs, advance, fresh, activity, tryBroadcast, available, begins]

/-- A broadcast whose transmission does not start. -/
theorem look_unsent (hs : site.stations[c.station]? = some s) (sound : s.Sound)
    (fresh : c.stage = .fresh) (activity : c.activity = .broadcast)
    (available : s.latch = .available) {err : StartError}
    (failed : site.started? c s = some (.error err)) : site.Declines c s := by
  have prepares := sound.prepares_broadcast
  simp only [started?, activity] at failed
  generalize begins : s.beginBroadcast = result at prepares failed
  obtain ⟨s', b⟩ := result
  cases b with
  | frame length =>
    have answer : (site.update c.station fun _ => s').transmission c s' length = .error err := by
      rw [← Option.some.inj failed, transmission, update, hardware_act]
      rfl
    rw [transmission] at answer
    rw [Declines, look_transmits hs fresh activity available begins]
    simp only [transmit_eq, answer]
    rw [update, act_some _ hs]
    obtain ⟨trace, ended⟩ := finish_set (a := s') hs _ _ Station.failTransmit
    exact ⟨_, trace, _, prepares.failTransmit_declined begins, ended⟩
  | _ => cases failed

/-- A receive whose reception does not start. -/
theorem look_unreceived (hs : site.stations[c.station]? = some s) (fresh : c.stage = .fresh)
    (activity : c.activity = .receive) (available : s.latch = .available) {err : StartError}
    (failed : site.started? c s = some (.error err)) : site.Declines c s := by
  have begun : site.update c.station Station.beginReceive =
      { site with stations := site.stations.set c.station s.beginReceive } := by
    rw [update, act_some _ hs]
    rfl
  have timeout : (site.update c.station Station.beginReceive).receiveTimeout s =
      site.receiveTimeout s := by
    rw [begun]
    rfl
  have answer : (Hardware.armReceive site.hardware s.unit
      (site.receiveTimeout s) c.deadline).2 = .error err := by
    simpa only [started?, activity, Option.some.injEq] using failed
  have looked : site.look c = site.tryReceive c s := by
    simp only [look, hs, advance, fresh, activity]
  rw [Declines, looked]
  simp only [tryReceive_eq, available, timeout]
  rw [begun]
  simp only [answer]
  obtain ⟨trace, ended⟩ := finish_set (a := s.beginReceive) hs _ _ Station.failReceive
  exact ⟨_, trace, _, s.failReceive_declined, ended⟩

/-- A broadcast that starts hands its frame to the radio, and its length. -/
theorem look_sent {s' : Station} {length : Nat} (hs : site.stations[c.station]? = some s)
    (fresh : c.stage = .fresh) (activity : c.activity = .broadcast)
    (available : s.latch = .available) (begins : s.beginBroadcast = (s', .frame length)) :
    Asks (sending s.unit c.deadline (s'.buffer.take length) length) site (site.look c).1 := by
  obtain ⟨kin, -⟩ := Station.beginBroadcast_begun begins
  rw [look_transmits hs fresh activity available begins, ← kin.unit]
  exact (transmit_asks _ c s' length).after_update

theorem performAll_aside (site : Site H) {deliveries : List (Action H)}
    (events : deliveries.all Action.isEvent = true) :
    Does Deed.Aside site (site.performAll deliveries) := by
  induction deliveries generalizing site with
  | nil => exact Does.refl _ site
  | cons action deliveries ih =>
    obtain ⟨first, rest⟩ := Bool.and_eq_true_iff.mp events
    refine Does.trans ?_ (ih (site.perform action) rest)
    cases action with
    | raise unit event => exact raise_does site unit event
    | tell sink event => exact offer_does site event sink
    | _ => cases first

/-- A broadcast or a receive that does not start its radio is over at once and leaves nothing behind
but one flag and its counts, and no later event is taken for its own. A broadcast that does start has
given the radio the announcement of the own row and its length. -/
theorem unstarted_traceless (hardware : H) (actions : List (Action H)) {site : Site H}
    (passes : (({ hardware } : Site H).performAll actions).Passes site) {c : Call} {s : Station}
    (hs : site.stations[c.station]? = some s) (fresh : c.stage = .fresh)
    (activity : c.activity = .broadcast ∨ c.activity = .receive) (available : s.latch = .available) :
    (c.Broadcasts s 0 ∨ c.Broadcasts s s.nodeCount → site.started? c s = none ∧
      (site.look c).1.calls = site.calls ∧ (site.look c).1.hardware = site.hardware) ∧
    ((∀ events, site.started? c s ≠ some (.ok events)) → ∃ after t, s.Declined t ∧
      site.look c = (after, .done t.status) ∧
      after = { site with
        hardware := after.hardware
        stations := site.stations.set c.station t
        trace := after.trace } ∧
      ∀ deliveries : List (Action H), deliveries.all Action.isEvent = true →
        Ignored after (after.performAll deliveries) c.station t) ∧
    (c.activity = .broadcast → ∀ events, site.started? c s = some (.ok events) →
      ∃ row bytes, s.ownRow? = some row ∧
        bytes = (Frame.announcement s.identity.address s.identity.cell s.round s.identity.slot
          row.peers row.packed).toBytes ∧
        Asks [.armTransmit s.unit c.deadline, .control s.unit bytes.length false,
          .write s.unit 0 bytes] site (site.look c).1) := by
  have sound : s.Sound := Passes.sound ((performAll_passes _ actions).trans passes) hs
  refine ⟨?_, ?_, ?_⟩
  · intro unsendable
    have unstarted : site.started? c s = none := by
      cases started : site.started? c s with
      | none => rfl
      | some answer =>
        obtain ⟨empty, full⟩ := sendable_of_started started
        rcases unsendable with none | all
        · exact absurd none empty
        · exact absurd all full
    have broadcasts : c.activity = .broadcast := by
      rcases unsendable with ⟨broadcasts, -⟩ | ⟨broadcasts, -⟩
      · exact broadcasts
      · exact broadcasts
    exact ⟨unstarted, (look_skipped hs sound fresh broadcasts available unstarted).2⟩
  · intro unstarted
    have declines : site.Declines c s := by
      cases started : site.started? c s with
      | none =>
        rcases activity with activity | activity
        · exact (look_skipped hs sound fresh activity available started).1
        · simp [started?, activity] at started
      | some answer =>
        cases answer with
        | ok events => exact absurd started (unstarted events)
        | error err =>
          rcases activity with activity | activity
          · exact look_unsent hs sound fresh activity available started
          · exact look_unreceived hs fresh activity available started
    obtain ⟨hardware, trace, t, declined, looked⟩ := declines
    have there : (site.stations.set c.station t)[c.station]? = some t :=
      List.getElem?_set_self (List.getElem?_eq_some_iff.mp hs).1
    refine ⟨_, t, declined, looked, rfl, fun deliveries events => ?_⟩
    exact (performAll_aside _ events).ignored there declined.latch
  · intro broadcasts events started
    simp only [started?, broadcasts] at started
    split at started
    · next s' length begins =>
      obtain ⟨row, own, -, sent, whole⟩ := sound.announces begins
      refine ⟨row, _, own, sent, ?_⟩
      rw [whole]
      exact look_sent hs fresh broadcasts available begins
    · cases started

def measuredPeers : List (Action Bench) :=
  [.enrol ⟨0, 3, ⟨0x100, 0, 12⟩, {}, 0⟩,
    .alter fun b => b.setEngine 0 { answered := ⟨6#32⟩, distances := [5, 7] },
    .start 0 (.call { station := 0, activity := .request, deadline := 0 }), .poll 0]

def measuredBroken : List (Action Bench) :=
  measuredPeers ++ [.alter fun b => b.setRadio 0 { failTransmit := true }]

/-- A broadcast starts, and has written 29 bytes. With the radio broken it is over at once, and
neither the timeout nor the reset that come then are counted. -/
theorem unstarted_traceless_measured :
    let c : Call := { station := 0, activity := .broadcast, deadline := 0 }
    let sane := ({ hardware := oneAnswer } : Site Bench).performAll measuredPeers
    let site := ({ hardware := oneAnswer } : Site Bench).performAll measuredBroken
    (∃ bytes, bytes.length = 29 ∧ Asks [.armTransmit 0 0, .control 0 bytes.length false,
      .write 0 0 bytes] sane (sane.look c).1) ∧
    ∃ s after t t', site.stations[0]? = some s ∧ s.Declined t ∧
      site.look c = (after, .done t.status) ∧
      (after.performAll [.raise 0 .timedOut, .raise 0 .reset]).stations[0]? = some t' ∧
      t'.latch = .available ∧ t'.table = s.table ∧ t'.status.unstarted.count true = 1 ∧
      t'.counters.timeouts = s.counters.timeouts ∧ t'.counters.resets = s.counters.resets := by
  intro c sane site
  constructor
  · have fields : (sane.stations[0]?).map (fun s => (s.latch, s.unit, s.ownRow?,
        (sane.started? c s).map Except.isOk)) =
          some (.available, 0, some ⟨⟨6#32⟩, [5, 7, 0]⟩, some true) := by decide +kernel
    obtain ⟨s, hs, fields⟩ := Option.map_eq_some_iff.mp fields
    simp only [Prod.mk.injEq] at fields
    obtain ⟨available, unit, own, starts⟩ := fields
    obtain ⟨answer, started, ok⟩ := Option.map_eq_some_iff.mp starts
    obtain ⟨events, rfl⟩ : ∃ events, answer = .ok events := by
      cases answer with
      | ok events => exact ⟨events, rfl⟩
      | error => cases ok
    obtain ⟨-, -, sends⟩ := unstarted_traceless oneAnswer measuredPeers (Does.refl _ sane)
      (c := c) hs rfl (Or.inl rfl) available
    obtain ⟨row, bytes, own', rfl, asks⟩ := sends rfl events started
    obtain rfl := Option.some.inj (own.symm.trans own')
    rw [unit] at asks
    exact ⟨_, rfl, asks⟩
  · have fields : (site.stations[0]?).map (fun s => (s.latch, (site.started? c s).map Except.isOk)) =
        some (.available, some false) := by decide +kernel
    obtain ⟨s, hs, fields⟩ := Option.map_eq_some_iff.mp fields
    obtain ⟨available, fails⟩ := Prod.mk.inj fields
    have unstarted : ∀ events, site.started? c s ≠ some (.ok events) := by
      intro events started
      rw [started] at fails
      cases fails
    obtain ⟨-, declines, -⟩ := unstarted_traceless oneAnswer measuredBroken (Does.refl _ site)
      (c := c) hs rfl (Or.inl rfl) available
    obtain ⟨after, t, declined, looked, -, ignores⟩ := declines unstarted
    obtain ⟨unsolicited, news, there, -, -⟩ := ignores [.raise 0 .timedOut, .raise 0 .reset] rfl
    exact ⟨s, after, t, _, hs, declined, looked, there, declined.latch, declined.table,
      declined.reason, declined.waits.1, declined.waits.2⟩

end Site

end RangeSurvey
