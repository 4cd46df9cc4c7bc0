import RangeSurvey.Proofs.Site.Arming
import RangeSurvey.Proofs.Station.Tally

/-!
# A step from its first look to its last

What becomes of the flags and counters of a station from the first look at a step, which finds the
token, to the look that ends the step. A request or an answer has no flags at all. A broadcast or a
receive that has started the radio waits for the first event with an effect, which may come before
the first look is over; and nothing that the station hears before or after it changes anything.
-/

namespace RangeSurvey

/-- The first event with an effect that some entries tell of. The last of them is the earliest. -/
def firstEffect? (id : Nat) (news : List Entry) : Option RadioEvent :=
  ((news.reverse.filterMap (Entry.heard? id)).find? endsWait).map Prod.fst

section Effect

variable {id : Nat} {added : List Entry}

theorem firstEffect?_append (id : Nat) (added news : List Entry) :
    firstEffect? id (added ++ news) = (firstEffect? id news).or (firstEffect? id added) := by
  rw [firstEffect?, List.reverse_append, List.filterMap_append, List.find?_append, Option.map_or]
  rfl

theorem firstEffect?_of_silent (silent : added.filterMap (Entry.heard? id) = []) :
    firstEffect? id added = none := by
  rw [firstEffect?, List.filterMap_reverse, silent]
  rfl

theorem firstEffect?_of_heard {event : RadioEvent} {verdict : Verdict}
    (heard : added.filterMap (Entry.heard? id) = [(event, verdict)]) :
    firstEffect? id added = if endsWait (event, verdict) then some event else none := by
  rw [firstEffect?, List.filterMap_reverse, heard]
  cases ends : endsWait (event, verdict) with
  | true => simp [ends]
  | false => simp [ends]

end Effect

/-- Station `t` waits, or has waited, for its radio since `news` were put on record. The first event
with an effect ends the wait, and only this event leaves a mark on what the flags and counters were
before, `calm`. -/
inductive Station.Awaits (id : Nat) (calm : Tally) (t : Station) (news : List Entry) : Prop where
  | pending : t.latch = .held → t.tally = calm → firstEffect? id news = none → Awaits id calm t news
  | ended {event : RadioEvent} : t.latch = .available → t.tally = calm.after event →
      firstEffect? id news = some event → Awaits id calm t news

theorem Station.Awaits.takes {id : Nat} {calm : Tally} {t t' : Station} {news added : List Entry}
    (awaits : t.Awaits id calm news) (takes : t.Takes t' (added.filterMap (Entry.heard? id))) :
    t'.Awaits id calm (added ++ news) := by
  generalize heard : added.filterMap (Entry.heard? id) = told at takes
  cases takes with
  | still like =>
    have silent := firstEffect?_of_silent heard
    cases awaits with
    | pending held tally none =>
      refine .pending (like.latch.trans held) (like.tally.trans tally) ?_
      rw [firstEffect?_append, none, silent, Option.or_none]
    | ended available tally some =>
      refine .ended (like.latch.trans available) (like.tally.trans tally) ?_
      rw [firstEffect?_append, some, Option.some_or]
  | hear event =>
    have effect := firstEffect?_of_heard heard
    cases awaits with
    | pending held tally none =>
      rcases hear_tally held event with ⟨ends, available, marked⟩ | ⟨goes, same⟩
      · refine .ended available (marked.trans (congrArg (·.after event) tally)) ?_
        rw [firstEffect?_append, none, effect, if_pos ends, Option.none_or]
      · rw [same]
        refine .pending held tally ?_
        rw [firstEffect?_append, none, effect, goes]
        rfl
    | ended available tally some =>
      have like := (hear_available available event).1
      refine .ended (like.latch.trans available) (like.tally.trans tally) ?_
      rw [firstEffect?_append, some, Option.some_or]

def Call.Broadcasts (c : Call) (s : Station) (count : Nat) : Prop :=
  c.activity = .broadcast ∧ ∃ row, s.ownRow? = some row ∧ row.peers.count = count

/-- The radio of station `s` has been armed for step `c`, before the station has heard anything. -/
def Call.ArmedFirst (c : Call) (s : Station) (news : List Entry) : Prop :=
  ∃ later arm earlier, news = later ++ arm :: earlier ∧ arm.armedFor? s.unit = some c.activity ∧
    earlier.filterMap (Entry.heard? c.station) = []

theorem Call.ArmedFirst.append {c : Call} {s : Station} {news : List Entry}
    (armed : c.ArmedFirst s news) (added : List Entry) : c.ArmedFirst s (added ++ news) := by
  obtain ⟨later, arm, earlier, rfl, activity, silent⟩ := armed
  exact ⟨added ++ later, arm, earlier, (List.append_assoc ..).symm, activity, silent⟩

namespace Site

variable {H : Type} [Hardware H]

def transmission (site : Site H) (c : Call) (s : Station) (length : Nat) :
    Except StartError (List RadioEvent) :=
  let hardware := Hardware.write site.hardware s.unit (s.buffer.take length) 0
  let hardware := Hardware.setControl hardware s.unit length false
  (Hardware.armTransmit hardware s.unit c.deadline).2

/-- What the radio answers to step `c` of station `s`, if the step gets as far as to start it: a
broadcast with a row that can be sent does, and every receive. -/
def started? (site : Site H) (c : Call) (s : Station) :
    Option (Except StartError (List RadioEvent)) :=
  match c.activity with
  | .broadcast =>
    match s.beginBroadcast with
    | (s, .frame length) => some (site.transmission c s length)
    | _ => none
  | .receive => some (Hardware.armReceive site.hardware s.unit (site.receiveTimeout s) c.deadline).2
  | _ => none

/-- How far step `c` has come that began on site `begun` with station `s`. The station is `t` now,
and `news` are on record since. -/
inductive Goes (begun : Site H) (c : Call) (s : Station) :
    Stage → Station → List Entry → Prop where
  | exchanges {stage : Stage} {t : Station} {news : List Entry} :
      c.activity = .request ∨ c.activity = .listen → stage ≠ .fresh → stage ≠ .armed →
      t.latch = .available → t.tally = s.tally.clear → Goes begun c s stage t news
  | waits {events : List RadioEvent} {t : Station} {news : List Entry} :
      begun.started? c s = some (.ok events) → c.ArmedFirst s news →
      t.Awaits c.station s.tally.clear news → Goes begun c s .armed t news

def Going (site begun : Site H) (c : Call) (s : Station) (stage : Stage) : Prop :=
  ∃ t news, site.stations[c.station]? = some t ∧ site.trace = news ++ begun.trace ∧
    Goes begun c s stage t news

/-- What the flags and counters of the station are at the end of a step. -/
inductive Ends (begun : Site H) (c : Call) (s : Station) (news : List Entry) : Tally → Prop where
  | exchanged : c.activity = .request ∨ c.activity = .listen → Ends begun c s news s.tally.clear
  | empty : c.Broadcasts s 0 → s.nodeCount ≠ 0 → begun.started? c s = none →
      Ends begun c s news { s.tally.clear with nothingToSend := true }
  | invalid : c.Broadcasts s s.nodeCount → s.nodeCount ≠ 0 → begun.started? c s = none →
      Ends begun c s news { s.tally.clear with invalidRow := true }
  | transmitFailed {err : StartError} : c.activity = .broadcast →
      begun.started? c s = some (.error err) → Ends begun c s news { s.tally.clear with
        transmitFailed := true, transmitFailures := s.tally.transmitFailures + 1 }
  | receiveFailed {err : StartError} : c.activity = .receive →
      begun.started? c s = some (.error err) → Ends begun c s news { s.tally.clear with
        receiveFailed := true, receiveFailures := s.tally.receiveFailures + 1 }
  | told {events : List RadioEvent} {event : RadioEvent} :
      begun.started? c s = some (.ok events) → c.ArmedFirst s news →
      firstEffect? c.station news = some event → Ends begun c s news (s.tally.clear.after event)

/-- What comes of a look at a step that began on site `begun` with station `s`. -/
inductive Comes (begun : Site H) (c : Call) (s : Station) : Site H × Progress → Prop where
  | on {site : Site H} (stage : Stage) : site.Going begun c s stage →
      Comes begun c s (site, .waiting { c with stage })
  | ended {site : Site H} {t : Station} {news : List Entry} :
      site.stations[c.station]? = some t → site.trace = news ++ begun.trace →
      t.latch = .available → Ends begun c s news t.tally → Comes begun c s (site, .done t.status)

section Comes

variable {begun : Site H} {c : Call} {s : Station} {stage : Stage}

/-- A step goes on unchanged while no step of its station does. -/
theorem Does.going {x y : Site H} (h : Does (Deed.Spares c.station) x y)
    (going : x.Going begun c s stage) : y.Going begun c s stage := by
  refine h.keeps (P := fun site => site.Going begun c s stage) ?_ going
  rintro d a b spares did ⟨t, news, ht, trace, goes⟩
  obtain ⟨t', added, ht', trace', takes, -⟩ := did.told spares ht
  refine ⟨t', added ++ news, ht', by rw [trace', trace, List.append_assoc], ?_⟩
  cases goes with
  | waits started armed awaits => exact .waits started (armed.append added) (awaits.takes takes)
  | exchanges activity unfresh unarmed available tally =>
    have like : t.Alike t' := by
      generalize added.filterMap (Entry.heard? c.station) = heard at takes
      cases takes with
      | still like => exact like
      | hear event => exact (Station.hear_available available event).1
    exact .exchanges activity unfresh unarmed (like.latch.trans available)
      (like.tally.trans tally)

/-! ## Requests and answers -/

structure Calm (site begun : Site H) (c : Call) (s : Station) : Prop where
  activity : c.activity = .request ∨ c.activity = .listen
  station : ∃ t, site.stations[c.station]? = some t ∧ t.latch = .available ∧
    t.tally = s.tally.clear
  since : begun.trace <:+ site.trace

namespace Calm

variable {site : Site H}

omit [Hardware H] in
theorem act (calm : site.Calm begun c s) {f : Station → Station × List StationNotice}
    (latch : ∀ t, (f t).1.latch = t.latch) (tally : ∀ t, (f t).1.tally = t.tally) :
    (site.act c.station f).Calm begun c s := by
  obtain ⟨activity, ⟨t, ht, available, same⟩, since⟩ := calm
  refine ⟨activity, ⟨(f t).1, ?_, (latch t).trans available, (tally t).trans same⟩, ?_⟩
  · rw [Did.stations_act, if_pos rfl, ht, Option.map_some]
  · rw [act_some f ht]
    exact since.trans (List.suffix_append _ _)

omit [Hardware H] in
theorem call (calm : site.Calm begun c s) (h : HardwareCall) : (site.call h).Calm begun c s :=
  ⟨calm.activity, calm.station, calm.since.trans (List.suffix_cons _ _)⟩

omit [Hardware H] in
theorem hardware (calm : site.Calm begun c s) (hardware : H) :
    ({ site with hardware } : Site H).Calm begun c s :=
  ⟨calm.activity, calm.station, calm.since⟩

theorem waits (calm : site.Calm begun c s) {stage : Stage} (unfresh : stage ≠ .fresh)
    (unarmed : stage ≠ .armed) : Comes begun c s (site, .waiting { c with stage }) := by
  obtain ⟨activity, ⟨t, ht, available, tally⟩, news, since⟩ := calm
  exact .on stage ⟨t, news, ht, since.symm, .exchanges activity unfresh unarmed available tally⟩

theorem finish (calm : site.Calm begun c s) (stage : Stage) :
    Comes begun c s (site.finish { c with stage }) := by
  obtain ⟨activity, ⟨t, ht, available, tally⟩, news, since⟩ := calm
  have ended : site.finish { c with stage } = (site, .done t.status) := by
    simp only [Site.finish, ht]
  rw [ended]
  refine .ended ht since.symm available ?_
  rw [tally]
  exact .exchanged activity

theorem endExchange (calm : site.Calm begun c s) (stage : Stage) (t : Station) (e : Exchange) :
    (site.endExchange { c with stage } t e).Calm begun c s := by
  have freed : (site.update c.station Station.freeEngine).Calm begun c s :=
    calm.act (fun _ => rfl) fun _ => rfl
  cases e with
  | listen start timeout => exact freed
  | request destination start mode peers =>
    simp only [Site.endExchange]
    split
    · exact freed
    · refine (calm.call _).act ?_ ?_
      · exact fun _ => rfl
      · exact fun _ => rfl

theorem lookExchange (calm : site.Calm begun c s) (stage : Stage) (t : Station) (first : Bool)
    (e : Exchange) : Comes begun c s (site.lookExchange { c with stage } t first e) := by
  simp only [Site.lookExchange]
  split
  · exact ((calm.hardware _).endExchange stage t e).finish stage
  · exact (calm.hardware _).waits (by simp) (by simp)

theorem tryRequest (calm : site.Calm begun c s) (stage : Stage) (t : Station) (mode : Sidedness) :
    Comes begun c s (site.tryRequest { c with stage } t mode) := by
  simp only [Site.tryRequest]
  split
  · exact calm.waits (by simp) (by simp)
  · have taken : (site.update c.station Station.takeEngine).Calm begun c s :=
      calm.act (fun _ => rfl) fun _ => rfl
    exact (taken.call _).lookExchange stage t true _

theorem tryListen (calm : site.Calm begun c s) (stage : Stage) (t : Station) :
    Comes begun c s (site.tryListen { c with stage } t) := by
  simp only [Site.tryListen]
  split
  · exact calm.waits (by simp) (by simp)
  · have said : (site.say c.station (.listening (site.listenTimeout t))).Calm begun c s :=
      calm.act (fun _ => rfl) fun _ => rfl
    have taken : ((site.say c.station (.listening (site.listenTimeout t))).update c.station
        Station.takeEngine).Calm begun c s := said.act (fun _ => rfl) fun _ => rfl
    exact (taken.call _).lookExchange stage t true _

end Calm

/-! ## Waits -/

/-- A look at a step that has started the radio: the step is over if there has been an event with an
effect. -/
theorem Going.progress {site : Site H} {t : Station} (going : site.Going begun c s .armed)
    (ht : site.stations[c.station]? = some t) (stage : Stage) :
    Comes begun c s (site, t.progress { c with stage }) := by
  -- `going` itself is needed again if the wait goes on.
  obtain ⟨t', news, ht', trace, goes⟩ := id going
  obtain rfl := Option.some.inj (ht.symm.trans ht')
  cases goes with
  | exchanges _ _ unarmed => exact absurd rfl unarmed
  | waits started armed awaits =>
    cases awaits with
    | pending held =>
      rw [Station.progress, held]
      exact .on .armed going
    | ended available tally effect =>
      rw [Station.progress, available]
      refine .ended ht trace available ?_
      rw [tally]
      exact .told started armed effect

theorem Going.waitArmed {site : Site H} (going : site.Going begun c s .armed) (stage : Stage) :
    Comes begun c s (site.waitArmed { c with stage }) := by
  obtain ⟨t, -, ht, -⟩ := id going
  have looked : site.waitArmed { c with stage } = (site, t.progress { c with stage }) :=
    waitArmed_eq ht
  rw [looked]
  exact going.progress ht stage

/-- A step whose start has failed, or that has nothing to start the radio for. -/
theorem comes_of_skipped {site : Site H} {a : Station}
    {f : Station → Station × List StationNotice} (ha : site.stations[c.station]? = some a)
    (since : begun.trace <:+ site.trace) (available : (f a).1.latch = .available)
    (ends : ∀ news, Ends begun c s news (f a).1.tally) :
    Comes begun c s ((site.act c.station f).finish c) := by
  have there : (site.act c.station f).stations[c.station]? = some (f a).1 := by
    rw [Did.stations_act, if_pos rfl, ha, Option.map_some]
  have ended : (site.act c.station f).finish c =
      (site.act c.station f, .done (f a).1.status) := by simp only [finish, there]
  obtain ⟨news, later⟩ : begun.trace <:+ (site.act c.station f).trace := by
    rw [act_some f ha]
    exact since.trans (List.suffix_append _ _)
  rw [ended]
  exact .ended there later.symm available (ends news)

theorem transmit_comes {site : Site H} {a : Station} {length : Nat}
    (ha : site.stations[c.station]? = some a) (trace : site.trace = begun.trace)
    (unit : a.unit = s.unit) (held : a.latch = .held) (tally : a.tally = s.tally.clear)
    (activity : c.activity = .broadcast)
    (started : begun.started? c s = some (site.transmission c a length)) :
    Comes begun c s (site.transmit c a length) := by
  rw [transmission] at started
  simp only [transmit_eq]
  split
  · next events answer =>
    rw [answer] at started
    have heard (armed : Site H) : Does (Deed.Spares c.station) armed
        ((armed.raiseAll a.unit events).say c.station (.broadcastStarted length)) :=
      (((raiseAll_does armed a.unit events).within none none none).trans (say_does _ _ _)).mono
        fun _ within => within.spares (by simp)
    refine Going.waitArmed ((heard _).going ?_) c.stage
    refine ⟨a, [.called (.armTransmit a.unit c.deadline), .called (.control a.unit length false),
      .called (.write a.unit 0 (a.buffer.take length))], ha, ?_,
      .waits started ⟨[], _, _, rfl, ?_, rfl⟩ (.pending held tally rfl)⟩
    · rw [← trace]
      rfl
    · rw [activity, ← unit]
      exact if_pos rfl
  · next err answer =>
    rw [answer] at started
    refine comes_of_skipped ha ?_ (Latch.putBack_fst _) fun news => ?_
    · rw [← trace]
      exact ⟨[_, _, _], rfl⟩
    · rw [Station.failTransmit_tally, tally]
      exact .transmitFailed activity started

theorem tryBroadcast_comes (hs : begun.stations[c.station]? = some s) (sound : s.Sound)
    (activity : c.activity = .broadcast) (available : s.latch = .available) :
    Comes begun c s (begun.tryBroadcast c s) := by
  have prepares := sound.prepares_broadcast
  have prepared : begun.started? c s = match s.beginBroadcast with
      | (s, .frame length) => some (begun.transmission c s length)
      | _ => none := by simp only [started?, activity]
  have size : s.nodeCount ≠ 0 := by
    have := sound.slot
    omega
  generalize begins : s.beginBroadcast = begins at prepares prepared
  have there (s' : Station) := stations_update hs fun _ => s'
  have unsaid (s' : Station) : (begun.update c.station fun _ => s').trace = begun.trace := by
    rw [update, act_some _ hs]
    rfl
  cases prepares with
  | @empty s' row own none held tally =>
    simp only [tryBroadcast, available, begins]
    refine comes_of_skipped (there s') ⟨[], (unsaid s').symm⟩ (Latch.putBack_fst _) fun news => ?_
    rw [Station.skipBroadcast_tally, tally]
    exact .empty ⟨activity, row, own, none⟩ size prepared
  | @invalid s' row own all held tally =>
    simp only [tryBroadcast, available, begins]
    refine comes_of_skipped (there s') ⟨[], (unsaid s').symm⟩ (Latch.putBack_fst _) fun news => ?_
    rw [Station.skipBroadcast_tally, tally]
    exact .invalid ⟨activity, row, own, all⟩ size prepared
  | @frame s' row length own some few held tally =>
    simp only [tryBroadcast, available, begins]
    have unit : s'.unit = s.unit := by
      obtain ⟨_, _, _, begun⟩ := s.beginBroadcast_eq
      rw [begins] at begun
      have unit := congrArg Station.unit begun
      exact unit
    refine transmit_comes (there s') (unsaid s') unit held tally activity ?_
    rw [prepared]
    simp only [transmission]
    rw [update, act_eq]

theorem tryReceive_comes (hs : begun.stations[c.station]? = some s)
    (activity : c.activity = .receive) (available : s.latch = .available) :
    Comes begun c s (begun.tryReceive c s) := by
  have there := stations_update hs Station.beginReceive
  have unsaid : (begun.update c.station Station.beginReceive).trace = begun.trace := by
    rw [update, act_some _ hs]
    rfl
  have started : begun.started? c s = some (Hardware.armReceive
      (begun.update c.station Station.beginReceive).hardware s.unit
      ((begun.update c.station Station.beginReceive).receiveTimeout s) c.deadline).2 := by
    simp only [started?, activity, receiveTimeout]
    rw [update, act_eq]
  simp only [tryReceive_eq, available]
  split
  · next events answer =>
    rw [answer] at started
    have heard (armed : Site H) :
        Does (Deed.Spares c.station) armed (armed.raiseAll s.unit events) :=
      ((raiseAll_does armed s.unit events).within none none none).mono
        fun _ within => within.spares (by simp)
    refine Going.waitArmed ((heard _).going ?_) c.stage
    refine ⟨s.beginReceive, [.called (.armReceive s.unit
      ((begun.update c.station Station.beginReceive).receiveTimeout s) c.deadline)], there, ?_,
      .waits started ⟨[], _, [], rfl, ?_, rfl⟩ (.pending (Latch.take_fst _) s.beginReceive_tally rfl)⟩
    · rw [← unsaid]
      rfl
    · rw [activity]
      exact if_pos rfl
  · next err answer =>
    rw [answer] at started
    refine comes_of_skipped there ?_ (Latch.putBack_fst _) fun news => ?_
    · rw [← unsaid]
      exact ⟨[_], rfl⟩
    · rw [Station.failReceive_tally, Station.beginReceive_tally]
      exact .receiveFailed activity started

/-! ## Looks -/

/-- The first look at a step that finds the token of its station. -/
theorem look_begins (hs : begun.stations[c.station]? = some s) (sound : s.Sound)
    (fresh : c.stage = .fresh) (available : s.latch = .available) :
    Comes begun c s (begun.look c) := by
  simp only [look, hs, advance, fresh]
  cases activity : c.activity with
  | request =>
    have counted : (begun.act c.station Station.beginRequest).Calm begun c s := by
      refine ⟨Or.inl activity, ⟨s.beginRequest.1, ?_, available, s.beginRequest_tally⟩, ?_⟩
      · rw [Did.stations_act, if_pos rfl, hs, Option.map_some]
      · rw [act_some _ hs]
        exact List.suffix_append _ _
    exact counted.tryRequest c.stage s s.config.mode
  | listen =>
    have counted : (begun.update c.station Station.beginListen).Calm begun c s := by
      refine ⟨Or.inr activity, ⟨s.beginListen, stations_update hs _, available,
        s.beginListen_tally⟩, ?_⟩
      rw [update, act_some _ hs]
      exact List.suffix_append _ _
    exact counted.tryListen c.stage s
  | broadcast => exact tryBroadcast_comes hs sound activity available
  | receive => exact tryReceive_comes hs activity available

/-- Every later look at the step. -/
theorem Going.look {site : Site H} (going : site.Going begun c s stage) :
    Comes begun c s (site.look { c with stage }) := by
  obtain ⟨t, news, ht, trace, goes⟩ := id going
  cases goes with
  | waits =>
    have looked : site.look { c with stage := .armed } =
        (site, t.progress { c with stage := .armed }) := look_armed rfl ht
    rw [looked]
    exact going.progress ht .armed
  | exchanges activity unfresh unarmed available tally =>
    have calm : site.Calm begun c s := ⟨activity, ⟨t, ht, available, tally⟩, news, trace.symm⟩
    simp only [Site.look, ht, advance]
    cases stage with
    | fresh => exact absurd rfl unfresh
    | requestTurn mode => exact calm.tryRequest _ t mode
    | listenTurn => exact calm.tryListen _ t
    | exchanging e => exact calm.lookExchange _ t false e
    | armed => exact absurd rfl unarmed

end Comes

end Site

end RangeSurvey
