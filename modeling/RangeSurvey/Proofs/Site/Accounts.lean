import RangeSurvey.Bench
import RangeSurvey.Site.Run

/-!
# Accounts of the token

A call that enters a broadcast or a receive takes the token of its station's latch. How often the
token has come back can be read off the station's counters and the record of the site, and what
has been taken and has not come back is out. This holds whatever the hardware does and in whatever
order calls are looked at, given up and met by events.
-/

namespace RangeSurvey

def Latch.taken : Latch → Nat
  | available => 0
  | held => 1

namespace Station

/-- How many calls have taken the token to broadcast or to receive. -/
def entries (s : Station) : Nat := s.counters.broadcasts + s.counters.receives

def failures (s : Station) : Nat := s.counters.transmitFailures + s.counters.receiveFailures

/-- How many waits have ended without a completion. -/
def cutShort (s : Station) : Nat := s.counters.timeouts + s.counters.resets

end Station

/-- A notice of a broadcast that ended because its row was empty or invalid. -/
def StationNotice.isSkip : StationNotice → Bool
  | rowEmpty | rowInvalid .. => true
  | _ => false

def RadioEvent.isSent : RadioEvent → Bool
  | sent => true
  | _ => false

def RadioEvent.isReceived : RadioEvent → Bool
  | received _ => true
  | _ => false

namespace Entry

def skips (id : Nat) : Entry → Bool
  | reported station _ notice => station == id && notice.isSkip
  | _ => false

def handles (id : Nat) (kind : RadioEvent → Bool) : Entry → Bool
  | offered (.station station) event .handled => station == id && kind event
  | _ => false

/-- The token of station `id` came back in a way that its counters do not tell. -/
def returns (id : Nat) (e : Entry) : Bool :=
  e.skips id || e.handles id RadioEvent.isSent || e.handles id RadioEvent.isReceived

end Entry

namespace Site

variable {H : Type}

def skipped (site : Site H) (id : Nat) : Nat := site.trace.countP (Entry.skips id)

/-- How many transmissions station `id` has been told are out, and took for its own. -/
def sent (site : Site H) (id : Nat) : Nat :=
  site.trace.countP (Entry.handles id RadioEvent.isSent)

def received (site : Site H) (id : Nat) : Nat :=
  site.trace.countP (Entry.handles id RadioEvent.isReceived)

/-- How many events have ended a wait of station `id`, which is in state `s`. -/
def effective (site : Site H) (id : Nat) (s : Station) : Nat :=
  s.cutShort + site.sent id + site.received id

/-- A number read off station `id`, which is zero as long as there is none. -/
def reading (site : Site H) (id : Nat) (f : Station → Nat) : Nat :=
  (site.stations[id]?).elim 0 f

/-- How often the token of station `id` has come back. -/
def returned (site : Site H) (id : Nat) : Nat :=
  site.reading id Station.failures + site.reading id Station.cutShort +
    site.trace.countP (Entry.returns id)

/-- From one state of a site to a later one the tokens add up, no failed start is forgotten and
the record only grows. -/
structure Accounts (before after : Site H) : Prop where
  tokens : ∀ id, after.reading id Station.entries + before.returned id +
      before.reading id (fun s => s.latch.taken) =
    before.reading id Station.entries + after.returned id +
      after.reading id (fun s => s.latch.taken)
  failures : ∀ id, before.reading id Station.failures ≤ after.reading id Station.failures
  record : before.trace <:+ after.trace

theorem Accounts.refl (site : Site H) : Accounts site site :=
  ⟨fun _ => rfl, fun _ => Nat.le_refl _, List.suffix_refl _⟩

theorem Accounts.trans {a b c : Site H} (hab : Accounts a b) (hbc : Accounts b c) :
    Accounts a c := by
  refine ⟨?_, ?_, hab.record.trans hbc.record⟩
  · intro id
    have h₁ := hab.tokens id
    have h₂ := hbc.tokens id
    omega
  · intro id
    exact Nat.le_trans (hab.failures id) (hbc.failures id)

/-- Only the stations and the record matter, and of the record only what tells of a token. -/
theorem accounts_of_silent {a b : Site H} (news : List Entry) (hs : b.stations = a.stations)
    (ht : b.trace = news ++ a.trace) (silent : ∀ e ∈ news, ∀ id, e.returns id = false) :
    Accounts a b := by
  refine ⟨?_, ?_, ht ▸ List.suffix_append _ _⟩
  · intro id
    have h : news.countP (Entry.returns id) = 0 := by
      rw [List.countP_eq_zero]
      intro e he
      simp [silent e he id]
    simp only [returned, reading, hs, ht, List.countP_append, h, Nat.zero_add]
  · intro id
    simp only [reading, hs]
    exact Nat.le_refl _

theorem accounts_of_same {a b : Site H} (hs : b.stations = a.stations) (ht : b.trace = a.trace) :
    Accounts a b :=
  accounts_of_silent [] hs ht (by simp)

theorem accounts_of_entry {a b : Site H} (e : Entry) (hs : b.stations = a.stations)
    (ht : b.trace = e :: a.trace) (silent : ∀ id, e.returns id = false) : Accounts a b :=
  accounts_of_silent [e] hs ht (by simpa using silent)

theorem accounts_record (site : Site H) {e : Entry} (silent : ∀ id, e.returns id = false) :
    Accounts site (site.record e) :=
  accounts_of_entry e rfl rfl silent

theorem accounts_hardware (site : Site H) (hardware : H) : Accounts site { site with hardware } :=
  accounts_of_same rfl rfl

theorem accounts_call (site : Site H) (c : HardwareCall) : Accounts site (site.call c) :=
  accounts_record site fun _ => rfl

theorem accounts_note (site : Site H) (n : Notice) : Accounts site (site.note n) :=
  accounts_record site fun _ => rfl

/-- A station changes and something about it is recorded: it is enough to look at this station. -/
theorem accounts_set {site site' : Site H} {id : Nat} {s s' : Station} (news : List Entry)
    (hs : site.stations[id]? = some s) (hs' : site'.stations = site.stations.set id s')
    (ht : site'.trace = news ++ site.trace)
    (tokens : s'.entries + (s.failures + s.cutShort) + s.latch.taken =
      s.entries + (s'.failures + s'.cutShort + news.countP (Entry.returns id)) + s'.latch.taken)
    (failures : s.failures ≤ s'.failures)
    (others : ∀ other, other ≠ id → news.countP (Entry.returns other) = 0) :
    Accounts site site' := by
  have hlt : id < site.stations.length := (List.getElem?_eq_some_iff.mp hs).1
  refine ⟨?_, ?_, ht ▸ List.suffix_append _ _⟩
  · intro other
    by_cases h : other = id
    · subst h
      simp only [returned, reading, hs, hs', ht, List.getElem?_set_self hlt, Option.elim_some,
        List.countP_append]
      omega
    · simp only [returned, reading, hs', ht, List.getElem?_set_ne (Ne.symm h), List.countP_append,
        others other h, Nat.zero_add]
  · intro other
    by_cases h : other = id
    · subst h
      simpa only [reading, hs, hs', List.getElem?_set_self hlt, Option.elim_some] using failures
    · simp only [reading, hs', List.getElem?_set_ne (Ne.symm h)]
      exact Nat.le_refl _

/-- What a station may do by itself: its tokens add up with the broadcasts that it skips. -/
def Pays (s : Station) (r : Station × List StationNotice) : Prop :=
  r.1.entries + (s.failures + s.cutShort) + s.latch.taken =
      s.entries + (r.1.failures + r.1.cutShort + r.2.countP StationNotice.isSkip) +
        r.1.latch.taken ∧
    s.failures ≤ r.1.failures

theorem countP_reported (id other slot : Nat) (notices : List StationNotice) :
    ((notices.map fun n => Entry.reported id slot n).reverse).countP (Entry.returns other) =
      if id = other then notices.countP StationNotice.isSkip else 0 := by
  rw [List.countP_reverse, List.countP_map]
  by_cases h : id = other
  · simp [h, Function.comp_def, Entry.returns, Entry.skips, Entry.handles]
  · simp [h, Function.comp_def, Entry.returns, Entry.skips, Entry.handles]

theorem accounts_act (site : Site H) (id : Nat) (f : Station → Station × List StationNotice)
    (pays : ∀ s, site.stations[id]? = some s → Pays s (f s)) : Accounts site (site.act id f) := by
  cases hs : site.stations[id]? with
  | none =>
    have h : site.act id f = site := by simp only [act, hs]
    rw [h]
    exact Accounts.refl site
  | some s =>
    have h : site.act id f =
        { site with
          stations := site.stations.set id (f s).1
          trace := ((f s).2.map fun n => .reported id s.slot n).reverse ++ site.trace } := by
      simp only [act, hs]
    have hp := pays s hs
    refine accounts_set _ hs (by rw [h]) (by rw [h]) ?_ hp.2 ?_
    · rw [countP_reported, if_pos rfl]
      exact hp.1
    · intro other hne
      rw [countP_reported, if_neg (Ne.symm hne)]

theorem accounts_update (site : Site H) (id : Nat) (f : Station → Station)
    (same : ∀ s, (f s).counters = s.counters ∧ (f s).latch = s.latch) :
    Accounts site (site.update id f) := by
  apply accounts_act
  intro s _
  simp [Pays, Station.entries, Station.failures, Station.cutShort, (same s).1, (same s).2]

theorem accounts_say (site : Site H) (id : Nat) {n : StationNotice} (hn : n.isSkip = false) :
    Accounts site (site.say id n) := by
  apply accounts_act
  intro s _
  simp [Pays, hn]

/-! ## Events -/

/-- What a station may make of an event: its tokens add up with the broadcasts that it skips, and
with the event if that is recorded as a completion. -/
def Settles (s : Station) (event : RadioEvent) (r : Station.Reaction) : Prop :=
  r.station.entries + (s.failures + s.cutShort) + s.latch.taken =
      s.entries + (r.station.failures + r.station.cutShort +
        ((if r.verdict = .handled ∧ (event.isSent || event.isReceived) = true then 1 else 0) +
          r.notices.countP StationNotice.isSkip)) +
        r.station.latch.taken ∧
    s.failures ≤ r.station.failures

/-- An event that is none of a station's business leaves it as it is. -/
theorem settles_unmoved (s : Station) (event : RadioEvent) {verdict : Verdict}
    {notices : List StationNotice} (unhandled : verdict ≠ .handled)
    (quiet : notices.countP StationNotice.isSkip = 0) : Settles s event ⟨s, verdict, notices⟩ := by
  simp [Settles, unhandled, quiet]

theorem hearSurveyFrame_settles {s : Station} (held : s.latch = .held) (f : Frame)
    (bytes : List UInt8) : Settles s (.received bytes) (s.hearSurveyFrame f) := by
  simp only [Station.hearSurveyFrame]
  split
  · exact settles_unmoved s _ (by decide) rfl
  split
  · simp only [Settles, Station.entries, Station.failures, Station.cutShort, Station.store, held,
      Latch.putBack, Latch.taken, RadioEvent.isReceived, Bool.or_true, and_self, if_true]
    have quiet : [StationNotice.rowAccepted f.slot f.peers.count].countP StationNotice.isSkip = 0 :=
      rfl
    omega
  · exact settles_unmoved s _ (by decide) rfl

theorem hearFrame_settles (s : Station) (bytes : List UInt8) :
    Settles s (.received bytes) (s.hearFrame bytes) := by
  simp only [Station.hearFrame]
  split
  · exact settles_unmoved s _ (by decide) rfl
  split
  · exact ⟨rfl, Nat.le_refl _⟩
  next waits =>
    have held : s.latch = .held := by
      cases h : s.latch with
      | held => rfl
      | available => simp [Station.isIdle, Latch.isAvailable, h] at waits
    split
    · exact settles_unmoved s _ (by decide) rfl
    split
    · exact settles_unmoved s _ (by decide) rfl
    · exact hearSurveyFrame_settles held _ bytes

theorem hearSent_settles (s : Station) : Settles s .sent s.hearSent := by
  cases h : s.latch with
  | available =>
    simp only [Station.hearSent, h, Latch.putBack]
    exact settles_unmoved s _ (by decide) rfl
  | held =>
    simp only [Settles, Station.hearSent, h, Latch.putBack, Latch.taken, Station.entries,
      Station.failures, Station.cutShort, RadioEvent.isSent, Bool.true_or, and_self, if_true,
      List.countP_nil]
    omega

theorem hearTimeout_settles (s : Station) : Settles s .timedOut s.hearTimeout := by
  cases h : s.latch with
  | available =>
    simp only [Station.hearTimeout, h, Latch.putBack]
    exact settles_unmoved s _ (by decide) rfl
  | held =>
    have quiet : [StationNotice.receiveTimeout].countP StationNotice.isSkip = 0 := rfl
    simp only [Settles, Station.hearTimeout, h, Latch.putBack, Latch.taken, Station.entries,
      Station.failures, Station.cutShort, RadioEvent.isSent, RadioEvent.isReceived, quiet,
      Bool.or_false, Bool.false_eq_true, and_false, if_false]
    omega

theorem hearReset_settles (s : Station) : Settles s .reset s.hearReset := by
  cases h : s.latch with
  | available =>
    simp only [Station.hearReset, h, Latch.putBack]
    exact settles_unmoved s _ (by decide) rfl
  | held =>
    have quiet : [StationNotice.waitReset].countP StationNotice.isSkip = 0 := rfl
    simp only [Settles, Station.hearReset, h, Latch.putBack, Latch.taken, Station.entries,
      Station.failures, Station.cutShort, RadioEvent.isSent, RadioEvent.isReceived, quiet,
      Bool.or_false, Bool.false_eq_true, and_false, if_false]
    omega

/-- An event that a station takes for its own puts its token back, and is either counted by the
station or recorded as handled. -/
theorem hear_settles (s : Station) (event : RadioEvent) : Settles s event (s.hear event) := by
  cases event with
  | received bytes => exact hearFrame_settles s bytes
  | sent => exact hearSent_settles s
  | timedOut => exact hearTimeout_settles s
  | reset => exact hearReset_settles s

theorem countP_offered (id : Nat) (event : RadioEvent) (v : Verdict) :
    [Entry.offered (.station id) event v].countP (Entry.returns id) =
      if v = .handled ∧ (event.isSent || event.isReceived) = true then 1 else 0 := by
  cases v <;> simp [Entry.returns, Entry.skips, Entry.handles]

theorem returns_offered_of_ne {id other : Nat} (event : RadioEvent) (v : Verdict)
    (h : id ≠ other) : (Entry.offered (.station id) event v).returns other = false := by
  cases v <;> simp [Entry.returns, Entry.skips, Entry.handles, h]

theorem accounts_offer (site : Site H) (event : RadioEvent) (sink : Sink) :
    Accounts site (offer event sink site).1 := by
  cases sink with
  | recorder label verdict =>
    exact accounts_record site fun _ => rfl
  | station id =>
    cases hs : site.stations[id]? with
    | none =>
      have h : (offer event (.station id) site).1 = site := by simp only [offer, hs]
      rw [h]
      exact Accounts.refl site
    | some s =>
      obtain ⟨tokens, failures⟩ := hear_settles s event
      have stations : (offer event (.station id) site).1.stations =
          site.stations.set id (s.hear event).station := by
        simp only [offer, hs, act, record]
      refine accounts_set (.offered (.station id) event (s.hear event).verdict ::
        ((s.hear event).notices.map fun n => .reported id s.slot n).reverse) hs stations ?_ ?_
          failures ?_
      · simp only [offer, hs, act, record, List.cons_append]
      · rw [← List.singleton_append, List.countP_append, countP_offered, countP_reported,
          if_pos rfl]
        exact tokens
      · intro other hne
        rw [List.countP_cons, countP_reported, if_neg (Ne.symm hne),
          returns_offered_of_ne event _ (Ne.symm hne)]
        rfl

theorem accounts_offerAll (event : RadioEvent) (sinks : List Sink) (site : Site H) :
    Accounts site (Chain.offerAll (offer event) sinks site).1 := by
  induction sinks generalizing site with
  | nil => exact Accounts.refl site
  | cons sink rest ih =>
    have first := accounts_offer site event sink
    simp only [Chain.offerAll]
    split
    · next site' h => rw [h] at first; exact first
    · next site' verdict _ h => rw [h] at first; exact first.trans (ih site')

theorem accounts_raise (site : Site H) (unit : Nat) (event : RadioEvent) :
    Accounts site (site.raise unit event).1 := accounts_offerAll event _ site

theorem accounts_raiseAll (site : Site H) (unit : Nat) (events : List RadioEvent) :
    Accounts site (site.raiseAll unit events) := by
  induction events generalizing site with
  | nil => exact Accounts.refl site
  | cons event events ih => exact (accounts_raise site unit event).trans (ih _)

/-! ## Parts of steps -/

/-- Looking at the own row and writing it touches neither counters nor latch. -/
theorem prepare_same (s : Station) :
    s.prepare.1.counters = s.counters ∧ s.prepare.1.latch = s.latch := by
  simp only [Station.prepare]
  split
  · exact ⟨rfl, rfl⟩
  split
  · exact ⟨rfl, rfl⟩
  split
  · exact ⟨rfl, rfl⟩
  split <;> exact ⟨rfl, rfl⟩

theorem beginBroadcast_held (s : Station) (h : s.latch = .available) :
    s.beginBroadcast.1.latch = .held := by
  simp only [Station.beginBroadcast]
  rw [(prepare_same _).2, h]
  rfl

theorem beginBroadcast_pays (s : Station) (h : s.latch = .available) :
    Pays s (s.beginBroadcast.1, []) := by
  have held := beginBroadcast_held s h
  have counters : s.beginBroadcast.1.counters =
      { s.counters with broadcasts := s.counters.broadcasts + 1 } := (prepare_same _).1
  simp only [Pays, Station.entries, Station.failures, Station.cutShort, counters, held, h,
    Latch.taken, List.countP_nil]
  omega

theorem beginReceive_pays (s : Station) (h : s.latch = .available) :
    Pays s (s.beginReceive, []) := by
  simp only [Pays, Station.beginReceive, Station.entries, Station.failures, Station.cutShort, h,
    Latch.take, Latch.taken, List.countP_nil]
  omega

theorem skipBroadcast_pays (s : Station) {b : Station.Broadcast} (h : s.latch = .held)
    (hb : ∀ length, b ≠ .frame length) : Pays s (s.skipBroadcast b) := by
  have one : (s.skipBroadcast b).2.countP StationNotice.isSkip = 1 := by
    cases b with
    | frame length => exact absurd rfl (hb length)
    | noRow => rfl
    | empty => rfl
    | invalidRow peers => rfl
    | noRoom peers => rfl
  simp only [Pays, one]
  simp only [Station.skipBroadcast, Station.putBack, h, Latch.putBack, Latch.taken,
    Station.entries, Station.failures, Station.cutShort]
  omega

theorem failTransmit_pays (s : Station) (h : s.latch = .held) : Pays s s.failTransmit := by
  have none : (s.failTransmit).2.countP StationNotice.isSkip = 0 := rfl
  simp only [Pays, none]
  simp only [Station.failTransmit, Station.putBack, h, Latch.putBack, Latch.taken,
    Station.entries, Station.failures, Station.cutShort]
  omega

theorem failReceive_pays (s : Station) (h : s.latch = .held) : Pays s s.failReceive := by
  have none : (s.failReceive).2.countP StationNotice.isSkip = 0 := rfl
  simp only [Pays, none]
  simp only [Station.failReceive, Station.putBack, h, Latch.putBack, Latch.taken,
    Station.entries, Station.failures, Station.cutShort]
  omega

theorem endRequest_pays (s : Station) (reported : PeerSet) (cells : List Distance) :
    Pays s (s.endRequest reported cells) := by
  have none : (s.endRequest reported cells).2.countP StationNotice.isSkip = 0 := by
    simp only [Station.endRequest]
    split <;> rfl
  simp only [Pays, none]
  exact ⟨rfl, Nat.le_refl _⟩

/-- A part that is known to meet a certain station. -/
theorem accounts_act_of {site : Site H} {id : Nat} {s : Station}
    {f : Station → Station × List StationNotice} (hs : site.stations[id]? = some s)
    (pays : Pays s (f s)) : Accounts site (site.act id f) := by
  apply accounts_act
  intro s' hs'
  obtain rfl : s = s' := Option.some.inj (hs.symm.trans hs')
  exact pays

/-! ## Calls -/

theorem accounts_finish (site : Site H) (c : Call) : Accounts site (site.finish c).1 := by
  simp only [finish]
  split <;> exact Accounts.refl site

theorem accounts_lookArmed (site : Site H) (c : Call) (s : Station)
    (hs : site.stations[c.station]? = some s) : Accounts site (site.lookArmed c s).1 := by
  simp only [lookArmed]
  split
  · exact Accounts.refl site
  · next h =>
    have pays : Pays s (s.endWait, []) := by
      simp [Pays, Station.endWait, h, Latch.take, Latch.putBack, Station.entries,
        Station.failures, Station.cutShort]
    exact (accounts_act_of hs pays).trans (accounts_finish _ c)

theorem accounts_waitArmed (site : Site H) (c : Call) : Accounts site (site.waitArmed c).1 := by
  simp only [waitArmed]
  split
  · exact Accounts.refl site
  · next s h => exact accounts_lookArmed site c s h

variable [Hardware H]

theorem accounts_endExchange (site : Site H) (c : Call) (s : Station) (e : Exchange) :
    Accounts site (site.endExchange c s e) := by
  cases e with
  | listen start timeout => exact accounts_update _ _ _ fun s => ⟨rfl, rfl⟩
  | request destination start mode peers =>
    simp only [endExchange]
    split
    · exact accounts_update _ _ _ fun s => ⟨rfl, rfl⟩
    · exact (accounts_call site _).trans (accounts_act _ _ _ fun s _ => endRequest_pays s _ _)

theorem accounts_lookExchange (site : Site H) (c : Call) (s : Station) (first : Bool)
    (e : Exchange) : Accounts site (site.lookExchange c s first e).1 := by
  have h : Accounts site
      { site with hardware := (Hardware.pollExchange site.hardware s.unit first e).1 } :=
    accounts_hardware site _
  simp only [lookExchange]
  split
  · exact h.trans ((accounts_endExchange _ c s e).trans (accounts_finish _ c))
  · exact h

theorem accounts_beginExchange (site : Site H) (c : Call) (s : Station) (e : Exchange) :
    Accounts site (site.beginExchange c s e).1 := by
  have taken : Accounts site (site.update c.station Station.takeEngine) :=
    accounts_update _ _ _ fun s => ⟨rfl, rfl⟩
  exact (taken.trans (accounts_call _ _)).trans (accounts_lookExchange _ c s true e)

theorem accounts_tryRequest (site : Site H) (c : Call) (s : Station) (mode : Sidedness) :
    Accounts site (site.tryRequest c s mode).1 := by
  simp only [tryRequest]
  split
  · exact Accounts.refl site
  · exact accounts_beginExchange _ _ _ _

theorem accounts_tryListen (site : Site H) (c : Call) (s : Station) :
    Accounts site (site.tryListen c s).1 := by
  simp only [tryListen]
  split
  · exact Accounts.refl site
  · exact (accounts_say site _ rfl).trans (accounts_beginExchange _ _ _ _)

theorem accounts_transmit (site : Site H) (c : Call) (s : Station) (length : Nat)
    (hs : site.stations[c.station]? = some s) (held : s.latch = .held) :
    Accounts site (site.transmit c s length).1 := by
  -- What is asked of the radio changes the hardware and is recorded.
  have asked (hardware : H) (c₁ c₂ c₃ : HardwareCall) :
      Accounts site (((({ site with hardware } : Site H).call c₁).call c₂).call c₃) :=
    (accounts_hardware site hardware).trans ((accounts_call _ c₁).trans
      ((accounts_call _ c₂).trans (accounts_call _ c₃)))
  simp only [transmit_eq]
  split
  · exact (asked _ _ _ _).trans ((accounts_raiseAll _ s.unit _).trans
      ((accounts_say _ _ rfl).trans (accounts_waitArmed _ c)))
  · refine (asked _ _ _ _).trans ((accounts_act_of ?_ (failTransmit_pays s held)).trans
      (accounts_finish _ c))
    exact hs

theorem accounts_tryBroadcast (site : Site H) (c : Call) (s : Station)
    (hs : site.stations[c.station]? = some s) : Accounts site (site.tryBroadcast c s).1 := by
  rw [tryBroadcast]
  split
  · exact Accounts.refl site
  next available =>
    have held := beginBroadcast_held s available
    have entered : Accounts site (site.update c.station fun _ => s.beginBroadcast.1) :=
      accounts_act_of hs (beginBroadcast_pays s available)
    have hs' := stations_update hs fun _ => s.beginBroadcast.1
    simp only
    split
    · exact entered.trans (accounts_transmit _ c _ _ hs' held)
    · next notFrame =>
      have skipped : Accounts (site.update c.station fun _ => s.beginBroadcast.1)
          ((site.update c.station fun _ => s.beginBroadcast.1).act c.station
            fun s' => s'.skipBroadcast s.beginBroadcast.2) :=
        accounts_act_of hs' (skipBroadcast_pays s.beginBroadcast.1 held notFrame)
      exact entered.trans (skipped.trans (accounts_finish _ c))

theorem accounts_tryReceive (site : Site H) (c : Call) (s : Station)
    (hs : site.stations[c.station]? = some s) : Accounts site (site.tryReceive c s).1 := by
  rw [tryReceive_eq]
  split
  · exact Accounts.refl site
  next available =>
    have held : s.beginReceive.latch = .held := by
      simp only [Station.beginReceive, available]
      rfl
    have entered : Accounts site (site.update c.station Station.beginReceive) :=
      accounts_act_of hs (beginReceive_pays s available)
    have hs' := stations_update hs Station.beginReceive
    have asked (hardware : H) (call : HardwareCall) :
        Accounts (site.update c.station Station.beginReceive)
          (({ site.update c.station Station.beginReceive with hardware } : Site H).call call) :=
      (accounts_hardware _ hardware).trans (accounts_call _ call)
    simp only
    split
    · exact entered.trans ((asked _ _).trans ((accounts_raiseAll _ s.unit _).trans
        (accounts_waitArmed _ c)))
    · refine entered.trans ((asked _ _).trans ((accounts_act_of ?_
        (failReceive_pays _ held)).trans (accounts_finish _ c)))
      exact hs'

theorem accounts_advance (site : Site H) (c : Call) (s : Station)
    (hs : site.stations[c.station]? = some s) : Accounts site (site.advance c s).1 := by
  simp only [advance]
  split
  · split
    · refine Accounts.trans (accounts_act _ _ _ ?_) (accounts_tryRequest _ c s _)
      intro s _
      exact ⟨rfl, Nat.le_refl _⟩
    · refine Accounts.trans (accounts_act _ _ _ ?_) (accounts_tryListen _ c s)
      intro s _
      exact ⟨rfl, Nat.le_refl _⟩
    · exact accounts_tryBroadcast site c s hs
    · exact accounts_tryReceive site c s hs
  · exact accounts_tryRequest site c s _
  · exact accounts_tryListen site c s
  · exact accounts_lookExchange site c s false _
  · exact accounts_lookArmed site c s hs

theorem accounts_look (site : Site H) (c : Call) : Accounts site (site.look c).1 := by
  simp only [look]
  split
  · exact Accounts.refl site
  · next s h => exact accounts_advance site c s h

/-! ## Slots and tasks -/

theorem accounts_enter (site : Site H) (job : SlotJob) : Accounts site (site.enter job).1 := by
  simp only [enter]
  split
  · exact Accounts.refl site
  split
  · exact Accounts.refl site
  split
  · simp only [takePart]
    apply accounts_act
    intro s _
    exact ⟨rfl, Nat.le_refl _⟩
  · exact accounts_note site _

omit [Hardware H] in
theorem accounts_announce (site : Site H) (id : Nat) (s : Station) :
    Accounts site (site.announce id s) := by
  simp only [announce]
  split
  · exact accounts_of_entry _ rfl rfl fun _ => rfl
  · exact (accounts_record site fun _ => rfl).trans (accounts_say _ _ rfl)

omit [Hardware H] in
theorem accounts_conclude (site : Site H) (c : Call) (status : Status) :
    Accounts site (site.conclude c status).1 := by
  rw [conclude]
  split
  · exact Accounts.refl site
  simp only
  split
  · split
    · exact accounts_announce site _ _
    · exact Accounts.refl site
  · exact Accounts.refl site

theorem accounts_runCall (site : Site H) (c : Call) : Accounts site (site.runCall c).1 := by
  have h := accounts_look site c
  simp only [runCall]
  split
  · next heq => rw [heq] at h; exact h
  · next heq => rw [heq] at h; exact h.trans (accounts_conclude _ c _)

theorem accounts_run (site : Site H) (task : Task) : Accounts site (site.run task).1 := by
  cases task with
  | call c => exact accounts_runCall site c
  | slot job =>
    have h := accounts_enter site job
    simp only [run]
    split
    · next heq => rw [heq] at h; exact h
    · next c heq => rw [heq] at h; exact h.trans (accounts_runCall _ c)

theorem accounts_poll (site : Site H) (number : Nat) : Accounts site (poll number site).1 := by
  simp only [poll]
  split
  · exact Accounts.refl site
  · next task _ =>
    have h := accounts_run site task
    split
    · next heq => rw [heq] at h; exact h.trans (accounts_of_same rfl rfl)
    · next heq =>
      rw [heq] at h
      exact h.trans (accounts_of_entry _ rfl rfl fun _ => rfl)

omit [Hardware H] in
theorem accounts_abandon (site : Site H) (c : Call) : Accounts site (site.abandon c) := by
  simp only [abandon]
  split
  · exact accounts_update _ _ _ fun s => ⟨rfl, rfl⟩
  · exact Accounts.refl site

omit [Hardware H] in
theorem accounts_cancel (site : Site H) (number : Nat) :
    Accounts site (site.cancel number).1 := by
  simp only [cancel]
  split
  · exact Accounts.refl site
  · exact accounts_of_same rfl rfl
  · next c _ =>
    have removed : Accounts site (site.removeTask number) := accounts_of_same rfl rfl
    exact removed.trans (accounts_abandon _ c)

/-! ## The roster -/

omit [Hardware H] in
/-- A station joins with nothing taken and nothing counted. -/
theorem accounts_addStation (site : Site H) (e : Enrolment) (ownsStorage : Bool) :
    Accounts site (site.addStation (Station.fresh e ownsStorage)) := by
  have h (f : Station → Nat) (hf : f (Station.fresh e ownsStorage) = 0) (id : Nat) :
      (site.addStation (Station.fresh e ownsStorage)).reading id f = site.reading id f := by
    simp only [addStation, reading]
    rcases Nat.lt_trichotomy id site.stations.length with hlt | heq | hgt
    · rw [List.getElem?_append_left hlt]
    · subst heq
      simp [hf]
    · rw [List.getElem?_eq_none (by simp; omega), List.getElem?_eq_none (by omega)]
  refine ⟨?_, ?_, List.suffix_refl _⟩
  · intro id
    have trace : (site.addStation (Station.fresh e ownsStorage)).trace = site.trace := rfl
    simp only [returned, trace]
    rw [h Station.entries rfl, h Station.failures rfl, h Station.cutShort rfl,
      h (fun s => s.latch.taken) rfl]
  · intro id
    exact Nat.le_of_eq (h Station.failures rfl id).symm

theorem accounts_rechain (site : Site H) (unit : Nat) (f : Chain Sink → Chain Sink) :
    Accounts site (site.rechain unit f) := by
  simp only [rechain]
  split
  · exact accounts_of_same rfl rfl
  · exact Accounts.refl site

theorem accounts_hook (site : Site H) (id : Nat) : Accounts site (site.hook id) := by
  simp only [hook]
  split
  · exact Accounts.refl site
  · exact (accounts_call _ _).trans (accounts_rechain _ _ _)

theorem accounts_unhook (site : Site H) (id : Nat) : Accounts site (site.unhook id) := by
  simp only [unhook]
  split
  · exact Accounts.refl site
  · exact (accounts_call _ _).trans (accounts_rechain _ _ _)

theorem accounts_install (site : Site H) (id : Nat) (config : Configuration) :
    Accounts site (site.install id config) := by
  have added : Accounts site (site.addToRoster id) := accounts_of_same rfl rfl
  have configured : Accounts (site.addToRoster id)
      ((site.addToRoster id).update id fun s => s.configure config) :=
    accounts_update _ _ _ fun s => ⟨rfl, rfl⟩
  exact (added.trans configured).trans (accounts_hook _ _)

theorem build_ok {e : Enrolment} {ownsStorage : Bool} {s : Station}
    (h : Station.build e ownsStorage = .ok s) : s = Station.fresh e ownsStorage := by
  simp only [Station.build] at h
  split at h
  · cases h
  · split at h
    · cases h; rfl
    · cases h

omit [Hardware H] in
theorem accounts_build (site : Site H) (e : Enrolment) : Accounts site (site.build e).1 := by
  simp only [build]
  split
  · exact Accounts.refl site
  · next s h =>
    obtain rfl := build_ok h
    exact accounts_addStation site e false

theorem accounts_enrolNew (site : Site H) (e : Enrolment) :
    Accounts site (site.enrolNew e).1 := by
  simp only [enrolNew]
  split
  · exact Accounts.refl site
  · next s h =>
    obtain rfl := build_ok h
    exact ((accounts_addStation site e true).trans (accounts_install _ _ _)).trans
      (accounts_note _ _)

theorem accounts_renew (site : Site H) (id : Nat) (s : Station) (e : Enrolment) :
    Accounts site (site.renew id s e).1 := by
  simp only [renew]
  split
  · exact accounts_note _ _
  split
  · exact accounts_note _ _
  · have configured : Accounts site (site.update id fun s => s.configure e.config) :=
      accounts_update _ _ _ fun s => ⟨rfl, rfl⟩
    exact (configured.trans (accounts_hook _ _)).trans (accounts_note _ _)

theorem accounts_enrol (site : Site H) (e : Enrolment) : Accounts site (site.enrol e).1 := by
  simp only [enrol]
  split
  · exact Accounts.refl site
  split
  · exact accounts_enrolNew site e
  split
  · exact Accounts.refl site
  · exact accounts_renew site _ _ e

theorem accounts_adopt (site : Site H) (id : Nat) : Accounts site (site.adopt id).1 := by
  simp only [adopt]
  split
  · exact Accounts.refl site
  split
  · exact (accounts_install _ _ _).trans (accounts_note _ _)
  split
  · have configured : Accounts site (site.update id fun s => s.configure s.config) :=
      accounts_update _ _ _ fun s => ⟨rfl, rfl⟩
    exact configured.trans (accounts_hook _ _)
  · exact Accounts.refl site

theorem accounts_dismiss (site : Site H) (id : Nat) : Accounts site (site.dismiss id) := by
  have suspended : Accounts site (site.update id Station.suspend) :=
    accounts_update _ _ _ fun s => ⟨rfl, rfl⟩
  rw [dismiss]
  split
  · exact Accounts.refl site
  simp only
  split
  · have dropped : Accounts (site.update id Station.suspend)
        ((site.update id Station.suspend).dropFromRoster id) := accounts_of_same rfl rfl
    exact ((suspended.trans dropped).trans (accounts_unhook _ id)).trans (accounts_note _ _)
  · exact suspended.trans (accounts_note _ _)

/-! ## Runs -/

theorem accounts_perform (site : Site H) (action : Action H) :
    Accounts site (site.perform action) := by
  cases action with
  | enrol e => exact accounts_enrol site e
  | build e => exact accounts_build site e
  | adopt id => exact accounts_adopt site id
  | dismiss id => exact accounts_dismiss site id
  | start number task =>
    simp only [perform]
    split
    · exact Accounts.refl site
    · exact accounts_of_same rfl rfl
  | poll number => exact accounts_poll site number
  | cancel number => exact accounts_cancel site number
  | raise unit event => exact accounts_raise site unit event
  | tell sink event => exact accounts_offer site event sink
  | join unit id sink => exact accounts_rechain site unit _
  | collect =>
    simp only [perform, popCompletion]
    split
    · exact Accounts.refl site
    · exact accounts_of_entry _ rfl rfl fun _ => rfl
  | alter change => exact accounts_of_same rfl rfl

theorem accounts_performAll (site : Site H) (actions : List (Action H)) :
    Accounts site (site.performAll actions) := by
  induction actions generalizing site with
  | nil => exact Accounts.refl site
  | cons action actions ih => exact (accounts_perform site action).trans (ih _)

omit [Hardware H] in
/-- A recorded return is a skipped broadcast, a handled transmission or an accepted frame, and no
two of these. -/
theorem countP_returns (id : Nat) (trace : List Entry) :
    trace.countP (Entry.returns id) = trace.countP (Entry.skips id) +
      trace.countP (Entry.handles id RadioEvent.isSent) +
      trace.countP (Entry.handles id RadioEvent.isReceived) := by
  induction trace with
  | nil => rfl
  | cons e trace ih =>
    have one : (if e.returns id then 1 else 0) = (if e.skips id then 1 else 0) +
        (if e.handles id RadioEvent.isSent then 1 else 0) +
        (if e.handles id RadioEvent.isReceived then 1 else 0) := by
      rcases e with c | ⟨sink, event, verdict⟩ | ⟨station, slot, notice⟩ | n | ⟨n, o⟩ | ⟨n, k⟩ | n
      case reported =>
        by_cases h : (station == id && notice.isSkip) = true
        · simp [Entry.returns, Entry.skips, Entry.handles, h]
        · simp [Entry.returns, Entry.skips, Entry.handles, h]
      case offered =>
        cases sink with
        | recorder label v => rfl
        | station station =>
          cases verdict with
          | notMine => rfl
          | malformed => rfl
          | handled =>
            by_cases h : station = id
            · cases event <;> simp [Entry.returns, Entry.skips, Entry.handles, h,
                RadioEvent.isSent, RadioEvent.isReceived]
            · simp [Entry.returns, Entry.skips, Entry.handles, h]
      all_goals rfl
    simp only [List.countP_cons, ih, one]
    omega

/-- Every token that a station has taken has come back in exactly one way, unless it is still out.
Between two entries at most one event has had an effect. -/
theorem tokens_accounted (hardware : H) (actions : List (Action H)) (id : Nat) (s : Station)
    (hs : (({ hardware } : Site H).performAll actions).stations[id]? = some s) :
    let site := ({ hardware } : Site H).performAll actions
    s.counters.broadcasts + s.counters.receives =
        site.skipped id + s.counters.transmitFailures + s.counters.receiveFailures +
          s.counters.timeouts + s.counters.resets + site.sent id + site.received id +
          s.latch.taken ∧
      ∀ (later : List (Action H)) (s' : Station),
        (site.performAll later).stations[id]? = some s' →
        s'.entries = s.entries ∨ s'.entries = s.entries + 1 ∧ s.latch = .available →
        (site.performAll later).effective id s' ≤ site.effective id s + 1 := by
  intro site
  have start := (accounts_performAll ({ hardware } : Site H) actions).tokens id
  have balance : s.entries = site.skipped id + s.failures + site.effective id s +
      s.latch.taken := by
    simp only [returned, reading, hs, countP_returns, Option.elim_some, List.getElem?_nil,
      Option.elim_none, List.countP_nil] at start
    simp only [site, skipped, effective, sent, received]
    omega
  constructor
  · simp only [effective, Station.entries, Station.failures, Station.cutShort] at balance
    omega
  · intro later s' hs' entered
    have next := accounts_performAll site later
    have tokens := next.tokens id
    have failures := next.failures id
    have skipped : site.skipped id ≤ (site.performAll later).skipped id :=
      next.record.sublist.countP_le
    have hs : site.stations[id]? = some s := hs
    simp only [returned, reading, hs, hs', countP_returns, Option.elim_some] at tokens failures
    simp only [Site.skipped] at skipped
    simp only [effective, sent, received]
    have taken : s.latch.taken ≤ 1 := by cases s.latch <;> simp [Latch.taken]
    rcases entered with same | ⟨one, available⟩
    · omega
    · have : s.latch.taken = 0 := by rw [available]; rfl
      omega

def oneAnswer : Bench where
  radio := fun _ => {}
  engine := fun _ => { answered := ⟨2#32⟩, distances := [5] }

/-- Station 0 of two measures a distance and broadcasts it while a receive waits for its turn. -/
def crowded : List (Action Bench) :=
  [.enrol ⟨0, 2, ⟨0x100, 0, 12⟩, {}, 0⟩,
    .start 0 (.call { station := 0, activity := .request, deadline := 0 }), .poll 0,
    .start 1 (.call { station := 0, activity := .broadcast, deadline := 0 }), .poll 1,
    .start 2 (.call { station := 0, activity := .receive, deadline := 0 }), .poll 2,
    .raise 0 .sent]

/-- The receive takes the token that the end of the transmission has put back, and so gets ahead
of the broadcast. -/
def overtaken : List (Action Bench) := [.poll 2, .poll 1, .raise 0 .timedOut]

theorem tokens_accounted_overtaken :
    let site := ({ hardware := oneAnswer } : Site Bench).performAll crowded
    ∃ s s', site.stations[0]? = some s ∧ (site.performAll overtaken).stations[0]? = some s' ∧
      s.counters.broadcasts + s.counters.receives =
        site.skipped 0 + s.counters.transmitFailures + s.counters.receiveFailures +
          s.counters.timeouts + s.counters.resets + site.sent 0 + site.received 0 +
          s.latch.taken ∧
      (site.performAll overtaken).effective 0 s' ≤ site.effective 0 s + 1 := by
  intro site
  have before : site.stations[0]?.map (fun s => (s.entries, s.latch)) = some (1, .available) := by
    decide +kernel
  have after : (site.performAll overtaken).stations[0]?.map Station.entries = some 2 := by
    decide +kernel
  obtain ⟨s, hs, h⟩ := Option.map_eq_some_iff.mp before
  obtain ⟨s', hs', h'⟩ := Option.map_eq_some_iff.mp after
  obtain ⟨entries, available⟩ := Prod.mk.inj h
  obtain ⟨tokens, later⟩ := tokens_accounted oneAnswer crowded 0 s hs
  exact ⟨s, s', hs, hs', tokens, later overtaken s' hs' (Or.inr ⟨by omega, available⟩)⟩

end Site

end RangeSurvey
