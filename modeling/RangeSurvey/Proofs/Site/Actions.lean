import RangeSurvey.Proofs.Site.Deeds

/-!
# What actions consist of

Which deeds an action is made of is said once here, from the parts of a look up to whole runs: an
action from outside lets no step go on, and only a look at a call that begins a broadcast or a
receive takes a token. What every deed preserves is preserved by every run.
-/

namespace RangeSurvey.Site

variable {H : Type}

/-! ## Deeds from outside -/

theorem act_congr {site : Site H} {id : Nat} {f g : Station → Station × List StationNotice}
    (h : ∀ s, site.stations[id]? = some s → f s = g s) : site.act id f = site.act id g := by
  simp only [act]
  split
  · rfl
  · next s hs => rw [h s hs]

theorem hardware_act (site : Site H) (id : Nat) (f : Station → Station × List StationNotice) :
    (site.act id f).hardware = site.hardware := by
  rw [act_eq]

/-- A station does a part. -/
theorem part_does {ok : Deed → Prop} (site : Site H) (id : Nat) (p : Station.Part)
    (hp : ok (.part id p)) : Does ok site (site.act id p.run) :=
  Does.single (.part site id p) hp

/-- A station that is known does a part. -/
theorem part_does_of {ok : Deed → Prop} {site : Site H} {id : Nat} {s : Station}
    {f : Station → Station × List StationNotice} (hs : site.stations[id]? = some s)
    (p : Station.Part) (same : f s = p.run s) (hp : ok (.part id p)) :
    Does ok site (site.act id f) := by
  have h : site.act id f = site.act id p.run := by
    apply act_congr
    intro s' hs'
    obtain rfl : s = s' := Option.some.inj (hs.symm.trans hs')
    exact same
  rw [h]
  exact part_does site id p hp

theorem record_does {ok : Deed → Prop} (site : Site H) {e : Entry} (plain : e.isPlain = true)
    (he : ok (.record e)) : Does ok site (site.record e) :=
  Does.single (.record site plain) he

/-- Chains or roster change. -/
theorem rewire_does {a b : Site H} (stations : b.stations = a.stations) (trace : b.trace = a.trace)
    (tasks : b.tasks = a.tasks) : Does Deed.Outside a b :=
  Does.single (.rewire stations trace tasks) .rewire

/-- Hardware or queue change. -/
theorem setting_does {ok : Deed → Prop} {a b : Site H} (stations : b.stations = a.stations)
    (trace : b.trace = a.trace) (tasks : b.tasks = a.tasks) (chain : b.chain = a.chain)
    (roster : b.roster = a.roster) (h : ok .setting) : Does ok a b :=
  Does.single (.setting stations trace tasks chain roster) h

theorem note_does (site : Site H) (n : Notice) : Does Deed.Aside site (site.note n) :=
  record_does site rfl ⟨.notice n, rfl⟩

theorem offer_does (site : Site H) (event : RadioEvent) (sink : Sink) :
    Does Deed.Aside site (offer event sink site).1 :=
  Does.single (.offer site sink event) ⟨.offer sink event, rfl⟩

theorem offerAll_does (event : RadioEvent) (sinks : List Sink) (site : Site H) :
    Does Deed.Aside site (Chain.offerAll (offer event) sinks site).1 := by
  induction sinks generalizing site with
  | nil => exact Does.refl _ site
  | cons sink rest ih =>
    have first := offer_does site event sink
    simp only [Chain.offerAll]
    split
    · next site' h =>
      rw [h] at first
      exact first
    · next site' verdict _ h =>
      rw [h] at first
      exact first.trans (ih site')

theorem raise_does (site : Site H) (unit : Nat) (event : RadioEvent) :
    Does Deed.Aside site (site.raise unit event).1 := offerAll_does event _ site

theorem raiseAll_does (site : Site H) (unit : Nat) (events : List RadioEvent) :
    Does Deed.Aside site (site.raiseAll unit events) := by
  induction events generalizing site with
  | nil => exact Does.refl _ site
  | cons event events ih => exact (raise_does site unit event).trans (ih _)

/-- What neither lets a step go on nor sets anything up comes from outside. -/
theorem Does.outside {a b : Site H} (h : Does Deed.Aside a b) : Does Deed.Outside a b :=
  h.mono fun _ aside => aside.outside

theorem configure_does (site : Site H) (id : Nat) (config : Configuration) :
    Does Deed.Outside site (site.update id fun s => s.configure config) :=
  part_does site id (.configure config) (.configure id config)

section Roster

variable [Hardware H]

theorem rechain_does (site : Site H) (unit : Nat) (f : Chain Sink → Chain Sink) :
    Does Deed.Outside site (site.rechain unit f) := by
  simp only [rechain]
  split
  · exact rewire_does rfl rfl rfl
  · exact Does.refl _ site

theorem hook_does (site : Site H) (id : Nat) : Does Deed.Outside site (site.hook id) := by
  simp only [hook]
  split
  · exact Does.refl _ site
  · exact (record_does site rfl (.register _ _)).trans (rechain_does _ _ _)

theorem unhook_does (site : Site H) (id : Nat) : Does Deed.Outside site (site.unhook id) := by
  simp only [unhook]
  split
  · exact Does.refl _ site
  · exact (record_does site rfl (.remove _ _)).trans (rechain_does _ _ _)

theorem install_does (site : Site H) (id : Nat) (config : Configuration) :
    Does Deed.Outside site (site.install id config) := by
  have added : Does Deed.Outside site (site.addToRoster id) := rewire_does rfl rfl rfl
  exact (added.trans (configure_does _ id config)).trans (hook_does _ id)

omit [Hardware H] in
theorem build_does (site : Site H) (e : Enrolment) : Does Deed.Outside site (site.build e).1 := by
  simp only [build]
  split
  · exact Does.refl _ site
  · next s h => exact Does.single (.join site h) (.join s)

theorem enrolNew_does (site : Site H) (e : Enrolment) :
    Does Deed.Outside site (site.enrolNew e).1 := by
  simp only [enrolNew]
  split
  · exact Does.refl _ site
  · next s h =>
    have joined : Does Deed.Outside site (site.addStation s) := Does.single (.join site h) (.join s)
    exact (joined.trans (install_does _ _ _)).trans (note_does _ _).outside

theorem renew_does (site : Site H) (id : Nat) (s : Station) (e : Enrolment) :
    Does Deed.Outside site (site.renew id s e).1 := by
  simp only [renew]
  split
  · exact (note_does _ _).outside
  split
  · exact (note_does _ _).outside
  · exact ((configure_does site id e.config).trans (hook_does _ id)).trans (note_does _ _).outside

theorem enrol_does (site : Site H) (e : Enrolment) : Does Deed.Outside site (site.enrol e).1 := by
  simp only [enrol]
  split
  · exact Does.refl _ site
  split
  · exact enrolNew_does site e
  split
  · exact Does.refl _ site
  · exact renew_does site _ _ e

theorem adopt_does (site : Site H) (id : Nat) : Does Deed.Outside site (site.adopt id).1 := by
  simp only [adopt]
  split
  · exact Does.refl _ site
  next s hs =>
    split
    · exact (install_does _ _ _).trans (note_does _ _).outside
    split
    · have configured : Does Deed.Outside site (site.update id fun s => s.configure s.config) :=
        part_does_of hs (.configure s.config) rfl (.configure id s.config)
      exact configured.trans (hook_does _ id)
    · exact Does.refl _ site

theorem dismiss_does (site : Site H) (id : Nat) : Does Deed.Outside site (site.dismiss id) := by
  have suspended : Does Deed.Outside site (site.update id Station.suspend) :=
    part_does site id .suspend (.suspend id)
  rw [dismiss]
  split
  · exact Does.refl _ site
  simp only
  split
  · have dropped : Does Deed.Outside (site.update id Station.suspend)
        ((site.update id Station.suspend).dropFromRoster id) := rewire_does rfl rfl rfl
    exact ((suspended.trans dropped).trans (unhook_does _ id)).trans (note_does _ _).outside
  · exact suspended.trans (note_does _ _).outside

end Roster

/-! ## Calls -/

/-- What neither lets a step go on nor sets anything up stays within every bound. -/
theorem Does.within {a b : Site H} (h : Does Deed.Aside a b) (actor taker measurer : Option Nat) :
    Does (Deed.Within actor taker measurer) a b :=
  h.mono fun _ aside => aside.within actor taker measurer

section Calls

variable {actor taker measurer : Option Nat} {ok : Deed → Prop}

structure Covers (ok : Deed → Prop) (id : Nat) : Prop where
  aside : ∀ d : Deed, d.Aside → ok d
  calm : ∀ p : Station.Part, p.isCalm = true → ok (.part id p)
  say : ∀ n, ok (.part id (.say n))
  arm : ∀ c, ok (.arm id c)
  call : ∀ c : HardwareCall, c.isArming = false → c.isWriting = false → ok (.record (.called c))

/-- The kinds `ok` cover what call `c` of station `s` does: a request stores a measurement, a call
that waits for the token may find it, and a broadcast writes the frame that the station prepares. -/
structure CoversCall (ok : Deed → Prop) (site : Site H) (c : Call) (s : Station) : Prop
    extends Covers ok c.station where
  measure : c.measurer? = some c.station →
    ∀ reported cells, ok (.part c.station (.endRequest reported cells))
  take : site.token? c = some c.station → ∀ p : Station.Part, p.takes = true → ok (.part c.station p)
  write : c.activity = .broadcast → ∀ s' length, s.beginBroadcast = (s', .frame length) →
    ok (.record (.called (.write s'.unit 0 (s'.buffer.take length))))

namespace Covers

variable {id : Nat} (covers : Covers ok id)

include covers

theorem does {a b : Site H} (h : Does Deed.Aside a b) : Does ok a b := h.mono covers.aside

theorem calm_does (site : Site H) (p : Station.Part) (calm : p.isCalm = true) :
    Does ok site (site.act id p.run) :=
  part_does site id p (covers.calm p calm)

theorem say_does (site : Site H) (n : StationNotice) : Does ok site (site.say id n) :=
  part_does site id (.say n) (covers.say n)

theorem call_does (site : Site H) {c : HardwareCall} (arming : c.isArming = false)
    (writing : c.isWriting = false) : Does ok site (site.call c) :=
  record_does site (by simp [Entry.isPlain, arming]) (covers.call c arming writing)

/-- A station arms its radio. -/
theorem arm_does {site : Site H} {s : Station} {c : HardwareCall}
    (hs : site.stations[id]? = some s) (arming : c.isArming = true) (unit : c.unit = s.unit) :
    Does ok site (site.call c) :=
  Does.single (.arm site hs arming unit) (covers.arm c)

theorem hardware_does (site : Site H) (hardware : H) : Does ok site { site with hardware } :=
  covers.does (setting_does rfl rfl rfl rfl rfl ⟨.setting, rfl⟩)

end Covers

/-- Whatever a call does within some bounds. -/
theorem Deed.within_covers (id : Nat) (taker measurer : Option Nat) :
    Covers (Deed.Within (some id) taker measurer) id where
  aside _ aside := aside.within _ _ _
  calm p calm := by
    simp only [Station.Part.isCalm, Bool.and_eq_true, Bool.not_eq_true'] at calm
    obtain ⟨⟨⟨step, free⟩, unmeasured⟩, -⟩ := calm
    refine ⟨nofun, Deed.isSetup_part step id, Or.inr (if_pos step), Or.inl ?_, Or.inl ?_⟩
    · simp [Deed.taker?, free]
    · simp [Deed.measurer?, unmeasured]
  say _ := ⟨nofun, rfl, Or.inl rfl, Or.inl rfl, Or.inl rfl⟩
  arm _ := ⟨nofun, rfl, Or.inr rfl, Or.inl rfl, Or.inl rfl⟩
  call _ _ _ := ⟨nofun, rfl, Or.inl rfl, Or.inl rfl, Or.inl rfl⟩

theorem say_does (site : Site H) (id : Nat) (n : StationNotice) :
    Does (Deed.Within actor taker measurer) site (site.say id n) :=
  part_does site id (.say n) ⟨nofun, rfl, Or.inl rfl, Or.inl rfl, Or.inl rfl⟩

theorem finish_fst (site : Site H) (c : Call) : (site.finish c).1 = site := by
  simp only [finish]
  split <;> rfl

theorem lookArmed_does (site : Site H) {c : Call} (covers : Covers ok c.station) (s : Station) :
    Does ok site (site.lookArmed c s).1 := by
  simp only [lookArmed]
  split
  · exact Does.refl _ site
  · rw [finish_fst]
    exact covers.calm_does site .endWait rfl

theorem waitArmed_does (site : Site H) {c : Call} (covers : Covers ok c.station) :
    Does ok site (site.waitArmed c).1 := by
  simp only [waitArmed]
  split
  · exact Does.refl _ site
  · exact lookArmed_does site covers _

variable [Hardware H]

theorem endExchange_does (site : Site H) {c : Call} (covers : Covers ok c.station) (s : Station)
    {e : Exchange} (measure : e.measurer? c.station = some c.station →
      ∀ reported cells, ok (.part c.station (.endRequest reported cells))) :
    Does ok site (site.endExchange c s e) := by
  cases e with
  | listen start timeout => exact covers.calm_does site .freeEngine rfl
  | request destination start mode peers =>
    simp only [endExchange]
    split
    · exact covers.calm_does site .freeEngine rfl
    · exact (covers.call_does site rfl rfl).trans
        (part_does _ c.station (.endRequest _ _) (measure rfl _ _))

theorem lookExchange_does (site : Site H) {c : Call} (covers : Covers ok c.station) (s : Station)
    (first : Bool) {e : Exchange} (measure : e.measurer? c.station = some c.station →
      ∀ reported cells, ok (.part c.station (.endRequest reported cells))) :
    Does ok site (site.lookExchange c s first e).1 := by
  have polled : Does ok site
      { site with hardware := (Hardware.pollExchange site.hardware s.unit first e).1 } :=
    covers.hardware_does site _
  simp only [lookExchange]
  split
  · rw [finish_fst]
    exact polled.trans (endExchange_does _ covers s measure)
  · exact polled

theorem beginExchange_does (site : Site H) {c : Call} (covers : Covers ok c.station) (s : Station)
    {e : Exchange} (measure : e.measurer? c.station = some c.station →
      ∀ reported cells, ok (.part c.station (.endRequest reported cells))) :
    Does ok site (site.beginExchange c s e).1 :=
  ((covers.calm_does site .takeEngine rfl).trans (covers.call_does _ rfl rfl)).trans
    (lookExchange_does _ covers s true measure)

theorem tryRequest_does (site : Site H) {c : Call} (covers : Covers ok c.station) (s : Station)
    (mode : Sidedness)
    (measure : ∀ reported cells, ok (.part c.station (.endRequest reported cells))) :
    Does ok site (site.tryRequest c s mode).1 := by
  simp only [tryRequest]
  split
  · exact Does.refl _ site
  · exact beginExchange_does site covers s fun _ => measure

theorem tryListen_does (site : Site H) {c : Call} (covers : Covers ok c.station) (s : Station) :
    Does ok site (site.tryListen c s).1 := by
  simp only [tryListen]
  split
  · exact Does.refl _ site
  · exact (covers.say_does site (.listening (site.listenTimeout s))).trans
      (beginExchange_does _ covers s nofun)

theorem transmit_does {site : Site H} {c : Call} (covers : Covers ok c.station) {s : Station}
    (hs : site.stations[c.station]? = some s) {length : Nat}
    (write : ok (.record (.called (.write s.unit 0 (s.buffer.take length))))) :
    Does ok site (site.transmit c s length).1 := by
  have asked (hardware : H) : Does ok site
      (((({ site with hardware } : Site H).call (.write s.unit 0 (s.buffer.take length))).call
        (.control s.unit length false)).call (.armTransmit s.unit c.deadline)) :=
    (((covers.hardware_does site hardware).trans (record_does _ rfl write)).trans
      (covers.call_does _ rfl rfl)).trans (covers.arm_does hs rfl rfl)
  simp only [transmit_eq]
  split
  · exact (asked _).trans ((covers.does (raiseAll_does _ _ _)).trans
      ((covers.say_does _ _).trans (waitArmed_does _ covers)))
  · rw [finish_fst]
    exact (asked _).trans (covers.calm_does _ .failTransmit rfl)

theorem tryBroadcast_does {site : Site H} {c : Call} (covers : Covers ok c.station) {s : Station}
    (hs : site.stations[c.station]? = some s) (take : ok (.part c.station .beginBroadcast))
    (write : ∀ s' length, s.beginBroadcast = (s', .frame length) →
      ok (.record (.called (.write s'.unit 0 (s'.buffer.take length))))) :
    Does ok site (site.tryBroadcast c s).1 := by
  rw [tryBroadcast]
  split
  · exact Does.refl _ site
  have begun : Does ok site (site.update c.station fun _ => s.beginBroadcast.1) :=
    part_does_of hs .beginBroadcast rfl take
  simp only
  split
  · next length prepared =>
    exact begun.trans (transmit_does covers (stations_update hs fun _ => s.beginBroadcast.1)
      (write _ length (Prod.ext rfl prepared)))
  · rw [finish_fst]
    exact begun.trans (covers.calm_does _ (.skipBroadcast _) rfl)

theorem tryReceive_does {site : Site H} {c : Call} (covers : Covers ok c.station) {s : Station}
    (hs : site.stations[c.station]? = some s) (take : ok (.part c.station .beginReceive)) :
    Does ok site (site.tryReceive c s).1 := by
  rw [tryReceive_eq]
  split
  · exact Does.refl _ site
  have begun : Does ok site (site.update c.station Station.beginReceive) :=
    part_does site c.station .beginReceive take
  have asked (hardware : H) (timeout : UInt16) (deadline : UInt64) : Does ok site
      (({ site.update c.station Station.beginReceive with hardware } : Site H).call
        (.armReceive s.unit timeout deadline)) :=
    (begun.trans (covers.hardware_does _ hardware)).trans
      (covers.arm_does (stations_update hs Station.beginReceive) rfl rfl)
  simp only
  split
  · exact (asked _ _ _).trans ((covers.does (raiseAll_does _ _ _)).trans (waitArmed_does _ covers))
  · rw [finish_fst]
    exact (asked _ _ _).trans (covers.calm_does _ .failReceive rfl)

omit [Hardware H] in
theorem token?_of_gated {site : Site H} {c : Call} {s : Station}
    (hs : site.stations[c.station]? = some s) (gated : c.isGated = true)
    (available : s.latch = .available) : site.token? c = some c.station := by
  simp [token?, hs, gated, Station.isIdle, Latch.isAvailable, available]

/-- A look at a call lets it go on at its station, and does nothing beyond what covers the call. -/
theorem advance_covered {site : Site H} {c : Call} {s : Station}
    (hs : site.stations[c.station]? = some s) (covers : CoversCall ok site c s) :
    Does ok site (site.advance c s).1 := by
  cases stage : c.stage with
  | fresh =>
    cases activity : c.activity with
    | request =>
      have measures : c.measurer? = some c.station := by simp [Call.measurer?, stage, activity]
      simp only [advance, stage, activity]
      exact (covers.calm_does site .beginRequest rfl).trans
        (tryRequest_does _ covers.toCovers s _ (covers.measure measures))
    | listen =>
      simp only [advance, stage, activity]
      exact (covers.calm_does site .beginListen rfl).trans (tryListen_does _ covers.toCovers s)
    | broadcast =>
      simp only [advance, stage, activity]
      cases latch : s.latch with
      | held =>
        simp only [tryBroadcast, latch]
        exact Does.refl _ site
      | available =>
        have token := token?_of_gated hs (by simp [Call.isGated, stage, activity]) latch
        exact tryBroadcast_does covers.toCovers hs (covers.take token _ rfl)
          (covers.write activity)
    | receive =>
      simp only [advance, stage, activity]
      cases latch : s.latch with
      | held =>
        simp only [tryReceive_eq, latch]
        exact Does.refl _ site
      | available =>
        have token := token?_of_gated hs (by simp [Call.isGated, stage, activity]) latch
        exact tryReceive_does covers.toCovers hs (covers.take token _ rfl)
  | requestTurn mode =>
    have measures : c.measurer? = some c.station := by simp [Call.measurer?, stage]
    simp only [advance, stage]
    exact tryRequest_does site covers.toCovers s mode (covers.measure measures)
  | listenTurn =>
    simp only [advance, stage]
    exact tryListen_does site covers.toCovers s
  | exchanging e =>
    have measures : c.measurer? = e.measurer? c.station := by simp [Call.measurer?, stage]
    simp only [advance, stage]
    exact lookExchange_does site covers.toCovers s false fun measured =>
      covers.measure (measures.trans measured)
  | armed =>
    simp only [advance, stage]
    exact lookArmed_does site covers.toCovers s

theorem look_covered {site : Site H} {c : Call}
    (covers : ∀ s, site.stations[c.station]? = some s → CoversCall ok site c s) :
    Does ok site (site.look c).1 := by
  simp only [look]
  split
  · exact Does.refl _ site
  · next s hs => exact advance_covered hs (covers s hs)

/-- A look at a call lets it go on at its station, takes the token only to begin a broadcast or a
receive, and stores a measurement only when the call is a request. -/
theorem look_does (site : Site H) (c : Call) :
    Does (Deed.Within (some c.station) (site.token? c) c.measurer?) site (site.look c).1 := by
  apply look_covered
  intro s _
  refine ⟨Deed.within_covers _ _ _, ?_, ?_, ?_⟩
  · intro measures reported cells
    exact ⟨nofun, rfl, Or.inr rfl, Or.inl rfl, Or.inr measures.symm⟩
  · intro token p takes
    cases p with
    | beginBroadcast => exact ⟨nofun, rfl, Or.inr rfl, Or.inr token.symm, Or.inl rfl⟩
    | beginReceive => exact ⟨nofun, rfl, Or.inr rfl, Or.inr token.symm, Or.inl rfl⟩
    | _ => cases takes
  · intro _ s' length _
    exact ⟨nofun, rfl, Or.inl rfl, Or.inl rfl, Or.inl rfl⟩

end Calls

/-! ## Tasks -/

section Tasks

variable [Hardware H] {actor taker measurer : Option Nat}

/-- A station that takes its part in a slot enters the round. -/
theorem takePart_does {ok : Deed → Prop} {site : Site H} {id : Nat} {s : Station}
    (hs : site.stations[id]? = some s) (job : SlotJob)
    (enters : ∀ role deadline, ok (.part id (.enterRound job.slot.round role deadline))) :
    Does ok site (site.takePart id s job).1 := by
  simp only [takePart]
  exact part_does_of hs (.enterRound job.slot.round _ _) rfl (enters _ _)

/-- A device that takes part in a slot has a station that is ready. -/
theorem enter_eq_some {site : Site H} {job : SlotJob} {c : Call}
    (entered : (site.enter job).2 = some c) : ∃ id s, site.find? job.device = some id ∧
      site.stations[id]? = some s ∧ s.status.ready = true ∧
      site.enter job = ((site.takePart id s job).1, some (site.takePart id s job).2) := by
  simp only [enter] at entered ⊢
  split at entered
  · cases entered
  next id found =>
    split at entered
    · cases entered
    next s hs =>
      split at entered
      · next ready => exact ⟨id, s, found, hs, ready, by rw [if_pos ready]⟩
      · cases entered

/-- A slot that a device takes no part in leaves a notice at most. -/
theorem enter_eq_none {site : Site H} {job : SlotJob} (skipped : (site.enter job).2 = none) :
    (∀ id s, site.find? job.device = some id → site.stations[id]? = some s →
      s.status.ready = false) ∧
      ((site.enter job).1 = site ∨
        (site.enter job).1 = site.note (.slotSkipped job.kind job.device)) := by
  simp only [enter] at skipped ⊢
  split at skipped
  · next none =>
    refine ⟨fun id s found => ?_, Or.inl rfl⟩
    rw [none] at found
    cases found
  next id found =>
    split at skipped
    · next none =>
      refine ⟨fun id' s found' hs => ?_, Or.inl rfl⟩
      rw [found, Option.some.injEq] at found'
      rw [← found', none] at hs
      cases hs
    next s hs =>
      split at skipped
      · cases skipped
      · next resting =>
        refine ⟨fun id' s' found' hs' => ?_, Or.inr (by rw [if_neg resting])⟩
        rw [found, Option.some.injEq] at found'
        rw [← found', hs, Option.some.injEq] at hs'
        rw [← hs']
        exact Bool.eq_false_iff.mpr resting

theorem enter_does (site : Site H) (job : SlotJob) :
    Does (Deed.Within ((site.turn (.slot job)).map fun t => t.2.station) taker measurer) site
      (site.enter job).1 := by
  cases called : (site.enter job).2 with
  | none =>
    rcases (enter_eq_none called).2 with same | noted
    · rw [same]
      exact Does.refl _ site
    · rw [noted]
      exact (note_does site _).within _ _ _
  | some c =>
    obtain ⟨id, s, -, hs, -, entered⟩ := enter_eq_some called
    simp only [turn, entered]
    exact takePart_does hs job fun _ _ => ⟨nofun, rfl, Or.inr rfl, Or.inl rfl, Or.inl rfl⟩

omit [Hardware H] in
/-- A call that is done may leave a completion note with the round of its station. -/
theorem conclude_covered {ok : Deed → Prop} {site : Site H} {c : Call} (setting : ok .setting)
    (say : ∀ n, ok (.part c.station (.say n))) (announce : ∀ s, site.stations[c.station]? = some s →
      ∀ kept, ok (.record (.announced ⟨s.device, s.round⟩ kept))) (status : Status) :
    Does ok site (site.conclude c status).1 := by
  rw [conclude]
  split
  · exact Does.refl _ site
  simp only
  split
  · next s _ hs =>
    split
    · simp only [Site.announce]
      split
      · refine Does.trans ?_ (record_does _ rfl (announce s hs true))
        exact setting_does rfl rfl rfl rfl rfl setting
      · exact (record_does _ rfl (announce s hs false)).trans
          (part_does _ c.station (.say _) (say _))
    · exact Does.refl _ site
  · exact Does.refl _ site

omit [Hardware H] in
theorem conclude_does (site : Site H) (c : Call) (status : Status) :
    Does (Deed.Within actor taker measurer) site (site.conclude c status).1 :=
  conclude_covered ⟨nofun, rfl, Or.inl rfl, Or.inl rfl, Or.inl rfl⟩
    (fun _ => ⟨nofun, rfl, Or.inl rfl, Or.inl rfl, Or.inl rfl⟩)
    (fun _ _ _ => ⟨nofun, rfl, Or.inl rfl, Or.inl rfl, Or.inl rfl⟩) status

theorem runCall_covered {ok : Deed → Prop} {site : Site H} {c : Call}
    (looked : Does ok site (site.look c).1)
    (concluded : ∀ after status, site.look c = (after, .done status) →
      Does ok after (after.conclude c status).1) : Does ok site (site.runCall c).1 := by
  simp only [runCall]
  split
  · next heq =>
    rw [heq] at looked
    exact looked
  · next heq =>
    rw [heq] at looked
    exact looked.trans (concluded _ _ heq)

theorem runCall_does (site : Site H) (c : Call) :
    Does (Deed.Within (some c.station) (site.token? c) c.measurer?) site (site.runCall c).1 :=
  runCall_covered (look_does site c) fun after status _ => conclude_does after c status

/-- A look at a task lets no step go on but that of the call whose turn it is. -/
theorem run_does (site : Site H) (task : Task) :
    Does (Deed.Within ((site.turn task).map fun t => t.2.station)
      ((site.turn task).bind fun t => t.1.token? t.2)
      ((site.turn task).bind fun t => t.2.measurer?)) site (site.run task).1 := by
  cases task with
  | call c => exact runCall_does site c
  | slot job =>
    have entered : Does (Deed.Within ((site.turn (.slot job)).map fun t => t.2.station)
        ((site.turn (.slot job)).bind fun t => t.1.token? t.2)
        ((site.turn (.slot job)).bind fun t => t.2.measurer?)) site (site.enter job).1 :=
      enter_does site job
    simp only [run]
    split
    · next heq =>
      rw [heq] at entered
      exact entered
    · next site' c heq =>
      rw [heq] at entered
      have turn : site.turn (.slot job) = some (site', c) := by
        simp only [Site.turn, heq, Option.map_some]
      refine entered.trans ?_
      rw [turn]
      exact runCall_does site' c

omit [Hardware H] in
theorem abandon_does (site : Site H) (c : Call) :
    Does (Deed.Within (if c.hasEngine then some c.station else none) taker measurer) site
      (site.abandon c) := by
  cases stage : c.stage with
  | exchanging e =>
    simp only [abandon, stage, Call.hasEngine, if_true]
    exact (Deed.within_covers _ _ _).calm_does site .freeEngine rfl
  | _ =>
    simp only [abandon, stage]
    exact Does.refl _ site

end Tasks

/-! ## Runs -/

section Runs

variable [Hardware H]

/-- The deeds that an action may consist of. Only looks and cancellations let steps go on, one at
most each, and only actions from outside set stations up or tear them down. -/
structure Deed.Of (site : Site H) (action : Action H) (d : Deed) : Prop where
  actor : ∀ id, d.actor? = some id → site.actor? action = some id
  token : ∀ id, d.taker? = some id → ∃ k, action = .poll k ∧ site.taker? k = some id
  measure : ∀ id, d.measurer? = some id → ∃ k, action = .poll k ∧ site.measurer? k = some id
  setup : d.isSetup = true → action.isOutside = true

theorem Deed.of_outside {site : Site H} {action : Action H} {d : Deed} (actor : d.actor? = none)
    (token : d.taker? = none) (measure : d.measurer? = none)
    (setup : d.isSetup = true → action.isOutside = true) : d.Of site action := by
  refine ⟨?_, ?_, ?_, setup⟩
  · simp [actor]
  · simp [token]
  · simp [measure]

theorem Deed.of_within {site : Site H} {action : Action H} {d : Deed}
    {taker measurer : Option Nat} (within : d.Within (site.actor? action) taker measurer)
    (looks : taker = none ∧ measurer = none ∨
      ∃ k, action = .poll k ∧ taker = site.taker? k ∧ measurer = site.measurer? k) :
    d.Of site action := by
  refine ⟨?_, ?_, ?_, fun setup => absurd (setup.symm.trans within.setup) (by simp)⟩
  · intro id h
    rcases within.actor with none | some
    · rw [none] at h
      cases h
    · rw [← some, h]
  · intro id h
    rcases within.token with none | some
    · rw [none] at h
      cases h
    · rcases looks with ⟨rfl, -⟩ | ⟨k, rfl, rfl, -⟩
      · rw [some] at h
        cases h
      · exact ⟨k, rfl, some.symm.trans h⟩
  · intro id h
    rcases within.measure with none | some
    · rw [none] at h
      cases h
    · rcases looks with ⟨-, rfl⟩ | ⟨k, rfl, -, rfl⟩
      · rw [some] at h
        cases h
      · exact ⟨k, rfl, some.symm.trans h⟩

omit [Hardware H] in
theorem tasking_does {ok : Deed → Prop} {a b : Site H} (stations : b.stations = a.stations)
    (trace : b.trace = a.trace) (chain : b.chain = a.chain) (roster : b.roster = a.roster)
    (h : ok .tasking) : Does ok a b :=
  Does.single (.tasking stations trace chain roster) h

/-- A look at a task ends with a change of the list of tasks. A task that is over is on record. -/
theorem poll_covered {ok : Deed → Prop} {a site : Site H} {k : Nat} {task : Task}
    (found : site.task? k = some task) (ran : Does ok a (site.run task).1) (tasking : ok .tasking)
    (ended : ∀ outcome, ok (.record (.ended k outcome))) : Does ok a (poll k site).1 := by
  simp only [poll, found]
  split
  · next heq =>
    rw [heq] at ran
    exact ran.trans (tasking_does rfl rfl rfl rfl tasking)
  · next site' outcome heq =>
    rw [heq] at ran
    have removed : Does ok site' (site'.removeTask k) := tasking_does rfl rfl rfl rfl tasking
    exact (ran.trans removed).trans (record_does _ rfl (ended outcome))

theorem poll_does (site : Site H) (k : Nat) :
    Does (Deed.Of site (.poll k)) site (poll k site).1 := by
  cases found : site.task? k with
  | none =>
    simp only [poll, found]
    exact Does.refl _ site
  | some task =>
    refine poll_covered found ?_ (Deed.of_outside rfl rfl rfl nofun)
      fun _ => Deed.of_outside rfl rfl rfl nofun
    refine (run_does site task).mono fun d within =>
      Deed.of_within ?_ (Or.inr ⟨k, rfl, rfl, rfl⟩)
    rw [actor?, taker?, measurer?, found, Option.bind_some]
    exact within

theorem cancel_does (site : Site H) (k : Nat) :
    Does (Deed.Of site (.cancel k)) site (site.cancel k).1 := by
  have removed : Does (Deed.Of site (.cancel k)) site (site.removeTask k) :=
    tasking_does rfl rfl rfl rfl (Deed.of_outside rfl rfl rfl nofun)
  simp only [cancel]
  split
  · exact Does.refl _ site
  · exact removed
  · next c found =>
    have abandoned : Does (Deed.Within (site.actor? (.cancel k)) none none) (site.removeTask k)
        ((site.removeTask k).abandon c) := by
      rw [actor?, found]
      exact abandon_does _ c
    exact removed.trans (abandoned.mono fun d within =>
      Deed.of_within within (Or.inl ⟨rfl, rfl⟩))

/-- An action from outside lets no step go on. -/
theorem outside_does (site : Site H) {action : Action H} (h : action.isOutside = true) :
    Does Deed.Outside site (site.perform action) := by
  cases action with
  | enrol e => exact enrol_does site e
  | build e => exact build_does site e
  | adopt id => exact adopt_does site id
  | dismiss id => exact dismiss_does site id
  | start number task => cases h
  | poll k => cases h
  | cancel k => cases h
  | raise unit event => exact (raise_does site unit event).outside
  | tell sink event => exact (offer_does site event sink).outside
  | join unit id sink => exact rechain_does site unit _
  | collect =>
    simp only [perform, popCompletion]
    split
    · exact Does.refl _ site
    · have popped (queue : List Completion) : Does Deed.Outside site { site with queue } :=
        setting_does rfl rfl rfl rfl rfl .setting
      exact (popped _).trans (record_does _ rfl (.collect _))
  | alter change => exact setting_does rfl rfl rfl rfl rfl .setting

/-- Everything that an action does. -/
theorem perform_does (site : Site H) (action : Action H) :
    Does (Deed.Of site action) site (site.perform action) := by
  cases outside : action.isOutside with
  | true =>
    refine (outside_does site outside).mono ?_
    intro d h
    exact Deed.of_outside h.actor? h.taker? h.measurer? fun _ => outside
  | false =>
    cases action with
    | start number task =>
      simp only [perform]
      split
      · exact Does.refl _ site
      · exact tasking_does rfl rfl rfl rfl (Deed.of_outside rfl rfl rfl nofun)
    | poll k => exact poll_does site k
    | cancel k => exact cancel_does site k
    | _ => cases outside

/-- A run passes what its actions pass. -/
theorem performAll_passes (site : Site H) (actions : List (Action H)) :
    site.Passes (site.performAll actions) := by
  refine performAll_induction (P := site.Passes) ?_ actions (Does.refl _ site)
  intro between action passes
  exact passes.trans (perform_does between action).passes

end Runs

end RangeSurvey.Site
