import RangeSurvey.Proofs.Site.Request
import RangeSurvey.Proofs.Site.Relay
import RangeSurvey.Proofs.Site.Stretch

/-!
# Looks at the engine

What a look at a call does to the engine of its station: a request or a listen that does not have
the engine begins an exchange if the engine is free and waits otherwise, and one that has it leaves
it when the exchange is over. A request then collects what the engine has measured before anybody
else is looked at. No other call has anything to do with the engine.
-/

namespace RangeSurvey

def HardwareCall.isEngine : HardwareCall → Bool
  | exchange .. | measured .. => true
  | _ => false

namespace Call

def exchange? (c : Call) : Option Exchange :=
  match c.stage with
  | .exchanging e => some e
  | _ => none

/-- A look at the call lets it have the engine if nobody else has it. -/
def wantsEngine (c : Call) : Bool :=
  match c.stage with
  | .fresh => c.activity == .request || c.activity == .listen
  | .requestTurn _ | .listenTurn => true
  | _ => false

theorem hasEngine_eq (c : Call) : c.hasEngine = c.exchange?.isSome := by
  cases stage : c.stage <;> simp [hasEngine, exchange?, stage]

/-- A call that measures does so for its own station, and if it does not have the engine yet, then
it wants it. -/
theorem measurer?_eq {c : Call} {id : Nat} (measures : c.measurer? = some id) :
    c.station = id ∧ (c.exchange? = none → c.wantsEngine = true) := by
  cases stage : c.stage with
  | fresh =>
    simp only [measurer?, stage, Option.ite_none_right_eq_some, Option.some.injEq] at measures
    exact ⟨measures.2, fun _ => by simp [wantsEngine, stage, measures.1]⟩
  | requestTurn mode =>
    simp only [measurer?, stage, Option.some.injEq] at measures
    exact ⟨measures, fun _ => by simp only [wantsEngine, stage]⟩
  | exchanging e =>
    cases e with
    | request =>
      simp only [measurer?, stage, Exchange.measurer?, Option.some.injEq] at measures
      exact ⟨measures, fun without => by simp [exchange?, stage] at without⟩
    | listen => simp [measurer?, stage, Exchange.measurer?] at measures
  | listenTurn => simp [measurer?, stage] at measures
  | armed => simp [measurer?, stage] at measures

def opening (c : Call) (s : Station) (e : Exchange) : List HardwareCall :=
  if c.hasEngine then [] else [.exchange s.unit e]

end Call

/-- What the engine of a station is asked at the end of an exchange: a request collects what has
been measured. -/
def Station.closing (s : Station) : Exchange → List HardwareCall
  | .listen .. => []
  | .request .. => s.ownRow?.toList.map fun row => .measured s.unit s.slot row.capacity

theorem Station.Holds.closing {s t : Station} (holds : s.Holds t) (e : Exchange) :
    t.closing e = s.closing e := by
  cases e with
  | listen => rfl
  | request => simp only [Station.closing, holds.row, holds.unit, holds.slot]

namespace Site

variable {H : Type}

def engineCalls (site : Site H) : List HardwareCall := site.calls.filter HardwareCall.isEngine

def taken (site : Site H) (id : Nat) : Bool :=
  (site.stations[id]?).any fun s => s.engineBusy

/-- Nothing is asked of an engine, and whoever has one keeps it. -/
structure Idles (a b : Site H) : Prop where
  taken : ∀ id, b.taken id = a.taken id
  calls : b.engineCalls = a.engineCalls

/-! ## What leaves engines alone -/

section Idles

variable {a b c : Site H}

theorem Idles.refl (site : Site H) : Idles site site := ⟨fun _ => rfl, rfl⟩

theorem Idles.trans (first : Idles a b) (second : Idles b c) : Idles a c :=
  ⟨fun id => (second.taken id).trans (first.taken id), second.calls.trans first.calls⟩

/-- Neither stations nor the record change. -/
theorem idles_of_eq (stations : b.stations = a.stations) (trace : b.trace = a.trace) :
    Idles a b := by
  constructor
  · intro id
    rw [taken, stations, taken]
  · rw [engineCalls, calls, trace, engineCalls, calls]

theorem hardware_idles (site : Site H) (hardware : H) : Idles site { site with hardware } :=
  idles_of_eq rfl rfl

theorem taken_act (site : Site H) (i id : Nat) (f : Station → Station × List StationNotice) :
    (site.act i f).taken id =
      if i = id then (site.stations[i]?).any fun s => (f s).1.engineBusy else site.taken id := by
  simp only [taken, Did.stations_act]
  split
  · rw [Option.any_map]
  · rfl

theorem engineCalls_act (site : Site H) (id : Nat)
    (f : Station → Station × List StationNotice) :
    (site.act id f).engineCalls = site.engineCalls := by
  rw [engineCalls, calls_act, engineCalls]

theorem act_idles (site : Site H) (id : Nat) {f : Station → Station × List StationNotice}
    (same : ∀ s : Station, (f s).1.engineBusy = s.engineBusy) : Idles site (site.act id f) := by
  refine ⟨fun j => ?_, engineCalls_act site id f⟩
  rw [taken_act]
  split
  · next here =>
    subst here
    simp only [same, taken]
  · rfl

theorem record_idles (site : Site H) {e : Entry} (silent : e.called? = none) :
    Idles site (site.record e) := by
  refine ⟨fun _ => rfl, ?_⟩
  rw [engineCalls, calls, record, List.filterMap_cons_none silent]
  rfl

theorem call_idles (site : Site H) {c : HardwareCall} (other : c.isEngine = false) :
    Idles site (site.call c) := by
  refine ⟨fun _ => rfl, ?_⟩
  rw [engineCalls, calls_call, List.filter_cons_of_neg (by simp [other]), engineCalls]

theorem hear_engine (s : Station) (event : RadioEvent) :
    (s.hear event).station.engineBusy = s.engineBusy := by
  obtain ⟨table, latch, status, counters, heard⟩ := s.hear_eq event
  rw [heard]

theorem offer_idles (event : RadioEvent) (sink : Sink) (site : Site H) :
    Idles site (offer event sink site).1 := by
  refine ⟨fun id => ?_, by rw [engineCalls, calls_offer, engineCalls]⟩
  cases sink with
  | recorder label verdict => rfl
  | station i =>
    simp only [taken, Did.stations_offer]
    split
    · next here =>
      subst here
      simp only [Option.any_map, hear_engine]
    · rfl

theorem offerAll_idles (event : RadioEvent) (sinks : List Sink) (site : Site H) :
    Idles site (Chain.offerAll (offer event) sinks site).1 := by
  induction sinks generalizing site with
  | nil => exact .refl site
  | cons sink rest ih =>
    have first := offer_idles event sink site
    simp only [Chain.offerAll]
    split
    · next heq => rwa [heq] at first
    · next heq =>
      rw [heq] at first
      exact first.trans (ih _)

theorem raiseAll_idles (site : Site H) (unit : Nat) (events : List RadioEvent) :
    Idles site (site.raiseAll unit events) := by
  induction events generalizing site with
  | nil => exact .refl site
  | cons event events ih => exact (offerAll_idles event _ site).trans (ih _)

theorem lookArmed_idles (site : Site H) (c : Call) (s : Station) :
    Idles site (site.lookArmed c s).1 := by
  simp only [lookArmed]
  split
  · exact .refl site
  · rw [finish_fst]
    exact act_idles site _ fun _ => rfl

theorem waitArmed_idles (site : Site H) (c : Call) : Idles site (site.waitArmed c).1 := by
  simp only [waitArmed]
  split
  · exact .refl site
  · exact lookArmed_idles site c _

theorem conclude_idles (site : Site H) (c : Call) (status : Status) :
    Idles site (site.conclude c status).1 := by
  rw [conclude]
  split
  · exact .refl site
  simp only
  split
  · split
    · simp only [announce]
      split
      · have queued (queue : List Completion) : Idles site { site with queue } :=
          idles_of_eq rfl rfl
        exact (queued _).trans (record_idles _ rfl)
      · exact (record_idles site rfl).trans (act_idles _ _ fun _ => rfl)
    · exact .refl site
  · exact .refl site

variable [Hardware H]

theorem transmit_idles (site : Site H) (c : Call) (s : Station) (length : Nat) :
    Idles site (site.transmit c s length).1 := by
  have asked (hardware : H) : Idles site
      (((({ site with hardware } : Site H).call (.write s.unit 0 (s.buffer.take length))).call
        (.control s.unit length false)).call (.armTransmit s.unit c.deadline)) :=
    (((hardware_idles site hardware).trans (call_idles _ rfl)).trans (call_idles _ rfl)).trans
      (call_idles _ rfl)
  simp only [transmit_eq]
  split
  · exact (asked _).trans ((raiseAll_idles _ _ _).trans
      ((act_idles _ _ fun _ => rfl).trans (waitArmed_idles _ _)))
  · rw [finish_fst]
    exact (asked _).trans (act_idles _ _ fun _ => rfl)

theorem tryBroadcast_idles {site : Site H} {c : Call} {s : Station}
    (hs : site.stations[c.station]? = some s) : Idles site (site.tryBroadcast c s).1 := by
  have begun : Idles site (site.update c.station fun _ => s.beginBroadcast.1) := by
    refine ⟨fun id => ?_, engineCalls_act site _ _⟩
    obtain ⟨buffer, nothingToSend, invalidRow, begun⟩ := s.beginBroadcast_eq
    rw [update, taken_act]
    split
    · next here =>
      subst here
      simp only [taken, hs, begun, Option.any_some]
    · rfl
  rw [tryBroadcast]
  split
  · exact .refl site
  simp only
  split
  · exact begun.trans (transmit_idles _ _ _ _)
  · rw [finish_fst]
    exact begun.trans (act_idles _ _ fun _ => rfl)

theorem tryReceive_idles (site : Site H) (c : Call) (s : Station) :
    Idles site (site.tryReceive c s).1 := by
  have begun : Idles site (site.update c.station Station.beginReceive) :=
    act_idles site _ fun _ => rfl
  have asked (hardware : H) (timeout : UInt16) : Idles site
      (({ site.update c.station Station.beginReceive with hardware } : Site H).call
        (.armReceive s.unit timeout c.deadline)) :=
    (begun.trans (hardware_idles _ hardware)).trans (call_idles _ rfl)
  simp only [tryReceive_eq]
  split
  · exact .refl site
  split
  · exact (asked _ _).trans ((raiseAll_idles _ _ _).trans (waitArmed_idles _ _))
  · rw [finish_fst]
    exact (asked _ _).trans (act_idles _ _ fun _ => rfl)

end Idles

/-! ## Looks at calls -/

variable [Hardware H]

/-- What a look at call `c` of station `s` comes to as far as the engine of the station goes. -/
inductive Engaged (site : Site H) (c : Call) (s : Station) : Site H × Progress → Prop where
  /-- The call has nothing to do with the engine, or somebody else has it. -/
  | idles {after : Site H} {progress : Progress} : c.exchange? = none →
      (c.wantsEngine = true → s.engineBusy = true ∧ ∃ c', progress = .waiting c') →
      Idles site after → progress.At c (fun stage => ({ c with stage } : Call).exchange? = none) →
      Engaged site c s (after, progress)
  /-- The call gets the engine, or has had it already, and the exchange goes on. -/
  | goesOn {after : Site H} (e : Exchange) (hardware : H) :
      c.exchange? = some e ∨ c.exchange? = none ∧ s.engineBusy = false →
      Hardware.pollExchange site.hardware s.unit (!c.hasEngine) e = (hardware, false) →
      after.taken c.station = true → after.engineCalls = c.opening s e ++ site.engineCalls →
      Engaged site c s (after, .waiting { c with stage := .exchanging e })
  /-- The call gets the engine, or has had it already, and the exchange is over. -/
  | isOver {after : Site H} (e : Exchange) (status : Status) (hardware : H) :
      c.exchange? = some e ∨ c.exchange? = none ∧ s.engineBusy = false →
      Hardware.pollExchange site.hardware s.unit (!c.hasEngine) e = (hardware, true) →
      e.measurer? c.station = c.measurer? → after.taken c.station = false →
      after.engineCalls = s.closing e ++ (c.opening s e ++ site.engineCalls) →
      (e.measurer? c.station = some c.station → ∀ row, s.ownRow? = some row →
        ∃ s', after.stations[c.station]? = some s' ∧
          s'.ownRow? = some (s.measuredRow hardware row)) →
      Engaged site c s (after, .done status)

section Look

variable {site base : Site H} {c : Call} {s t : Station}

/-- At the end of an exchange the engine is free, and a request has stored what was measured. -/
theorem endExchange_engine (ht : base.stations[c.station]? = some t) (holds : s.Holds t)
    (e : Exchange) : (base.endExchange c s e).taken c.station = false ∧
      (base.endExchange c s e).engineCalls = s.closing e ++ base.engineCalls ∧
      (e.measurer? c.station = some c.station → ∀ row, s.ownRow? = some row →
        ∃ s', (base.endExchange c s e).stations[c.station]? = some s' ∧
          s'.ownRow? = some (s.measuredRow base.hardware row)) := by
  have freed : (base.update c.station Station.freeEngine).taken c.station = false := by
    rw [update, taken_act, if_pos rfl, ht]
    rfl
  cases e with
  | listen start timeout =>
    refine ⟨freed, engineCalls_act base _ _, fun measures => ?_⟩
    cases measures
  | request destination start mode peers =>
    refine ⟨?_, ?_, fun _ row own => ?_⟩
    · simp only [endExchange]
      split
      · exact freed
      · next row _ =>
        have known : (base.call (.measured s.unit s.slot row.capacity)).stations[c.station]? =
          some t := ht
        rw [taken_act, if_pos rfl, known]
        rfl
    · simp only [endExchange, Station.closing]
      cases s.ownRow? with
      | none => exact engineCalls_act base _ _
      | some row => exact engineCalls_act (base.call _) _ _
    · obtain ⟨-, s', hs', -, stored⟩ :=
        endExchange_ownRow? ht holds own destination start mode peers
      exact ⟨s', hs', stored⟩

/-- A look at an exchange for which the engine has been asked. -/
theorem lookExchange_engaged (ht : base.stations[c.station]? = some t) (holds : s.Holds t)
    (busy : t.engineBusy = true) (hardware : base.hardware = site.hardware) {e : Exchange}
    (access : c.exchange? = some e ∨ c.exchange? = none ∧ s.engineBusy = false)
    (measurer : e.measurer? c.station = c.measurer?)
    (calls : base.engineCalls = c.opening s e ++ site.engineCalls) :
    Engaged site c s (base.lookExchange c s (!c.hasEngine) e) := by
  simp only [lookExchange, hardware]
  cases answer : Hardware.pollExchange site.hardware s.unit (!c.hasEngine) e with
  | mk polled ended =>
    have known : ({ base with hardware := polled } : Site H).stations[c.station]? = some t := ht
    cases ended with
    | false =>
      refine .goesOn e polled access answer ?_ calls
      rw [taken, known, Option.any_some, busy]
    | true =>
      obtain ⟨status, done⟩ := endExchange_finish known s e
      obtain ⟨free, closed, stored⟩ := endExchange_engine known holds e
      rw [if_pos rfl, done]
      refine .isOver e status polled access answer measurer free ?_ stored
      rw [closed, ← calls]
      rfl

/-- A call that finds the engine free begins its exchange, whatever it has done for it before. -/
theorem beginExchange_engaged (ht : base.stations[c.station]? = some t) (holds : s.Holds t)
    (hardware : base.hardware = site.hardware) (before : Idles site base)
    (without : c.exchange? = none) (free : s.engineBusy = false) {e : Exchange}
    (measurer : e.measurer? c.station = c.measurer?) :
    Engaged site c s (base.beginExchange c s e) := by
  have unasked : c.hasEngine = false := by rw [c.hasEngine_eq, without, Option.isSome_none]
  have takes : s.Holds t.takeEngine :=
    ⟨⟨holds.device, holds.unit, holds.identity, holds.nodeCount⟩, holds.row⟩
  have known : ((base.update c.station Station.takeEngine).call
      (.exchange s.unit e)).stations[c.station]? = some t.takeEngine := stations_update ht _
  have asked : ((base.update c.station Station.takeEngine).call (.exchange s.unit e)).hardware =
      site.hardware := (hardware_act _ _ _).trans hardware
  have calls : ((base.update c.station Station.takeEngine).call (.exchange s.unit e)).engineCalls =
      c.opening s e ++ site.engineCalls := by
    rw [← before.calls, ← engineCalls_act base c.station, Call.opening, unasked]
    rfl
  have looked := lookExchange_engaged known takes rfl asked (Or.inr ⟨without, free⟩) measurer calls
  rw [unasked] at looked
  exact looked

theorem tryRequest_engaged (ht : base.stations[c.station]? = some t) (holds : s.Holds t)
    (hardware : base.hardware = site.hardware) (before : Idles site base)
    (without : c.exchange? = none) (measurer : c.measurer? = some c.station) (mode : Sidedness) :
    Engaged site c s (base.tryRequest c s mode) := by
  cases busy : s.engineBusy with
  | true =>
    rw [tryRequest, busy, if_pos rfl]
    exact .idles without (fun _ => ⟨busy, _, rfl⟩) before ⟨.requestTurn mode, rfl, rfl⟩
  | false =>
    rw [tryRequest, busy, if_neg Bool.false_ne_true]
    exact beginExchange_engaged ht holds hardware before without busy measurer.symm

theorem tryListen_engaged (ht : base.stations[c.station]? = some t) (holds : s.Holds t)
    (hardware : base.hardware = site.hardware) (before : Idles site base)
    (without : c.exchange? = none) (measurer : c.measurer? = none) :
    Engaged site c s (base.tryListen c s) := by
  cases busy : s.engineBusy with
  | true =>
    rw [tryListen, busy, if_pos rfl]
    exact .idles without (fun _ => ⟨busy, _, rfl⟩) before ⟨.listenTurn, rfl, rfl⟩
  | false =>
    have said : Idles base (base.say c.station (.listening (base.listenTimeout s))) :=
      act_idles base _ fun _ => rfl
    rw [tryListen, busy, if_neg Bool.false_ne_true]
    have known : (base.say c.station (.listening (base.listenTimeout s))).stations[c.station]? =
        some t := by
      rw [stations_say, ht]
    exact beginExchange_engaged known holds ((hardware_act _ _ _).trans hardware)
      (before.trans said) without busy measurer.symm

/-- A call that does not range has nothing to do with the engine. -/
theorem Engaged.of_idles {after : Site H × Progress} (without : c.exchange? = none)
    (wants : c.wantsEngine = false) (idles : Idles site after.1)
    (still : after.2.At c fun stage => ({ c with stage } : Call).exchange? = none) :
    Engaged site c s after := by
  refine .idles without (fun wanted => ?_) idles still
  rw [wants] at wanted
  cases wanted

/-- A look at a call, provided that the engine is taken while the call has it. -/
theorem look_engaged (hs : site.stations[c.station]? = some s)
    (held : c.exchange? ≠ none → s.engineBusy = true) : Engaged site c s (site.look c) := by
  have looked : site.look c = site.advance c s := by simp only [look, hs]
  rw [looked]
  cases stage : c.stage with
  | fresh =>
    have without : c.exchange? = none := by simp only [Call.exchange?, stage]
    cases activity : c.activity with
    | request =>
      have counted : Idles site (site.act c.station Station.beginRequest) :=
        act_idles site _ fun _ => rfl
      have holds : s.Holds s.beginRequest.1 := ⟨⟨rfl, rfl, rfl, rfl⟩, rfl⟩
      have known : (site.act c.station Station.beginRequest).stations[c.station]? =
          some s.beginRequest.1 := by
        rw [Did.stations_act, if_pos rfl, hs, Option.map_some]
      simp only [advance, stage, activity]
      exact tryRequest_engaged known holds (hardware_act _ _ _) counted without
        (by simp [Call.measurer?, stage, activity]) _
    | listen =>
      have counted : Idles site (site.update c.station Station.beginListen) :=
        act_idles site _ fun _ => rfl
      have holds : s.Holds s.beginListen := ⟨⟨rfl, rfl, rfl, rfl⟩, rfl⟩
      simp only [advance, stage, activity]
      exact tryListen_engaged (stations_update hs _) holds (hardware_act _ _ _) counted without
        (by simp [Call.measurer?, stage, activity])
    | broadcast =>
      have wants : c.wantsEngine = false := by simp [Call.wantsEngine, stage, activity]
      simp only [advance, stage, activity]
      exact .of_idles without wants (tryBroadcast_idles hs)
        (tryBroadcast_at site s without fun _ => rfl)
    | receive =>
      have wants : c.wantsEngine = false := by simp [Call.wantsEngine, stage, activity]
      simp only [advance, stage, activity]
      exact .of_idles without wants (tryReceive_idles site c s)
        (tryReceive_at site s without fun _ => rfl)
  | requestTurn mode =>
    simp only [advance, stage]
    exact tryRequest_engaged hs (.refl s) rfl (.refl site) (by simp only [Call.exchange?, stage])
      (by simp only [Call.measurer?, stage]) mode
  | listenTurn =>
    simp only [advance, stage]
    exact tryListen_engaged hs (.refl s) rfl (.refl site) (by simp only [Call.exchange?, stage])
      (by simp only [Call.measurer?, stage])
  | exchanging e =>
    have having : c.exchange? = some e := by simp only [Call.exchange?, stage]
    have has : c.hasEngine = true := by rw [c.hasEngine_eq, having, Option.isSome_some]
    have measurer : e.measurer? c.station = c.measurer? := by simp only [Call.measurer?, stage]
    have calls : site.engineCalls = c.opening s e ++ site.engineCalls := by
      rw [Call.opening, has, if_pos rfl, List.nil_append]
    have looks := lookExchange_engaged hs (.refl s) (held (by simp [having])) rfl (Or.inl having)
      measurer calls
    simp only [advance, stage]
    rwa [has] at looks
  | armed =>
    have without : c.exchange? = none := by simp only [Call.exchange?, stage]
    have wants : c.wantsEngine = false := by simp only [Call.wantsEngine, stage]
    simp only [advance, stage]
    exact .of_idles without wants (lookArmed_idles site c s) (lookArmed_at site s without rfl)

end Look

end Site

end RangeSurvey
