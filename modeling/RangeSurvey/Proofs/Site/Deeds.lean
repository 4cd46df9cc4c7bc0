import Mathlib.Logic.Relation
import RangeSurvey.Site.Run

/-!
# What is done at a site

Whatever happens to a site is a chain of deeds: a station does a part of a step, a sink is offered
an event, something is recorded, a station joins, or chains, roster, hardware, queue or tasks
change. What every deed of a chain preserves holds at its end.
-/

namespace RangeSurvey

namespace Station

/-- A part of a step, or something else that a station does by itself. -/
inductive Part where
  | beginRequest
  | takeEngine
  | freeEngine
  | endRequest (reported : PeerSet) (cells : List Distance)
  | beginListen
  | beginBroadcast
  | skipBroadcast (b : Broadcast)
  | failTransmit
  | beginReceive
  | failReceive
  | endWait
  | enterRound (round : UInt32) (role : Role) (deadline : UInt64)
  | configure (config : Configuration)
  | suspend
  | say (notice : StationNotice)

namespace Part

def run (s : Station) : Part → Station × List StationNotice
  | beginRequest => s.beginRequest
  | takeEngine => (s.takeEngine, [])
  | freeEngine => (s.freeEngine, [])
  | endRequest reported cells => s.endRequest reported cells
  | beginListen => (s.beginListen, [])
  | beginBroadcast => (s.beginBroadcast.1, [])
  | skipBroadcast b => s.skipBroadcast b
  | failTransmit => s.failTransmit
  | beginReceive => (s.beginReceive, [])
  | failReceive => s.failReceive
  | endWait => (s.endWait, [])
  | enterRound round role deadline =>
    (s.enterRound (roundNumber round s.config.roundShift), [.slotPart round role deadline])
  | configure config => (s.configure config, [])
  | suspend => (s.suspend, [])
  | say notice => (s, [notice])

def takes : Part → Bool
  | beginBroadcast | beginReceive => true
  | _ => false

def measures : Part → Bool
  | endRequest .. => true
  | _ => false

def enters : Part → Bool
  | enterRound .. => true
  | _ => false

def isOfStep : Part → Bool
  | configure _ | suspend | say _ => false
  | _ => true

/-- The parts of a step that neither take a token nor store a measurement nor begin a slot. -/
def isCalm (p : Part) : Bool := p.isOfStep && !p.takes && !p.measures && !p.enters

end Part

end Station

def HardwareCall.isArming : HardwareCall → Bool
  | armTransmit .. | armReceive .. => true
  | _ => false

def HardwareCall.isWriting : HardwareCall → Bool
  | write .. => true
  | _ => false

def HardwareCall.unit : HardwareCall → Nat
  | write unit .. | control unit .. | armTransmit unit _ | armReceive unit .. | register unit _
  | remove unit _ | exchange unit _ | measured unit .. => unit

/-- An entry that tells neither of a radio that is armed nor of what a station did or heard. -/
def Entry.isPlain : Entry → Bool
  | called c => !c.isArming
  | offered .. | reported .. => false
  | _ => true

/-- A broadcast or a receive that has not begun, so that it waits for the token. -/
def Call.isGated (c : Call) : Bool :=
  c.stage == .fresh && (c.activity == .broadcast || c.activity == .receive)

/-- The station for which an exchange of station `id` measures: only a request does. -/
def Exchange.measurer? (id : Nat) : Exchange → Option Nat
  | request .. => some id
  | listen .. => none

def Call.measurer? (c : Call) : Option Nat :=
  match c.stage with
  | .fresh => if c.activity = .request then some c.station else none
  | .requestTurn _ => some c.station
  | .exchanging e => e.measurer? c.station
  | _ => none

def Action.isOutside {H : Type} : Action H → Bool
  | start .. | poll _ | cancel _ => false
  | _ => true

def Call.hasEngine (c : Call) : Bool :=
  match c.stage with
  | .exchanging _ => true
  | _ => false

namespace Site

/-- The kinds of deeds. -/
inductive Deed where
  | part (id : Nat) (p : Station.Part)
  | offer (sink : Sink) (event : RadioEvent)
  /-- Station `id` arms its radio. -/
  | arm (id : Nat) (c : HardwareCall)
  | record (e : Entry)
  | join (s : Station)
  /-- Chains or roster change. -/
  | rewire
  /-- Hardware or queue change. -/
  | setting
  /-- The list of tasks changes. -/
  | tasking

namespace Deed

def taker? : Deed → Option Nat
  | part id p => if p.takes then some id else none
  | _ => none

def measurer? : Deed → Option Nat
  | part id p => if p.measures then some id else none
  | _ => none

def actor? : Deed → Option Nat
  | part id p => if p.isOfStep then some id else none
  | arm id _ => some id
  | _ => none

def isSetup : Deed → Bool
  | part _ (.configure _) | part _ .suspend | join _ | rewire => true
  | _ => false

inductive Outside : Deed → Prop where
  | configure (id : Nat) (config : Configuration) : Outside (.part id (.configure config))
  | suspend (id : Nat) : Outside (.part id .suspend)
  | offer (sink : Sink) (event : RadioEvent) : Outside (.offer sink event)
  | register (unit id : Nat) : Outside (.record (.called (.register unit id)))
  | remove (unit id : Nat) : Outside (.record (.called (.remove unit id)))
  | notice (notice : Notice) : Outside (.record (.noticed notice))
  | collect (note : Completion) : Outside (.record (.collected note))
  | join (s : Station) : Outside (.join s)
  | rewire : Outside .rewire
  | setting : Outside .setting

/-- The deeds that neither let a step go on nor set a station up or tear it down. -/
structure Aside (d : Deed) : Prop where
  outside : d.Outside
  setup : d.isSetup = false

/-- The deeds that leave the list of tasks alone, set no station up and tear none down, let no step
go on but one of station `actor`, if there is such a station, take no token but that of station
`taker`, and store no measurement but for station `measurer`. -/
structure Within (actor taker measurer : Option Nat) (d : Deed) : Prop where
  tasks : d ≠ .tasking
  setup : d.isSetup = false
  actor : d.actor? = none ∨ d.actor? = actor
  token : d.taker? = none ∨ d.taker? = taker
  measure : d.measurer? = none ∨ d.measurer? = measurer

theorem Outside.taker? {d : Deed} (h : d.Outside) : d.taker? = none := by
  cases h <;> rfl

theorem Outside.actor? {d : Deed} (h : d.Outside) : d.actor? = none := by
  cases h <;> rfl

theorem Outside.measurer? {d : Deed} (h : d.Outside) : d.measurer? = none := by
  cases h <;> rfl

/-- A part of a step sets nothing up. -/
theorem isSetup_part {p : Station.Part} (step : p.isOfStep = true) (id : Nat) :
    (part id p).isSetup = false := by
  cases p with
  | configure config => cases step
  | suspend => cases step
  | say notice => cases step
  | _ => rfl

theorem Outside.tasks {d : Deed} (h : d.Outside) : d ≠ .tasking := by
  rintro rfl
  cases h

theorem Aside.within {d : Deed} (h : d.Aside) (actor taker measurer : Option Nat) :
    d.Within actor taker measurer :=
  ⟨h.outside.tasks, h.setup, Or.inl h.outside.actor?, Or.inl h.outside.taker?,
    Or.inl h.outside.measurer?⟩

/-- What a deed may make of station `id`. -/
inductive Moves (id : Nat) : Deed → Station → Station → Prop where
  | still (d : Deed) (s : Station) : Moves id d s s
  | part (p : Station.Part) (s : Station) : Moves id (.part id p) s (p.run s).1
  | hear (event : RadioEvent) (s : Station) :
      Moves id (.offer (.station id) event) s (s.hear event).station

end Deed

variable {H : Type}

def token? (site : Site H) (c : Call) : Option Nat :=
  (site.stations[c.station]?).bind fun s =>
    if c.isGated && s.isIdle then some c.station else none

def turn [Hardware H] (site : Site H) : Task → Option (Site H × Call)
  | .call c => some (site, c)
  | .slot job => (site.enter job).2.map fun c => ((site.enter job).1, c)

def taker? [Hardware H] (site : Site H) (k : Nat) : Option Nat :=
  ((site.task? k).bind site.turn).bind fun t => t.1.token? t.2

def measurer? [Hardware H] (site : Site H) (k : Nat) : Option Nat :=
  ((site.task? k).bind site.turn).bind fun t => t.2.measurer?

def actor? [Hardware H] (site : Site H) : Action H → Option Nat
  | .poll k => ((site.task? k).bind site.turn).map fun t => t.2.station
  | .cancel k =>
    match site.task? k with
    | some (.call c) => if c.hasEngine then some c.station else none
    | _ => none
  | _ => none

/-- From one site to another by a deed of some kind. -/
inductive Did : Deed → Site H → Site H → Prop where
  | part (site : Site H) (id : Nat) (p : Station.Part) :
      Did (.part id p) site (site.act id p.run)
  | offer (site : Site H) (sink : Sink) (event : RadioEvent) :
      Did (.offer sink event) site (Site.offer event sink site).1
  | arm (site : Site H) {id : Nat} {s : Station} {c : HardwareCall} :
      site.stations[id]? = some s → c.isArming = true → c.unit = s.unit →
      Did (.arm id c) site (site.call c)
  | record (site : Site H) {e : Entry} : e.isPlain = true → Did (.record e) site (site.record e)
  | join (site : Site H) {e : Enrolment} {ownsStorage : Bool} {s : Station} :
      Station.build e ownsStorage = .ok s → Did (.join s) site (site.addStation s)
  | rewire {before after : Site H} : after.stations = before.stations →
      after.trace = before.trace → after.tasks = before.tasks → Did .rewire before after
  | setting {before after : Site H} : after.stations = before.stations →
      after.trace = before.trace → after.tasks = before.tasks → after.chain = before.chain →
      after.roster = before.roster → Did .setting before after
  | tasking {before after : Site H} : after.stations = before.stations →
      after.trace = before.trace → after.chain = before.chain → after.roster = before.roster →
      Did .tasking before after

/-- From one site to another by a chain of deeds of the kinds `ok`. -/
def Does (ok : Deed → Prop) : Site H → Site H → Prop :=
  Relation.ReflTransGen fun before after => ∃ d, ok d ∧ Did d before after

/-- The second site may be passed on the way from the first, after an action or in the middle of
one. -/
def Passes : Site H → Site H → Prop := Does fun _ => True

namespace Did

variable {d : Deed} {a b : Site H} {id : Nat} {s : Station}

theorem stations_act (site : Site H) (id other : Nat)
    (f : Station → Station × List StationNotice) : (site.act id f).stations[other]? =
      if id = other then site.stations[id]?.map fun s => (f s).1 else site.stations[other]? := by
  by_cases h : id = other
  · subst h
    rw [if_pos rfl]
    exact station?_act_self site id f
  · rw [if_neg h]
    exact station?_act_of_ne site f h

theorem stations_offer (site : Site H) (event : RadioEvent) (id other : Nat) :
    (Site.offer event (.station id) site).1.stations[other]? =
      if id = other then site.stations[id]?.map fun s => (s.hear event).station
      else site.stations[other]? := by
  cases hs : site.stations[id]? with
  | none =>
    simp only [Site.offer, hs, Option.map_none]
    split
    · next h => rw [← h, hs]
    · rfl
  | some s =>
    simp only [Site.offer, hs]
    rw [← hs]
    have here := stations_act site id other fun _ =>
      ((s.hear event).station, (s.hear event).notices)
    simp only [hs, Option.map_some] at here ⊢
    exact here

/-- A station stays where it is, and at most one of them is moved. -/
theorem station (did : Did d a b) (hs : a.stations[id]? = some s) :
    ∃ s', b.stations[id]? = some s' ∧ d.Moves id s s' := by
  cases did with
  | part _ other p =>
    rw [stations_act]
    split
    · next h =>
      subst h
      exact ⟨(p.run s).1, by rw [hs, Option.map_some], .part p s⟩
    · exact ⟨s, hs, .still _ s⟩
  | offer _ sink event =>
    cases sink with
    | recorder label verdict => exact ⟨s, hs, .still _ s⟩
    | station other =>
      rw [stations_offer]
      split
      · next h =>
        subst h
        exact ⟨(s.hear event).station, by rw [hs, Option.map_some], .hear event s⟩
      · exact ⟨s, hs, .still _ s⟩
  | arm => exact ⟨s, hs, .still _ s⟩
  | record => exact ⟨s, hs, .still _ s⟩
  | join built =>
    have known : id < a.stations.length := (List.getElem?_eq_some_iff.mp hs).1
    exact ⟨s, (List.getElem?_append_left known).trans hs, .still _ s⟩
  | rewire stations => exact ⟨s, by rw [stations, hs], .still _ s⟩
  | setting stations => exact ⟨s, by rw [stations, hs], .still _ s⟩
  | tasking stations => exact ⟨s, by rw [stations, hs], .still _ s⟩

/-- As many stations as before, unless one has joined. -/
theorem stations_length (did : Did d a b) :
    b.stations.length = a.stations.length ∨ ∃ e ownsStorage s, d = .join s ∧
      Station.build e ownsStorage = .ok s ∧ b.stations = a.stations ++ [s] := by
  have length_act (id : Nat) (f : Station → Station × List StationNotice) :
      (a.act id f).stations.length = a.stations.length := by
    simp only [act]
    split
    · rfl
    · exact List.length_set
  cases did with
  | part _ id p => exact Or.inl (length_act id p.run)
  | offer _ sink event =>
    left
    cases sink with
    | recorder label verdict => rfl
    | station id =>
      simp only [Site.offer]
      split
      · rfl
      · exact length_act id _
  | arm => exact Or.inl rfl
  | record => exact Or.inl rfl
  | @join _ e ownsStorage s built => exact Or.inr ⟨e, ownsStorage, s, rfl, built, rfl⟩
  | rewire stations => exact Or.inl (congrArg List.length stations)
  | setting stations => exact Or.inl (congrArg List.length stations)
  | tasking stations => exact Or.inl (congrArg List.length stations)

/-- Nothing is taken off the record. -/
theorem record_grows (did : Did d a b) : a.trace <:+ b.trace := by
  have acted (id : Nat) (f : Station → Station × List StationNotice) :
      a.trace <:+ (a.act id f).trace := by
    simp only [act]
    split
    · exact List.suffix_rfl
    · exact List.suffix_append _ _
  cases did with
  | part _ id p => exact acted id p.run
  | offer _ sink event =>
    cases sink with
    | recorder label verdict => exact List.suffix_cons _ _
    | station id =>
      simp only [Site.offer]
      split
      · exact List.suffix_rfl
      · exact (acted id _).trans (List.suffix_cons _ _)
  | arm => exact List.suffix_cons _ _
  | record => exact List.suffix_cons _ _
  | join => exact List.suffix_rfl
  | rewire _ trace => exact trace ▸ List.suffix_rfl
  | setting _ trace => exact trace ▸ List.suffix_rfl
  | tasking _ trace => exact trace ▸ List.suffix_rfl

/-- A station was there before, unless it has just been made. -/
theorem known (did : Did d a b) {s' : Station} (hs' : b.stations[id]? = some s') :
    (∃ s, a.stations[id]? = some s) ∨
      ∃ e ownsStorage, Station.build e ownsStorage = .ok s' := by
  have inside := (List.getElem?_eq_some_iff.mp hs').1
  rcases did.stations_length with same | ⟨e, ownsStorage, s, -, built, joined⟩
  · exact Or.inl ⟨_, List.getElem?_eq_getElem (same ▸ inside)⟩
  · rcases Nat.lt_or_ge id a.stations.length with old | new
    · exact Or.inl ⟨_, List.getElem?_eq_getElem old⟩
    · right
      rw [joined, List.getElem?_append_right new, List.getElem?_singleton] at hs'
      split at hs'
      · obtain rfl := Option.some.inj hs'
        exact ⟨e, ownsStorage, built⟩
      · cases hs'

end Did

namespace Does

variable {ok ok' : Deed → Prop} {a b c : Site H}

theorem refl (ok : Deed → Prop) (site : Site H) : Does ok site site := Relation.ReflTransGen.refl

theorem trans (hab : Does ok a b) (hbc : Does ok b c) : Does ok a c :=
  Relation.ReflTransGen.trans hab hbc

theorem single {d : Deed} (h : Did d a b) (hd : ok d) : Does ok a b :=
  Relation.ReflTransGen.single ⟨d, hd, h⟩

theorem mono (h : Does ok a b) (le : ∀ d, ok d → ok' d) : Does ok' a b :=
  Relation.ReflTransGen.mono (fun _ _ ⟨d, hd, did⟩ => ⟨d, le d hd, did⟩) _ _ h

theorem passes (h : Does ok a b) : a.Passes b := h.mono fun _ _ => trivial

/-- What every deed of a chain preserves holds at its end. -/
theorem keeps {P : Site H → Prop} (h : Does ok a b)
    (step : ∀ d a b, ok d → Did d a b → P a → P b) (ha : P a) : P b := by
  induction h with
  | refl => exact ha
  | tail _ last ih =>
    obtain ⟨d, hd, did⟩ := last
    exact step d _ _ hd did ih

/-- Nothing is ever taken off the record. -/
theorem record_grows (h : Does ok a b) : a.trace <:+ b.trace := by
  refine h.keeps (P := fun site => a.trace <:+ site.trace) ?_ List.suffix_rfl
  intro d x y _ did grows
  exact grows.trans did.record_grows

/-- What holds of every station that joins, and is kept by everything that a station does or hears,
holds of all stations. -/
theorem stations {P : Station → Prop} (h : Does ok a b)
    (join : ∀ e ownsStorage s, Station.build e ownsStorage = .ok s → P s)
    (moves : ∀ (d : Deed) (id : Nat) (s s' : Station), d.Moves id s s' → P s → P s')
    (before : ∀ (id : Nat) (s : Station), a.stations[id]? = some s → P s) :
    ∀ (id : Nat) (s : Station), b.stations[id]? = some s → P s := by
  refine h.keeps (P := fun site => ∀ (id : Nat) (s : Station), site.stations[id]? = some s → P s)
    ?_ before
  intro d a b _ did before id s' hs'
  rcases did.known hs' with ⟨s, hs⟩ | ⟨e, ownsStorage, built⟩
  · obtain ⟨s'', hs'', moved⟩ := did.station hs
    obtain rfl := Option.some.inj (hs'.symm.trans hs'')
    exact moves d id s s' moved (before id s hs)
  · exact join e ownsStorage s' built

/-- A station remains, with what everything that it does or hears keeps. -/
theorem station {P : Station → Prop} {id : Nat} {s : Station} (h : Does ok a b)
    (moves : ∀ (d : Deed) (s s' : Station), ok d → d.Moves id s s' → P s → P s')
    (hs : a.stations[id]? = some s) (before : P s) :
    ∃ s', b.stations[id]? = some s' ∧ P s' := by
  refine h.keeps (P := fun site => ∃ s', site.stations[id]? = some s' ∧ P s') ?_ ⟨s, hs, before⟩
  rintro d a b hd did ⟨s, hs, holds⟩
  obtain ⟨s', hs', moved⟩ := did.station hs
  exact ⟨s', hs', moves d s s' hd moved holds⟩

/-- No station is ever taken away. -/
theorem remains {id : Nat} {s : Station} (h : Does ok a b) (hs : a.stations[id]? = some s) :
    ∃ s', b.stations[id]? = some s' := by
  obtain ⟨s', hs', -⟩ := h.station (P := fun _ => True) (fun _ _ _ _ _ there => there) hs trivial
  exact ⟨s', hs'⟩

/-- Only what is done to the tasks changes the tasks. -/
theorem tasks (h : Does ok a b) (leaves : ∀ d, ok d → d ≠ .tasking) : b.tasks = a.tasks := by
  refine h.keeps (P := fun site => site.tasks = a.tasks) ?_ rfl
  intro d before after hd did same
  cases did with
  | part _ id p =>
    rw [act_eq]
    exact same
  | offer _ sink event =>
    rw [offer_eq]
    exact same
  | arm => exact same
  | record => exact same
  | join => exact same
  | rewire _ _ tasks => exact tasks.trans same
  | setting _ _ tasks => exact tasks.trans same
  | tasking => exact absurd rfl (leaves _ hd)

/-- Where nothing is set up and nothing torn down, chains and roster stay as they are. -/
theorem wiring (h : Does ok a b) (leaves : ∀ d, ok d → d.isSetup = false) :
    b.chain = a.chain ∧ b.roster = a.roster := by
  refine h.keeps (P := fun site => site.chain = a.chain ∧ site.roster = a.roster) ?_ ⟨rfl, rfl⟩
  rintro d before after hd did ⟨chain, roster⟩
  cases did with
  | part _ id p =>
    rw [act_eq]
    exact ⟨chain, roster⟩
  | offer _ sink event =>
    rw [offer_eq]
    exact ⟨chain, roster⟩
  | arm => exact ⟨chain, roster⟩
  | record => exact ⟨chain, roster⟩
  | join => exact ⟨chain, roster⟩
  | rewire => cases leaves _ hd
  | setting _ _ _ chain' roster' => exact ⟨chain'.trans chain, roster'.trans roster⟩
  | tasking _ _ chain' roster' => exact ⟨chain'.trans chain, roster'.trans roster⟩

theorem length (h : Does ok a b) (leaves : ∀ d, ok d → d.isSetup = false) :
    b.stations.length = a.stations.length := by
  refine h.keeps (P := fun site => site.stations.length = a.stations.length) ?_ rfl
  intro d before after hd did same
  rcases did.stations_length with kept | ⟨_, _, s, rfl, -⟩
  · exact kept.trans same
  · cases leaves _ hd

end Does

end Site

end RangeSurvey
