import RangeSurvey.Proofs.Site.Runs
import RangeSurvey.Proofs.Station.Sound

/-!
# Waits

A station that has armed its radio holds the token until an event puts it back. Up to its
configuration and to what it counts while nobody waits it stays as it is until that event, and
stays as the event has left it afterwards, as long as no step of the station goes on. The record
tells which event that was.
-/

namespace RangeSurvey

namespace Station

/-- The same station but for its configuration and the frames that nobody waited for. -/
def Alike (s s' : Station) : Prop :=
  ∃ config ready unsolicited, s' = { s with
    config
    status := { s.status with ready }
    counters := { s.counters with unsolicited } }

namespace Alike

theorem refl (s : Station) : s.Alike s := ⟨s.config, s.status.ready, s.counters.unsolicited, rfl⟩

theorem trans {a b c : Station} (hab : a.Alike b) (hbc : b.Alike c) : a.Alike c := by
  obtain ⟨_, _, _, rfl⟩ := hab
  obtain ⟨config, ready, unsolicited, rfl⟩ := hbc
  exact ⟨config, ready, unsolicited, rfl⟩

theorem latch {s s' : Station} (h : s.Alike s') : s'.latch = s.latch := by
  obtain ⟨_, _, _, rfl⟩ := h
  rfl

theorem table {s s' : Station} (h : s.Alike s') : s'.table = s.table := by
  obtain ⟨_, _, _, rfl⟩ := h
  rfl

theorem unit {s s' : Station} (h : s.Alike s') : s'.unit = s.unit := by
  obtain ⟨_, _, _, rfl⟩ := h
  rfl

theorem succeeded {s s' : Station} (h : s.Alike s') :
    s'.status.succeeded = s.status.succeeded := by
  obtain ⟨_, _, _, rfl⟩ := h
  rfl

/-- A part that belongs to no step. -/
theorem run (s : Station) {p : Part} (h : p.isOfStep = false) : s.Alike (p.run s).1 := by
  cases p with
  | configure config => exact ⟨config, true, s.counters.unsolicited, rfl⟩
  | suspend => exact ⟨s.config, false, s.counters.unsolicited, rfl⟩
  | say notice => exact refl s
  | _ => cases h

end Alike

/-- An event without effect leaves a waiting station as it is. -/
theorem hear_held {s : Station} {event : RadioEvent} (held : s.latch = .held)
    (still : (s.hear event).station.latch = .held) :
    (s.hear event).station = s ∧ (s.hear event).verdict ≠ .handled := by
  cases event with
  | received bytes =>
    simp only [hear, hearFrame, hearSurveyFrame] at still ⊢
    repeat' split
    all_goals simp_all [store, isIdle, Latch.isAvailable]
  | sent => simp [hear, hearSent, held, Latch.putBack] at still
  | timedOut => simp [hear, hearTimeout, held, Latch.putBack] at still
  | reset => simp [hear, hearReset, held, Latch.putBack] at still

/-- A station that does not wait takes no event for its own. -/
theorem hear_available {s : Station} (available : s.latch = .available) (event : RadioEvent) :
    s.Alike (s.hear event).station ∧ (s.hear event).verdict ≠ .handled := by
  cases event with
  | received bytes =>
    have idle : s.isIdle = true := by simp [isIdle, Latch.isAvailable, available]
    simp only [hear, hearFrame, idle, if_true]
    split
    · exact ⟨.refl s, by simp⟩
    · exact ⟨⟨s.config, s.status.ready, s.counters.unsolicited + 1, rfl⟩, by simp⟩
  | sent => simp [hear, hearSent, available, Latch.putBack, Alike.refl]
  | timedOut => simp [hear, hearTimeout, available, Latch.putBack, Alike.refl]
  | reset => simp [hear, hearReset, available, Latch.putBack, Alike.refl]

end Station

def Entry.handled? (id : Nat) : Entry → Option RadioEvent
  | offered (.station i) event .handled => if i = id then some event else none
  | _ => none

def Entry.heard? (id : Nat) : Entry → Option (RadioEvent × Verdict)
  | offered (.station i) event verdict => if i = id then some (event, verdict) else none
  | _ => none

def Entry.armedFor? (unit : Nat) : Entry → Option Activity
  | called (.armTransmit u _) => if u = unit then some .broadcast else none
  | called (.armReceive u _ _) => if u = unit then some .receive else none
  | _ => none

namespace Station

inductive Takes (s : Station) : Station → List (RadioEvent × Verdict) → Prop where
  | still {s' : Station} : s.Alike s' → Takes s s' []
  | hear (event : RadioEvent) :
      Takes s (s.hear event).station [(event, (s.hear event).verdict)]

/-- What an event at station `id` makes of it and adds to the record. -/
def Hears (id : Nat) (s s' : Station) (added : List Entry) : Prop :=
  ∃ event, s' = (s.hear event).station ∧ added.filterMap (Entry.handled? id) =
    if (s.hear event).verdict = .handled then [event] else []

/-- Station `id`, which was `a` and held the token when its radio was armed, and what the record
tells since: nothing has ended the wait, or one event has, and no other event was its own. -/
inductive Waited (id : Nat) (a : Station) (s : Station) (news : List Entry) : Prop where
  | pending : a.Alike s → news.filterMap (Entry.handled? id) = [] → Waited id a s news
  | ended {before : Station} {event : RadioEvent} : a.Alike before →
      (before.hear event).station.latch = .available → (before.hear event).station.Alike s →
      (news.filterMap (Entry.handled? id) =
        if (before.hear event).verdict = .handled then [event] else []) → Waited id a s news

namespace Waited

variable {id : Nat} {a s s' : Station} {news added : List Entry}

theorem alike (h : Waited id a s news) (same : s.Alike s')
    (silent : added.filterMap (Entry.handled? id) = []) : Waited id a s' (added ++ news) := by
  cases h with
  | pending like none =>
    refine .pending (like.trans same) ?_
    rw [List.filterMap_append, silent, none, List.nil_append]
  | ended like ends since one =>
    refine .ended like ends (since.trans same) ?_
    rw [List.filterMap_append, silent, List.nil_append, one]

/-- The first event with an effect ends the wait, and no later one has any. -/
theorem hears (held : a.latch = .held) (h : Waited id a s news) (heard : s.Hears id s' added) :
    Waited id a s' (added ++ news) := by
  obtain ⟨event, rfl, told⟩ := heard
  have unheard (verdict : (s.hear event).verdict ≠ .handled) :
      added.filterMap (Entry.handled? id) = [] := by rw [told, if_neg verdict]
  cases h with
  | pending like none =>
    cases after : (s.hear event).station.latch with
    | held =>
      obtain ⟨same, verdict⟩ := hear_held (like.latch.trans held) after
      rw [same]
      exact (Waited.pending like none).alike (.refl s) (unheard verdict)
    | available =>
      refine .ended like after (.refl _) ?_
      rw [List.filterMap_append, told, none, List.append_nil]
  | ended like ends since one =>
    obtain ⟨same, verdict⟩ := hear_available (since.latch.trans ends) event
    exact (Waited.ended like ends since one).alike same (unheard verdict)

end Waited

end Station

namespace Site

variable {H : Type}

def Deed.Spares (id : Nat) (d : Deed) : Prop := d.actor? ≠ some id

/-- Station `id` has its radio for itself. -/
def alone (site : Site H) (id : Nat) : Prop :=
  ∀ s : Station, site.stations[id]? = some s →
    ∀ (j : Nat) (t : Station), site.stations[j]? = some t → t.unit = s.unit → j = id

/-- Since the record stood at `base`, when station `id` was `a` and its radio was armed, the station
has waited, and its radio has not been armed again. -/
def Waits (site : Site H) (id : Nat) (a : Station) (base : List Entry) : Prop :=
  ∃ s news, site.stations[id]? = some s ∧ site.trace = news ++ base ∧ a.Waited id s news ∧
    s.unit = a.unit ∧ ∀ e ∈ news, e.armedFor? a.unit = none

/-- Of all that a station has heard, it has taken for its own what it has handled. -/
theorem filterMap_handled? (id : Nat) (entries : List Entry) :
    entries.filterMap (Entry.handled? id) = (entries.filterMap (Entry.heard? id)).filterMap
      fun heard => if heard.2 = .handled then some heard.1 else none := by
  rw [List.filterMap_filterMap]
  apply List.filterMap_congr
  intro e _
  cases e with
  | offered sink event verdict =>
    cases sink with
    | recorder => rfl
    | station i =>
      by_cases own : i = id
      · cases verdict <;> simp [Entry.handled?, Entry.heard?, own]
      · cases verdict <;> simp [Entry.handled?, Entry.heard?, own]
  | _ => rfl

theorem heard?_offered (id i : Nat) (event : RadioEvent) (verdict : Verdict) :
    (Entry.offered (.station i) event verdict).heard? id =
      if i = id then some (event, verdict) else none := rfl

theorem heard?_reported (id j slot : Nat) (notices : List StationNotice) :
    (notices.map fun n => Entry.reported j slot n).reverse.filterMap (Entry.heard? id) = [] := by
  rw [List.filterMap_eq_nil_iff]
  intro e he
  obtain ⟨n, -, rfl⟩ := List.mem_map.mp (List.mem_reverse.mp he)
  rfl

theorem armedFor?_reported (unit j slot : Nat) (notices : List StationNotice) :
    ∀ e ∈ (notices.map fun n => Entry.reported j slot n).reverse, e.armedFor? unit = none := by
  intro e he
  obtain ⟨n, -, rfl⟩ := List.mem_map.mp (List.mem_reverse.mp he)
  rfl

/-- On the way to `site'` station `id`, which was `s`, stays alike or hears an event, and if it has
its radio for itself, then the radio is not armed. -/
def Told (site site' : Site H) (id : Nat) (s : Station) : Prop :=
  ∃ s' added, site'.stations[id]? = some s' ∧ site'.trace = added ++ site.trace ∧
    s.Takes s' (added.filterMap (Entry.heard? id)) ∧
    (site.alone id → ∀ e ∈ added, e.armedFor? s.unit = none)

def Spared (site site' : Site H) (id : Nat) (s : Station) : Prop :=
  ∃ s' added, site'.stations[id]? = some s' ∧ site'.trace = added ++ site.trace ∧
    (s.Alike s' ∧ added.filterMap (Entry.handled? id) = [] ∨ s.Hears id s' added) ∧
    ∀ e ∈ added, e.armedFor? s.unit = none

section Told

variable {site site' : Site H} {id : Nat} {s : Station}

theorem Told.of_eq (hs : site.stations[id]? = some s)
    (stations : site'.stations = site.stations) (trace : site'.trace = site.trace) :
    Told site site' id s :=
  ⟨s, [], by rw [stations, hs], trace, .still (.refl s), fun _ => List.forall_mem_nil _⟩

/-- One more entry on record, which tells nothing of what the station has heard. -/
theorem Told.record (hs : site.stations[id]? = some s) {e : Entry} (unheard : e.heard? id = none)
    (unarmed : site.alone id → e.armedFor? s.unit = none) : Told site (site.record e) id s := by
  refine ⟨s, [e], hs, rfl, ?_, fun alone => by simpa using unarmed alone⟩
  rw [List.filterMap_cons_none unheard]
  exact .still (.refl s)

theorem Told.part (hs : site.stations[id]? = some s) {j : Nat} {p : Station.Part}
    (spares : (Deed.part j p).Spares id) : Told site (site.act j p.run) id s := by
  cases there : site.stations[j]? with
  | none => exact .of_eq hs (by rw [act_none p.run there]) (by rw [act_none p.run there])
  | some t =>
    rw [act_some p.run there]
    by_cases h : j = id
    · subst h
      obtain rfl := Option.some.inj (hs.symm.trans there)
      have idle : p.isOfStep = false := by
        cases ofStep : p.isOfStep with
        | false => rfl
        | true => exact absurd (if_pos ofStep) spares
      have inside := (List.getElem?_eq_some_iff.mp hs).1
      refine ⟨(p.run s).1, _, List.getElem?_set_self inside, rfl, ?_,
        fun _ => armedFor?_reported _ _ _ _⟩
      rw [heard?_reported]
      exact .still (.run s idle)
    · refine ⟨s, _, (List.getElem?_set_ne h).trans hs, rfl, ?_, fun _ => armedFor?_reported _ _ _ _⟩
      rw [heard?_reported]
      exact .still (.refl s)

theorem Told.offer (hs : site.stations[id]? = some s) (event : RadioEvent) (sink : Sink) :
    Told site (Site.offer event sink site).1 id s := by
  cases sink with
  | recorder label verdict => exact .record hs rfl fun _ => rfl
  | station j =>
    cases there : site.stations[j]? with
    | none => exact .of_eq hs (by simp only [Site.offer, there]) (by simp only [Site.offer, there])
    | some t =>
      have offered : (Site.offer event (.station j) site).1 =
          (site.act j fun _ => ((t.hear event).station, (t.hear event).notices)).record
            (.offered (.station j) event (t.hear event).verdict) := by
        simp only [Site.offer, there]
      rw [offered, act_some _ there]
      have unarmed : ∀ e ∈ Entry.offered (.station j) event (t.hear event).verdict ::
          ((t.hear event).notices.map fun n => Entry.reported j t.slot n).reverse,
          e.armedFor? s.unit = none := by
        intro e he
        rcases List.mem_cons.mp he with rfl | he
        · rfl
        · exact armedFor?_reported _ _ _ _ e he
      by_cases h : j = id
      · subst h
        obtain rfl := Option.some.inj (hs.symm.trans there)
        have inside := (List.getElem?_eq_some_iff.mp hs).1
        refine ⟨(s.hear event).station, _, List.getElem?_set_self inside, rfl, ?_, fun _ => unarmed⟩
        rw [List.filterMap_cons, heard?_offered, if_pos rfl, heard?_reported]
        exact .hear event
      · refine ⟨s, _, (List.getElem?_set_ne h).trans hs, rfl, ?_, fun _ => unarmed⟩
        rw [List.filterMap_cons, heard?_offered, if_neg h, heard?_reported]
        exact .still (.refl s)

/-- A plain entry tells neither what a station has heard nor of a radio that is armed. -/
theorem plain_silent {e : Entry} (plain : e.isPlain = true) (id unit : Nat) :
    e.heard? id = none ∧ e.armedFor? unit = none := by
  cases e with
  | offered => cases plain
  | called c =>
    cases c with
    | armTransmit u start => cases plain
    | armReceive u timeout start => cases plain
    | _ => exact ⟨rfl, rfl⟩
  | _ => exact ⟨rfl, rfl⟩

theorem armedFor?_of_ne {c : HardwareCall} {unit : Nat} (elsewhere : c.unit ≠ unit) :
    (Entry.called c).armedFor? unit = none := by
  cases c with
  | armTransmit u start => simpa [Entry.armedFor?, HardwareCall.unit] using elsewhere
  | armReceive u timeout start => simpa [Entry.armedFor?, HardwareCall.unit] using elsewhere
  | _ => rfl

/-- By a deed that lets no step of station `id` go on the station stays alike or hears an event. -/
theorem Did.told {d : Deed} (did : Did d site site') (spares : d.Spares id)
    (hs : site.stations[id]? = some s) : Told site site' id s := by
  cases did with
  | part _ j p => exact .part hs spares
  | offer _ sink event => exact .offer hs event sink
  | @arm _ j t c there arming unit =>
    refine .record hs rfl fun alone => armedFor?_of_ne ?_
    intro shared
    exact spares (congrArg some (alone s hs j t there (unit.symm.trans shared)))
  | record _ plain =>
    obtain ⟨unheard, unarmed⟩ := plain_silent plain id s.unit
    exact .record hs unheard fun _ => unarmed
  | join =>
    have known : id < site.stations.length := (List.getElem?_eq_some_iff.mp hs).1
    exact ⟨s, [], (List.getElem?_append_left known).trans hs, rfl, .still (.refl s),
      fun _ => List.forall_mem_nil _⟩
  | rewire stations trace => exact .of_eq hs stations trace
  | setting stations trace => exact .of_eq hs stations trace
  | tasking stations trace => exact .of_eq hs stations trace

/-- A deed that lets no step of station `id` go on spares it, if it has its radio for itself. -/
theorem Did.spared {d : Deed} (did : Did d site site') (spares : d.Spares id)
    (hs : site.stations[id]? = some s) (alone : site.alone id) : Spared site site' id s := by
  obtain ⟨s', added, hs', trace, takes, unarmed⟩ := did.told spares hs
  refine ⟨s', added, hs', trace, ?_, unarmed alone⟩
  rw [Station.Hears, filterMap_handled?]
  generalize added.filterMap (Entry.heard? id) = heard at takes
  cases takes with
  | still like => exact Or.inl ⟨like, rfl⟩
  | hear event =>
    refine Or.inr ⟨event, rfl, ?_⟩
    by_cases own : (s.hear event).verdict = .handled <;> simp [own]

end Told

theorem Did.station_unit {d : Deed} {x y : Site H} {id : Nat} {s : Station} (did : Did d x y)
    (hs : x.stations[id]? = some s) : ∃ s', y.stations[id]? = some s' ∧ s'.unit = s.unit := by
  obtain ⟨s', hs', moved⟩ := did.station hs
  exact ⟨s', hs', (Station.stays_of_moves moved).unit⟩

/-- A station that has its radio for itself has always had it so. -/
theorem Did.alone {d : Deed} {x y : Site H} {id : Nat} (did : Did d x y) (alone : y.alone id) :
    x.alone id := by
  intro s hs j t ht shared
  obtain ⟨s', hs', unit⟩ := did.station_unit hs
  obtain ⟨t', ht', unit'⟩ := did.station_unit ht
  exact alone s' hs' j t' ht' (unit'.trans (shared.trans unit.symm))

theorem Deed.spares_of_none {d : Deed} {id : Nat} (none : d.actor? = none) : d.Spares id := by
  rw [Deed.Spares, none]
  simp

theorem Deed.Within.spares {actor taker measurer : Option Nat} {d : Deed} {id : Nat}
    (within : d.Within actor taker measurer) (other : actor ≠ some id) : d.Spares id := by
  intro acts
  rcases within.actor with none | some
  · rw [none] at acts
    cases acts
  · exact other (some.symm.trans acts)

namespace Does

variable {x y : Site H} {id : Nat}

theorem alone {ok : Deed → Prop} (h : Does ok x y) : y.alone id → x.alone id := by
  refine h.keeps (P := fun site => site.alone id → x.alone id) ?_ fun alone => alone
  intro d before after _ did ih alone
  exact ih (did.alone alone)

/-- A station that does not wait stays as it is while it lets no step go on. -/
theorem alike {s : Station} (h : Does (Deed.Spares id) x y) (hs : x.stations[id]? = some s)
    (available : s.latch = .available) (alone : y.alone id) :
    ∃ s', y.stations[id]? = some s' ∧ s.Alike s' := by
  refine h.keeps (P := fun site => site.alone id →
    ∃ s', site.stations[id]? = some s' ∧ s.Alike s') ?_ (fun _ => ⟨s, hs, .refl s⟩) alone
  intro d before after spares did ih alone
  obtain ⟨t, ht, like⟩ := ih (did.alone alone)
  obtain ⟨t', _, ht', -, (⟨same, -⟩ | ⟨event, rfl, -⟩), -⟩ := did.spared spares ht (did.alone alone)
  · exact ⟨t', ht', like.trans same⟩
  · exact ⟨_, ht', like.trans (Station.hear_available (like.latch.trans available) event).1⟩

/-- A wait goes on, or stays over, while no step of the station goes on. -/
theorem waits {a : Station} {base : List Entry} (h : Does (Deed.Spares id) x y)
    (held : a.latch = .held) (waits : x.Waits id a base) (alone : y.alone id) :
    y.Waits id a base := by
  refine h.keeps (P := fun site => site.alone id → site.Waits id a base) ?_ (fun _ => waits) alone
  intro d before after spares did ih alone
  obtain ⟨s, news, hs, trace, waited, unit, silent⟩ := ih (did.alone alone)
  obtain ⟨s', added, hs', trace', how, unarmed⟩ := did.spared spares hs (did.alone alone)
  obtain ⟨s'', hs'', unit'⟩ := did.station_unit hs
  obtain rfl := Option.some.inj (hs'.symm.trans hs'')
  refine ⟨s', added ++ news, hs', ?_, ?_, unit'.trans unit, ?_⟩
  · rw [trace', trace, List.append_assoc]
  · rcases how with ⟨same, unheard⟩ | heard
    · exact waited.alike same unheard
    · exact waited.hears held heard
  · intro e he
    rcases List.mem_append.mp he with new | old
    · rw [← unit]
      exact unarmed e new
    · exact silent e old

end Does

end Site

end RangeSurvey
