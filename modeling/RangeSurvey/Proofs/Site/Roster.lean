import RangeSurvey.Proofs.Site.Refusal

/-!
# The roster as a map

Which station a device has is a partial map, and every action on the roster is an update of that
map: an enrolment and the adoption of a station enter one, and a dismissal erases it if the station
made its own storage. A station over storage of its caller stays in the map whatever happens, so
that its device gets it again. Whoever a station is, it stays that, and what is done to the roster
changes nothing of a station but its configuration and its readiness.
-/

namespace RangeSurvey

namespace Station

def Reset (s s' : Station) : Prop :=
  ∃ config ready, s' = { s with config, status := { s.status with ready } }

theorem Reset.refl (s : Station) : s.Reset s := ⟨s.config, s.status.ready, rfl⟩

theorem Reset.trans {a b c : Station} (hab : a.Reset b) (hbc : b.Reset c) : a.Reset c := by
  obtain ⟨_, _, rfl⟩ := hab
  obtain ⟨config, ready, rfl⟩ := hbc
  exact ⟨config, ready, rfl⟩

theorem Reset.table {s s' : Station} (h : s.Reset s') : s'.table = s.table := by
  obtain ⟨_, _, rfl⟩ := h
  rfl

theorem reset_configure (s : Station) (config : Configuration) : s.Reset (s.configure config) :=
  ⟨config, true, rfl⟩

theorem reset_suspend (s : Station) : s.Reset s.suspend := ⟨s.config, false, rfl⟩

theorem hear_ownsStorage (s : Station) (event : RadioEvent) :
    (s.hear event).station.status.ownsStorage = s.status.ownsStorage := by
  cases event with
  | received bytes =>
    simp only [hear, hearFrame, hearSurveyFrame]
    repeat' split
    all_goals rfl
  | sent => cases h : s.latch <;> simp only [hear, hearSent, h, Latch.putBack]
  | timedOut => cases h : s.latch <;> simp only [hear, hearTimeout, h, Latch.putBack]
  | reset => cases h : s.latch <;> simp only [hear, hearReset, h, Latch.putBack]

/-- Nothing that a station does or hears changes whose storage it uses. -/
theorem ownsStorage_of_moves {d : Site.Deed} {id : Nat} {s s' : Station} (moved : d.Moves id s s') :
    s'.status.ownsStorage = s.status.ownsStorage := by
  cases moved with
  | still => rfl
  | part p =>
    cases p with
    | beginBroadcast =>
      obtain ⟨buffer, nothingToSend, invalidRow, begun⟩ := s.beginBroadcast_eq
      change s.beginBroadcast.1.status.ownsStorage = _
      rw [begun]
      rfl
    | _ => rfl
  | hear event => exact s.hear_ownsStorage event

end Station

/-- The actions on the roster, and the making of stations that may be taken into it. -/
def Action.isRoster {H : Type} : Action H → Bool
  | enrol _ | build _ | adopt _ | dismiss _ => true
  | _ => false

namespace Site

variable {H : Type} [Hardware H]

/-! ## What the actions on the roster leave alone -/

/-- All stations are the same, apart from configuration and readiness. -/
def Resets (a b : Site H) : Prop :=
  ∀ (id : Nat) (s : Station), a.stations[id]? = some s →
    ∃ s', b.stations[id]? = some s' ∧ s.Reset s'

section Resets

variable {a b c : Site H}

omit [Hardware H] in
theorem resets_of_stations (same : b.stations = a.stations) : a.Resets b := fun _ s hs =>
  ⟨s, same ▸ hs, .refl s⟩

omit [Hardware H] in
theorem Resets.trans (hab : a.Resets b) (hbc : b.Resets c) : a.Resets c := by
  intro id s hs
  obtain ⟨s', hs', first⟩ := hab id s hs
  obtain ⟨s'', hs'', second⟩ := hbc id s' hs'
  exact ⟨s'', hs'', first.trans second⟩

omit [Hardware H] in
theorem resets_update (site : Site H) (id : Nat) {f : Station → Station}
    (reset : ∀ s : Station, s.Reset (f s)) : site.Resets (site.update id f) := by
  intro j s hs
  have moved := Did.stations_act site id j fun s => (f s, [])
  by_cases here : id = j
  · subst here
    exact ⟨f s, stations_update hs f, reset s⟩
  · rw [if_neg here] at moved
    exact ⟨s, moved.trans hs, .refl s⟩

omit [Hardware H] in
theorem resets_addStation (site : Site H) (s : Station) : site.Resets (site.addStation s) := by
  intro id t ht
  have known : id < site.stations.length := (List.getElem?_eq_some_iff.mp ht).1
  exact ⟨t, (List.getElem?_append_left known).trans ht, .refl t⟩

theorem stations_hook (site : Site H) (id : Nat) : (site.hook id).stations = site.stations := by
  cases hs : site.stations[id]? with
  | none => simp only [hook, hs]
  | some s => exact (hook_spec hs).1

theorem stations_unhook (site : Site H) (id : Nat) :
    (site.unhook id).stations = site.stations := by
  cases hs : site.stations[id]? with
  | none => simp only [unhook, hs]
  | some s => exact (unhook_spec hs).1

theorem configured_resets (site : Site H) (id : Nat) (config : Station → Configuration) :
    site.Resets ((site.update id fun s => s.configure (config s)).hook id) :=
  (resets_update site id fun s => s.reset_configure (config s)).trans
    (resets_of_stations (stations_hook _ id))

theorem install_resets (site : Site H) (id : Nat) (config : Configuration) :
    site.Resets (site.install id config) :=
  configured_resets (site.addToRoster id) id fun _ => config

theorem enrol_resets (site : Site H) (e : Enrolment) : site.Resets (site.enrol e).1 := by
  simp only [enrol]
  split
  · exact resets_of_stations rfl
  split
  · simp only [enrolNew]
    split
    · exact resets_of_stations rfl
    · exact (resets_addStation site _).trans (install_resets _ _ _)
  split
  · exact resets_of_stations rfl
  · simp only [renew]
    split
    · exact resets_of_stations rfl
    split
    · exact resets_of_stations rfl
    · exact configured_resets site _ fun _ => e.config

theorem adopt_resets (site : Site H) (id : Nat) : site.Resets (site.adopt id).1 := by
  have came := site.adopt_adopts id
  generalize site.adopt id = after at came
  cases came with
  | unknown => exact resets_of_stations rfl
  | refused => exact resets_of_stations rfl
  | renewed => exact configured_resets site id Station.config
  | adopted => exact install_resets site id _

theorem dismiss_resets (site : Site H) (id : Nat) : site.Resets (site.dismiss id) := by
  have suspended : site.Resets (site.update id Station.suspend) :=
    resets_update site id Station.reset_suspend
  rw [dismiss]
  split
  · exact resets_of_stations rfl
  simp only
  split
  · exact suspended.trans (resets_of_stations (stations_unhook _ id))
  · exact suspended

theorem performAll_resets {site : Site H} {later : List (Action H)}
    (roster : later.all Action.isRoster = true) : site.Resets (site.performAll later) := by
  induction later generalizing site with
  | nil => exact resets_of_stations rfl
  | cons action later ih =>
    rw [List.all_cons, Bool.and_eq_true] at roster
    obtain ⟨first, rest⟩ := roster
    refine Resets.trans ?_ (ih rest)
    cases action with
    | enrol e => exact enrol_resets site e
    | build e =>
      simp only [perform, build]
      split
      · exact resets_of_stations rfl
      · exact resets_addStation site _
    | adopt id => exact adopt_resets site id
    | dismiss id => exact dismiss_resets site id
    | _ => cases first

end Resets

/-! ## The map -/

/-- The stations of the roster, each of them once and no two of one device. -/
structure Listed (site : Site H) : Prop extends site.Rostered where
  nodup : site.roster.Nodup

section Map

variable {a b : Site H}

theorem Listed.find?_iff {site : Site H} (listed : site.Listed) {device id : Nat} :
    site.find? device = some id ↔
      id ∈ site.roster ∧ ∃ s, site.stations[id]? = some s ∧ s.device = device := by
  constructor
  · exact find?_some
  · rintro ⟨member, s, hs, rfl⟩
    exact listed.find? member hs

omit [Hardware H] in
/-- A station of the roster stays with its device. -/
theorem Listed.device_iff (before : a.Listed) (passes : a.Passes b) {id : Nat}
    (old : id ∈ a.roster) (device : Nat) :
    (∃ s, b.stations[id]? = some s ∧ s.device = device) ↔
      ∃ s, a.stations[id]? = some s ∧ s.device = device := by
  obtain ⟨s, hs⟩ := before.known id old
  obtain ⟨s', hs', stays⟩ := passes.stays hs
  simp [hs, hs', stays.device]

/-- As long as the roster stays, every device keeps its station. -/
theorem Listed.find?_of_roster (before : a.Listed) (after : b.Listed) (passes : a.Passes b)
    (roster : b.roster = a.roster) : b.find? = a.find? := by
  funext device
  ext id
  rw [after.find?_iff, before.find?_iff, roster]
  exact and_congr_right fun old => before.device_iff passes old device

/-- A station that its device has, or that comes to a device that has none, is the one that the
device has from then on. -/
theorem Listed.find?_update (before : a.Listed) (after : b.Listed) (passes : a.Passes b) {id : Nat}
    {s : Station} (hs : b.stations[id]? = some s)
    (enters : a.find? s.device = some id ∧ b.roster = a.roster ∨
      a.find? s.device = none ∧ b.roster = a.roster ++ [id]) :
    b.find? = Function.update a.find? s.device (some id) := by
  rcases enters with ⟨found, roster⟩ | ⟨-, roster⟩
  · rw [before.find?_of_roster after passes roster, ← found, Function.update_eq_self]
  funext device
  by_cases own : device = s.device
  · subst own
    rw [Function.update_self]
    exact after.find? (roster ▸ List.mem_append_right _ (List.mem_singleton_self id)) hs
  · rw [Function.update_of_ne own]
    ext j
    rw [after.find?_iff, before.find?_iff, roster, List.mem_append, List.mem_singleton]
    constructor
    · rintro ⟨old | rfl, t, ht, device⟩
      · exact ⟨old, (before.device_iff passes old _).mp ⟨t, ht, device⟩⟩
      · rw [hs] at ht
        cases ht
        exact absurd device.symm own
    · rintro ⟨old, there⟩
      exact ⟨Or.inl old, (before.device_iff passes old device).mpr there⟩

/-- A station that leaves the roster is the one that its device no longer has. -/
theorem Listed.find?_erase (before : a.Listed) (after : b.Listed) (passes : a.Passes b) {id : Nat}
    {s : Station} (hs : a.stations[id]? = some s) (member : id ∈ a.roster)
    (roster : b.roster = a.roster.erase id) :
    b.find? = Function.update a.find? s.device none := by
  have found : a.find? s.device = some id := before.find? member hs
  funext device
  ext j
  rw [after.find?_iff, roster, before.nodup.mem_erase_iff]
  by_cases own : device = s.device
  · subst own
    rw [Function.update_self]
    simp only [reduceCtorEq, iff_false]
    rintro ⟨⟨distinct, old⟩, there⟩
    have found' := before.find?_iff.mpr ⟨old, (before.device_iff passes old _).mp there⟩
    exact distinct (Option.some.inj (found'.symm.trans found))
  · rw [Function.update_of_ne own, before.find?_iff]
    constructor
    · rintro ⟨⟨-, old⟩, there⟩
      exact ⟨old, (before.device_iff passes old device).mp there⟩
    · rintro ⟨old, t, ht, device⟩
      refine ⟨⟨?_, old⟩, (before.device_iff passes old _).mpr ⟨t, ht, device⟩⟩
      rintro rfl
      rw [hs] at ht
      cases ht
      exact own device.symm

end Map

/-! ## Every run -/

theorem Rewired.roster {a b : Site H} {action : Action H} (rewired : Rewired a action b) :
    b.roster = a.roster ∨
      (∃ id s, b.stations[id]? = some s ∧ a.find? s.device = none ∧ b.roster = a.roster ++ [id]) ∨
      ∃ id s, a.stations[id]? = some s ∧ s.status.ownsStorage = true ∧
        b.roster = a.roster.filter fun j => j != id := by
  cases rewired with
  | still roster => exact Or.inl roster
  | suspended roster => exact Or.inl roster
  | @configured _ _ id s _ hs enters =>
    rcases enters with ⟨-, roster⟩ | ⟨unknown, roster⟩
    · exact Or.inl roster
    · exact Or.inr (Or.inl ⟨id, s, hs, unknown, roster⟩)
  | @dismissed _ id s hs owns roster => exact Or.inr (Or.inr ⟨id, s, hs, owns, roster⟩)

/-- An action leaves the roster alone, adds a station of a device that has none, or drops one that
made its own storage. -/
theorem roster_perform (site : Site H) (action : Action H) :
    (site.perform action).roster = site.roster ∨
      (∃ id s, (site.perform action).stations[id]? = some s ∧ site.find? s.device = none ∧
        (site.perform action).roster = site.roster ++ [id]) ∨
      ∃ id s, site.stations[id]? = some s ∧ s.status.ownsStorage = true ∧
        (site.perform action).roster = site.roster.filter fun j => j != id := by
  cases action with
  | join unit i sink =>
    left
    simp only [perform, rechain]
    split <;> rfl
  | _ =>
    refine (perform_rewired site ?_).roster
    simp

theorem Listed.perform {site : Site H} (listed : site.Listed) (action : Action H) :
    (site.perform action).Listed := by
  have passes := (perform_does site action).passes
  constructor
  · cases action with
    | join unit i sink =>
      simp only [Site.perform, rechain]
      split
      · exact ⟨listed.known, listed.single⟩
      · exact listed.toRostered
    | _ => exact listed.toRostered.rewired passes (perform_rewired site (by simp))
  · rcases roster_perform site action with
      roster | ⟨id, s, hs, unknown, roster⟩ | ⟨id, s, -, -, roster⟩
    · exact roster ▸ listed.nodup
    · rw [roster, ← List.concat_eq_append]
      refine listed.nodup.concat fun old => ?_
      have found := listed.find?_iff.mpr
        ⟨old, (listed.device_iff passes old s.device).mp ⟨s, hs, rfl⟩⟩
      rw [unknown] at found
      cases found
    · exact roster ▸ listed.nodup.filter _

theorem listed_performAll (hardware : H) (actions : List (Action H)) :
    (({ hardware } : Site H).performAll actions).Listed :=
  performAll_induction (fun _ action listed => listed.perform action) actions
    ⟨⟨nofun, nofun⟩, List.nodup_nil⟩

/-- Whatever happens later, a station is the same one, and what is done to the roster changes
nothing of it but its configuration and its readiness. -/
theorem performAll_lasts {site : Site H} {id : Nat} {s : Station}
    (hs : site.stations[id]? = some s) (later : List (Action H)) :
    ∃ s', (site.performAll later).stations[id]? = some s' ∧ s.Stays s' ∧
      s'.status.ownsStorage = s.status.ownsStorage ∧
      (later.all Action.isRoster = true → s.Reset s') := by
  have kept : ∃ s', (site.performAll later).stations[id]? = some s' ∧ s.Stays s' ∧
      s'.status.ownsStorage = s.status.ownsStorage := by
    refine (performAll_passes site later).station (P := fun s' => s.Stays s' ∧
      s'.status.ownsStorage = s.status.ownsStorage) ?_ hs ⟨.refl s, rfl⟩
    rintro d t t' - moved ⟨stays, owns⟩
    exact ⟨stays.trans (Station.stays_of_moves moved),
      (Station.ownsStorage_of_moves moved).trans owns⟩
  obtain ⟨s', hs', stays, owns⟩ := kept
  refine ⟨s', hs', stays, owns, fun roster => ?_⟩
  obtain ⟨t, ht, reset⟩ := performAll_resets roster id s hs
  obtain rfl := Option.some.inj (hs'.symm.trans ht)
  exact reset

/-- A station over storage of its caller never leaves the roster. -/
theorem mem_roster_performAll {site : Site H} {id : Nat} {s : Station}
    (hs : site.stations[id]? = some s) (lent : s.status.ownsStorage = false)
    (member : id ∈ site.roster) (later : List (Action H)) :
    id ∈ (site.performAll later).roster := by
  induction later generalizing site s with
  | nil => exact member
  | cons action later ih =>
    obtain ⟨s', hs', -, owns, -⟩ := performAll_lasts hs [action]
    refine ih hs' (owns.trans lent) ?_
    rcases roster_perform site action with
      roster | ⟨j, t, -, -, roster⟩ | ⟨j, t, ht, owns, roster⟩
    · exact roster ▸ member
    · exact roster ▸ List.mem_append_left _ member
    · rw [roster, List.mem_filter, bne_iff_ne]
      refine ⟨member, ?_⟩
      rintro rfl
      rw [hs] at ht
      cases ht
      rw [lent] at owns
      cases owns

/-! ## Requests -/

section Requests

variable {site : Site H} {id : Nat}

/-- A station that is configured and put into the chain of its radio. -/
theorem configured_spec {s : Station} (hs : site.stations[id]? = some s)
    (config : Station → Configuration) :
    ((site.update id fun s => s.configure (config s)).hook id).stations[id]? =
        some (s.configure (config s)) ∧
      ((site.update id fun s => s.configure (config s)).hook id).roster = site.roster := by
  have configured := stations_update hs fun s => s.configure (config s)
  obtain ⟨stations, roster, -⟩ := hook_spec configured
  exact ⟨stations ▸ configured, roster.trans (roster_update _ _ _)⟩

/-- What an enrolment that is granted gives, the station being the one that the device has had, or
one that has been made for it. -/
structure Granted (site : Site H) (e : Enrolment) (id : Nat) : Prop where
  which : id = (site.find? e.device).getD site.stations.length
  find? : (site.enrol e).1.find? = Function.update site.find? e.device (some id)
  station : ∃ s, (site.enrol e).1.stations[id]? = some s ∧ s.status.ready = true ∧
    s.device = e.device ∧ s.nodeCount = e.nodeCount ∧ s.identity = e.identity ∧
    s.config = e.config

theorem enrol_granted (listed : site.Listed)
    (sound : ∀ (id : Nat) (s : Station), site.stations[id]? = some s → s.slot < s.nodeCount)
    {e : Enrolment} (granted : (site.enrol e).2.outcome = .ok id) : site.Granted e id := by
  have after : (site.enrol e).1.Listed := listed.perform (.enrol e)
  have passes : site.Passes (site.enrol e).1 := (enrol_does site e).passes
  suffices gives : id = (site.find? e.device).getD site.stations.length ∧ ∃ s,
      (site.enrol e).1.stations[id]? = some s ∧
        (site.find? s.device = some id ∧ (site.enrol e).1.roster = site.roster ∨
          site.find? s.device = none ∧ (site.enrol e).1.roster = site.roster ++ [id]) ∧
        s.status.ready = true ∧ s.device = e.device ∧ s.nodeCount = e.nodeCount ∧
        s.identity = e.identity ∧ s.config = e.config by
    obtain ⟨which, s, hs, enters, ready, device, rest⟩ := gives
    refine ⟨which, ?_, s, hs, ready, device, rest⟩
    rw [← device]
    exact listed.find?_update after passes hs enters
  have came := enrol_enrols sound e
  generalize site.enrol e = after at came granted
  cases came with
  | refused => cases granted
  | @renewed id s _ found hs size identity =>
    cases granted
    obtain ⟨there, roster⟩ := configured_spec hs fun _ => e.config
    obtain ⟨-, t, ht, device⟩ := find?_some found
    obtain rfl := Option.some.inj (hs.symm.trans ht)
    refine ⟨by rw [found, Option.getD_some], _, there, Or.inl ⟨?_, roster⟩, rfl, device, size,
      identity, rfl⟩
    exact (congrArg site.find? device).trans found
  | created _ _ unknown =>
    cases granted
    have added : ((site.addStation (Station.fresh e true)).addToRoster
        site.stations.length).stations[site.stations.length]? = some (Station.fresh e true) := by
      simp [addStation, addToRoster]
    obtain ⟨there, roster⟩ := configured_spec added fun _ => e.config
    exact ⟨by rw [unknown, Option.getD_none], _, there, Or.inr ⟨unknown, roster⟩, rfl, rfl, rfl,
      rfl, rfl⟩

/-- Hardware is set up for an enrolment exactly if its number of stations is right and its device
has no station. -/
theorem built_iff
    (sound : ∀ (id : Nat) (s : Station), site.stations[id]? = some s → s.slot < s.nodeCount)
    (e : Enrolment) :
    (site.enrol e).2.built = true ↔ e.isSized = true ∧ site.find? e.device = none := by
  have came := enrol_enrols sound e
  generalize site.enrol e = after at came
  cases came with
  | refused _ built => exact built
  | renewed _ found => simp [found]
  | created _ sized unknown => simp [sized, unknown]

/-- A station that is taken into the roster is the one that its device has from then on. -/
theorem adopt_granted (listed : site.Listed) {s : Station} (hs : site.stations[id]? = some s)
    (granted : (site.adopt id).2 = .ok ()) :
    (site.adopt id).1.find? = Function.update site.find? s.device (some id) ∧
      (site.adopt id).1.stations[id]? = some (s.configure s.config) := by
  have after : (site.adopt id).1.Listed := listed.perform (.adopt id)
  have passes : site.Passes (site.adopt id).1 := (adopt_does site id).passes
  suffices gives : (site.adopt id).1.stations[id]? = some (s.configure s.config) ∧
      (site.find? s.device = some id ∧ (site.adopt id).1.roster = site.roster ∨
        site.find? s.device = none ∧ (site.adopt id).1.roster = site.roster ++ [id]) by
    obtain ⟨there, enters⟩ := gives
    exact ⟨listed.find?_update (s := s.configure s.config) after passes there enters, there⟩
  have came := site.adopt_adopts id
  generalize site.adopt id = after at came granted
  cases came with
  | unknown none =>
    rw [none] at hs
    cases hs
  | refused => cases granted
  | renewed hs' found =>
    obtain rfl := Option.some.inj (hs.symm.trans hs')
    obtain ⟨there, roster⟩ := configured_spec hs Station.config
    exact ⟨there, Or.inl ⟨found, roster⟩⟩
  | adopted hs' unknown =>
    obtain rfl := Option.some.inj (hs.symm.trans hs')
    have added : (site.addToRoster id).stations[id]? = some s := hs
    obtain ⟨there, roster⟩ := configured_spec added fun _ => s.config
    exact ⟨there, Or.inr ⟨unknown, roster⟩⟩

/-- What becomes of the roster when a station is dismissed. -/
theorem dismiss_roster (listed : site.Listed) (id : Nat) : (site.dismiss id).roster =
    if (site.stations[id]?).any fun s => s.status.ownsStorage then site.roster.erase id
    else site.roster := by
  rw [listed.nodup.erase_eq_filter, dismiss]
  cases hs : site.stations[id]? with
  | none => simp
  | some s =>
    cases owns : s.status.ownsStorage with
    | true =>
      have rests : ((site.update id Station.suspend).dropFromRoster id).stations[id]? =
          some s.suspend := stations_update hs _
      simp only [owns, if_true, Option.any_some]
      exact (unhook_spec rests).2.1.trans (congrArg _ (roster_update _ _ _))
    | false =>
      simp only [owns, Option.any_some, Bool.false_eq_true, if_false]
      exact roster_update _ _ _

/-- A station over storage of its caller rests when it is dismissed, and nothing else changes. -/
theorem dismiss_lent {s : Station} (hs : site.stations[id]? = some s)
    (lent : s.status.ownsStorage = false) :
    site.dismiss id = { site with
      stations := site.stations.set id s.suspend
      trace := .noticed (.suspended s.device) :: site.trace } := by
  simp [dismiss, hs, lent, update, act, note, record]

/-- A station of the roster is what its device gets, with the configuration that is asked for. -/
theorem enrol_again (listed : site.Listed) (member : id ∈ site.roster) {s : Station}
    (hs : site.stations[id]? = some s) (sound : s.Sound) {e : Enrolment}
    (device : e.device = s.device) (size : e.nodeCount = s.nodeCount)
    (identity : e.identity = s.identity) :
    (site.enrol e).2.outcome = .ok id ∧
      (site.enrol e).1.stations[id]? = some (s.configure e.config) := by
  have found : site.find? e.device = some id := device ▸ listed.find? member hs
  have counted : checkNodeCount s.nodeCount = .ok () := if_pos sound.nodeCount
  have renewed : site.enrol e = (((site.update id fun s => s.configure e.config).hook id).note
      (.renewed e.device), ⟨.ok id, false⟩) := by
    simp [enrol, counted, found, hs, renew, size, identity]
  rw [renewed]
  exact ⟨rfl, (configured_spec hs fun _ => e.config).1⟩

end Requests

/-! ## The whole -/

/-- What it means that the roster is a partial map from devices to stations. -/
structure RosterMap (site : Site H) : Prop where
  listed : site.Listed
  /-- A device has the one station of the roster that is its own, if there is one. -/
  find?_iff : ∀ device id, site.find? device = some id ↔
    id ∈ site.roster ∧ ∃ s, site.stations[id]? = some s ∧ s.device = device
  enrol_built : ∀ e,
    (site.enrol e).2.built = true ↔ e.isSized = true ∧ site.find? e.device = none
  enrol_ok : ∀ e id, (site.enrol e).2.outcome = .ok id → site.Granted e id
  adopt_ok : ∀ id s, site.stations[id]? = some s → (site.adopt id).2 = .ok () →
    (site.adopt id).1.find? = Function.update site.find? s.device (some id) ∧
      (site.adopt id).1.stations[id]? = some (s.configure s.config)
  /-- Only a station of the roster over storage of its own is taken off it, and no other. -/
  dismiss_own : ∀ id s, site.stations[id]? = some s → s.status.ownsStorage = true →
    id ∈ site.roster → (site.dismiss id).roster = site.roster.erase id ∧
      (site.dismiss id).find? = Function.update site.find? s.device none
  dismiss_other : ∀ id,
    (∀ s, site.stations[id]? = some s → s.status.ownsStorage = true → id ∉ site.roster) →
      (site.dismiss id).roster = site.roster ∧ (site.dismiss id).find? = site.find?
  dismiss_lent : ∀ id s, site.stations[id]? = some s → s.status.ownsStorage = false →
    site.dismiss id = { site with
      stations := site.stations.set id s.suspend
      trace := .noticed (.suspended s.device) :: site.trace }
  /-- Whatever happens later, a station over storage of its caller is what its device gets again, as
  it is then, and with the table that it has had if nothing is done but to the roster. -/
  revived : ∀ (id : Nat) (s : Station), site.stations[id]? = some s →
    s.status.ownsStorage = false → id ∈ site.roster → ∀ later e, e.device = s.device →
      e.nodeCount = s.nodeCount → e.identity = s.identity →
        ((site.performAll later).enrol e).2.outcome = .ok id ∧
          ∃ s' : Station, (site.performAll later).stations[id]? = some s' ∧
            ((site.performAll later).enrol e).1.stations[id]? = some (s'.configure e.config) ∧
            (later.all Action.isRoster = true → s'.table = s.table)
  /-- Whatever happens later, a station is the same one, and if all that happens is done to the
  roster, then nothing of it changes but its configuration and its readiness. -/
  lasts : ∀ (id : Nat) (s : Station), site.stations[id]? = some s → ∀ later,
    ∃ s' : Station, (site.performAll later).stations[id]? = some s' ∧ s.Stays s' ∧
      s'.status.ownsStorage = s.status.ownsStorage ∧
      (later.all Action.isRoster = true → s.Reset s')

/-- After every run the roster is a partial map from devices to stations: enrolments and adoptions
enter the station that they give, the dismissal of a station over storage of its own erases it, and
a station over storage of its caller is only laid to rest. -/
theorem roster_map (hardware : H) (actions : List (Action H)) :
    (({ hardware } : Site H).performAll actions).RosterMap := by
  have slots := slot_performAll hardware actions
  have listed := listed_performAll hardware actions
  have passes := performAll_passes ({ hardware } : Site H) actions
  generalize ({ hardware } : Site H).performAll actions = site at slots listed passes
  have dismissed (id : Nat) : (site.dismiss id).Listed := listed.perform (.dismiss id)
  have passed (id : Nat) : site.Passes (site.dismiss id) := (dismiss_does site id).passes
  constructor
  case listed => exact listed
  case find?_iff => exact fun _ _ => listed.find?_iff
  case enrol_built => exact built_iff slots
  case enrol_ok => exact fun e id => enrol_granted listed slots
  case adopt_ok => exact fun id s => adopt_granted listed
  case dismiss_lent => exact fun id s => dismiss_lent
  case dismiss_own =>
    intro id s hs owns member
    have roster := dismiss_roster listed id
    rw [hs, Option.any_some, owns, if_pos rfl] at roster
    exact ⟨roster, listed.find?_erase (dismissed id) (passed id) hs member roster⟩
  case dismiss_other =>
    intro id other
    have roster : (site.dismiss id).roster = site.roster := by
      rw [dismiss_roster listed id]
      split
      · next owns =>
        obtain ⟨s, hs, owns⟩ := (Option.any_eq_true _ _).mp owns
        exact List.erase_of_not_mem (other s hs owns)
      · rfl
    exact ⟨roster, listed.find?_of_roster (dismissed id) (passed id) roster⟩
  case lasts => exact fun id s => performAll_lasts
  case revived =>
    intro id s hs lent member later e device size identity
    obtain ⟨s', hs', stays, -, reset⟩ := performAll_lasts hs later
    have still : (site.performAll later).Listed :=
      performAll_induction (fun _ action listed => listed.perform action) later listed
    have sound : s'.Sound := Passes.sound (passes.trans (performAll_passes site later)) hs'
    obtain ⟨granted, there⟩ := enrol_again still (mem_roster_performAll hs lent member later) hs'
      sound (device.trans stays.device.symm) (size.trans stays.nodeCount.symm)
      (identity.trans stays.identity.symm)
    exact ⟨granted, s', hs', there, fun roster => (reset roster).table⟩

/-- The station of device 1 rests, and the device gets it again after the only other one has been
dismissed; nobody else has a station then. -/
theorem roster_map_revived :
    let site := ({ hardware := {} } : Site Bench).performAll disputed
    let again := (site.performAll [.dismiss 0]).enrol ⟨1, 3, ⟨0x101, 1, 12⟩, {}, 1⟩
    again.2.outcome = .ok 1 ∧ again.2.built = false ∧ again.1.roster = [1] ∧
      (site.dismiss 0).find? = Function.update site.find? 0 none := by
  intro site again
  have map : site.RosterMap := roster_map ({} : Bench) disputed
  have first : (site.stations[0]?).map (fun s => (s.device, s.status.ownsStorage)) =
      some (0, true) := by decide +kernel
  have second : (site.stations[1]?).map (fun s => (s.device, s.nodeCount, s.identity,
      s.status.ownsStorage)) = some (1, 3, ⟨0x101, 1, 12⟩, false) := by decide +kernel
  obtain ⟨s, hs, own⟩ := Option.map_eq_some_iff.mp first
  obtain ⟨t, ht, lent⟩ := Option.map_eq_some_iff.mp second
  simp only [Prod.mk.injEq] at own lent
  obtain ⟨device, size, identity, lent⟩ := lent
  have revived := map.revived 1 t ht lent (by decide +kernel) [.dismiss 0]
    ⟨1, 3, ⟨0x101, 1, 12⟩, {}, 1⟩ device.symm size.symm identity.symm
  have dismissed := map.dismiss_own 0 s hs own.2 (by decide +kernel)
  rw [own.1] at dismissed
  exact ⟨revived.1, by decide +kernel, by decide +kernel, dismissed.2⟩

end Site

end RangeSurvey
