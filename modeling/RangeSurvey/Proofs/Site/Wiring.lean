import RangeSurvey.Proofs.Site.Runs
import RangeSurvey.Proofs.Station.Sound

/-!
# Roster and radios

Which station a device has, which station hears the survey's events on a radio, and which stations
are ready are three matters, and an action changes them together: a station is configured, rests, or
is dismissed, or all three stay as they are. From this follows that no device ever has two stations.
-/

namespace RangeSurvey

/-- The actions that take a station into the roster or configure the one that a device has. -/
def Action.setsUp {H : Type} : Action H → Bool
  | enrol _ | adopt _ => true
  | _ => false

namespace Site

variable {H : Type}

/-- Whoever hears the survey's events on the radio of a unit. -/
def surveySink? (site : Site H) (unit : Nat) : Option Sink :=
  (site.chain unit).sink? surveyInterface

def isReady (site : Site H) (id : Nat) : Bool :=
  (site.stations[id]?).any fun s => s.status.ready

def hooked (site : Site H) (id : Nat) : Bool :=
  (site.stations[id]?).any fun s => site.surveySink? s.unit == some (.station id)

theorem hooked_iff {site : Site H} {id : Nat} {s : Station} (hs : site.stations[id]? = some s) :
    site.hooked id = true ↔ site.surveySink? s.unit = some (.station id) := by
  simp [hooked, hs]

/-- All stations of a device are on the device's own radio, and no two devices share one. -/
def paired (site : Site H) : Prop :=
  ∀ s ∈ site.stations, ∀ t ∈ site.stations, s.device = t.device ↔ s.unit = t.unit

instance (site : Site H) : Decidable site.paired :=
  inferInstanceAs (Decidable (∀ s ∈ site.stations, ∀ t ∈ site.stations, _ ↔ _))

/-! ## What stays -/

section Stays

variable {a b : Site H} {ok : Deed → Prop}

theorem Did.isReady {d : Deed} (did : Did d a b) (setup : d.isSetup = false) (id : Nat) :
    b.isReady id = a.isReady id := by
  simp only [Site.isReady]
  cases hs : a.stations[id]? with
  | some s =>
    obtain ⟨s', hs', moved⟩ := did.station hs
    simp only [hs', Option.any_some, Station.ready_of_moves moved setup]
  | none =>
    rcases did.stations_length with same | ⟨_, _, s, rfl, -⟩
    · rw [List.getElem?_eq_none_iff, ← same, ← List.getElem?_eq_none_iff] at hs
      rw [hs]
    · cases setup

/-- Where nothing is set up and nothing torn down, the same stations are ready as before. -/
theorem Does.isReady (h : Does ok a b) (leaves : ∀ d, ok d → d.isSetup = false) (id : Nat) :
    b.isReady id = a.isReady id := by
  refine h.keeps (P := fun site => site.isReady id = a.isReady id) ?_ rfl
  intro d before after hd did same
  exact (did.isReady (leaves d hd) id).trans same

/-- What is true of the devices and radios of all stations has always been so. -/
theorem Does.paired (h : Does ok a b) (pairs : b.paired) : a.paired := by
  rintro s hs t ht
  obtain ⟨i, hi⟩ := List.mem_iff_getElem?.mp hs
  obtain ⟨j, hj⟩ := List.mem_iff_getElem?.mp ht
  obtain ⟨s', hi', stays⟩ := h.stays hi
  obtain ⟨t', hj', stays'⟩ := h.stays hj
  have same := pairs s' (List.mem_of_getElem? hi') t' (List.mem_of_getElem? hj')
  rwa [stays.device, stays.unit, stays'.device, stays'.unit] at same

/-- A station hears its radio as long as nobody else takes its place. -/
theorem hooked_of_same (passes : a.Passes b) {id : Nat} (hooked : a.hooked id = true)
    (same : ∀ s, a.stations[id]? = some s → b.surveySink? s.unit = a.surveySink? s.unit) :
    b.hooked id = true := by
  cases hs : a.stations[id]? with
  | none => simp [Site.hooked, hs] at hooked
  | some s =>
    obtain ⟨s', hs', stays⟩ := passes.stays hs
    rw [hooked_iff hs', stays.unit, same s hs]
    exact (hooked_iff hs).mp hooked

end Stays

/-! ## Setting up and tearing down -/

section Setup

theorem isReady_update (site : Site H) (id j : Nat) (f : Station → Station) :
    (site.update id f).isReady j =
      if id = j then (site.stations[id]?).any fun s => (f s).status.ready else site.isReady j := by
  have here := Did.stations_act site id j fun s => (f s, [])
  simp only [isReady, update, here]
  split
  · rw [Option.any_map]
  · rfl

theorem isReady_update_of_ne (site : Site H) {id j : Nat} (f : Station → Station) (other : j ≠ id) :
    (site.update id f).isReady j = site.isReady j := by
  rw [isReady_update, if_neg (Ne.symm other)]

theorem surveySink?_update (site : Site H) (id : Nat) (f : Station → Station) (unit : Nat) :
    (site.update id f).surveySink? unit = site.surveySink? unit := by
  rw [update, act_eq]
  rfl

theorem roster_update (site : Site H) (id : Nat) (f : Station → Station) :
    (site.update id f).roster = site.roster := by
  rw [update, act_eq]

variable [Hardware H]

/-- Putting a station into the chain of its radio changes neither stations nor roster, and the
survey's events of that radio alone have another hearer. -/
theorem hook_spec {site : Site H} {id : Nat} {s : Station} (hs : site.stations[id]? = some s) :
    (site.hook id).stations = site.stations ∧ (site.hook id).roster = site.roster ∧
      (site.hook id).hardware = site.hardware ∧
      ∀ unit, (site.hook id).surveySink? unit =
        if unit = s.unit ∧ Hardware.present site.hardware unit = true then some (.station id)
        else site.surveySink? unit := by
  simp only [hook, hs, rechain, surveySink?]
  by_cases present : Hardware.present site.hardware s.unit = true
  · rw [if_pos (show Hardware.present (site.call _).hardware s.unit = true from present)]
    refine ⟨rfl, rfl, rfl, ?_⟩
    intro unit
    by_cases here : unit = s.unit
    · subst here
      rw [if_pos ⟨rfl, present⟩, chain_mapChain_self, Chain.sink?_register_self]
    · rw [if_neg (fun h => here h.1), chain_mapChain_of_ne _ _ (Ne.symm here)]
      rfl
  · rw [if_neg (show ¬ Hardware.present (site.call _).hardware s.unit = true from present)]
    refine ⟨rfl, rfl, rfl, ?_⟩
    intro unit
    rw [if_neg]
    · rfl
    · rintro ⟨rfl, there⟩
      exact present there

/-- Clearing the survey's place in the chain of a radio changes neither stations nor roster, nor who
hears the survey's events of another radio. -/
theorem unhook_spec {site : Site H} {id : Nat} {s : Station} (hs : site.stations[id]? = some s) :
    (site.unhook id).stations = site.stations ∧ (site.unhook id).roster = site.roster ∧
      ∀ unit, unit ≠ s.unit → (site.unhook id).surveySink? unit = site.surveySink? unit := by
  simp only [unhook, hs, rechain, surveySink?]
  split
  · refine ⟨rfl, rfl, ?_⟩
    intro unit other
    rw [chain_mapChain_of_ne _ _ (Ne.symm other)]
    rfl
  · exact ⟨rfl, rfl, fun _ _ => rfl⟩

/-- What an action makes of the roster, of who hears the survey's events, and of who is ready. -/
inductive Rewired (a : Site H) : Action H → Site H → Prop where
  | still {action : Action H} {b : Site H} : b.roster = a.roster →
      (∀ unit, b.surveySink? unit = a.surveySink? unit) → (∀ j, b.isReady j = a.isReady j) →
      Rewired a action b
  /-- Station `id` is configured, the one that its device has or one for a device that has none. -/
  | configured {action : Action H} {b : Site H} {id : Nat} {s : Station} :
      action.setsUp = true → b.stations[id]? = some s →
      (a.find? s.device = some id ∧ b.roster = a.roster ∨
        a.find? s.device = none ∧ b.roster = a.roster ++ [id]) →
      (∀ unit, b.surveySink? unit =
        if unit = s.unit ∧ Hardware.present b.hardware unit = true then some (.station id)
        else a.surveySink? unit) →
      (∀ j, j ≠ id → b.isReady j = a.isReady j) → Rewired a action b
  /-- Station `id` rests. -/
  | suspended {b : Site H} {id : Nat} : b.roster = a.roster →
      (∀ unit, b.surveySink? unit = a.surveySink? unit) → b.isReady id = false →
      (∀ j, j ≠ id → b.isReady j = a.isReady j) → Rewired a (.dismiss id) b
  /-- Station `id` is gone, and nobody hears the survey's events of its radio. -/
  | dismissed {b : Site H} {id : Nat} {s : Station} : a.stations[id]? = some s →
      s.status.ownsStorage = true → b.roster = a.roster.filter (fun j => j != id) →
      (∀ unit, unit ≠ s.unit → b.surveySink? unit = a.surveySink? unit) →
      (∀ j, j ≠ id → b.isReady j = a.isReady j) → Rewired a (.dismiss id) b

theorem Rewired.of_aside {a b : Site H} {action : Action H} {ok : Deed → Prop} (h : Does ok a b)
    (leaves : ∀ d, ok d → d.isSetup = false) : Rewired a action b := by
  obtain ⟨chain, roster⟩ := h.wiring leaves
  refine .still roster ?_ (h.isReady leaves)
  intro unit
  simp only [surveySink?, chain]

/-- A station that has been configured and put into the chain of its radio. -/
theorem Rewired.of_hook {a b : Site H} {action : Action H} {id : Nat} {s : Station}
    (sets : action.setsUp = true) (hs : b.stations[id]? = some s)
    (enters : a.find? s.device = some id ∧ b.roster = a.roster ∨
      a.find? s.device = none ∧ b.roster = a.roster ++ [id])
    (sinks : ∀ unit, b.surveySink? unit = a.surveySink? unit)
    (others : ∀ j, j ≠ id → b.isReady j = a.isReady j) : Rewired a action (b.hook id) := by
  obtain ⟨stations, roster, hardware, hooked⟩ := hook_spec hs
  refine .configured sets (stations.symm ▸ hs) ?_ ?_ ?_
  · rwa [roster]
  · intro unit
    rw [hooked, hardware, sinks]
  · intro j other
    simp only [isReady, stations]
    exact others j other

theorem Rewired.note {a b : Site H} {action : Action H} (h : Rewired a action b) (n : Notice) :
    Rewired a action (b.note n) := by
  cases h with
  | still roster sinks ready => exact .still roster sinks ready
  | configured sets hs enters sinks others => exact .configured sets hs enters sinks others
  | suspended roster sinks rests others => exact .suspended roster sinks rests others
  | dismissed hs owns roster sinks others => exact .dismissed hs owns roster sinks others

theorem enrolNew_rewired {site : Site H} {e : Enrolment} {action : Action H}
    (sets : action.setsUp = true) (unknown : site.find? e.device = none) :
    Rewired site action (site.enrolNew e).1 := by
  simp only [enrolNew]
  split
  · exact .still rfl (fun _ => rfl) fun _ => rfl
  next s built =>
    obtain ⟨rfl, -⟩ := Station.build_eq built
    have there : ((site.addStation (Station.fresh e true)).addToRoster
        site.stations.length).stations[site.stations.length]? = some (Station.fresh e true) := by
      simp [addStation, addToRoster]
    have others (j : Nat) (other : j ≠ site.stations.length) :
        ((site.addStation (Station.fresh e true)).addToRoster site.stations.length).isReady j =
          site.isReady j := by
      simp only [isReady, addStation, addToRoster]
      rcases Nat.lt_or_gt_of_ne other with old | new
      · rw [List.getElem?_append_left old]
      · rw [List.getElem?_eq_none (by simp; omega), List.getElem?_eq_none (by omega)]
    have configured := stations_update there fun s => s.configure e.config
    refine Rewired.note (.of_hook sets configured (Or.inr ⟨unknown, ?_⟩) ?_ ?_) _
    · exact roster_update _ _ _
    · exact surveySink?_update _ _ _
    · intro j other
      exact (isReady_update_of_ne _ _ other).trans (others j other)

theorem configured_rewired {site : Site H} {id : Nat} {s : Station} {action : Action H}
    (sets : action.setsUp = true) (config : Station → Configuration)
    (hs : site.stations[id]? = some s) (found : site.find? s.device = some id) :
    Rewired site action ((site.update id fun s => s.configure (config s)).hook id) := by
  have configured := stations_update hs fun s => s.configure (config s)
  refine .of_hook sets configured (Or.inl ⟨found, ?_⟩) ?_ ?_
  · exact roster_update _ _ _
  · exact surveySink?_update _ _ _
  · exact fun j => isReady_update_of_ne _ _

theorem enrol_rewired (site : Site H) (e : Enrolment) :
    Rewired site (.enrol e) (site.enrol e).1 := by
  have still (n : Notice) : Rewired site (.enrol e) (site.note n) :=
    .still rfl (fun _ => rfl) fun _ => rfl
  simp only [enrol]
  split
  · exact .still rfl (fun _ => rfl) fun _ => rfl
  split
  · next unknown => exact enrolNew_rewired rfl unknown
  next id found =>
    obtain ⟨-, s, hs, device⟩ := find?_some found
    simp only [hs, renew]
    split
    · exact still _
    split
    · exact still _
    · exact (configured_rewired rfl (fun _ => e.config) hs (device ▸ found)).note _

theorem adopt_rewired (site : Site H) (id : Nat) :
    Rewired site (.adopt id) (site.adopt id).1 := by
  simp only [adopt]
  split
  · exact .still rfl (fun _ => rfl) fun _ => rfl
  next s hs =>
    split
    · next unknown =>
      have added : (site.addToRoster id).stations[id]? = some s := hs
      have configured := stations_update added fun t => t.configure s.config
      refine Rewired.note (.of_hook rfl configured (Or.inr ⟨unknown, ?_⟩) ?_ ?_) _
      · exact roster_update _ _ _
      · exact surveySink?_update _ _ _
      · exact fun j => isReady_update_of_ne _ _
    next known found =>
      split
      · next same =>
        subst same
        exact configured_rewired rfl Station.config hs found
      · exact .still rfl (fun _ => rfl) fun _ => rfl

theorem dismiss_rewired (site : Site H) (id : Nat) :
    Rewired site (.dismiss id) (site.dismiss id) := by
  rw [dismiss]
  split
  · exact .still rfl (fun _ => rfl) fun _ => rfl
  next s hs =>
    simp only
    split
    · next owns =>
      have rests : ((site.update id Station.suspend).dropFromRoster id).stations[id]? =
          some s.suspend := stations_update hs _
      obtain ⟨stations, roster, sinks⟩ := unhook_spec rests
      refine Rewired.note (.dismissed hs owns ?_ ?_ ?_) _
      · rw [roster, dropFromRoster, roster_update]
      · intro unit other
        exact (sinks unit other).trans (surveySink?_update _ _ _ _)
      · intro j other
        simp only [isReady, stations]
        exact isReady_update_of_ne _ _ other
    · refine Rewired.note (.suspended ?_ ?_ ?_ ?_) _
      · exact roster_update _ _ _
      · exact surveySink?_update _ _ _
      · rw [isReady_update, if_pos rfl, hs]
        rfl
      · exact fun j => isReady_update_of_ne _ _

/-- Every action configures a station, lets one rest, dismisses one, or leaves roster, hearers and
readiness as they are, unless another party takes the survey's place in a chain. -/
theorem perform_rewired (site : Site H) {action : Action H}
    (apart : ∀ unit i sink, action = .join unit i sink → i ≠ surveyInterface) :
    Rewired site action (site.perform action) := by
  cases action with
  | enrol e => exact enrol_rewired site e
  | build e =>
    simp only [perform, build]
    split
    · exact .still rfl (fun _ => rfl) fun _ => rfl
    next s built =>
      obtain ⟨rfl, -⟩ := Station.build_eq built
      refine .still rfl (fun _ => rfl) ?_
      intro j
      simp only [isReady, addStation]
      rcases Nat.lt_trichotomy j site.stations.length with old | rfl | new
      · rw [List.getElem?_append_left old]
      · simp [Station.fresh]
      · rw [List.getElem?_eq_none (by simp; omega), List.getElem?_eq_none (by omega)]
  | adopt id => exact adopt_rewired site id
  | dismiss id => exact dismiss_rewired site id
  | join unit i sink =>
    have other : i ≠ surveyInterface := apart unit i sink rfl
    simp only [perform, rechain]
    split
    · refine .still rfl ?_ fun _ => rfl
      intro u
      by_cases here : unit = u
      · subst here
        simp only [surveySink?, chain_mapChain_self, Chain.sink?_register_of_ne _ _ other]
      · simp only [surveySink?, chain_mapChain_of_ne _ _ here]
    · exact .still rfl (fun _ => rfl) fun _ => rfl
  | raise unit event => exact .of_aside (raise_does site unit event) fun _ aside => aside.setup
  | tell sink event => exact .of_aside (offer_does site event sink) fun _ aside => aside.setup
  | collect =>
    simp only [perform, popCompletion]
    split
    · exact .still rfl (fun _ => rfl) fun _ => rfl
    · exact .still rfl (fun _ => rfl) fun _ => rfl
  | alter change => exact .still rfl (fun _ => rfl) fun _ => rfl
  | _ =>
    refine .of_aside (perform_does site _) fun d of => ?_
    cases setup : d.isSetup with
    | false => rfl
    | true => cases of.setup setup

end Setup

/-! ## One station for each device -/

section Roster

variable [Hardware H]

/-- The stations of the roster are known, and no two of them belong to one device. -/
structure Rostered (site : Site H) : Prop where
  known : ∀ id ∈ site.roster, ∃ s, site.stations[id]? = some s
  single : ∀ i ∈ site.roster, ∀ j ∈ site.roster, ∀ s t : Station, site.stations[i]? = some s →
    site.stations[j]? = some t → s.device = t.device → i = j

/-- A station of the roster is the one that its device has. -/
theorem Rostered.find? {site : Site H} (rostered : site.Rostered) {id : Nat} {s : Station}
    (hid : id ∈ site.roster) (hs : site.stations[id]? = some s) :
    site.find? s.device = some id := by
  cases found : site.find? s.device with
  | none =>
    have none := List.find?_eq_none.mp found id hid
    simp [hs] at none
  | some j =>
    obtain ⟨hj, t, ht, device⟩ := find?_some found
    rw [rostered.single j hj id hid t s ht hs device]

theorem Rostered.rewired {a b : Site H} {action : Action H} (rostered : a.Rostered)
    (passes : a.Passes b) (rewired : Rewired a action b) : b.Rostered := by
  have known {i : Nat} (hi : i ∈ a.roster) : ∃ s', b.stations[i]? = some s' ∧
      a.find? s'.device = some i := by
    obtain ⟨s, hs⟩ := rostered.known i hi
    obtain ⟨s', hs', stays⟩ := passes.stays hs
    exact ⟨s', hs', stays.device ▸ rostered.find? hi hs⟩
  have within (le : ∀ i ∈ b.roster, i ∈ a.roster) : b.Rostered := by
    constructor
    · intro i hi
      obtain ⟨s', hs', -⟩ := known (le i hi)
      exact ⟨s', hs'⟩
    · rintro i hi j hj s t hs ht device
      obtain ⟨s', hs', found⟩ := known (le i hi)
      obtain ⟨t', ht', found'⟩ := known (le j hj)
      obtain rfl := Option.some.inj (hs.symm.trans hs')
      obtain rfl := Option.some.inj (ht.symm.trans ht')
      rw [device, found'] at found
      exact (Option.some.inj found).symm
  cases rewired with
  | still roster => exact within fun i hi => roster ▸ hi
  | suspended roster => exact within fun i hi => roster ▸ hi
  | dismissed _ _ roster => exact within fun i hi => List.mem_of_mem_filter (roster ▸ hi)
  | @configured _ _ id s _ hs enters =>
    rcases enters with ⟨-, roster⟩ | ⟨unknown, roster⟩
    · exact within fun i hi => roster ▸ hi
    -- The device of the newcomer had no station before.
    have old {i : Nat} (hi : i ∈ b.roster) {t : Station} (ht : b.stations[i]? = some t) :
        i = id ∨ a.find? t.device = some i := by
      rw [roster, List.mem_append, List.mem_singleton] at hi
      rcases hi with before | new
      · obtain ⟨t', ht', found⟩ := known before
        obtain rfl := Option.some.inj (ht.symm.trans ht')
        exact Or.inr found
      · exact Or.inl new
    constructor
    · intro i hi
      rw [roster, List.mem_append, List.mem_singleton] at hi
      rcases hi with before | rfl
      · obtain ⟨s', hs', -⟩ := known before
        exact ⟨s', hs'⟩
      · exact ⟨s, hs⟩
    · rintro i hi j hj t t' ht ht' device
      rcases old hi ht with rfl | found
      · rcases old hj ht' with rfl | found'
        · rfl
        · obtain rfl := Option.some.inj (hs.symm.trans ht)
          rw [← device, unknown] at found'
          cases found'
      · rcases old hj ht' with rfl | found'
        · obtain rfl := Option.some.inj (hs.symm.trans ht')
          rw [device, unknown] at found
          cases found
        · rw [device, found'] at found
          exact (Option.some.inj found).symm

/-- Two stations on one radio belong to one device. -/
theorem find?_of_shared {a : Site H} (rostered : a.Rostered) (pairs : a.paired) {i j : Nat}
    {s t : Station} (hi : i ∈ a.roster) (hs : a.stations[i]? = some s) (ht : a.stations[j]? = some t)
    (shared : s.unit = t.unit) : a.find? t.device = some i := by
  have device := (pairs s (List.mem_of_getElem? hs) t (List.mem_of_getElem? ht)).mpr shared
  exact device ▸ rostered.find? hi hs

/-- The device of a station that is configured has no other station in the roster, so that none of
the others is on its radio. -/
theorem unit_of_configured {a b : Site H} (rostered : a.Rostered) (passes : a.Passes b)
    (pairs : b.paired) {other : Nat} {t : Station} (ht : b.stations[other]? = some t)
    (enters : a.find? t.device = some other ∧ b.roster = a.roster ∨
      a.find? t.device = none ∧ b.roster = a.roster ++ [other]) {id : Nat} {s : Station}
    (old : id ∈ a.roster) (distinct : id ≠ other) (hs : a.stations[id]? = some s) :
    s.unit ≠ t.unit := by
  intro shared
  obtain ⟨s', hs', stays⟩ := passes.stays hs
  have same := (pairs s' (List.mem_of_getElem? hs') t (List.mem_of_getElem? ht)).mpr
    (stays.unit.trans shared)
  have found := rostered.find? old hs
  rw [← stays.device, same] at found
  rcases enters with ⟨found', -⟩ | ⟨unknown, -⟩
  · exact distinct (Option.some.inj (found.symm.trans found'))
  · rw [unknown] at found
    cases found

/-- A run that keeps to a rule by which nobody else takes the survey's place in a chain leaves the
roster in order, and with it everything that each of its actions preserves while the devices have
radios of their own. -/
theorem rostered_induction {rule : Site H → Action H → Bool} {P : Site H → Prop}
    (apart : ∀ (site : Site H) (unit i : Nat) (sink : Sink),
      rule site (.join unit i sink) = true → i ≠ surveyInterface)
    (step : ∀ (site : Site H) (action : Action H), rule site action = true → site.Rostered →
      (site.perform action).paired → Rewired site action (site.perform action) → P site →
      P (site.perform action))
    {hardware : H} (start : P { hardware }) {actions : List (Action H)}
    (careful : ({ hardware } : Site H).follows rule actions = true) :
    (({ hardware } : Site H).performAll actions).Rostered ∧
      ((({ hardware } : Site H).performAll actions).paired →
        P (({ hardware } : Site H).performAll actions)) := by
  refine follows_induction (P := fun site => site.Rostered ∧ (site.paired → P site)) ?_ careful
    ⟨⟨nofun, nofun⟩, fun _ => start⟩
  rintro site action allowed ⟨rostered, holds⟩
  have passes := (perform_does site action).passes
  have rewired : Rewired site action (site.perform action) := by
    apply perform_rewired
    rintro unit i sink rfl
    exact apart site unit i sink allowed
  refine ⟨rostered.rewired passes rewired, fun pairs => ?_⟩
  exact step site action allowed rostered pairs rewired (holds (passes.paired pairs))

end Roster

end Site

end RangeSurvey
