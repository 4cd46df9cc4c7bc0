import RangeSurvey.Proofs.Site.Roster

/-!
# The same request again

A device that is enrolled again, as what it is, keeps its station as it is, with everything that is
under way: the configuration is exchanged, the station is ready, and it stands in the chain of its
radio, where all others keep their places. Nothing else changes, and to ask once more changes
nothing at all but the record.
-/

namespace RangeSurvey

namespace Chain

universe u

variable {α : Type u}

/-- The second chain is the first one with a sink under an identifier, in the place of the one
before it or at the end. All others stand where they stood. -/
structure Takes (id : Nat) (sink : α) (c c' : Chain α) : Prop where
  hears : c'.sink? id = some sink
  ids : c'.ids = if c.contains id then c.ids else c.ids ++ [id]
  others : ∀ (i : Nat) (e : Nat × α), e.1 ≠ id →
    (c'.entries[i]? = some e ↔ c.entries[i]? = some e)

theorem place_place (id : Nat) (sink : α) (entries : List (Nat × α)) :
    place id sink (place id sink entries) = place id sink entries := by
  induction entries with
  | nil => simp [place]
  | cons e es ih =>
    by_cases here : e.1 = id
    · simp [place, here]
    · simp [place, here, ih]

theorem register_register (c : Chain α) (id : Nat) (sink : α) :
    (c.register id sink).register id sink = c.register id sink :=
  congrArg Chain.mk (place_place id sink c.entries)

theorem ids_place (id : Nat) (sink : α) (entries : List (Nat × α)) :
    (place id sink entries).map Prod.fst =
      if entries.any (fun e => e.1 == id) then entries.map Prod.fst
      else entries.map Prod.fst ++ [id] := by
  induction entries with
  | nil => simp [place]
  | cons e es ih =>
    by_cases here : e.1 = id
    · simp [place, here]
    · simp only [place, here, if_false, List.map_cons, ih, List.any_cons, beq_iff_eq,
        Bool.or_eq_true, false_or]
      split
      · rfl
      · rfl

theorem getElem?_place {id : Nat} (sink : α) (entries : List (Nat × α)) (i : Nat) {e : Nat × α}
    (other : e.1 ≠ id) : (place id sink entries)[i]? = some e ↔ entries[i]? = some e := by
  have apart : (id, sink) ≠ e := by
    rintro rfl
    exact other rfl
  induction entries generalizing i with
  | nil =>
    cases i with
    | zero => simp [place, apart]
    | succ i => simp [place]
  | cons first rest ih =>
    by_cases here : first.1 = id
    · have unlike : first ≠ e := by
        rintro rfl
        exact other here
      cases i with
      | zero => simp [place, here, apart, unlike]
      | succ i => simp [place, here]
    · cases i with
      | zero => simp [place, here]
      | succ i => simpa [place, here] using ih i

theorem register_takes (c : Chain α) (id : Nat) (sink : α) :
    Takes id sink c (c.register id sink) where
  hears := sink?_register_self c id sink
  ids := ids_place id sink c.entries
  others i _ := getElem?_place sink c.entries i

end Chain

namespace Site

variable {H : Type} [Hardware H]

def reset (site : Site H) (id : Nat) (s : Station) (config : Configuration)
    (news : List Entry) : Site H :=
  { site with
    stations := site.stations.set id { s with config, status := { s.status with ready := true } }
    chain := fun unit => if unit = s.unit ∧ Hardware.present site.hardware unit = true
      then (site.chain unit).register surveyInterface (.station id) else site.chain unit
    trace := news ++ site.trace }

/-- A request that leaves all as it is, but for the configuration and the readiness of station `id`,
which is `s`, and the survey's entry in the chain of its radio. The same request made again leaves
everything as it is then. -/
structure Renews {R : Type} (site : Site H) (request : Site H → Site H × R) (id : Nat) (s : Station)
    (config : Configuration) (answer : R) (news : List Entry) : Prop where
  answer_eq : (request site).2 = answer
  site_eq : (request site).1 = { site with
    stations := site.stations.set id { s with config, status := { s.status with ready := true } }
    chain := (request site).1.chain
    trace := news ++ site.trace }
  hooked : Hardware.present site.hardware s.unit = true →
    Chain.Takes surveyInterface (.station id) (site.chain s.unit) ((request site).1.chain s.unit)
  absent : Hardware.present site.hardware s.unit = false →
    (request site).1.chain s.unit = site.chain s.unit
  elsewhere : ∀ unit, unit ≠ s.unit → (request site).1.chain unit = site.chain unit
  again : request (request site).1 =
    ({ (request site).1 with trace := news ++ (request site).1.trace }, answer)

section Reset

variable {site : Site H} {id : Nat} {s : Station}

omit [Hardware H] in
theorem update_eq (hs : site.stations[id]? = some s) (f : Station → Station) :
    site.update id f = { site with stations := site.stations.set id (f s) } := by
  rw [update, act_some _ hs]
  rfl

theorem hook_eq (hs : site.stations[id]? = some s) : site.hook id =
    { site with
      chain := fun unit => if unit = s.unit ∧ Hardware.present site.hardware unit = true
        then (site.chain unit).register surveyInterface (.station id) else site.chain unit
      trace := .called (.register s.unit surveyInterface) :: site.trace } := by
  simp only [hook, hs, rechain]
  by_cases present : Hardware.present site.hardware s.unit = true
  · have chains : (fun unit => if unit = s.unit
          then (site.chain unit).register surveyInterface (.station id) else site.chain unit) =
        fun unit => if unit = s.unit ∧ Hardware.present site.hardware unit = true
          then (site.chain unit).register surveyInterface (.station id) else site.chain unit := by
      funext unit
      by_cases here : unit = s.unit
      · simp [here, present]
      · simp [here]
    rw [if_pos (show Hardware.present (site.call _).hardware s.unit = true from present), ← chains]
    rfl
  · have chains : (fun unit => if unit = s.unit ∧ Hardware.present site.hardware unit = true
          then (site.chain unit).register surveyInterface (.station id) else site.chain unit) =
        site.chain := by
      funext unit
      apply if_neg
      rintro ⟨rfl, there⟩
      exact present there
    rw [if_neg (show ¬Hardware.present (site.call _).hardware s.unit = true from present), chains]
    rfl

theorem configured_eq (hs : site.stations[id]? = some s) (config : Station → Configuration) :
    (site.update id fun s => s.configure (config s)).hook id =
      site.reset id s (config s) [.called (.register s.unit surveyInterface)] := by
  rw [hook_eq (stations_update hs _), update_eq hs]
  rfl

/-- To reset a station once more changes nothing but the record. -/
theorem reset_reset (site : Site H) (id : Nat) (s : Station) (config : Configuration)
    (news : List Entry) :
    (site.reset id s config news).reset id (s.configure config) config news =
      { site.reset id s config news with
        trace := news ++ (site.reset id s config news).trace } := by
  have stations : (site.reset id s config news).stations.set id (s.configure config) =
      (site.reset id s config news).stations := List.set_set _
  have chains : (fun unit => if unit = s.unit ∧ Hardware.present site.hardware unit = true
        then ((site.reset id s config news).chain unit).register surveyInterface (.station id)
        else (site.reset id s config news).chain unit) =
      (site.reset id s config news).chain := by
    funext unit
    by_cases here : unit = s.unit ∧ Hardware.present site.hardware unit = true
    · simp only [reset, if_pos here, Chain.register_register]
    · simp only [reset, if_neg here]
  calc (site.reset id s config news).reset id (s.configure config) config news
      = { site.reset id s config news with
          stations := (site.reset id s config news).stations.set id (s.configure config)
          chain := fun unit => if unit = s.unit ∧ Hardware.present site.hardware unit = true
            then ((site.reset id s config news).chain unit).register surveyInterface (.station id)
            else (site.reset id s config news).chain unit
          trace := news ++ (site.reset id s config news).trace } := rfl
    _ = _ := by rw [stations, chains]

/-- A request that resets a station, and does so again when it is made again, renews it. -/
theorem Renews.of_reset {R : Type} {request : Site H → Site H × R} {config : Configuration}
    {answer : R} {news : List Entry} (first : request site = (site.reset id s config news, answer))
    (second : request (site.reset id s config news) =
      ((site.reset id s config news).reset id (s.configure config) config news, answer)) :
    site.Renews request id s config answer news := by
  rw [reset_reset] at second
  constructor
  case answer_eq => rw [first]
  case site_eq => rw [first, reset]
  case again => rw [first, second]
  case hooked =>
    intro present
    simp only [first, reset, present, and_self, if_true]
    exact Chain.register_takes _ _ _
  case absent =>
    intro absent
    simp [first, reset, absent]
  case elsewhere =>
    intro unit other
    simp [first, reset, other]

end Reset

section Requests

variable {site : Site H} {id : Nat} {s : Station}

/-- What the device has after a reset of its station. -/
theorem stations_reset (hs : site.stations[id]? = some s) (config : Configuration)
    (news : List Entry) :
    (site.reset id s config news).stations[id]? = some (s.configure config) :=
  List.getElem?_set_self (List.getElem?_eq_some_iff.mp hs).1

theorem enrol_eq_reset (sound : s.Sound) {e : Enrolment} (found : site.find? e.device = some id)
    (hs : site.stations[id]? = some s) (size : s.nodeCount = e.nodeCount)
    (identity : s.identity = e.identity) :
    site.enrol e = (site.reset id s e.config [.noticed (.renewed e.device),
      .called (.register s.unit surveyInterface)], ⟨.ok id, false⟩) := by
  have counted : checkNodeCount s.nodeCount = .ok () := if_pos sound.nodeCount
  have configured := configured_eq hs fun _ => e.config
  simp only [enrol, ← size, counted, found, hs, renew, identity, ne_eq, not_true_eq_false, if_false,
    configured]
  rfl

theorem adopt_eq_reset (found : site.find? s.device = some id) (hs : site.stations[id]? = some s) :
    site.adopt id =
      (site.reset id s s.config [.called (.register s.unit surveyInterface)], .ok ()) := by
  simp only [adopt, hs, found, if_true, configured_eq hs Station.config]

theorem enrol_renews (listed : site.Listed) (sound : s.Sound) {e : Enrolment}
    (found : site.find? e.device = some id) (hs : site.stations[id]? = some s)
    (size : s.nodeCount = e.nodeCount) (identity : s.identity = e.identity) :
    site.Renews (fun site => site.enrol e) id s e.config ⟨.ok id, false⟩
      [.noticed (.renewed e.device), .called (.register s.unit surveyInterface)] := by
  have first := enrol_eq_reset sound found hs size identity
  have again : (site.enrol e).1.Listed := listed.perform (.enrol e)
  obtain ⟨member, t, ht, device⟩ := listed.find?_iff.mp found
  obtain rfl := Option.some.inj (hs.symm.trans ht)
  rw [first] at again
  have there := stations_reset hs e.config
    [.noticed (.renewed e.device), .called (.register s.unit surveyInterface)]
  have configured : (s.configure e.config).Sound := sound.same rfl rfl rfl rfl
  exact .of_reset first (enrol_eq_reset configured (again.find?_iff.mpr ⟨member, _, there, device⟩)
    there size identity)

theorem adopt_renews (listed : site.Listed) (member : id ∈ site.roster)
    (hs : site.stations[id]? = some s) :
    site.Renews (fun site => site.adopt id) id s s.config (.ok ())
      [.called (.register s.unit surveyInterface)] := by
  have first := adopt_eq_reset (listed.find? member hs) hs
  have again : (site.adopt id).1.Listed := listed.perform (.adopt id)
  rw [first] at again
  have there := stations_reset hs s.config [.called (.register s.unit surveyInterface)]
  exact .of_reset first (adopt_eq_reset (again.find? member there) there)

end Requests

/-- To enrol or adopt a station that a device has already leaves all as it is but for configuration,
readiness and the entry in the chain, and made again changes nothing more. -/
theorem renewal_idempotent (hardware : H) (actions : List (Action H)) :
    (∀ e id s, (({ hardware } : Site H).performAll actions).find? e.device = some id →
      (({ hardware } : Site H).performAll actions).stations[id]? = some s →
      s.nodeCount = e.nodeCount → s.identity = e.identity →
      (({ hardware } : Site H).performAll actions).Renews (fun site => site.enrol e) id s e.config
        ⟨.ok id, false⟩
        [.noticed (.renewed e.device), .called (.register s.unit surveyInterface)]) ∧
    (∀ id s, id ∈ (({ hardware } : Site H).performAll actions).roster →
      (({ hardware } : Site H).performAll actions).stations[id]? = some s →
      (({ hardware } : Site H).performAll actions).Renews (fun site => site.adopt id) id s s.config
        (.ok ()) [.called (.register s.unit surveyInterface)]) := by
  have listed := listed_performAll hardware actions
  constructor
  · intro e id s found hs size identity
    have sound : s.Sound := Passes.sound (performAll_passes _ actions) hs
    exact enrol_renews listed sound found hs size identity
  · intro id s member hs
    exact adopt_renews listed member hs

/-- A station over storage of its caller, which stands between two others in the chain of its radio,
is dismissed while it waits for a row. -/
def dismissedWaiting : List (Action Bench) :=
  [.join 0 1 (.recorder "before" .notMine), .build ⟨0, 2, ⟨0x100, 0, 12⟩, {}, 0⟩, .adopt 0,
    .join 0 9 (.recorder "after" .notMine),
    .start 0 (.call { station := 0, activity := .receive, deadline := 0 }), .poll 0, .dismiss 0]

/-- The device is enrolled with another configuration, and its station waits on in its old place. -/
theorem renewal_idempotent_waiting :
    let site := ({ hardware := {} } : Site Bench).performAll dismissedWaiting
    let e : Enrolment := ⟨0, 2, ⟨0x100, 0, 12⟩, { roundShift := 3 }, 0⟩
    ∃ s, site.stations[0]? = some s ∧ s.latch = .held ∧ s.status.ready = false ∧
      (site.enrol e).1.stations = site.stations.set 0
        { s with config := { roundShift := 3 }, status := { s.status with ready := true } } ∧
      (site.enrol e).1.tasks = site.tasks ∧
      ((site.enrol e).1.chain 0).ids = [1, surveyInterface, 9] ∧
      ((site.enrol e).1.enrol e).2 = ⟨.ok 0, false⟩ := by
  intro site e
  have waits : (site.stations[0]?).map
      (fun s => (s.nodeCount, s.identity, s.latch, s.status.ready, s.unit)) =
        some (2, ⟨0x100, 0, 12⟩, .held, false, 0) := by decide +kernel
  obtain ⟨s, hs, fields⟩ := Option.map_eq_some_iff.mp waits
  simp only [Prod.mk.injEq] at fields
  obtain ⟨size, identity, held, rests, unit⟩ := fields
  have renews := (renewal_idempotent ({} : Bench) dismissedWaiting).1 e 0 s (by decide +kernel) hs
    size identity
  have takes := renews.hooked rfl
  refine ⟨s, hs, held, rests, ?_, ?_, ?_, ?_⟩
  · rw [renews.site_eq]
  · rw [renews.site_eq]
  · rw [unit] at takes
    exact takes.ids.trans (by decide +kernel)
  · exact congrArg Prod.snd renews.again

end Site

end RangeSurvey
