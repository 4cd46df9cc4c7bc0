import RangeSurvey.Bench
import RangeSurvey.Proofs.Site.Exclusion
import RangeSurvey.Proofs.Site.Wiring

/-!
# Waits and teardown

A call that has armed its radio waits for an event that reaches its station through the chain of the
radio. As long as a station begins to wait only while it hears its radio, and no station over storage
of its own is dismissed while somebody waits on its radio, every waiting station goes on to hear the
radio, and a timeout or a reset lets its call return. A station that is dismissed while it waits is
never told of the end of its wait.
-/

namespace RangeSurvey

/-- A station that hears of a timeout or of a reset waits no longer. -/
theorem Station.hear_ends (s : Station) {event : RadioEvent}
    (ends : event = .timedOut ∨ event = .reset) :
    (s.hear event).station.latch = .available := by
  rcases ends with rfl | rfl
  · cases latch : s.latch with
    | available => simp [hear, hearTimeout, latch, Latch.putBack]
    | held => simp [hear, hearTimeout, latch, Latch.putBack]
  · exact s.hearReset_available

theorem Chain.mem_sinks {α : Type} {c : Chain α} {id : Nat} {sink : α}
    (h : c.sink? id = some sink) : sink ∈ c.sinks := by
  obtain ⟨e, found, rfl⟩ := Option.map_eq_some_iff.mp h
  exact List.mem_map_of_mem (List.mem_of_find?_eq_some found)

namespace Site

variable {H : Type}

/-! ## What reaches a station -/

section Reach

variable {site : Site H} {id : Nat} {event : RadioEvent}

theorem offer_head {sink : Sink} (handled : (offer event sink site).2 = .handled) :
    (offer event sink site).1.trace.head? = some (.offered sink event .handled) := by
  cases sink with
  | recorder label verdict =>
    have same : verdict = .handled := handled
    rw [same]
    rfl
  | station j =>
    simp only [offer] at handled ⊢
    split at handled
    · cases handled
    · next t _ =>
      have same : (t.hear event).verdict = .handled := handled
      rw [same]
      rfl

/-- A station that does not wait does not begin to wait by what anybody hears. -/
theorem available_of_aside {next : Site H} {s : Station} (h : Does Deed.Aside site next)
    (hs : site.stations[id]? = some s) (available : s.latch = .available) :
    ∃ s', next.stations[id]? = some s' ∧ s'.latch = .available := by
  refine h.station (P := fun s' => s'.latch = .available) ?_ hs available
  rintro d t t' aside moved before
  have calm : d.taker? ≠ some id := by simp [aside.outside.taker?]
  exact (Station.moves_entries moved calm).2 before

/-- What ends a wait reaches every station of a chain, unless somebody else consumes it. -/
theorem offerAll_reaches (ends : event = .timedOut ∨ event = .reset) {sinks : List Sink}
    (member : .station id ∈ sinks) {s : Station} (hs : site.stations[id]? = some s) :
    (∃ sink, sink ≠ .station id ∧ (Chain.offerAll (offer event) sinks site).1.trace.head? =
        some (.offered sink event .handled)) ∨
      ∃ s', (Chain.offerAll (offer event) sinks site).1.stations[id]? = some s' ∧
        s'.latch = .available := by
  induction sinks generalizing site s with
  | nil => cases member
  | cons sink rest ih =>
    by_cases here : sink = .station id
    · right
      subst here
      have told := Did.stations_offer site event id id
      rw [if_pos rfl, hs, Option.map_some] at told
      have available := s.hear_ends ends
      cases heard : offer event (.station id) site with
      | mk next verdict =>
        rw [heard] at told
        cases verdict with
        | handled => exact ⟨_, by simp only [Chain.offerAll, heard]; exact told, available⟩
        | notMine =>
          simp only [Chain.offerAll, heard]
          exact available_of_aside (offerAll_does event rest next) told available
        | malformed =>
          simp only [Chain.offerAll, heard]
          exact available_of_aside (offerAll_does event rest next) told available
    · have later : .station id ∈ rest := (List.mem_cons.mp member).resolve_left (Ne.symm here)
      obtain ⟨s', hs'⟩ := (offer_does site event sink).remains hs
      have head (handled : (offer event sink site).2 = .handled) := offer_head handled
      cases heard : offer event sink site with
      | mk next verdict =>
        rw [heard] at hs' head
        cases verdict with
        | handled =>
          simp only [Chain.offerAll, heard]
          exact Or.inl ⟨sink, here, head rfl⟩
        | notMine =>
          simp only [Chain.offerAll, heard]
          exact ih later hs'
        | malformed =>
          simp only [Chain.offerAll, heard]
          exact ih later hs'

end Reach

variable [Hardware H]

/-! ## Waits during teardown -/

def awaited (site : Site H) (unit : Nat) : Bool :=
  (List.range site.stations.length).any fun id =>
    (site.stations[id]?).any (fun s => s.unit == unit) && !(site.armed id).isEmpty

/-- Tasks are begun anew, a station begins to wait only while it is in the roster and hears its
radio, no station over storage of its own is dismissed while somebody waits on its radio, and nobody
else registers under the survey's identifier. -/
def sheltered (site : Site H) : Action H → Bool
  | .start _ task => task.isNew
  | .poll k => (site.taker? k).all fun id => site.roster.contains id && site.hooked id
  | .dismiss id => (site.stations[id]?).all fun s => !s.status.ownsStorage || !site.awaited s.unit
  | .join _ i _ => i != surveyInterface
  | _ => true

def Reached (site : Site H) : Prop :=
  ∀ id, site.armed id ≠ [] → id ∈ site.roster ∧ site.hooked id = true

section Step

variable {a b : Site H} {action : Action H} {id : Nat}

omit [Hardware H] in
theorem awaited_of_armed {s : Station} (hs : a.stations[id]? = some s) (armed : a.armed id ≠ []) :
    a.awaited s.unit = true := by
  have inside : id < a.stations.length := (List.getElem?_eq_some_iff.mp hs).1
  simp only [awaited, List.any_eq_true, List.mem_range]
  exact ⟨id, inside, by simp [hs, armed]⟩

/-- A station whose radio is armed after an action was in the roster and heard its radio before. If
the action is no look at a task, then its radio was armed before. -/
theorem armed_perform (shelter : a.Reached) (allowed : sheltered a action = true)
    (armed : (a.perform action).armed id ≠ []) :
    (id ∈ a.roster ∧ a.hooked id = true) ∧ ((∀ k, action ≠ .poll k) → a.armed id ≠ []) := by
  obtain ⟨k, hk⟩ := List.exists_mem_of_ne_nil _ armed
  have old (before : k ∈ a.armed id) : a.armed id ≠ [] := List.ne_nil_of_mem before
  rcases marked_perform hk with
    before | ⟨task, rfl, marks⟩ | ⟨task, task', rfl, found, waiting, marks⟩
  · exact ⟨shelter id (old before), fun _ => old before⟩
  · cases task with
    | slot job => cases marks
    | call c =>
      simp only [sheltered, Task.isNew, beq_iff_eq] at allowed
      simp [Task.isArmed, allowed] at marks
  · refine ⟨?_, fun other => absurd rfl (other k)⟩
    cases before : task.isArmed id with
    | true => exact shelter id (old (marked_of_task? found before))
    | false =>
      have taker := taker?_of_armed found waiting before marks
      simpa [sheltered, taker] using allowed

theorem Reached.rewired (shelter : a.Reached) (rostered : a.Rostered) (passes : a.Passes b)
    (pairs : b.paired) (allowed : sheltered a action = true) (performed : b = a.perform action)
    (rewired : Rewired a action b) : b.Reached := by
  intro id armed
  obtain ⟨⟨member, hooked⟩, waits⟩ := armed_perform shelter allowed (performed ▸ armed)
  cases rewired with
  | still roster sinks =>
    exact ⟨roster ▸ member, hooked_of_same passes hooked fun s _ => sinks s.unit⟩
  | suspended roster sinks =>
    exact ⟨roster ▸ member, hooked_of_same passes hooked fun s _ => sinks s.unit⟩
  | @dismissed _ other t ht owns roster sinks =>
    have elsewhere {s : Station} (hs : a.stations[id]? = some s) : s.unit ≠ t.unit := by
      intro shared
      have awaited := awaited_of_armed hs (waits nofun)
      simp [sheltered, ht, owns, ← shared, awaited] at allowed
    constructor
    · rw [roster, List.mem_filter, bne_iff_ne]
      refine ⟨member, ?_⟩
      rintro rfl
      exact elsewhere ht rfl
    · exact hooked_of_same passes hooked fun s hs => sinks s.unit (elsewhere hs)
  | @configured _ _ other t _ ht enters sinks =>
    constructor
    · rcases enters with ⟨-, roster⟩ | ⟨-, roster⟩
      · exact roster ▸ member
      · exact roster ▸ List.mem_append_left _ member
    by_cases distinct : id = other
    · subst distinct
      obtain ⟨s, hs⟩ := rostered.known id member
      obtain ⟨t', ht', stays⟩ := passes.stays hs
      obtain rfl := Option.some.inj (ht.symm.trans ht')
      rw [hooked_iff ht, sinks, stays.unit, (hooked_iff hs).mp hooked, ite_self]
    · refine hooked_of_same passes hooked fun s hs => ?_
      rw [sinks, if_neg]
      rintro ⟨shared, -⟩
      exact unit_of_configured rostered passes pairs ht enters member distinct hs shared

end Step

/-- A call that has armed the radio of its station waits at a station that hears this radio, unless
a station is dismissed while it is waited for. The next timeout or reset then ends the wait. -/
theorem waits_reachable (hardware : H) (actions : List (Action H))
    (careful : ({ hardware } : Site H).follows sheltered actions = true)
    (pairs : (({ hardware } : Site H).performAll actions).paired) {k : Nat} {c : Call}
    (found : (({ hardware } : Site H).performAll actions).task? k = some (.call c))
    (armed : c.stage = .armed) {event : RadioEvent} (ends : event = .timedOut ∨ event = .reset) :
    let site := ({ hardware } : Site H).performAll actions
    site.hooked c.station = true ∧ ∃ s, site.stations[c.station]? = some s ∧
      ((∃ sink, sink ≠ .station c.station ∧
          (site.raise s.unit event).1.trace.head? = some (.offered sink event .handled)) ∨
        (∃ s', (site.raise s.unit event).1.stations[c.station]? = some s' ∧ s'.isIdle = true) ∧
          (poll k (site.raise s.unit event).1).2.isSome = true) := by
  intro site
  have start : Reached ({ hardware } : Site H) := fun id armed => absurd rfl armed
  have kept : site.Rostered ∧ (site.paired → site.Reached) := by
    refine rostered_induction (by simp [sheltered]) ?_ start careful
    intro site action allowed rostered pairs rewired shelter
    exact shelter.rewired rostered (perform_does site action).passes pairs allowed rfl rewired
  obtain ⟨rostered, shelter⟩ := kept
  obtain ⟨member, hooked⟩ :=
    shelter pairs c.station (List.ne_nil_of_mem (armed_of_task? found armed))
  obtain ⟨s, hs⟩ := rostered.known c.station member
  refine ⟨hooked, s, hs, ?_⟩
  have inChain := Chain.mem_sinks ((hooked_iff hs).mp hooked)
  rcases offerAll_reaches ends inChain hs with consumed | ⟨s', hs', available⟩
  · exact Or.inl consumed
  · refine Or.inr ⟨⟨s', hs', Station.isIdle_iff.mpr available⟩, ?_⟩
    have tasks : (site.raise s.unit event).1.tasks = site.tasks :=
      (raise_does site s.unit event).tasks fun _ aside => aside.outside.tasks
    have found' : (site.raise s.unit event).1.task? k = some (.call c) := by
      simp only [task?, tasks]
      exact found
    exact (poll_armed found' armed hs').mpr available

/-- A station over storage of its caller waits for a row, and is dismissed. -/
def suspended : List (Action Bench) :=
  [.build ⟨0, 2, ⟨0x100, 0, 12⟩, {}, 0⟩, .adopt 0,
    .start 0 (.call { station := 0, activity := .receive, deadline := 0 }), .poll 0, .dismiss 0]

/-- The station rests, and a timeout still lets its call return. -/
theorem waits_reachable_suspended :
    let site := ({ hardware := {} } : Site Bench).performAll suspended
    site.isReady 0 = false ∧ site.hooked 0 = true ∧
      (poll 0 (site.raise 0 .timedOut).1).2.isSome = true := by
  intro site
  have careful : ({ hardware := {} } : Site Bench).follows sheltered suspended = true := by
    decide +kernel
  have pairs : site.paired := by decide +kernel
  have waiting : 0 ∈ site.armed 0 := by decide +kernel
  have unit : (site.stations[0]?).map Station.unit = some 0 := by decide +kernel
  have own : (site.raise 0 .timedOut).1.trace.head? =
      some (.offered (.station 0) .timedOut .handled) := by decide +kernel
  have rests : site.isReady 0 = false := by decide +kernel
  obtain ⟨c, found, here, armed⟩ := task?_of_armed (nodup_pending _ suspended) waiting
  obtain ⟨hooked, s, hs, reached⟩ := waits_reachable _ suspended careful pairs found armed
    (Or.inl rfl)
  simp only [here] at hooked hs reached
  obtain ⟨t, ht, unit⟩ := Option.map_eq_some_iff.mp unit
  obtain rfl := Option.some.inj (hs.symm.trans ht)
  rw [unit] at reached
  refine ⟨rests, hooked, ?_⟩
  rcases reached with ⟨sink, other, consumed⟩ | ⟨-, returns⟩
  · obtain ⟨rfl, -⟩ := Entry.offered.inj (Option.some.inj (consumed.symm.trans own))
    exact absurd rfl other
  · exact returns

/-- A station over storage of its own waits for a row, and is dismissed. -/
def stranded : List (Action Bench) :=
  [.enrol ⟨0, 2, ⟨0x100, 0, 12⟩, {}, 0⟩,
    .start 0 (.call { station := 0, activity := .receive, deadline := 0 }), .poll 0, .dismiss 0]

/-- Its call goes on to wait, and nobody hears the timeout and the reset that were to end it. -/
theorem wait_stranded :
    let site := ({ hardware := {} } : Site Bench).performAll stranded
    site.paired ∧ site.armed 0 = [0] ∧ site.hooked 0 = false ∧
      ∀ event ∈ [RadioEvent.timedOut, .reset], (site.raise 0 event).2 = false ∧
        ((site.raise 0 event).1.stations[0]?).map Station.isIdle = some false ∧
        (poll 0 (site.raise 0 event).1).2.isSome = false := by
  decide +kernel

end Site

end RangeSurvey
