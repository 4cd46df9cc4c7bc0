import RangeSurvey.Proofs.Site.Sequential
import RangeSurvey.Proofs.Site.Step

/-!
# Steps that are not given up

As long as the steps of a station do not overlap and none is given up, the station is idle between
them, so that every step finds the token when it begins. From then on it goes on by the looks at its
own task alone.
-/

namespace RangeSurvey.Site

variable {H : Type} [Hardware H]

/-! ## Idle stations -/

/-- The token of station `id`, if there is such a station, is in its place. -/
def Idle (site : Site H) (id : Nat) : Prop :=
  ∀ s : Station, site.stations[id]? = some s → s.latch = .available

omit [Hardware H] in
/-- A station stays idle as long as nobody takes its token. -/
theorem Does.idle {ok : Deed → Prop} {x y : Site H} {id : Nat} (h : Does ok x y)
    (calm : ∀ d, ok d → d.taker? ≠ some id) (idle : x.Idle id) : y.Idle id := by
  refine h.keeps (P := fun site => site.Idle id) ?_ idle
  intro d a b hd did idle s' hs'
  rcases did.known hs' with ⟨s, hs⟩ | ⟨e, ownsStorage, built⟩
  · obtain ⟨s'', hs'', moved⟩ := did.station hs
    obtain rfl := Option.some.inj (hs'.symm.trans hs'')
    exact (Station.moves_entries moved (calm d hd)).2 (idle s hs)
  · obtain ⟨rfl, -⟩ := Station.build_eq built
    rfl

/-! ## What a look leaves behind -/

section Poll

variable {k : Nat} {site begun after : Site H} {task : Task} {c c' : Call} {status : Status}

omit [Hardware H] in
theorem stations_say (site : Site H) (id : Nat) (n : StationNotice) :
    (site.say id n).stations = site.stations := by
  cases hs : site.stations[id]? with
  | none => rw [say, act_none _ hs]
  | some s =>
    obtain ⟨inside, rfl⟩ := List.getElem?_eq_some_iff.mp hs
    rw [say, act_some _ hs]
    exact List.set_getElem_self inside

omit [Hardware H] in
theorem stations_conclude (site : Site H) (c : Call) (status : Status) :
    (site.conclude c status).1.stations = site.stations := by
  rw [conclude]
  split
  · rfl
  simp only
  split
  · split
    · rw [announce]
      split
      · rfl
      · exact stations_say _ _ _
    · rfl
  · rfl

theorem poll_waits (found : site.task? k = some task) (turn : site.turn task = some (begun, c))
    (looked : begun.look c = (after, .waiting c')) :
    (poll k site).1.task? k = some (.call c') := by
  have same : after.task? k = some task := by
    have ran := run_tasks site task
    rw [run_turn turn, runCall, looked] at ran
    rwa [task?, ran]
  simp only [poll, found, run_turn turn, runCall, looked]
  rw [task?_replaceTask, if_pos rfl, same, Option.map_some]

theorem poll_done (found : site.task? k = some task) (turn : site.turn task = some (begun, c))
    (looked : begun.look c = (after, .done status)) :
    (poll k site).1.stations = after.stations ∧ (poll k site).1.task? k = none := by
  simp only [poll, found, run_turn turn, runCall, looked]
  refine ⟨stations_conclude after c status, ?_⟩
  have gone := task?_removeTask (after.conclude c status).1 k k
  rwa [if_pos rfl] at gone

theorem poll_skips (found : site.task? k = some task) (turn : site.turn task = none) :
    (poll k site).1.task? k = none := by
  cases task with
  | call c => cases turn
  | slot job =>
    simp only [Site.turn, Option.map_eq_none_iff] at turn
    simp only [poll, found, run]
    generalize site.enter job = x at turn ⊢
    obtain ⟨next, called⟩ := x
    obtain rfl : called = none := turn
    have gone := task?_removeTask next k k
    rwa [if_pos rfl] at gone

end Poll

/-! ## Steps from their first look on -/

/-- Steps of station `id` do not overlap, and none of them is given up. -/
def unbroken (id : Nat) (site : Site H) : Action H → Bool
  | .cancel k => !(site.marked (Task.isBegun id)).contains k
  | action => sequential id site action

theorem sequential_of_unbroken {id : Nat} {site : Site H} {action : Action H}
    (allowed : unbroken id site action = true) : sequential id site action = true := by
  cases action with
  | cancel k => rfl
  | _ => exact allowed

/-- Step `c` has begun on site `begun` with station `s`, by the look at task `k` that comes after
the actions `before`, and has gone on ever since, but for the end of `rest` perhaps. -/
structure Stretch (start : Site H) (actions : List (Action H)) (k : Nat)
    (before rest : List (Action H)) (begun : Site H) (c : Call) (s : Station) : Prop where
  run : actions = before ++ .poll k :: rest
  turn : ((start.performAll before).task? k).bind (start.performAll before).turn = some (begun, c)
  fresh : c.stage = .fresh
  station : begun.stations[c.station]? = some s
  goesOn : ∀ first, first <+: rest → first ≠ rest →
    k ∈ (start.performAll (before ++ .poll k :: first)).marked (Task.isBegun c.station)

section Stretch

variable {start begun : Site H} {actions before rest : List (Action H)} {k : Nat} {c : Call}
  {s : Station}

theorem Stretch.first {task : Task} (found : (start.performAll actions).task? k = some task)
    (turn : (start.performAll actions).turn task = some (begun, c)) (fresh : c.stage = .fresh)
    (hs : begun.stations[c.station]? = some s) :
    start.Stretch (actions ++ [.poll k]) k actions [] begun c s where
  run := rfl
  turn := by rw [found, Option.bind_some, turn]
  fresh := fresh
  station := hs
  goesOn first within short := absurd (List.prefix_nil.mp within) short

theorem Stretch.snoc (stretch : start.Stretch actions k before rest begun c s)
    (on : k ∈ (start.performAll actions).marked (Task.isBegun c.station)) (action : Action H) :
    start.Stretch (actions ++ [action]) k before (rest ++ [action]) begun c s where
  run := by rw [stretch.run, List.append_assoc, List.cons_append]
  turn := stretch.turn
  fresh := stretch.fresh
  station := stretch.station
  goesOn first within short := by
    rcases List.prefix_concat_iff.mp within with whole | within
    · exact absurd whole short
    · by_cases last : first = rest
      · rw [last, ← stretch.run]
        exact on
      · exact stretch.goesOn first within last

theorem Going.unfresh {site : Site H} {stage : Stage} (going : site.Going begun c s stage) :
    stage ≠ .fresh := by
  obtain ⟨t, news, -, -, goes⟩ := going
  cases goes with
  | exchanges _ unfresh => exact unfresh
  | waits => simp

end Stretch

def LooksAt (site : Site H) (id : Nat) (action : Action H) : Prop :=
  ∃ k task begun c s, action = .poll k ∧ site.task? k = some task ∧
    site.turn task = some (begun, c) ∧ c.station = id ∧ begun.stations[c.station]? = some s

section LooksAt

variable {site : Site H} {id k : Nat}

theorem looksAt_of_taker? (takes : site.taker? k = some id) : site.LooksAt id (.poll k) := by
  simp only [taker?, Option.bind_eq_some_iff] at takes
  obtain ⟨⟨begun, c⟩, ⟨task, found, turn⟩, token⟩ := takes
  simp only [token?, Option.bind_eq_some_iff, Option.ite_none_right_eq_some,
    Option.some.injEq] at token
  obtain ⟨s, hs, -, here⟩ := token
  exact ⟨k, task, begun, c, s, rfl, found, turn, here, hs⟩

/-- A step that goes on by an action, none being given up, is looked at. -/
theorem looksAt_of_actor? {s : Station} (hs : site.stations[id]? = some s) {action : Action H}
    (allowed : unbroken id site action = true) (acts : site.actor? action = some id) :
    site.LooksAt id action := by
  cases action with
  | poll k =>
    simp only [actor?, Option.map_eq_some_iff, Option.bind_eq_some_iff] at acts
    obtain ⟨⟨begun, c⟩, ⟨task, found, turn⟩, rfl⟩ := acts
    obtain ⟨s', hs'⟩ := (turn_does turn).remains hs
    exact ⟨k, task, begun, c, s', rfl, found, turn, rfl, hs'⟩
  | cancel k =>
    simp only [actor?] at acts
    split at acts
    · next c found =>
      split at acts
      · next engine =>
        have unfresh : c.stage ≠ .fresh := by
          intro fresh
          simp [Call.hasEngine, fresh] at engine
        have on := begun_of_task? found (Option.some.inj acts) unfresh
        simp [unbroken, on] at allowed
      · cases acts
    · cases acts
  | _ => cases acts

/-- A step does not begin where there is no station. -/
theorem looksAt_of_begins {task task' : Task} (none : site.marked (Task.isBegun id) = [])
    (found : site.task? k = some task) (waiting : (site.run task).2 = .waiting task')
    (begins : task'.isBegun id = true) : site.LooksAt id (.poll k) := by
  obtain ⟨begun, c, stage, turn, looked, rfl, -⟩ := run_waiting waiting
  simp only [Task.isBegun, Bool.and_eq_true, beq_iff_eq, bne_iff_ne] at begins
  obtain ⟨here, unfresh⟩ := begins
  cases hs : begun.stations[c.station]? with
  | some s => exact ⟨k, task, begun, c, s, rfl, found, turn, here, hs⟩
  | none =>
    have same : begun.look c = (begun, .waiting c) := by simp only [look, hs]
    rw [same] at looked
    have stays : c.stage = stage := by
      injection looked with same
      exact congrArg Call.stage same
    rw [← stays] at unfresh
    obtain ⟨rfl, -⟩ := turn_of_unfresh turn unfresh
    exact absurd (fresh_of_unmarked none found here) unfresh

end LooksAt

/-- How station `id` stands after a run: no step goes on and the token is in its place, or one step
goes on. -/
inductive Stands (start : Site H) (id : Nat) (actions : List (Action H)) : Prop where
  | idle : (start.performAll actions).marked (Task.isBegun id) = [] →
      (start.performAll actions).Idle id → Stands start id actions
  | busy {k : Nat} {before rest : List (Action H)} {begun : Site H} {c : Call} {s : Station}
      {stage : Stage} : start.Stretch actions k before rest begun c s → c.station = id →
      (start.performAll actions).task? k = some (.call { c with stage }) →
      (start.performAll actions).Going begun c s stage → Stands start id actions

section Stands

variable {start begun : Site H} {actions : List (Action H)} {id k : Nat} {c : Call} {task : Task}

/-- A look at a task whose step belongs to station `id`: the step begins, the station being idle, or
it goes on. -/
theorem Stands.comes (stands : start.Stands id actions)
    (unique : ∀ j ∈ (start.performAll actions).marked (Task.isBegun id),
      ∀ k ∈ (start.performAll actions).marked (Task.isBegun id), j = k)
    (allowed : sequential id (start.performAll actions) (.poll k) = true)
    (found : (start.performAll actions).task? k = some task)
    (turn : (start.performAll actions).turn task = some (begun, c)) (here : c.station = id)
    {s : Station} (hs : begun.stations[c.station]? = some s) (sound : s.Sound) :
    ∃ before rest begun₀ c₀ s₀ stage, c = { c₀ with stage } ∧
      start.Stretch (actions ++ [.poll k]) k before rest begun₀ c₀ s₀ ∧
      Comes begun₀ c₀ s₀ (begun.look c) := by
  by_cases fresh : c.stage = .fresh
  · -- A new step begins only where no other one goes on, and there the token is in its place.
    have none := begun_of_sequential allowed found turn here fresh
    have idle : (start.performAll actions).Idle id := by
      cases stands with
      | idle _ idle => exact idle
      | busy _ here found going => exact absurd (fresh_of_unmarked none found here) going.unfresh
    have available : s.latch = .available := by
      refine (turn_does turn).idle (fun d within takes => ?_) idle s (here ▸ hs)
      rw [or_self_iff.mp within.token] at takes
      cases takes
    exact ⟨actions, [], begun, c, s, c.stage, rfl, .first found turn fresh hs,
      look_begins hs sound fresh available⟩
  · obtain ⟨rfl, rfl⟩ := turn_of_unfresh turn fresh
    cases stands with
    | idle none => exact absurd (fresh_of_unmarked none found here) fresh
    | busy stretch here' found' going =>
      have on := begun_of_task? found here fresh
      obtain rfl := unique _ on _ (begun_of_task? found' here' going.unfresh)
      cases found.symm.trans found'
      exact ⟨_, _, _, _, _, _, rfl, stretch.snoc (here'.symm ▸ on) _, going.look⟩

/-- While a look at a task lets a step of station `id` go on, no other one does. -/
theorem only_of_sequential {site : Site H}
    (unique : ∀ j ∈ site.marked (Task.isBegun id), ∀ k ∈ site.marked (Task.isBegun id), j = k)
    (allowed : sequential id site (.poll k) = true) (found : site.task? k = some task)
    (turn : site.turn task = some (begun, c)) (here : c.station = id) :
    ∀ j ∈ site.marked (Task.isBegun id), j = k := by
  intro j hj
  by_cases fresh : c.stage = .fresh
  · rw [begun_of_sequential allowed found turn here fresh] at hj
    cases hj
  · obtain ⟨rfl, -⟩ := turn_of_unfresh turn fresh
    exact unique j hj k (begun_of_task? found here fresh)

/-- After a look the step goes on, or it is over and the station is idle. -/
theorem Stands.of_comes {before rest : List (Action H)} {begun₀ : Site H} {c₀ : Call} {s : Station}
    {stage : Stage} (stretch : start.Stretch (actions ++ [.poll k]) k before rest begun₀ c₀ s)
    (found : (start.performAll actions).task? k = some task)
    (turn : (start.performAll actions).turn task = some (begun, c)) (here : c.station = id)
    (same : c = { c₀ with stage })
    (only : ∀ j ∈ (start.performAll actions).marked (Task.isBegun id), j = k)
    (comes : Comes begun₀ c₀ s (begun.look c)) : start.Stands id (actions ++ [.poll k]) := by
  subst same here
  have spares := (poll_turn found turn).2 c₀.station
  have last : start.performAll (actions ++ [.poll k]) = (poll k (start.performAll actions)).1 :=
    performAll_snoc start actions (.poll k)
  generalize looked : begun.look { c₀ with stage } = result at comes
  rw [looked] at spares
  cases comes with
  | on later going =>
    have waits := poll_waits found turn looked
    have goes := spares.going going
    rw [← last] at waits goes
    exact .busy stretch rfl waits goes
  | ended ht _ available =>
    obtain ⟨stations, gone⟩ := poll_done found turn looked
    refine .idle ?_ ?_
    · rw [performAll_snoc, List.eq_nil_iff_forall_not_mem]
      intro j hj
      have there : j ≠ k := by
        rintro rfl
        obtain ⟨task, member, -⟩ := mem_marked.mp hj
        exact task?_eq_none.mp gone _ member rfl
      rcases marked_perform hj with old | ⟨_, begins, -⟩ | ⟨_, _, looks, -⟩
      · exact there (only j old)
      · cases begins
      · cases looks
        exact there rfl
    · intro t' ht'
      rw [last, stations] at ht'
      obtain rfl := Option.some.inj (ht.symm.trans ht')
      exact available

/-- Every other action lets no step begin, and leaves alone the one that goes on. -/
theorem Stands.spared (stands : start.Stands id actions)
    (nodup : (start.performAll actions).pending.Nodup) {action : Action H}
    (allowed : unbroken id (start.performAll actions) action = true)
    (other : ¬ (start.performAll actions).LooksAt id action) :
    start.Stands id (actions ++ [action]) := by
  cases stands with
  | idle none idle =>
    refine .idle ?_ ?_
    · rw [performAll_snoc, List.eq_nil_iff_forall_not_mem]
      intro j hj
      rcases marked_perform hj with
        old | ⟨task, rfl, begins⟩ | ⟨task, task', rfl, found, waiting, begins⟩
      · rw [none] at old
        cases old
      · cases task with
        | slot job => cases begins
        | call c =>
          have fresh : c.stage = .fresh := fresh_of_sequential (sequential_of_unbroken allowed)
          simp [Task.isBegun, fresh] at begins
      · exact other (looksAt_of_begins none found waiting begins)
    · rw [performAll_snoc]
      refine (perform_does _ action).idle (fun d of takes => other ?_) idle
      obtain ⟨k, rfl, taker⟩ := of.token id takes
      exact looksAt_of_taker? taker
  | @busy k before rest begun c s stage stretch here found going =>
    subst here
    obtain ⟨t, -, ht, -⟩ := id going
    have on := begun_of_task? found rfl going.unfresh
    have spares : Does (Deed.Spares c.station) (start.performAll actions)
        ((start.performAll actions).perform action) :=
      (perform_does _ action).mono fun d of acts =>
        other (looksAt_of_actor? ht allowed (of.actor _ acts))
    have untouched : action.touches k = false := by
      cases action with
      | poll j =>
        rw [Action.touches, beq_eq_false_iff_ne]
        rintro rfl
        exact other ⟨_, _, _, _, t, rfl, found, rfl, rfl, ht⟩
      | cancel j =>
        rw [Action.touches, beq_eq_false_iff_ne]
        rintro rfl
        simp [unbroken, on] at allowed
      | _ => rfl
    have waits := task?_untouched nodup found untouched
    have goes := spares.going going
    rw [← performAll_snoc] at waits goes
    exact .busy (stretch.snoc on action) rfl waits goes

end Stands

/-! ## Runs -/

/-- Between the steps of a station that do not overlap and are not given up the station is idle. -/
theorem stands {hardware : H} {actions : List (Action H)} {id : Nat}
    (orderly : ({ hardware } : Site H).follows (unbroken id) actions = true) :
    ({ hardware } : Site H).Stands id actions := by
  induction actions using List.reverseRecOn with
  | nil =>
    refine .idle rfl ?_
    intro s hs
    cases hs
  | append_singleton actions action ih =>
    obtain ⟨orderly, allowed⟩ := follows_append.mp orderly
    simp only [follows, Bool.and_true] at allowed
    have stood := ih orderly
    have unique := begun_unique (follows_mono (fun _ _ => sequential_of_unbroken) orderly)
    -- Only a look at a step of the station makes a difference to how the station stands.
    by_cases looks : (({ hardware } : Site H).performAll actions).LooksAt id action
    · obtain ⟨k, task, begun, c, s, rfl, found, turn, here, hs⟩ := looks
      have only := only_of_sequential unique allowed found turn here
      obtain ⟨before, rest, begun₀, c₀, s₀, stage, same, stretch, comes⟩ :=
        stood.comes unique allowed found turn here hs (sound_of_turn turn hs)
      exact .of_comes stretch found turn here same only comes
    · exact stood.spared (nodup_pending hardware actions) allowed looks

end RangeSurvey.Site
