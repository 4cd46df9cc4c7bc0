import RangeSurvey.Proofs.Site.Exchanges

/-!
# One exchange at a time

The engine of a station is taken exactly while one of the station's tasks has an exchange under way,
and no second one ever has. From the look that begins an exchange to the one that finds it over, or
to the end of the task when it is given up, nobody else asks the engine for anything, so that a
request collects what has been measured for itself. Then the engine is free for the next one that is
looked at.
-/

namespace RangeSurvey

namespace Site

variable {H : Type} [Hardware H]

/-! ## One action -/

/-- The engine of station `id` is taken exactly while one task has an exchange under way, and no
second one has. -/
structure Guarded (site : Site H) (id : Nat) : Prop where
  nodup : site.pending.Nodup
  free : site.taken id = false → site.exchanging id = []
  held : site.taken id = true → ∃ k e, site.exchanging id = [(k, e)]

inductive EngineStep (site : Site H) (id : Nat) : Action H → Site H → Prop where
  /-- Nothing. A call that wants the engine finds it taken, and no request ends. -/
  | still {action : Action H} {after : Site H} : site.engineNews id action = [] →
      after.exchanging id = site.exchanging id → after.taken id = site.taken id →
      (site.wantsEngine id action = true → site.taken id = true) →
      site.endsRequest id action = false → EngineStep site id action after
  /-- Task `k` begins an exchange, the engine being free. -/
  | begins {k : Nat} {s : Station} {e : Exchange} {after : Site H} :
      site.stations[id]? = some s → site.exchanging id = [] →
      site.engineNews id (.poll k) = [.exchange s.unit e] →
      after.exchanging id = [(k, e)] → after.taken id = true →
      site.endsRequest id (.poll k) = false → EngineStep site id (.poll k) after
  /-- Task `k` finds its exchange over, which it has begun before or just now, and collects what has
  been measured. -/
  | ends {k : Nat} {s : Station} {e : Exchange} {first : Bool} {hardware : H} {after : Site H} :
      site.stations[id]? = some s → site.exchanging id = (if first then [] else [(k, e)]) →
      Hardware.pollExchange site.hardware s.unit first e = (hardware, true) →
      site.engineNews id (.poll k) =
        s.closing e ++ (if first then [.exchange s.unit e] else []) →
      after.exchanging id = [] → after.taken id = false →
      e.measurer? id = site.measurer? k →
      (e.measurer? id = some id → ∀ row, s.ownRow? = some row →
        ∃ s', after.stations[id]? = some s' ∧ s'.ownRow? = some (s.measuredRow hardware row)) →
      EngineStep site id (.poll k) after
  /-- The task that has the exchange under way is given up. -/
  | drops {k : Nat} {e : Exchange} {after : Site H} : site.exchanging id = [(k, e)] →
      site.engineNews id (.cancel k) = [] → after.exchanging id = [] → after.taken id = false →
      EngineStep site id (.cancel k) after

section Step

variable {site begun : Site H} {id k : Nat} {task : Task} {c : Call}

omit [Hardware H] in
theorem Guarded.alone (guarded : site.Guarded id) {e : Exchange}
    (under : site.exchangeOf id k = some e) :
    site.taken id = true ∧ site.exchanging id = [(k, e)] := by
  have member := (mem_exchanging guarded.nodup).mpr under
  cases taken : site.taken id with
  | false =>
    rw [guarded.free taken] at member
    cases member
  | true =>
    obtain ⟨j, e', only⟩ := guarded.held taken
    rw [only, List.mem_singleton] at member
    exact ⟨rfl, member ▸ only⟩

/-- The exchanges after an action that touches task `k` alone. -/
theorem Guarded.exchanging_perform (guarded : site.Guarded id) {action : Action H}
    (anew : begunAnew site action = true) (others : ∀ j, j ≠ k → action.touches j = false)
    (mine : ∀ j, j ≠ k → site.exchangeOf id j = none) : (site.perform action).exchanging id =
      ((site.perform action).exchangeOf id k).toList.map fun e => (k, e) := by
  have nodup := nodup_pending_perform guarded.nodup action
  have rest (j : Nat) (other : j ≠ k) : (site.perform action).exchangeOf id j = none :=
    (exchangeOf_untouched guarded.nodup anew (others j other)).trans (mine j other)
  cases under : (site.perform action).exchangeOf id k with
  | some e => exact (exchanging_eq_singleton nodup).mpr ⟨under, rest⟩
  | none =>
    refine (exchanging_eq_nil nodup).mpr fun j => ?_
    by_cases same : j = k
    · exact same ▸ under
    · exact rest j same

omit [Hardware H] in
theorem Guarded.exchanging_same (guarded : site.Guarded id) {after : Site H}
    (nodup : after.pending.Nodup) (same : ∀ k, after.exchangeOf id k = site.exchangeOf id k) :
    after.exchanging id = site.exchanging id := by
  cases taken : site.taken id with
  | false =>
    have none := guarded.free taken
    rw [none, exchanging_eq_nil nodup]
    intro k
    rw [same, (exchanging_eq_nil guarded.nodup).mp none]
  | true =>
    obtain ⟨k, e, only⟩ := guarded.held taken
    obtain ⟨mine, others⟩ := (exchanging_eq_singleton guarded.nodup).mp only
    rw [only, exchanging_eq_singleton nodup, same]
    exact ⟨mine, fun j other => (same j).trans (others j other)⟩

theorem wantsEngine_turn {action : Action H} (wants : site.wantsEngine id action = true) :
    ∃ k task begun c, action = .poll k ∧ site.task? k = some task ∧
      site.turn task = some (begun, c) ∧ c.station = id ∧ c.wantsEngine = true ∧
      ∃ s, site.stations[id]? = some s := by
  cases action with
  | poll k =>
    obtain ⟨⟨begun, c⟩, found, wants⟩ := (Option.any_eq_true _ _).mp wants
    obtain ⟨task, found, turn⟩ := Option.bind_eq_some_iff.mp found
    simp only [Bool.and_eq_true, beq_iff_eq] at wants
    obtain ⟨⟨own, wants⟩, known⟩ := wants
    exact ⟨k, task, begun, c, rfl, found, turn, own, wants, Option.isSome_iff_exists.mp known⟩
  | _ => cases wants

theorem actor?_turn (found : site.task? k = some task) (turn : site.turn task = some (begun, c)) :
    site.actor? (.poll k) = some c.station := by
  rw [actor?, found, Option.bind_some, turn, Option.map_some]

/-- An action that is no part of a step of the station has nothing to do with its engine. -/
theorem EngineStep.elsewhere (guarded : site.Guarded id) {action : Action H}
    (anew : begunAnew site action = true) (elsewhere : site.actor? action ≠ some id) :
    EngineStep site id action (site.perform action) := by
  refine .still (engineNews_elsewhere elsewhere) ?_ (taken_elsewhere elsewhere) ?_ ?_
  · exact guarded.exchanging_same (nodup_pending_perform guarded.nodup action)
      (exchangeOf_elsewhere guarded.nodup anew elsewhere)
  · intro wants
    obtain ⟨k, task, begun, c, rfl, found, turn, rfl, -⟩ := wantsEngine_turn wants
    exact absurd (actor?_turn found turn) elsewhere
  · rw [Bool.eq_false_iff]
    intro ends
    obtain ⟨k, rfl, measures, -⟩ := endsRequest_iff.mp ends
    obtain ⟨task, begun, c, found, turn, measures⟩ := measurer?_turn measures
    obtain ⟨rfl, -⟩ := Call.measurer?_eq measures
    exact elsewhere (actor?_turn found turn)

/-- A task that is given up leaves the engine free if it has had it. -/
theorem EngineStep.cancel (guarded : site.Guarded id)
    (acts : site.actor? (.cancel k : Action H) = some id) :
    EngineStep site id (.cancel k) (site.perform (.cancel k)) := by
  simp only [actor?] at acts
  split at acts
  · next c found =>
    simp only [c.hasEngine_eq, Option.ite_none_right_eq_some, Option.some.injEq,
      Option.isSome_iff_exists] at acts
    obtain ⟨⟨e, has⟩, rfl⟩ := acts
    have under : site.exchangeOf c.station k = some e := by
      simp [exchangeOf, found, Task.exchange?, has]
    obtain ⟨taken, only⟩ := guarded.alone under
    obtain ⟨-, others⟩ := (exchanging_eq_singleton guarded.nodup).mp only
    have given : site.perform (.cancel k) =
        (site.removeTask k).update c.station Station.freeEngine := by
      cases stage : c.stage with
      | exchanging e => simp only [perform, Site.cancel, found, abandon, stage]
      | _ => simp [Call.exchange?, stage] at has
    have calls : (site.perform (.cancel k)).engineCalls = [] ++ site.engineCalls := by
      rw [given, update, engineCalls_act]
      rfl
    have acts : site.actor? (.cancel k : Action H) = some c.station := by
      simp [actor?, found, c.hasEngine_eq, has]
    refine .drops only (engineNews_eq acts calls) ?_ ?_
    · rw [guarded.exchanging_perform rfl (fun j => Action.touches_cancel_of_ne) others,
        exchangeOf_cancel]
      rfl
    · rw [given, update, taken_act, if_pos rfl]
      cases (site.removeTask k).stations[c.station]? <;> rfl
  · cases acts

section Poll

variable {after : Site H} {progress : Progress} (guarded : site.Guarded c.station)
  (found : site.task? k = some task) (turn : site.turn task = some (begun, c))
  (looked : begun.look c = (after, progress))

include found turn looked

theorem endsRequest_look {i : Nat} (ends : site.endsRequest i (.poll k) = true) :
    c.measurer? = some i ∧ progress.status?.isSome = true := by
  obtain ⟨j, same, measures, finished⟩ := endsRequest_iff.mp ends
  cases same
  obtain ⟨task', begun', c', found', turn', measures⟩ := measurer?_turn measures
  obtain rfl := Option.some.inj (found.symm.trans found')
  cases turn.symm.trans turn'
  rw [(poll_over found turn).1, looked] at finished
  exact ⟨measures, finished⟩

omit looked in
theorem exchangeOf_own : site.exchangeOf c.station k = c.exchange? := by
  rw [exchangeOf_turn found, turn, Option.bind_some, if_pos rfl]

include guarded

omit looked in
/-- A call that has the engine or gets it is the only one that has. -/
theorem access_alone {e : Exchange}
    (access : c.exchange? = some e ∨ c.exchange? = none ∧ site.taken c.station = false) :
    site.taken c.station = c.hasEngine ∧
      site.exchanging c.station = if c.hasEngine then [(k, e)] else [] := by
  rw [c.hasEngine_eq]
  rcases access with has | ⟨without, free⟩
  · rw [has]
    exact guarded.alone ((exchangeOf_own found turn).trans has)
  · rw [without]
    exact ⟨free, guarded.free free⟩

omit looked in
/-- The exchanges of the station after a look at a call that has the engine or gets it. -/
theorem exchanging_poll (taken : site.taken c.station = c.hasEngine) :
    (site.perform (.poll k)).exchanging c.station =
      ((site.perform (.poll k)).exchangeOf c.station k).toList.map fun e => (k, e) := by
  refine guarded.exchanging_perform rfl (fun j => Action.touches_poll_of_ne) fun j other => ?_
  rw [c.hasEngine_eq] at taken
  cases has : c.exchange? with
  | none =>
    rw [has] at taken
    exact (exchanging_eq_nil guarded.nodup).mp (guarded.free taken) j
  | some e =>
    have only := (guarded.alone ((exchangeOf_own found turn).trans has)).2
    exact ((exchanging_eq_singleton guarded.nodup).mp only).2 j other

/-- A look at a call that neither has the engine nor gets it. -/
theorem EngineStep.of_idles (without : c.exchange? = none) (idles : Idles begun after)
    (still : progress.At c fun stage => ({ c with stage } : Call).exchange? = none)
    (waits : c.wantsEngine = true → ∃ c', progress = .waiting c')
    (wants : site.wantsEngine c.station (.poll k) = true → site.taken c.station = true) :
    EngineStep site c.station (.poll k) (site.perform (.poll k)) := by
  have afterwards := poll_idles found turn
  rw [looked] at afterwards
  have all := ((turn_idles turn).1.trans idles).trans afterwards
  have same (j : Nat) :
      (site.perform (.poll k)).exchangeOf c.station j = site.exchangeOf c.station j := by
    by_cases here : j = k
    · subst here
      rw [exchangeOf_own found turn, without]
      cases progress with
      | waiting c' =>
        obtain ⟨stage, rfl, unasked⟩ := still
        exact (exchangeOf_waits found turn looked).trans ((if_pos rfl).trans unasked)
      | done status => exact exchangeOf_done found turn looked
    · exact exchangeOf_untouched guarded.nodup rfl (Action.touches_poll_of_ne here)
  refine .still (engineNews_eq (actor?_turn found turn) all.calls)
    (guarded.exchanging_same (nodup_pending_perform guarded.nodup _) same) (all.taken c.station)
    wants ?_
  rw [Bool.eq_false_iff]
  intro ends
  obtain ⟨measures, finished⟩ := endsRequest_look found turn looked ends
  obtain ⟨c', rfl⟩ := waits ((Call.measurer?_eq measures).2 without)
  cases finished

end Poll

section Ranges

variable {after : Site H} {s : Station} {e : Exchange} (guarded : site.Guarded c.station)
  (found : site.task? k = some task) (turn : site.turn task = some (begun, c))
  (hs : site.stations[c.station]? = some s) (taken : site.taken c.station = c.hasEngine)
  (alone : site.exchanging c.station = if c.hasEngine then [(k, e)] else [])

include guarded found turn hs taken alone

/-- A look at a call that leaves it with the engine. -/
theorem EngineStep.of_goesOn
    (looked : begun.look c = (after, .waiting { c with stage := .exchanging e }))
    (busy : after.taken c.station = true)
    (calls : after.engineCalls = c.opening s e ++ site.engineCalls) :
    EngineStep site c.station (.poll k) (site.perform (.poll k)) := by
  have afterwards := poll_idles found turn
  rw [looked] at afterwards
  have under : (site.perform (.poll k)).exchangeOf c.station k = some e :=
    (exchangeOf_waits found turn looked).trans (if_pos rfl)
  have only := exchanging_poll guarded found turn taken
  rw [under] at only
  have news := engineNews_eq (actor?_turn found turn) (afterwards.calls.trans calls)
  have held := (afterwards.taken _).trans busy
  have unended : site.endsRequest c.station (.poll k) = false := by
    rw [Bool.eq_false_iff]
    intro ends
    cases (endsRequest_look found turn looked ends).2
  cases has : c.hasEngine with
  | true =>
    rw [has, if_pos rfl] at alone
    have before := taken.trans has
    refine .still ?_ (only.trans alone.symm) (held.trans before.symm) (fun _ => before) unended
    rw [news, Call.opening, has, if_pos rfl]
  | false =>
    rw [has, if_neg Bool.false_ne_true] at alone
    refine .begins hs alone ?_ only held unended
    rw [news, Call.opening, has, if_neg Bool.false_ne_true]

/-- A look at a call that finds its exchange over. -/
theorem EngineStep.of_isOver {status : Status} {polled : H}
    (looked : begun.look c = (after, .done status))
    (answer : Hardware.pollExchange site.hardware s.unit (!c.hasEngine) e = (polled, true))
    (measurer : e.measurer? c.station = c.measurer?) (free : after.taken c.station = false)
    (calls : after.engineCalls = s.closing e ++ (c.opening s e ++ site.engineCalls))
    (stored : e.measurer? c.station = some c.station → ∀ row, s.ownRow? = some row →
      ∃ s', after.stations[c.station]? = some s' ∧
        s'.ownRow? = some (s.measuredRow polled row)) :
    EngineStep site c.station (.poll k) (site.perform (.poll k)) := by
  have afterwards := poll_idles found turn
  rw [looked] at afterwards
  have none := exchanging_poll guarded found turn taken
  rw [perform, exchangeOf_done found turn looked] at none
  have news := engineNews_eq (actor?_turn found turn)
    (afterwards.calls.trans (calls.trans (List.append_assoc ..).symm))
  have measures : site.measurer? k = c.measurer? := by
    rw [measurer?, found, Option.bind_some, turn, Option.bind_some]
  refine .ends hs ?_ answer ?_ none ((afterwards.taken _).trans free)
    (measurer.trans measures.symm) fun own row there => ?_
  · rw [alone]
    cases c.hasEngine <;> rfl
  · rw [news, Call.opening]
    cases c.hasEngine <;> rfl
  · rw [perform, (poll_done found turn looked).1]
    exact stored own row there

end Ranges

/-- A look at a call of the station. -/
theorem EngineStep.poll (guarded : site.Guarded c.station) (found : site.task? k = some task)
    (turn : site.turn task = some (begun, c)) :
    EngineStep site c.station (.poll k) (site.perform (.poll k)) := by
  obtain ⟨before, hardware, station⟩ := turn_idles turn
  have mine := exchangeOf_own found turn
  cases known : begun.stations[c.station]? with
  | none =>
    have untaken : site.taken c.station = false := by
      rw [← before.taken, taken, known, Option.any_none]
    have without : c.exchange? = none := by
      rw [← mine]
      exact (exchanging_eq_nil guarded.nodup).mp (guarded.free untaken) k
    have looked : begun.look c = (begun, .waiting c) := by simp only [look, known]
    refine .of_idles guarded found turn looked without (.refl begun) ⟨c.stage, rfl, without⟩
      (fun _ => ⟨c, rfl⟩) fun wants => ?_
    obtain ⟨-, -, -, -, -, -, -, -, -, s, hs⟩ := wantsEngine_turn wants
    obtain ⟨t, ht⟩ := (turn_does turn).remains hs
    rw [known] at ht
    cases ht
  | some t =>
    obtain ⟨s, hs, holds, busy⟩ := station t known
    have taken : site.taken c.station = t.engineBusy := by
      rw [Site.taken, hs, Option.any_some, busy]
    have held : c.exchange? ≠ none → t.engineBusy = true := by
      intro has
      obtain ⟨e, has⟩ := Option.ne_none_iff_exists'.mp has
      rw [← taken]
      exact (guarded.alone (mine.trans has)).1
    have engaged := look_engaged known held
    cases looked : begun.look c with
    | mk after progress =>
      rw [looked] at engaged
      cases engaged with
      | idles without wants idles still =>
        refine .of_idles guarded found turn looked without idles still (fun w => (wants w).2) ?_
        intro wanted
        obtain ⟨j, task', begun', c', same, found', turn', -, wanted, -⟩ := wantsEngine_turn wanted
        cases same
        obtain rfl := Option.some.inj (found.symm.trans found')
        cases turn.symm.trans turn'
        rw [taken]
        exact (wants wanted).1
      | goesOn e polled access answer busy calls =>
        rw [← taken] at access
        obtain ⟨has, alone⟩ := access_alone guarded found turn access
        rw [Call.opening, holds.unit, before.calls] at calls
        exact .of_goesOn guarded found turn hs has alone looked busy calls
      | isOver e status polled access answer measurer free calls stored =>
        rw [← taken] at access
        obtain ⟨has, alone⟩ := access_alone guarded found turn access
        rw [hardware, holds.unit] at answer
        rw [holds.closing, Call.opening, holds.unit, before.calls] at calls
        refine .of_isOver guarded found turn hs has alone looked answer measurer free calls ?_
        intro own row there
        obtain ⟨s', hs', own'⟩ := stored own row (holds.row.trans there)
        exact ⟨s', hs', own'.trans (congrArg some (holds.measuredRow polled row))⟩

/-- What an action has to do with the engine of a station, as long as the engine is guarded. -/
theorem EngineStep.perform (guarded : site.Guarded id) {action : Action H}
    (anew : begunAnew site action = true) : EngineStep site id action (site.perform action) := by
  by_cases acts : site.actor? action = some id
  · cases action with
    | poll k =>
      obtain ⟨⟨begun, c⟩, going, rfl⟩ := Option.map_eq_some_iff.mp acts
      obtain ⟨task, found, turn⟩ := Option.bind_eq_some_iff.mp going
      exact .poll guarded found turn
    | cancel k => exact .cancel guarded acts
    | _ => cases acts
  · exact .elsewhere guarded anew acts

theorem Guarded.perform (guarded : site.Guarded id) {action : Action H}
    (anew : begunAnew site action = true) : (site.perform action).Guarded id := by
  have nodup := nodup_pending_perform guarded.nodup action
  have step := EngineStep.perform guarded anew
  generalize site.perform action = after at nodup step
  cases step with
  | still _ same taken =>
    exact ⟨nodup, fun free => same ▸ guarded.free (taken ▸ free),
      fun held => same ▸ guarded.held (taken ▸ held)⟩
  | begins _ _ _ only taken =>
    refine ⟨nodup, fun free => ?_, fun _ => ⟨_, _, only⟩⟩
    rw [taken] at free
    cases free
  | ends _ _ _ _ none free =>
    refine ⟨nodup, fun _ => none, fun held => ?_⟩
    rw [free] at held
    cases held
  | drops _ _ none free =>
    refine ⟨nodup, fun _ => none, fun held => ?_⟩
    rw [free] at held
    cases held

end Step

/-! ## Runs -/

/-- The action leaves exchange `e` of task `k` alone, which is the only one of station `id`, and
asks nothing of the engine of this station. -/
def undisturbed (id k : Nat) (e : Exchange) (site : Site H) (action : Action H) : Bool :=
  site.exchanging id == [(k, e)] && (site.engineNews id action).isEmpty

/-- Task `k` has begun exchange `e` of station `id` in the course of a run, when no other one was
under way, and nobody has asked the engine of the station for anything since. -/
inductive Holds (start : Site H) (id k : Nat) (e : Exchange) : List (Action H) → Prop where
  | since {first later : List (Action H)} {s : Station} :
      (start.performAll first).stations[id]? = some s →
      (start.performAll first).exchanging id = [] →
      (start.performAll first).engineNews id (.poll k) = [.exchange s.unit e] →
      (start.performAll (first ++ [.poll k])).follows (undisturbed id k e) later = true →
      Holds start id k e (first ++ .poll k :: later)

/-- A look at task `k` ends a request of station `id`, which was `s` with row `row`. The engine
tells that the exchange of the request is over and is asked for what it has measured before anybody
else asks it for anything, and this is what the station stores. -/
structure Collects (site : Site H) (id k : Nat) (s : Station) (row : Row) : Prop where
  station : site.stations[id]? = some s
  own : s.ownRow? = some row
  finished : ∃ e first hardware, e.measurer? id = some id ∧
    site.exchanging id = (if first then [] else [(k, e)]) ∧
    Hardware.pollExchange site.hardware s.unit first e = (hardware, true) ∧
    site.engineNews id (.poll k) = .measured s.unit s.slot row.capacity ::
      (if first then [.exchange s.unit e] else []) ∧
    ∃ s', (site.perform (.poll k)).stations[id]? = some s' ∧
      s'.ownRow? = some (s.measuredRow hardware row)
  free : (site.perform (.poll k)).exchanging id = []

/-- What it means that the exchanges of station `id` are atomic after some actions. -/
structure Atomic (start : Site H) (id : Nat) (actions : List (Action H)) : Prop where
  single : ((start.performAll actions).exchanging id).length ≤ 1
  /-- The engine is taken exactly while an exchange is under way. -/
  taken : (start.performAll actions).taken id = true ↔ (start.performAll actions).exchanging id ≠ []
  holds : ∀ k e, (k, e) ∈ (start.performAll actions).exchanging id → Holds start id k e actions
  /-- No exchange begins while another one is under way. -/
  enters : ∀ action unit e,
    .exchange unit e ∈ (start.performAll actions).engineNews id action →
      (start.performAll actions).exchanging id = []
  collects : ∀ k, (start.performAll actions).endsRequest id (.poll k) = true →
    ∃ s row, (start.performAll actions).Collects id k s row
  /-- A task that is given up leaves the engine to the others. -/
  drops : ∀ k e, (k, e) ∈ (start.performAll actions).exchanging id →
    (start.performAll (actions ++ [.cancel k])).exchanging id = []
  /-- Whoever is looked at first gets the engine when it is free. -/
  serves : ∀ action, (start.performAll actions).wantsEngine id action = true →
    (start.performAll actions).exchanging id = [] →
      ∃ s e, (start.performAll actions).stations[id]? = some s ∧
        .exchange s.unit e ∈ (start.performAll actions).engineNews id action

section Runs

variable {start : Site H} {id k : Nat} {e : Exchange} {actions : List (Action H)}

theorem Holds.snoc (holds : Holds start id k e actions) {action : Action H}
    (leaves : undisturbed id k e (start.performAll actions) action = true) :
    Holds start id k e (actions ++ [action]) := by
  cases holds with
  | @since first later s hs free begins quiet =>
    have same : (start.performAll (first ++ [.poll k])).performAll later =
        start.performAll (first ++ .poll k :: later) := by
      rw [← performAll_append, List.append_assoc, List.singleton_append]
    rw [List.append_assoc, List.cons_append]
    exact .since hs free begins (follows_snoc quiet (same ▸ leaves))

theorem guarded_run {hardware : H}
    (anew : ({ hardware } : Site H).follows begunAnew actions = true) (id : Nat) :
    (({ hardware } : Site H).performAll actions).Guarded id :=
  follows_induction (P := fun site => site.Guarded id)
    (fun _ _ anew guarded => guarded.perform anew) anew ⟨List.nodup_nil, fun _ => rfl, nofun⟩

/-- Whatever exchange is under way has been undisturbed since it began. -/
theorem holds_of_run {hardware : H}
    (anew : ({ hardware } : Site H).follows begunAnew actions = true)
    (only : (({ hardware } : Site H).performAll actions).exchanging id = [(k, e)]) :
    Holds { hardware } id k e actions := by
  induction actions using List.reverseRecOn with
  | nil => cases only
  | append_singleton actions action ih =>
    obtain ⟨before, now⟩ := follows_append.mp anew
    have step := EngineStep.perform (guarded_run before id) (follows_cons.mp now).1
    rw [performAll_snoc] at only
    generalize (({ hardware } : Site H).performAll actions).perform action = after at step only
    cases step with
    | still silent same =>
      have mine := same.symm.trans only
      exact (ih before mine).snoc (by simp [undisturbed, mine, silent])
    | begins hs free begins under =>
      obtain ⟨rfl, rfl⟩ := Prod.mk.inj (List.singleton_inj.mp (under.symm.trans only))
      exact .since hs free begins rfl
    | ends _ _ _ _ none =>
      rw [none] at only
      cases only
    | drops _ _ none =>
      rw [none] at only
      cases only

omit [Hardware H] in
theorem not_mem_closing (s : Station) (e e' : Exchange) (unit : Nat) :
    HardwareCall.exchange unit e' ∉ s.closing e := by
  cases e with
  | listen => exact List.not_mem_nil
  | request => simp [Station.closing]

/-- Only a look at a task or the giving up of one asks the engine of a station for anything. -/
theorem anew_of_news {site : Site H} {action : Action H} {call : HardwareCall}
    (asked : call ∈ site.engineNews id action) : begunAnew site action = true := by
  cases action with
  | start k task =>
    have aside : site.actor? (.start k task) ≠ some id := (Option.some_ne_none id).symm
    rw [engineNews_elsewhere aside] at asked
    cases asked
  | _ => rfl

section Guarded

variable {site : Site H} (guarded : site.Guarded id)

include guarded

/-- An exchange begins only when no other one is under way. -/
theorem Guarded.enters {action : Action H} {unit : Nat}
    (begins : .exchange unit e ∈ site.engineNews id action) : site.exchanging id = [] := by
  have step := EngineStep.perform guarded (anew_of_news begins)
  generalize site.perform action = after at step
  cases step with
  | still silent =>
    rw [silent] at begins
    cases begins
  | begins _ free => exact free
  | @ends _ s e' first _ _ _ before _ news =>
    cases first with
    | true => exact before
    | false =>
      rw [news, if_neg Bool.false_ne_true, List.append_nil] at begins
      exact absurd begins (not_mem_closing s e' e unit)
  | drops _ silent =>
    rw [silent] at begins
    cases begins

/-- A request that ends collects what has been measured for its own exchange. -/
theorem Guarded.collects
    (sound : ∀ (i : Nat) (s : Station), site.stations[i]? = some s → s.Sound)
    (ends : site.endsRequest id (.poll k) = true) : ∃ s row, site.Collects id k s row := by
  have anew : begunAnew site (.poll k) = true := rfl
  have step := EngineStep.perform guarded anew
  generalize at_end : site.perform (.poll k) = after at step
  cases step with
  | still _ _ _ _ unended =>
    rw [ends] at unended
    cases unended
  | begins _ _ _ _ _ unended =>
    rw [ends] at unended
    cases unended
  | @ends _ s e first polled _ hs before finished news none _ measures stored =>
    obtain ⟨j, same, measured, -⟩ := endsRequest_iff.mp ends
    cases same
    rw [measured] at measures
    obtain ⟨row, own, -⟩ := (sound id s hs).ownRow
    have closing : s.closing e = [.measured s.unit s.slot row.capacity] := by
      cases e with
      | listen => cases measures
      | request => simp [Station.closing, own]
    rw [closing] at news
    exact ⟨s, row, hs, own, ⟨e, first, polled, measures, before, finished, news,
      at_end ▸ stored measures row own⟩, at_end ▸ none⟩

/-- Whoever wants the engine and is looked at gets it if it is free. -/
theorem Guarded.serves {action : Action H} (wants : site.wantsEngine id action = true)
    (free : site.exchanging id = []) : ∃ s e, site.stations[id]? = some s ∧
      .exchange s.unit e ∈ site.engineNews id action := by
  obtain ⟨k, -, -, -, rfl, -⟩ := wantsEngine_turn wants
  have anew : begunAnew site (.poll k) = true := rfl
  have step := EngineStep.perform guarded anew
  generalize site.perform (.poll k) = after at step
  cases step with
  | still _ _ _ busy =>
    obtain ⟨j, e, only⟩ := guarded.held (busy wants)
    rw [free] at only
    cases only
  | @begins _ s e _ hs _ news => exact ⟨s, e, hs, by simp [news]⟩
  | @ends _ s e first _ _ hs before _ news =>
    cases first with
    | true => exact ⟨s, e, hs, by simp [news]⟩
    | false =>
      rw [free] at before
      cases before

end Guarded

/-- No two exchanges of a station are under way at once, and a request that ends stores what has
been measured for its own. A task that is given up leaves the engine to the next one. -/
theorem exchanges_atomic (hardware : H) (actions : List (Action H))
    (anew : ({ hardware } : Site H).follows begunAnew actions = true) (id : Nat) :
    ({ hardware } : Site H).Atomic id actions := by
  have guarded := guarded_run anew id
  have sound (i : Nat) (s : Station)
      (hs : (({ hardware } : Site H).performAll actions).stations[i]? = some s) : s.Sound :=
    Passes.sound (performAll_passes _ actions) hs
  have only {k : Nat} {e : Exchange}
      (under : (k, e) ∈ (({ hardware } : Site H).performAll actions).exchanging id) :
      (({ hardware } : Site H).performAll actions).exchanging id = [(k, e)] :=
    (guarded.alone ((mem_exchanging guarded.nodup).mp under)).2
  constructor
  case single =>
    cases taken : (({ hardware } : Site H).performAll actions).taken id with
    | false => simp [guarded.free taken]
    | true =>
      obtain ⟨k, e, one⟩ := guarded.held taken
      simp [one]
  case taken =>
    constructor
    · intro taken none
      obtain ⟨k, e, one⟩ := guarded.held taken
      rw [none] at one
      cases one
    · intro some
      by_contra untaken
      exact some (guarded.free (Bool.eq_false_iff.mpr untaken))
  case holds => exact fun k e under => holds_of_run anew (only under)
  case enters => exact fun _ _ _ => guarded.enters
  case collects => exact fun _ => guarded.collects sound
  case serves => exact fun _ => guarded.serves
  case drops =>
    intro k e under
    have others := ((exchanging_eq_singleton guarded.nodup).mp (only under)).2
    rw [performAll_snoc,
      guarded.exchanging_perform rfl (fun j => Action.touches_cancel_of_ne) others,
      exchangeOf_cancel]
    rfl

/-- The engine of station 0 is at the first of two requests and does not get done, and the other one
waits for it as well as a listen. -/
def contended : List (Action Bench) :=
  [.enrol ⟨0, 2, ⟨0x100, 0, 12⟩, {}, 0⟩, .alter fun b => b.setEngine 0 { hold := true },
    .start 0 (.call { station := 0, activity := .request, deadline := 10 }),
    .start 1 (.call { station := 0, activity := .request, deadline := 20 }),
    .start 2 (.call { station := 0, activity := .listen, deadline := 30 }),
    .poll 0, .poll 2, .poll 1]

def released : List (Action Bench) :=
  contended ++ [.cancel 0,
    .alter fun b => b.setEngine 0 { answered := ⟨2#32⟩, distances := [7] }]

/-- The second request stores the distance of its own exchange, and then the listen gets the
engine. -/
theorem exchanges_atomic_contended :
    let e : Exchange := .request 0xFFFF 10 .single ⟨2#32⟩
    (({ hardware := {} } : Site Bench).performAll contended).exchanging 0 = [(0, e)] ∧
      Holds { hardware := ({} : Bench) } 0 0 e contended ∧
      (∃ s row, (({ hardware := {} } : Site Bench).performAll released).Collects 0 1 s row) ∧
      ((({ hardware := {} } : Site Bench).performAll (released ++ [.poll 1])).stations[0]?).bind
        Station.ownRow? = some ⟨⟨2#32⟩, [7, 0]⟩ ∧
      ∃ s e,
        (({ hardware := {} } : Site Bench).performAll (released ++ [.poll 1])).stations[0]? =
          some s ∧
        .exchange s.unit e ∈ (({ hardware := {} } : Site Bench).performAll
          (released ++ [.poll 1])).engineNews 0 (.poll 2) := by
  intro e
  have under : (({ hardware := {} } : Site Bench).performAll contended).exchanging 0 =
      [(0, e)] := by decide +kernel
  have member : (0, e) ∈ (({ hardware := {} } : Site Bench).performAll contended).exchanging 0 := by
    rw [under]
    exact List.mem_singleton_self _
  have first := exchanges_atomic ({} : Bench) contended (by decide +kernel) 0
  have second := exchanges_atomic ({} : Bench) released (by decide +kernel) 0
  have third := exchanges_atomic ({} : Bench) (released ++ [.poll 1]) (by decide +kernel) 0
  have collects := second.collects 1 (by decide +kernel)
  have serves := third.serves (.poll 2) (by decide +kernel) (by decide +kernel)
  exact ⟨under, first.holds 0 e member, collects, by decide +kernel, serves⟩

end Runs

end Site

end RangeSurvey
