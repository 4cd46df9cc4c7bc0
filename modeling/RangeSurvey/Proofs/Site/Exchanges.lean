import RangeSurvey.Proofs.Site.Engine

/-!
# Exchanges under way

Which tasks of a station have an exchange under way and what the engine is asked by an action. An
action that is no part of a step of the station leaves its exchanges alone and asks nothing of its
engine, and a task has no exchange any more when it has ended or has been given up.
-/

namespace RangeSurvey

/-- The exchange that the engine of station `id` is at for the task. -/
def Task.exchange? (id : Nat) : Task → Option Exchange
  | slot _ => none
  | call c => if c.station = id then c.exchange? else none

theorem Task.exchange?_of_new {task : Task} (new : task.isNew = true) (id : Nat) :
    task.exchange? id = none := by
  cases task with
  | slot job => rfl
  | call c =>
    rw [isNew, beq_iff_eq] at new
    simp [exchange?, Call.exchange?, new]

namespace Action

variable {H : Type}

theorem touches_poll_of_ne {j k : Nat} (other : j ≠ k) :
    (poll k : Action H).touches j = false := beq_eq_false_iff_ne.mpr other.symm

theorem touches_cancel_of_ne {j k : Nat} (other : j ≠ k) :
    (cancel k : Action H).touches j = false := beq_eq_false_iff_ne.mpr other.symm

end Action

namespace Site

variable {H : Type}

/-! ## Exchanges under way -/

def exchanging (site : Site H) (id : Nat) : List (Nat × Exchange) :=
  site.tasks.filterMap fun t => (t.2.exchange? id).map fun e => (t.1, e)

def exchangeOf (site : Site H) (id k : Nat) : Option Exchange :=
  (site.task? k).bind (Task.exchange? id)

section Exchanging

variable {site : Site H} {id k : Nat} {e : Exchange}

theorem mem_exchanging (nodup : site.pending.Nodup) :
    (k, e) ∈ site.exchanging id ↔ site.exchangeOf id k = some e := by
  simp only [exchanging, exchangeOf, List.mem_filterMap, Option.bind_eq_some_iff]
  constructor
  · rintro ⟨⟨j, task⟩, member, mapped⟩
    obtain ⟨e', under, same⟩ := Option.map_eq_some_iff.mp mapped
    obtain ⟨rfl, rfl⟩ := Prod.mk.inj same
    exact ⟨task, task?_of_mem nodup member, under⟩
  · rintro ⟨task, found, under⟩
    exact ⟨(k, task), mem_of_task? found, by rw [under, Option.map_some]⟩

theorem numbers_sublist (tasks : List (Nat × Task)) (id : Nat) :
    ((tasks.filterMap fun t => (t.2.exchange? id).map fun e => (t.1, e)).map Prod.fst).Sublist
      (tasks.map Prod.fst) := by
  induction tasks with
  | nil => exact .slnil
  | cons t tasks ih =>
    cases under : t.2.exchange? id with
    | none =>
      rw [List.filterMap_cons_none (by rw [under, Option.map_none])]
      exact ih.cons _
    | some e =>
      rw [List.filterMap_cons_some (by rw [under, Option.map_some])]
      exact ih.cons_cons _

theorem exchanging_eq_nil (nodup : site.pending.Nodup) :
    site.exchanging id = [] ↔ ∀ k, site.exchangeOf id k = none := by
  rw [List.eq_nil_iff_forall_not_mem]
  constructor
  · intro none k
    rw [Option.eq_none_iff_forall_ne_some]
    intro e under
    exact none (k, e) ((mem_exchanging nodup).mpr under)
  · rintro none ⟨k, e⟩ member
    rw [mem_exchanging nodup, none k] at member
    cases member

theorem exchanging_eq_singleton (nodup : site.pending.Nodup) :
    site.exchanging id = [(k, e)] ↔
      site.exchangeOf id k = some e ∧ ∀ j, j ≠ k → site.exchangeOf id j = none := by
  constructor
  · intro only
    refine ⟨(mem_exchanging nodup).mp (by rw [only]; exact List.mem_singleton_self _), ?_⟩
    intro j other
    rw [Option.eq_none_iff_forall_ne_some]
    intro e' under
    have member := (mem_exchanging nodup).mpr under
    rw [only, List.mem_singleton] at member
    exact other (Prod.mk.inj member).1
  · rintro ⟨under, others⟩
    have numbers : ((site.exchanging id).map Prod.fst).Nodup :=
      nodup.sublist (numbers_sublist site.tasks id)
    have all : ∀ x ∈ site.exchanging id, x = (k, e) := by
      rintro ⟨j, e'⟩ member
      rw [mem_exchanging nodup] at member
      by_cases same : j = k
      · subst same
        rw [under] at member
        rw [Option.some.inj member]
      · rw [others j same] at member
        cases member
    have member := (mem_exchanging nodup).mpr under
    rcases list : site.exchanging id with _ | ⟨x, _ | ⟨y, rest⟩⟩
    · rw [list] at member
      cases member
    · rw [all x (by simp [list])]
    · rw [list] at numbers all
      simp [all x (by simp), all y (by simp)] at numbers

end Exchanging

variable [Hardware H]

/-- What an action asks of engines, the latest first, unless it is part of a step of another station
than `id`. -/
def engineNews (id : Nat) (site : Site H) (action : Action H) : List HardwareCall :=
  if (site.actor? action).all (· == id) then
    (site.perform action).engineCalls.take
      ((site.perform action).engineCalls.length - site.engineCalls.length)
  else []

def begunAnew (_ : Site H) : Action H → Bool
  | .start _ task => task.isNew
  | _ => true

def wantsEngine (id : Nat) (site : Site H) : Action H → Bool
  | .poll k => ((site.task? k).bind site.turn).any fun t =>
      t.2.station == id && t.2.wantsEngine && (site.stations[id]?).isSome
  | _ => false

section Actions

variable {site : Site H} {id : Nat} {action : Action H}

theorem engineNews_eq (acts : site.actor? action = some id) {news : List HardwareCall}
    (calls : (site.perform action).engineCalls = news ++ site.engineCalls) :
    site.engineNews id action = news := by
  simp [engineNews, acts, calls]

/-! ## What others do -/

theorem exchangeOf_untouched (nodup : site.pending.Nodup) (anew : begunAnew site action = true)
    {k : Nat} (untouched : action.touches k = false) :
    (site.perform action).exchangeOf id k = site.exchangeOf id k := by
  cases found : site.task? k with
  | some task => rw [exchangeOf, task?_untouched nodup found untouched, exchangeOf, found]
  | none =>
    rw [exchangeOf, exchangeOf, found, Option.bind_none, Option.eq_none_iff_forall_ne_some]
    intro e under
    obtain ⟨task, there, under⟩ := Option.bind_eq_some_iff.mp under
    have marked : k ∈ (site.perform action).marked fun t => (t.exchange? id).isSome :=
      marked_of_task? there (by rw [under, Option.isSome_some])
    rcases marked_perform marked with old | ⟨new, rfl, marks⟩ | ⟨_, _, rfl, -⟩
    · obtain ⟨t, member, -⟩ := mem_marked.mp old
      rw [task?_of_mem nodup member] at found
      cases found
    · rw [Task.exchange?_of_new anew] at marks
      cases marks
    · simp [Action.touches] at untouched

omit [Hardware H] in
theorem Did.taken {d : Deed} {a b : Site H} (did : Did d a b) (spares : d.Spares id) :
    b.taken id = a.taken id := by
  simp only [Site.taken]
  cases hs : a.stations[id]? with
  | some s =>
    obtain ⟨s', hs', moved⟩ := did.station hs
    have same : s'.engineBusy = s.engineBusy := by
      cases moved with
      | still => rfl
      | hear event => exact hear_engine s event
      | part p =>
        cases p with
        | configure config => rfl
        | suspend => rfl
        | say notice => rfl
        | _ => exact absurd rfl spares
    rw [hs', Option.any_some, Option.any_some, same]
  | none =>
    rcases did.stations_length with same | ⟨e, ownsStorage, s, rfl, built, stations⟩
    · rw [List.getElem?_eq_none_iff, ← same, ← List.getElem?_eq_none_iff] at hs
      rw [hs]
    · obtain ⟨rfl, -⟩ := Station.build_eq built
      rw [List.getElem?_eq_none_iff] at hs
      rw [stations, Option.any_none]
      rcases Nat.lt_or_eq_of_le hs with past | here
      · rw [List.getElem?_eq_none (by simp; omega), Option.any_none]
      · simp [← here, Station.fresh]

theorem taken_elsewhere (elsewhere : site.actor? action ≠ some id) :
    (site.perform action).taken id = site.taken id := by
  have spares : Does (Deed.Spares id) site (site.perform action) :=
    (perform_does site action).mono fun d of acts => elsewhere (of.actor id acts)
  refine spares.keeps (P := fun after => after.taken id = site.taken id) ?_ rfl
  intro d before after spares did same
  exact (did.taken spares).trans same

end Actions

/-! ## What becomes of a task -/

section Tasks

variable {site begun after : Site H} {id k : Nat} {task : Task} {c c' : Call}

/-- A task has no exchange before it is a call. -/
theorem exchangeOf_turn (found : site.task? k = some task) :
    site.exchangeOf id k = (site.turn task).bind fun t =>
      if t.2.station = id then t.2.exchange? else none := by
  rw [exchangeOf, found, Option.bind_some]
  cases task with
  | call c => rfl
  | slot job =>
    cases turn : site.turn (.slot job) with
    | none => rfl
    | some t =>
      obtain ⟨begun, c⟩ := t
      simp [Task.exchange?, Call.exchange?, turn_slot turn]

theorem exchangeOf_waits (found : site.task? k = some task)
    (turn : site.turn task = some (begun, c)) (looked : begun.look c = (after, .waiting c')) :
    (poll k site).1.exchangeOf id k = if c'.station = id then c'.exchange? else none := by
  rw [exchangeOf, poll_waits found turn looked]
  rfl

theorem exchangeOf_done {status : Status} (found : site.task? k = some task)
    (turn : site.turn task = some (begun, c)) (looked : begun.look c = (after, .done status)) :
    (poll k site).1.exchangeOf id k = none := by
  rw [exchangeOf, (poll_done found turn looked).2, Option.bind_none]

theorem exchangeOf_cancel (site : Site H) (id k : Nat) :
    (site.perform (.cancel k)).exchangeOf id k = none := by
  have gone := task?_removeTask site k k
  rw [if_pos rfl] at gone
  simp only [perform, cancel]
  split
  · next none => rw [exchangeOf, none, Option.bind_none]
  · rw [exchangeOf, gone, Option.bind_none]
  · rw [exchangeOf, task?, abandon_tasks, ← task?, gone, Option.bind_none]

/-- An action that is no part of a step of station `id` leaves the station's exchanges alone. -/
theorem exchangeOf_elsewhere {action : Action H} (nodup : site.pending.Nodup)
    (anew : begunAnew site action = true) (elsewhere : site.actor? action ≠ some id) (k : Nat) :
    (site.perform action).exchangeOf id k = site.exchangeOf id k := by
  cases touched : action.touches k with
  | false => exact exchangeOf_untouched nodup anew touched
  | true =>
    cases found : site.task? k with
    | none =>
      cases action with
      | poll j =>
        obtain rfl := beq_iff_eq.mp touched
        simp only [perform, poll, found]
      | cancel j =>
        obtain rfl := beq_iff_eq.mp touched
        simp only [perform, cancel, found]
      | _ => cases touched
    | some task =>
      cases action with
      | poll j =>
        obtain rfl := beq_iff_eq.mp touched
        simp only [actor?, found, Option.bind_some] at elsewhere
        rw [exchangeOf_turn found]
        cases turn : site.turn task with
        | none =>
          rw [Option.bind_none, perform, exchangeOf, poll_skips found turn, Option.bind_none]
        | some t =>
          obtain ⟨begun, c⟩ := t
          simp only [turn, Option.map_some, ne_eq, Option.some.injEq] at elsewhere
          rw [Option.bind_some, if_neg elsewhere, perform]
          cases looked : begun.look c with
          | mk after progress =>
            cases progress with
            | done status => exact exchangeOf_done found turn looked
            | waiting c' =>
              have progress := look_at begun c
              rw [looked] at progress
              obtain ⟨stage, rfl, -⟩ := progress
              exact (exchangeOf_waits found turn looked).trans (if_neg elsewhere)
      | cancel j =>
        obtain rfl := beq_iff_eq.mp touched
        rw [exchangeOf_cancel, exchangeOf, found, Option.bind_some]
        cases task with
        | slot job => rfl
        | call c =>
          simp only [actor?, found, c.hasEngine_eq] at elsewhere
          cases under : c.exchange? with
          | none => simp [Task.exchange?, under]
          | some e =>
            rw [under, Option.isSome_some, if_pos rfl, ne_eq, Option.some.injEq] at elsewhere
            simp [Task.exchange?, elsewhere]
      | _ => cases touched

/-- A call on its turn has left the engine alone so far. -/
theorem turn_idles (turn : site.turn task = some (begun, c)) :
    Idles site begun ∧ begun.hardware = site.hardware ∧
      ∀ t, begun.stations[c.station]? = some t →
        ∃ s, site.stations[c.station]? = some s ∧ s.Holds t ∧ t.engineBusy = s.engineBusy := by
  cases task with
  | call c =>
    cases turn
    exact ⟨.refl site, rfl, fun t ht => ⟨t, ht, .refl t, rfl⟩⟩
  | slot job =>
    simp only [Site.turn, Option.map_eq_some_iff] at turn
    obtain ⟨c', called, same⟩ := turn
    cases same
    obtain ⟨i, s, -, hs, -, entered⟩ := enter_eq_some called
    rw [entered] at called ⊢
    obtain rfl := Option.some.inj called
    have idles : Idles site (site.takePart i s job).1 := by
      simp only [takePart]
      exact act_idles site i fun _ => rfl
    refine ⟨idles, hardware_act site i _, fun t ht => ?_⟩
    simp only [takePart, act_some _ hs] at ht
    rw [List.getElem?_set_self (List.getElem?_eq_some_iff.mp hs).1] at ht
    obtain rfl := Option.some.inj ht
    exact ⟨s, hs, ⟨⟨rfl, rfl, rfl, rfl⟩, rfl⟩, rfl⟩

/-- What comes after the look at a call leaves the engine alone. -/
theorem poll_idles (found : site.task? k = some task) (turn : site.turn task = some (begun, c)) :
    Idles (begun.look c).1 (poll k site).1 := by
  simp only [poll, found, run_turn turn, runCall]
  cases looked : begun.look c with
  | mk after progress =>
    cases progress with
    | waiting c' => exact idles_of_eq rfl rfl
    | done status =>
      have removed : Idles (after.conclude c status).1
          ((after.conclude c status).1.removeTask k) := idles_of_eq rfl rfl
      exact ((conclude_idles after c status).trans removed).trans (record_idles _ rfl)

/-- A slot that a device takes no part in leaves engines alone. -/
theorem skipped_idles (found : site.task? k = some task) (turn : site.turn task = none) :
    Idles site (poll k site).1 := by
  cases task with
  | call c => cases turn
  | slot job =>
    simp only [Site.turn, Option.map_eq_none_iff] at turn
    have skipped := (enter_eq_none turn).2
    simp only [poll, found, run]
    generalize site.enter job = x at turn skipped ⊢
    obtain ⟨next, called⟩ := x
    obtain rfl : called = none := turn
    have entered : Idles site next := by
      rcases skipped with same | noted
      · exact idles_of_eq (congrArg stations same) (congrArg trace same)
      · rw [show next = _ from noted]
        exact record_idles site rfl
    have removed : Idles next (next.removeTask k) := idles_of_eq rfl rfl
    exact (entered.trans removed).trans (record_idles _ rfl)

omit [Hardware H] in
theorem Did.engineCalls {d : Deed} {a b : Site H} (away : d.Outside) (did : Did d a b) :
    b.engineCalls = a.engineCalls := by
  cases away with
  | configure id config =>
    cases did
    exact engineCalls_act a id _
  | suspend id =>
    cases did
    exact engineCalls_act a id _
  | offer sink event =>
    cases did
    exact (offer_idles event sink a).calls
  | register unit i =>
    cases did
    exact (call_idles a rfl).calls
  | remove unit i =>
    cases did
    exact (call_idles a rfl).calls
  | notice notice =>
    cases did
    exact (record_idles a rfl).calls
  | collect note =>
    cases did
    exact (record_idles a rfl).calls
  | join s =>
    cases did
    rfl
  | rewire =>
    cases did with
    | rewire stations trace => exact (idles_of_eq stations trace).calls
  | setting =>
    cases did with
    | setting stations trace => exact (idles_of_eq stations trace).calls

/-- An action that is part of no step asks nothing of any engine. -/
theorem engineCalls_aside {action : Action H} (aside : site.actor? action = none) :
    (site.perform action).engineCalls = site.engineCalls := by
  cases outside : action.isOutside with
  | true =>
    refine (outside_does site outside).keeps
      (P := fun after => after.engineCalls = site.engineCalls) ?_ rfl
    intro d before after away did same
    exact (did.engineCalls away).trans same
  | false =>
    cases action with
    | start k task =>
      simp only [perform]
      split <;> rfl
    | poll k =>
      cases found : site.task? k with
      | none => simp only [perform, poll, found]
      | some task =>
        rw [actor?, found, Option.bind_some, Option.map_eq_none_iff] at aside
        exact (skipped_idles found aside).calls
    | cancel k =>
      simp only [perform, cancel]
      split
      · rfl
      · rfl
      · next c found =>
        simp only [actor?, found] at aside
        cases stage : c.stage with
        | exchanging e => simp [Call.hasEngine, stage] at aside
        | _ =>
          simp only [abandon, stage]
          rfl
    | _ => cases outside

theorem engineNews_elsewhere {action : Action H} (elsewhere : site.actor? action ≠ some id) :
    site.engineNews id action = [] := by
  cases acts : site.actor? action with
  | none => simp [engineNews, acts, engineCalls_aside acts]
  | some j =>
    rw [acts, ne_eq, Option.some.injEq] at elsewhere
    simp [engineNews, acts, elsewhere]

end Tasks

end Site

end RangeSurvey
