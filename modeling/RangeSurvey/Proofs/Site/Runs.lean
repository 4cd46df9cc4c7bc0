import Mathlib.Data.List.Nodup
import RangeSurvey.Proofs.Site.Actions
import RangeSurvey.Proofs.Site.Tasks

/-!
# Runs and their tasks

A run may keep to a rule, which says of every action whether it may come next. What an action makes
of the list of tasks is said once here: a task begins, goes on, or leaves. If a rule lets a task
enter some state only while no other task is in it, then never two of them are.
-/

namespace RangeSurvey

def Action.touches {H : Type} (k : Nat) : Action H → Bool
  | poll j | cancel j => j == k
  | _ => false

/-- A call that waits on has changed its stage at most, for one that satisfies `ok`. -/
def Progress.At (c : Call) (ok : Stage → Prop) : Progress → Prop
  | .waiting c' => ∃ stage, c' = { c with stage } ∧ ok stage
  | .done _ => True

namespace Site

variable {H : Type} [Hardware H]

/-- Every action of a run is allowed by a rule where it comes. -/
def follows (rule : Site H → Action H → Bool) (site : Site H) : List (Action H) → Bool
  | [] => true
  | action :: actions => rule site action && follows rule (site.perform action) actions

section Follows

variable {rule : Site H → Action H → Bool}

theorem follows_cons {site : Site H} {action : Action H} {actions : List (Action H)} :
    site.follows rule (action :: actions) = true ↔
      rule site action = true ∧ (site.perform action).follows rule actions = true := by
  simp [follows]

theorem follows_append {site : Site H} {first second : List (Action H)} :
    site.follows rule (first ++ second) = true ↔
      site.follows rule first = true ∧ (site.performAll first).follows rule second = true := by
  induction first generalizing site with
  | nil => simp [follows, performAll]
  | cons action first ih => simp only [List.cons_append, follows_cons, ih, performAll, and_assoc]

theorem performAll_snoc (site : Site H) (actions : List (Action H)) (action : Action H) :
    site.performAll (actions ++ [action]) = (site.performAll actions).perform action :=
  performAll_append site actions [action]

theorem follows_snoc {site : Site H} {actions : List (Action H)} {action : Action H}
    (h : site.follows rule actions = true)
    (allowed : rule (site.performAll actions) action = true) :
    site.follows rule (actions ++ [action]) = true :=
  follows_append.mpr ⟨h, follows_cons.mpr ⟨allowed, rfl⟩⟩

theorem follows_mono {rule' : Site H → Action H → Bool}
    (le : ∀ site action, rule site action = true → rule' site action = true) {site : Site H}
    {actions : List (Action H)} (h : site.follows rule actions = true) :
    site.follows rule' actions = true := by
  induction actions generalizing site with
  | nil => rfl
  | cons action actions ih =>
    obtain ⟨allowed, rest⟩ := follows_cons.mp h
    exact follows_cons.mpr ⟨le site action allowed, ih rest⟩

/-- What every allowed action preserves holds after every run that keeps to the rule. -/
theorem follows_induction {P : Site H → Prop}
    (step : ∀ site action, rule site action = true → P site → P (site.perform action))
    {actions : List (Action H)} {site : Site H} (h : site.follows rule actions = true)
    (start : P site) : P (site.performAll actions) := by
  induction actions generalizing site with
  | nil => exact start
  | cons action actions ih =>
    obtain ⟨allowed, rest⟩ := follows_cons.mp h
    exact ih rest (step site action allowed start)

end Follows

/-! ## Tasks -/

inductive TasksAfter (site : Site H) : Action H → List (Nat × Task) → Prop where
  | same (action : Action H) : TasksAfter site action site.tasks
  | begun {n : Nat} (task : Task) : site.task? n = none →
      TasksAfter site (.start n task) (site.tasks ++ [(n, task)])
  | left {action : Action H} {k : Nat} : action = .poll k ∨ action = .cancel k →
      TasksAfter site action (site.tasks.filter fun t => t.1 != k)
  | waits {k : Nat} {task task' : Task} : site.task? k = some task →
      (site.run task).2 = .waiting task' →
      TasksAfter site (.poll k) (site.tasks.map fun t => if t.1 = k then (k, task') else t)

theorem run_tasks (site : Site H) (task : Task) : (site.run task).1.tasks = site.tasks :=
  (run_does site task).tasks fun _ within => within.tasks

/-- A look at one task leaves the others alone. -/
theorem task?_poll_of_ne (site : Site H) {j k : Nat} (other : j ≠ k) :
    (poll k site).1.task? j = site.task? j := by
  simp only [poll]
  split
  · rfl
  next task _ =>
    have ran := run_tasks site task
    split
    · next site' task' heq =>
      rw [heq] at ran
      rw [task?_replaceTask, if_neg other, task?, task?, ran]
    · next site' outcome heq =>
      rw [heq] at ran
      have removed := task?_removeTask site' k j
      rw [if_neg other] at removed
      exact removed.trans (by rw [task?, task?, ran])

omit [Hardware H] in
theorem abandon_tasks (site : Site H) (c : Call) : (site.abandon c).tasks = site.tasks := by
  have abandoned : Does (Deed.Within (if c.hasEngine then some c.station else none) none none) site
      (site.abandon c) := abandon_does site c
  exact abandoned.tasks fun _ within => within.tasks

theorem tasksAfter (site : Site H) (action : Action H) :
    TasksAfter site action (site.perform action).tasks := by
  cases outside : action.isOutside with
  | true =>
    rw [(outside_does site outside).tasks fun _ away => away.tasks]
    exact .same action
  | false =>
    cases action with
    | start n task =>
      simp only [perform]
      split
      · exact .same _
      · next free =>
        rw [Bool.not_eq_true, Option.isSome_eq_false_iff, Option.isNone_iff_eq_none] at free
        exact .begun task free
    | poll k =>
      simp only [perform, poll]
      split
      · exact .same _
      next task found =>
        have ran := run_tasks site task
        split
        · next site' task' heq =>
          simp only [heq] at ran
          simp only [replaceTask, ran]
          exact .waits found (by rw [heq])
        · next site' outcome heq =>
          simp only [heq] at ran
          simp only [removeTask, record, ran]
          exact .left (Or.inl rfl)
    | cancel k =>
      simp only [perform, cancel]
      split
      · exact .same _
      · exact .left (Or.inr rfl)
      · next c _ =>
        rw [abandon_tasks]
        exact .left (Or.inr rfl)
    | _ => cases outside

theorem map_fst_replace (tasks : List (Nat × Task)) (k : Nat) (task : Task) :
    (tasks.map fun t => if t.1 = k then (k, task) else t).map Prod.fst = tasks.map Prod.fst := by
  rw [List.map_map]
  apply List.map_congr_left
  intro t _
  by_cases h : t.1 = k
  · simp [h]
  · simp [h]

/-- No two tasks have one number. -/
theorem nodup_pending_perform {site : Site H} (nodup : site.pending.Nodup) (action : Action H) :
    (site.perform action).pending.Nodup := by
  have after := tasksAfter site action
  simp only [pending] at nodup ⊢
  generalize (site.perform action).tasks = tasks at after ⊢
  cases after with
  | same => exact nodup
  | begun task free =>
    rw [List.map_append, List.nodup_append]
    refine ⟨nodup, List.nodup_singleton _, ?_⟩
    intro j hj n hn
    obtain ⟨t, ht, rfl⟩ := List.mem_map.mp hj
    obtain rfl := List.mem_singleton.mp hn
    exact task?_eq_none.mp free t ht
  | left => exact nodup.sublist (List.filter_sublist.map _)
  | waits found waiting =>
    rw [map_fst_replace]
    exact nodup

omit [Hardware H] in
theorem mem_of_task? {site : Site H} {k : Nat} {task : Task} (h : site.task? k = some task) :
    (k, task) ∈ site.tasks := by
  obtain ⟨t, ht, rfl⟩ := Option.map_eq_some_iff.mp h
  have number := List.find?_some ht
  rw [beq_iff_eq] at number
  rw [← number]
  exact List.mem_of_find?_eq_some ht

omit [Hardware H] in
theorem task?_of_mem {site : Site H} (nodup : site.pending.Nodup) {k : Nat} {task : Task}
    (h : (k, task) ∈ site.tasks) : site.task? k = some task := by
  simp only [pending] at nodup
  cases found : site.task? k with
  | none => exact absurd rfl (task?_eq_none.mp found (k, task) h)
  | some task' =>
    have same := List.inj_on_of_nodup_map nodup (mem_of_task? found) h rfl
    rw [(Prod.mk.inj same).2]

/-- A task that is left alone stays as it is. -/
theorem task?_untouched {site : Site H} (nodup : site.pending.Nodup) {k : Nat} {task : Task}
    (h : site.task? k = some task) {action : Action H} (untouched : action.touches k = false) :
    (site.perform action).task? k = some task := by
  apply task?_of_mem (nodup_pending_perform nodup action)
  have member := mem_of_task? h
  have after := tasksAfter site action
  generalize (site.perform action).tasks = tasks at after ⊢
  cases after with
  | same => exact member
  | begun task' free => exact List.mem_append_left _ member
  | @left action j gone =>
    have other : k ≠ j := by
      rintro rfl
      rcases gone with rfl | rfl <;> simp [Action.touches] at untouched
    exact List.mem_filter.mpr ⟨member, by simpa using other⟩
  | @waits j before after found waiting =>
    have other : k ≠ j := by
      rintro rfl
      simp [Action.touches] at untouched
    exact List.mem_map.mpr ⟨(k, task), member, by simp [other]⟩

/-! ## Looks -/

section Looks

variable {ok : Stage → Prop} {c : Call}

omit [Hardware H] in
theorem finish_at (site : Site H) (same : ok c.stage) : (site.finish c).2.At c ok := by
  simp only [finish]
  split
  · exact ⟨c.stage, rfl, same⟩
  · trivial

omit [Hardware H] in
theorem lookArmed_at (site : Site H) (s : Station) (same : ok c.stage) (armed : ok .armed) :
    (site.lookArmed c s).2.At c ok := by
  simp only [lookArmed]
  split
  · exact ⟨.armed, rfl, armed⟩
  · exact finish_at _ same

omit [Hardware H] in
theorem waitArmed_at (site : Site H) (same : ok c.stage) (armed : ok .armed) :
    (site.waitArmed c).2.At c ok := by
  simp only [waitArmed]
  split
  · exact ⟨c.stage, rfl, same⟩
  · exact lookArmed_at site _ same armed

theorem lookExchange_at (site : Site H) (s : Station) (first : Bool) {e : Exchange}
    (same : ok c.stage) (exchanging : ok (.exchanging e)) :
    (site.lookExchange c s first e).2.At c ok := by
  simp only [lookExchange]
  split
  · exact finish_at _ same
  · exact ⟨.exchanging e, rfl, exchanging⟩

theorem tryRequest_at (site : Site H) (s : Station) (mode : Sidedness) (same : ok c.stage)
    (calm : ∀ stage, stage ≠ .armed → ok stage) : (site.tryRequest c s mode).2.At c ok := by
  simp only [tryRequest]
  split
  · exact ⟨.requestTurn mode, rfl, calm _ (by simp)⟩
  · exact lookExchange_at _ s true same (calm _ (by simp))

theorem tryListen_at (site : Site H) (s : Station) (same : ok c.stage) (turn : ok .listenTurn)
    (listening : ∀ start timeout, ok (.exchanging (.listen start timeout))) :
    (site.tryListen c s).2.At c ok := by
  simp only [tryListen]
  split
  · exact ⟨.listenTurn, rfl, turn⟩
  · exact lookExchange_at _ s true same (listening _ _)

theorem tryBroadcast_at (site : Site H) (s : Station) (same : ok c.stage)
    (armed : s.latch = .available → ok .armed) : (site.tryBroadcast c s).2.At c ok := by
  rw [tryBroadcast]
  split
  · exact ⟨c.stage, rfl, same⟩
  next available =>
    simp only
    split
    · simp only [transmit_eq]
      split
      · exact waitArmed_at _ same (armed available)
      · exact finish_at _ same
    · exact finish_at _ same

theorem tryReceive_at (site : Site H) (s : Station) (same : ok c.stage)
    (armed : s.latch = .available → ok .armed) : (site.tryReceive c s).2.At c ok := by
  rw [tryReceive_eq]
  split
  · exact ⟨c.stage, rfl, same⟩
  next available =>
    simp only
    split
    · exact waitArmed_at _ same (armed available)
    · exact finish_at _ same

/-- A call gets as far as to be armed only when it takes the token, and a broadcast or a receive
that has not begun gets no farther. -/
theorem look_at (site : Site H) (c : Call) :
    (site.look c).2.At c fun stage => stage = c.stage ∨
      stage = .armed ∧ site.token? c = some c.station ∨
      stage ≠ .armed ∧ c.stage ≠ .armed ∧ c.isGated = false := by
  simp only [look]
  split
  · exact ⟨c.stage, rfl, Or.inl rfl⟩
  next s hs =>
    cases stage : c.stage with
    | fresh =>
      cases activity : c.activity with
      | request =>
        simp only [advance, stage, activity]
        refine tryRequest_at _ s _ (by simp [stage]) fun later calm => ?_
        exact Or.inr (Or.inr ⟨calm, by simp, by simp [Call.isGated, activity]⟩)
      | listen =>
        simp only [advance, stage, activity]
        refine tryListen_at _ s (Or.inl stage) ?_ fun _ _ => ?_
        · exact Or.inr (Or.inr ⟨by simp, by simp, by simp [Call.isGated, activity]⟩)
        · exact Or.inr (Or.inr ⟨by simp, by simp, by simp [Call.isGated, activity]⟩)
      | broadcast =>
        simp only [advance, stage, activity]
        refine tryBroadcast_at site s (by simp [stage]) fun available => ?_
        have gated : c.isGated = true := by simp [Call.isGated, stage, activity]
        exact Or.inr (Or.inl ⟨rfl, token?_of_gated hs gated available⟩)
      | receive =>
        simp only [advance, stage, activity]
        refine tryReceive_at site s (by simp [stage]) fun available => ?_
        have gated : c.isGated = true := by simp [Call.isGated, stage, activity]
        exact Or.inr (Or.inl ⟨rfl, token?_of_gated hs gated available⟩)
    | requestTurn mode =>
      simp only [advance, stage]
      refine tryRequest_at site s mode (by simp [stage]) fun later calm => ?_
      exact Or.inr (Or.inr ⟨calm, by simp, by simp [Call.isGated, stage]⟩)
    | listenTurn =>
      simp only [advance, stage]
      refine tryListen_at site s (Or.inl stage) (Or.inl rfl) fun _ _ => ?_
      exact Or.inr (Or.inr ⟨by simp, by simp, by simp [Call.isGated, stage]⟩)
    | exchanging e =>
      simp only [advance, stage]
      exact lookExchange_at site s false (by simp [stage]) (by simp)
    | armed =>
      simp only [advance, stage]
      exact lookArmed_at site s (by simp [stage]) (by simp)

/-- A call that asks for no distances goes on without asking for any. -/
theorem look_asks (site : Site H) (c : Call) :
    (site.look c).2.At c fun stage => ({ c with stage } : Call).measurer? ≠ none →
      c.measurer? ≠ none := by
  simp only [look]
  split
  · exact ⟨c.stage, rfl, id⟩
  next s hs =>
    unfold advance
    split
    · next fresh =>
      split
      · next request =>
        have asks : c.measurer? ≠ none := by simp [Call.measurer?, fresh, request]
        exact tryRequest_at _ s _ id fun _ _ _ => asks
      · exact tryListen_at _ s id (absurd rfl) fun _ _ => absurd rfl
      · exact tryBroadcast_at site s id fun _ => absurd rfl
      · exact tryReceive_at site s id fun _ => absurd rfl
    · next mode turn =>
      have asks : c.measurer? ≠ none := by simp [Call.measurer?, turn]
      exact tryRequest_at site s mode id fun _ _ _ => asks
    · exact tryListen_at site s id (absurd rfl) fun _ _ => absurd rfl
    · next e exchanging =>
      exact lookExchange_at site s false id (by simp [Call.measurer?, exchanging])
    · exact lookArmed_at site s id (absurd rfl)

theorem turn_slot {site begun : Site H} {job : SlotJob}
    (turn : site.turn (.slot job) = some (begun, c)) : c.stage = .fresh := by
  simp only [Site.turn, Option.map_eq_some_iff] at turn
  obtain ⟨c', called, same⟩ := turn
  cases same
  obtain ⟨id, s, -, -, -, entered⟩ := enter_eq_some called
  rw [entered] at called
  cases called
  rfl

/-- A call that has got anywhere is a task of its own. -/
theorem turn_of_unfresh {site begun : Site H} {task : Task}
    (turn : site.turn task = some (begun, c)) (unfresh : c.stage ≠ .fresh) :
    task = .call c ∧ begun = site := by
  cases task with
  | slot job => exact absurd (turn_slot turn) unfresh
  | call c₀ =>
    cases turn
    exact ⟨rfl, rfl⟩

theorem taker?_of_turn {site begun : Site H} {k : Nat} {task : Task}
    (found : site.task? k = some task) (turn : site.turn task = some (begun, c)) :
    site.taker? k = begun.token? c := by
  rw [taker?, found, Option.bind_some, turn, Option.bind_some]

/-- A task that waits on is a call whose turn it was, and that has changed its stage at most. -/
theorem run_waiting {site : Site H} {task task' : Task} (h : (site.run task).2 = .waiting task') :
    ∃ begun c stage, site.turn task = some (begun, c) ∧
      (begun.look c).2 = .waiting { c with stage } ∧ task' = .call { c with stage } ∧
      (stage = c.stage ∨ stage = .armed ∧ begun.token? c = some c.station ∨
        stage ≠ .armed ∧ c.stage ≠ .armed ∧ c.isGated = false) := by
  have ran {begun : Site H} {c : Call} (turn : site.turn task = some (begun, c))
      (h : (begun.runCall c).2 = .waiting task') :
      ∃ begun c stage, site.turn task = some (begun, c) ∧
        (begun.look c).2 = .waiting { c with stage } ∧ task' = .call { c with stage } ∧
        (stage = c.stage ∨ stage = .armed ∧ begun.token? c = some c.station ∨
          stage ≠ .armed ∧ c.stage ≠ .armed ∧ c.isGated = false) := by
    simp only [runCall] at h
    split at h
    · next c' heq =>
      cases h
      have progress := look_at begun c
      rw [heq] at progress
      obtain ⟨stage, rfl, how⟩ := progress
      exact ⟨begun, c, stage, turn, by rw [heq], rfl, how⟩
    · cases h
  cases task with
  | call c => exact ran rfl h
  | slot job =>
    simp only [run] at h
    split at h
    · cases h
    · next heq => exact ran (by simp only [turn, heq, Option.map_some]) h

end Looks

/-! ## Marked tasks -/

/-- The numbers of the tasks that are in some state. -/
def marked (site : Site H) (mark : Task → Bool) : List Nat :=
  (site.tasks.filter fun t => mark t.2).map Prod.fst

section Marked

variable {mark : Task → Bool} {site : Site H}

omit [Hardware H] in
theorem mem_marked {k : Nat} : k ∈ site.marked mark ↔ ∃ t, (k, t) ∈ site.tasks ∧ mark t = true := by
  simp [marked]

omit [Hardware H] in
theorem marked_of_task? {k : Nat} {task : Task} (found : site.task? k = some task)
    (marks : mark task = true) : k ∈ site.marked mark :=
  mem_marked.mpr ⟨task, mem_of_task? found, marks⟩

/-- A task gets into a state before it begins or by a look at it. -/
theorem marked_perform {action : Action H} {k : Nat} (h : k ∈ (site.perform action).marked mark) :
    k ∈ site.marked mark ∨ (∃ task, action = .start k task ∧ mark task = true) ∨
      ∃ task task', action = .poll k ∧ site.task? k = some task ∧
        (site.run task).2 = .waiting task' ∧ mark task' = true := by
  obtain ⟨task, member, marks⟩ := mem_marked.mp h
  have after := tasksAfter site action
  generalize (site.perform action).tasks = tasks at after member
  cases after with
  | same => exact Or.inl (mem_marked.mpr ⟨task, member, marks⟩)
  | begun new free =>
    rcases List.mem_append.mp member with old | one
    · exact Or.inl (mem_marked.mpr ⟨task, old, marks⟩)
    · obtain ⟨rfl, rfl⟩ := Prod.mk.inj (List.mem_singleton.mp one)
      exact Or.inr (Or.inl ⟨task, rfl, marks⟩)
  | left => exact Or.inl (mem_marked.mpr ⟨task, List.mem_of_mem_filter member, marks⟩)
  | waits found waiting =>
    obtain ⟨t, ht, heq⟩ := List.mem_map.mp member
    split at heq
    · obtain ⟨rfl, rfl⟩ := Prod.mk.inj heq
      exact Or.inr (Or.inr ⟨_, _, rfl, found, waiting, marks⟩)
    · subst heq
      exact Or.inl (mem_marked.mpr ⟨task, ht, marks⟩)

/-- If a rule lets a task get into a state only while no other task is in it, then never two of
them are. -/
theorem marked_unique {rule : Site H → Action H → Bool}
    (begins : ∀ site k task, rule site (.start k task) = true → mark task = false)
    (enters : ∀ (site : Site H) k task task', rule site (.poll k) = true →
      site.task? k = some task → (site.run task).2 = .waiting task' → mark task = false →
      mark task' = true → site.marked mark = [])
    {actions : List (Action H)} (orderly : site.follows rule actions = true)
    (start : ∀ j ∈ site.marked mark, ∀ k ∈ site.marked mark, j = k) :
    ∀ j ∈ (site.performAll actions).marked mark, ∀ k ∈ (site.performAll actions).marked mark,
      j = k := by
  refine follows_induction (P := fun site => ∀ j ∈ site.marked mark, ∀ k ∈ site.marked mark,
    j = k) ?_ orderly start
  intro site action allowed unique j hj k hk
  -- A task that is new in the state has been looked at, and no other one was in it before.
  have alone {j k : Nat} {task task' : Task} (looked : action = .poll k)
      (found : site.task? k = some task) (waiting : (site.run task).2 = .waiting task')
      (marks : mark task' = true) (hj : j ∈ (site.perform action).marked mark) : j = k := by
    subst looked
    rcases marked_perform hj with old | ⟨_, begun, -⟩ | ⟨_, _, looked, -⟩
    · cases before : mark task with
      | true => exact unique j old k (marked_of_task? found before)
      | false =>
        rw [enters site k task task' allowed found waiting before marks] at old
        cases old
    · cases begun
    · cases looked
      rfl
  rcases marked_perform hj with oldj | ⟨task, rfl, marks⟩ | ⟨_, _, looked, found, waiting, marks⟩
  · rcases marked_perform hk with oldk | ⟨task, rfl, marks⟩ | ⟨_, _, looked, found, waiting, marks⟩
    · exact unique j oldj k oldk
    · rw [begins site k task allowed] at marks
      cases marks
    · exact alone looked found waiting marks hj
  · rw [begins site j task allowed] at marks
    cases marks
  · exact (alone looked found waiting marks hk).symm

/-- If a rule lets no task get into a state, then none is ever in it. -/
theorem marked_none {rule : Site H → Action H → Bool}
    (begins : ∀ site k task, rule site (.start k task) = true → mark task = false)
    (enters : ∀ (site : Site H) k task task', site.task? k = some task →
      (site.run task).2 = .waiting task' → mark task' = true → mark task = true)
    {actions : List (Action H)} (orderly : site.follows rule actions = true)
    (start : site.marked mark = []) : (site.performAll actions).marked mark = [] := by
  refine follows_induction (P := fun site => site.marked mark = []) ?_ orderly start
  intro site action allowed none
  rw [List.eq_nil_iff_forall_not_mem] at none ⊢
  intro k hk
  rcases marked_perform hk with
    old | ⟨task, rfl, marks⟩ | ⟨task, task', rfl, found, waiting, marks⟩
  · exact none k old
  · rw [begins site k task allowed] at marks
    cases marks
  · exact none k (marked_of_task? found (enters site k task task' found waiting marks))

omit [Hardware H] in
theorem nodup_marked (nodup : site.pending.Nodup) : (site.marked mark).Nodup :=
  nodup.sublist (List.filter_sublist.map _)

end Marked

end Site

end RangeSurvey
