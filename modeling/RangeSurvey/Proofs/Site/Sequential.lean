import Mathlib.Data.List.Induction
import RangeSurvey.Proofs.Site.Arming
import RangeSurvey.Proofs.Site.Exclusion

/-!
# Steps that do not overlap

If a step of a station begins only while no other one goes on, then a call that waits for the radio
has armed it itself, and nothing but the radio has touched the station since.
-/

namespace RangeSurvey

namespace Task

def isBegun (id : Nat) : Task → Bool
  | slot _ => false
  | call c => c.station == id && c.stage != .fresh

def waitsFor (id : Nat) (activity : Activity) : Task → Bool
  | slot _ => false
  | call c => c.station == id && c.activity == activity && c.stage == .armed

/-- A broadcast or a receive that has begun without arming the radio. -/
def isAstray : Task → Bool
  | slot _ => false
  | call c => (c.activity == .broadcast || c.activity == .receive) &&
      (c.stage != .fresh && c.stage != .armed)

end Task

namespace Site

variable {H : Type} [Hardware H]

/-- Tasks are begun anew, and a step of station `id` begins only while no other one goes on. -/
def sequential (id : Nat) (site : Site H) : Action H → Bool
  | .start _ task => task.isNew
  | .poll k =>
    ((site.task? k).bind site.turn).all (fun t => t.2.station != id || t.2.stage != .fresh) ||
      (site.marked (Task.isBegun id)).isEmpty
  | _ => true

section Allowed

variable {id k : Nat} {site : Site H}

theorem fresh_of_sequential {k : Nat} {c : Call}
    (allowed : sequential id site (.start k (.call c)) = true) : c.stage = .fresh := by
  simpa [sequential, Task.isNew] using allowed

/-- A step that begins is the only one. -/
theorem begun_of_sequential {begun : Site H} {c : Call} {task : Task}
    (allowed : sequential id site (.poll k) = true) (found : site.task? k = some task)
    (turn : site.turn task = some (begun, c)) (here : c.station = id) (fresh : c.stage = .fresh) :
    site.marked (Task.isBegun id) = [] := by
  simpa [sequential, found, turn, here, fresh] using allowed

omit [Hardware H] in
theorem begun_of_task? {c : Call} (found : site.task? k = some (.call c)) (here : c.station = id)
    (unfresh : c.stage ≠ .fresh) : k ∈ site.marked (Task.isBegun id) :=
  marked_of_task? found (by simp [Task.isBegun, here, unfresh])

omit [Hardware H] in
/-- Where no call of a station has begun, a call of it is new. -/
theorem fresh_of_unmarked {c : Call} (none : site.marked (Task.isBegun id) = [])
    (found : site.task? k = some (.call c)) (here : c.station = id) : c.stage = .fresh := by
  by_contra unfresh
  have some := begun_of_task? found here unfresh
  rw [none] at some
  cases some

/-- While call `k` waits for the radio, nothing but a look at it lets a step of its station go
on. -/
theorem spares_of_sequential {action : Action H} {c : Call} (found : site.task? k = some (.call c))
    (armed : c.stage = .armed) (unique : ∀ j ∈ site.marked (Task.isBegun c.station), j = k)
    (allowed : sequential c.station site action = true) (other : action ≠ .poll k) {d : Deed}
    (of : d.Of site action) : d.Spares c.station := by
  intro acts
  have actor := of.actor _ acts
  cases action with
  | poll j =>
    simp only [actor?, Option.map_eq_some_iff, Option.bind_eq_some_iff] at actor
    obtain ⟨⟨begun, c'⟩, ⟨task, found', turn⟩, here⟩ := actor
    by_cases fresh : c'.stage = .fresh
    · have none := begun_of_sequential allowed found' turn here fresh
      have new := fresh_of_unmarked none found rfl
      rw [armed] at new
      cases new
    · obtain ⟨rfl, -⟩ := turn_of_unfresh turn fresh
      exact other (congrArg Action.poll (unique j (begun_of_task? found' here fresh)))
  | cancel j =>
    simp only [actor?] at actor
    split at actor
    · next c' found' =>
      split at actor
      · next engine =>
        have unfresh : c'.stage ≠ .fresh := by
          intro fresh
          simp [Call.hasEngine, fresh] at engine
        obtain rfl := unique j (begun_of_task? found' (Option.some.inj actor) unfresh)
        cases found.symm.trans found'
        simp [Call.hasEngine, armed] at engine
      · cases actor
    · cases actor
  | _ => cases actor

/-- A call that waits for the radio waits on through every action that is allowed. -/
theorem perform_waits {action : Action H} {c : Call} {a : Station} {base : List Entry}
    (found : site.task? k = some (.call c)) (armed : c.stage = .armed) (held : a.latch = .held)
    (waits : site.Waits c.station a base)
    (unique : ∀ j ∈ site.marked (Task.isBegun c.station), j = k)
    (allowed : sequential c.station site action = true)
    (alone : (site.perform action).alone c.station) :
    (site.perform action).Waits c.station a base := by
  by_cases looked : action = .poll k
  · subst looked
    obtain ⟨s, -, hs, -⟩ := id waits
    have turn : site.turn (.call c) = some (site, c) := rfl
    have rest := (poll_turn found turn).2 c.station
    rw [look_armed armed hs] at rest
    exact rest.waits held waits alone
  · have spares := (perform_does site action).mono fun d of =>
      spares_of_sequential found armed unique allowed looked of
    exact spares.waits held waits alone

end Allowed

/-- After a run, call `k` of station `id` waits: a look at it has found the token and armed the radio
for an activity, with station `a` and `base` on record then. -/
def WaitsSince (start : Site H) (actions : List (Action H)) (id k : Nat) (activity : Activity)
    (a : Station) (base : List Entry) : Prop :=
  (start.performAll actions).Waits id a base ∧
    ∃ before rest, actions = before ++ .poll k :: rest ∧
      (start.performAll before).taker? k = some id ∧
      (start.performAll before).Arming id activity a base ∧
      base <:+ (poll k (start.performAll before)).1.trace

section Since

variable {start : Site H} {actions : List (Action H)} {id k : Nat} {activity : Activity}
  {a : Station} {base : List Entry}

theorem WaitsSince.perform (since : start.WaitsSince actions id k activity a base)
    {action : Action H} (waits : ((start.performAll actions).perform action).Waits id a base) :
    start.WaitsSince (actions ++ [action]) id k activity a base := by
  obtain ⟨-, before, rest, rfl, taker, arming, told⟩ := since
  refine ⟨?_, before, rest ++ [action], ?_, taker, arming, told⟩
  · rw [performAll_snoc]
    exact waits
  · rw [List.append_assoc, List.cons_append]

theorem WaitsSince.begin (taker : (start.performAll actions).taker? k = some id)
    (arming : (start.performAll actions).Arming id activity a base)
    (waits : (poll k (start.performAll actions)).1.Waits id a base) :
    start.WaitsSince (actions ++ [.poll k]) id k activity a base := by
  refine ⟨?_, actions, [], rfl, taker, arming, ?_⟩
  · rw [performAll_snoc]
    exact waits
  · obtain ⟨-, news, -, trace, -⟩ := waits
    exact ⟨news, trace.symm⟩

end Since

/-! ## Runs -/

section Run

variable {hardware : H} {actions : List (Action H)} {id k : Nat}

theorem begun_unique (orderly : ({ hardware } : Site H).follows (sequential id) actions = true) :
    ∀ j ∈ (({ hardware } : Site H).performAll actions).marked (Task.isBegun id),
      ∀ k ∈ (({ hardware } : Site H).performAll actions).marked (Task.isBegun id), j = k := by
  refine marked_unique ?_ ?_ orderly ?_
  · intro site k task new
    cases task with
    | slot job => rfl
    | call c => simp [Task.isBegun, fresh_of_sequential new]
  · intro site k task task' allowed found waiting before after
    obtain ⟨begun, c, stage, turn, -, rfl, -⟩ := run_waiting waiting
    have here : c.station = id := by
      simp only [Task.isBegun, Bool.and_eq_true, beq_iff_eq] at after
      exact after.1
    refine begun_of_sequential allowed found turn here ?_
    by_contra unfresh
    obtain ⟨rfl, -⟩ := turn_of_unfresh turn unfresh
    simp [Task.isBegun, here, unfresh] at before
  · intro j none
    cases none

/-- A call that waits is the only one of its station that goes on. -/
theorem begun_of_waiting {c : Call}
    (orderly : ({ hardware } : Site H).follows (sequential c.station) actions = true)
    (found : (({ hardware } : Site H).performAll actions).task? k = some (.call c))
    (armed : c.stage = .armed) :
    ∀ j ∈ (({ hardware } : Site H).performAll actions).marked (Task.isBegun c.station), j = k := by
  intro j hj
  exact begun_unique orderly j hj k (begun_of_task? found rfl (by simp [armed]))

/-- No broadcast or receive goes on without the radio. -/
theorem marked_isAstray
    (orderly : ({ hardware } : Site H).follows (sequential id) actions = true) :
    (({ hardware } : Site H).performAll actions).marked Task.isAstray = [] := by
  refine marked_none ?_ ?_ orderly rfl
  · intro site k task new
    cases task with
    | slot job => rfl
    | call c => simp [Task.isAstray, fresh_of_sequential new]
  · intro site k task task' found waiting astray
    obtain ⟨begun, c, stage, turn, -, rfl, how⟩ := run_waiting waiting
    simp only [Task.isAstray, Bool.and_eq_true, bne_iff_ne] at astray
    obtain ⟨radio, unfresh, unarmed⟩ := astray
    -- What has not been gated any more has been astray before.
    have before : c.stage ≠ .fresh ∧ c.stage ≠ .armed := by
      rcases how with rfl | ⟨armed, -⟩ | ⟨-, unarmed, ungated⟩
      · exact ⟨unfresh, unarmed⟩
      · exact absurd armed unarmed
      · refine ⟨?_, unarmed⟩
        intro fresh
        simp [Call.isGated, fresh, radio] at ungated
    obtain ⟨rfl, -⟩ := turn_of_unfresh turn before.1
    simp only [Task.isAstray, radio, Bool.true_and, Bool.and_eq_true, bne_iff_ne]
    exact before

/-- A broadcast or a receive whose turn it is has not begun unless it waits for the radio. -/
theorem gated_of_unarmed {begun : Site H} {task : Task} {c : Call}
    (orderly : ({ hardware } : Site H).follows (sequential id) actions = true)
    (found : (({ hardware } : Site H).performAll actions).task? k = some task)
    (turn : (({ hardware } : Site H).performAll actions).turn task = some (begun, c))
    (unarmed : c.stage ≠ .armed) (radio : c.activity = .broadcast ∨ c.activity = .receive) :
    c.isGated = true := by
  have fresh : c.stage = .fresh := by
    by_contra unfresh
    obtain ⟨rfl, -⟩ := turn_of_unfresh turn unfresh
    have astray : k ∈ (({ hardware } : Site H).performAll actions).marked Task.isAstray :=
      marked_of_task? found (by simp [Task.isAstray, radio, unfresh, unarmed])
    rw [marked_isAstray orderly] at astray
    cases astray
  simp [Call.isGated, fresh, radio]

/-- Every station on which a turn is taken in a run is sound. -/
theorem sound_of_turn {begun : Site H} {task : Task} {c : Call} {s : Station}
    (turn : (({ hardware } : Site H).performAll actions).turn task = some (begun, c)) {i : Nat}
    (hs : begun.stations[i]? = some s) : s.Sound :=
  Passes.sound ((performAll_passes _ actions).trans (turn_does turn).passes) hs

omit [Hardware H] in
theorem call_of_waitsFor {site : Site H} {activity : Activity} (nodup : site.pending.Nodup)
    (waiting : k ∈ site.marked (Task.waitsFor id activity)) :
    ∃ c : Call, site.task? k = some (.call c) ∧ c.station = id ∧ c.activity = activity ∧
      c.stage = .armed := by
  obtain ⟨task, member, waits⟩ := mem_marked.mp waiting
  cases task with
  | slot job => cases waits
  | call c =>
    simp only [Task.waitsFor, Bool.and_eq_true, beq_iff_eq] at waits
    exact ⟨c, task?_of_mem nodup member, waits.1.1, waits.1.2, waits.2⟩

/-- A call that waits for the radio has armed it itself, and its wait has gone on since. -/
theorem waitsSince {activity : Activity}
    (orderly : ({ hardware } : Site H).follows (sequential id) actions = true)
    (waiting : k ∈ (({ hardware } : Site H).performAll actions).marked (Task.waitsFor id activity))
    (alone : (({ hardware } : Site H).performAll actions).alone id) :
    ∃ a base, ({ hardware } : Site H).WaitsSince actions id k activity a base := by
  induction actions using List.reverseRecOn with
  | nil => cases waiting
  | append_singleton actions action ih =>
    obtain ⟨orderly, allowed⟩ := follows_append.mp orderly
    simp only [follows, Bool.and_true] at allowed
    simp only [performAll_append, performAll] at waiting alone
    have waits_on (old : k ∈ (({ hardware } : Site H).performAll actions).marked
        (Task.waitsFor id activity)) :
        ∃ a base, ({ hardware } : Site H).WaitsSince (actions ++ [action]) id k activity a base := by
      obtain ⟨c, found, rfl, rfl, armed⟩ := call_of_waitsFor (nodup_pending hardware actions) old
      obtain ⟨a, base, since⟩ := ih orderly old ((perform_does _ action).alone alone)
      obtain ⟨waits, _, _, _, _, arming, _⟩ := id since
      exact ⟨a, base, since.perform (perform_waits found armed arming.held waits
        (begun_of_waiting orderly found armed) allowed alone)⟩
    rcases marked_perform waiting with
      old | ⟨task, rfl, waits⟩ | ⟨task, task', rfl, found, waits, marks⟩
    · exact waits_on old
    · cases task with
      | slot job => cases waits
      | call c => simp [Task.waitsFor, fresh_of_sequential allowed] at waits
    · obtain ⟨begun, c, stage, turn, looked, rfl, how⟩ := run_waiting waits
      simp only [Task.waitsFor, Bool.and_eq_true, beq_iff_eq] at marks
      obtain ⟨⟨rfl, rfl⟩, rfl⟩ := marks
      rcases how with same | ⟨-, token⟩ | ⟨other, -, -⟩
      · obtain ⟨rfl, -⟩ := turn_of_unfresh turn (by simp [← same])
        exact waits_on (marked_of_task? found (by simp [Task.waitsFor, ← same]))
      · have taker := (taker?_of_turn found turn).trans token
        obtain ⟨s, gated, hs, available⟩ := of_token? token
        rcases poll_begins found turn gated hs available (sound_of_turn turn hs) alone with
          ⟨a, base, arming, waits, -⟩ | ⟨status, result, -⟩
        · exact ⟨a, base, .begin taker arming waits⟩
        · rw [(poll_turn found turn).1, looked] at result
          cases result
      · exact absurd rfl other

section Ends

variable {c : Call} {status : Status}

/-- A look that ends a call that waits. -/
theorem waitsSince_of_armed
    (orderly : ({ hardware } : Site H).follows (sequential c.station) actions = true)
    (allowed : sequential c.station (({ hardware } : Site H).performAll actions) (.poll k) = true)
    (found : (({ hardware } : Site H).performAll actions).task? k = some (.call c))
    (armed : c.stage = .armed)
    (ended : (poll k (({ hardware } : Site H).performAll actions)).2.bind Outcome.status? =
      some status)
    (alone : (poll k (({ hardware } : Site H).performAll actions)).1.alone c.station) :
    ∃ a base s, ({ hardware } : Site H).WaitsSince (actions ++ [.poll k]) c.station k c.activity a
        base ∧ (poll k (({ hardware } : Site H).performAll actions)).1.stations[c.station]? = some s ∧
      s.latch = .available ∧ s.status.succeeded = status.succeeded := by
  have turn : (({ hardware } : Site H).performAll actions).turn (.call c) = some (_, c) := rfl
  have waiting : k ∈ (({ hardware } : Site H).performAll actions).marked
      (Task.waitsFor c.station c.activity) :=
    marked_of_task? found (by simp [Task.waitsFor, armed])
  obtain ⟨a, base, since⟩ := waitsSince orderly waiting ((perform_does _ (.poll k)).alone alone)
  obtain ⟨waits, _, _, _, _, arming, _⟩ := id since
  obtain ⟨s, -, hs, -⟩ := id waits
  have looked := look_armed armed hs
  obtain ⟨s', hs', available, same⟩ :=
    poll_ends found turn (by rwa [looked]) (by rw [looked]) alone ended
  have waits' := perform_waits found armed arming.held waits
    (begun_of_waiting orderly found armed) allowed alone
  exact ⟨a, base, s', since.perform waits', hs', available, same⟩

/-- A look that ends a broadcast or a receive that had not begun before. -/
theorem waitsSince_of_gated {begun : Site H} {task : Task}
    (found : (({ hardware } : Site H).performAll actions).task? k = some task)
    (turn : (({ hardware } : Site H).performAll actions).turn task = some (begun, c))
    (gated : c.isGated = true)
    (ended : (poll k (({ hardware } : Site H).performAll actions)).2.bind Outcome.status? =
      some status)
    (alone : (poll k (({ hardware } : Site H).performAll actions)).1.alone c.station) :
    (∃ a base s, ({ hardware } : Site H).WaitsSince (actions ++ [.poll k]) c.station k c.activity a
        base ∧ (poll k (({ hardware } : Site H).performAll actions)).1.stations[c.station]? = some s ∧
      s.latch = .available ∧ s.status.succeeded = status.succeeded) ∨
    (status.succeeded = true → c.activity = .broadcast ∧ status.nothingToSend = true) := by
  have done := (poll_turn found turn).1.symm.trans ended
  obtain ⟨s, hs, available⟩ := available_of_done gated done
  have taker : (({ hardware } : Site H).performAll actions).taker? k = some c.station :=
    (taker?_of_turn found turn).trans (token?_of_gated hs gated available)
  rcases poll_begins found turn gated hs available (sound_of_turn turn hs) alone with
    ⟨a, base, arming, waits, s₁, hs₁, progress⟩ | ⟨status', result, empty⟩
  · obtain ⟨s', hs', available', same⟩ := poll_ends found turn hs₁ progress alone ended
    exact Or.inl ⟨a, base, s', .begin taker arming waits, hs', available', same⟩
  · obtain rfl := Option.some.inj (ended.symm.trans result)
    exact Or.inr empty

end Ends

end Run

end Site

end RangeSurvey
