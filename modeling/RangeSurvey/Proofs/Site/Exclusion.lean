import RangeSurvey.Proofs.Site.Accounts
import RangeSurvey.Proofs.Site.Runs

/-!
# One transaction at a time

The token that lets a broadcast or a receive in is the one that ends the wait of the call before,
so whoever is looked at first takes it. As long as a call that has armed its radio is looked at
before those that wait to get in, no two calls of a station have their radio armed at once, and what
puts the token back ends the wait of the call that armed the radio. Without this order a second call
arms the radio while the first has not seen the end of its wait.
-/

namespace RangeSurvey

namespace Task

/-- Nobody has looked at the task yet, or it waits to get in. -/
def isNew : Task → Bool
  | slot _ => true
  | call c => c.stage == .fresh

def isArmed (id : Nat) : Task → Bool
  | slot _ => false
  | call c => c.station == id && c.stage == .armed

end Task

/-! ## Stations whose token nobody takes -/

namespace Station

theorem hear_entries (s : Station) (event : RadioEvent) :
    (s.hear event).station.entries = s.entries ∧
      (s.latch = .available → (s.hear event).station.latch = .available) := by
  cases event with
  | received bytes =>
    simp only [hear, hearFrame, hearSurveyFrame]
    repeat' split
    all_goals exact ⟨rfl, fun h => by first | exact h | exact Latch.putBack_fst _⟩
  | sent =>
    cases h : s.latch <;> simp [hear, hearSent, h, Latch.putBack, entries]
  | timedOut =>
    cases h : s.latch <;> simp [hear, hearTimeout, h, Latch.putBack, entries]
  | reset =>
    cases h : s.latch <;> simp [hear, hearReset, h, Latch.putBack, entries]

/-- A part that takes no token lets nobody in, and a token that is there stays. -/
theorem run_entries (s : Station) {p : Part} (calm : p.takes = false) :
    (p.run s).1.entries = s.entries ∧ (s.latch = .available → (p.run s).1.latch = .available) := by
  cases p with
  | beginBroadcast => cases calm
  | beginReceive => cases calm
  | skipBroadcast b => exact ⟨rfl, fun _ => Latch.putBack_fst _⟩
  | failTransmit => exact ⟨rfl, fun _ => Latch.putBack_fst _⟩
  | failReceive => exact ⟨rfl, fun _ => Latch.putBack_fst _⟩
  | endWait => exact ⟨rfl, fun _ => Latch.putBack_fst _⟩
  | _ => exact ⟨rfl, id⟩

theorem moves_entries {d : Site.Deed} {id : Nat} {s s' : Station} (moved : d.Moves id s s')
    (calm : d.taker? ≠ some id) :
    s'.entries = s.entries ∧ (s.latch = .available → s'.latch = .available) := by
  cases moved with
  | still => exact ⟨rfl, fun h => h⟩
  | part p =>
    apply s.run_entries
    cases h : p.takes with
    | false => rfl
    | true => exact absurd (if_pos h) calm
  | hear event => exact s.hear_entries event

end Station

namespace Site

variable {H : Type} [Hardware H]

def armed (site : Site H) (id : Nat) : List Nat := site.marked (Task.isArmed id)

/-- Tasks are begun anew, and the token of station `id` is left to the call that has armed its radio
as long as there is one. -/
def inTurn (id : Nat) (site : Site H) : Action H → Bool
  | .start _ task => task.isNew
  | .poll k => site.taker? k != some id || (site.armed id).isEmpty
  | _ => true

section Armed

variable {id : Nat} {site : Site H}

/-- A call that has just armed its radio has taken the token. -/
theorem taker?_of_armed {k : Nat} {task task' : Task} (found : site.task? k = some task)
    (waiting : (site.run task).2 = .waiting task') (before : task.isArmed id = false)
    (after : task'.isArmed id = true) : site.taker? k = some id := by
  obtain ⟨begun, c, stage, turn, -, rfl, how⟩ := run_waiting waiting
  simp only [Task.isArmed, Bool.and_eq_true, beq_iff_eq] at after
  obtain ⟨rfl, rfl⟩ := after
  rcases how with same | ⟨-, token⟩ | ⟨other, -, -⟩
  · obtain ⟨rfl, -⟩ := turn_of_unfresh turn (by simp [← same])
    simp [Task.isArmed, ← same] at before
  · rw [taker?_of_turn found turn, token]
  · exact absurd rfl other

theorem armed_unique {hardware : H} {actions : List (Action H)}
    (orderly : ({ hardware } : Site H).follows (inTurn id) actions = true) :
    ∀ j ∈ (({ hardware } : Site H).performAll actions).armed id,
      ∀ k ∈ (({ hardware } : Site H).performAll actions).armed id, j = k := by
  refine marked_unique ?_ ?_ orderly ?_
  · intro site k task new
    cases task with
    | slot job => rfl
    | call c =>
      simp only [inTurn, Task.isNew, beq_iff_eq] at new
      simp [Task.isArmed, new]
  · intro site k task task' allowed found waiting before after
    have token := taker?_of_armed found waiting before after
    simpa [inTurn, token, armed] using allowed
  · intro j none
    cases none

theorem nodup_pending (hardware : H) (actions : List (Action H)) :
    (({ hardware } : Site H).performAll actions).pending.Nodup := by
  refine performAll_induction (P := fun site => site.pending.Nodup) ?_ actions List.nodup_nil
  intro site action nodup
  exact nodup_pending_perform nodup action

/-- A list without repetitions in which all elements are alike. -/
theorem length_le_one {list : List Nat} (nodup : list.Nodup)
    (alike : ∀ j ∈ list, ∀ k ∈ list, j = k) : list.length ≤ 1 := by
  rcases list with _ | ⟨j, _ | ⟨k, rest⟩⟩
  · exact Nat.zero_le 1
  · exact Nat.le_refl 1
  · have same : j = k := alike j (by simp) k (by simp)
    simp [same] at nodup

theorem eq_singleton {list : List Nat} (short : list.length ≤ 1) {k : Nat} (hk : k ∈ list) :
    list = [k] := by
  rcases list with _ | ⟨j, _ | ⟨i, rest⟩⟩
  · cases hk
  · rw [List.mem_singleton.mp hk]
  · simp only [List.length_cons] at short
    omega

omit [Hardware H] in
theorem task?_of_armed (nodup : site.pending.Nodup) {k : Nat} (h : k ∈ site.armed id) :
    ∃ c : Call, site.task? k = some (.call c) ∧ c.station = id ∧ c.stage = .armed := by
  obtain ⟨task, member, armed⟩ := mem_marked.mp h
  cases task with
  | slot job => cases armed
  | call c =>
    simp only [Task.isArmed, Bool.and_eq_true, beq_iff_eq] at armed
    exact ⟨c, task?_of_mem nodup member, armed.1, armed.2⟩

omit [Hardware H] in
theorem armed_of_task? {k : Nat} {c : Call} (h : site.task? k = some (.call c))
    (armed : c.stage = .armed) : k ∈ site.armed c.station :=
  marked_of_task? h (by simp [Task.isArmed, armed])

/-- A look at a call that has armed its radio ends it if the token is back, and only then. -/
theorem poll_armed {k : Nat} {c : Call} {s : Station} (h : site.task? k = some (.call c))
    (armed : c.stage = .armed) (hs : site.stations[c.station]? = some s) :
    (poll k site).2.isSome = true ↔ s.latch = .available := by
  have looked : site.look c = site.lookArmed c s := by simp only [look, hs, advance, armed]
  cases latch : s.latch with
  | held => simp [poll, h, run, runCall, looked, lookArmed, latch]
  | available =>
    have ended := stations_update hs Station.endWait
    simp [poll, h, run, runCall, looked, lookArmed, latch, finish, ended]

/-- What an allowed action leaves as it is while call `k` has its radio armed. -/
theorem perform_inTurn {k : Nat} {s : Station} (hk : k ∈ site.armed id) {action : Action H}
    (allowed : inTurn id site action = true) (hs : site.stations[id]? = some s) :
    ∃ s', (site.perform action).stations[id]? = some s' ∧ s'.entries = s.entries ∧
      (s.latch = .available → s'.latch = .available) := by
  have calm (d : Deed) (of : d.Of site action) : d.taker? ≠ some id := by
    intro taken
    obtain ⟨j, rfl, taker⟩ := of.token id taken
    simp only [inTurn, taker, bne_self_eq_false, Bool.false_or, List.isEmpty_iff] at allowed
    rw [allowed] at hk
    cases hk
  refine (perform_does site action).station (P := fun s' => s'.entries = s.entries ∧
    (s.latch = .available → s'.latch = .available)) ?_ hs ⟨rfl, fun h => h⟩
  rintro d t t' of moved ⟨entries, stays⟩
  obtain ⟨entries', stays'⟩ := Station.moves_entries moved (calm d of)
  exact ⟨entries'.trans entries, fun available => stays' (stays available)⟩

end Armed

/-- As long as a call that has armed the radio is looked at before those that wait to get in, no two
calls of a station have it armed at once. While one has, nobody else gets in, a token that is back
stays where it is, and the next look at the call ends it if the token is back, and only then. -/
theorem transactions_in_turn (hardware : H) (actions : List (Action H)) (id : Nat)
    (orderly : ({ hardware } : Site H).follows (inTurn id) actions = true) :
    let site := ({ hardware } : Site H).performAll actions
    (site.armed id).length ≤ 1 ∧
      ∀ k ∈ site.armed id, ∀ (s : Station), site.stations[id]? = some s →
        ∀ later, site.follows (fun site action => inTurn id site action && !action.touches k) later →
          (site.performAll later).armed id = [k] ∧
            ∃ s', (site.performAll later).stations[id]? = some s' ∧ s'.entries = s.entries ∧
              (s.latch = .available → s'.latch = .available) ∧
              ((poll k (site.performAll later)).2.isSome ↔ s'.latch = .available) := by
  intro site
  have short {actions : List (Action H)}
      (orderly : ({ hardware } : Site H).follows (inTurn id) actions = true) :
      ((({ hardware } : Site H).performAll actions).armed id).length ≤ 1 :=
    length_le_one (nodup_marked (nodup_pending hardware actions)) (armed_unique orderly)
  refine ⟨short orderly, ?_⟩
  intro k hk s hs later rest
  have nodup : site.pending.Nodup := nodup_pending hardware actions
  obtain ⟨c, found, rfl, armed⟩ := task?_of_armed nodup hk
  have stays : (site.performAll later).pending.Nodup ∧
      (site.performAll later).task? k = some (.call c) ∧
      ∃ s', (site.performAll later).stations[c.station]? = some s' ∧ s'.entries = s.entries ∧
        (s.latch = .available → s'.latch = .available) := by
    refine follows_induction (P := fun next => next.pending.Nodup ∧
      next.task? k = some (.call c) ∧ ∃ s', next.stations[c.station]? = some s' ∧
        s'.entries = s.entries ∧ (s.latch = .available → s'.latch = .available)) ?_ rest
      ⟨nodup, found, s, hs, rfl, fun h => h⟩
    rintro next action allowed ⟨nodup, found, s', hs', entries, stays⟩
    simp only [Bool.and_eq_true, Bool.not_eq_true'] at allowed
    obtain ⟨s'', hs'', entries', stays'⟩ :=
      perform_inTurn (armed_of_task? found armed) allowed.1 hs'
    exact ⟨nodup_pending_perform nodup action, task?_untouched nodup found allowed.2, s'', hs'',
      entries'.trans entries, fun available => stays' (stays available)⟩
  obtain ⟨-, found', s', hs', entries, available⟩ := stays
  have whole : ({ hardware } : Site H).follows (inTurn c.station) (actions ++ later) = true := by
    refine follows_append.mpr ⟨orderly, follows_mono ?_ rest⟩
    intro site action allowed
    exact (Bool.and_eq_true_iff.mp allowed).1
  refine ⟨?_, s', hs', entries, available, poll_armed found' armed hs'⟩
  have one := short whole
  rw [performAll_append] at one
  exact eq_singleton one (armed_of_task? found' armed)

/-- The transmission has ended, and the next look at the broadcast ends the broadcast. -/
theorem transactions_in_turn_crowded :
    let site := ({ hardware := oneAnswer } : Site Bench).performAll crowded
    site.armed 0 = [1] ∧ (site.armed 0).length ≤ 1 ∧
      (poll 1 (site.performAll [.raise 0 .timedOut])).2.isSome = true := by
  intro site
  have orderly : ({ hardware := oneAnswer } : Site Bench).follows (inTurn 0) crowded = true := by
    decide +kernel
  obtain ⟨short, armed⟩ := transactions_in_turn oneAnswer crowded 0 orderly
  have one : site.armed 0 = [1] := by decide +kernel
  have back : (site.stations[0]?).map Station.latch = some .available := by decide +kernel
  obtain ⟨s, hs, available⟩ := Option.map_eq_some_iff.mp back
  obtain ⟨-, s', -, -, stays, ended⟩ :=
    armed 1 (by rw [one]; simp) s hs [.raise 0 .timedOut] (by decide +kernel)
  exact ⟨one, short, ended.mpr (stays available)⟩

/-- The transmission has ended, and the receive that waits to get in is looked at first: it arms the
radio while the broadcast has not seen the end of its wait. -/
theorem transactions_overlap :
    (({ hardware := oneAnswer } : Site Bench).performAll (crowded ++ [.poll 2])).armed 0 =
      [1, 2] := by
  decide +kernel

end Site

end RangeSurvey
