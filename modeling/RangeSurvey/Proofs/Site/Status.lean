import RangeSurvey.Proofs.Site.Completion
import RangeSurvey.Proofs.Site.Roster
import RangeSurvey.Proofs.Site.Stretch

/-!
# What a step tells at its end

If the steps of a station do not overlap and none is given up, then the status that a step tells at
its end is about this step and nothing else: its start, the event that has ended its wait, and the
row that it was to send.
-/

namespace RangeSurvey

def Action.setsReady {H : Type} : Action H → Bool
  | enrol _ | adopt _ | dismiss _ => true
  | _ => false

namespace Site

variable {H : Type} [Hardware H]

/-! ## Readiness -/

/-- Whatever neither configures a station nor lets one rest leaves the same stations ready. -/
theorem isReady_perform (site : Site H) {action : Action H} (other : action.setsReady = false)
    (id : Nat) : (site.perform action).isReady id = site.isReady id := by
  by_cases joins : ∃ unit i sink, action = .join unit i sink
  · obtain ⟨unit, i, sink, rfl⟩ := joins
    simp only [perform, rechain]
    split
    · rfl
    · rfl
  · have apart : ∀ unit i sink, action = .join unit i sink → i ≠ surveyInterface :=
      fun unit i sink h => absurd ⟨unit, i, sink, h⟩ joins
    cases site.perform_rewired apart with
    | still _ _ ready => exact ready id
    | configured sets =>
      cases action with
      | enrol => cases other
      | adopt => cases other
      | _ => cases sets
    | suspended => cases other
    | dismissed => cases other

theorem isReady_performAll (site : Site H) (actions : List (Action H))
    (other : actions.all (fun action => !action.setsReady) = true) (id : Nat) :
    (site.performAll actions).isReady id = site.isReady id := by
  induction actions generalizing site with
  | nil => rfl
  | cons action actions ih =>
    simp only [List.all_cons, Bool.and_eq_true, Bool.not_eq_true'] at other
    exact (ih (site.perform action) other.2).trans (site.isReady_perform other.1 id)

/-! ## What a status tells -/

/-- What the flags and counters of a station tell at the end of step `c`, which began on site
`begun` with station `s`, after `news` have been put on record. -/
structure Tells (begun : Site H) (c : Call) (s : Station) (news : List Entry) (tally : Tally) :
    Prop where
  armed : ∀ events, begun.started? c s = some (.ok events) → c.ArmedFirst s news
  nothingToSend : tally.nothingToSend = true ↔ c.Broadcasts s 0
  invalidRow : tally.invalidRow = true ↔ c.Broadcasts s s.nodeCount
  transmitFailed : tally.transmitFailed = true ↔
    c.activity = .broadcast ∧ ∃ err, begun.started? c s = some (.error err)
  receiveFailed : tally.receiveFailed = true ↔
    c.activity = .receive ∧ ∃ err, begun.started? c s = some (.error err)
  timedOut : tally.timedOut = true ↔ (∃ events, begun.started? c s = some (.ok events)) ∧
    firstEffect? c.station news = some .timedOut
  wasReset : tally.wasReset = true ↔ (∃ events, begun.started? c s = some (.ok events)) ∧
    firstEffect? c.station news = some .reset
  transmitFailures :
    tally.transmitFailures = s.counters.transmitFailures + tally.transmitFailed.toNat
  receiveFailures : tally.receiveFailures = s.counters.receiveFailures + tally.receiveFailed.toNat
  timeouts : tally.timeouts = s.counters.timeouts + tally.timedOut.toNat
  resets : tally.resets = s.counters.resets + tally.wasReset.toNat

section Tells

variable {begun : Site H} {c : Call} {s : Station} {news : List Entry} {tally : Tally}

omit [Hardware H] in
theorem broadcasts_unique {n m : Nat} (first : c.Broadcasts s n) (second : c.Broadcasts s m) :
    n = m := by
  obtain ⟨-, row, own, rfl⟩ := first
  obtain ⟨-, row', own', rfl⟩ := second
  cases own.symm.trans own'
  rfl

/-- The radio is started only for a row that can be sent. -/
theorem sendable_of_started {answer : Except StartError (List RadioEvent)}
    (started : begun.started? c s = some answer) :
    ¬ c.Broadcasts s 0 ∧ ¬ c.Broadcasts s s.nodeCount := by
  have sendable : ∀ {count : Nat}, c.Broadcasts s count → count ≠ 0 ∧ count < s.nodeCount := by
    rintro count ⟨activity, row, own, rfl⟩
    have same (counters : Counters) (latch : Latch) (status : Status) :
        ({ s with latch, counters, status } : Station).ownRow? = some row := own
    simp only [started?, activity, Station.beginBroadcast, Station.prepare, same] at started
    split at started
    · next frame =>
      split at frame
      · cases frame
      next some =>
        split at frame
        · cases frame
        · next few => exact ⟨some, Nat.lt_of_not_le few⟩
    · cases started
  exact ⟨fun empty => (sendable empty).1 rfl, fun full => Nat.lt_irrefl _ (sendable full).2⟩

theorem unstarted_of_exchange (begun : Site H) (s : Station)
    (activity : c.activity = .request ∨ c.activity = .listen) :
    begun.started? c s = none ∧ c.activity ≠ .broadcast := by
  rcases activity with activity | activity <;> simp [started?, activity]

/-- What comes after the end of a step changes nothing of what it tells. -/
theorem Ends.append (ends : Ends begun c s news tally) (added : List Entry) :
    Ends begun c s (added ++ news) tally := by
  cases ends with
  | exchanged activity => exact .exchanged activity
  | empty empty size unstarted => exact .empty empty size unstarted
  | invalid full size unstarted => exact .invalid full size unstarted
  | transmitFailed activity failed => exact .transmitFailed activity failed
  | receiveFailed activity failed => exact .receiveFailed activity failed
  | told started armed first =>
    refine .told started (armed.append added) ?_
    rw [firstEffect?_append, first, Option.some_or]

theorem Ends.exchange (ends : Ends begun c s news tally)
    (activity : c.activity = .request ∨ c.activity = .listen) : tally = s.tally.clear := by
  obtain ⟨unstarted, silent⟩ := unstarted_of_exchange begun s activity
  cases ends with
  | exchanged => rfl
  | empty empty => exact absurd empty.1 silent
  | invalid full => exact absurd full.1 silent
  | transmitFailed _ failed => cases unstarted.symm.trans failed
  | receiveFailed _ failed => cases unstarted.symm.trans failed
  | told started => cases unstarted.symm.trans started

theorem Ends.tells (ends : Ends begun c s news tally) : Tells begun c s news tally := by
  cases ends with
  | exchanged activity =>
    obtain ⟨unstarted, silent⟩ := unstarted_of_exchange begun s activity
    constructor <;> simp [Station.tally, Tally.clear, Call.Broadcasts, unstarted, silent]
  | empty empty size unstarted =>
    have full : ¬ c.Broadcasts s s.nodeCount := fun full => size (broadcasts_unique full empty)
    constructor <;> simp [Station.tally, Tally.clear, empty, full, unstarted]
  | invalid full size unstarted =>
    have empty : ¬ c.Broadcasts s 0 := fun empty => size (broadcasts_unique full empty)
    constructor <;> simp [Station.tally, Tally.clear, empty, full, unstarted]
  | transmitFailed activity failed =>
    obtain ⟨empty, full⟩ := sendable_of_started failed
    constructor <;> simp [Station.tally, Tally.clear, empty, full, failed, activity]
  | receiveFailed activity failed =>
    obtain ⟨empty, full⟩ := sendable_of_started failed
    constructor <;> simp [Station.tally, Tally.clear, empty, full, failed, activity]
  | @told events event started armed first =>
    obtain ⟨empty, full⟩ := sendable_of_started started
    cases event
    all_goals
      constructor <;>
        simp [Station.tally, Tally.clear, Tally.after, empty, full, started, armed, first]

end Tells

structure Returns (next begun : Site H) (c : Call) (s t : Station) (news : List Entry)
    (status : Status) : Prop where
  station : next.stations[c.station]? = some t
  told : t.status = status
  idle : t.isIdle = true
  record : next.trace = news ++ begun.trace
  tells : begun.Tells c s news t.tally
  storage : status.ownsStorage = s.status.ownsStorage
  exchange : c.activity = .request ∨ c.activity = .listen → status.clearStep = status

/-! ## Runs -/

/-- From the beginning of a step on a station keeps its storage, and it is ready or not as the last
action that has configured it or let it rest has left it. -/
theorem Stretch.keeps {start begun : Site H} {actions before rest : List (Action H)} {k : Nat}
    {c : Call} {s t : Station} (stretch : start.Stretch actions k before rest begun c s)
    (ht : (start.performAll actions).stations[c.station]? = some t) :
    t.status.ownsStorage = s.status.ownsStorage ∧
      ∀ first later, .poll k :: rest = first ++ later →
        later.all (fun action => !action.setsReady) = true →
        t.status.ready = (start.performAll (before ++ first)).isReady c.station := by
  obtain ⟨task, found, turn⟩ := Option.bind_eq_some_iff.mp stretch.turn
  rw [stretch.run] at ht
  constructor
  · obtain ⟨s₀, hs₀, -⟩ := turn_station turn stretch.station
    obtain ⟨s', hs', owns⟩ := (turn_does turn).station
      (P := fun s => s.status.ownsStorage = s₀.status.ownsStorage)
      (fun _ _ _ _ moved => (Station.ownsStorage_of_moves moved).trans) hs₀ rfl
    obtain ⟨t', ht', -, owns', -⟩ := performAll_lasts hs₀ (.poll k :: rest)
    rw [performAll_append] at ht
    obtain rfl := Option.some.inj (hs'.symm.trans stretch.station)
    obtain rfl := Option.some.inj (ht'.symm.trans ht)
    exact owns'.trans owns.symm
  · intro first later split still
    rw [split, ← List.append_assoc, performAll_append] at ht
    have same := isReady_performAll (start.performAll (before ++ first)) later still c.station
    rw [← same]
    simp only [isReady, ht, Option.any_some]

/-- The status of a step tells about this step alone, and the station is idle then. A start that
fails, a timeout or a reset is counted once, with its flag. -/
theorem status_tells (hardware : H) (actions : List (Action H)) (id k : Nat) {activity : Activity}
    {status : Status}
    (orderly : ({ hardware } : Site H).follows (unbroken id) (actions ++ [.poll k]) = true)
    (step : (({ hardware } : Site H).performAll actions).step? k = some (id, activity))
    (ended : (poll k (({ hardware } : Site H).performAll actions)).2.bind Outcome.status? =
      some status) :
    ∃ before rest begun c s t news,
      ({ hardware } : Site H).Stretch (actions ++ [.poll k]) k before rest begun c s ∧
      c.station = id ∧ c.activity = activity ∧
      Returns (poll k (({ hardware } : Site H).performAll actions)).1 begun c s t news status ∧
      ∀ first later, .poll k :: rest = first ++ later →
        later.all (fun action => !action.setsReady) = true →
        status.ready = (({ hardware } : Site H).performAll (before ++ first)).isReady id := by
  obtain ⟨orderly, allowed⟩ := follows_append.mp orderly
  simp only [follows, Bool.and_true] at allowed
  simp only [step?, Option.map_eq_some_iff, Option.bind_eq_some_iff, Prod.mk.injEq] at step
  obtain ⟨⟨begun, c⟩, ⟨task, found, turn⟩, rfl, rfl⟩ := step
  obtain ⟨result, rest⟩ := poll_turn found turn
  have done : (begun.look c).2.status? = some status := result.symm.trans ended
  have grows := (rest c.station).record_grows
  have last : ({ hardware } : Site H).performAll (actions ++ [.poll k]) =
      (poll k (({ hardware } : Site H).performAll actions)).1 := performAll_snoc _ _ _
  cases hs : begun.stations[c.station]? with
  | none => simp [look, hs, Progress.status?] at done
  | some s =>
    have unique := begun_unique (follows_mono (fun _ _ => sequential_of_unbroken) orderly)
    obtain ⟨before, rest, begun₀, c₀, s₀, stage, same, stretch, comes⟩ :=
      (stands orderly).comes unique allowed found turn rfl hs (sound_of_turn turn hs)
    obtain ⟨here, kind⟩ : c₀.station = c.station ∧ c₀.activity = c.activity := by
      rw [same]
      exact ⟨rfl, rfl⟩
    generalize looked : begun.look c = after at comes done grows
    cases comes with
    | on => cases done
    | @ended site t news ht trace available ends =>
      obtain rfl : t.status = status := Option.some.inj done
      obtain ⟨stations, -⟩ := poll_done found turn looked
      -- What concludes the task is put on record after the step has come to its end.
      obtain ⟨added, later⟩ := grows
      have there : (poll k (({ hardware } : Site H).performAll actions)).1.stations[c₀.station]? =
          some t := by rw [stations, ht]
      obtain ⟨storage, ready⟩ := stretch.keeps (last ▸ there)
      rw [here] at ready
      refine ⟨before, rest, begun₀, c₀, s₀, t, added ++ news, stretch, here, kind, ?_, ready⟩
      refine ⟨there, rfl, Station.isIdle_iff.mpr available, ?_, (ends.append added).tells, storage,
        ?_⟩
      · rw [← later, trace, List.append_assoc]
      · exact fun exchange => Station.clearStep_of_tally (ends.exchange exchange)

/-- A radio that hears a frame of somebody else whenever it begins to receive. -/
def crowdedAir : Bench where
  radio _ := { onReceive := some (.received [1, 2]) }

/-- A reset cuts a station short that waits for a row, and a timeout comes when nobody waits. Then
the station waits again until it times out, and before anybody looks the radio is reset. -/
def lateReset : List (Action Bench) :=
  [.enrol ⟨0, 2, ⟨0x100, 0, 12⟩, {}, 0⟩,
    .start 0 (.call { station := 0, activity := .receive, deadline := 0 }), .poll 0,
    .raise 0 .reset, .poll 0, .raise 0 .timedOut,
    .start 1 (.call { station := 0, activity := .receive, deadline := 0 }), .poll 1,
    .raise 0 .timedOut, .raise 0 .reset]

/-- The second step tells of the timeout that has ended its wait, and counts it, and of nothing
else. -/
theorem status_tells_late_reset :
    let site := ({ hardware := crowdedAir } : Site Bench).performAll lateReset
    ∃ status before rest begun c s t news,
      (poll 1 site).2.bind Outcome.status? = some status ∧
      status = { ready := true, ownsStorage := true, timedOut := true } ∧
      ({ hardware := crowdedAir } : Site Bench).Stretch (lateReset ++ [.poll 1]) 1 before rest
        begun c s ∧
      c.station = 0 ∧ c.activity = .receive ∧ Returns (poll 1 site).1 begun c s t news status ∧
      firstEffect? c.station news = some .timedOut ∧
      t.counters.timeouts = s.counters.timeouts + 1 ∧ t.counters.resets = s.counters.resets := by
  intro site
  have ended : (poll 1 site).2.bind Outcome.status? =
      some { ready := true, ownsStorage := true, timedOut := true } := by decide +kernel
  have step : site.step? 1 = some (0, .receive) := by decide +kernel
  obtain ⟨before, rest, begun, c, s, t, news, stretch, here, kind, returns, -⟩ :=
    status_tells crowdedAir lateReset 0 1 (by decide +kernel) step ended
  have flag : t.tally.timedOut = true := congrArg Status.timedOut returns.told
  have noFlag : t.tally.wasReset = false := congrArg Status.wasReset returns.told
  have counted := returns.tells.timeouts
  have uncounted := returns.tells.resets
  rw [flag] at counted
  rw [noFlag] at uncounted
  exact ⟨_, before, rest, begun, c, s, t, news, ended, rfl, stretch, here, kind, returns,
    (returns.tells.timedOut.mp flag).2, counted, uncounted⟩

end Site

end RangeSurvey
