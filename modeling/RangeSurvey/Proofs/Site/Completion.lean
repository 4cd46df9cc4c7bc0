import RangeSurvey.Proofs.Site.Sequential

/-!
# What ends a wait

The latch does not know who waits, and an event does not tell what it is the end of. As long as
every completion that a station takes for its own belongs to what its radio has been armed for last,
a receive that succeeds has stored exactly one row, and a broadcast that succeeds with something to
send has been sent. A completion that outlives its step, after a reset, ends the wait of the next
one with success.
-/

namespace RangeSurvey

open RangeSurvey.Frame

/-- The step that an event is the completion of. -/
def RadioEvent.completes? : RadioEvent → Option Activity
  | received _ => some .receive
  | sent => some .broadcast
  | timedOut | reset => none

/-! ## The record of a wait -/

section Record

variable {unit id : Nat}

/-- The entry in which the radio of a unit was armed last, by its place in the record, and what the
radio was armed for. The record begins with its latest entry. -/
def lastArming? (unit : Nat) : List Entry → Option (Nat × Activity)
  | [] => none
  | e :: older =>
    match e.armedFor? unit with
    | some activity => some (older.length, activity)
    | none => lastArming? unit older

/-- The completion in entry `n` belongs to the arming in entry `owner n`: every completion that
station `id` takes for its own belongs to what its unit has been armed for last. -/
def punctual (owner : Nat → Nat) (unit id : Nat) : List Entry → Bool
  | [] => true
  | e :: older => punctual owner unit id older &&
    match (e.handled? id).bind RadioEvent.completes? with
    | none => true
    | some activity => lastArming? unit older == some (owner older.length, activity)

theorem handled?_eq_some {e : Entry} {event : RadioEvent} (h : e.handled? id = some event) :
    e = .offered (.station id) event .handled := by
  cases e with
  | offered sink event' verdict =>
    cases sink with
    | recorder => cases h
    | station i =>
      cases verdict with
      | handled =>
        simp only [Entry.handled?, Option.ite_none_right_eq_some, Option.some.injEq] at h
        obtain ⟨rfl, rfl⟩ := h
        rfl
      | notMine => cases h
      | malformed => cases h
  | _ => cases h

theorem lastArming?_append {news older : List Entry} {arm : Entry} {activity : Activity}
    (armed : arm.armedFor? unit = some activity)
    (silent : ∀ e ∈ news, e.armedFor? unit = none) :
    lastArming? unit (news ++ arm :: older) = some (older.length, activity) := by
  induction news with
  | nil => simp [lastArming?, armed]
  | cons e news ih =>
    obtain ⟨first, rest⟩ := List.forall_mem_cons.mp silent
    simp [lastArming?, first, ih rest]

/-- The one event of a wait belongs to the arming with which the wait has begun. -/
theorem own_of_punctual {owner : Nat → Nat} {news older : List Entry} {arm : Entry}
    {activity own : Activity} {event : RadioEvent}
    (inTime : punctual owner unit id (news ++ arm :: older) = true)
    (armed : arm.armedFor? unit = some activity)
    (silent : ∀ e ∈ news, e.armedFor? unit = none)
    (one : news.filterMap (Entry.handled? id) = [event]) (completes : event.completes? = some own) :
    own = activity ∧ ∃ n, (news ++ arm :: older).reverse[n]? =
      some (.offered (.station id) event .handled) ∧ owner n = older.length ∧ older.length < n := by
  induction news with
  | nil => cases one
  | cons e news ih =>
    obtain ⟨first, rest⟩ := List.forall_mem_cons.mp silent
    simp only [List.cons_append, punctual, Bool.and_eq_true] at inTime
    obtain ⟨before, now⟩ := inTime
    cases heard : e.handled? id with
    | none =>
      rw [List.filterMap_cons_none heard] at one
      obtain ⟨same, n, entry, own, later⟩ := ih before rest one
      refine ⟨same, n, ?_, own, later⟩
      have inside := (List.getElem?_eq_some_iff.mp entry).1
      rw [List.cons_append, List.reverse_cons, List.getElem?_append_left inside]
      exact entry
    | some event' =>
      rw [List.filterMap_cons_some heard] at one
      obtain ⟨rfl, -⟩ := List.cons.inj one
      rw [heard, Option.bind_some, completes] at now
      simp only [lastArming?_append armed rest, beq_iff_eq, Option.some.injEq, Prod.mk.injEq] at now
      obtain ⟨own, same⟩ := now
      refine ⟨same.symm, (news ++ arm :: older).length, ?_, own.symm, ?_⟩
      · rw [← handled?_eq_some heard, List.cons_append, List.reverse_cons, ← List.length_reverse,
          List.getElem?_concat_length]
      · simp only [List.length_append, List.length_cons]
        omega

end Record

/-! ## The station at the end of a wait -/

namespace Station

variable {id : Nat} {a s : Station} {news : List Entry}

/-- A waiting station that a frame brings to its end has taken the frame. -/
theorem Sound.ends (sound : s.Sound) (held : s.latch = .held) {bytes : List UInt8}
    (ends : (s.hearFrame bytes).station.latch = .available) :
    (s.hearFrame bytes).verdict = .handled := by
  obtain ⟨-, -, station⟩ := sound.classified bytes
  by_cases handled : (s.hearFrame bytes).verdict = .handled
  · exact handled
  · rw [if_neg handled, if_neg (by simp [held])] at station
    rw [station, held] at ends
    cases ends

/-- A wait that ends without a failure ends by a completion, and a frame that ends it is stored. -/
theorem Waited.completed (held : a.latch = .held) (sound : a.Sound) (waited : a.Waited id s news)
    (available : s.latch = .available) (succeeded : s.status.succeeded = true) :
    ∃ event own, news.filterMap (Entry.handled? id) = [event] ∧ event.completes? = some own ∧
      ∀ bytes, event = .received bytes → IsRanging bytes ∧ 21 ≤ bytes.length ∧ s.Concerns bytes ∧
        Fits bytes s.nodeCount ∧ s.table = (a.accepted bytes).table := by
  cases waited with
  | pending like none =>
    rw [like.latch, held] at available
    cases available
  | @ended before event like ends since one =>
    have waiting : before.latch = .held := like.latch.trans held
    have unfailed := since.succeeded.symm.trans succeeded
    cases event with
    | received bytes =>
      have sound' : before.Sound := by
        obtain ⟨_, _, _, rfl⟩ := like
        exact sound.same rfl rfl rfl rfl
      have handled := sound'.ends waiting ends
      obtain ⟨accepts, -, station⟩ := sound'.classified bytes
      obtain ⟨-, ranging, long, concerns, fits⟩ := accepts.mp handled
      rw [if_pos handled] at station
      refine ⟨_, _, one.trans (if_pos handled), rfl, ?_⟩
      rintro _ ⟨⟩
      simp only [hear, station] at since
      obtain ⟨_, _, _, rfl⟩ := since
      obtain ⟨_, _, _, rfl⟩ := like
      exact ⟨ranging, long, ⟨concerns.destination, concerns.code, concerns.cell, concerns.round⟩,
        fits, rfl⟩
    | sent =>
      have handled : (before.hear .sent).verdict = .handled := by
        simp [hear, hearSent, waiting, Latch.putBack]
      exact ⟨_, _, one.trans (if_pos handled), rfl, by simp⟩
    | timedOut => simp [hear, hearTimeout, waiting, Latch.putBack, Status.succeeded] at unfailed
    | reset => simp [hear, hearReset, waiting, Latch.putBack, Status.succeeded] at unfailed

end Station

namespace Site

variable {H : Type} [Hardware H]

/-! ## Runs -/

section Run

variable {hardware : H} {actions : List (Action H)} {id k : Nat}

def step? (site : Site H) (k : Nat) : Option (Nat × Activity) :=
  ((site.task? k).bind site.turn).map fun t => (t.2.station, t.2.activity)

/-- A look at task `k` has armed the radio of the station, and until `next` the station has taken
one event for its own, a completion of this arming. A frame has changed the row of its sender. -/
structure Completed (owner : Nat → Nat) (looked next : Site H) (k id : Nat) (activity : Activity)
    (event : RadioEvent) : Prop where
  token : looked.taker? k = some id
  kind : event.completes? = some activity
  wait : ∃ (s : Station) (news : List Entry) (arm : Entry) (older : List Entry) (n : Nat),
    next.stations[id]? = some s ∧ next.trace = news ++ arm :: older ∧
      looked.trace <:+ older ∧ arm :: older <:+ (poll k looked).1.trace ∧
      arm.armedFor? s.unit = some activity ∧ (∀ e ∈ news, e.armedFor? s.unit = none) ∧
      news.filterMap (Entry.handled? id) = [event] ∧
      next.trace.reverse[n]? = some (.offered (.station id) event .handled) ∧
      owner n = older.length ∧ older.length < n
  stored : ∀ bytes, event = .received bytes → ∃ s t, looked.stations[id]? = some s ∧
    next.stations[id]? = some t ∧ IsRanging bytes ∧ 21 ≤ bytes.length ∧ t.Concerns bytes ∧
      Fits bytes t.nodeCount ∧ t.table = (s.accepted bytes).table

/-- A wait that has come to its end without a failure, every completion having been in time. -/
theorem WaitsSince.completed {start : Site H} {owner : Nat → Nat} {activity : Activity}
    {a s : Station} {base : List Entry} (since : start.WaitsSince actions id k activity a base)
    (hs : (start.performAll actions).stations[id]? = some s) (available : s.latch = .available)
    (succeeded : s.status.succeeded = true)
    (inTime : punctual owner s.unit id (start.performAll actions).trace = true) :
    ∃ before rest event, actions = before ++ .poll k :: rest ∧
      Completed owner (start.performAll before) (start.performAll actions) k id activity event := by
  obtain ⟨⟨s', news, hs', trace, waited, unit, silent⟩, before, rest, same, taker, arming, told⟩ :=
    since
  obtain rfl := Option.some.inj (hs.symm.trans hs')
  obtain ⟨t, ht, -, table, nodeCount⟩ := arming.station
  obtain ⟨arm, older, rfl, armed, earlier⟩ := arming.record
  obtain ⟨event, own, one, completes, stored⟩ :=
    waited.completed arming.held arming.sound available succeeded
  rw [← unit] at armed silent
  rw [trace] at inTime
  obtain ⟨rfl, n, entry, owned, later⟩ := own_of_punctual inTime armed silent one completes
  rw [← trace] at entry
  refine ⟨before, rest, event, same, taker, completes,
    ⟨s, news, arm, older, n, hs, trace, earlier, told, armed, silent, one, entry, owned, later⟩, ?_⟩
  intro bytes frame
  obtain ⟨ranging, long, concerns, fits, stored⟩ := stored bytes frame
  refine ⟨t, s, ht, hs, ranging, long, concerns, fits, ?_⟩
  rw [stored, Station.accepted, Station.accepted, table, nodeCount]

/-- A step that succeeds has seen the completion of what it has armed the radio for itself, as long
as steps do not overlap and no completion comes late. A receive has stored exactly one row. -/
theorem success_completed (hardware : H) (actions : List (Action H)) (id k : Nat)
    (owner : Nat → Nat) {activity : Activity} {status : Status} {s : Station}
    (orderly : ({ hardware } : Site H).follows (sequential id) (actions ++ [.poll k]) = true)
    (step : (({ hardware } : Site H).performAll actions).step? k = some (id, activity))
    (ended : (poll k (({ hardware } : Site H).performAll actions)).2.bind Outcome.status? =
      some status)
    (succeeded : status.succeeded = true)
    (effective : activity = .receive ∨ activity = .broadcast ∧ status.nothingToSend = false)
    (alone : (poll k (({ hardware } : Site H).performAll actions)).1.alone id)
    (hs : (poll k (({ hardware } : Site H).performAll actions)).1.stations[id]? = some s)
    (inTime : punctual owner s.unit id
      (poll k (({ hardware } : Site H).performAll actions)).1.trace = true) :
    ∃ before rest event, actions ++ [.poll k] = before ++ .poll k :: rest ∧
      Completed owner (({ hardware } : Site H).performAll before)
        (poll k (({ hardware } : Site H).performAll actions)).1 k id activity event := by
  obtain ⟨orderly, allowed⟩ := follows_append.mp orderly
  simp only [follows, Bool.and_true] at allowed
  simp only [step?, Option.map_eq_some_iff, Option.bind_eq_some_iff, Prod.mk.injEq] at step
  obtain ⟨⟨begun, c⟩, ⟨task, found, turn⟩, rfl, rfl⟩ := step
  have last : ({ hardware } : Site H).performAll (actions ++ [.poll k]) =
      (poll k (({ hardware } : Site H).performAll actions)).1 := performAll_append _ _ _
  have waited : ∃ a base s', ({ hardware } : Site H).WaitsSince (actions ++ [.poll k]) c.station k
      c.activity a base ∧
      (poll k (({ hardware } : Site H).performAll actions)).1.stations[c.station]? = some s' ∧
      s'.latch = .available ∧ s'.status.succeeded = status.succeeded := by
    by_cases armed : c.stage = .armed
    · obtain ⟨rfl, rfl⟩ := turn_of_unfresh turn (by simp [armed])
      exact waitsSince_of_armed orderly allowed found armed ended alone
    · have radio : c.activity = .broadcast ∨ c.activity = .receive := by
        rcases effective with receive | ⟨broadcast, -⟩
        · exact Or.inr receive
        · exact Or.inl broadcast
      have gated := gated_of_unarmed orderly found turn armed radio
      rcases waitsSince_of_gated found turn gated ended alone with waited | empty
      · exact waited
      · obtain ⟨broadcast, nothing⟩ := empty succeeded
        simp only at effective
        simp [broadcast, nothing] at effective
  obtain ⟨a, base, s', since, hs', available, same⟩ := waited
  obtain rfl := Option.some.inj (hs.symm.trans hs')
  rw [← last] at hs inTime ⊢
  exact since.completed hs available (same.trans succeeded) inTime

end Run

/-- Station 0 of two measures a distance and broadcasts it. A reset cuts the transmission short, and
the station waits for a row then. -/
def interrupted : List (Action Bench) :=
  [.enrol ⟨0, 2, ⟨0x100, 0, 12⟩, {}, 0⟩,
    .start 0 (.call { station := 0, activity := .request, deadline := 0 }), .poll 0,
    .start 1 (.call { station := 0, activity := .broadcast, deadline := 0 }), .poll 1,
    .raise 0 .reset, .poll 1,
    .start 2 (.call { station := 0, activity := .receive, deadline := 0 }), .poll 2]

omit [Hardware H] in
theorem alone_of_single {site : Site H} (single : site.stations.length = 1) : site.alone 0 := by
  intro s _ j t ht _
  have inside := (List.getElem?_eq_some_iff.mp ht).1
  omega

/-- The row of station 1 arrives, and nothing more comes of the transmission. -/
theorem success_completed_interrupted :
    let run := interrupted ++ [.raise 0 (.received answer)]
    ∃ before rest event, run ++ [.poll 2] = before ++ .poll 2 :: rest ∧
      Completed (fun _ => 14) (({ hardware := oneAnswer } : Site Bench).performAll before)
        (poll 2 (({ hardware := oneAnswer } : Site Bench).performAll run)).1 2 0 .receive event := by
  intro run
  have ended : ((poll 2 (({ hardware := oneAnswer } : Site Bench).performAll run)).2.bind
      Outcome.status?).map Status.succeeded = some true := by decide +kernel
  obtain ⟨status, result, succeeded⟩ := Option.map_eq_some_iff.mp ended
  have unit : ((poll 2 (({ hardware := oneAnswer } : Site Bench).performAll run)).1.stations[0]?).map
      Station.unit = some 0 := by decide +kernel
  obtain ⟨s, hs, unit⟩ := Option.map_eq_some_iff.mp unit
  refine success_completed oneAnswer run 0 2 (fun _ => 14) (by decide +kernel) (by decide +kernel)
    result succeeded (Or.inl rfl) (alone_of_single (by decide +kernel)) hs ?_
  rw [unit]
  decide +kernel

/-- The transmission that the reset has cut short comes to its end while the station waits for a
row: the receive succeeds, and no row has been stored. -/
theorem success_of_late_completion :
    let site := ({ hardware := oneAnswer } : Site Bench).performAll
      (interrupted ++ [.raise 0 .sent])
    ({ hardware := oneAnswer } : Site Bench).follows (sequential 0)
        (interrupted ++ [.raise 0 .sent, .poll 2]) = true ∧
      site.trace.filterMap (Entry.armedFor? 0) = [.receive, .broadcast] ∧
      site.trace.filterMap (Entry.handled? 0) = [.sent] ∧
      site.step? 2 = some (0, .receive) ∧
      ((poll 2 site).2.bind Outcome.status?).map Status.succeeded = some true ∧
      ((poll 2 site).1.stations[0]?).map Station.table =
        ((({ hardware := oneAnswer } : Site Bench).performAll interrupted).stations[0]?).map
          Station.table := by
  decide +kernel

end Site

end RangeSurvey
