import RangeSurvey.Proofs.Site.Posts

/-!
# Completion notes

A broadcast slot that comes to an end with a result offers one note to the queue if it ends a cycle
and somebody wants to know, whatever part the station played and whatever came of it, and nothing
else that is done offers any. A note that finds no room is lost, and nobody notices.
-/

namespace RangeSurvey

universe u

namespace Site

variable {H : Type}

/-! ## The course of a task -/

section Courses

variable [Hardware H]

/-- The notes that task `k` offers in the course of some actions, up to its end. -/
def made (k : Nat) (site : Site H) : List (Action H) → List (Completion × Bool)
  | [] => []
  | action :: actions =>
    if (site.task? k).isSome then
      (if action.touches k then (site.perform action).attempts.drop site.attempts.length else []) ++
        made k (site.perform action) actions
    else []

/-- What comes of task `k` by an action, if this is the last look at it. -/
def returned? (k : Nat) (site : Site H) : Action H → Option Outcome
  | .poll j => if j = k then (poll j site).2 else none
  | _ => none

def outcome? (k : Nat) (site : Site H) : List (Action H) → Option Outcome
  | [] => none
  | action :: actions =>
    if (site.task? k).isSome then
      (site.returned? k action).or (outcome? k (site.perform action) actions)
    else none

/-- Task `k` goes on as call `c`, or is over. The note that the call is to leave, whenever it is
done, is one of this device. -/
structure Serves (site : Site H) (k : Nat) (c : Call) (device? : Option Nat) : Prop where
  nodup : site.pending.Nodup
  task : ∀ task, site.task? k = some task → ∃ stage, task = .call { c with stage }
  due : ∀ after, site.Passes after → (after.due? c).map Completion.device = device?

/-- In the course of some actions task `k`, which is call `c`, goes on, or is given up, or is over
and has offered a note of this device. -/
def Course (site : Site H) (k : Nat) (c : Call) (device? : Option Nat)
    (actions : List (Action H)) : Prop :=
  (site.outcome? k actions = none ∧ site.made k actions = []) ∨
    ∃ status, site.outcome? k actions = some (c.outcome status) ∧
      (site.made k actions).map (fun offered => offered.1.device) = device?.toList

variable {site begun : Site H} {task : Task} {c : Call} {k : Nat} {device? : Option Nat}

theorem course_over (gone : site.task? k = none) (actions : List (Action H)) :
    site.outcome? k actions = none ∧ site.made k actions = [] := by
  cases actions <;> simp [outcome?, made, gone]

theorem Serves.perform (serves : site.Serves k c device?) {stage : Stage}
    (found : site.task? k = some (.call { c with stage })) (action : Action H) :
    (site.perform action).Serves k c device? where
  nodup := nodup_pending_perform serves.nodup action
  task task after := by
    obtain ⟨stage', rfl⟩ := call_remains serves.nodup found after
    exact ⟨stage', rfl⟩
  due after passes := serves.due after ((perform_does site action).passes.trans passes)

omit [Hardware H] in
/-- The notes that were offered on the way are the last on record. -/
theorem Posts.drop_attempts {note? : Option Completion} {a b : Site H} (posts : Posts note? a b) :
    b.attempts.drop a.attempts.length =
      note?.toList.map fun note => (note, decide (a.queue.length < completionCapacity)) := by
  rw [posts.attempts, List.drop_left]

omit [Hardware H] in
theorem Posts.devices {note? : Option Completion} {a b : Site H} (posts : Posts note? a b) :
    (b.attempts.drop a.attempts.length).map (fun offered => offered.1.device) =
      (note?.map Completion.device).toList := by
  rw [posts.drop_attempts]
  cases note? <;> rfl

/-- A look at a task lets it go on, or ends it and offers the note. -/
theorem course_of_poll (found : site.task? k = some task)
    (turn : site.turn task = some (begun, c))
    (due : ∀ after, site.Passes after → (after.due? c).map Completion.device = device?)
    {later : List (Action H)} (rest : (poll k site).1.Course k c device? later) :
    site.Course k c device? (.poll k :: later) := by
  have touched : (Action.poll k : Action H).touches k = true := beq_self_eq_true k
  have looked : site.outcome? k (.poll k :: later) =
      (poll k site).2.or ((poll k site).1.outcome? k later) := by
    simp only [outcome?, found, Option.isSome_some, if_true, returned?, perform]
  have offered : site.made k (.poll k :: later) =
      (poll k site).1.attempts.drop site.attempts.length ++ (poll k site).1.made k later := by
    simp only [made, found, Option.isSome_some, if_true, touched, perform]
  rcases poll_posts found turn with ⟨waits, posts⟩ | ⟨after, status, passes, ends, posts, gone⟩
  · have nothing : (poll k site).1.attempts.drop site.attempts.length = [] := posts.drop_attempts
    rw [Course, looked, offered, waits, nothing]
    exact rest
  · obtain ⟨-, none⟩ := course_over gone later
    refine Or.inr ⟨status, ?_, ?_⟩
    · rw [looked, ends]
      rfl
    · rw [offered, none, List.append_nil, posts.devices, due after passes]

/-- A call that is given up is over, and offers no note. -/
theorem course_of_cancel (found : site.task? k = some (.call c)) (later : List (Action H)) :
    site.Course k c device? (.cancel k :: later) := by
  have touched : (Action.cancel k : Action H).touches k = true := beq_self_eq_true k
  have gone : (site.perform (.cancel k)).task? k = none := by
    have removed := task?_removeTask site k k
    rw [if_pos rfl] at removed
    simp only [Site.perform, cancel, found]
    rwa [task?, abandon_tasks, ← task?]
  have nothing : (site.perform (.cancel k)).attempts.drop site.attempts.length = [] :=
    (cancel_posts site k).drop_attempts
  obtain ⟨none, rest⟩ := course_over gone later
  refine Or.inl ⟨?_, ?_⟩
  · simp only [outcome?, found, returned?, none, Option.isSome_some, if_true, Option.none_or]
  · simp only [made, found, touched, nothing, rest, Option.isSome_some, if_true, List.append_nil]

/-- What is done elsewhere does not concern the call. -/
theorem course_untouched {action : Action H} (found : site.task? k = some task)
    (touched : action.touches k = false) {later : List (Action H)}
    (rest : (site.perform action).Course k c device? later) :
    site.Course k c device? (action :: later) := by
  have silent : site.returned? k action = none := by
    cases action with
    | poll j => exact if_neg (beq_eq_false_iff_ne.mp touched)
    | _ => rfl
  simp only [Course, outcome?, made, found, silent, touched, Option.isSome_some, if_true,
    Option.none_or, Bool.false_eq_true, if_false, List.nil_append]
  exact rest

/-- Whatever happens, a call offers the note that it is to leave when it comes to an end, and none
before or otherwise. -/
theorem Serves.course (serves : site.Serves k c device?) (actions : List (Action H)) :
    site.Course k c device? actions := by
  induction actions generalizing site with
  | nil => exact Or.inl ⟨rfl, rfl⟩
  | cons action actions ih =>
    cases found : site.task? k with
    | none => exact Or.inl (course_over found _)
    | some task =>
      obtain ⟨stage, rfl⟩ := serves.task task found
      have rest := ih (serves.perform found action)
      cases touched : action.touches k with
      | false => exact course_untouched found touched rest
      | true =>
        cases action with
        | poll j =>
          obtain rfl := beq_iff_eq.mp touched
          exact course_of_poll (c := { c with stage }) found rfl serves.due rest
        | cancel j =>
          obtain rfl := beq_iff_eq.mp touched
          exact course_of_cancel (c := { c with stage }) found actions
        | _ => cases touched

/-! ## The course of a slot -/

/-- A note is due at the end of a slot: it is a broadcast slot that ends a cycle for the station of
the device, and somebody wants to know. -/
def CallsForNote (site : Site H) (job : SlotJob) : Prop :=
  job.kind = .broadcast ∧ job.notify = true ∧ ∃ id s, site.find? job.device = some id ∧
    site.stations[id]? = some s ∧ job.slot.round.toNat % s.nodeCount = s.nodeCount - 1

/-- The call of a slot, which is of station `id`, leaves a note of its device if one is due. -/
theorem due_of_slot {id : Nat} {s : Station} {job : SlotJob}
    (owned : site.find? job.device = some id) (hs : site.stations[id]? = some s) :
    ∃ device?, (∀ after, site.Passes after →
        (after.due? (site.takePart id s job).2).map Completion.device = device?) ∧
      (site.CallsForNote job → device? = some job.device) ∧
      (¬ site.CallsForNote job → device? = none) := by
  obtain ⟨-, s', hs', device⟩ := find?_some owned
  obtain rfl := Option.some.inj (hs.symm.trans hs')
  have due (after : Site H) (passes : site.Passes after) :
      (after.due? (site.takePart id s job).2).map Completion.device =
        if job.kind = .broadcast ∧ endsCycle job.slot.round s.nodeCount = true ∧ job.notify = true
          then some job.device else none := by
    obtain ⟨t, ht, stays⟩ := Does.stays passes hs
    simp only [due?, takePart, Option.bind_some, ht, stays.nodeCount]
    split
    · rw [Option.map_some, stays.device, device]
    · rfl
  have calls : site.CallsForNote job ↔ job.kind = .broadcast ∧
      endsCycle job.slot.round s.nodeCount = true ∧ job.notify = true := by
    rw [endsCycle, beq_iff_eq]
    constructor
    · rintro ⟨broadcast, wanted, id', t, owned', ht, last⟩
      obtain rfl := Option.some.inj (owned.symm.trans owned')
      obtain rfl := Option.some.inj (hs.symm.trans ht)
      exact ⟨broadcast, last, wanted⟩
    · rintro ⟨broadcast, last, wanted⟩
      exact ⟨broadcast, wanted, id, s, owned, hs, last⟩
  refine ⟨_, due, fun called => ?_, fun uncalled => ?_⟩
  · rw [if_pos (calls.mp called)]
  · rw [if_neg (mt calls.mpr uncalled)]

/-- In the course of some actions slot `k` offers one note, of its device, if it comes to an end
with a result and a note is due, and in all other cases none. -/
structure OffersOnce (site : Site H) (k : Nat) (job : SlotJob) (actions : List (Action H)) :
    Prop where
  once : (∃ report, site.outcome? k actions = some (.slot (some report))) → site.CallsForNote job →
    (site.made k actions).map (fun offered => offered.1.device) = [job.device]
  never : ¬ ((∃ report, site.outcome? k actions = some (.slot (some report))) ∧
    site.CallsForNote job) → site.made k actions = []

/-- A slot in which no station takes part comes to an end without a result, and offers no note. -/
theorem course_of_skipped {job : SlotJob} (found : site.task? k = some (.slot job))
    (skips : site.turn (.slot job) = none) (later : List (Action H)) :
    site.OffersOnce k job (.poll k :: later) := by
  obtain ⟨skipped, posts⟩ := poll_posts_skipped found skips
  obtain ⟨-, rest⟩ := course_over (poll_skips found skips) later
  have touched : (Action.poll k : Action H).touches k = true := beq_self_eq_true k
  have outcome : site.outcome? k (.poll k :: later) = some (.slot none) := by
    simp only [outcome?, found, Option.isSome_some, if_true, returned?, skipped, Option.some_or]
  have nothing : (poll k site).1.attempts.drop site.attempts.length = [] := posts.drop_attempts
  refine ⟨?_, fun _ => ?_⟩
  · rintro ⟨report, result⟩ -
    rw [outcome] at result
    cases result
  · simp only [made, found, Option.isSome_some, if_true, touched, perform, nothing, rest,
      List.append_nil]

theorem course_of_slot {job : SlotJob} (nodup : site.pending.Nodup)
    (found : site.task? k = some (.slot job)) (later : List (Action H)) :
    site.OffersOnce k job (.poll k :: later) := by
  cases turn : site.turn (.slot job) with
  | none => exact course_of_skipped found turn later
  | some t =>
    obtain ⟨called, entered, rfl⟩ := Option.map_eq_some_iff.mp turn
    obtain ⟨id, s, owned, hs, -, same⟩ := enter_eq_some entered
    obtain ⟨device?, due, wanted, unwanted⟩ := due_of_slot owned hs
    obtain rfl : (site.takePart id s job).2 = called := by
      rw [same] at entered
      exact Option.some.inj entered
    have serves : (poll k site).1.Serves k (site.takePart id s job).2 device? := {
      nodup := nodup_pending_perform nodup (.poll k)
      task := fun task after => call_of_turn found turn after
      due := fun after passes => due after ((poll_does site k).passes.trans passes) }
    rcases course_of_poll found turn due (serves.course later) with
      ⟨outcome, nothing⟩ | ⟨status, outcome, offered⟩
    · refine ⟨?_, fun _ => nothing⟩
      rintro ⟨report, result⟩ -
      rw [outcome] at result
      cases result
    · refine ⟨fun _ calls => ?_, fun not => ?_⟩
      · rw [offered, wanted calls]
        rfl
      · have uncalled : ¬ site.CallsForNote job := fun calls => not ⟨⟨_, outcome⟩, calls⟩
        rw [unwanted uncalled] at offered
        exact List.map_eq_nil_iff.mp offered

/-- A step that is no part of a slot offers no note. -/
theorem course_of_step (nodup : site.pending.Nodup) (found : site.task? k = some (.call c))
    (apart : c.part = none) (actions : List (Action H)) : site.made k actions = [] := by
  have serves : site.Serves k c none := {
    nodup
    task := fun task same => ⟨c.stage, (Option.some.inj (found.symm.trans same)).symm⟩
    due := fun after _ => by rw [due?, apart]; rfl }
  rcases serves.course actions with ⟨-, nothing⟩ | ⟨-, -, nothing⟩
  · exact nothing
  · exact List.map_eq_nil_iff.mp nothing

end Courses

/-! ## Nobody notices -/

structure Alike (a b : Site H) : Prop where
  hardware : b.hardware = a.hardware
  chain : b.chain = a.chain
  stations : b.stations = a.stations
  roster : b.roster = a.roster
  tasks : b.tasks = a.tasks

namespace Alike

variable {a b c : Site H}

theorem refl (site : Site H) : Alike site site := ⟨rfl, rfl, rfl, rfl, rfl⟩

theorem symm (h : Alike a b) : Alike b a :=
  ⟨h.hardware.symm, h.chain.symm, h.stations.symm, h.roster.symm, h.tasks.symm⟩

theorem trans (first : Alike a b) (second : Alike b c) : Alike a c :=
  ⟨second.hardware.trans first.hardware, second.chain.trans first.chain,
    second.stations.trans first.stations, second.roster.trans first.roster,
    second.tasks.trans first.tasks⟩

theorem replaceTask (h : Alike a b) (k : Nat) (task : Task) :
    Alike (a.replaceTask k task) (b.replaceTask k task) :=
  { h with tasks := by rw [Site.replaceTask, Site.replaceTask, h.tasks] }

theorem removeTask (h : Alike a b) (k : Nat) : Alike (a.removeTask k) (b.removeTask k) :=
  { h with tasks := by rw [Site.removeTask, Site.removeTask, h.tasks] }

theorem record (h : Alike a b) (e : Entry) : Alike (a.record e) (b.record e) := { h with }

end Alike

section Unnoticed

variable (queue : List Completion) (site : Site H) (c : Call)

theorem alike_queued : Alike site (queued queue site) := ⟨rfl, rfl, rfl, rfl, rfl⟩

theorem conclude_alike (status : Status) : Alike site (site.conclude c status).1 := by
  have said (site : Site H) (id : Nat) (n : StationNotice) : Alike site (site.say id n) :=
    ⟨by rw [say, act_eq], by rw [say, act_eq], stations_say site id n, by rw [say, act_eq],
      by rw [say, act_eq]⟩
  have recorded (e : Entry) : Alike site (site.record e) := ⟨rfl, rfl, rfl, rfl, rfl⟩
  rw [conclude]
  split
  · exact .refl site
  simp only
  split
  · split
    · rw [announce]
      split
      · exact ⟨rfl, rfl, rfl, rfl, rfl⟩
      · exact (recorded _).trans (said _ _ _)
    · exact .refl site
  · exact .refl site

variable [Hardware H]

theorem runCall_queued : ((queued queue site).runCall c).2 = (site.runCall c).2 ∧
    Alike (site.runCall c).1 ((queued queue site).runCall c).1 := by
  simp only [runCall, look_queued, bothQueued]
  cases looked : site.look c with
  | mk after progress =>
    cases progress with
    | waiting c' => exact ⟨rfl, alike_queued queue after⟩
    | done status =>
      simp only [(conclude_posts _ c status).2, true_and]
      exact (conclude_alike after c status).symm.trans
        ((alike_queued queue after).trans (conclude_alike _ c status))

theorem run_queued (task : Task) : ((queued queue site).run task).2 = (site.run task).2 ∧
    Alike (site.run task).1 ((queued queue site).run task).1 := by
  cases task with
  | call c => exact runCall_queued queue site c
  | slot job =>
    simp only [run, enter_queued, bothQueued]
    cases entered : site.enter job with
    | mk after called =>
      cases called with
      | none => exact ⟨rfl, alike_queued queue after⟩
      | some c => exact runCall_queued queue after c

/-- What comes of a look at a task, and everything but the queue and the record, is the same
whichever notes are waiting. -/
theorem poll_queued (k : Nat) : (poll k (queued queue site)).2 = (poll k site).2 ∧
    Alike (poll k site).1 (poll k (queued queue site)).1 := by
  have same : (queued queue site).task? k = site.task? k := rfl
  cases found : site.task? k with
  | none =>
    simp only [poll, same, found, true_and]
    exact alike_queued queue site
  | some task =>
    obtain ⟨outcome, alike⟩ := run_queued queue site task
    simp only [poll, same, found]
    generalize site.run task = x at outcome alike ⊢
    generalize (queued queue site).run task = y at outcome alike ⊢
    obtain ⟨a, progress⟩ := x
    obtain ⟨b, progress'⟩ := y
    obtain rfl : progress' = progress := outcome
    rcases progress' with task | outcome
    · exact ⟨rfl, alike.replaceTask k task⟩
    · exact ⟨rfl, (alike.removeTask k).record _⟩

end Unnoticed

/-! ## Every run -/

/-- How it stands with the notes of a site after `read` have been read. -/
structure Orderly [Hardware H] (site : Site H) (read : List Completion) : Prop where
  room : site.queue.length ≤ completionCapacity
  /-- No note is lost that was put in, none comes twice, and they come in order. -/
  inOrder : site.accepted = read ++ site.queue
  collects : site.popCompletion.2 = site.queue.head? ∧
    (site.perform .collect).queue = site.queue.tail
  deals : ∀ action, site.Deals action
  slot : ∀ k job later, site.task? k = some (.slot job) → site.OffersOnce k job (.poll k :: later)
  /-- A step that is no part of a slot offers no note. -/
  step : ∀ k c later, site.task? k = some (.call c) → c.part = none → site.made k later = []
  /-- The notes that wait make no difference to what comes of a look. -/
  unnoticed : ∀ queue k, (poll k (queued queue site)).2 = (poll k site).2 ∧
    Alike (poll k site).1 (poll k (queued queue site)).1

variable {κ : Type u}

/-- At every point of every run at most four notes wait, what has been put in is what has been read
and what waits, and every slot offers the notes that it is to leave. Whichever channel carries the
notes has the same answers. -/
theorem notes_in_order [Hardware H] (C : Channel κ Completion completionCapacity) (hardware : H)
    (actions : List (Action H)) :
    (({ hardware } : Site H).performAll actions).Orderly
        (({ hardware } : Site H).read actions) ∧
      Carried C C.new (({ hardware } : Site H).dealingsAll actions)
        (({ hardware } : Site H).performAll actions) := by
  have empty : ({ hardware } : Site H).queue.length ≤ completionCapacity := Nat.zero_le _
  have room := room_performAll empty actions
  have nodup := nodup_pending hardware actions
  obtain ⟨news, accepted, conserved⟩ := accepted_performAll empty actions
  obtain ⟨answer, rest, -⟩ := popCompletion_answers (({ hardware } : Site H).performAll actions)
  refine ⟨⟨room, ?_, ⟨answer, rest⟩, deals room, fun k job later found =>
    course_of_slot nodup found later, fun k c later found apart =>
      course_of_step nodup found apart later, fun queue k => poll_queued queue _ k⟩,
    carried_performAll C.messages_new empty actions⟩
  rw [accepted, ← conserved]
  rfl

/-- One station broadcasts in the last round of five cycles before anybody reads the notes. Then
two are read. -/
def overfull : List (Action Bench) :=
  .enrol ⟨0, 2, ⟨0x100, 0, 12⟩, {}, 0⟩ ::
    ((List.range 5).flatMap fun k =>
      [.start k (.slot ⟨0, .broadcast, ⟨5, 0, 1000, 2, 0⟩, .exact, true⟩), .poll k,
        .raise 0 .timedOut, .poll k]) ++ [.collect, .collect]

example :
    let site := ({ hardware := {} } : Site Bench).performAll overfull
    site.queue.length = 2 ∧ site.attempts.map Prod.snd = [true, true, true, true, false] := by
  decide +kernel

theorem notes_in_order_overfull :
    let box := Mailbox.channel Completion completionCapacity
    (({ hardware := {} } : Site Bench).performAll overfull).accepted =
        [⟨0, 5⟩, ⟨0, 5⟩] ++ (({ hardware := {} } : Site Bench).performAll overfull).queue ∧
      Carried box box.new (({ hardware := {} } : Site Bench).dealingsAll overfull)
        (({ hardware := {} } : Site Bench).performAll overfull) := by
  intro box
  have read : ({ hardware := {} } : Site Bench).read overfull = [⟨0, 5⟩, ⟨0, 5⟩] := by
    decide +kernel
  obtain ⟨orderly, carried⟩ := notes_in_order box {} overfull
  have inOrder := orderly.inOrder
  rw [read] at inOrder
  exact ⟨inOrder, carried⟩

end Site

end RangeSurvey
