import RangeSurvey.Channel
import RangeSurvey.Proofs.Site.Queue
import RangeSurvey.Proofs.Site.Slots

/-!
# Putting notes into the queue and reading them

Devices share one queue of completion notes, and it has room for a few. What is put in comes out
once, in the order in which it was put in. The end of a broadcast slot may offer a note to the
queue, and nothing else does. A channel with room for as many notes has the same answers.
-/

namespace RangeSurvey

universe u

/-- A note that was offered to the queue, and whether it was kept. -/
def Entry.attempt? : Entry → Option (Completion × Bool)
  | announced note kept => some (note, kept)
  | _ => none

def Call.outcome (c : Call) (status : Status) : Outcome :=
  match c.part with
  | none => .step status
  | some part => .slot (some ⟨part.role, c.deadline, status⟩)

namespace Site

variable {H : Type}

/-- The notes that were offered to the queue, in order. -/
def attempts (site : Site H) : List (Completion × Bool) :=
  site.trace.reverse.filterMap Entry.attempt?

def accepted (site : Site H) : List Completion :=
  (site.attempts.filter Prod.snd).map Prod.fst

def due? (site : Site H) (c : Call) : Option Completion :=
  c.part.bind fun part => (site.stations[c.station]?).bind fun s =>
    if part.kind = .broadcast ∧ endsCycle part.round s.nodeCount = true ∧ part.notify = true then
      some ⟨s.device, s.round⟩
    else none

/-- From one site to another a note is offered to the queue, or none is. It is put in if there is
room for it. -/
structure Posts (note? : Option Completion) (a b : Site H) : Prop where
  queue : b.queue = a.queue ++ if a.queue.length < completionCapacity then note?.toList else []
  attempts : b.attempts = a.attempts ++
    note?.toList.map fun note => (note, decide (a.queue.length < completionCapacity))

/-! ## What leaves the notes alone -/

def Deed.Silent (d : Deed) : Prop := ∀ note kept, d ≠ .record (.announced note kept)

section Silent

variable {a b c : Site H}

/-- No note comes on record by deeds that offer none. -/
theorem Does.attempts (h : Does Deed.Silent a b) : b.attempts = a.attempts := by
  obtain ⟨news, trace⟩ := h.record_grows
  have none : news.reverse.filterMap Entry.attempt? = [] := by
    rw [List.filterMap_eq_nil_iff]
    intro e new
    cases e with
    | announced note kept =>
      have offered := h.recorded trace.symm _ (List.mem_reverse.mp new) rfl
      exact absurd rfl (offered note kept)
    | _ => rfl
  rw [Site.attempts, ← trace, List.reverse_append, List.filterMap_append, none, List.append_nil]
  rfl

theorem Posts.nothing (queue : b.queue = a.queue) (attempts : b.attempts = a.attempts) :
    Posts none a b where
  queue := by simp [queue]
  attempts := by simp [attempts]

theorem Posts.after {note? : Option Completion} (first : Posts none a b)
    (second : Posts note? b c) : Posts note? a c := by
  have queue : b.queue = a.queue := by simpa using first.queue
  have attempts : b.attempts = a.attempts := by simpa using first.attempts
  refine ⟨?_, ?_⟩
  · rw [second.queue, queue]
  · rw [second.attempts, queue, attempts]

theorem Posts.before {note? : Option Completion} (first : Posts note? a b)
    (second : Posts none b c) : Posts note? a c := by
  have queue : c.queue = b.queue := by simpa using second.queue
  have attempts : c.attempts = b.attempts := by simpa using second.attempts
  exact ⟨queue.trans first.queue, attempts.trans first.attempts⟩

theorem Deed.silent_part (id : Nat) (p : Station.Part) : Deed.Silent (.part id p) := nofun

theorem Deed.silent_covers (id : Nat) : Covers Deed.Silent id where
  aside d aside note kept := by
    rintro rfl
    cases aside.outside
  calm _ _ := nofun
  say _ := nofun
  arm _ := nofun
  call _ _ _ := nofun

theorem Deed.Outside.silent {d : Deed} (outside : d.Outside) : d.Silent := by
  rintro note kept rfl
  cases outside

end Silent

section Looks

variable [Hardware H] (site : Site H)

/-- A look at a call does not concern the notes. -/
theorem look_posts (c : Call) : Posts none site (site.look c).1 := by
  have silent : Does Deed.Silent site (site.look c).1 :=
    look_covered fun s _ =>
      ⟨Deed.silent_covers c.station, fun _ _ _ => nofun, fun _ _ _ => nofun, fun _ _ _ _ => nofun⟩
  exact .nothing (queue_look site c) silent.attempts

theorem enter_posts (job : SlotJob) : Posts none site (site.enter job).1 := by
  refine .nothing (queue_enter site job) ?_
  cases called : (site.enter job).2 with
  | none =>
    rcases (enter_eq_none called).2 with same | noted
    · rw [same]
    · rw [noted]
      exact ((note_does site _).mono fun _ aside => aside.outside.silent).attempts
  | some c =>
    obtain ⟨id, s, -, hs, -, entered⟩ := enter_eq_some called
    rw [entered]
    have silent : Does Deed.Silent site (site.takePart id s job).1 :=
      takePart_does hs job fun _ _ _ => nofun
    exact silent.attempts

omit [Hardware H] in
theorem abandon_posts (c : Call) : Posts none site (site.abandon c) := by
  have silent : Does Deed.Silent site (site.abandon c) := by
    rw [abandon]
    split
    · exact part_does site c.station .freeEngine (Deed.silent_part _ _)
    · exact Does.refl _ site
  refine .nothing ?_ silent.attempts
  rw [abandon]
  split
  · exact queue_update site _ _
  · rfl

omit [Hardware H] in
theorem cancel_posts (k : Nat) : Posts none site (site.cancel k).1 := by
  simp only [cancel]
  split
  · exact .nothing rfl rfl
  · exact .nothing rfl rfl
  · next c _ =>
    have removed : Posts none site (site.removeTask k) := .nothing rfl rfl
    exact removed.after (abandon_posts _ c)

end Looks

/-! ## What offers a note -/

section Offers

variable (site : Site H)

theorem attempts_record (e : Entry) :
    (site.record e).attempts = site.attempts ++ e.attempt?.toList := by
  cases offered : e.attempt? <;> simp [attempts, record, offered]

theorem attempts_announced (note : Completion) (kept : Bool) :
    (site.record (.announced note kept)).attempts = site.attempts ++ [(note, kept)] :=
  attempts_record site (.announced note kept)

/-- The end of a task comes on record. -/
theorem ended_posts (k : Nat) (outcome : Outcome) :
    Posts none site ((site.removeTask k).record (.ended k outcome)) :=
  .nothing rfl ((attempts_record (site.removeTask k) _).trans (List.append_nil _))

theorem announce_posts (id : Nat) (s : Station) :
    Posts (some ⟨s.device, s.round⟩) site (site.announce id s) := by
  simp only [announce]
  split
  · next room =>
    refine ⟨?_, ?_⟩
    · rw [if_pos room]
      rfl
    · rw [attempts_announced, decide_eq_true room]
      rfl
  · next full =>
    have said (site : Site H) : Does Deed.Silent site (site.say id .queueFull) :=
      part_does site id (.say .queueFull) (Deed.silent_part _ _)
    refine ⟨?_, ?_⟩
    · rw [if_neg full, List.append_nil, say, queue_act]
      rfl
    · rw [(said _).attempts, attempts_announced, decide_eq_false full]
      rfl

/-- A call that is done offers the note that it is to leave. -/
theorem conclude_posts (c : Call) (status : Status) :
    Posts (site.due? c) site (site.conclude c status).1 ∧
      (site.conclude c status).2 = c.outcome status := by
  have nothing : Posts none site site := .nothing rfl rfl
  rcases part : c.part with _ | ⟨kind, role, round, notify⟩
  · simp only [due?, conclude, Call.outcome, part, Option.bind_none, and_true]
    exact nothing
  cases hs : site.stations[c.station]? with
  | none =>
    simp only [due?, conclude, Call.outcome, part, hs, Option.bind_some, Option.bind_none, and_true]
    exact nothing
  | some s =>
    simp only [due?, conclude, Call.outcome, part, hs, Option.bind_some]
    cases kind with
    | ranging =>
      rw [if_neg (by simp)]
      exact ⟨nothing, rfl⟩
    | broadcast =>
      simp only [Bool.and_eq_true, true_and]
      split
      · exact ⟨announce_posts site c.station s, rfl⟩
      · exact ⟨nothing, rfl⟩

/-- Only the end of a slot leaves a note. -/
theorem outcome_of_due {c : Call} {note : Completion} (due : site.due? c = some note)
    (status : Status) : ∃ report, c.outcome status = .slot (some report) := by
  obtain ⟨part, hpart, -⟩ := Option.bind_eq_some_iff.mp due
  simp only [Call.outcome, hpart]
  exact ⟨_, rfl⟩

end Offers

/-! ## What every action does with the notes -/

/-- What is read is the oldest note that waits, if there is one, and the others stay. -/
theorem popCompletion_answers (site : Site H) : site.popCompletion.2 = site.queue.head? ∧
    site.popCompletion.1.queue = site.queue.tail ∧
    site.popCompletion.1.attempts = site.attempts := by
  cases waiting : site.queue with
  | nil => simp only [popCompletion, waiting, List.head?_nil, List.tail_nil, and_self]
  | cons note rest =>
    simp only [popCompletion, waiting, List.head?_cons, List.tail_cons, true_and]
    exact ⟨rfl, (attempts_record _ _).trans (List.append_nil _)⟩

/-- The notes that an action reads. -/
def reads (site : Site H) : Action H → List Completion
  | .collect => site.popCompletion.2.toList
  | _ => []

/-- What an action does with the notes. Reading leaves them alone only if there are none: otherwise
the oldest is read and the others stay. The last look at a slot may offer a note, which is lost if
and only if the queue is full. -/
inductive Deals [Hardware H] (site : Site H) : Action H → Prop where
  | leaves {action : Action H} : (action = .collect → site.queue = []) →
      (site.perform action).queue = site.queue →
      (site.perform action).attempts = site.attempts → site.reads action = [] →
      Deals site action
  | reads {note : Completion} {rest : List Completion} : site.queue = note :: rest →
      (site.perform .collect).queue = rest →
      (site.perform .collect).attempts = site.attempts → site.reads .collect = [note] →
      Deals site .collect
  | offers {k : Nat} {note : Completion} {kept : Bool} {report : SlotReport} :
      (poll k site).2 = some (.slot (some report)) →
      (kept = false ↔ site.queue.length = completionCapacity) →
      (site.perform (.poll k)).queue = (if kept then site.queue ++ [note] else site.queue) →
      (site.perform (.poll k)).attempts = site.attempts ++ [(note, kept)] →
      Deals site (.poll k)

section Actions

variable [Hardware H] {site begun : Site H} {task : Task} {c : Call} {k : Nat}

theorem turn_posts (turn : site.turn task = some (begun, c)) : Posts none site begun := by
  cases task with
  | call =>
    cases turn
    exact .nothing rfl rfl
  | slot job =>
    obtain ⟨_, -, same⟩ := Option.map_eq_some_iff.mp turn
    cases same
    exact enter_posts site job

/-- A look at a task that goes on offers no note, and in the one that ends it the call offers the
note that it is to leave. -/
theorem poll_posts (found : site.task? k = some task) (turn : site.turn task = some (begun, c)) :
    ((poll k site).2 = none ∧ Posts none site (poll k site).1) ∨
      ∃ after status, site.Passes after ∧ (poll k site).2 = some (c.outcome status) ∧
        Posts (after.due? c) site (poll k site).1 ∧ (poll k site).1.task? k = none := by
  have looks := (turn_posts turn).after (look_posts begun c)
  have passes := (turn_does turn).passes.trans (look_does begun c).passes
  cases looked : begun.look c with
  | mk after progress =>
    rw [looked] at looks passes
    cases progress with
    | waiting c' =>
      refine Or.inl ⟨?_, ?_⟩
      · simp only [poll, found, run_turn turn, runCall, looked]
      · simp only [poll, found, run_turn turn, runCall, looked]
        exact looks.before (.nothing rfl rfl)
    | done status =>
      obtain ⟨posts, outcome⟩ := conclude_posts after c status
      refine Or.inr ⟨after, status, passes, ?_, ?_, (poll_done found turn looked).2⟩
      · simp only [poll, found, run_turn turn, runCall, looked, outcome]
      · simp only [poll, found, run_turn turn, runCall, looked]
        exact (looks.after posts).before (ended_posts _ k _)

/-- Nothing is offered by a slot in which no station takes part. -/
theorem poll_posts_skipped {job : SlotJob} (found : site.task? k = some (.slot job))
    (skips : site.turn (.slot job) = none) :
    (poll k site).2 = some (.slot none) ∧ Posts none site (poll k site).1 := by
  have entered := enter_posts site job
  have skipped : (site.enter job).2 = none := Option.map_eq_none_iff.mp skips
  generalize result : site.enter job = x at entered skipped
  obtain ⟨after, called⟩ := x
  obtain rfl : called = none := skipped
  simp only [poll, found, run, result, true_and]
  exact entered.before (ended_posts after k _)

theorem Posts.deals {action : Action H} (posts : Posts none site (site.perform action))
    (inside : action.isOutside = false) (silent : site.reads action = []) : site.Deals action := by
  refine .leaves (fun collects => ?_) (by simpa using posts.queue) (by simpa using posts.attempts)
    silent
  rw [collects] at inside
  cases inside

/-- A note that is offered is put in if it finds room. -/
theorem Posts.offers {note : Completion} {report : SlotReport}
    (posts : Posts (some note) site (site.perform (.poll k)))
    (room : site.queue.length ≤ completionCapacity)
    (outcome : (poll k site).2 = some (.slot (some report))) : site.Deals (.poll k) := by
  refine .offers outcome ?_ ?_ posts.attempts
  · rw [decide_eq_false_iff_not]
    omega
  · rw [posts.queue]
    by_cases free : site.queue.length < completionCapacity
    · simp [free]
    · simp [free]

theorem poll_deals (room : site.queue.length ≤ completionCapacity) (k : Nat) :
    site.Deals (.poll k) := by
  cases found : site.task? k with
  | none =>
    have same : site.perform (.poll k) = site := by simp only [perform, poll, found]
    exact Posts.deals (.nothing (by rw [same]) (by rw [same])) rfl rfl
  | some task =>
    cases turn : site.turn task with
    | none =>
      cases task with
      | call => cases turn
      | slot job => exact (poll_posts_skipped found turn).2.deals rfl rfl
    | some t =>
      rcases poll_posts found turn with ⟨-, posts⟩ | ⟨after, status, -, outcome, posts, -⟩
      · exact posts.deals rfl rfl
      · cases due : after.due? t.2 with
        | none =>
          rw [due] at posts
          exact posts.deals rfl rfl
        | some note =>
          obtain ⟨report, slot⟩ := outcome_of_due after due status
          rw [due] at posts
          rw [slot] at outcome
          exact posts.offers room outcome

/-- Every action leaves the notes alone, reads the oldest, or offers one. -/
theorem deals (room : site.queue.length ≤ completionCapacity) (action : Action H) :
    site.Deals action := by
  cases outside : action.isOutside with
  | true =>
    by_cases collects : action = .collect
    · subst collects
      obtain ⟨answer, left, attempts⟩ := popCompletion_answers site
      cases waiting : site.queue with
      | nil =>
        rw [waiting] at answer left
        exact .leaves (fun _ => waiting) (left.trans waiting.symm) attempts
          (by rw [reads, answer]; rfl)
      | cons note rest =>
        rw [waiting] at answer left
        exact .reads waiting left attempts (by rw [reads, answer]; rfl)
    · have silent := (outside_does site outside).mono fun _ => Deed.Outside.silent
      refine .leaves (absurd · collects) (queue_outside site outside collects) silent.attempts ?_
      cases action with
      | collect => exact absurd rfl collects
      | _ => rfl
  | false =>
    cases action with
    | start number task =>
      refine Posts.deals (.nothing ?_ ?_) rfl rfl
      all_goals
        simp only [perform]
        split <;> rfl
    | poll k => exact poll_deals room k
    | cancel k =>
      exact (cancel_posts site k).deals rfl rfl
    | _ => cases outside

end Actions

/-! ## Runs -/

section Runs

variable [Hardware H] {site : Site H} {action : Action H}

/-- The notes that are read in the course of some actions, in order. -/
def read (site : Site H) : List (Action H) → List Completion
  | [] => []
  | action :: actions => site.reads action ++ read (site.perform action) actions

/-- What is put into the queue comes out, or waits. -/
theorem Deals.conserves (deals : site.Deals action) : ∃ news,
    (site.perform action).accepted = site.accepted ++ news ∧
      site.queue ++ news = site.reads action ++ (site.perform action).queue := by
  cases deals with
  | leaves _ queue attempts silent =>
    exact ⟨[], by rw [accepted, accepted, attempts, List.append_nil],
      by rw [queue, silent, List.append_nil, List.nil_append]⟩
  | reads waiting queue attempts note =>
    exact ⟨[], by rw [accepted, accepted, attempts, List.append_nil],
      by rw [queue, note, waiting, List.append_nil]; rfl⟩
  | @offers k note kept report _ _ queue attempts =>
    refine ⟨if kept then [note] else [], ?_, ?_⟩
    · rw [accepted, accepted, attempts]
      cases kept <;> simp
    · rw [queue]
      cases kept <;> simp [Site.reads]

theorem Deals.room (deals : site.Deals action) (room : site.queue.length ≤ completionCapacity) :
    (site.perform action).queue.length ≤ completionCapacity := by
  cases deals with
  | leaves _ queue => rwa [queue]
  | reads waiting queue =>
    rw [waiting, List.length_cons] at room
    rw [queue]
    omega
  | @offers k note kept report _ lost queue =>
    rw [queue]
    cases kept with
    | false => exact room
    | true =>
      have free : site.queue.length ≠ completionCapacity := fun full => nomatch lost.mpr full
      rw [if_pos rfl, List.length_append, List.length_singleton]
      omega

theorem room_performAll (room : site.queue.length ≤ completionCapacity)
    (actions : List (Action H)) :
    (site.performAll actions).queue.length ≤ completionCapacity :=
  performAll_induction (P := fun site => site.queue.length ≤ completionCapacity)
    (fun _ action room => (deals room action).room room) actions room

/-- What has been put into the queue in the course of some actions is what has been read and what
waits, in this order. -/
theorem accepted_performAll (room : site.queue.length ≤ completionCapacity)
    (actions : List (Action H)) : ∃ news,
      (site.performAll actions).accepted = site.accepted ++ news ∧
        site.queue ++ news = site.read actions ++ (site.performAll actions).queue := by
  induction actions generalizing site with
  | nil => exact ⟨[], (List.append_nil _).symm, List.append_nil _⟩
  | cons action actions ih =>
    obtain ⟨first, accepted, conserved⟩ := (deals room action).conserves
    obtain ⟨later, accepted', conserved'⟩ := ih ((deals room action).room room)
    refine ⟨first ++ later, ?_, ?_⟩
    · rw [performAll, accepted', accepted, List.append_assoc]
    · rw [read, performAll, List.append_assoc, ← conserved', ← List.append_assoc, conserved,
        List.append_assoc]

end Runs

end Site

/-! ## A channel behind the queue -/

inductive Dealing where
  | offered (note : Completion) (kept : Bool)
  | read (note? : Option Completion)
deriving DecidableEq, Repr

section Channels

variable {κ : Type u} {capacity : Nat} (C : Channel κ Completion capacity)

/-- Asks a channel for what the queue was asked for, and says what the channel answers. -/
def Channel.deal (c : κ) : Dealing → κ × Dealing
  | .offered note _ =>
    let (c, kept) := C.trySend note c
    (c, .offered note kept)
  | .read _ =>
    let (c, note?) := C.tryReceive c
    (c, .read note?)

def Channel.dealAll (c : κ) : List Dealing → κ × List Dealing
  | [] => (c, [])
  | dealing :: dealings =>
    let (c, answer) := C.deal c dealing
    let (c, answers) := Channel.dealAll c dealings
    (c, answer :: answers)

theorem Channel.dealAll_append (c : κ) (first second : List Dealing) :
    C.dealAll c (first ++ second) =
      ((C.dealAll (C.dealAll c first).1 second).1,
        (C.dealAll c first).2 ++ (C.dealAll (C.dealAll c first).1 second).2) := by
  induction first generalizing c with
  | nil => rfl
  | cons dealing first ih => simp only [List.cons_append, Channel.dealAll, ih]

namespace Site

variable {H : Type} {site : Site H}

section Carried

variable {C}

/-- A channel in which the notes of the queue wait answers as the queue does, and those that wait
afterwards are again the same. -/
def Carried (C : Channel κ Completion capacity) (c : κ) (dealings : List Dealing) (after : Site H) :
    Prop :=
  (C.dealAll c dealings).2 = dealings ∧ C.messages (C.dealAll c dealings).1 = after.queue

theorem carried_read {c : κ} {after : Site H} (same : C.messages c = site.queue)
    (answer : site.popCompletion.2 = site.queue.head?) (rest : after.queue = site.queue.tail) :
    Carried C c [.read site.popCompletion.2] after := by
  obtain ⟨received, left⟩ := C.receives c
  refine ⟨?_, ?_⟩
  · simp only [Channel.dealAll, Channel.deal, received, same, answer]
  · rw [rest, ← same]
    exact left

theorem carried_offered {C : Channel κ Completion completionCapacity} {c : κ} {note : Completion}
    {kept : Bool} {after : Site H} (same : C.messages c = site.queue)
    (room : site.queue.length ≤ completionCapacity)
    (lost : kept = false ↔ site.queue.length = completionCapacity)
    (queue : after.queue = if kept then site.queue ++ [note] else site.queue) :
    Carried C c [.offered note kept] after := by
  rw [← same] at room lost queue
  cases kept with
  | false =>
    have refused := C.refuses note c (Nat.le_of_eq (lost.mp rfl).symm)
    refine ⟨?_, ?_⟩
    · simp only [Channel.dealAll, Channel.deal, refused]
    · simp only [Channel.dealAll, Channel.deal, refused]
      exact queue.symm
  | true =>
    have free : (C.messages c).length < completionCapacity :=
      Nat.lt_of_le_of_ne room fun full => nomatch lost.mpr full
    obtain ⟨sent, more⟩ := C.sends note c free
    refine ⟨?_, ?_⟩
    · simp only [Channel.dealAll, Channel.deal, sent]
    · exact more.trans queue.symm

end Carried

variable [Hardware H] {action : Action H}

/-- What an action asks of the queue, with the answers. -/
def dealings (site : Site H) : Action H → List Dealing
  | .collect => [.read site.popCompletion.2]
  | action => ((site.perform action).attempts.drop site.attempts.length).map fun offered =>
      .offered offered.1 offered.2

def dealingsAll (site : Site H) : List (Action H) → List Dealing
  | [] => []
  | action :: actions => site.dealings action ++ dealingsAll (site.perform action) actions

theorem dealings_of_ne (other : action ≠ .collect) {news : List (Completion × Bool)}
    (attempts : (site.perform action).attempts = site.attempts ++ news) :
    site.dealings action = news.map fun offered => .offered offered.1 offered.2 := by
  have dealt : site.dealings action =
      ((site.perform action).attempts.drop site.attempts.length).map fun offered =>
        .offered offered.1 offered.2 := by
    cases action with
    | collect => exact absurd rfl other
    | _ => rfl
  rw [dealt, attempts, List.drop_left]

theorem Deals.carried {C : Channel κ Completion completionCapacity} {c : κ}
    (deals : site.Deals action) (same : C.messages c = site.queue)
    (room : site.queue.length ≤ completionCapacity) :
    Carried C c (site.dealings action) (site.perform action) := by
  by_cases collects : action = .collect
  · subst collects
    obtain ⟨answer, rest, -⟩ := popCompletion_answers site
    exact carried_read same answer rest
  · cases deals with
    | leaves _ queue attempts =>
      rw [dealings_of_ne collects (attempts.trans (List.append_nil _).symm)]
      exact ⟨rfl, same.trans queue.symm⟩
    | reads => exact absurd rfl collects
    | offers _ lost queue attempts =>
      rw [dealings_of_ne collects attempts]
      exact carried_offered same room lost queue

/-- Whatever is done, a channel behind the queue has the answers of the queue. -/
theorem carried_performAll {C : Channel κ Completion completionCapacity} {c : κ}
    (same : C.messages c = site.queue) (room : site.queue.length ≤ completionCapacity)
    (actions : List (Action H)) :
    Carried C c (site.dealingsAll actions) (site.performAll actions) := by
  induction actions generalizing site c with
  | nil => exact ⟨rfl, same⟩
  | cons action actions ih =>
    have deals := Site.deals room action
    obtain ⟨first, now⟩ := deals.carried same room
    obtain ⟨later, last⟩ := ih now (deals.room room)
    rw [Carried, dealingsAll, Channel.dealAll_append, first, later]
    exact ⟨rfl, last⟩

end Site

end Channels

end RangeSurvey
