import Mathlib.Data.Fintype.EquivFin
import RangeSurvey.Proofs.Fleet.Elsewhere
import RangeSurvey.Proofs.Fleet.Turn
import RangeSurvey.Proofs.Site.Stretch

/-!
# The order in which devices are looked at

In a slot every station has its own node, and one of them at most asks for distances. So looks at
two tasks are patches that spare each other, and it makes no difference which of them comes first.
Only the record tells.
-/

namespace RangeSurvey

namespace Fleet

/-! ## Fleets that differ in their records -/

namespace Alike

variable {f g h : Fleet}

theorem refl (f : Fleet) : Alike f f := ⟨f.trace, rfl⟩

theorem symm (alike : Alike f g) : Alike g f := by
  obtain ⟨trace, rfl⟩ := alike
  exact ⟨f.trace, rfl⟩

theorem trans (first : Alike f g) (second : Alike g h) : Alike f h := by
  obtain ⟨trace, rfl⟩ := first
  obtain ⟨trace', rfl⟩ := second
  exact ⟨trace', rfl⟩

theorem apply (alike : Alike f g) (q : Patch) : Alike (q.apply f) (q.apply g) := by
  obtain ⟨trace, rfl⟩ := alike
  exact ⟨_, rfl⟩

theorem offer (alike : Alike f g) (event : RadioEvent) (sink : Sink) :
    Alike (Site.offer event sink f).1 (Site.offer event sink g).1 ∧
      (Site.offer event sink g).2 = (Site.offer event sink f).2 := by
  obtain ⟨trace, rfl⟩ := alike
  cases sink with
  | recorder label verdict => exact ⟨⟨_, rfl⟩, rfl⟩
  | station id =>
    cases hs : f.stations[id]? with
    | none =>
      simp only [Site.offer, hs]
      exact ⟨⟨trace, rfl⟩, trivial⟩
    | some s =>
      simp only [Site.offer, hs, Site.act]
      exact ⟨⟨_, rfl⟩, trivial⟩

theorem offerAll (alike : Alike f g) (event : RadioEvent) (sinks : List Sink) :
    Alike (Chain.offerAll (Site.offer event) sinks f).1
        (Chain.offerAll (Site.offer event) sinks g).1 ∧
      (Chain.offerAll (Site.offer event) sinks g).2 =
        (Chain.offerAll (Site.offer event) sinks f).2 := by
  induction sinks generalizing f g with
  | nil => exact ⟨alike, rfl⟩
  | cons sink sinks ih =>
    have offered := alike.offer event sink
    simp only [Chain.offerAll]
    generalize Site.offer event sink f = x at offered ⊢
    generalize Site.offer event sink g = y at offered ⊢
    obtain ⟨f', verdict⟩ := x
    obtain ⟨g', verdict'⟩ := y
    obtain ⟨alike', rfl⟩ := offered
    cases verdict' with
    | handled => exact ⟨alike', rfl⟩
    | notMine => exact ih alike'
    | malformed => exact ih alike'

theorem raise (alike : Alike f g) (node : Nat) (event : RadioEvent) :
    Alike (f.raise node event).1 (g.raise node event).1 ∧
      (g.raise node event).2 = (f.raise node event).2 := by
  have chain : g.chain = f.chain := by
    obtain ⟨trace, rfl⟩ := alike
    rfl
  simp only [Site.raise, Chain.walk, chain]
  exact alike.offerAll event _

theorem tell (alike : Alike f g) (node : Nat) (event : RadioEvent) :
    Alike (f.tell node event) (g.tell node event) := by
  cases event with
  | received bytes =>
    have raised := alike.raise node (.received bytes)
    simp only [Fleet.tell]
    generalize f.raise node (.received bytes) = x at raised ⊢
    generalize g.raise node (.received bytes) = y at raised ⊢
    obtain ⟨f', consumed⟩ := x
    obtain ⟨g', consumed'⟩ := y
    simp only at raised
    obtain ⟨⟨trace, rfl⟩, rfl⟩ := raised
    cases consumed' with
    | true => exact ⟨trace, rfl⟩
    | false =>
      refine (raise ?_ node .timedOut).1
      exact ⟨_, rfl⟩
  | _ => exact (alike.raise node _).1

theorem tellAll (alike : Alike f g) (told : List (Nat × RadioEvent)) :
    Alike (f.tellAll told) (g.tellAll told) := by
  induction told generalizing f g with
  | nil => exact alike
  | cons first told ih => exact ih (alike.tell first.1 first.2)

theorem endSlot (alike : Alike f g) : Alike (endSlot f) (endSlot g) := by
  obtain ⟨trace, rfl⟩ := alike
  simp only [Fleet.endSlot]
  split
  · exact ⟨trace, rfl⟩
  · refine tellAll ?_ _
    exact ⟨trace, rfl⟩

end Alike

namespace Patch

variable {q r : Patch} {f : Fleet}

/-- Patches of different stations, nodes and tasks, of which one at most draws random numbers, may
be applied in either order. -/
theorem apply_comm (station : q.id ≠ r.id) (node : q.air.unit ≠ r.air.unit)
    (task : q.task ≠ r.task) (quiet : q.air.Quiet ∨ r.air.Quiet) (f : Fleet) :
    Alike (q.apply (r.apply f)) (r.apply (q.apply f)) := by
  have stations := List.modify_modify_ne r.station q.station f.stations (Ne.symm station)
  have air := Medium.Patch.apply_comm node quiet f.hardware
  refine ⟨(r.apply (q.apply f)).trace, ?_⟩
  simp only [apply, stations, air, become_comm task]

def recorded (id unit task : Nat) (older : List Entry) : Patch :=
  ⟨id, fun s => s, fun _ => rfl, fun _ => rfl, { unit }, task, none, older⟩

theorem recorded_quiet (id unit task : Nat) (older : List Entry) :
    (recorded id unit task older).air.Quiet :=
  ⟨fun _ => rfl, fun _ => rfl, fun _ => rfl, fun _ => rfl⟩

theorem recorded_apply {task : Nat} (absent : f.task? task = none) (id unit : Nat)
    (older : List Entry) :
    (recorded id unit task older).apply f = { f with trace := f.trace ++ older } := by
  have tasks : become task none f.tasks = f.tasks := by
    simpa [become, List.filter_eq_self] using Site.task?_eq_none.mp absent
  have stations : f.stations.modify id (fun s => s) = f.stations := List.modify_id id f.stations
  have air : Medium.Patch.apply { unit } f.hardware = f.hardware := by simp [Medium.Patch.apply]
  simp only [apply, recorded, tasks, stations, air]

end Patch

section Record

variable {f : Fleet} {k id unit : Nat} {ranging : Prop}

/-- What a look does does not depend on what has been recorded before. -/
theorem Tasked.move_recorded (tasked : f.Tasked k id unit ranging) (blank : f.trace = [])
    (trace : List Entry) : ∃ trace', move { f with trace } (.look k) =
      ({ (f.move (.look k)).1 with trace := trace' }, (f.move (.look k)).2) := by
  -- An older record is a patch elsewhere that changes nothing, under a number that no task has.
  obtain ⟨n, fresh⟩ := Infinite.exists_notMem_finset (k :: f.pending).toFinset
  obtain ⟨other, unused⟩ : n ≠ k ∧ n ∉ f.pending := by simpa using fresh
  have absent : f.task? n = none := by
    refine Site.task?_eq_none.mpr fun t ht => ?_
    rintro rfl
    exact unused (List.mem_map_of_mem ht)
  have spares : (Patch.recorded (id + 1) (unit + 1) n trace).Spares id unit ranging :=
    ⟨Nat.succ_ne_self id, Nat.succ_ne_self unit, fun _ => Patch.recorded_quiet ..⟩
  have moved := tasked.move_apply spares other
  rw [Patch.recorded_apply absent, blank, List.nil_append] at moved
  have absent' : (f.move (.look k)).1.task? n = none :=
    (Site.task?_poll_of_ne f other).trans absent
  exact ⟨_, by rw [moved, Patch.both, Patch.recorded_apply absent']⟩

end Record

/-! ## A slot going on -/

/-- The task is job number `k`, or the call by which the station of this job takes its part. -/
inductive Serves (start : Fleet) (jobs : List SlotJob) (k : Nat) : Task → Prop where
  | slot {job : SlotJob} : jobs[k]? = some job → Serves start jobs k (.slot job)
  | call {p : Seat} {c : Call} : start.Seats jobs k p → c.station = p.id →
      (c.measurer? ≠ none → p.role = .requester) →
      (∀ part, c.part = some part → part.notify = p.job.notify) → Serves start jobs k (.call c)

/-- A slot of the jobs `jobs` goes on that began when the fleet was `start`: every station is still
there, and every task serves its job. -/
structure Going (start : Fleet) (jobs : List SlotJob) (f : Fleet) : Prop where
  roster : f.roster = start.roster
  stationCount : f.stations.length = start.stations.length
  station : ∀ (id : Nat) (s : Station), start.stations[id]? = some s →
    ∃ s' : Station, f.stations[id]? = some s' ∧ s.Stays s' ∧ s'.status.ready = s.status.ready
  serves : ∀ k task, f.task? k = some task → Serves start jobs k task

namespace Going

variable {start f g : Fleet} {jobs : List SlotJob} {k : Nat}

theorem alike (h : Going start jobs f) (alike : Alike f g) : Going start jobs g := by
  obtain ⟨trace, rfl⟩ := alike
  exact ⟨h.roster, h.stationCount, h.station, h.serves⟩

theorem hardware (h : Going start jobs f) (m : Medium) :
    Going start jobs { f with hardware := m } :=
  ⟨h.roster, h.stationCount, h.station, h.serves⟩

theorem does (h : Going start jobs f) (does : Site.Does (fun d => d.isSetup = false) f g)
    (serves : ∀ k task, g.task? k = some task → Serves start jobs k task) :
    Going start jobs g := by
  refine ⟨(does.wiring fun _ calm => calm).2.trans h.roster,
    (does.length fun _ calm => calm).trans h.stationCount, fun id s hs => ?_, serves⟩
  obtain ⟨s', hs', stays, ready⟩ := h.station id s hs
  refine does.station (P := fun t => s.Stays t ∧ t.status.ready = s.status.ready) ?_ hs'
    ⟨stays, ready⟩
  rintro d t t' calm moves ⟨stays, ready⟩
  exact ⟨stays.trans (Station.stays_of_moves moves),
    (Station.ready_of_moves moves calm).trans ready⟩

/-- What is done aside keeps a slot going. -/
theorem aside (h : Going start jobs f) (does : Site.Does Site.Deed.Aside f g) :
    Going start jobs g := by
  refine h.does (does.mono fun _ aside => aside.setup) fun k task found => ?_
  rw [Site.task?, does.tasks fun _ aside => aside.outside.tasks] at found
  exact h.serves k task found

/-- No station has come along. -/
theorem known (h : Going start jobs f) {id : Nat} {s' : Station}
    (hs' : f.stations[id]? = some s') :
    ∃ s, start.stations[id]? = some s ∧ s.Stays s' ∧ s'.status.ready = s.status.ready := by
  have inside : id < start.stations.length := by
    rw [← h.stationCount]
    exact (List.getElem?_eq_some_iff.mp hs').1
  have hs := List.getElem?_eq_getElem inside
  obtain ⟨t, ht, stays, ready⟩ := h.station id _ hs
  obtain rfl := Option.some.inj (ht.symm.trans hs')
  exact ⟨_, hs, stays, ready⟩

theorem find? (h : Going start jobs f) (device : Nat) : f.find? device = start.find? device := by
  refine Site.find?_congr h.roster (fun id => ?_) device
  cases hs' : f.stations[id]? with
  | none =>
    have beyond : start.stations.length ≤ id := h.stationCount ▸ List.getElem?_eq_none_iff.mp hs'
    rw [List.getElem?_eq_none beyond]
  | some s' =>
    obtain ⟨s, hs, stays, -⟩ := h.known hs'
    rw [hs, Option.map_some, Option.map_some, stays.device]

/-- A station that takes its part serves its job. -/
theorem serves_entered (h : Going start jobs f) {job : SlotJob} (hjob : jobs[k]? = some job)
    {c : Call} (called : (f.enter job).2 = some c) : Serves start jobs k (.call c) := by
  obtain ⟨id, s', found, hs', ready, entered⟩ := Site.enter_eq_some called
  rw [entered] at called
  obtain rfl := Option.some.inj called
  rw [h.find?] at found
  obtain ⟨s, hs, stays, same⟩ := h.known hs'
  refine .call (p := ⟨job, id, s⟩) ⟨hjob, found, hs, same.symm.trans ready⟩ rfl ?_ ?_
  · intro asks
    have role : Role.of job.kind (hasTurn job.slot.round s'.nodeCount s'.slot) = .requester := by
      cases hr : Role.of job.kind (hasTurn job.slot.round s'.nodeCount s'.slot) with
      | requester => rfl
      | _ => simp [Call.measurer?, Site.takePart, hr, Role.activity] at asks
    rw [stays.nodeCount, stays.slot] at role
    exact role
  · intro part own
    cases own
    rfl

/-- A task that goes on does so with a call that serves its job. -/
theorem turn (h : Going start jobs f) {task : Task} {begun : Fleet} {c : Call}
    (found : f.task? k = some task) (turn : f.turn task = some (begun, c)) :
    Going start jobs begun ∧ Serves start jobs k (.call c) := by
  have serves := h.serves k task found
  have does := Site.turn_does turn
  refine ⟨h.does (does.mono fun _ within => within.setup) fun j task' found' => ?_, ?_⟩
  · rw [Site.task?, does.tasks fun _ within => within.tasks] at found'
    exact h.serves j task' found'
  · cases serves with
    | slot hjob =>
      simp only [Site.turn, Option.map_eq_some_iff] at turn
      obtain ⟨c', called, same⟩ := turn
      cases same
      exact h.serves_entered hjob called
    | call seat station asks notify =>
      cases turn
      exact .call seat station asks notify

/-- A task that is still there after a look serves its job. -/
theorem look (h : Going start jobs f) (k : Nat) : Going start jobs (f.move (.look k)).1 := by
  cases found : f.task? k with
  | none =>
    have unmoved : (f.move (.look k)).1 = f := by simp only [move, Site.poll, found]
    rw [unmoved]
    exact h
  | some task =>
    have does : Site.Does (fun d => d.isSetup = false) f (f.move (.look k)).1 :=
      Site.poll_covered found ((Site.run_does f task).mono fun _ within => within.setup) rfl
        fun _ => rfl
    refine h.does does fun j task' found' => ?_
    by_cases other : j = k
    · subst other
      change (Site.poll j f).1.task? j = some task' at found'
      cases turn : f.turn task with
      | none =>
        rw [Site.poll_skips found turn] at found'
        cases found'
      | some t =>
        obtain ⟨begun, c⟩ := t
        obtain ⟨-, serves⟩ := h.turn found turn
        cases looked : begun.look c with
        | mk next progress =>
          cases progress with
          | waiting c' =>
            have asks := Site.look_asks begun c
            rw [looked] at asks
            obtain ⟨stage, rfl, asks⟩ := asks
            rw [Site.poll_waits found turn looked] at found'
            obtain rfl := Option.some.inj found'
            cases serves with
            | call seat station asked notify =>
              exact .call seat station (fun h => asked (asks h)) notify
          | done status =>
            rw [(Site.poll_done found turn looked).2] at found'
            cases found'
    · exact h.serves j task' ((Site.task?_poll_of_ne f other).symm.trans found')

theorem tell (h : Going start jobs f) (node : Nat) (event : RadioEvent) :
    Going start jobs (f.tell node event) := by
  cases event with
  | received bytes =>
    have raised := h.aside (Site.raise_does f node (.received bytes))
    simp only [Fleet.tell]
    generalize f.raise node (.received bytes) = x at raised ⊢
    obtain ⟨g, _ | _⟩ := x
    · exact ((raised.aside (Site.note_does g (.notConsumed node))).hardware _).aside
        (Site.raise_does _ node .timedOut)
    · exact raised
  | _ => exact h.aside (Site.raise_does f node _)

theorem tellAll (h : Going start jobs f) (told : List (Nat × RadioEvent)) :
    Going start jobs (f.tellAll told) := by
  induction told generalizing f with
  | nil => exact h
  | cons first told ih => exact ih (h.tell first.1 first.2)

/-- The end of the slot on the medium keeps the slot of the devices going. -/
theorem endSlot (h : Going start jobs f) : Going start jobs (endSlot f) := by
  simp only [Fleet.endSlot]
  split
  · exact h
  · exact (h.hardware _).tellAll _

theorem begun (rest : start.tasks = []) (jobs : List SlotJob) :
    Going start jobs (startAll 0 jobs start) := by
  have task (k : Nat) : (startAll 0 jobs start).task? k = (jobs[k]?).map Task.slot := by
    simp only [Site.task?, startAll_eq, rest, List.nil_append]
    exact find?_zipIdx jobs 0 k
  rw [startAll_eq] at task ⊢
  refine ⟨rfl, rfl, fun id s hs => ⟨s, hs, .refl s, rfl⟩, fun k task' found => ?_⟩
  rw [task, Option.map_eq_some_iff] at found
  obtain ⟨job, hjob, rfl⟩ := found
  exact .slot hjob

theorem tasked (h : Going start jobs f) (quiet : ∀ job ∈ jobs, job.notify = false) {p : Seat}
    (seat : start.Seats jobs k p) : f.Tasked k p.id p.unit (p.role = .requester) := by
  intro task begun c found turn
  obtain ⟨going, serves⟩ := h.turn found turn
  cases serves with
  | call seat' station asked notify =>
    obtain rfl := seat.seat_eq seat'
    obtain ⟨s, hs, stays, -⟩ := going.station _ _ seat.station
    exact ⟨station, ⟨s, hs, stays.unit⟩, asked, fun part own =>
      (notify part own).trans (quiet _ (List.mem_of_getElem? seat.job))⟩

/-- Where no station takes part no call goes on. -/
theorem untasked (h : Going start jobs f) (empty : ∀ p, ¬ start.Seats jobs k p) (id unit : Nat)
    (ranging : Prop) : f.Tasked k id unit ranging := by
  intro task begun c found turn
  cases (h.turn found turn).2 with
  | call seat => exact absurd seat (empty _)

/-- What a look does and finds does not depend on the record. -/
theorem look_alike (h : Going start jobs f) (quiet : ∀ job ∈ jobs, job.notify = false)
    (alike : Alike f g) (k : Nat) : Alike (f.move (.look k)).1 (g.move (.look k)).1 ∧
      (g.move (.look k)).2 = (f.move (.look k)).2 := by
  obtain ⟨trace, rfl⟩ := alike
  have blank : Going start jobs { f with trace := [] } := h.alike ⟨[], rfl⟩
  obtain ⟨id, unit, ranging, tasked⟩ :
      ∃ id unit ranging, Tasked { f with trace := [] } k id unit ranging := by
    by_cases seat : ∃ p, start.Seats jobs k p
    · obtain ⟨p, seat⟩ := seat
      exact ⟨_, _, _, blank.tasked quiet seat⟩
    · exact ⟨0, 0, False, blank.untasked (not_exists.mp seat) 0 0 False⟩
  obtain ⟨own, first⟩ := tasked.move_recorded rfl f.trace
  obtain ⟨other, second⟩ := tasked.move_recorded rfl trace
  change f.move (.look k) = _ at first
  rw [first, second]
  exact ⟨⟨other, rfl⟩, rfl⟩

theorem play (h : Going start jobs f) (order : List Nat) :
    Going start jobs (f.play (order.map .look)).1 := by
  induction order generalizing f with
  | nil => exact h
  | cons k order ih => exact ih (h.look k)

theorem play_alike (h : Going start jobs f) (quiet : ∀ job ∈ jobs, job.notify = false)
    (alike : Alike f g) (order : List Nat) :
    Alike (f.play (order.map .look)).1 (g.play (order.map .look)).1 ∧
      (g.play (order.map .look)).2 = (f.play (order.map .look)).2 := by
  induction order generalizing f g with
  | nil => exact ⟨alike, rfl⟩
  | cons k order ih =>
    obtain ⟨looked, same⟩ := h.look_alike quiet alike k
    obtain ⟨played, later⟩ := ih (h.look k) looked
    exact ⟨played, congrArg₂ (· ++ ·) same later⟩

end Going

/-! ## Looks in any order -/

/-- The jobs are of one slot and ask for no note. The stations that take part by them have one node
count, but each its own slot in the survey and its own node. -/
structure Shares (start : Fleet) (jobs : List SlotJob) (event : Slot) : Prop where
  event : ∀ job ∈ jobs, job.slot = event
  quiet : ∀ job ∈ jobs, job.notify = false
  slots : ∀ j k p p', start.Seats jobs j p → start.Seats jobs k p' → j ≠ k →
    p.station.slot ≠ p'.station.slot
  units : ∀ j k p p', start.Seats jobs j p → start.Seats jobs k p' → j ≠ k → p.unit ≠ p'.unit
  nodeCount : ∀ j k p p', start.Seats jobs j p → start.Seats jobs k p' →
    p.station.nodeCount = p'.station.nodeCount

def SameEnd (x y : Fleet × List (Nat × Outcome)) : Prop :=
  Alike x.1 y.1 ∧ ∀ k, comeOf x.2 k = comeOf y.2 k

theorem SameEnd.refl (x : Fleet × List (Nat × Outcome)) : SameEnd x x := ⟨.refl x.1, fun _ => rfl⟩

theorem SameEnd.trans {x y z : Fleet × List (Nat × Outcome)} (first : SameEnd x y)
    (second : SameEnd y z) : SameEnd x z :=
  ⟨first.1.trans second.1, fun k => (first.2 k).trans (second.2 k)⟩

theorem comeOf_look {f : Fleet} {n k : Nat} (other : n ≠ k) :
    comeOf (f.move (.look k)).2 n = [] := by
  simp only [move]
  cases (Site.poll k f).2 with
  | none => rfl
  | some o => exact comeOf_of_ne other o

namespace Shares

variable {start f : Fleet} {jobs : List SlotJob} {event : Slot}

/-- At most one station asks for distances. -/
theorem requester_eq (shares : start.Shares jobs event) {j k : Nat} {p p' : Seat}
    (seat : start.Seats jobs j p) (seat' : start.Seats jobs k p') (asks : p.role = .requester)
    (asks' : p'.role = .requester) : j = k := by
  by_contra other
  have turn {q : Seat} {i : Nat} (seat : start.Seats jobs i q) (asks : q.role = .requester) :
      event.round.toNat % q.station.nodeCount = q.station.slot := by
    have active : q.turn = true := by
      cases h : q.turn with
      | true => rfl
      | false => cases hk : q.job.kind <;> simp [Seat.role, h, hk, Role.of] at asks
    simp only [Seat.turn, hasTurn, Bool.and_eq_true, beq_iff_eq] at active
    rw [← shares.event q.job (List.mem_of_getElem? seat.job)]
    exact active.2
  refine shares.slots j k p p' seat seat' other ?_
  rw [← turn seat asks, ← turn seat' asks', shares.nodeCount j k p p' seat seat']

/-- Two tasks are of different stations and nodes, and one of them at most asks for distances. -/
theorem apart (shares : start.Shares jobs event) {j k : Nat} (other : j ≠ k)
    (h : Going start jobs f) : ∃ id id' unit unit' ranging ranging', id ≠ id' ∧ unit ≠ unit' ∧
      ¬ (ranging ∧ ranging') ∧ f.Tasked j id unit ranging ∧ f.Tasked k id' unit' ranging' := by
  by_cases seat : ∃ p, start.Seats jobs j p
  · obtain ⟨p, seat⟩ := seat
    by_cases seat' : ∃ p', start.Seats jobs k p'
    · obtain ⟨p', seat'⟩ := seat'
      have ids : p.id ≠ p'.id := by
        intro same
        have station := seat.station
        rw [same, seat'.station] at station
        exact shares.slots j k p p' seat seat' other (by rw [Option.some.inj station])
      exact ⟨_, _, _, _, _, _, ids, shares.units j k p p' seat seat' other,
        fun asks => other (shares.requester_eq seat seat' asks.1 asks.2),
        h.tasked shares.quiet seat, h.tasked shares.quiet seat'⟩
    · exact ⟨_, p.id + 1, _, p.unit + 1, _, False, (Nat.succ_ne_self _).symm,
        (Nat.succ_ne_self _).symm, And.right, h.tasked shares.quiet seat,
        h.untasked (not_exists.mp seat') _ _ _⟩
  · by_cases seat' : ∃ p', start.Seats jobs k p'
    · obtain ⟨p', seat'⟩ := seat'
      exact ⟨p'.id + 1, _, p'.unit + 1, _, False, _, Nat.succ_ne_self _, Nat.succ_ne_self _,
        And.left, h.untasked (not_exists.mp seat) _ _ _, h.tasked shares.quiet seat'⟩
    · exact ⟨0, 1, 0, 1, False, False, Nat.zero_ne_one, Nat.zero_ne_one, And.left,
        h.untasked (not_exists.mp seat) _ _ _, h.untasked (not_exists.mp seat') _ _ _⟩

/-- Looks at two tasks, in either order, leave the same fleet, and the second finds what it would
have found as the first. -/
theorem look_swap (shares : start.Shares jobs event) (h : Going start jobs f) {j k : Nat}
    (other : j ≠ k) :
    Alike ((f.move (.look j)).1.move (.look k)).1 ((f.move (.look k)).1.move (.look j)).1 ∧
      ((f.move (.look j)).1.move (.look k)).2 = (f.move (.look k)).2 ∧
      ((f.move (.look k)).1.move (.look j)).2 = (f.move (.look j)).2 := by
  obtain ⟨id, id', unit, unit', ranging, ranging', ids, units, one, tasked, tasked'⟩ :=
    shares.apart other h
  obtain ⟨q, rfl, rfl, rfl, calm, first⟩ := tasked.move_patch
  obtain ⟨r, rfl, rfl, rfl, calm', second⟩ := tasked'.move_patch
  -- A look after a patch is the look before it, with the patch going for what it leaves.
  have after {q : Patch} {k : Nat} {g : Fleet} (patched : Alike (q.apply f) g)
      (going : Going start jobs g) (look : (q.apply f).move (.look k) = q.both (f.move (.look k))) :
      Alike (q.apply (f.move (.look k)).1) (g.move (.look k)).1 ∧
        (g.move (.look k)).2 = (f.move (.look k)).2 := by
    have looked := (going.alike patched.symm).look_alike shares.quiet patched k
    rw [look] at looked
    exact looked
  obtain ⟨last, found⟩ := after first (h.look _) (tasked'.move_apply
    ⟨ids, units, fun asks' => calm fun asks => one ⟨asks, asks'⟩⟩ other)
  obtain ⟨last', found'⟩ := after second (h.look _) (tasked.move_apply
    ⟨Ne.symm ids, Ne.symm units, fun asks => calm' fun asks' => one ⟨asks, asks'⟩⟩ (Ne.symm other))
  have quiet : q.air.Quiet ∨ r.air.Quiet := by
    by_cases asks : ranging
    · exact Or.inr (calm' fun asks' => one ⟨asks, asks'⟩)
    · exact Or.inl (calm asks)
  have both := Patch.apply_comm ids units other quiet f
  have jLast := (second.apply q).trans last
  have kLast := (first.apply r).trans last'
  exact ⟨jLast.symm.trans (both.trans kLast), found, found'⟩

theorem play_perm (shares : start.Shares jobs event) (h : Going start jobs f)
    {order order' : List Nat} (perm : order.Perm order') :
    SameEnd (f.play (order.map .look)) (f.play (order'.map .look)) := by
  induction perm generalizing f with
  | nil => exact .refl _
  | cons k _ ih =>
    obtain ⟨alike, come⟩ := ih (h.look k)
    refine ⟨alike, fun n => ?_⟩
    simp only [List.map_cons, play, comeOf_append, come]
  | swap j k order =>
    by_cases other : k = j
    · rw [other]
      exact .refl _
    -- The two looks are swapped, and what follows takes no notice of the record.
    · obtain ⟨alike, found, found'⟩ := shares.look_swap h other
      obtain ⟨alike', same⟩ := ((h.look k).look j).play_alike shares.quiet alike order
      refine ⟨alike', fun n => ?_⟩
      simp only [List.map_cons, play, comeOf_append, found, found', same]
      by_cases hn : n = k
      · rw [comeOf_look (k := j) (fun hj => other (hn.symm.trans hj)), List.nil_append,
          List.nil_append]
      · rw [comeOf_look hn, List.nil_append, List.nil_append]
  | trans _ _ first second => exact (first h).trans (second h)

/-- Devices may be looked at in any order before the slot ends on the medium, and afterwards. -/
theorem carryOut_perm (shares : start.Shares jobs event) (rest : start.tasks = [])
    {before before' after after' : List Nat} (perm : before.Perm before')
    (perm' : after.Perm after') :
    SameEnd (start.carryOut jobs ⟨before.map .look, after.map .look⟩)
      (start.carryOut jobs ⟨before'.map .look, after'.map .look⟩) := by
  have going := Going.begun rest jobs
  obtain ⟨alike, come⟩ := shares.play_perm going perm
  have onAir : Going start jobs ((startAll 0 jobs start).play (before.map .look)).1 :=
    going.play before
  obtain ⟨alike', come'⟩ := shares.play_perm onAir.endSlot perm'
  obtain ⟨alike'', same⟩ :=
    onAir.endSlot.play_alike shares.quiet alike.endSlot after'
  refine ⟨alike'.trans alike'', fun k => ?_⟩
  simp only [carryOut, comeOf_append, come, come', same]

/-- The order in which the devices of a slot are looked at makes no difference: whichever of them
comes first, the same comes of each of them, and the stations, the medium, what it draws next and
what it has counted are the same. -/
theorem slot_perm (shares : start.Shares jobs event) (rest : start.tasks = [])
    {order order' : List Nat} (perm : order.Perm order') :
    SameEnd (start.slot jobs order []) (start.slot jobs order' []) := by
  have slot (order : List Nat) : start.slot jobs order [] =
      start.carryOut jobs ⟨(order ++ order).map .look, order.map .look⟩ := by
    rw [slot_eq_carryOut, List.map_append, List.map_nil, List.append_nil]
  rw [slot, slot]
  exact shares.carryOut_perm rest (perm.append perm) perm

end Shares

/-- The stations of a deployed fleet share every slot that all of them are told of. -/
theorem Regular.shares {plan : Plan} {stations : Nat} {f : Fleet} (h : Regular plan stations f)
    (admits : plan.Admits stations) {t : Turn} (quiet : ∀ device, t.notify device = false) :
    f.Shares (t.jobs stations) t.slot := by
  refine ⟨?_, ?_, ?_, ?_, ?_⟩
  · intro job hjob
    obtain ⟨device, -, rfl⟩ := List.mem_map.mp hjob
    rfl
  · intro job hjob
    obtain ⟨device, -, rfl⟩ := List.mem_map.mp hjob
    exact quiet device
  · intro j k p p' seat seat' other
    obtain ⟨hj, s, -, member, rfl⟩ := h.seat_eq seat
    obtain ⟨hk, s', -, member', rfl⟩ := h.seat_eq seat'
    change s.slot ≠ s'.slot
    rw [member.slot admits hj, member'.slot admits hk]
    exact other
  · intro j k p p' seat seat' other
    obtain ⟨-, s, -, member, rfl⟩ := h.seat_eq seat
    obtain ⟨-, s', -, member', rfl⟩ := h.seat_eq seat'
    change s.unit ≠ s'.unit
    rw [member.unit, member'.unit]
    exact other
  · intro j k p p' seat seat'
    obtain ⟨-, s, -, member, rfl⟩ := h.seat_eq seat
    obtain ⟨-, s', -, member', rfl⟩ := h.seat_eq seat'
    exact member.nodeCount.trans member'.nodeCount.symm

theorem slot_perm_outpost :
    let jobs : List SlotJob :=
      [0, 1, 2].map fun device => ⟨device, .ranging, ⟨3, 0, 0, 1, 0⟩, .exact, false⟩
    outpost.Shares jobs ⟨3, 0, 0, 1, 0⟩ ∧ outpost.tasks = [] ∧ [0, 1, 2].Perm [2, 0, 1] ∧
      SameEnd (outpost.slot jobs [0, 1, 2] []) (outpost.slot jobs [2, 0, 1] []) := by
  have admits : trio.Admits 3 := by decide
  have regular : Regular trio 3 outpost := regular_deploy admits _ (by decide)
  have shares := regular.shares admits
    (t := ⟨.ranging, ⟨3, 0, 0, 1, 0⟩, fun _ => .exact, fun _ => false, ⟨[], []⟩⟩) fun _ => rfl
  have perm : [0, 1, 2].Perm [2, 0, 1] := by decide
  exact ⟨shares, regular.atRest.tasks, perm, shares.slot_perm regular.atRest.tasks perm⟩

end Fleet

end RangeSurvey
