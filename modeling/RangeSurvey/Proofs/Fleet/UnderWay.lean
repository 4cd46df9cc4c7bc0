import RangeSurvey.Proofs.Fleet.Rest
import RangeSurvey.Proofs.Fleet.Schedule

/-!
# A slot under way

In a slot that starts at rest every station that takes part is in one of its phases and all others
are left alone, whatever is looked at, reset or disturbed in between.
-/

namespace RangeSurvey.Fleet

/-- A reset that meets no station that waits is only recorded. -/
theorem raise_reset_idle {f : Fleet} {node : Nat}
    (idle : ∀ id, Sink.station id ∈ (f.chain node).sinks → ∀ s, f.stations[id]? = some s →
      s.latch = .available) :
    ∃ trace, (f.raise node .reset).1 = { f with trace } := by
  have walk : ∀ (sinks : List Sink) (trace : List Entry),
      (∀ id, Sink.station id ∈ sinks → ∀ s, f.stations[id]? = some s → s.latch = .available) →
      ∃ trace', (Chain.offerAll (Site.offer .reset) sinks ({ f with trace } : Fleet)).1 =
        { f with trace := trace' } := by
    intro sinks
    induction sinks with
    | nil => exact fun trace _ => ⟨trace, rfl⟩
    | cons sink sinks ih =>
      intro trace hidle
      have one : ∃ trace' verdict, Site.offer .reset sink ({ f with trace } : Fleet) =
          ({ f with trace := trace' }, verdict) := by
        cases sink with
        | recorder label verdict => exact ⟨_, _, rfl⟩
        | station id =>
          cases hs : f.stations[id]? with
          | none => exact ⟨trace, .notMine, by simp only [Site.offer, hs]⟩
          | some s =>
            have available := hidle id List.mem_cons_self s hs
            have heard : s.hear .reset = ⟨s, .notMine, []⟩ := by
              simp [Station.hear, Station.hearReset, available, Latch.putBack]
            obtain ⟨hlt, heq⟩ := List.getElem?_eq_some_iff.mp hs
            have same : f.stations.set id s = f.stations := by
              rw [← heq, List.set_getElem_self hlt]
            refine ⟨.offered (.station id) .reset .notMine :: trace, .notMine, ?_⟩
            simp only [Site.offer, hs, heard, Site.act, same]
            rfl
      obtain ⟨trace', verdict, hone⟩ := one
      simp only [Chain.offerAll]
      rw [hone]
      cases verdict with
      | handled => exact ⟨trace', rfl⟩
      | notMine => exact ih trace' fun id hid => hidle id (List.mem_cons_of_mem sink hid)
      | malformed => exact ih trace' fun id hid => hidle id (List.mem_cons_of_mem sink hid)
  exact walk (f.chain node).sinks f.trace idle

def comeOf (done : List (Nat × Outcome)) (k : Nat) : List Outcome :=
  (done.filter fun d => d.1 == k).map Prod.snd

theorem comeOf_append (first second : List (Nat × Outcome)) (k : Nat) :
    comeOf (first ++ second) k = comeOf first k ++ comeOf second k := by
  simp only [comeOf, List.filter_append, List.map_append]

theorem comeOf_self (k : Nat) (o : Outcome) : comeOf [(k, o)] k = [o] := by simp [comeOf]

theorem comeOf_of_ne {k j : Nat} (h : j ≠ k) (o : Outcome) : comeOf [(k, o)] j = [] := by
  simp [comeOf, Ne.symm h]

def counted (looks : Nat → Nat) (moves : List Move) (k : Nat) : Nat :=
  looks k + moves.count (.look k)

theorem counted_self (looks : Nat → Nat) (k : Nat) : counted looks [.look k] k = looks k + 1 := by
  simp [counted]

theorem counted_of_ne (looks : Nat → Nat) {k j : Nat} (h : j ≠ k) :
    counted looks [.look k] j = looks j := by
  have hne : ¬ Move.look k = .look j := by simpa using Ne.symm h
  simp [counted, hne]

theorem counted_other (looks : Nat → Nat) {m : Move} (h : ∀ k, m ≠ .look k) :
    counted looks [m] = looks := by
  funext k
  simp [counted, h k]

/-- The seat at job number `k` is in one of its phases, and nothing has come of its task before it
is over. -/
def Stands (c : Course) (p : Seat) (looks k : Nat) (f : Fleet) (done : List (Nat × Outcome)) :
    Prop :=
  ∃ s n, f.stations[p.id]? = some s ∧ f.hardware.nodes[p.unit]? = some n ∧
    p.Phase c looks (f.task? k) s n ∧
    comeOf done k = (f.task? k).elim [p.outcome s] fun _ => []

/-- A job that no station takes part in has not been looked at, or nothing has come of it. -/
def Idles (c : Course) (job : SlotJob) (looks k : Nat) (f : Fleet) (done : List (Nat × Outcome)) :
    Prop :=
  f.task? k = some (.slot job) ∧ c.told = none ∧ looks = 0 ∧ comeOf done k = [] ∨
    f.task? k = none ∧ comeOf done k = [.slot none]

/-- A slot of the jobs `jobs` is under way since the fleet was `start`. Task number `k` has been
looked at `looks k` times, and `done` has come of the tasks. -/
structure UnderWay (start : Fleet) (jobs : List SlotJob) (c : Course) (looks : Nat → Nat)
    (f : Fleet) (done : List (Nat × Outcome)) : Prop where
  chain : f.chain = start.chain
  roster : f.roster = start.roster
  stationCount : f.stations.length = start.stations.length
  nodeCount : f.hardware.nodes.length = start.hardware.nodes.length
  tasks : ∀ k, jobs.length ≤ k → f.task? k = none
  seat : ∀ k p, start.Seats jobs k p → Stands c p (looks k) k f done
  absent : ∀ k job, jobs[k]? = some job → (∀ p, ¬ start.Seats jobs k p) →
    Idles c job (looks k) k f done
  beyond : ∀ k, jobs.length ≤ k → comeOf done k = []
  strangers : ∀ id, (∀ k p, start.Seats jobs k p → p.id ≠ id) →
    f.stations[id]? = start.stations[id]?
  spare : ∀ unit n, (∀ k p, start.Seats jobs k p → p.unit ≠ unit) →
    f.hardware.nodes[unit]? = some n → n.duty = .idle
  air : c.calm → c.air.SameAir f.hardware
  quiet : c.calm → ∀ n ∈ f.hardware.nodes, n.failTransmit = false ∧ n.failReceive = false

namespace UnderWay

variable {start f f' : Fleet} {jobs : List SlotJob} {c : Course} {looks looks' : Nat → Nat}
  {done done' : List (Nat × Outcome)}

/-- Only what concerns task number `k` has changed, apart from nodes whose duty and frame are still
the same. -/
theorem frame (h : UnderWay start jobs c looks f done) (rest : start.AtRest)
    (devices : (jobs.map SlotJob.device).Nodup) (k : Nat)
    (chain : f'.chain = f.chain) (roster : f'.roster = f.roster)
    (stationCount : f'.stations.length = f.stations.length)
    (nodeCount : f'.hardware.nodes.length = f.hardware.nodes.length)
    (tasks : ∀ j, j ≠ k ∨ jobs.length ≤ k → f'.task? j = f.task? j ∧ comeOf done' j = comeOf done j)
    (looked : ∀ j, j ≠ k → looks' j = looks j)
    (stations : ∀ id, (∀ p, start.Seats jobs k p → p.id ≠ id) →
      f'.stations[id]? = f.stations[id]?)
    (nodes : ∀ unit n', (∀ p, start.Seats jobs k p → p.unit ≠ unit) →
      f'.hardware.nodes[unit]? = some n' →
        ∃ n, f.hardware.nodes[unit]? = some n ∧ n'.duty = n.duty ∧ n'.frame = n.frame)
    (seat : ∀ p, start.Seats jobs k p → Stands c p (looks' k) k f' done')
    (absent : ∀ job, jobs[k]? = some job → (∀ p, ¬ start.Seats jobs k p) →
      Idles c job (looks' k) k f' done')
    (air : c.calm → c.air.SameAir f'.hardware)
    (quiet : c.calm → ∀ n ∈ f'.hardware.nodes, n.failTransmit = false ∧ n.failReceive = false) :
    UnderWay start jobs c looks' f' done' := by
  have apart : ∀ j p, start.Seats jobs j p → j ≠ k → ∀ q, start.Seats jobs k q →
      q.id ≠ p.id ∧ q.unit ≠ p.unit := by
    intro j p hp hjk q hq
    have hid : q.id ≠ p.id := fun hid => hjk (hq.job_eq hp devices hid).symm
    exact ⟨hid, fun hunit => hid (hq.id_eq hp rest hunit)⟩
  refine ⟨chain.trans h.chain, roster.trans h.roster, stationCount.trans h.stationCount,
    nodeCount.trans h.nodeCount, ?_, ?_, ?_, ?_, ?_, ?_, air, quiet⟩
  · intro j hj
    by_cases hjk : j = k
    · subst hjk
      rw [(tasks j (Or.inr hj)).1, h.tasks j hj]
    · rw [(tasks j (Or.inl hjk)).1, h.tasks j hj]
  · intro j p hp
    by_cases hjk : j = k
    · subst hjk
      exact seat p hp
    · obtain ⟨s, n, hs, hn, phase, come⟩ := h.seat j p hp
      have far := apart j p hp hjk
      have hlt : p.unit < f'.hardware.nodes.length := by
        rw [nodeCount]
        exact (List.getElem?_eq_some_iff.mp hn).1
      obtain ⟨n₀, hn₀, duty, hframe⟩ := nodes p.unit _ (fun q hq => (far q hq).2)
        (List.getElem?_eq_getElem hlt)
      rw [hn] at hn₀
      obtain rfl := Option.some.inj hn₀
      obtain ⟨htask, hcome⟩ := tasks j (Or.inl hjk)
      refine ⟨s, _, (stations p.id fun q hq => (far q hq).1).trans hs,
        List.getElem?_eq_getElem hlt, ?_, ?_⟩
      · rw [htask, looked j hjk]
        exact phase.disturbed duty hframe
      · rw [htask, hcome, come]
  · intro j job hjob empty
    by_cases hjk : j = k
    · subst hjk
      exact absent job hjob empty
    · obtain ⟨htask, hcome⟩ := tasks j (Or.inl hjk)
      simp only [Idles]
      rw [htask, hcome, looked j hjk]
      exact h.absent j job hjob empty
  · intro j hj
    by_cases hjk : j = k
    · subst hjk
      rw [(tasks j (Or.inr hj)).2, h.beyond j hj]
    · rw [(tasks j (Or.inl hjk)).2, h.beyond j hj]
  · intro id free
    rw [stations id fun p hp => free k p hp, h.strangers id free]
  · intro unit n' free hn'
    obtain ⟨n, hn, duty, -⟩ := nodes unit n' (fun p hp => free k p hp) hn'
    rw [duty, h.spare unit n free hn]

theorem devices_eq (h : UnderWay start jobs c looks f done) (id : Nat) :
    (f.stations[id]?).map Station.device = (start.stations[id]?).map Station.device := by
  by_cases taken : ∃ k p, start.Seats jobs k p ∧ p.id = id
  · obtain ⟨k, p, hp, rfl⟩ := taken
    obtain ⟨s, n, hs, -, phase, -⟩ := h.seat k p hp
    rw [hs, hp.station, Option.map_some, Option.map_some, phase.kin.device]
  · rw [h.strangers id fun k p hp hid => taken ⟨k, p, hp, hid⟩]

theorem find?_eq (h : UnderWay start jobs c looks f done) (device : Nat) :
    f.find? device = start.find? device :=
  Site.find?_congr h.roster h.devices_eq device

theorem ready (h : UnderWay start jobs c looks f done) (rest : start.AtRest) {k : Nat} {p : Seat}
    (hp : start.Seats jobs k p) : p.Ready f := by
  obtain ⟨available, free⟩ := hp.atRest rest
  exact ⟨(h.find?_eq _).trans hp.found, hp.ready, available, free⟩

/-- A job that no station takes part in is over at the first look, and leaves all stations and
nodes alone. -/
theorem enter_none (h : UnderWay start jobs c looks f done)
    (devices : (jobs.map SlotJob.device).Nodup) {k : Nat} {job : SlotJob}
    (hjob : jobs[k]? = some job) (empty : ∀ p, ¬ start.Seats jobs k p) :
    ∃ trace, f.enter job = ({ f with trace }, none) := by
  simp only [Site.enter]
  cases hfind : f.find? job.device with
  | none => exact ⟨f.trace, rfl⟩
  | some id =>
    cases hs : f.stations[id]? with
    | none => exact ⟨f.trace, by simp only [hs]⟩
    | some s =>
      simp only [hs]
      cases hready : s.status.ready with
      | false => exact ⟨_, rfl⟩
      | true =>
        exfalso
        rw [h.find?_eq] at hfind
        by_cases taken : ∃ j q, start.Seats jobs j q ∧ q.id = id
        · obtain ⟨j, q, hq, rfl⟩ := taken
          have hdevice : q.job.device = job.device := by
            obtain ⟨-, s', hs', hdevice⟩ := Site.find?_some hfind
            rw [hq.station] at hs'
            obtain rfl := Option.some.inj hs'
            rw [← hq.device, hdevice]
          have hj : (jobs.map SlotJob.device)[j]? = some job.device := by
            rw [List.getElem?_map, hq.job, Option.map_some, hdevice]
          have hk : (jobs.map SlotJob.device)[k]? = some job.device := by
            rw [List.getElem?_map, hjob, Option.map_some]
          have hlt : j < (jobs.map SlotJob.device).length := by
            rw [List.length_map]
            exact hq.lt
          obtain rfl := (List.getElem?_inj hlt devices).mp (hj.trans hk.symm)
          exact empty q hq
        · rw [h.strangers id fun j q hq hid => taken ⟨j, q, hq, hid⟩] at hs
          exact empty ⟨job, id, s⟩ ⟨hjob, hfind, hs, hready⟩

/-- A seat, its node and its task have changed. -/
theorem touch (h : UnderWay start jobs c looks f done) (rest : start.AtRest)
    (devices : (jobs.map SlotJob.device).Nodup) {k : Nat} {p : Seat} (hp : start.Seats jobs k p)
    {g : Fleet} {s' : Station} {n n' : Node} (hn : f.hardware.nodes[p.unit]? = some n)
    (changes : f.Changes p.id s' p.unit n' g) (tasks : List (Nat × Task)) (trace : List Entry)
    (steady : c.calm → n.Steady n')
    (others : ∀ j, j ≠ k → ({ g with tasks, trace } : Fleet).task? j = f.task? j ∧
      comeOf done' j = comeOf done j)
    (looked : ∀ j, j ≠ k → looks' j = looks j)
    (phase : p.Phase c (looks' k) (({ g with tasks, trace } : Fleet).task? k) s' n')
    (come : comeOf done' k =
      (({ g with tasks, trace } : Fleet).task? k).elim [p.outcome s'] fun _ => []) :
    UnderWay start jobs c looks' { g with tasks, trace } done' := by
  have far : k < jobs.length := hp.lt
  refine h.frame rest devices k changes.chain changes.roster changes.length changes.nodeCount
    (fun j hj => others j (by omega)) looked ?_ ?_ ?_ ?_ ?_ ?_
  · exact fun id hid => changes.station_of_ne (Ne.symm (hid p hp))
  · intro unit m hunit hm
    rw [changes.node_of_ne (Ne.symm (hunit p hp))] at hm
    exact ⟨m, hm, rfl, rfl⟩
  · intro q hq
    obtain rfl := hq.seat_eq hp
    exact ⟨s', n', changes.station, changes.node, phase, come⟩
  · exact fun _ _ empty => (empty p hp).elim
  · exact fun calm => (h.air calm).trans (changes.sameAir hn (steady calm))
  · exact fun calm => changes.quiet hn (steady calm) (h.quiet calm)

theorem look_seat (h : UnderWay start jobs c looks f done) (rest : start.AtRest)
    (devices : (jobs.map SlotJob.device).Nodup) {k : Nat} {p : Seat} (hp : start.Seats jobs k p) :
    UnderWay start jobs c (counted looks [.look k]) (f.move (.look k)).1
      (done ++ (f.move (.look k)).2) := by
  obtain ⟨s, n, hs, hn, phase, come⟩ := h.seat k p hp
  cases htask : f.task? k with
  | none =>
    have hmove : f.move (.look k) = (f, []) := by simp only [Fleet.move, Site.poll, htask]; rfl
    rw [hmove, List.append_nil]
    refine h.touch rest devices hp hn (Changes.start hs hn) f.tasks f.trace
      (fun _ => Node.Steady.refl n) (fun _ _ => ⟨rfl, rfl⟩)
      (fun _ hj => counted_of_ne looks hj) ?_ come
    rw [htask] at phase
    change p.Phase c _ (f.task? k) s n
    rw [htask]
    cases phase with
    | finished idle ended => exact .finished idle ended
  | some task =>
    rw [htask] at phase come
    obtain ⟨g, s', n', changes, steady, gone⟩ :=
      phase.look (h.ready rest hp) hs hn h.air fun calm => h.quiet calm n (List.mem_of_getElem? hn)
    have gtask : ∀ j, g.task? j = f.task? j := fun j => by simp only [Site.task?, changes.tasks]
    rcases gone with ⟨task', hrun, phase'⟩ | ⟨hrun, phase'⟩
    · have hmove : f.move (.look k) = (g.replaceTask k task', []) := by
        simp only [Fleet.move, Site.poll, htask, hrun]
        rfl
      have here : (g.replaceTask k task').task? k = some task' := by
        rw [Site.task?_replaceTask, if_pos rfl, gtask, htask, Option.map_some]
      rw [hmove, List.append_nil]
      refine h.touch rest devices hp hn changes _ _ (fun _ => steady) ?_
        (fun _ hj => counted_of_ne looks hj) ?_ ?_
      · intro j hj
        refine ⟨?_, rfl⟩
        change (g.replaceTask k task').task? j = f.task? j
        rw [Site.task?_replaceTask, if_neg hj, gtask]
      · change p.Phase c _ ((g.replaceTask k task').task? k) s' n'
        rw [here, counted_self]
        exact phase'
      · change comeOf done k = ((g.replaceTask k task').task? k).elim _ _
        rw [here, come]
        rfl
    · have hmove : f.move (.look k) =
          ((g.removeTask k).record (.ended k (p.outcome s')), [(k, p.outcome s')]) := by
        simp only [Fleet.move, Site.poll, htask, hrun]
        rfl
      have here : (g.removeTask k).task? k = none := by rw [Site.task?_removeTask, if_pos rfl]
      rw [hmove]
      refine h.touch rest devices hp hn changes _ _ (fun _ => steady) ?_
        (fun _ hj => counted_of_ne looks hj) ?_ ?_
      · intro j hj
        constructor
        · change (g.removeTask k).task? j = f.task? j
          rw [Site.task?_removeTask, if_neg hj, gtask]
        · rw [comeOf_append, comeOf_of_ne hj, List.append_nil]
      · change p.Phase c _ ((g.removeTask k).task? k) s' n'
        rw [here, counted_self]
        exact phase'
      · change comeOf _ k = ((g.removeTask k).task? k).elim _ _
        rw [here, comeOf_append, comeOf_self, come]
        rfl

theorem look_absent (h : UnderWay start jobs c looks f done) (rest : start.AtRest)
    (devices : (jobs.map SlotJob.device).Nodup) {k : Nat} (empty : ∀ p, ¬ start.Seats jobs k p) :
    UnderWay start jobs c (counted looks [.look k]) (f.move (.look k)).1
      (done ++ (f.move (.look k)).2) := by
  -- No station and no node takes part, so the task alone has to be looked after.
  have alone : ∀ (tasks : List (Nat × Task)) (trace : List Entry) (done' : List (Nat × Outcome)),
      (∀ j, j ≠ k ∨ jobs.length ≤ k →
        ({ f with tasks, trace } : Fleet).task? j = f.task? j ∧ comeOf done' j = comeOf done j) →
      (∀ job, jobs[k]? = some job →
        Idles c job (looks k + 1) k { f with tasks, trace } done') →
      UnderWay start jobs c (counted looks [.look k]) { f with tasks, trace } done' := by
    intro tasks trace done' others idles
    refine h.frame rest devices k rfl rfl rfl rfl others (fun _ hj => counted_of_ne looks hj)
      (fun _ _ => rfl) (fun _ m _ hm => ⟨m, hm, rfl, rfl⟩) (fun p hp => (empty p hp).elim) ?_ h.air
      h.quiet
    intro job hjob _
    rw [counted_self]
    exact idles job hjob
  cases htask : f.task? k with
  | none =>
    have hmove : f.move (.look k) = (f, []) := by simp only [Fleet.move, Site.poll, htask]; rfl
    rw [hmove, List.append_nil]
    refine alone f.tasks f.trace done (fun _ _ => ⟨rfl, rfl⟩) ?_
    intro job hjob
    rcases h.absent k job hjob empty with ⟨htask', -⟩ | ⟨-, come⟩
    · rw [htask] at htask'
      cases htask'
    · exact Or.inr ⟨htask, come⟩
  | some task =>
    have hlt : k < jobs.length := by
      rcases Nat.lt_or_ge k jobs.length with hlt | hge
      · exact hlt
      · rw [h.tasks k hge] at htask
        cases htask
    have hjob := List.getElem?_eq_getElem hlt
    rcases h.absent k _ hjob empty with ⟨htask', -, -, come⟩ | ⟨htask', -⟩
    · obtain ⟨trace, hentered⟩ := h.enter_none devices hjob empty
      have hmove : f.move (.look k) = ((({ f with trace } : Fleet).removeTask k).record
          (.ended k (.slot none)), [(k, .slot none)]) := by
        simp only [Fleet.move, Site.poll, htask', Site.run, hentered]
        rfl
      rw [hmove]
      refine alone _ _ _ ?_ ?_
      · intro j hj
        have hjk : j ≠ k := by omega
        constructor
        · change (({ f with trace } : Fleet).removeTask k).task? j = f.task? j
          rw [Site.task?_removeTask, if_neg hjk]
          rfl
        · rw [comeOf_append, comeOf_of_ne hjk, List.append_nil]
      · intro job _
        refine Or.inr ⟨?_, ?_⟩
        · change (({ f with trace } : Fleet).removeTask k).task? k = none
          rw [Site.task?_removeTask, if_pos rfl]
        · rw [comeOf_append, comeOf_self, come]
          rfl
    · rw [htask] at htask'
      cases htask'

theorem look (h : UnderWay start jobs c looks f done) (rest : start.AtRest)
    (devices : (jobs.map SlotJob.device).Nodup) (k : Nat) :
    UnderWay start jobs c (counted looks [.look k]) (f.move (.look k)).1
      (done ++ (f.move (.look k)).2) := by
  by_cases taken : ∃ p, start.Seats jobs k p
  · obtain ⟨p, hp⟩ := taken
    exact h.look_seat rest devices hp
  · exact h.look_absent rest devices fun p hp => taken ⟨p, hp⟩

/-- Only the medium and the record have changed, and every node has the duty and the frame that it
had. -/
theorem unmoved (h : UnderWay start jobs c looks f done) (rest : start.AtRest)
    (devices : (jobs.map SlotJob.device).Nodup) (disturbed : ¬ c.calm) (m : Medium)
    (trace : List Entry) (length : m.nodes.length = f.hardware.nodes.length)
    (nodes : ∀ (unit : Nat) (n' : Node), m.nodes[unit]? = some n' →
      ∃ n, f.hardware.nodes[unit]? = some n ∧ n'.duty = n.duty ∧ n'.frame = n.frame) :
    UnderWay start jobs c looks { f with hardware := m, trace } done := by
  -- No job has a number this high, so nothing is said about any seat.
  refine h.frame rest devices jobs.length rfl rfl rfl length (fun _ _ => ⟨rfl, rfl⟩)
    (fun _ _ => rfl) (fun _ _ => rfl) (fun unit n' _ => nodes unit n') ?_ ?_ ?_ ?_
  · exact fun p hp => absurd hp.lt (Nat.lt_irrefl _)
  · exact fun job hjob => absurd (List.getElem?_eq_some_iff.mp hjob).1 (Nat.lt_irrefl _)
  · exact fun calm => (disturbed calm).elim
  · exact fun calm => (disturbed calm).elim

theorem reset_seat (h : UnderWay start jobs c looks f done) (rest : start.AtRest)
    (devices : (jobs.map SlotJob.device).Nodup) (disturbed : ¬ c.calm) {k : Nat} {p : Seat}
    (hp : start.Seats jobs k p) : UnderWay start jobs c looks (f.resetRadio p.unit) done := by
  obtain ⟨available, free⟩ := hp.atRest rest
  obtain ⟨s, n, hs, hn, phase, come⟩ := h.seat k p hp
  have chain : f.chain p.unit = ⟨[(surveyInterface, .station p.id)]⟩ := by
    rw [h.chain, hp.alone rest]
  have disarmed := ((Changes.start hs hn).modifyNode fun n => { n with duty := .idle }).record
    (.noticed (.radioReset p.unit))
  have changes : f.Changes p.id s.hearReset.station p.unit { n with duty := .idle }
      (f.resetRadio p.unit) := by
    have hlt : p.unit < f.hardware.nodeCount := (List.getElem?_eq_some_iff.mp hn).1
    simp only [resetRadio, if_pos hlt]
    exact (disarmed.raise chain .reset).1
  generalize f.resetRadio p.unit = g at changes ⊢
  have tasks : ∀ j, g.task? j = f.task? j := fun j => by simp only [Site.task?, changes.tasks]
  refine h.touch rest devices hp hn changes g.tasks g.trace
    (fun calm => (disturbed calm).elim) (fun j _ => ⟨tasks j, rfl⟩) (fun _ _ => rfl) ?_ ?_
  · change p.Phase c _ (g.task? k) _ _
    rw [tasks]
    exact phase.reset available free disturbed
  · change comeOf done k = (g.task? k).elim _ _
    rw [tasks, come]
    cases htask : f.task? k with
    | some task => rfl
    | none =>
      rw [htask] at phase
      cases phase with
      | finished _ ended =>
        rw [Station.hearReset_of_available (ended.atRest available free).1]

/-- The stations in the chain of a node without a seat do not wait for anything, and the node is
idle anyway. -/
theorem reset_spare (h : UnderWay start jobs c looks f done) (rest : start.AtRest)
    (devices : (jobs.map SlotJob.device).Nodup) (disturbed : ¬ c.calm) {node : Nat} {n : Node}
    (hn : f.hardware.nodes[node]? = some n) (spare : ∀ k p, start.Seats jobs k p → p.unit ≠ node) :
    UnderWay start jobs c looks (f.resetRadio node) done := by
  have idle : ∀ id, Sink.station id ∈ (f.chain node).sinks → ∀ s, f.stations[id]? = some s →
      s.latch = .available := by
    intro id hid s hs
    rw [h.chain] at hid
    obtain ⟨s₀, hs₀, hunit⟩ := rest.own node id hid
    rw [h.strangers id, hs₀] at hs
    · obtain rfl := Option.some.inj hs
      exact rest.available _ (List.mem_of_getElem? hs₀)
    · rintro k p hp rfl
      rw [hp.station] at hs₀
      obtain rfl := Option.some.inj hs₀
      exact spare k p hp hunit
  have hlt : node < f.hardware.nodeCount := (List.getElem?_eq_some_iff.mp hn).1
  have disarmed : ∀ id, Sink.station id ∈
      (((f.mapHardware fun m => m.disarm node).note (.radioReset node)).chain node).sinks →
      ∀ s, ((f.mapHardware fun m => m.disarm node).note (.radioReset node)).stations[id]? =
        some s → s.latch = .available := idle
  obtain ⟨trace, hraise⟩ := raise_reset_idle disarmed
  simp only [resetRadio, if_pos hlt]
  rw [hraise]
  refine h.unmoved rest devices disturbed _ trace (List.length_modify _ _ _) ?_
  intro unit n' hn'
  change (f.hardware.nodes.modify node fun n => { n with duty := .idle })[unit]? = _ at hn'
  rw [List.getElem?_modify] at hn'
  obtain ⟨m, hm, rfl⟩ := Option.map_eq_some_iff.mp hn'
  refine ⟨m, hm, ?_⟩
  by_cases hu : node = unit
  · subst hu
    rw [hn] at hm
    obtain rfl := Option.some.inj hm
    rw [if_pos rfl]
    exact ⟨(h.spare node n spare hn).symm, rfl⟩
  · simp only [if_neg hu, and_self]

theorem reset (h : UnderWay start jobs c looks f done) (rest : start.AtRest)
    (devices : (jobs.map SlotJob.device).Nodup) (disturbed : ¬ c.calm) (node : Nat) :
    UnderWay start jobs c looks (f.resetRadio node) done := by
  by_cases hlt : node < f.hardware.nodeCount
  · obtain ⟨n, hn⟩ := Medium.node?_of_lt hlt
    by_cases taken : ∃ k p, start.Seats jobs k p ∧ p.unit = node
    · obtain ⟨k, p, hp, rfl⟩ := taken
      exact h.reset_seat rest devices disturbed hp
    · exact h.reset_spare rest devices disturbed hn fun k p hp hunit => taken ⟨k, p, hp, hunit⟩
  · simp only [resetRadio, if_neg hlt]
    exact h

theorem disturb (h : UnderWay start jobs c looks f done) (rest : start.AtRest)
    (devices : (jobs.map SlotJob.device).Nodup) (disturbed : ¬ c.calm) (d : Disturbance) :
    UnderWay start jobs c looks (f.mapHardware fun m => m.disturb d) done := by
  have modified : ∀ (node : Nat) (g : Node → Node),
      (∀ n, (g n).duty = n.duty ∧ (g n).frame = n.frame) →
      ∀ (unit : Nat) (n' : Node), (f.hardware.nodes.modify node g)[unit]? = some n' →
        ∃ n, f.hardware.nodes[unit]? = some n ∧ n'.duty = n.duty ∧ n'.frame = n.frame := by
    intro node g same unit n' hn'
    rw [List.getElem?_modify] at hn'
    obtain ⟨n, hn, rfl⟩ := Option.map_eq_some_iff.mp hn'
    refine ⟨n, hn, ?_⟩
    by_cases hu : node = unit
    · simpa only [if_pos hu] using same n
    · simp only [if_neg hu, and_self]
  have alone := fun m => h.unmoved rest devices disturbed m f.trace
  cases d with
  | move node position =>
    exact alone _ (List.length_modify _ _ _) (modified node _ fun n => ⟨rfl, rfl⟩)
  | loss percent => exact alone _ rfl fun unit n' hn' => ⟨n', hn', rfl, rfl⟩
  | failTransmit node =>
    exact alone _ (List.length_modify _ _ _) (modified node _ fun n => ⟨rfl, rfl⟩)
  | failReceive node =>
    exact alone _ (List.length_modify _ _ _) (modified node _ fun n => ⟨rfl, rfl⟩)

/-- A slot stays under way through all that may happen between two deliveries. -/
theorem play (h : UnderWay start jobs c looks f done) (rest : start.AtRest)
    (devices : (jobs.map SlotJob.device).Nodup) (moves : List Move)
    (calm : c.calm → ∀ m ∈ moves, ∃ k, m = .look k) :
    UnderWay start jobs c (counted looks moves) (f.play moves).1 (done ++ (f.play moves).2) := by
  induction moves generalizing f looks done with
  | nil =>
    simp only [Fleet.play, List.append_nil]
    have same : counted looks [] = looks := by
      funext k
      simp [counted]
    rw [same]
    exact h
  | cons m moves ih =>
    have disturbed : (∀ k, m ≠ .look k) → ¬ c.calm := by
      intro other hc
      obtain ⟨k, hk⟩ := calm hc m List.mem_cons_self
      exact other k hk
    have step : UnderWay start jobs c (counted looks [m]) (f.move m).1 (done ++ (f.move m).2) := by
      cases m with
      | look k => exact h.look rest devices k
      | reset node =>
        rw [counted_other looks (by simp)]
        simpa only [Fleet.move, List.append_nil] using
          h.reset rest devices (disturbed (by simp)) node
      | disturb d =>
        rw [counted_other looks (by simp)]
        simpa only [Fleet.move, List.append_nil] using
          h.disturb rest devices (disturbed (by simp)) d
    have more := ih step fun hc m hm => calm hc m (List.mem_cons_of_mem _ hm)
    have looked : counted (counted looks [m]) moves = counted looks (m :: moves) := by
      funext k
      simp only [counted, List.count_cons, List.count_nil]
      omega
    rw [looked, List.append_assoc] at more
    simpa only [Fleet.play] using more

end UnderWay

end RangeSurvey.Fleet
