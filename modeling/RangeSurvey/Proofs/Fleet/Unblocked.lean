import RangeSurvey.Proofs.Air.Delivery
import RangeSurvey.Proofs.Fleet.Deploy
import RangeSurvey.Proofs.Fleet.UnderWay

/-!
# A slot never blocks the schedule

At the end of a slot every armed node is told something, and this puts back the token of its
station. So a slot that starts at rest ends at rest, and something has come of each of its tasks,
whatever frames are lost or collide, whatever starts fail and whatever is reset or disturbed.
-/

namespace RangeSurvey.Fleet

/-! ## The beginning of a slot -/

theorem startAll_eq (first : Nat) (jobs : List SlotJob) (f : Fleet) :
    startAll first jobs f =
      { f with
        tasks := f.tasks ++ (jobs.zipIdx first).map fun j => (j.2, Task.slot j.1) } := by
  induction jobs generalizing first f with
  | nil => simp [startAll]
  | cons job jobs ih => simp [startAll, ih, Site.start, List.append_assoc]

theorem find?_zipIdx (jobs : List SlotJob) (first k : Nat) :
    (((jobs.zipIdx first).map fun j => (j.2, Task.slot j.1)).find? fun t => t.1 == k).map Prod.snd =
      if first ≤ k then (jobs[k - first]?).map Task.slot else none := by
  induction jobs generalizing first with
  | nil => simp
  | cons job jobs ih =>
    rw [List.zipIdx_cons, List.map_cons, List.find?_cons]
    by_cases hk : first = k
    · subst hk
      simp
    · have hne : (first == k) = false := by simpa using hk
      simp only [hne, ih]
      by_cases hle : first + 1 ≤ k
      · rw [if_pos hle, if_pos (by omega), show k - first = k - (first + 1) + 1 by omega,
          List.getElem?_cons_succ]
      · rw [if_neg hle, if_neg (by omega)]

/-- At the beginning of a slot nothing has been looked at. -/
theorem UnderWay.begin {start : Fleet} (rest : start.AtRest) (jobs : List SlotJob) (calm : Prop)
    (quiet : calm → ∀ n ∈ start.hardware.nodes, n.failTransmit = false ∧ n.failReceive = false) :
    UnderWay start jobs { air := start.hardware, calm } (fun _ => 0)
      (startAll 0 jobs start) [] := by
  have task : ∀ k, (startAll 0 jobs start).task? k = (jobs[k]?).map Task.slot := by
    intro k
    simp only [Site.task?, startAll_eq, rest.tasks, List.nil_append]
    exact find?_zipIdx jobs 0 k
  rw [startAll_eq] at task ⊢
  refine ⟨rfl, rfl, rfl, rfl, ?_, ?_, ?_, fun _ _ => rfl, fun _ _ => rfl, ?_,
    fun _ => Medium.SameAir.refl _, quiet⟩
  · intro k hk
    rw [task, List.getElem?_eq_none hk, Option.map_none]
  · intro k p hp
    obtain ⟨n, hn⟩ := Medium.node?_of_lt (hp.unit_lt rest)
    have idle : n.duty = .idle := rest.disarmed n (List.mem_of_getElem? hn)
    refine ⟨p.station, n, hp.station, hn, ?_, ?_⟩
    · rw [task, hp.job]
      exact .untouched rfl rfl idle
    · rw [task, hp.job]
      rfl
  · intro k job hjob _
    refine Or.inl ⟨?_, rfl, rfl, rfl⟩
    rw [task, hjob, Option.map_some]
  · intro unit n _ hn
    exact rest.disarmed n (List.mem_of_getElem? hn)

/-! ## The end of a slot -/

structure Informed (f : Fleet) (told : List (Nat × RadioEvent)) (g : Fleet) : Prop where
  chain : g.chain = f.chain
  roster : g.roster = f.roster
  tasks : g.tasks = f.tasks
  nodes : g.hardware.nodes = f.hardware.nodes
  range : g.hardware.range = f.hardware.range
  lossPercent : g.hardware.lossPercent = f.hardware.lossPercent
  stationCount : g.stations.length = f.stations.length
  others : ∀ id, (∀ node ∈ told.map Prod.fst, f.chain node ≠ ⟨[(surveyInterface, .station id)]⟩) →
    g.stations[id]? = f.stations[id]?
  stations : ∀ node event id s, (node, event) ∈ told →
    f.chain node = ⟨[(surveyInterface, .station id)]⟩ → f.stations[id]? = some s →
    g.stations[id]? = some (s.told event)

theorem tellAll_informs {told : List (Nat × RadioEvent)} {f : Fleet}
    (once : (told.map Prod.fst).Nodup)
    (wired : ∀ node ∈ told.map Prod.fst, ∃ id s n,
      f.chain node = ⟨[(surveyInterface, .station id)]⟩ ∧ f.stations[id]? = some s ∧
        s.unit = node ∧ f.hardware.nodes[node]? = some n) :
    Informed f told (tellAll f told) := by
  induction told generalizing f with
  | nil => exact ⟨rfl, rfl, rfl, rfl, rfl, rfl, rfl, fun _ _ => rfl, by simp⟩
  | cons news told ih =>
    obtain ⟨node, event⟩ := news
    rw [List.map_cons, List.nodup_cons] at once
    obtain ⟨id, s, n, hchain, hs, hunit, hn⟩ := wired node (by simp)
    have changes := (Changes.start hs hn).tell hchain event
    have nodes : (Fleet.tell f node event).hardware.nodes = f.hardware.nodes := by
      obtain ⟨hlt, heq⟩ := List.getElem?_eq_some_iff.mp hn
      rw [changes.nodes, ← heq, List.set_getElem_self hlt]
    have far : ∀ node' ∈ told.map Prod.fst, ∀ id' s', f.stations[id']? = some s' →
        s'.unit = node' → id' ≠ id := by
      rintro node' hmem id' s' hs' hunit' rfl
      rw [hs] at hs'
      obtain rfl := Option.some.inj hs'
      rw [← hunit', hunit] at hmem
      exact once.1 hmem
    have rest : Informed (Fleet.tell f node event) told (tellAll f ((node, event) :: told)) := by
      refine ih once.2 ?_
      intro node' hmem
      obtain ⟨id', s', n', hchain', hs', hunit', hn'⟩ :=
        wired node' (by rw [List.map_cons]; exact List.mem_cons_of_mem node hmem)
      refine ⟨id', s', n', by rw [changes.chain, hchain'], ?_, hunit', by rw [nodes, hn']⟩
      rw [changes.station_of_ne (far node' hmem id' s' hs' hunit'), hs']
    refine ⟨rest.chain.trans changes.chain, rest.roster.trans changes.roster,
      rest.tasks.trans changes.tasks, rest.nodes.trans nodes, rest.range.trans changes.range,
      rest.lossPercent.trans changes.lossPercent, rest.stationCount.trans changes.length, ?_, ?_⟩
    · intro other hother
      have hne : other ≠ id := by
        rintro rfl
        exact hother node (by simp) hchain
      rw [rest.others other, changes.station_of_ne hne]
      intro node' hmem
      rw [changes.chain]
      exact hother node' (by rw [List.map_cons]; exact List.mem_cons_of_mem node hmem)
    · intro node' event' id' s' hmem hchain' hs'
      rcases List.mem_cons.mp hmem with heq | hmem
      · obtain ⟨rfl, rfl⟩ := Prod.mk.inj heq
        rw [hchain] at hchain'
        obtain rfl : id = id' := by simpa using hchain'
        rw [hs] at hs'
        obtain rfl := Option.some.inj hs'
        rw [rest.others id, changes.station]
        intro node'' hmem' hchain''
        obtain ⟨id'', s'', -, hchain''', hs'', hunit'', -⟩ :=
          wired node'' (by rw [List.map_cons]; exact List.mem_cons_of_mem _ hmem')
        rw [changes.chain, hchain'''] at hchain''
        obtain rfl : id'' = id := by simpa using hchain''
        exact far node'' hmem' id'' s'' hs'' hunit'' rfl
      · have hkey : node' ∈ told.map Prod.fst := List.mem_map_of_mem hmem
        obtain ⟨id'', s'', -, hchain'', hs'', hunit'', -⟩ :=
          wired node' (by rw [List.map_cons]; exact List.mem_cons_of_mem _ hkey)
        rw [hchain'] at hchain''
        obtain rfl : id' = id'' := by simpa using hchain''
        have hne : id' ≠ id := far node' hkey id' s'' hs'' hunit''
        refine rest.stations node' event' id' s' hmem ?_ ?_
        · rw [changes.chain, hchain']
        · rw [changes.station_of_ne hne, hs']

theorem nodup_keys (m : Medium) : (m.onDuty .listening ++ m.onDuty .sending).Nodup := by
  rw [List.nodup_append]
  refine ⟨m.nodup_onDuty _, m.nodup_onDuty _, ?_⟩
  intro i hi j hj hij
  obtain ⟨n, hn, hduty⟩ := Medium.mem_onDuty.mp hi
  obtain ⟨n', hn', hduty'⟩ := Medium.mem_onDuty.mp hj
  rw [hij, hn'] at hn
  obtain rfl := Option.some.inj hn
  rw [hduty] at hduty'
  cases hduty'

theorem not_idle_of_armed {m : Medium} {i : Nat} {n : Node} (hn : m.nodes[i]? = some n)
    (h : i ∈ m.onDuty .listening ++ m.onDuty .sending) : n.duty ≠ .idle := by
  intro idle
  rcases List.mem_append.mp h with h | h
  · obtain ⟨n', hn', hduty⟩ := Medium.mem_onDuty.mp h
    rw [show m.node? i = some n from hn] at hn'
    obtain rfl := Option.some.inj hn'
    rw [idle] at hduty
    cases hduty
  · obtain ⟨n', hn', hduty⟩ := Medium.mem_onDuty.mp h
    rw [show m.node? i = some n from hn] at hn'
    obtain rfl := Option.some.inj hn'
    rw [idle] at hduty
    cases hduty

theorem armed_mem {p : Seat} {s : Station} {n : Node} {m : Medium} (armed : p.Armed s n)
    (hn : m.nodes[p.unit]? = some n) : p.unit ∈ m.onDuty .listening ++ m.onDuty .sending := by
  cases armed with
  | receive _ listening =>
    exact List.mem_append_left _ (Medium.mem_onDuty.mpr ⟨n, hn, listening⟩)
  | broadcast _ _ sending _ =>
    exact List.mem_append_right _ (Medium.mem_onDuty.mpr ⟨n, hn, sending⟩)

/-- What has ended before the delivery has ended whatever is told. -/
theorem ended_told {p : Seat} {c : Course} {s : Station} (untold : c.told = none)
    (h : p.Ended c s) (told : List (Nat × RadioEvent)) :
    p.Ended { c with told := some told } s := by
  cases h with
  | answered role => exact .answered role
  | requested role hm air => exact .requested role hm air
  | skipped role hb noFrame => exact .skipped role hb noFrame
  | transmitFailed role hb disturbed => exact .transmitFailed role hb disturbed
  | receiveFailed role disturbed => exact .receiveFailed role disturbed
  | cut armed disturbed => exact .cut armed disturbed
  | told armed htold _ =>
    rw [untold] at htold
    cases htold

/-- When the nodes are told, a seat that is armed gets on, and one whose part has ended is left
alone. -/
theorem Stands.deliver {p : Seat} {c : Course} {looks k : Nat} {f g : Fleet}
    {done : List (Nat × Outcome)} {told : List (Nat × RadioEvent)} (h : Stands c p looks k f done)
    (untold : c.told = none) (looked : 2 ≤ looks) (task : g.task? k = f.task? k)
    (node : ∀ n, f.hardware.nodes[p.unit]? = some n →
      g.hardware.nodes[p.unit]? = some { n with duty := .idle })
    (untouched : ∀ n, f.hardware.nodes[p.unit]? = some n → n.duty = .idle →
      g.stations[p.id]? = f.stations[p.id]?)
    (informed : p.unit ∈ f.hardware.onDuty .listening ++ f.hardware.onDuty .sending →
      ∀ s, f.stations[p.id]? = some s →
        ∃ event, (p.unit, event) ∈ told ∧ g.stations[p.id]? = some (s.told event)) :
    Stands { c with told := some told } p 0 k g done := by
  obtain ⟨s, n, hs, hn, phase, come⟩ := h
  simp only [Stands]
  rw [task]
  cases htask : f.task? k with
  | none =>
    rw [htask] at phase come
    cases phase with
    | finished idle ended =>
      refine ⟨s, _, (untouched n hn idle).trans hs, node n hn, ?_, come⟩
      exact .finished rfl (ended_told untold ended told)
  | some t =>
    rw [htask] at phase come
    cases phase with
    | untouched _ hzero _ => omega
    | exchanging _ hone _ _ => omega
    | released _ idle ended =>
      refine ⟨s, _, (untouched n hn idle).trans hs, node n hn, ?_, come⟩
      exact .released (fun _ => rfl) rfl (ended_told untold ended told)
    | armed _ armed =>
      obtain ⟨event, hevent, hs'⟩ := informed (armed_mem armed hn) s hs
      refine ⟨s.told event, _, hs', node n hn, ?_, come⟩
      exact .released (fun _ => rfl) rfl (.told armed rfl hevent)

namespace UnderWay

variable {start f : Fleet} {jobs : List SlotJob} {c : Course} {looks : Nat → Nat}
  {done : List (Nat × Outcome)}

/-- An armed node is that of a seat. -/
theorem armed_seat (h : UnderWay start jobs c looks f done) {node : Nat} {n : Node}
    (hn : f.hardware.nodes[node]? = some n) (armed : n.duty ≠ .idle) :
    ∃ k p, start.Seats jobs k p ∧ p.unit = node := by
  apply Classical.byContradiction
  intro free
  exact armed (h.spare node n (fun k p hp hunit => free ⟨k, p, hp, hunit⟩) hn)

/-- All that an armed node tells, it tells the station of its seat. -/
theorem wired (h : UnderWay start jobs c looks f done) (rest : start.AtRest) {node : Nat}
    (hmem : node ∈ f.hardware.onDuty .listening ++ f.hardware.onDuty .sending) :
    ∃ k p s n, start.Seats jobs k p ∧ p.unit = node ∧
      f.chain node = ⟨[(surveyInterface, .station p.id)]⟩ ∧ f.stations[p.id]? = some s ∧
        s.unit = node ∧ f.hardware.nodes[node]? = some n ∧ n.duty ≠ .idle := by
  have hlt : node < f.hardware.nodeCount := by
    rcases List.mem_append.mp hmem with hmem | hmem
    · exact Medium.onDuty_lt hmem
    · exact Medium.onDuty_lt hmem
  obtain ⟨n, hn⟩ := Medium.node?_of_lt hlt
  have armed := not_idle_of_armed hn hmem
  obtain ⟨k, p, hp, rfl⟩ := h.armed_seat hn armed
  obtain ⟨s, n', hs, -, phase, -⟩ := h.seat k p hp
  exact ⟨k, p, s, n, hp, rfl, by rw [h.chain, hp.alone rest], hs, phase.kin.unit, hn, armed⟩

/-- The end of a slot disarms all nodes and tells those that were armed. -/
theorem endSlot_informs (h : UnderWay start jobs c looks f done) (rest : start.AtRest) :
    ∃ random counters told,
      f.hardware.endSlot? =
        some (({ f.hardware with random, counters } : Medium).disarmAll, told) ∧
      told.map Prod.fst = f.hardware.onDuty .listening ++ f.hardware.onDuty .sending ∧
      (∀ node event, (node, event) ∈ told → f.hardware.Tells node event) ∧
      Informed { f with hardware := ({ f.hardware with random, counters } : Medium).disarmAll }
        told (endSlot f) := by
  obtain ⟨random, counters, told, hend, keys, tells⟩ := f.hardware.endSlot?_tells
  refine ⟨random, counters, told, hend, keys, tells, ?_⟩
  simp only [endSlot, hend]
  refine tellAll_informs (by rw [keys]; exact nodup_keys _) ?_
  intro node hmem
  rw [keys] at hmem
  obtain ⟨k, p, s, n, -, -, hchain, hs, hunit, hn, -⟩ := h.wired rest hmem
  refine ⟨p.id, s, { n with duty := .idle }, hchain, hs, hunit, ?_⟩
  simp only [Medium.disarmAll, List.getElem?_map, hn, Option.map_some]

/-- When every task has been looked at twice, the medium decides who hears what. From then on no
radio is armed any more, and the looks are counted anew. -/
theorem deliver (h : UnderWay start jobs c looks f done) (rest : start.AtRest)
    (devices : (jobs.map SlotJob.device).Nodup) (untold : c.told = none)
    (looked : ∀ k, k < jobs.length → 2 ≤ looks k) :
    ∃ m told, f.hardware.endSlot? = some (m, told) ∧
      (∀ node event, (node, event) ∈ told → f.hardware.Tells node event) ∧
      UnderWay start jobs { c with told := some told } (fun _ => 0) (endSlot f) done := by
  obtain ⟨random, counters, told, hend, keys, tells, informed⟩ := h.endSlot_informs rest
  refine ⟨_, told, hend, tells, ?_⟩
  have nodes : (endSlot f).hardware.nodes =
      f.hardware.nodes.map fun n => { n with duty := .idle } := informed.nodes
  have task : ∀ k, (endSlot f).task? k = f.task? k := by
    intro k
    simp only [Site.task?, informed.tasks]
  have untouched : ∀ id, (∀ node ∈ f.hardware.onDuty .listening ++ f.hardware.onDuty .sending,
      f.chain node ≠ ⟨[(surveyInterface, .station id)]⟩) →
      (endSlot f).stations[id]? = f.stations[id]? := by
    intro id hid
    exact informed.others id fun node hmem => hid node (by rwa [keys] at hmem)
  refine ⟨informed.chain.trans h.chain, informed.roster.trans h.roster,
    informed.stationCount.trans h.stationCount, ?_, ?_, ?_, ?_, h.beyond, ?_, ?_, ?_, ?_⟩
  · rw [nodes, List.length_map]
    exact h.nodeCount
  · intro k hk
    rw [task, h.tasks k hk]
  · intro k p hp
    refine (h.seat k p hp).deliver untold (looked k hp.lt) (task k) ?_ ?_ ?_
    · intro n hn
      rw [nodes, List.getElem?_map, hn, Option.map_some]
    · intro n hn idle
      refine untouched p.id ?_
      intro node hmem hchain
      obtain ⟨k', p', s', n', hp', hunit, hchain', -, -, hn', armed⟩ := h.wired rest hmem
      rw [hchain'] at hchain
      have hid : p'.id = p.id := by simpa using hchain
      obtain rfl := hp'.job_eq hp devices hid
      obtain rfl := hp'.seat_eq hp
      rw [hunit, hn'] at hn
      obtain rfl := Option.some.inj hn
      exact armed idle
    · intro hmem s hs
      rw [← keys] at hmem
      obtain ⟨⟨unit, event⟩, hevent, rfl⟩ := List.mem_map.mp hmem
      have hchain : f.chain p.unit = ⟨[(surveyInterface, .station p.id)]⟩ := by
        rw [h.chain, hp.alone rest]
      exact ⟨event, hevent, informed.stations p.unit event p.id s hevent hchain hs⟩
  · intro k job hjob empty
    have hlt : k < jobs.length := (List.getElem?_eq_some_iff.mp hjob).1
    have hlooks := looked k hlt
    rcases h.absent k job hjob empty with ⟨-, -, hzero, -⟩ | ⟨htask, come⟩
    · omega
    · exact Or.inr ⟨by rw [task, htask], come⟩
  · intro id free
    rw [untouched id]
    · exact h.strangers id free
    · intro node hmem hchain
      obtain ⟨k, p, -, -, hp, -, hchain', -⟩ := h.wired rest hmem
      rw [hchain'] at hchain
      exact free k p hp (by simpa using hchain)
  · intro unit n _ hn
    rw [nodes, List.getElem?_map] at hn
    obtain ⟨n', -, rfl⟩ := Option.map_eq_some_iff.mp hn
    rfl
  · intro calm
    refine (h.air calm).trans ⟨informed.range, informed.lossPercent, ?_⟩
    intro i
    simp only [Medium.node?, nodes, List.getElem?_map, Option.map_map]
    rfl
  · intro calm n hn
    rw [nodes] at hn
    obtain ⟨n', hn', rfl⟩ := List.mem_map.mp hn
    exact h.quiet calm n' hn'

end UnderWay

/-- A slot of the jobs `jobs` is over since the fleet was `start`: every station that took part has
ended its part, and one thing has come of every job. -/
structure Concluded (start : Fleet) (jobs : List SlotJob) (c : Course) (f : Fleet)
    (done : List (Nat × Outcome)) : Prop where
  tasks : f.tasks = []
  chain : f.chain = start.chain
  roster : f.roster = start.roster
  stationCount : f.stations.length = start.stations.length
  nodeCount : f.hardware.nodes.length = start.hardware.nodes.length
  seat : ∀ k p, start.Seats jobs k p →
    ∃ s, f.stations[p.id]? = some s ∧ p.Ended c s ∧ comeOf done k = [p.outcome s]
  absent : ∀ k, k < jobs.length → (∀ p, ¬ start.Seats jobs k p) → comeOf done k = [.slot none]
  beyond : ∀ k, jobs.length ≤ k → comeOf done k = []
  strangers : ∀ id, (∀ k p, start.Seats jobs k p → p.id ≠ id) →
    f.stations[id]? = start.stations[id]?
  disarmed : ∀ n ∈ f.hardware.nodes, n.duty = .idle
  air : c.calm → c.air.SameAir f.hardware
  quiet : c.calm → ∀ n ∈ f.hardware.nodes, n.failTransmit = false ∧ n.failReceive = false

/-- When the nodes have been told and every task has been looked at again, the slot is over. -/
theorem UnderWay.conclude {start f : Fleet} {jobs : List SlotJob} {c : Course} {looks : Nat → Nat}
    {done : List (Nat × Outcome)} (h : UnderWay start jobs c looks f done)
    (told : c.told ≠ none) (looked : ∀ k, k < jobs.length → 1 ≤ looks k) :
    Concluded start jobs c f done := by
  have seat : ∀ k p, start.Seats jobs k p → ∃ s n, f.stations[p.id]? = some s ∧
      f.hardware.nodes[p.unit]? = some n ∧ n.duty = .idle ∧ p.Ended c s ∧ f.task? k = none ∧
        comeOf done k = [p.outcome s] := by
    intro k p hp
    obtain ⟨s, n, hs, hn, phase, come⟩ := h.seat k p hp
    have hlooks := looked k hp.lt
    cases htask : f.task? k with
    | none =>
      rw [htask] at phase come
      cases phase with
      | finished idle ended => exact ⟨s, n, hs, hn, idle, ended, rfl, come⟩
    | some task =>
      rw [htask] at phase
      cases phase with
      | untouched untold => exact absurd untold told
      | exchanging untold => exact absurd untold told
      | armed untold => exact absurd untold told
      | released hzero => have := hzero told; omega
  have absent : ∀ k, k < jobs.length → (∀ p, ¬ start.Seats jobs k p) →
      f.task? k = none ∧ comeOf done k = [.slot none] := by
    intro k hk empty
    rcases h.absent k _ (List.getElem?_eq_getElem hk) empty with ⟨-, untold, -, -⟩ | ended
    · exact absurd untold told
    · exact ended
  refine ⟨?_, h.chain, h.roster, h.stationCount, h.nodeCount, ?_,
    fun k hk empty => (absent k hk empty).2, h.beyond, h.strangers, ?_, h.air, h.quiet⟩
  · rw [List.eq_nil_iff_forall_not_mem]
    intro task hmem
    have gone : f.task? task.1 = none := by
      rcases Nat.lt_or_ge task.1 jobs.length with hlt | hge
      · by_cases taken : ∃ p, start.Seats jobs task.1 p
        · obtain ⟨p, hp⟩ := taken
          obtain ⟨-, -, -, -, -, -, gone, -⟩ := seat task.1 p hp
          exact gone
        · exact (absent task.1 hlt fun p hp => taken ⟨p, hp⟩).1
      · exact h.tasks task.1 hge
    exact Site.task?_eq_none.mp gone task hmem rfl
  · intro k p hp
    obtain ⟨s, n, hs, -, -, ended, -, come⟩ := seat k p hp
    exact ⟨s, hs, ended, come⟩
  · intro n hmem
    obtain ⟨unit, hn⟩ := List.mem_iff_getElem?.mp hmem
    by_cases taken : ∃ k p, start.Seats jobs k p ∧ p.unit = unit
    · obtain ⟨k, p, hp, rfl⟩ := taken
      obtain ⟨-, n', -, hn', idle, -⟩ := seat k p hp
      rw [hn] at hn'
      obtain rfl := Option.some.inj hn'
      exact idle
    · exact h.spare unit n (fun k p hp hunit => taken ⟨k, p, hp, hunit⟩) hn

/-- A slot that is carried out fairly is under way until the medium decides who hears what, and is
over at the end. -/
theorem carryOut_concludes {start : Fleet} {jobs : List SlotJob} {c : Schedule}
    (rest : start.AtRest) (devices : (jobs.map SlotJob.device).Nodup) (fair : c.Fair jobs.length)
    {calm : Prop} (undisturbed : calm → c.Calm)
    (quiet : calm → ∀ n ∈ start.hardware.nodes, n.failTransmit = false ∧ n.failReceive = false) :
    ∃ told looks first,
      (∀ node event, (node, event) ∈ told → (start.onAir jobs c).hardware.Tells node event) ∧
      (∀ k, k < jobs.length → 2 ≤ looks k) ∧
      UnderWay start jobs { air := start.hardware, calm } looks (start.onAir jobs c) first ∧
      Concluded start jobs { air := start.hardware, calm, told := some told }
        (start.carryOut jobs c).1 (start.carryOut jobs c).2 := by
  have before := (UnderWay.begin rest jobs calm quiet).play rest devices c.before
    fun hc m hm => undisturbed hc m (List.mem_append_left _ hm)
  have twice : ∀ k, k < jobs.length → 2 ≤ counted (fun _ => 0) c.before k := by
    intro k hk
    simpa [counted] using (fair k hk).1
  obtain ⟨m, told, -, tells, delivered⟩ := before.deliver rest devices rfl twice
  have after := delivered.play rest devices c.after
    fun hc m hm => undisturbed hc m (List.mem_append_right _ hm)
  have again : ∀ k, k < jobs.length → 1 ≤ counted (fun _ => 0) c.after k := by
    intro k hk
    have := List.count_pos_iff.mpr (fair k hk).2
    simp only [counted]
    omega
  exact ⟨told, _, _, tells, twice, before, after.conclude (by simp) again⟩

/-! ## The slot as a whole -/

namespace Concluded

variable {start f : Fleet} {jobs : List SlotJob} {c : Course} {done : List (Nat × Outcome)}

/-- Every station is still what it was when the slot started, apart from the outcome of its part. -/
theorem station (h : Concluded start jobs c f done) (rest : start.AtRest) {id : Nat} {s₀ : Station}
    (hs₀ : start.stations[id]? = some s₀) :
    ∃ s, f.stations[id]? = some s ∧ s₀.Kin s ∧ s.latch = .available ∧ s.engineBusy = false := by
  by_cases taken : ∃ k p, start.Seats jobs k p ∧ p.id = id
  · obtain ⟨k, p, hp, rfl⟩ := taken
    obtain ⟨s, hs, ended, -⟩ := h.seat k p hp
    obtain ⟨available, free⟩ := hp.atRest rest
    obtain ⟨available', free'⟩ := ended.atRest available free
    rw [hp.station] at hs₀
    obtain rfl := Option.some.inj hs₀
    exact ⟨s, hs, ended.kin, available', free'⟩
  · have hs := h.strangers id fun k p hp hid => taken ⟨k, p, hp, hid⟩
    rw [hs₀] at hs
    have hmem := List.mem_of_getElem? hs₀
    exact ⟨s₀, hs, Station.Kin.refl s₀, rest.available s₀ hmem, rest.engineFree s₀ hmem⟩

theorem atRest (h : Concluded start jobs c f done) (rest : start.AtRest) : f.AtRest := by
  have station : ∀ s ∈ f.stations, s.latch = .available ∧ s.engineBusy = false := by
    intro s hmem
    obtain ⟨id, hs⟩ := List.mem_iff_getElem?.mp hmem
    have hlt : id < start.stations.length := by
      rw [← h.stationCount]
      exact (List.getElem?_eq_some_iff.mp hs).1
    obtain ⟨s', hs', -, available, free⟩ := h.station rest (List.getElem?_eq_getElem hlt)
    rw [hs] at hs'
    obtain rfl := Option.some.inj hs'
    exact ⟨available, free⟩
  refine ⟨h.tasks, fun s hs => (station s hs).1, fun s hs => (station s hs).2, h.disarmed, ?_, ?_⟩
  · intro id hid
    rw [h.roster] at hid
    obtain ⟨s₀, hs₀, hlt, hchain⟩ := rest.alone id hid
    obtain ⟨s, hs, kin, -⟩ := h.station rest hs₀
    refine ⟨s, hs, ?_, ?_⟩
    · rw [kin.unit, Medium.nodeCount, h.nodeCount]
      exact hlt
    · rw [kin.unit, h.chain, hchain]
  · intro node id hid
    rw [h.chain] at hid
    obtain ⟨s₀, hs₀, hunit⟩ := rest.own node id hid
    obtain ⟨s, hs, kin, -⟩ := h.station rest hs₀
    exact ⟨s, hs, kin.unit.trans hunit⟩

/-- Exactly one thing comes of every job. -/
theorem perm (h : Concluded start jobs c f done) :
    (done.map Prod.fst).Perm (List.range jobs.length) := by
  rw [List.perm_iff_count]
  intro k
  have count : (done.map Prod.fst).count k = (comeOf done k).length := by
    rw [comeOf, List.length_map, List.count, List.countP_map, List.countP_eq_length_filter]
    rfl
  rw [count, List.count_range]
  rcases Nat.lt_or_ge k jobs.length with hlt | hge
  · rw [if_pos hlt]
    by_cases taken : ∃ p, start.Seats jobs k p
    · obtain ⟨p, hp⟩ := taken
      obtain ⟨s, -, -, come⟩ := h.seat k p hp
      rw [come]
      rfl
    · rw [h.absent k hlt fun p hp => taken ⟨p, hp⟩]
      rfl
  · rw [h.beyond k hge, if_neg (Nat.not_lt.mpr hge)]
    rfl

end Concluded

/-- A slot never blocks the schedule. It starts at rest, with any stations on any medium, and all
devices that are told of it are told once; whatever is looked at, reset and disturbed meanwhile,
every call has returned at the end, exactly once, and the fleet is at rest again. -/
theorem slot_ends_at_rest (f : Fleet) (jobs : List SlotJob) (c : Schedule) (rest : f.AtRest)
    (devices : (jobs.map SlotJob.device).Nodup) (fair : c.Fair jobs.length) :
    (f.carryOut jobs c).1.AtRest ∧
      ((f.carryOut jobs c).2.map Prod.fst).Perm (List.range jobs.length) := by
  obtain ⟨told, looks, first, -, -, -, concluded⟩ :=
    carryOut_concludes rest devices fair (@False.elim _) (@False.elim _)
  exact ⟨concluded.atRest rest, concluded.perm⟩

def trio : Plan := ⟨3, 12, {}, fun i => UInt16.ofNat (256 + i)⟩

/-- Three stations on a medium that loses half of its frames. -/
def outpost : Fleet :=
  deploy wyrand trio [⟨0, 0⟩, ⟨0x40400000, 0⟩, ⟨0, 0x40800000⟩] { lossPercent := 50 } 3

def bumpy : Schedule :=
  ⟨[.look 0, .disturb (.failReceive 2), .look 1, .look 2, .look 2, .reset 1, .look 0, .look 1],
    [.look 2, .look 0, .look 1]⟩

theorem slot_ends_at_rest_outpost :
    let jobs : List SlotJob :=
      [0, 1, 2].map fun device => ⟨device, .broadcast, ⟨3, 0, 0, 1, 0⟩, .exact, false⟩
    outpost.AtRest ∧ bumpy.Fair jobs.length ∧ (outpost.carryOut jobs bumpy).1.AtRest ∧
      ((outpost.carryOut jobs bumpy).2.map Prod.fst).Perm (List.range jobs.length) := by
  intro jobs
  have rest : outpost.AtRest := (regular_deploy (by decide) _ (by decide)).atRest
  have fair : bumpy.Fair jobs.length := by decide
  exact ⟨rest, fair, slot_ends_at_rest outpost jobs bumpy rest (by decide) fair⟩

end RangeSurvey.Fleet
