import RangeSurvey.Proofs.Fleet.Look
import RangeSurvey.Proofs.Site.Tasks

/-!
# Fleets at rest

A fleet at rest has no task under way, no radio armed and no token out. The seats of a slot are the
stations that will take part in it. No two of them share a station or a node.
-/

namespace RangeSurvey

namespace Seat

variable {p : Seat} {c : Course} {s : Station} {n n' : Node} {looks : Nat} {task : Option Task}

theorem Exchanging.begun {e : Exchange} (h : p.Exchanging s e) :
    p.station.Kin s ∧ s.latch = p.station.latch := by
  cases h with
  | request => exact ⟨p.requested_keeps.kin, rfl⟩
  | listen => exact ⟨p.listening_keeps.kin, rfl⟩

theorem Phase.kin (h : p.Phase c looks task s n) : p.station.Kin s := by
  cases h with
  | untouched => exact Station.Kin.refl _
  | exchanging _ _ _ begun => exact begun.begun.1
  | armed _ armed => exact armed.begun.1
  | released _ _ ended => exact ended.kin
  | finished _ ended => exact ended.kin

/-- Of a node only its duty and its frame matter. -/
theorem Phase.disturbed (h : p.Phase c looks task s n) (duty : n'.duty = n.duty)
    (frame : n'.frame = n.frame) : p.Phase c looks task s n' := by
  cases h with
  | untouched untold hlooks idle => exact .untouched untold hlooks (duty.trans idle)
  | exchanging untold hlooks idle begun => exact .exchanging untold hlooks (duty.trans idle) begun
  | armed untold armed =>
    refine .armed untold ?_
    cases armed with
    | receive role listening => exact .receive role (duty.trans listening)
    | broadcast role hb sending hframe =>
      exact .broadcast role hb (duty.trans sending) (frame.trans hframe)
  | released hlooks idle ended => exact .released hlooks (duty.trans idle) ended
  | finished idle ended => exact .finished (duty.trans idle) ended

/-- A reset cuts the wait for an armed radio short and changes nothing else. -/
theorem Phase.reset (h : p.Phase c looks task s n) (available : p.station.latch = .available)
    (free : p.station.engineBusy = false) (disturbed : ¬ c.calm) :
    p.Phase c looks task s.hearReset.station { n with duty := .idle } := by
  have unmoved (hs : s.latch = .available) : s.hearReset.station = s :=
    Station.hearReset_of_available hs
  cases h with
  | untouched untold hlooks idle =>
    rw [unmoved available]
    exact .untouched untold hlooks rfl
  | exchanging untold hlooks idle begun =>
    rw [unmoved (begun.begun.2.trans available)]
    exact .exchanging untold hlooks rfl begun
  | armed untold armed =>
    exact .released (fun told => absurd untold told) rfl (.cut armed disturbed)
  | released hlooks idle ended =>
    rw [unmoved (ended.atRest available free).1]
    exact .released hlooks rfl ended
  | finished idle ended =>
    rw [unmoved (ended.atRest available free).1]
    exact .finished rfl ended

end Seat

namespace Fleet

/-- No task is under way, no token is out, no engine at work and no radio armed. A station that a
device has runs on a node of the medium and is alone in the chain of that node, and no station
stands in the chain of another node than its own. -/
structure AtRest (f : Fleet) : Prop where
  tasks : f.tasks = []
  available : ∀ s ∈ f.stations, s.latch = .available
  engineFree : ∀ s ∈ f.stations, s.engineBusy = false
  disarmed : ∀ n ∈ f.hardware.nodes, n.duty = .idle
  alone : ∀ id ∈ f.roster, ∃ s, f.stations[id]? = some s ∧ s.unit < f.hardware.nodeCount ∧
    f.chain s.unit = ⟨[(surveyInterface, .station id)]⟩
  own : ∀ node id, Sink.station id ∈ (f.chain node).sinks →
    ∃ s, f.stations[id]? = some s ∧ s.unit = node

/-- The station of seat `p` takes part in the slot by job number `k`. -/
structure Seats (f : Fleet) (jobs : List SlotJob) (k : Nat) (p : Seat) : Prop where
  job : jobs[k]? = some p.job
  found : f.find? p.job.device = some p.id
  station : f.stations[p.id]? = some p.station
  ready : p.station.status.ready = true

namespace Seats

variable {f : Fleet} {jobs : List SlotJob} {k k' : Nat} {p p' : Seat}

theorem lt (h : f.Seats jobs k p) : k < jobs.length := (List.getElem?_eq_some_iff.mp h.job).1

theorem device (h : f.Seats jobs k p) : p.station.device = p.job.device := by
  obtain ⟨-, s, hs, hdevice⟩ := Site.find?_some h.found
  rw [h.station] at hs
  obtain rfl := Option.some.inj hs
  exact hdevice

theorem seat_eq (h : f.Seats jobs k p) (h' : f.Seats jobs k p') : p = p' := by
  have job : p.job = p'.job := Option.some.inj (h.job.symm.trans h'.job)
  have id : p.id = p'.id := by
    have found := h.found
    rw [job, h'.found] at found
    exact (Option.some.inj found).symm
  have station : p.station = p'.station := by
    have hs := h.station
    rw [id, h'.station] at hs
    exact (Option.some.inj hs).symm
  cases p
  cases p'
  cases job
  cases id
  cases station
  rfl

theorem job_eq (h : f.Seats jobs k p) (h' : f.Seats jobs k' p')
    (devices : (jobs.map SlotJob.device).Nodup) (hid : p.id = p'.id) : k = k' := by
  have station : p.station = p'.station := by
    have hs := h.station
    rw [hid, h'.station] at hs
    exact (Option.some.inj hs).symm
  have hk : (jobs.map SlotJob.device)[k]? = some p.job.device := by
    rw [List.getElem?_map, h.job, Option.map_some]
  have hk' : (jobs.map SlotJob.device)[k']? = some p.job.device := by
    rw [List.getElem?_map, h'.job, Option.map_some, ← h'.device, ← station, h.device]
  refine (List.getElem?_inj ?_ devices).mp (hk.trans hk'.symm)
  rw [List.length_map]
  exact h.lt

theorem unit_lt (h : f.Seats jobs k p) (rest : f.AtRest) : p.unit < f.hardware.nodeCount := by
  obtain ⟨s, hs, hlt, -⟩ := rest.alone p.id (Site.find?_some h.found).1
  rw [h.station] at hs
  obtain rfl := Option.some.inj hs
  exact hlt

theorem alone (h : f.Seats jobs k p) (rest : f.AtRest) :
    f.chain p.unit = ⟨[(surveyInterface, .station p.id)]⟩ := by
  obtain ⟨s, hs, -, hchain⟩ := rest.alone p.id (Site.find?_some h.found).1
  rw [h.station] at hs
  obtain rfl := Option.some.inj hs
  exact hchain

theorem id_eq (h : f.Seats jobs k p) (h' : f.Seats jobs k' p') (rest : f.AtRest)
    (hunit : p.unit = p'.unit) : p.id = p'.id := by
  have chain := h.alone rest
  rw [hunit, h'.alone rest] at chain
  simpa using chain.symm

theorem atRest (h : f.Seats jobs k p) (rest : f.AtRest) :
    p.station.latch = .available ∧ p.station.engineBusy = false := by
  have hmem : p.station ∈ f.stations := List.mem_of_getElem? h.station
  exact ⟨rest.available _ hmem, rest.engineFree _ hmem⟩

end Seats

end Fleet

end RangeSurvey
