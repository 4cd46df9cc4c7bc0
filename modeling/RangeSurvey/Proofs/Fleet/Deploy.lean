import RangeSurvey.Proofs.Fleet.Rest
import RangeSurvey.Proofs.PeerSet.Rank

/-!
# Deployed fleets

A fleet of stations of one cell and one configuration, with device and station `i` on node `i` of
the medium and in slot `i`. The medium may have more nodes and the survey more slots than there are
stations. Such a fleet is at rest, its tables are blank, and what is regular about it is what every
slot leaves as it was.
-/

namespace RangeSurvey

/-- What the stations of a deployed fleet have in common, and their addresses. -/
structure Plan where
  nodeCount : Nat
  cell : UInt16
  config : Configuration
  address : Nat → UInt16

namespace Plan

def identity (plan : Plan) (i : Nat) : Identity := ⟨plan.address i, UInt16.ofNat i, plan.cell⟩

def enrolment (plan : Plan) (i : Nat) : Enrolment :=
  ⟨i, plan.nodeCount, plan.identity i, plan.config, i⟩

def founder (plan : Plan) (i : Nat) : Station :=
  (Station.fresh (plan.enrolment i) true).configure plan.config

/-- There are as many slots as a survey may have, and every station has one of them. -/
def Admits (plan : Plan) (stations : Nat) : Prop :=
  minNodes ≤ plan.nodeCount ∧ plan.nodeCount ≤ maxNodes ∧ stations ≤ plan.nodeCount

instance (plan : Plan) (stations : Nat) : Decidable (plan.Admits stations) :=
  inferInstanceAs (Decidable (_ ∧ _ ∧ _))

structure Member (plan : Plan) (i : Nat) (s : Station) : Prop where
  device : s.device = i
  unit : s.unit = i
  identity : s.identity = plan.identity i
  nodeCount : s.nodeCount = plan.nodeCount
  config : s.config = plan.config
  ready : s.status.ready = true
  rows : s.table.rows.length = plan.nodeCount
  capacity : ∀ r ∈ s.table.rows, r.capacity = plan.nodeCount
  own : ∀ r, s.ownRow? = some r → r.IsPacked ∧ r.peers.within plan.nodeCount = true
  room : s.buffer.length = Frame.maxLength plan.nodeCount
  front : s.buffer.take Frame.roundOffset = Frame.fixedFields (plan.address i) plan.cell

theorem toNat_slot {plan : Plan} {stations i : Nat} (admits : plan.Admits stations)
    (hi : i < stations) : (plan.identity i).slot.toNat = i := by
  obtain ⟨-, most, enough⟩ := admits
  have : maxNodes = 32 := rfl
  simp only [identity, UInt16.toNat_ofNat']
  omega

theorem Admits.build {plan : Plan} {stations i : Nat} (admits : plan.Admits stations)
    (hi : i < stations) :
    Station.build (plan.enrolment i) true = .ok (Station.fresh (plan.enrolment i) true) := by
  have slot : (plan.enrolment i).identity.slot.toNat < (plan.enrolment i).nodeCount := by
    rw [show (plan.enrolment i).identity.slot.toNat = i from toNat_slot admits hi]
    exact Nat.lt_of_lt_of_le hi admits.2.2
  have checked : checkNodeCount (plan.enrolment i).nodeCount = .ok () :=
    if_pos ⟨admits.1, admits.2.1⟩
  simp only [Station.build, checked, if_pos slot]

theorem Member.slot {plan : Plan} {stations i : Nat} {s : Station} (h : plan.Member i s)
    (admits : plan.Admits stations) (hi : i < stations) : s.slot = i := by
  rw [Station.slot, h.identity, toNat_slot admits hi]

/-- Whatever a station does keeps it a member, as long as it keeps its buffer and its table in
shape. -/
theorem Member.kin {plan : Plan} {i : Nat} {s s' : Station} (h : plan.Member i s) (kin : s.Kin s')
    (rows : s'.table.rows.length = plan.nodeCount)
    (capacity : ∀ r ∈ s'.table.rows, r.capacity = plan.nodeCount)
    (own : ∀ r, s'.ownRow? = some r → r.IsPacked ∧ r.peers.within plan.nodeCount = true)
    (room : s'.buffer.length = Frame.maxLength plan.nodeCount)
    (front : s'.buffer.take Frame.roundOffset = Frame.fixedFields (plan.address i) plan.cell) :
    plan.Member i s' :=
  ⟨kin.device.trans h.device, kin.unit.trans h.unit, kin.identity.trans h.identity,
    kin.nodeCount.trans h.nodeCount, kin.config.trans h.config, kin.ready.trans h.ready, rows,
    capacity, own, room, front⟩

theorem row?_founder {plan : Plan} {i k : Nat} (hk : k < plan.nodeCount) :
    (plan.founder i).table.row? k = some (Row.blank plan.nodeCount) := by
  simp [founder, enrolment, Station.fresh, Station.configure, Table.blank, Table.row?, hk]

/-- A station that has just been enrolled is a member with a blank table. -/
theorem member_founder (plan : Plan) (i : Nat) : plan.Member i (plan.founder i) := by
  obtain ⟨room, front⟩ := Station.fresh_buffer (plan.enrolment i) true
  refine ⟨rfl, rfl, rfl, rfl, rfl, rfl, ?_, ?_, ?_, room, front⟩
  · exact List.length_replicate
  · intro r hr
    rw [List.eq_of_mem_replicate hr]
    exact Row.capacity_blank plan.nodeCount
  · intro r hr
    have blank := List.eq_of_mem_replicate (List.mem_of_getElem? hr)
    rw [blank]
    exact ⟨Row.isPacked_blank plan.nodeCount, PeerSet.within_empty plan.nodeCount⟩

end Plan

/-- Enrolling a device that has no station yet adds one and hooks it to its radio. -/
theorem Site.enrol_new {H : Type} [Hardware H] {site : Site H} {e : Enrolment} {s : Station}
    (built : Station.build e true = .ok s) (unknown : site.find? e.device = none)
    (present : Hardware.present site.hardware s.unit = true) :
    ∃ trace, (site.enrol e).1 =
      { site with
        stations := site.stations ++ [s.configure e.config]
        roster := site.roster ++ [site.stations.length]
        chain := fun unit => if unit = s.unit then
            (site.chain unit).register surveyInterface (.station site.stations.length)
          else site.chain unit
        trace } := by
  have checked : checkNodeCount e.nodeCount = .ok () := by
    cases h : checkNodeCount e.nodeCount with
    | error err => simp only [Station.build, h, reduceCtorEq] at built
    | ok u => rfl
  have here (s' : Station) : (site.stations ++ [s'])[site.stations.length]? = some s' := by simp
  have swap (s' s'' : Station) : (site.stations ++ [s']).set site.stations.length s'' =
      site.stations ++ [s''] := by simp
  have unit : (s.configure e.config).unit = s.unit := rfl
  simp only [Site.enrol, checked, unknown, Site.enrolNew, built, Site.install, Site.addStation,
    Site.addToRoster, Site.update, Site.act, here, swap, Site.hook, unit, Site.call, Site.record,
    Site.rechain, present, if_true, Site.mapChain, Site.note]
  exact ⟨_, rfl⟩

namespace Fleet

/-- The fleet after the first `stations` devices of the plan have been enrolled. -/
def deploy (generator : UInt64 → Random) (plan : Plan) (positions : List Point)
    (settings : MediumSettings) : Nat → Fleet
  | 0 => { hardware := Medium.seeded generator positions settings }
  | i + 1 => (Site.enrol (deploy generator plan positions settings i) (plan.enrolment i)).1

variable {generator : UInt64 → Random}

structure Regular (plan : Plan) (stations : Nat) (f : Fleet) : Prop where
  atRest : f.AtRest
  roster : f.roster = List.range stations
  stationCount : f.stations.length = stations
  nodes : stations ≤ f.hardware.nodeCount
  member : ∀ i, i < stations → ∃ s, f.stations[i]? = some s ∧ plan.Member i s

theorem deploy_eq {plan : Plan} {stations : Nat} (admits : plan.Admits stations)
    (positions : List Point) (settings : MediumSettings) (m : Nat) (hm : m ≤ stations)
    (nodes : m ≤ positions.length) :
    ∃ trace, deploy generator plan positions settings m =
      { hardware := Medium.seeded generator positions settings
        stations := (List.range m).map plan.founder
        roster := List.range m
        chain := fun unit => if unit < m then ⟨[(surveyInterface, .station unit)]⟩ else {}
        trace } := by
  induction m with
  | zero => exact ⟨[], rfl⟩
  | succ m ih =>
    obtain ⟨trace, before⟩ := ih (by omega) (by omega)
    have unknown : (deploy generator plan positions settings m).find? m = none := by
      rw [before]
      simp only [Site.find?, List.find?_eq_none, List.mem_range]
      intro id hid
      have hne : ¬ id = m := by omega
      simp [hid, Plan.founder, Plan.enrolment, Station.fresh, Station.configure, hne]
    have present :
        Hardware.present (deploy generator plan positions settings m).hardware m = true := by
      rw [before]
      change decide (m < (Medium.seeded generator positions settings).nodeCount) = true
      simp only [Medium.seeded, Medium.nodeCount, List.length_map, decide_eq_true_eq]
      omega
    obtain ⟨trace', enrolled⟩ := Site.enrol_new (e := plan.enrolment m)
      (admits.build (show m < stations by omega)) unknown present
    have chain : (fun unit => if unit = m then
        (if unit < m then (⟨[(surveyInterface, .station unit)]⟩ : Chain Sink) else {}).register
          surveyInterface (.station m)
        else if unit < m then ⟨[(surveyInterface, .station unit)]⟩ else {}) =
        fun unit => if unit < m + 1 then ⟨[(surveyInterface, .station unit)]⟩ else {} := by
      funext unit
      by_cases hu : unit = m
      · subst hu
        simp [Chain.register, Chain.place]
      · by_cases hlt : unit < m
        · rw [if_neg hu, if_pos hlt, if_pos (by omega)]
        · rw [if_neg hu, if_neg hlt, if_neg (by omega)]
    refine ⟨trace', ?_⟩
    rw [deploy, enrolled, before]
    simp only [List.length_map, List.length_range, List.range_succ, List.map_append]
    rw [← chain]
    rfl

theorem regular_deploy {plan : Plan} {stations : Nat} (admits : plan.Admits stations)
    {positions : List Point} (settings : MediumSettings) (nodes : stations ≤ positions.length) :
    Regular plan stations (deploy generator plan positions settings stations) := by
  obtain ⟨trace, deployed⟩ := deploy_eq admits positions settings stations (Nat.le_refl _) nodes
  have founders : ∀ s ∈ (List.range stations).map plan.founder, ∃ i, plan.founder i = s := by
    intro s hs
    obtain ⟨i, -, hi⟩ := List.mem_map.mp hs
    exact ⟨i, hi⟩
  have here : ∀ i, i < stations →
      ((List.range stations).map plan.founder)[i]? = some (plan.founder i) := by
    intro i hi
    rw [List.getElem?_map, List.getElem?_range hi, Option.map_some]
  rw [deployed]
  refine ⟨⟨rfl, ?_, ?_, ?_, ?_, ?_⟩, rfl, by simp, ?_, ?_⟩
  · intro s hs
    obtain ⟨i, rfl⟩ := founders s hs
    rfl
  · intro s hs
    obtain ⟨i, rfl⟩ := founders s hs
    rfl
  · intro n hn
    obtain ⟨position, -, rfl⟩ := List.mem_map.mp hn
    rfl
  · intro id hid
    have hlt : id < stations := List.mem_range.mp hid
    refine ⟨plan.founder id, here id hlt, ?_, if_pos hlt⟩
    change id < (positions.map _).length
    rw [List.length_map]
    omega
  · intro unit id hid
    by_cases hlt : unit < stations
    · simp only [if_pos hlt, Chain.sinks, List.map_cons, List.map_nil, List.mem_singleton,
        Sink.station.injEq] at hid
      subst hid
      exact ⟨plan.founder id, here id hlt, rfl⟩
    · simp [if_neg hlt, Chain.sinks] at hid
  · change stations ≤ (positions.map _).length
    rw [List.length_map]
    exact nodes
  · exact fun i hi => ⟨plan.founder i, here i hi, plan.member_founder i⟩

end Fleet

end RangeSurvey
