import RangeSurvey.Proofs.Site.OwnRow
import RangeSurvey.Proofs.Site.Representation
import RangeSurvey.Proofs.Station.Answered

/-!
# What a request leaves behind

A request asks the engine for distances, waits, and stores what the engine reports. Until it is over
it changes no row, and then it changes the own row alone. Each distance that the engine has packed
stays with its peer. What has been in the own row before shows through if the engine names more
peers than it writes distances.
-/

namespace RangeSurvey

variable {H : Type} [Hardware H]

/-- To the station in some slot of a survey of `n` an engine reports some peers and packs a value
for each of them, whatever the cells held before. -/
def Hardware.Packs (hardware : H) (unit slot n : Nat) (reported : PeerSet)
    (value : Nat → Distance) : Prop :=
  ∀ cells : List Distance, cells.length = n →
    (Hardware.measured hardware unit slot cells).1 = reported ∧
    (Hardware.measured hardware unit slot cells).2.length = n ∧
    reported.Packed value (Hardware.measured hardware unit slot cells).2

/-- To the station in some slot an engine reports some peers and writes some values into the front
of the cells, as many as there is room for. -/
def Hardware.Writes (hardware : H) (unit slot : Nat) (reported : PeerSet)
    (values : List Distance) : Prop :=
  ∀ cells : List Distance, Hardware.measured hardware unit slot cells =
    (reported, values.take cells.length ++ cells.drop values.length)

def Call.mode (c : Call) (s : Station) : Sidedness :=
  match c.stage with
  | .requestTurn mode => mode
  | _ => s.config.mode

def Call.asks (c : Call) (s : Station) : Exchange :=
  match c.stage with
  | .exchanging e => e
  | _ => .request everybody c.deadline (c.mode s) s.peers

omit [Hardware H] in
theorem Call.asks_request {c : Call} (request : c.measurer? = some c.station) (s : Station) :
    ∃ destination start mode peers, c.asks s = .request destination start mode peers := by
  cases stage : c.stage with
  | exchanging e =>
    cases e with
    | request destination start mode peers =>
      exact ⟨destination, start, mode, peers, by simp only [asks, stage]⟩
    | listen start timeout => simp [measurer?, stage, Exchange.measurer?] at request
  | _ => exact ⟨everybody, c.deadline, c.mode s, s.peers, by simp only [asks, stage]⟩

omit [Hardware H] in
theorem Station.Keeps.ownRow? {s s' : Station} (keeps : s.Keeps s') : s'.ownRow? = s.ownRow? := by
  rw [Station.ownRow?, keeps.kin.slot, keeps.table]
  rfl

def Station.withOwnRow (s : Station) (row : Row) : Station :=
  { s with table := s.table.modifyRow s.slot fun _ => row }

omit [Hardware H] in
theorem Station.withOwnRow_self {s : Station} {row : Row} (own : s.ownRow? = some row) :
    s.withOwnRow row = s := by
  obtain ⟨inside, same⟩ := List.getElem?_eq_some_iff.mp own
  rw [withOwnRow, Table.modifyRow_eq_set own, ← same, List.set_getElem_self]

omit [Hardware H] in
/-- A station that stores an answer is the same afterwards but for its own row, whatever this row
has been. -/
theorem Station.endRequest_withOwnRow (s : Station) (row : Row) (reported : PeerSet)
    (cells cells' : List Distance) :
    (s.withOwnRow row).endRequest reported cells' =
      ((s.endRequest reported cells).1.withOwnRow
          ((row.fill cells').withPeers (reported.inter (PeerSet.below s.nodeCount))),
        (s.endRequest reported cells).2) := by
  have table : (s.table.modifyRow s.slot fun _ => row).modifyRow s.slot (fun r =>
        (r.fill cells').withPeers (reported.inter (PeerSet.below s.nodeCount))) =
      (s.table.modifyRow s.slot fun r =>
        (r.fill cells).withPeers (reported.inter (PeerSet.below s.nodeCount))).modifyRow s.slot
          fun _ => (row.fill cells').withPeers (reported.inter (PeerSet.below s.nodeCount)) := by
    simp only [Table.modifyRow, List.modify_modify_eq, Function.comp_def]
  exact Prod.ext (congrArg (fun table => { s.freeEngine with table }) table) rfl

namespace Site

/-! ## Looks at a request -/

def counted (site : Site H) (c : Call) : Site H :=
  if c.stage = .fresh then site.act c.station Station.beginRequest else site

def asked (site : Site H) (c : Call) (s : Station) : Site H :=
  if c.hasEngine then site
  else ((site.counted c).update c.station Station.takeEngine).call (.exchange s.unit (c.asks s))

def engineAnswer (site : Site H) (c : Call) (s : Station) : H × Bool :=
  Hardware.pollExchange site.hardware s.unit (!c.hasEngine) (c.asks s)

def polled (site : Site H) (c : Call) (s : Station) : Site H :=
  { site.asked c s with hardware := (site.engineAnswer c s).1 }

def measures (site : Site H) (c : Call) (s : Station) : Bool :=
  (c.hasEngine || !s.engineBusy) && (site.engineAnswer c s).2

variable {site : Site H} {c : Call} {s : Station}

omit [Hardware H] in
theorem asked_hardware (site : Site H) (c : Call) (s : Station) :
    (site.asked c s).hardware = site.hardware := by
  have counted : (site.counted c).hardware = site.hardware := by
    rw [Site.counted]
    split
    · exact hardware_act _ _ _
    · rfl
  rw [asked]
  split
  · rfl
  · exact (hardware_act _ _ _).trans counted

/-- A request that waits for its exchange is over when the exchange is. -/
theorem lookExchange_asked (site : Site H) (c : Call) (s : Station) :
    (site.asked c s).lookExchange c s (!c.hasEngine) (c.asks s) =
      if (site.engineAnswer c s).2 then ((site.polled c s).endExchange c s (c.asks s)).finish c
      else (site.polled c s, .waiting { c with stage := .exchanging (c.asks s) }) := by
  simp only [lookExchange, asked_hardware]
  rfl

/-- A request that does not have the engine asks for its exchange when the engine is free. -/
theorem tryRequest_counted (site : Site H) {c : Call} (s : Station) (unasked : c.hasEngine = false) :
    (site.counted c).tryRequest c s (c.mode s) =
      if s.engineBusy then (site.counted c, .waiting { c with stage := .requestTurn (c.mode s) })
      else (site.asked c s).lookExchange c s true (c.asks s) := by
  have asks : c.asks s = .request everybody c.deadline (c.mode s) s.peers := by
    cases stage : c.stage with
    | exchanging e => simp [Call.hasEngine, stage] at unasked
    | _ => simp only [Call.asks, stage]
  rw [asked, if_neg (Bool.eq_false_iff.mp unasked), asks]
  rfl

/-- What a look at a request does: it waits for the engine, or asks it and stores what it has
measured if the exchange is over. -/
theorem look_request (request : c.measurer? = some c.station)
    (hs : site.stations[c.station]? = some s) :
    site.look c =
      if c.hasEngine || !s.engineBusy then
        if (site.engineAnswer c s).2 then ((site.polled c s).endExchange c s (c.asks s)).finish c
        else (site.polled c s, .waiting { c with stage := .exchanging (c.asks s) })
      else (site.counted c, .waiting { c with stage := .requestTurn (c.mode s) }) := by
  rw [← lookExchange_asked]
  cases stage : c.stage with
  | exchanging e =>
    simp only [look, hs, advance, asked, Call.hasEngine, Call.asks, stage, Bool.true_or, if_true,
      Bool.not_true]
  | fresh =>
    have unasked : c.hasEngine = false := by simp only [Call.hasEngine, stage]
    have activity : c.activity = .request := by
      simp only [Call.measurer?, stage, Option.ite_none_right_eq_some] at request
      exact request.1
    have looked : site.look c = (site.counted c).tryRequest c s (c.mode s) := by
      simp only [look, hs, advance, counted, Call.mode, stage, activity, if_true]
    rw [looked, tryRequest_counted site s unasked, unasked]
    cases s.engineBusy <;> rfl
  | requestTurn mode =>
    have unasked : c.hasEngine = false := by simp only [Call.hasEngine, stage]
    have looked : site.look c = (site.counted c).tryRequest c s (c.mode s) := by
      simp only [look, hs, advance, counted, Call.mode, stage, reduceCtorEq, if_false]
    rw [looked, tryRequest_counted site s unasked, unasked]
    cases s.engineBusy <;> rfl
  | listenTurn => simp [Call.measurer?, stage] at request
  | armed => simp [Call.measurer?, stage] at request

/-- From one site to another station `id`, which was `s`, keeps its rows, and all other stations stay
as they are. -/
structure Confined (a b : Site H) (id : Nat) (s : Station) : Prop where
  station : ∃ t, b.stations[id]? = some t ∧ s.Keeps t
  others : ∀ j, j ≠ id → b.stations[j]? = a.stations[j]?

omit [Hardware H] in
theorem Confined.act {a b : Site H} {id : Nat} (confined : Confined a b id s)
    {f : Station → Station × List StationNotice} (keeps : ∀ t : Station, t.Keeps (f t).1) :
    Confined a (b.act id f) id s := by
  obtain ⟨t, ht, kept⟩ := confined.station
  constructor
  · refine ⟨(f t).1, ?_, kept.trans (keeps t)⟩
    rw [Did.stations_act, if_pos rfl, ht, Option.map_some]
  · intro j other
    rw [Did.stations_act, if_neg (Ne.symm other)]
    exact confined.others j other

omit [Hardware H] in
theorem counted_confined (hs : site.stations[c.station]? = some s) :
    Confined site (site.counted c) c.station s := by
  have same : Confined site site c.station s :=
    ⟨⟨s, hs, .refl s, rfl, rfl⟩, fun _ _ => rfl⟩
  rw [counted]
  split
  · exact same.act Station.beginRequest_keeps
  · exact same

theorem polled_confined (hs : site.stations[c.station]? = some s) :
    Confined site (site.polled c s) c.station s := by
  have asked : Confined site (site.asked c s) c.station s := by
    rw [Site.asked]
    split
    · exact ⟨⟨s, hs, .refl s, rfl, rfl⟩, fun _ _ => rfl⟩
    · obtain ⟨station, others⟩ := (counted_confined hs).act
        (f := fun t => (t.takeEngine, [])) Station.takeEngine_keeps
      exact ⟨station, others⟩
  exact ⟨asked.station, asked.others⟩

/-- A request whose exchange is over stores what the engine has measured. -/
theorem look_measures (request : c.measurer? = some c.station)
    (hs : site.stations[c.station]? = some s) {row : Row} (own : s.ownRow? = some row)
    (ready : site.measures c s = true) {reported : PeerSet} {cells : List Distance}
    (measured : Hardware.measured (site.engineAnswer c s).1 s.unit s.slot row.cells =
      (reported, cells)) :
    site.look c = (((site.polled c s).call (.measured s.unit s.slot row.capacity)).act c.station
      fun t => t.endRequest reported cells).finish c := by
  obtain ⟨free, answered⟩ := Bool.and_eq_true_iff.mp ready
  obtain ⟨destination, start, mode, peers, asks⟩ := Call.asks_request request s
  rw [look_request request hs, if_pos free, if_pos answered, asks]
  simp only [endExchange, own, polled, measured]

/-- What there is when a request is over: the station, which has kept its rows until then, stores
what the engine has measured, and all other stations are as they were. -/
theorem look_measured (request : c.measurer? = some c.station)
    (hs : site.stations[c.station]? = some s) {row : Row} (own : s.ownRow? = some row)
    (ready : site.measures c s = true) {reported : PeerSet} {cells : List Distance}
    (measured : Hardware.measured (site.engineAnswer c s).1 s.unit s.slot row.cells =
      (reported, cells)) :
    ∃ after t, site.look c = (after, .done (t.endRequest reported cells).1.status) ∧ s.Keeps t ∧
      after.hardware = (site.engineAnswer c s).1 ∧
      after.stations[c.station]? = some (t.endRequest reported cells).1 ∧
      ∀ j, j ≠ c.station → after.stations[j]? = site.stations[j]? := by
  obtain ⟨⟨t, ht, keeps⟩, others⟩ := polled_confined (c := c) hs
  have here : ((site.polled c s).call (.measured s.unit s.slot row.capacity)).stations[c.station]? =
    some t := ht
  refine ⟨((site.polled c s).call (.measured s.unit s.slot row.capacity)).act c.station
      fun t => t.endRequest reported cells, t, ?_, keeps, hardware_act _ _ _, ?_, ?_⟩
  · rw [look_measures request hs own ready measured]
    exact Prod.ext (finish_fst _ c) (finish_act here)
  · rw [Did.stations_act, if_pos rfl, here, Option.map_some]
  · intro j other
    rw [Did.stations_act, if_neg (Ne.symm other)]
    exact others j other

/-- A request whose exchange is not over waits. -/
theorem look_unmeasured (request : c.measurer? = some c.station)
    (hs : site.stations[c.station]? = some s) (on : site.measures c s = false) :
    ∃ after c', site.look c = (after, .waiting c') ∧ Confined site after c.station s := by
  rw [look_request request hs]
  split
  · next free =>
    rw [measures, free, Bool.true_and] at on
    rw [if_neg (Bool.eq_false_iff.mp on)]
    exact ⟨_, _, rfl, polled_confined hs⟩
  · exact ⟨_, _, rfl, counted_confined hs⟩

/-- Of all rows a request changes the own row of its station at most, and this only when it is over.
If the engine packs a value for each of the peers that it reports, every peer gets its own. -/
theorem request_aligned (hardware : H) (actions : List (Action H)) {site : Site H}
    (passes : (({ hardware } : Site H).performAll actions).Passes site) {c : Call} {s : Station}
    (hs : site.stations[c.station]? = some s) (request : c.measurer? = some c.station) :
    ∃ s', (site.look c).1.stations[c.station]? = some s' ∧
      (∀ j, j ≠ c.station → (site.look c).1.stations[j]? = site.stations[j]?) ∧
      (∀ k, k ≠ s.slot → s'.table.row? k = s.table.row? k) ∧
      (site.measures c s = false → (∃ c', (site.look c).2 = .waiting c') ∧ s'.table = s.table) ∧
      (site.measures c s = true → (site.look c).2 = .done s'.status ∧
        ∀ reported value,
          Hardware.Packs (site.look c).1.hardware s.unit s.slot s.nodeCount reported value →
          ∃ row, s'.ownRow? = some row ∧ row.Assigns s.nodeCount reported value) := by
  have sound : s.Sound := Passes.sound ((performAll_passes _ actions).trans passes) hs
  obtain ⟨row, own, good⟩ := sound.ownRow
  cases ready : site.measures c s with
  | false =>
    obtain ⟨after, c', looked, confined⟩ := look_unmeasured request hs ready
    obtain ⟨t, ht, keeps⟩ := confined.station
    rw [looked]
    exact ⟨t, ht, confined.others, fun k _ => by rw [keeps.table],
      fun _ => ⟨⟨c', rfl⟩, keeps.table⟩, nofun⟩
  | true =>
    obtain ⟨after, t, looked, keeps, same, stored, others⟩ :=
      look_measured request hs own ready (Prod.eta _).symm
    have slot : t.slot = s.slot := keeps.kin.slot
    rw [looked]
    refine ⟨_, stored, others, ?_, nofun, fun _ => ⟨rfl, ?_⟩⟩
    · intro k other
      rw [← keeps.table]
      exact Table.row?_modifyRow_of_ne _ _ (slot ▸ Ne.symm other)
    · intro reported value packs
      rw [same] at packs
      obtain ⟨rfl, size, packed⟩ := packs row.cells good.capacity
      refine ⟨_, Station.endRequest_ownRow? (keeps.ownRow?.trans own) _ _, ?_⟩
      rw [keeps.kin.nodeCount]
      exact Row.assigns_measured good.capacity packed size

/-- The engine of station 0 of three reports the station itself, both peers and somebody in slot 5,
and packs a value for each of them. -/
def reportedBeyond : List (Action Bench) :=
  [.enrol ⟨0, 3, ⟨0x100, 0, 12⟩, {}, 0⟩,
    .alter fun b => b.setEngine 0 { answered := ⟨0b100111#32⟩, distances := [10, 11, 12, 15] }]

/-- There is no room for the value of slot 5, and all others stay with their peers. -/
theorem request_aligned_beyond :
    let site := ({ hardware := oneAnswer } : Site Bench).performAll reportedBeyond
    let c : Call := { station := 0, activity := .request, deadline := 0 }
    ∃ s' row, (site.look c).1.stations[0]? = some s' ∧ s'.ownRow? = some row ∧
      row.distance? 0 = some 10 ∧ row.distance? 1 = some 11 ∧ row.distance? 2 = some 12 ∧
      row.distance? 5 = none := by
  intro site c
  have fields : (site.stations[0]?).map (fun s => (s.unit, s.slot, s.nodeCount)) =
      some (0, 0, 3) := by decide +kernel
  obtain ⟨s, hs, fields⟩ := Option.map_eq_some_iff.mp fields
  simp only [Prod.mk.injEq] at fields
  obtain ⟨unit, slot, nodes⟩ := fields
  have engine : (site.look c).1.hardware.engine 0 =
      { answered := ⟨0b100111#32⟩, distances := [10, 11, 12, 15] } := by decide +kernel
  have ready : (site.stations[0]?).map (site.measures c) = some true := by decide +kernel
  rw [hs, Option.map_some, Option.some.injEq] at ready
  have packs : Hardware.Packs (site.look c).1.hardware 0 0 3 ⟨0b100111#32⟩
      fun p => UInt32.ofNat (10 + p) := by
    intro cells size
    obtain ⟨x, y, z, rfl⟩ := List.length_eq_three.mp size
    simp only [Hardware.measured, engine]
    exact ⟨trivial, rfl, rfl⟩
  obtain ⟨s', there, -, -, -, stores⟩ :=
    request_aligned oneAnswer reportedBeyond (Does.refl _ site) (c := c) hs rfl
  rw [unit, slot, nodes] at stores
  obtain ⟨row, own, assigns⟩ := (stores ready).2 _ _ packs
  refine ⟨s', row, there, own, ?_, ?_, ?_, ?_⟩
  · exact assigns.distances 0
  · exact assigns.distances 1
  · exact assigns.distances 2
  · exact assigns.distances 5

/-! ## What was in the own row before -/

def withOwnRow (site : Site H) (id : Nat) (row : Row) : Site H :=
  site.update id fun s => s.withOwnRow row

omit [Hardware H] in
theorem withOwnRow_station (hs : site.stations[c.station]? = some s) (row : Row) :
    (site.withOwnRow c.station row).stations[c.station]? = some (s.withOwnRow row) :=
  stations_update hs _

omit [Hardware H] in
/-- What a station does in the same way whatever is in its own row leaves sites that differ in this
row alone. -/
theorem withOwnRow_act {site : Site H} {id : Nat} {row row' : Row}
    {f f' : Station → Station × List StationNotice}
    (regardless : ∀ s : Station, site.stations[id]? = some s →
      f' (s.withOwnRow row) = ((f s).1.withOwnRow row', (f s).2)) :
    (site.withOwnRow id row).act id f' = (site.act id f).withOwnRow id row' := by
  cases hs : site.stations[id]? with
  | none => rw [withOwnRow, update, act_none _ hs, act_none _ hs, act_none _ hs, withOwnRow, update,
      act_none _ hs]
  | some s =>
    have altered : (site.withOwnRow id row).stations[id]? = some (s.withOwnRow row) :=
      stations_update hs _
    have acted : (site.act id f).stations[id]? = some (f s).1 := by
      rw [Did.stations_act, if_pos rfl, hs, Option.map_some]
    rw [act_some f' altered, regardless s hs, withOwnRow, withOwnRow, update, update,
      act_some _ hs, act_some _ acted, act_some f hs]
    simp only [List.set_set]
    rfl

omit [Hardware H] in
theorem counted_withOwnRow (site : Site H) (c : Call) (row : Row) :
    (site.withOwnRow c.station row).counted c = (site.counted c).withOwnRow c.station row := by
  simp only [counted]
  split
  · exact withOwnRow_act fun _ _ => rfl
  · rfl

omit [Hardware H] in
theorem finish_withOwnRow (site : Site H) (c : Call) (row : Row) :
    (site.withOwnRow c.station row).finish c =
      ((site.finish c).1.withOwnRow c.station row, (site.finish c).2) := by
  cases hs : site.stations[c.station]? with
  | none =>
    have same : site.withOwnRow c.station row = site :=
      act_none (fun s => (s.withOwnRow row, [])) hs
    simp only [finish, same, hs]
  | some s =>
    have there : (site.withOwnRow c.station row).stations[c.station]? = some (s.withOwnRow row) :=
      stations_update hs _
    simp only [finish, there, hs]
    rfl

omit [Hardware H] in
theorem withOwnRow_call (site : Site H) (id : Nat) (row : Row) (h : HardwareCall) :
    (site.withOwnRow id row).call h = (site.call h).withOwnRow id row := by
  simp only [withOwnRow, update, act, call, record]
  split <;> rfl

omit [Hardware H] in
theorem withOwnRow_hardware (site : Site H) (id : Nat) (row : Row) (hardware : H) :
    ({ site.withOwnRow id row with hardware } : Site H) =
      ({ site with hardware } : Site H).withOwnRow id row := by
  simp only [withOwnRow, update, act]
  split <;> rfl

theorem engineAnswer_withOwnRow (site : Site H) (c : Call) (s : Station) (row : Row) :
    (site.withOwnRow c.station row).engineAnswer c (s.withOwnRow row) = site.engineAnswer c s := by
  rw [engineAnswer, withOwnRow, update, hardware_act]
  rfl

theorem polled_withOwnRow (site : Site H) (c : Call) (s : Station) (row : Row) :
    (site.withOwnRow c.station row).polled c (s.withOwnRow row) =
      (site.polled c s).withOwnRow c.station row := by
  have asks : c.asks (s.withOwnRow row) = c.asks s := rfl
  have asked : (site.withOwnRow c.station row).asked c (s.withOwnRow row) =
      (site.asked c s).withOwnRow c.station row := by
    simp only [Site.asked, asks]
    split
    · rfl
    · rw [← withOwnRow_call, counted_withOwnRow, update, update,
        withOwnRow_act (f := fun s => (s.takeEngine, [])) fun _ _ => rfl]
      rfl
  rw [polled, asked, engineAnswer_withOwnRow, withOwnRow_hardware]
  rfl

/-- A request that is not over goes on in the same way whatever is in the own row. -/
theorem look_unmeasured_withOwnRow (request : c.measurer? = some c.station)
    (hs : site.stations[c.station]? = some s) (on : site.measures c s = false) (row : Row) :
    (site.withOwnRow c.station row).look c =
      ((site.look c).1.withOwnRow c.station row, (site.look c).2) := by
  have free : (c.hasEngine || !(s.withOwnRow row).engineBusy) = (c.hasEngine || !s.engineBusy) :=
    rfl
  have asks : c.asks (s.withOwnRow row) = c.asks s := rfl
  have mode : c.mode (s.withOwnRow row) = c.mode s := rfl
  rw [look_request request hs, look_request request (withOwnRow_station hs row), free, asks, mode,
    engineAnswer_withOwnRow, polled_withOwnRow, counted_withOwnRow]
  split
  · next available =>
    rw [measures, available, Bool.true_and] at on
    simp only [on, Bool.false_eq_true, if_false]
  · rfl

/-- A request that is over leaves the same behind but for the own row, whatever was in this row. -/
theorem look_measures_withOwnRow (request : c.measurer? = some c.station)
    (hs : site.stations[c.station]? = some s) {row other : Row} (own : s.ownRow? = some row)
    (size : other.capacity = row.capacity) (ready : site.measures c s = true) {reported : PeerSet}
    {values : List Distance}
    (writes : Hardware.Writes (site.engineAnswer c s).1 s.unit s.slot reported values) :
    (site.withOwnRow c.station other).look c =
      ((site.look c).1.withOwnRow c.station
        ((other.fill values).withPeers (reported.inter (PeerSet.below s.nodeCount))),
        (site.look c).2) := by
  have ready' : (site.withOwnRow c.station other).measures c (s.withOwnRow other) = true := by
    rw [measures, engineAnswer_withOwnRow]
    exact ready
  have own' : (s.withOwnRow other).ownRow? = some other := by
    change (s.table.modifyRow s.slot _).row? s.slot = _
    rw [Table.row?_modifyRow_self, show s.table.row? s.slot = some row from own, Option.map_some]
  have writes' := writes other.cells
  rw [← engineAnswer_withOwnRow site c s other] at writes'
  have stores : (((site.polled c s).call
        (.measured s.unit s.slot row.capacity)).withOwnRow c.station other).act c.station
          (fun t => t.endRequest reported
            (values.take other.cells.length ++ other.cells.drop values.length)) =
      (((site.polled c s).call (.measured s.unit s.slot row.capacity)).act c.station fun t =>
          t.endRequest reported
            (values.take row.cells.length ++ row.cells.drop values.length)).withOwnRow c.station
        ((other.fill values).withPeers (reported.inter (PeerSet.below s.nodeCount))) := by
    apply withOwnRow_act
    intro t ht
    obtain ⟨⟨t', ht', keeps⟩, -⟩ := polled_confined (c := c) hs
    obtain rfl := Option.some.inj (ht.symm.trans ht')
    rw [← keeps.kin.nodeCount, ← Row.fill_fill other values]
    exact Station.endRequest_withOwnRow _ _ _ _ _
  rw [look_measures request hs own ready (writes row.cells),
    look_measures request (withOwnRow_station hs other) own' ready' writes',
    polled_withOwnRow, withOwnRow_call, size, ← finish_withOwnRow, ← stores]
  rfl

/-- A request goes the same way whatever the own row has held. It leaves the same row exactly if the
engine writes a value for each peer, or the rows have agreed where it does not. -/
theorem request_replaces (hardware : H) (actions : List (Action H)) {site : Site H}
    (passes : (({ hardware } : Site H).performAll actions).Passes site) {c : Call} {s : Station}
    (hs : site.stations[c.station]? = some s) (request : c.measurer? = some c.station)
    {row other : Row} (own : s.ownRow? = some row) (size : other.capacity = row.capacity) :
    (site.measures c s = false → (site.withOwnRow c.station other).look c =
      ((site.look c).1.withOwnRow c.station other, (site.look c).2)) ∧
    (site.measures c s = true → ∀ reported values,
      Hardware.Writes (site.look c).1.hardware s.unit s.slot reported values →
      ∃ t status stored stored', (site.look c).2 = .done status ∧
        (site.look c).1.stations[c.station]? = some t ∧ t.ownRow? = some stored ∧
        (site.withOwnRow c.station other).look c =
          ((site.look c).1.withOwnRow c.station stored', .done status) ∧
        (stored' = stored ↔
          (other.cells.take (reported.inter (PeerSet.below s.nodeCount)).count).drop
            values.length =
          (row.cells.take (reported.inter (PeerSet.below s.nodeCount)).count).drop
            values.length) ∧
        ((reported.inter (PeerSet.below s.nodeCount)).count ≤ values.length →
          (site.withOwnRow c.station other).look c = site.look c)) := by
  refine ⟨fun on => look_unmeasured_withOwnRow request hs on other, ?_⟩
  intro ready reported values writes
  have sound : s.Sound := Passes.sound ((performAll_passes _ actions).trans passes) hs
  obtain ⟨row', own', good⟩ := sound.ownRow
  obtain rfl := Option.some.inj (own.symm.trans own')
  have few : (reported.inter (PeerSet.below s.nodeCount)).count ≤ row.capacity := by
    rw [good.capacity]
    exact PeerSet.count_le
      (PeerSet.within_iff.mp (PeerSet.within_inter_below reported s.nodeCount))
  -- The hardware is not asked for anything after it has measured.
  have last : (site.look c).1.hardware = (site.engineAnswer c s).1 := by
    obtain ⟨after, t, looked, -, same, -⟩ := look_measured request hs own ready (Prod.eta _).symm
    rw [looked, same]
  rw [last] at writes
  have altered := look_measures_withOwnRow request hs own size ready writes
  obtain ⟨after, t, looked, keeps, -, there, -⟩ :=
    look_measured request hs own ready (writes row.cells)
  have stored := Station.endRequest_ownRow? (keeps.ownRow?.trans own) reported
    (values.take row.cells.length ++ row.cells.drop values.length)
  rw [keeps.kin.nodeCount, Row.fill_fill] at stored
  rw [altered, looked]
  refine ⟨_, _, _, _, rfl, there, stored, rfl, Row.withPeers_fill_inj size few values, ?_⟩
  intro enough
  rw [Row.withPeers_fill_congr size few enough]
  rw [withOwnRow, update_self there (Station.withOwnRow_self stored)]

/-- Station 0 of three has measured, and now its engine reports both peers and writes `values`. -/
def measuredAgain (answered : PeerSet) (before values : List Distance) : List (Action Bench) :=
  [.enrol ⟨0, 3, ⟨0x100, 0, 12⟩, {}, 0⟩,
    .alter fun b => b.setEngine 0 { answered, distances := before },
    .start 0 (.call { station := 0, activity := .request, deadline := 0 }), .poll 0,
    .alter fun b => b.setEngine 0 { answered := ⟨6#32⟩, distances := values }]

/-- With a distance for each peer it does not matter what has been measured before. -/
theorem request_replaces_again :
    let site := ({ hardware := oneAnswer } : Site Bench).performAll
      (measuredAgain ⟨6#32⟩ [5, 7] [9, 4])
    let c : Call := { station := 0, activity := .request, deadline := 0 }
    (site.stations[0]?).bind Station.ownRow? = some ⟨⟨6#32⟩, [5, 7, 0]⟩ ∧
      (site.withOwnRow 0 (Row.blank 3)).look c = site.look c := by
  intro site c
  have fields : (site.stations[0]?).map (fun s =>
      (s.unit, s.slot, s.nodeCount, s.ownRow?, site.measures c s)) =
      some (0, 0, 3, some ⟨⟨6#32⟩, [5, 7, 0]⟩, true) := by decide +kernel
  obtain ⟨s, hs, fields⟩ := Option.map_eq_some_iff.mp fields
  simp only [Prod.mk.injEq] at fields
  obtain ⟨unit, slot, nodes, own, ready⟩ := fields
  have engine : (site.look c).1.hardware.engine 0 =
      { answered := ⟨6#32⟩, distances := [9, 4] } := by decide +kernel
  have writes : Hardware.Writes (site.look c).1.hardware 0 0 ⟨6#32⟩ [9, 4] := by
    intro cells
    simp only [Hardware.measured, engine]
  have size : (Row.blank 3).capacity = (⟨⟨6#32⟩, [5, 7, 0]⟩ : Row).capacity := rfl
  obtain ⟨-, replaces⟩ := request_replaces oneAnswer (measuredAgain ⟨6#32⟩ [5, 7] [9, 4])
    (Does.refl _ site) (c := c) hs rfl own size
  rw [unit, slot, nodes] at replaces
  obtain ⟨t, status, stored, stored', -, -, -, -, -, same⟩ := replaces ready _ _ writes
  exact ⟨by rw [hs, Option.bind_some, own], same (by decide)⟩

/-- Two sites that differ in the own row of a station alone, because the first time two peers have
answered or nobody. The engine reports two peers and writes one distance, and what has been measured
the first time is stored as the distance of the second peer. -/
theorem request_shows_through :
    let used := ({ hardware := oneAnswer } : Site Bench).performAll
      (measuredAgain ⟨6#32⟩ [5, 7] [9])
    let unused := ({ hardware := oneAnswer } : Site Bench).performAll
      (measuredAgain .empty [] [9])
    let c : Call := { station := 0, activity := .request, deadline := 0 }
    unused.stations = (used.withOwnRow 0 (Row.blank 3)).stations ∧
      unused.hardware.engine 0 = used.hardware.engine 0 ∧
      ((used.look c).1.stations[0]?).bind Station.ownRow? = some ⟨⟨6#32⟩, [9, 7, 0]⟩ ∧
      ((unused.look c).1.stations[0]?).bind Station.ownRow? = some ⟨⟨6#32⟩, [9, 0, 0]⟩ := by
  decide +kernel

end Site

end RangeSurvey
