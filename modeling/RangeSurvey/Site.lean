import RangeSurvey.Station.Steps

/-!
# Sites

Stations, the hardware that they run on and the chains of sinks that hang on its radios. A site
also holds the roster, which says which station a device has, the tasks that are under way, the
queue of completion notes, and a record of what has happened.
-/

namespace RangeSurvey

/-- A party that hears the events of a radio. -/
inductive Sink where
  /-- The station that was the `id`-th to be made. -/
  | station (id : Nat)
  /-- A party that answers everything alike. -/
  | recorder (label : String) (verdict : Verdict)
deriving DecidableEq, Repr

inductive HardwareCall where
  | write (unit offset : Nat) (bytes : List UInt8)
  | control (unit length : Nat) (ranging : Bool)
  | armTransmit (unit : Nat) (start : UInt64)
  | armReceive (unit : Nat) (timeout : UInt16) (start : UInt64)
  | register (unit id : Nat)
  | remove (unit id : Nat)
  | exchange (unit : Nat) (exchange : Exchange)
  | measured (unit slot cells : Nat)
deriving DecidableEq, Repr

inductive Activity where
  | request
  | listen
  | broadcast
  | receive
deriving DecidableEq, Repr

inductive Stage where
  /-- Nothing has happened yet. Broadcasts and receives wait here for the latch. -/
  | fresh
  /-- A request that has been counted and waits for its turn on the engine. -/
  | requestTurn (mode : Sidedness)
  /-- An answer that has been counted and waits for its turn on the engine. -/
  | listenTurn
  /-- The engine is at work for this call. -/
  | exchanging (exchange : Exchange)
  /-- The radio is armed, and the call waits for the latch a second time. -/
  | armed
deriving DecidableEq, Repr

structure SlotPart where
  kind : SlotKind
  role : Role
  round : UInt32
  /-- Whether the end of a survey round is to be noted in the queue. -/
  notify : Bool
deriving DecidableEq, Repr

/-- A step of a station that is under way. -/
structure Call where
  station : Nat
  activity : Activity
  deadline : UInt64
  stage : Stage := .fresh
  part : Option SlotPart := none
deriving DecidableEq, Repr

structure SlotJob where
  device : Nat
  kind : SlotKind
  slot : Slot
  clock : Clock := .exact
  notify : Bool := false

/-- Something that a site has been asked to do and that takes time. -/
inductive Task where
  /-- A slot whose station has not been looked up yet. -/
  | slot (job : SlotJob)
  | call (call : Call)

/-- What comes of a task: the status of the station after a step, and of a slot also the part that
the station played, or nothing if no station took part. -/
inductive Outcome where
  | step (status : Status)
  | slot (report : Option SlotReport)
deriving DecidableEq, Repr

inductive Entry where
  | called (call : HardwareCall)
  | offered (sink : Sink) (event : RadioEvent) (verdict : Verdict)
  /-- Station `id`, which is in slot `slot`, reported something. -/
  | reported (id slot : Nat) (notice : StationNotice)
  | noticed (notice : Notice)
  /-- Task number `id` came to its end. -/
  | ended (id : Nat) (outcome : Outcome)
  /-- A completion note was made; it was kept if there was room for it. -/
  | announced (note : Completion) (kept : Bool)
  /-- A completion note was read. -/
  | collected (note : Completion)
deriving DecidableEq, Repr

structure Site (H : Type) where
  hardware : H
  /-- The chain of each unit's radio. -/
  chain : Nat → Chain Sink := fun _ => {}
  /-- All stations ever made, in the order in which they were made. -/
  stations : List Station := []
  /-- The stations that devices have, in the order in which they were taken in. -/
  roster : List Nat := []
  /-- The tasks under way, in the order in which they were begun. -/
  tasks : List (Nat × Task) := []
  /-- The completion notes that have not been read. -/
  queue : List Completion := []
  /-- What has happened, the latest first. -/
  trace : List Entry := []

namespace Site

variable {H : Type}

def record (site : Site H) (entry : Entry) : Site H := { site with trace := entry :: site.trace }

def call (site : Site H) (c : HardwareCall) : Site H := site.record (.called c)

def note (site : Site H) (notice : Notice) : Site H := site.record (.noticed notice)

/-- What has happened since the record was last taken away, in order. -/
def drain (site : Site H) : Site H × List Entry := ({ site with trace := [] }, site.trace.reverse)

def station? (site : Site H) (id : Nat) : Option Station := site.stations[id]?

/-- Lets a station do something, and records what it reports. -/
def act (site : Site H) (id : Nat) (f : Station → Station × List StationNotice) : Site H :=
  match site.stations[id]? with
  | none => site
  | some station =>
    let (station', notices) := f station
    { site with
      stations := site.stations.set id station'
      trace := (notices.map fun n => .reported id station.slot n).reverse ++ site.trace }

def update (site : Site H) (id : Nat) (f : Station → Station) : Site H :=
  site.act id fun station => (f station, [])

def say (site : Site H) (id : Nat) (notice : StationNotice) : Site H :=
  site.act id fun station => (station, [notice])

def mapHardware (site : Site H) (f : H → H) : Site H := { site with hardware := f site.hardware }

def mapChain (site : Site H) (unit : Nat) (f : Chain Sink → Chain Sink) : Site H :=
  { site with chain := fun u => if u = unit then f (site.chain u) else site.chain u }

def offer (event : RadioEvent) (sink : Sink) (site : Site H) : Site H × Verdict :=
  match sink with
  | .recorder _ verdict => (site.record (.offered sink event verdict), verdict)
  | .station id =>
    match site.stations[id]? with
    | none => (site, .notMine)
    | some station =>
      let reaction := station.hear event
      let site := site.act id fun _ => (reaction.station, reaction.notices)
      (site.record (.offered sink event reaction.verdict), reaction.verdict)

/-- The radio of a unit raises an event, which walks its chain. The answer says whether somebody
handled it. -/
def raise (site : Site H) (unit : Nat) (event : RadioEvent) : Site H × Bool :=
  (site.chain unit).walk (offer event) site

def raiseAll (site : Site H) (unit : Nat) : List RadioEvent → Site H
  | [] => site
  | event :: events => raiseAll (site.raise unit event).1 unit events

theorem station?_act_self (site : Site H) (id : Nat)
    (f : Station → Station × List StationNotice) :
    (site.act id f).station? id = (site.station? id).map fun s => (f s).1 := by
  unfold act station?
  split
  · next h => simp [h]
  · next s h =>
    have hlt : id < site.stations.length := (List.getElem?_eq_some_iff.mp h).1
    simp [hlt, (List.getElem?_eq_some_iff.mp h).2]

theorem station?_act_of_ne (site : Site H) {id other : Nat}
    (f : Station → Station × List StationNotice) (h : id ≠ other) :
    (site.act id f).station? other = site.station? other := by
  unfold act station?
  split
  · rfl
  · simp [h]

theorem act_none {site : Site H} {id : Nat} (f : Station → Station × List StationNotice)
    (none : site.stations[id]? = none) : site.act id f = site := by
  simp only [act, none]

theorem act_some {site : Site H} {id : Nat} {s : Station}
    (f : Station → Station × List StationNotice) (hs : site.stations[id]? = some s) :
    site.act id f =
      { site with
        stations := site.stations.set id (f s).1
        trace := ((f s).2.map fun n => .reported id s.slot n).reverse ++ site.trace } := by
  simp only [act, hs]

/-- A station after it has done something that it says nothing about. -/
theorem stations_update {site : Site H} {id : Nat} {s : Station}
    (hs : site.stations[id]? = some s) (f : Station → Station) :
    (site.update id f).stations[id]? = some (f s) := by
  have h := station?_act_self site id fun s => (f s, [])
  simpa [station?, hs, update] using h

/-- What a station does changes stations and the record, and nothing else of the site. -/
theorem act_eq (site : Site H) (id : Nat) (f : Station → Station × List StationNotice) :
    site.act id f =
      { site with stations := (site.act id f).stations, trace := (site.act id f).trace } := by
  unfold act
  split <;> rfl

/-- What a sink hears changes stations and the record, and nothing else of the site. -/
theorem offer_eq (event : RadioEvent) (sink : Sink) (site : Site H) :
    (offer event sink site).1 =
      { site with
        stations := (offer event sink site).1.stations
        trace := (offer event sink site).1.trace } := by
  cases sink with
  | recorder label verdict => rfl
  | station id =>
    simp only [offer]
    split
    · rfl
    · rw [act_eq]
      rfl

@[simp] theorem chain_mapChain_self (site : Site H) (unit : Nat) (f : Chain Sink → Chain Sink) :
    (site.mapChain unit f).chain unit = f (site.chain unit) := by simp [mapChain]

theorem chain_mapChain_of_ne (site : Site H) {unit other : Nat} (f : Chain Sink → Chain Sink)
    (h : unit ≠ other) : (site.mapChain unit f).chain other = site.chain other := by
  simp [mapChain, Ne.symm h]

end Site

end RangeSurvey
