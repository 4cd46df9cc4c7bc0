import RangeSurvey.Site

/-!
# The roster

Which station each device has, one at most. Enrolling a device that has a station gives that
station again, provided it is of the same size and identity. A station over storage of its own is
gone when it is dismissed; one over storage of its caller stays in the roster and only rests until
its device is enrolled again.
-/

namespace RangeSurvey.Site

variable {H : Type} [Hardware H]

def find? (site : Site H) (device : Nat) : Option Nat :=
  site.roster.find? fun id => (site.stations[id]?).any fun s => s.device == device

def rechain (site : Site H) (unit : Nat) (f : Chain Sink → Chain Sink) : Site H :=
  if Hardware.present site.hardware unit then site.mapChain unit f else site

/-- Puts a station under the survey's identifier into the chain of its radio. -/
def hook (site : Site H) (id : Nat) : Site H :=
  match site.stations[id]? with
  | none => site
  | some s =>
    (site.call (.register s.unit surveyInterface)).rechain s.unit
      fun c => c.register surveyInterface (.station id)

def unhook (site : Site H) (id : Nat) : Site H :=
  match site.stations[id]? with
  | none => site
  | some s =>
    (site.call (.remove s.unit surveyInterface)).rechain s.unit
      fun c => c.remove surveyInterface

def addToRoster (site : Site H) (id : Nat) : Site H := { site with roster := site.roster ++ [id] }

def dropFromRoster (site : Site H) (id : Nat) : Site H :=
  { site with roster := site.roster.filter fun other => other != id }

def addStation (site : Site H) (s : Station) : Site H :=
  { site with stations := site.stations ++ [s] }

/-- Takes a station into the roster, configures it and hooks it to its radio. -/
def install (site : Site H) (id : Nat) (config : Configuration) : Site H :=
  ((site.addToRoster id).update id fun s => s.configure config).hook id

def build (site : Site H) (e : Enrolment) : Site H × Except EnrolmentError Nat :=
  match Station.build e false with
  | .error err => (site, .error err)
  | .ok s => (site.addStation s, .ok site.stations.length)

/-- What became of an enrolment: the station that the device has now, or why it has none, and
whether hardware had to be set up for it. -/
structure Enrolled where
  outcome : Except EnrolmentError Nat
  built : Bool

/-- Configures the station that a device has, if it is the one that is asked for. -/
def renew (site : Site H) (id : Nat) (existing : Station) (e : Enrolment) :
    Site H × Except EnrolmentError Nat :=
  if existing.nodeCount ≠ e.nodeCount then
    (site.note (.sizeConflict e.device existing.nodeCount e.nodeCount),
      .error (.nodeCountMismatch existing.nodeCount e.nodeCount))
  else if existing.identity ≠ e.identity then
    (site.note (.identityConflict e.device existing.identity e.identity),
      .error (.identityMismatch existing.identity e.identity))
  else
    (((site.update id fun s => s.configure e.config).hook id).note (.renewed e.device), .ok id)

def enrolNew (site : Site H) (e : Enrolment) : Site H × Enrolled :=
  match Station.build e true with
  | .error err => (site, ⟨.error err, true⟩)
  | .ok s =>
    let id := site.stations.length
    (((site.addStation s).install id e.config).note (.created e.device e.nodeCount e.identity),
      ⟨.ok id, true⟩)

/-- Gives a device a station, or configures the one that it has. -/
def enrol (site : Site H) (e : Enrolment) : Site H × Enrolled :=
  match checkNodeCount e.nodeCount with
  | .error err => (site, ⟨.error err, false⟩)
  | .ok () =>
    match site.find? e.device with
    | none => site.enrolNew e
    | some id =>
      match site.stations[id]? with
      | none => (site, ⟨.ok id, false⟩)
      | some existing =>
        let (site, outcome) := site.renew id existing e
        (site, ⟨outcome, false⟩)

def adopt (site : Site H) (id : Nat) : Site H × Except EnrolmentError Unit :=
  match site.stations[id]? with
  | none => (site, .ok ())
  | some s =>
    match site.find? s.device with
    | none => ((site.install id s.config).note (.adopted s.device), .ok ())
    | some existing =>
      if existing = id then ((site.update id fun s => s.configure s.config).hook id, .ok ())
      else (site, .error (.deviceInUse s.device))

/-- Tears a station down. Only one over storage of its own leaves the roster and its radio. -/
def dismiss (site : Site H) (id : Nat) : Site H :=
  match site.stations[id]? with
  | none => site
  | some s =>
    let site := site.update id Station.suspend
    if s.status.ownsStorage then
      ((site.dropFromRoster id).unhook id).note (.dismissed s.device)
    else site.note (.suspended s.device)

end RangeSurvey.Site
