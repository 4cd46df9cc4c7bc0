import RangeSurvey.Chain
import RangeSurvey.Error
import RangeSurvey.Frame.Buffer
import RangeSurvey.Latch
import RangeSurvey.Slot
import RangeSurvey.Table

/-!
# Stations

One node of a survey: its table, its frame buffer, its latch and its counters. The number of
stations and the identity are fixed when it is made; its own slot is a row of its table.
-/

namespace RangeSurvey

structure Station where
  device : Nat
  /-- The radio and ranging engine that the station runs on. -/
  unit : Nat
  identity : Identity
  nodeCount : Nat
  config : Configuration
  table : Table
  /-- The frame buffer, used again for every broadcast. -/
  buffer : List UInt8
  /-- The number of the round that the station is in. -/
  round : UInt32 := 0
  status : Status := {}
  counters : Counters := {}
  latch : Latch := .available
  /-- Whether a ranging exchange has the engine. -/
  engineBusy : Bool := false
deriving DecidableEq, Repr

structure Enrolment where
  device : Nat
  nodeCount : Nat
  identity : Identity
  config : Configuration
  unit : Nat
deriving DecidableEq, Repr

/-- The word of a peer set has 32 bits, and a survey needs two stations. -/
def checkNodeCount (count : Nat) : Except EnrolmentError Unit :=
  if minNodes ≤ count ∧ count ≤ maxNodes then .ok () else .error (.invalidNodeCount count)

namespace Station

def fresh (e : Enrolment) (ownsStorage : Bool) : Station where
  device := e.device
  unit := e.unit
  identity := e.identity
  nodeCount := e.nodeCount
  config := e.config
  table := Table.blank e.nodeCount
  buffer := Frame.writeFixed (List.replicate (Frame.maxLength e.nodeCount) 0)
    e.identity.address e.identity.cell
  status := { ownsStorage }

/-- Makes a station, if the number of stations is right and its own slot is one of theirs.
`ownsStorage` says whether the storage is the station's or its caller's. -/
def build (e : Enrolment) (ownsStorage : Bool) : Except EnrolmentError Station :=
  match checkNodeCount e.nodeCount with
  | .error err => .error err
  | .ok () =>
    if e.identity.slot.toNat < e.nodeCount then .ok (fresh e ownsStorage)
    else .error (.slotOutOfRange e.identity.slot.toNat e.nodeCount)

def slot (s : Station) : Nat := s.identity.slot.toNat

/-- Nobody waits for the radio. -/
def isIdle (s : Station) : Bool := s.latch.isAvailable

def ownRow? (s : Station) : Option Row := s.table.row? s.slot

def peers (s : Station) : PeerSet := PeerSet.others s.nodeCount s.slot

/-- Takes a configuration over, which also makes the station ready. -/
def configure (s : Station) (config : Configuration) : Station :=
  { s with config, status := { s.status with ready := true } }

/-- Takes part in no more slots until the station is configured again. -/
def suspend (s : Station) : Station := { s with status := { s.status with ready := false } }

def enterRound (s : Station) (round : UInt32) : Station := { s with round }

end Station

end RangeSurvey
