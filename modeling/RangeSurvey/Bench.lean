import RangeSurvey.Radio

/-!
# The bench

Units that follow a script: how long frames take, which starts fail, what is reported while a
radio starts, whether exchanges go on for ever, and what an engine measures. It shows what a
station asks of its hardware and how it takes any answer.
-/

namespace RangeSurvey

structure RadioScript where
  frameBase : Nat := 130
  perByte : Nat := 1
  preamble : UInt32 := 130
  failTransmit : Bool := false
  failReceive : Bool := false
  /-- Reported before a transmission has returned from starting. -/
  onTransmit : Option RadioEvent := none
  /-- Reported before a reception has returned from starting. -/
  onReceive : Option RadioEvent := none
deriving DecidableEq, Repr

structure EngineScript where
  /-- Exchanges do not end. -/
  hold : Bool := false
  answered : PeerSet := .empty
  distances : List Distance := []
  requestLength : Nat := 18
  margin : UInt16 := 50
deriving DecidableEq, Repr

structure Bench where
  radio : Nat → RadioScript := fun _ => {}
  engine : Nat → EngineScript := fun _ => {}

namespace Bench

def setRadio (b : Bench) (unit : Nat) (script : RadioScript) : Bench :=
  { b with radio := fun u => if u = unit then script else b.radio u }

def setEngine (b : Bench) (unit : Nat) (script : EngineScript) : Bench :=
  { b with engine := fun u => if u = unit then script else b.engine u }

/-- A start that either fails or reports at most one event. -/
def started (fails : Bool) (error : StartError) (event : Option RadioEvent) :
    Except StartError (List RadioEvent) :=
  if fails then .error error else .ok event.toList

instance : Hardware Bench where
  present _ _ := true
  write b _ _ _ := b
  setControl b _ _ _ := b
  armTransmit b unit _ :=
    (b, started (b.radio unit).failTransmit .transmit (b.radio unit).onTransmit)
  armReceive b unit _ _ :=
    (b, started (b.radio unit).failReceive .receive (b.radio unit).onReceive)
  airTime b unit length :=
    UInt16.ofNat (min ((b.radio unit).frameBase + (b.radio unit).perByte * length) 65535)
  preamble b unit := (b.radio unit).preamble
  pollExchange b unit _ _ := (b, !(b.engine unit).hold)
  measured b unit _ cells :=
    let distances := (b.engine unit).distances
    ((b.engine unit).answered, distances.take cells.length ++ cells.drop distances.length)
  requestLength b unit := (b.engine unit).requestLength
  listenMargin b unit := (b.engine unit).margin

end Bench

end RangeSurvey
