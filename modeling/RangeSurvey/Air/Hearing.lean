import RangeSurvey.Air.Medium

/-!
# Who hears what

At the end of a slot every armed receiver hears the senders that reach it and are not lost. It gets
the frame of a single one; two collide, and silence times out like a collision. Every sender learns
that its frame is out, after all receivers have been served.
-/

namespace RangeSurvey

def AirCounters.hear (s : AirCounters) (heard lost : Nat) : AirCounters :=
  { s with
    framesLost := s.framesLost + lost
    framesDelivered := s.framesDelivered + if heard = 1 then 1 else 0
    collisions := s.collisions + if 2 ≤ heard then 1 else 0
    timeouts := s.timeouts + if heard = 1 then 0 else 1 }

namespace Medium

def onDuty (m : Medium) (duty : Duty) : List Nat :=
  (List.range m.nodeCount).filter fun i => (m.node? i).any fun n => n.duty == duty

def inReach? (m : Medium) (receiver : Nat) : List Nat → Option (List Nat)
  | [] => some []
  | sender :: senders =>
    match m.hears? sender receiver, m.inReach? receiver senders with
    | some true, some others => some (sender :: others)
    | some false, some others => some others
    | _, _ => none

/-- What is left of some senders on the way to one receiver. -/
structure Sifted where
  random : Random
  heard : List Nat
  lost : Nat

def sift (lossPercent : Nat) : List Nat → Random → Sifted
  | [], random => ⟨random, [], 0⟩
  | sender :: senders, random =>
    match draw lossPercent random with
    | (random, true) =>
      let rest := sift lossPercent senders random
      { rest with lost := rest.lost + 1 }
    | (random, false) =>
      let rest := sift lossPercent senders random
      { rest with heard := sender :: rest.heard }

/-- What a receiver is told that hears some senders at once. -/
def told? (m : Medium) : List Nat → Option RadioEvent
  | [] => some .timedOut
  | [sender] => (m.node? sender).map fun n => .received n.frame
  | _ => some .timedOut

def serve? (senders : List Nat) : List Nat → Medium → Option (Medium × List (Nat × RadioEvent))
  | [], m => some (m, [])
  | receiver :: receivers, m =>
    match m.inReach? receiver senders with
    | none => none
    | some reaching =>
      let s := sift m.lossPercent reaching m.random
      let m' : Medium :=
        { m with random := s.random, counters := m.counters.hear s.heard.length s.lost }
      match m.told? s.heard, serve? senders receivers m' with
      | some event, some (m'', later) => some (m'', (receiver, event) :: later)
      | _, _ => none

/-- Ends a slot: what every armed node is told, after which none is armed. -/
def endSlot? (m : Medium) : Option (Medium × List (Nat × RadioEvent)) :=
  let senders := m.onDuty .sending
  let counted : Medium :=
    { m with counters := { m.counters with framesSent := m.counters.framesSent + senders.length } }
  (serve? senders (m.onDuty .listening) counted).map fun (m, told) =>
    (m.disarmAll, told ++ senders.map fun i => (i, .sent))

end Medium

end RangeSurvey
