import RangeSurvey.Proofs.Fleet.Changes

/-!
# The part of one station in a slot

A station that takes part in a slot goes through the same phases whatever the others do. Its task
has not been looked at, or its engine is at work, or its radio is armed, or its token is back, or
its task is over. Each way in which the part can end is a case of its own, and says what the
station is like afterwards.
-/

namespace RangeSurvey

/-- The course of a slot: the medium at its start, whether nothing disturbs it and, once the medium
has decided who hears what, what the nodes are told. -/
structure Course where
  air : Medium
  calm : Prop
  told : Option (List (Nat × RadioEvent)) := none

/-- A station that takes part in a slot, as the slot finds it, and what its device is told. -/
structure Seat where
  job : SlotJob
  id : Nat
  station : Station

namespace Seat

def unit (p : Seat) : Nat := p.station.unit

def turn (p : Seat) : Bool := hasTurn p.job.slot.round p.station.nodeCount p.station.slot

def role (p : Seat) : Role := Role.of p.job.kind p.turn

def entered (p : Seat) : Station :=
  p.station.enterRound (roundNumber p.job.slot.round p.station.config.roundShift)

def deadline (p : Seat) : UInt64 :=
  if p.turn then Deadline.active (p.job.slot.start p.job.clock)
  else Deadline.passive (p.job.slot.start p.job.clock) Medium.preamble

def call (p : Seat) (stage : Stage) : Call where
  station := p.id
  activity := p.role.activity
  deadline := p.deadline
  stage
  part := some ⟨p.job.kind, p.role, p.job.slot.round, p.job.notify⟩

def outcome (p : Seat) (s : Station) : Outcome := .slot (some ⟨p.role, p.deadline, s.status⟩)

inductive Exchanging (p : Seat) : Station → Exchange → Prop where
  | request : p.role = .requester →
      Exchanging p p.entered.beginRequest.1.takeEngine
        (.request everybody p.deadline p.station.config.mode p.station.peers)
  | listen (timeout : UInt16) : p.role = .listener →
      Exchanging p p.entered.beginListen.takeEngine (.listen p.deadline timeout)

inductive Armed (p : Seat) : Station → Node → Prop where
  | receive {n : Node} : p.role = .receiver → n.duty = .listening →
      Armed p p.entered.beginReceive n
  | broadcast {n : Node} {s : Station} {length : Nat} : p.role = .broadcaster →
      p.entered.beginBroadcast = (s, .frame length) → n.duty = .sending →
      n.frame = s.buffer.take length → Armed p s n

/-- The ways in which a part can end, with the station afterwards. -/
inductive Ended (c : Course) (p : Seat) : Station → Prop where
  | answered : p.role = .listener → Ended c p p.entered.beginListen.takeEngine.freeEngine
  | requested {m m' : Medium} : p.role = .requester → m.request? p.unit p.station.peers = some m' →
      (c.calm → c.air.SameAir m) →
      Ended c p (p.entered.beginRequest.1.takeEngine.measure m')
  | skipped {s : Station} {b : Station.Broadcast} : p.role = .broadcaster →
      p.entered.beginBroadcast = (s, b) → (∀ length, b ≠ .frame length) →
      Ended c p (s.skipBroadcast b).1
  | transmitFailed {s : Station} {length : Nat} : p.role = .broadcaster →
      p.entered.beginBroadcast = (s, .frame length) → ¬ c.calm → Ended c p s.failTransmit.1
  | receiveFailed : p.role = .receiver → ¬ c.calm → Ended c p p.entered.beginReceive.failReceive.1
  | cut {s : Station} {n : Node} : p.Armed s n → ¬ c.calm → Ended c p s.hearReset.station
  | told {s : Station} {n : Node} {news : List (Nat × RadioEvent)} {event : RadioEvent} :
      p.Armed s n → c.told = some news → (p.unit, event) ∈ news → Ended c p (s.told event)

/-- How far the part has come after `looks` looks at its task: the task that is still under way, the
station and its node. The looks are counted anew when the nodes have been told. -/
inductive Phase (c : Course) (p : Seat) (looks : Nat) : Option Task → Station → Node → Prop where
  | untouched {n : Node} : c.told = none → looks = 0 → n.duty = .idle →
      Phase c p looks (some (.slot p.job)) p.station n
  | exchanging {s : Station} {n : Node} {e : Exchange} : c.told = none → looks ≤ 1 →
      n.duty = .idle → p.Exchanging s e →
      Phase c p looks (some (.call (p.call (.exchanging e)))) s n
  | armed {s : Station} {n : Node} : c.told = none → p.Armed s n →
      Phase c p looks (some (.call (p.call .armed))) s n
  | released {s : Station} {n : Node} : (c.told ≠ none → looks = 0) → n.duty = .idle →
      p.Ended c s → Phase c p looks (some (.call (p.call .armed))) s n
  | finished {s : Station} {n : Node} : n.duty = .idle → p.Ended c s → Phase c p looks none s n

end Seat

end RangeSurvey
