import RangeSurvey.Notice
import RangeSurvey.Station

/-!
# Radio events at a station

What a station does with what its radio reports. An event matters only while the latch is held,
that is while a step waits for it; each event that matters puts the token back.
-/

namespace RangeSurvey

/-- A frame that a survey of `nodes` stations can store: it fits the longest frame, its sender has
a row, it names no peer beyond the survey and it holds a distance to each peer that it names. -/
def Frame.isSound (f : Frame) (nodes : Nat) : Bool :=
  f.length ≤ maxLength nodes && f.slot.toNat < nodes && f.peers.within nodes && f.isComplete

namespace Station

/-- The station after an event, what it answers and what it reports. -/
structure Reaction where
  station : Station
  verdict : Verdict
  notices : List StationNotice := []
deriving DecidableEq, Repr

def store (s : Station) (f : Frame) : Station :=
  { s with
    table := s.table.modifyRow f.slot.toNat fun r => r.replace f.peers f.distances
    latch := s.latch.putBack.1 }

/-- A survey frame for everybody. It has to be of this cell and round. -/
def hearSurveyFrame (s : Station) (f : Frame) : Reaction :=
  if f.cell ≠ s.identity.cell ∨ f.round ≠ s.round then
    ⟨s, .notMine, [.otherRound f.cell f.round]⟩
  else if f.isSound s.nodeCount then
    ⟨s.store f, .handled, [.rowAccepted f.slot f.peers.count]⟩
  else ⟨s, .malformed, [.malformed f.slot f.length]⟩

/-- Frames of other kinds are none of the station's business. One that arrives while nobody waits
is counted and left alone. -/
def hearFrame (s : Station) (bytes : List UInt8) : Reaction :=
  if Frame.peekControl? bytes ≠ some rangingControl then ⟨s, .notMine, []⟩
  else if s.isIdle then
    ⟨{ s with counters := { s.counters with unsolicited := s.counters.unsolicited + 1 } },
      .notMine, [.unsolicited]⟩
  else
    match Frame.ofBytes? bytes with
    | none => ⟨s, .malformed, []⟩
    | some f =>
      if f.destination ≠ everybody ∨ f.code ≠ surveyCode then ⟨s, .notMine, []⟩
      else s.hearSurveyFrame f

def hearSent (s : Station) : Reaction :=
  match s.latch.putBack with
  | (latch, true) => ⟨{ s with latch }, .handled, []⟩
  | (_, false) => ⟨s, .notMine, []⟩

def hearTimeout (s : Station) : Reaction :=
  match s.latch.putBack with
  | (latch, true) =>
    ⟨{ s with
        latch
        status := { s.status with timedOut := true }
        counters := { s.counters with timeouts := s.counters.timeouts + 1 } },
      .handled, [.receiveTimeout]⟩
  | (_, false) => ⟨s, .notMine, []⟩

/-- A reset ends a wait, and is never consumed: everybody in the chain has to hear of it. -/
def hearReset (s : Station) : Reaction :=
  match s.latch.putBack with
  | (latch, true) =>
    ⟨{ s with
        latch
        status := { s.status with wasReset := true }
        counters := { s.counters with resets := s.counters.resets + 1 } },
      .notMine, [.waitReset]⟩
  | (_, false) => ⟨s, .notMine, []⟩

def hear (s : Station) : RadioEvent → Reaction
  | .received frame => s.hearFrame frame
  | .sent => s.hearSent
  | .timedOut => s.hearTimeout
  | .reset => s.hearReset

end Station

end RangeSurvey
