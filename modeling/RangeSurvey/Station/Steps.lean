import RangeSurvey.Station.Events

/-!
# The parts of a station's steps

A step runs in parts, with radio and engine in between. Each part is a function on the station and
gives what it reports. The parts that begin a broadcast or a receive take the token of the latch,
and those that end one without waiting put it back.
-/

namespace RangeSurvey.Station

def beginRequest (s : Station) : Station × List StationNotice :=
  ({ s with
      counters := { s.counters with requests := s.counters.requests + 1 }
      status := s.status.clearStep },
    [.requestStarted s.peers])

def takeEngine (s : Station) : Station := { s with engineBusy := true }

def freeEngine (s : Station) : Station := { s with engineBusy := false }

/-- Stores what the engine measured as the station's own row. Peers beyond the survey are left
out: their distances stand behind those of all others, so that these keep their places. -/
def endRequest (s : Station) (reported : PeerSet) (cells : List Distance) :
    Station × List StationNotice :=
  let answered := reported.inter (PeerSet.below s.nodeCount)
  ({ s.freeEngine with
      table := s.table.modifyRow s.slot fun r => (r.fill cells).withPeers answered },
    (if answered = reported then [] else [.reportedBeyond reported]) ++
      [.requestDone answered.count])

def beginListen (s : Station) : Station :=
  { s with
    counters := { s.counters with listens := s.counters.listens + 1 }
    status := s.status.clearStep }

inductive Broadcast where
  /-- The first bytes of the buffer, this many of them, hold the frame. -/
  | frame (length : Nat)
  /-- The station has no row of its own. -/
  | noRow
  | empty
  /-- The row names as many peers as the survey has stations, so one of them is the station. -/
  | invalidRow (peers : Nat)
  /-- The buffer has no room for the row. -/
  | noRoom (peers : Nat)
deriving DecidableEq, Repr

/-- Looks at the station's own row and writes it into the buffer if it can be sent. -/
def prepare (s : Station) : Station × Broadcast :=
  match s.ownRow? with
  | none => (s, .noRow)
  | some row =>
    if row.peers.count = 0 then
      ({ s with status := { s.status with nothingToSend := true } }, .empty)
    else if s.nodeCount ≤ row.peers.count then
      ({ s with status := { s.status with invalidRow := true } }, .invalidRow row.peers.count)
    else
      match Frame.writeRound? s.buffer s.round s.identity.slot row.peers row.packed with
      | some (buffer, length) => ({ s with buffer }, .frame length)
      | none =>
        ({ s with status := { s.status with invalidRow := true } }, .noRoom row.peers.count)

/-- Takes the token, counts a broadcast and prepares its frame. -/
def beginBroadcast (s : Station) : Station × Broadcast :=
  prepare { s with
    latch := s.latch.take.1
    counters := { s.counters with broadcasts := s.counters.broadcasts + 1 }
    status := s.status.clearStep }

def putBack (s : Station) : Station := { s with latch := s.latch.putBack.1 }

def skipBroadcast (s : Station) (b : Broadcast) : Station × List StationNotice :=
  (s.putBack,
    match b with
    | .frame _ => []
    | .noRow | .empty => [.rowEmpty]
    | .invalidRow peers | .noRoom peers => [.rowInvalid peers s.nodeCount])

/-- Ends a broadcast whose transmission did not start. -/
def failTransmit (s : Station) : Station × List StationNotice :=
  ({ s.putBack with
      status := { s.status with transmitFailed := true }
      counters := { s.counters with transmitFailures := s.counters.transmitFailures + 1 } },
    [.transmitFailed])

def beginReceive (s : Station) : Station :=
  { s with
    latch := s.latch.take.1
    counters := { s.counters with receives := s.counters.receives + 1 }
    status := s.status.clearStep }

def failReceive (s : Station) : Station × List StationNotice :=
  ({ s.putBack with
      status := { s.status with receiveFailed := true }
      counters := { s.counters with receiveFailures := s.counters.receiveFailures + 1 } },
    [.receiveFailed])

/-- Ends a wait: the token, back in its place, is taken and put back at once. -/
def endWait (s : Station) : Station := { s with latch := s.latch.take.1.putBack.1 }

end RangeSurvey.Station
