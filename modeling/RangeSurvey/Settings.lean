import RangeSurvey.Frame
import RangeSurvey.Radio

/-!
# Identity, configuration, status and counters of a station
-/

namespace RangeSurvey

structure Identity where
  /-- The address that the station sends from. -/
  address : UInt16
  /-- The place of the station in the rotation, and the index of its own row. -/
  slot : UInt16
  /-- Frames from other cells are ignored. -/
  cell : UInt16
deriving DecidableEq, Repr

/-- The margin that a receiver adds to the air time of the longest frame, in microseconds. -/
def defaultReceiveMargin : UInt16 := 0x100

structure Configuration where
  /-- Added to the receive timeout of a broadcast, in microseconds. -/
  receiveMargin : UInt16 := defaultReceiveMargin
  /-- How many low bits of the network's round index belong to an enclosing schedule. -/
  roundShift : Nat := 0
  mode : Sidedness := .single
deriving DecidableEq, Repr

/-- The state of a station and the outcome of its last step. The first two flags belong to the
station; the others tell about the last step alone and are cleared when the next one begins. -/
structure Status where
  /-- The station has been configured and takes part in slots. -/
  ready : Bool := false
  /-- The station made its own storage, so that its dismissal is final. -/
  ownsStorage : Bool := false
  nothingToSend : Bool := false
  /-- The row to send named as many peers as the survey has stations. -/
  invalidRow : Bool := false
  transmitFailed : Bool := false
  receiveFailed : Bool := false
  /-- The wait ended with a receive timeout. -/
  timedOut : Bool := false
  /-- The wait was cut short by a reset of the radio. -/
  wasReset : Bool := false
deriving DecidableEq, Repr

namespace Status

/-- No failure in the last step. Having had nothing to send is no failure. -/
def succeeded (s : Status) : Bool :=
  !(s.invalidRow || s.transmitFailed || s.receiveFailed || s.timedOut || s.wasReset)

def clearStep (s : Status) : Status := { ready := s.ready, ownsStorage := s.ownsStorage }

end Status

/-- How often each thing has happened to a station. The counts have no bound here. -/
structure Counters where
  requests : Nat := 0
  listens : Nat := 0
  unsolicited : Nat := 0
  transmitFailures : Nat := 0
  receiveFailures : Nat := 0
  broadcasts : Nat := 0
  receives : Nat := 0
  timeouts : Nat := 0
  resets : Nat := 0
deriving DecidableEq, Repr

end RangeSurvey
