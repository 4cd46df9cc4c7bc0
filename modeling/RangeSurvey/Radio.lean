import RangeSurvey.PeerSet
import RangeSurvey.Row

/-!
# Radios and ranging engines

What a survey asks of the hardware. A unit is a transceiver together with the ranging engine that
belongs to it, and one value stands for the state of all units at once. The calls that take time
are looked at again and again until they are done.
-/

namespace RangeSurvey

/-- The identifier under which a station stands in the chain of its radio. -/
def surveyInterface : Nat := 0x0700

inductive RadioEvent where
  | received (frame : List UInt8)
  | sent
  | timedOut
  | reset
deriving DecidableEq, Repr

/-- A radio that could not be armed. No event follows. -/
inductive StartError where
  | transmit
  | receive
deriving DecidableEq, Repr

/-- Whether each distance takes one exchange of messages or two. -/
inductive Sidedness where
  | single
  | double
deriving DecidableEq, Repr

inductive Exchange where
  /-- Ask the peers in the set for a distance, starting at the given time. -/
  | request (destination : UInt16) (start : UInt64) (mode : Sidedness) (peers : PeerSet)
  /-- Answer one such request, giving up after `timeout` microseconds. -/
  | listen (start : UInt64) (timeout : UInt16)
deriving DecidableEq, Repr

/-- The units that a survey runs on, `H` being the state of all of them. -/
class Hardware (H : Type) where
  /-- Whether there is a unit of this number whose radio can hold a chain of sinks. -/
  present : H → Nat → Bool
  /-- Copies bytes into the transmit buffer of a unit, from an offset on. -/
  write : H → Nat → List UInt8 → Nat → H
  /-- Sets the length of the next transmission, and whether it is used for ranging. -/
  setControl : H → Nat → Nat → Bool → H
  /-- Starts the transmission. A unit that starts may report events before it returns. -/
  armTransmit : H → Nat → UInt64 → H × Except StartError (List RadioEvent)
  /-- Starts reception with a timeout in microseconds. A unit that starts may report events before
  it returns. -/
  armReceive : H → Nat → UInt16 → UInt64 → H × Except StartError (List RadioEvent)
  /-- How long a frame of some length is on air, in microseconds. -/
  airTime : H → Nat → Nat → UInt16
  /-- How long before its first symbol a frame is on air, in microseconds. -/
  preamble : H → Nat → UInt32
  /-- Looks at an exchange, for the first time or again, and says whether it is over. -/
  pollExchange : H → Nat → (first : Bool) → Exchange → H × Bool
  /-- The peers that answered the station in some slot, and the cells of its row after the engine
  has written the packed distances into them. -/
  measured : H → Nat → (slot : Nat) → (cells : List Distance) → PeerSet × List Distance
  /-- The length of a ranging request frame. -/
  requestLength : H → Nat → Nat
  /-- What a listener adds to the air time of a request, in microseconds. -/
  listenMargin : H → Nat → UInt16

end RangeSurvey
