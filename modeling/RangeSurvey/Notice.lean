import RangeSurvey.Error
import RangeSurvey.Slot

/-!
# Notices

What a survey reports while it runs. A notice says what happened; its level and its wording are
functions of that.
-/

namespace RangeSurvey

inductive Level where
  | error
  | warn
  | info
  | debug
  | trace
deriving DecidableEq, Repr

/-- What a single station reports about itself. -/
inductive StationNotice where
  | requestStarted (peers : PeerSet)
  | reportedBeyond (peers : PeerSet)
  | requestDone (answered : Nat)
  | listening (timeout : UInt16)
  | rowEmpty
  | rowInvalid (peers nodes : Nat)
  | broadcastStarted (length : Nat)
  | transmitFailed
  | receiveFailed
  | unsolicited
  | otherRound (cell : UInt16) (round : UInt32)
  | malformed (sender : UInt16) (length : Nat)
  | rowAccepted (sender : UInt16) (ranges : Nat)
  | receiveTimeout
  | waitReset
  | slotPart (round : UInt32) (role : Role) (deadline : UInt64)
  | queueFull
deriving DecidableEq, Repr

/-- What is reported about a device or a radio rather than by a station. -/
inductive Notice where
  /-- Nobody consumed a frame that a node of a simulated medium heard. -/
  | notConsumed (node : Nat)
  /-- The radio of a node of a simulated medium was reset. -/
  | radioReset (node : Nat)
  | slotSkipped (kind : SlotKind) (device : Nat)
  | sizeConflict (device existing requested : Nat)
  | identityConflict (device : Nat) (existing requested : Identity)
  | created (device nodeCount : Nat) (identity : Identity)
  | renewed (device : Nat)
  | adopted (device : Nat)
  | suspended (device : Nat)
  | dismissed (device : Nat)
deriving DecidableEq, Repr

def PeerSet.binary (s : PeerSet) : String :=
  "0b" ++ String.ofList (Nat.toDigits 2 s.bits.toNat)

def Role.describe : Role → String
  | .requester => "ranging requester"
  | .listener => "ranging listener"
  | .broadcaster => "broadcaster"
  | .receiver => "receiver"

namespace StationNotice

def level : StationNotice → Level
  | rowInvalid .. => .error
  | transmitFailed | receiveFailed | receiveTimeout | waitReset | queueFull => .warn
  | requestStarted _ | requestDone _ | rowEmpty => .debug
  | broadcastStarted _ | rowAccepted .. | slotPart .. => .debug
  | reportedBeyond _ | listening _ | unsolicited | otherRound .. | malformed .. => .trace

def text : StationNotice → String
  | requestStarted peers => "Survey request, peers: " ++ peers.binary
  | reportedBeyond peers => "Ranging reported peers beyond the survey: " ++ peers.binary
  | requestDone answered => "Survey request done, " ++ toString answered ++ " peers answered"
  | listening timeout => "Survey listen, timeout: " ++ toString timeout.toNat
  | rowEmpty => "Survey row empty, broadcast skipped"
  | rowInvalid peers nodes =>
    "Survey row lists " ++ toString peers ++ " peers for " ++ toString nodes ++
      " nodes, broadcast skipped"
  | broadcastStarted length => "Survey broadcast started, length: " ++ toString length
  | transmitFailed => "Survey broadcast start tx error"
  | receiveFailed => "Survey receive start rx error"
  | unsolicited => "Unsolicited inbound frame"
  | otherRound cell round =>
    "Survey frame for cell " ++ toString cell.toNat ++ " round " ++ toString round.toNat ++
      " ignored"
  | malformed sender length =>
    "Malformed survey frame from slot " ++ toString sender.toNat ++ ", length: " ++
      toString length
  | rowAccepted sender ranges =>
    "Survey row from slot " ++ toString sender.toNat ++ " accepted, " ++ toString ranges ++
      " ranges"
  | receiveTimeout => "Survey receive timeout"
  | waitReset => "Survey wait aborted by radio reset"
  | slotPart round role deadline =>
    "Round " ++ toString round.toNat ++ ": " ++ role.describe ++ ", deadline: 0x" ++
      hexDigits 1 deadline.toNat
  | queueFull => "Survey complete queue full, notification dropped"

/-- The notice as a line, which begins with the slot of the station. -/
def line (slot : Nat) (n : StationNotice) : String := "[" ++ toString slot ++ "] " ++ n.text

end StationNotice

namespace Notice

def level : Notice → Level
  | slotSkipped .. | notConsumed _ => .trace
  | radioReset _ => .debug
  | sizeConflict .. | identityConflict .. => .warn
  | created .. | renewed _ | adopted _ | suspended _ | dismissed _ => .info

/-- The beginning of most notices about a device. -/
def onDevice (device : Nat) : String := "Survey on device " ++ toString device

def place (identity : Identity) : String :=
  "slot " ++ toString identity.slot.toNat ++ " in cell " ++ toString identity.cell.toNat

def text : Notice → String
  | notConsumed node => "[" ++ toString node ++ "] Simulated frame not consumed, timing out"
  | radioReset node => "[" ++ toString node ++ "] Simulated radio reset"
  | slotSkipped kind device =>
    (match kind with
      | .ranging => "Ranging"
      | .broadcast => "Broadcast") ++
      " slot skipped, survey on device " ++ toString device ++ " not initialized"
  | sizeConflict device existing requested =>
    onDevice device ++ " already runs with " ++ toString existing ++ " nodes, " ++
      toString requested ++ " requested"
  | identityConflict device existing requested =>
    onDevice device ++ " already runs as " ++ place existing ++ ", " ++ place requested ++
      " requested"
  | created device nodeCount identity =>
    "Survey created on device " ++ toString device ++ ": " ++ toString nodeCount ++
      " nodes, slot " ++ toString identity.slot.toNat ++ ", cell " ++
      toString identity.cell.toNat
  | renewed device => onDevice device ++ " re-initialised"
  | adopted device => "Survey attached on device " ++ toString device
  | suspended device => onDevice device ++ " deinitialised"
  | dismissed device => onDevice device ++ " destroyed"

end Notice

end RangeSurvey
