import RangeSurvey.Settings

/-!
# Slots

When a slot starts, which part a station plays in it, and when the radio has to be armed. Times
are in units of 1/65536 microsecond.
-/

namespace RangeSurvey

/-- How an interval of the network's clock reads on the local clock. -/
structure Clock where
  adjust : UInt64 → UInt64

namespace Clock

def exact : Clock := ⟨fun interval => interval⟩

/-- A local clock that runs faster or slower by a fixed ratio; the product wraps. -/
def scaled (num den : UInt64) : Clock := ⟨fun interval => interval * num / den⟩

def shifted (amount : UInt64) : Clock := ⟨fun interval => interval + amount⟩

end Clock

/-- A slot as the scheduler announces it. -/
structure Slot where
  /-- The round counter of the whole network. -/
  round : UInt32
  /-- The place of the slot in its round. -/
  position : UInt16
  /-- The length of a round, in microseconds. -/
  period : UInt32
  /-- How many slots a round has. -/
  total : UInt16
  /-- The start of the round. -/
  epoch : UInt64
deriving DecidableEq, Repr

namespace Slot

/-- The largest number that fits 64 bits, at which a product stops. -/
def ceiling : Nat := 0xFFFFFFFFFFFFFFFF

/-- How far into the round the slot starts; a round without slots has no offset. -/
def offset (s : Slot) : Nat :=
  min ceiling (s.period.toNat * 65536 * s.position.toNat) / s.total.toNat

def start (s : Slot) (clock : Clock) : UInt64 :=
  s.epoch + clock.adjust (UInt64.ofNat s.offset)

end Slot

inductive SlotKind where
  | ranging
  | broadcast
deriving DecidableEq, Repr

inductive Role where
  | requester
  | listener
  | broadcaster
  | receiver
deriving DecidableEq, Repr

def Role.of (kind : SlotKind) (turn : Bool) : Role :=
  match kind, turn with
  | .ranging, true => .requester
  | .ranging, false => .listener
  | .broadcast, true => .broadcaster
  | .broadcast, false => .receiver

def hasTurn (round : UInt32) (nodeCount slot : Nat) : Bool :=
  nodeCount != 0 && round.toNat % nodeCount == slot

/-- The last round of a cycle in which every station has had its turn. -/
def endsCycle (round : UInt32) (nodeCount : Nat) : Bool :=
  round.toNat % nodeCount == nodeCount - 1

/-- The survey's own round number: the network's without its low bits. -/
def roundNumber (round : UInt32) (shift : Nat) : UInt32 :=
  UInt32.ofNat (round.toNat >>> min shift 32)

namespace Deadline

/-- A delayed start ignores the lowest nine bits. The mask clears these, and bit 48 and those above it
too. -/
def mask : UInt64 := 0xFFFFFFFFFE00

/-- The station whose turn it is starts with the slot. -/
def active (start : UInt64) : UInt64 := start &&& mask

/-- The others listen one preamble earlier, but never before time zero. -/
def passive (start : UInt64) (preamble : UInt32) : UInt64 :=
  UInt64.ofNat (start.toNat - preamble.toNat * 65536) &&& mask

end Deadline

structure SlotReport where
  role : Role
  deadline : UInt64
  status : Status
deriving DecidableEq, Repr

structure Completion where
  device : Nat
  round : UInt32
deriving DecidableEq, Repr

def completionCapacity : Nat := 4

end RangeSurvey
