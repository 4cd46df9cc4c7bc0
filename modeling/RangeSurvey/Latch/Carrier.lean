import RangeSurvey.Channel
import RangeSurvey.Latch.Waiters

/-!
# A latch on a channel

The token of a latch can be a message without content, in a channel that has room for one. Taking
the token is receiving the message and putting it back is sending it again, so that a channel which
is full refuses a second token.
-/

namespace RangeSurvey

universe u

namespace Latch

/-- A channel that carries the token, and the acquisitions under way. -/
structure Carrier (κ : Type u) where
  channel : κ
  /-- In the order in which they were started. -/
  pending : List Nat := []

namespace Carrier

open Waiters (Act Change)

variable {κ : Type u} (C : Channel κ Unit 1)

def fresh : Carrier κ := { channel := (C.trySend () C.new).1 }

def isAvailable (s : Carrier κ) : Bool := C.isFull s.channel

def count (s : Carrier κ) : Nat := C.length s.channel

def perform (s : Carrier κ) : Act → Carrier κ × Option Change
  | .take =>
    let received := C.tryReceive s.channel
    ({ s with channel := received.1 }, if received.2.isSome then some .taken else none)
  | .putBack =>
    let sent := C.trySend () s.channel
    ({ s with channel := sent.1 }, if sent.2 then some .returned else none)
  | .start id => ({ s with pending := s.pending ++ [id] }, none)
  | .poll id =>
    if id ∈ s.pending then
      let received := C.pollReceive id s.channel
      if received.2.isSome then (⟨received.1, s.pending.erase id⟩, some .taken)
      else ({ s with channel := received.1 }, none)
    else (s, none)
  | .drop id => ({ s with pending := s.pending.erase id }, none)

def performAll (s : Carrier κ) : List Act → Carrier κ × List Change
  | [] => (s, [])
  | act :: acts =>
    let (s, change) := s.perform C act
    let (s, changes) := s.performAll acts
    (s, change.toList ++ changes)

end Carrier

end Latch

end RangeSurvey
