import RangeSurvey.Latch
import RangeSurvey.Settling

/-!
# Waiting for the latch

A latch together with the acquisitions that have been started and have not succeeded yet. Starting
one takes nothing; it takes the token when somebody looks at it while the token is there. Giving
one up takes it off the list and nothing else.
-/

namespace RangeSurvey.Latch

structure Waiters where
  latch : Latch := .available
  /-- The acquisitions under way, in the order in which they were started. -/
  pending : List Nat := []
deriving DecidableEq, Repr

namespace Waiters

def take (w : Waiters) : Waiters × Bool :=
  let (latch, taken) := w.latch.take
  ({ w with latch }, taken)

def putBack (w : Waiters) : Waiters × Bool :=
  let (latch, wasHeld) := w.latch.putBack
  ({ w with latch }, wasHeld)

def start (w : Waiters) (id : Nat) : Waiters := { w with pending := w.pending ++ [id] }

def poll (id : Nat) (w : Waiters) : Waiters × Option Unit :=
  if id ∈ w.pending then
    match w.latch.take with
    | (latch, true) => (⟨latch, w.pending.erase id⟩, some ())
    | (_, false) => (w, none)
  else (w, none)

/-- Gives an acquisition up; the answer says whether it was still waiting. -/
def drop (w : Waiters) (id : Nat) : Waiters × Bool :=
  ({ w with pending := w.pending.erase id }, w.pending.contains id)

def settle (w : Waiters) : Waiters × List Nat :=
  let (w, done) := RangeSurvey.settle poll pending w
  (w, done.map Prod.fst)

inductive Act where
  | take
  | putBack
  | start (id : Nat)
  | poll (id : Nat)
  | drop (id : Nat)
deriving DecidableEq, Repr

inductive Change where
  | taken
  | returned
deriving DecidableEq, Repr

/-- Does one thing. The token may change hands by it. -/
def perform (w : Waiters) : Act → Waiters × Option Change
  | .take =>
    let (w, taken) := w.take
    (w, if taken then some .taken else none)
  | .putBack =>
    let (w, wasHeld) := w.putBack
    (w, if wasHeld then some .returned else none)
  | .start id => (w.start id, none)
  | .poll id =>
    let (w, done) := poll id w
    (w, done.map fun _ => .taken)
  | .drop id => ((w.drop id).1, none)

def performAll (w : Waiters) : List Act → Waiters × List Change
  | [] => (w, [])
  | act :: acts =>
    let (w, change) := w.perform act
    let (w, changes) := w.performAll acts
    (w, change.toList ++ changes)

end Waiters

end RangeSurvey.Latch
