/-!
# The completion latch

A single token that ties a step to the radio event which ends it. A step takes the token before it
arms the radio and takes it a second time to wait: that succeeds only after somebody has put the
token back in between. Putting it back while it is there changes nothing, which is how a handler
tells an expected event from a stray one.
-/

namespace RangeSurvey

inductive Latch where
  /-- The token is there: nobody waits for the radio. -/
  | available
  /-- The token is taken: a step has armed the radio and waits. -/
  | held
deriving DecidableEq, Repr

namespace Latch

def isAvailable (l : Latch) : Bool := l == available

def count : Latch → Nat
  | available => 1
  | held => 0

/-- Takes the token if it is there, and says whether it was. -/
def take : Latch → Latch × Bool
  | available => (held, true)
  | held => (held, false)

/-- Puts the token back unless it is there already, and says whether it had been taken. -/
def putBack : Latch → Latch × Bool
  | available => (available, false)
  | held => (available, true)

@[simp] theorem take_fst (l : Latch) : l.take.1 = held := by cases l <;> rfl

@[simp] theorem putBack_fst (l : Latch) : l.putBack.1 = available := by cases l <;> rfl

end Latch

end RangeSurvey
