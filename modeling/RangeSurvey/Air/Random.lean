/-!
# Random numbers

A generator is known by the words that it draws, one after the other.
-/

namespace RangeSurvey

structure Random where
  words : Nat → UInt32
  /-- How many of them have been drawn. -/
  drawn : Nat := 0

def Random.next32 (r : Random) : Random × UInt32 :=
  ({ r with drawn := r.drawn + 1 }, r.words r.drawn)

end RangeSurvey
