import RangeSurvey.Row

/-!
# Positions and distances

Positions in the plane, in single precision. Every operation rounds on its own, so that a distance
is a definite bit pattern.
-/

namespace RangeSurvey

/-- A position; the coordinates are kept as bit patterns. -/
structure Point where
  x : UInt32
  y : UInt32
deriving DecidableEq, Repr

namespace Point

def distance (p q : Point) : Distance :=
  let dx := Float32.ofBits p.x - Float32.ofBits q.x
  let dy := Float32.ofBits p.y - Float32.ofBits q.y
  (dx * dx + dy * dy).sqrt.toBits

end Point

namespace Distance

/-- No further than `range`. What is not a number is within no range, and nothing is within a range
that is not a number. -/
def within (d range : Distance) : Bool := Float32.ofBits d ≤ Float32.ofBits range

def isNaN (d : Distance) : Bool := (Float32.ofBits d).isNaN

def infinite : Distance := 0x7f800000

end Distance

end RangeSurvey
