import RangeSurvey.Air.Medium

/-!
# The generator of the simulation

Its state is one 64-bit word. A draw adds an odd constant to the state and folds the 128-bit product
of the state with a scrambled copy of itself.
-/

namespace RangeSurvey

namespace Wyrand

/-- The two halves of a 128-bit product, laid over each other. -/
def fold (a b : UInt64) : UInt64 :=
  let product := a.toNat * b.toNat
  UInt64.ofNat (product >>> 64) ^^^ UInt64.ofNat product

def word (state : UInt64) : UInt32 := (fold state (state ^^^ 0xe7037ed1a0b428db)).toUInt32

end Wyrand

def wyrand (seed : UInt64) : Random where
  words n := Wyrand.word (seed + UInt64.ofNat (n + 1) * 0xa0761d6478bd642f)

def Medium.ofPositions : List Point → MediumSettings → Medium := Medium.seeded wyrand

end RangeSurvey
