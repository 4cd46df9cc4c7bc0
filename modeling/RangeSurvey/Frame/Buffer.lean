import RangeSurvey.Frame

/-!
# Writing frames into a buffer that is used again

A station keeps one buffer for all the frames it will ever send. The fields that never change are
written once; before every transmission the fields of the round and the distances are written
over those of the frame before.
-/

namespace RangeSurvey.Frame

/-- The fields at the front of the header, which do not change from one frame to the next. -/
def fixedFields (source cell : UInt16) : List UInt8 :=
  Bytes.ofWord16 networkId ++ Bytes.ofWord16 rangingControl ++ Bytes.ofWord16 everybody ++
    Bytes.ofWord16 source ++ [surveyCode] ++ Bytes.ofWord16 cell

def roundOffset : Nat := 11

def roundFields (round : UInt32) (slot : UInt16) (peers : PeerSet) (distances : List Distance) :
    List UInt8 :=
  Bytes.ofWord32 round ++ Bytes.ofWord16 slot ++ Bytes.ofWord32 peers.toWord ++
    Bytes.ofWords32 distances

def writeFixed (buffer : List UInt8) (source cell : UInt16) : List UInt8 :=
  Bytes.splice buffer 0 (fixedFields source cell)

/-- The buffer with a row written into it and the length of the frame that it now starts with, or
nothing when the frame does not fit. -/
def writeRound? (buffer : List UInt8) (round : UInt32) (slot : UInt16) (peers : PeerSet)
    (distances : List Distance) : Option (List UInt8 × Nat) :=
  if buffer.length < lengthFor distances.length then none
  else some (Bytes.splice buffer roundOffset (roundFields round slot peers distances),
    lengthFor distances.length)

end RangeSurvey.Frame
