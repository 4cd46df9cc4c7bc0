import RangeSurvey.Bytes
import RangeSurvey.Row

/-!
# Survey frames

The frame that carries one station's row to everybody else. A header of 21 bytes names the
network, the sender, the cell, the round and the sender's slot, and says which peers the sender
has a distance to; the packed distances follow. Taking a frame apart only needs the header to be
there. Whether the rest makes sense is for the receiver to say, who tells the reasons apart.
-/

namespace RangeSurvey

def networkId : UInt16 := 0xDECA

/-- A data frame with two-byte addresses, as used for ranging traffic. -/
def rangingControl : UInt16 := 0x8841

def everybody : UInt16 := 0xFFFF

/-- The code that tells a survey frame from other ranging traffic. -/
def surveyCode : UInt8 := 0x31

structure Frame where
  network : UInt16
  control : UInt16
  destination : UInt16
  source : UInt16
  code : UInt8
  cell : UInt16
  round : UInt32
  slot : UInt16
  peers : PeerSet
  /-- What follows the header. -/
  payload : List UInt8
deriving DecidableEq, Repr

namespace Frame

def headerLength : Nat := 21

def distanceLength : Nat := 4

def lengthFor (count : Nat) : Nat := headerLength + count * distanceLength

def maxLength (nodes : Nat) : Nat := lengthFor nodes

/-- The control field of a frame, which can be read before the header is complete. -/
def peekControl? : List UInt8 → Option UInt16
  | _ :: _ :: c₀ :: c₁ :: _ => some (Bytes.word16 c₀ c₁)
  | _ => none

/-- Takes a frame apart; there is none in fewer bytes than a header has. -/
def ofBytes? : List UInt8 → Option Frame
  | n₀ :: n₁ :: c₀ :: c₁ :: d₀ :: d₁ :: s₀ :: s₁ :: code :: e₀ :: e₁ :: r₀ :: r₁ :: r₂ :: r₃ ::
      i₀ :: i₁ :: p₀ :: p₁ :: p₂ :: p₃ :: payload =>
    some {
      network := Bytes.word16 n₀ n₁
      control := Bytes.word16 c₀ c₁
      destination := Bytes.word16 d₀ d₁
      source := Bytes.word16 s₀ s₁
      code
      cell := Bytes.word16 e₀ e₁
      round := Bytes.word32 r₀ r₁ r₂ r₃
      slot := Bytes.word16 i₀ i₁
      peers := PeerSet.ofWord (Bytes.word32 p₀ p₁ p₂ p₃)
      payload }
  | _ => none

def toBytes (f : Frame) : List UInt8 :=
  Bytes.ofWord16 f.network ++ Bytes.ofWord16 f.control ++ Bytes.ofWord16 f.destination ++
    Bytes.ofWord16 f.source ++ [f.code] ++ Bytes.ofWord16 f.cell ++ Bytes.ofWord32 f.round ++
    Bytes.ofWord16 f.slot ++ Bytes.ofWord32 f.peers.toWord ++ f.payload

def length (f : Frame) : Nat := headerLength + f.payload.length

def isComplete (f : Frame) : Bool := lengthFor f.peers.count ≤ f.length

/-- The announced distances, as many of them as the payload holds. -/
def distances (f : Frame) : List Distance := (Bytes.words32 f.payload).take f.peers.count

/-- The frame by which the station `source` of a cell announces its row of a round. -/
def announcement (source cell : UInt16) (round : UInt32) (slot : UInt16) (peers : PeerSet)
    (distances : List Distance) : Frame where
  network := networkId
  control := rangingControl
  destination := everybody
  source
  code := surveyCode
  cell
  round
  slot
  peers
  payload := Bytes.ofWords32 distances

/-- A frame is read back from its bytes. -/
theorem ofBytes?_toBytes (f : Frame) : ofBytes? f.toBytes = some f := by
  have h : PeerSet.ofWord f.peers.toWord = f.peers := rfl
  simp only [toBytes, Bytes.ofWord16, Bytes.ofWord32, List.cons_append, List.nil_append, ofBytes?,
    Bytes.word16_ofWord16, Bytes.word32_ofWord32, h]

end Frame

end RangeSurvey
