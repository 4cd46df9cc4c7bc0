import RangeSurvey.Frame.Buffer

/-!
# Where the fields of a frame stand

Every field of a frame can be read at its offset. Taking a frame apart reads the fields there, and
the announced distances follow the header, one word each.
-/

namespace RangeSurvey

namespace Bytes

/-- The word of two bytes at an offset, bytes beyond the end counting as zero. -/
def word16At (bytes : List UInt8) (offset : Nat) : UInt16 :=
  word16 (bytes.getD offset 0) (bytes.getD (offset + 1) 0)

def word32At (bytes : List UInt8) (offset : Nat) : UInt32 :=
  word32 (bytes.getD offset 0) (bytes.getD (offset + 1) 0) (bytes.getD (offset + 2) 0)
    (bytes.getD (offset + 3) 0)

theorem word32At_drop (bytes : List UInt8) (start offset : Nat) :
    word32At (bytes.drop start) offset = word32At bytes (start + offset) := by
  simp only [word32At, List.getD_eq_getElem?_getD, List.getElem?_drop, Nat.add_assoc]

/-- Word number `k` stands behind `k` words. -/
theorem getElem?_words32 {bytes : List UInt8} {k : Nat} (h : 4 * k + 4 ≤ bytes.length) :
    (words32 bytes)[k]? = some (word32At bytes (4 * k)) := by
  induction k generalizing bytes with
  | zero =>
    rcases bytes with _ | ⟨b₀, _ | ⟨b₁, _ | ⟨b₂, _ | ⟨b₃, rest⟩⟩⟩⟩
    case cons.cons.cons.cons => rfl
    all_goals simp at h
  | succ k ih =>
    rcases bytes with _ | ⟨b₀, _ | ⟨b₁, _ | ⟨b₂, _ | ⟨b₃, rest⟩⟩⟩⟩
    case cons.cons.cons.cons =>
      have inside : 4 * k + 4 ≤ rest.length := by
        simp only [List.length_cons] at h
        omega
      have shift : word32At (b₀ :: b₁ :: b₂ :: b₃ :: rest) (4 * (k + 1)) =
          word32At rest (4 * k) := by
        have behind := word32At_drop (b₀ :: b₁ :: b₂ :: b₃ :: rest) 4 (4 * k)
        rw [show 4 * (k + 1) = 4 + 4 * k by omega, ← behind]
        rfl
      rw [words32, List.getElem?_cons_succ, ih inside, shift]
    all_goals simp at h

/-- The first words, read one by one. -/
theorem take_words32 {bytes : List UInt8} {count : Nat} (h : 4 * count ≤ bytes.length) :
    (words32 bytes).take count = (List.range count).map fun k => word32At bytes (4 * k) := by
  apply List.ext_getElem?
  intro k
  rcases Nat.lt_or_ge k count with inside | outside
  · rw [List.getElem?_take_of_lt inside, getElem?_words32 (by omega), List.getElem?_map,
      List.getElem?_range inside, Option.map_some]
  · rw [List.getElem?_eq_none, List.getElem?_eq_none]
    · rw [List.length_map, List.length_range]
      exact outside
    · exact Nat.le_trans (List.length_take_le _ _) outside

end Bytes

namespace Frame

open Bytes

/-- The frame whose fields stand at their offsets. -/
def read (bytes : List UInt8) : Frame where
  network := word16At bytes 0
  control := word16At bytes 2
  destination := word16At bytes 4
  source := word16At bytes 6
  code := bytes.getD 8 0
  cell := word16At bytes 9
  round := word32At bytes 11
  slot := word16At bytes 15
  peers := PeerSet.ofWord (word32At bytes 17)
  payload := bytes.drop headerLength

theorem peekControl?_eq (bytes : List UInt8) :
    peekControl? bytes = if 4 ≤ bytes.length then some (word16At bytes 2) else none := by
  rcases bytes with _ | ⟨b₀, _ | ⟨b₁, _ | ⟨b₂, _ | ⟨b₃, rest⟩⟩⟩⟩
  case cons.cons.cons.cons => simp [peekControl?, word16At]
  all_goals rfl

/-- A frame can be taken apart when its header is complete, and then it is what stands at the
offsets. -/
theorem ofBytes?_eq (bytes : List UInt8) :
    ofBytes? bytes = if headerLength ≤ bytes.length then some (read bytes) else none := by
  split
  · next h =>
    simp only [headerLength] at h
    -- The header is taken off byte by byte; what is left is the payload.
    iterate 21
      obtain _ | ⟨_, bytes⟩ := bytes
      · simp at h
    rfl
  · next h =>
    simp only [ofBytes?]
    split
    · simp [headerLength] at h
    · rfl

theorem length_read {bytes : List UInt8} (h : headerLength ≤ bytes.length) :
    (read bytes).length = bytes.length := by
  simp only [length, read, List.length_drop]
  omega

/-- The announced distances follow the header. -/
theorem distances_read {bytes : List UInt8} (h : headerLength ≤ bytes.length)
    (complete : (read bytes).isComplete = true) :
    (read bytes).distances =
      (List.range (read bytes).peers.count).map fun k => word32At bytes (headerLength + 4 * k) := by
  have room : 4 * (read bytes).peers.count ≤ (bytes.drop headerLength).length := by
    simp only [isComplete, length_read h, decide_eq_true_eq, lengthFor, distanceLength] at complete
    rw [List.length_drop]
    omega
  rw [distances, show (read bytes).payload = bytes.drop headerLength from rfl, take_words32 room]
  simp only [word32At_drop]

/-- The fixed fields are read back as they were written, whatever follows them. -/
theorem read_fixedFields (source cell : UInt16) (rest : List UInt8) :
    (read (fixedFields source cell ++ rest)).network = networkId ∧
      (read (fixedFields source cell ++ rest)).control = rangingControl ∧
      (read (fixedFields source cell ++ rest)).destination = everybody ∧
      (read (fixedFields source cell ++ rest)).source = source ∧
      (read (fixedFields source cell ++ rest)).code = surveyCode ∧
      (read (fixedFields source cell ++ rest)).cell = cell :=
  ⟨word16_ofWord16 _, word16_ofWord16 _, word16_ofWord16 _, word16_ofWord16 _, rfl,
    word16_ofWord16 _⟩

end Frame

end RangeSurvey
