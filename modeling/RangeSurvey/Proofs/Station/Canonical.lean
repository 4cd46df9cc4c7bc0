import RangeSurvey.Proofs.Frame.Rewriting
import RangeSurvey.Proofs.Station.Frames

/-!
# Writing an accepted frame again

A frame that a station takes is the frame that a sender of the survey would have written, from the
control field on: writing what was read from it gives its bytes back. The field before, which names
the network, is the one that nobody looks at.
-/

namespace RangeSurvey

namespace Bytes

theorem take_append_byte {bytes : List UInt8} {n : Nat} (h : n < bytes.length) :
    bytes.take n ++ [bytes.getD n 0] = bytes.take (n + 1) := by
  rw [List.take_succ_eq_append_getElem h, List.getD_eq_getElem?_getD, List.getElem?_eq_getElem h]
  rfl

/-- The word at an offset stands behind the bytes before it. -/
theorem take_append_word16At {bytes : List UInt8} {n : Nat} (h : n + 2 ≤ bytes.length) :
    bytes.take n ++ ofWord16 (word16At bytes n) = bytes.take (n + 2) := by
  rw [word16At, ofWord16_word16, ← take_append_byte (show n + 1 < bytes.length by omega),
    ← take_append_byte (show n < bytes.length by omega), List.append_assoc]
  rfl

theorem take_append_word32At {bytes : List UInt8} {n : Nat} (h : n + 4 ≤ bytes.length) :
    bytes.take n ++ ofWord32 (word32At bytes n) = bytes.take (n + 4) := by
  rw [word32At, ofWord32_word32, ← take_append_byte (show n + 3 < bytes.length by omega),
    ← take_append_byte (show n + 2 < bytes.length by omega),
    ← take_append_byte (show n + 1 < bytes.length by omega),
    ← take_append_byte (show n < bytes.length by omega)]
  simp only [List.append_assoc]
  rfl

/-- The first words give back the bytes that they were read from. -/
theorem ofWords32_take_words32 {bytes : List UInt8} {count : Nat} (h : 4 * count ≤ bytes.length) :
    ofWords32 ((words32 bytes).take count) = bytes.take (4 * count) := by
  rw [take_words32 h]
  induction count with
  | zero => rfl
  | succ count ih =>
    rw [List.range_succ, List.map_append, ofWords32, List.flatMap_append]
    change ofWords32 _ ++ ofWord32 (word32At bytes (4 * count)) = bytes.take (4 * count + 4)
    rw [ih (by omega), take_append_word32At (by omega)]

theorem ofWord16_inj {v w : UInt16} : ofWord16 v = ofWord16 w ↔ v = w := by
  constructor
  · intro h
    obtain ⟨low, rest⟩ := List.cons.inj h
    rw [← word16_ofWord16 v, ← word16_ofWord16 w, low, (List.cons.inj rest).1]
  · rintro rfl
    rfl

end Bytes

namespace Frame

open Bytes

def behindNetwork (f : Frame) : List UInt8 :=
  ofWord16 f.control ++ ofWord16 f.destination ++ ofWord16 f.source ++ [f.code] ++
    ofWord16 f.cell ++ ofWord32 f.round ++ ofWord16 f.slot ++ ofWord32 f.peers.toWord ++ f.payload

theorem toBytes_eq (f : Frame) : f.toBytes = ofWord16 f.network ++ f.behindNetwork := by
  simp only [toBytes, behindNetwork, List.append_assoc]

/-- A frame that was taken apart, put together again with another payload. -/
theorem toBytes_read {bytes : List UInt8} (h : headerLength ≤ bytes.length) (payload : List UInt8) :
    { read bytes with payload }.toBytes = bytes.take headerLength ++ payload := by
  simp only [headerLength] at h ⊢
  have network : ofWord16 (word16At bytes 0) = bytes.take 2 :=
    take_append_word16At (n := 0) (by omega)
  have peers : (PeerSet.ofWord (word32At bytes 17)).toWord = word32At bytes 17 := rfl
  simp only [toBytes, read, peers]
  rw [network, take_append_word16At (by omega), take_append_word16At (by omega),
    take_append_word16At (by omega), take_append_byte (by omega), take_append_word16At (by omega),
    take_append_word32At (by omega), take_append_word16At (by omega),
    take_append_word32At (by omega)]

/-- The header and the distances that it announces are put together again. -/
theorem take_eq_toBytes {bytes : List UInt8}
    (complete : 21 + 4 * (read bytes).peers.count ≤ bytes.length) :
    bytes.take (21 + 4 * (read bytes).peers.count) =
      { read bytes with payload := ofWords32 (read bytes).distances }.toBytes := by
  have inside : 4 * (read bytes).peers.count ≤ (bytes.drop headerLength).length := by
    rw [List.length_drop, headerLength]
    omega
  rw [toBytes_read (by rw [headerLength]; omega), distances,
    show (read bytes).payload = bytes.drop headerLength from rfl, ofWords32_take_words32 inside,
    List.take_add]
  rfl

/-- The bytes of a frame that a survey sends to everybody, as far as its header and the distances
that it announces go. -/
structure IsSurvey (bytes : List UInt8) : Prop where
  control : word16At bytes 2 = 0x8841
  destination : word16At bytes 4 = 0xFFFF
  code : bytes.getD 8 0 = 0x31
  complete : 21 + 4 * (read bytes).peers.count ≤ bytes.length

/-- Behind the network stands what a sender would have written. -/
theorem IsSurvey.behindNetwork_eq {bytes : List UInt8} (survey : IsSurvey bytes) :
    { read bytes with payload := ofWords32 (read bytes).distances }.behindNetwork =
      (announcement (read bytes).source (read bytes).cell (read bytes).round (read bytes).slot
        (read bytes).peers (read bytes).distances).behindNetwork := by
  simp only [behindNetwork, announcement]
  rw [show (read bytes).control = rangingControl from survey.control,
    show (read bytes).destination = everybody from survey.destination,
    show (read bytes).code = surveyCode from survey.code]

/-- A row with room goes into a buffer that holds no more than the fixed fields. -/
theorem Writing.into?_writeFixed {w : Writing} {buffer : List UInt8}
    (room : w.length ≤ buffer.length) (source cell : UInt16) :
    ∃ written, w.into? (writeFixed buffer source cell) = some (written, w.length) ∧
      written.take w.length =
        (announcement source cell w.round w.slot w.peers w.distances).toBytes := by
  have header : headerLength ≤ buffer.length := Nat.le_trans (Nat.le_add_right _ _) room
  have fits : w.length ≤ (writeFixed buffer source cell).length := by
    rw [length_writeFixed header]
    exact room
  obtain ⟨written, into, -⟩ := Draft.write_of_room (d := Draft.fresh buffer source cell) fits
  exact ⟨written, into, (take_writeRound? (take_writeFixed buffer source cell) into).1⟩

/-- Writing into any buffer with room what was read from a survey frame. -/
theorem IsSurvey.written {bytes buffer : List UInt8} (survey : IsSurvey bytes)
    (room : 21 + 4 * (read bytes).peers.count ≤ buffer.length) :
    ∃ written, writeRound? (writeFixed buffer (read bytes).source (read bytes).cell)
        (read bytes).round (read bytes).slot (read bytes).peers (read bytes).distances =
          some (written, 21 + 4 * (read bytes).peers.count) ∧
      written.take (21 + 4 * (read bytes).peers.count) =
        (announcement (read bytes).source (read bytes).cell (read bytes).round (read bytes).slot
          (read bytes).peers (read bytes).distances).toBytes := by
  have announced := survey.complete
  have enough : (read bytes).distances.length = (read bytes).peers.count := by
    rw [distances, List.length_take, length_words32,
      show (read bytes).payload = bytes.drop headerLength from rfl, List.length_drop, headerLength]
    omega
  have rewriting := Writing.into?_writeFixed
    (w := ⟨(read bytes).round, (read bytes).slot, (read bytes).peers, _, enough⟩) room
    (read bytes).source (read bytes).cell
  simpa only [Writing.into?, Writing.length] using rewriting

/-- Bytes that differ from what a sender would have written differ in the network. -/
theorem IsSurvey.take_eq_iff {bytes written : List UInt8} (survey : IsSurvey bytes)
    (h : written.take (21 + 4 * (read bytes).peers.count) =
      (announcement (read bytes).source (read bytes).cell (read bytes).round (read bytes).slot
        (read bytes).peers (read bytes).distances).toBytes) :
    (written.take (21 + 4 * (read bytes).peers.count)).drop 2 =
        (bytes.take (21 + 4 * (read bytes).peers.count)).drop 2 ∧
      (written.take (21 + 4 * (read bytes).peers.count) =
        bytes.take (21 + 4 * (read bytes).peers.count) ↔ (read bytes).network = networkId) := by
  rw [h, take_eq_toBytes survey.complete, toBytes_eq, toBytes_eq, survey.behindNetwork_eq]
  constructor
  · rw [List.drop_left' (length_ofWord16 _), List.drop_left' (length_ofWord16 _)]
  · rw [List.append_left_inj, ofWord16_inj]
    exact eq_comm

end Frame

namespace Site

open RangeSurvey.Frame

/-- Bytes that a station takes for a row are those that a rewriting of their fields gives, from the
control field on. The network in front is the only thing that it does not ask for. -/
theorem handled_rewritten {H : Type} [Hardware H] (hardware : H) (actions : List (Action H))
    {site : Site H} {id : Nat} {s : Station} {bytes : List UInt8}
    (passes : (({ hardware } : Site H).performAll actions).Passes site)
    (hs : site.stations[id]? = some s)
    (handled : (s.hear (.received bytes)).verdict = .handled) :
    ∃ f, ofBytes? bytes = some f ∧ f.control = 0x8841 ∧ f.destination = 0xFFFF ∧ f.code = 0x31 ∧
      f.cell = s.identity.cell ∧ f.round = s.round ∧
      21 + 4 * f.peers.count ≤ bytes.length ∧
      ∀ buffer : List UInt8, 21 + 4 * f.peers.count ≤ buffer.length →
        ∃ written, writeRound? (writeFixed buffer f.source f.cell) f.round f.slot f.peers
            f.distances = some (written, 21 + 4 * f.peers.count) ∧
          (written.take (21 + 4 * f.peers.count)).drop 2 =
            (bytes.take (21 + 4 * f.peers.count)).drop 2 ∧
          (written.take (21 + 4 * f.peers.count) = bytes.take (21 + 4 * f.peers.count) ↔
            f.network = 0xDECA) := by
  have sound : s.Sound := Passes.sound ((performAll_passes _ actions).trans passes) hs
  obtain ⟨-, ranging, long, concerns, fits⟩ := (sound.classified bytes).1.mp handled
  have survey : IsSurvey bytes :=
    ⟨ranging.2, concerns.destination, concerns.code, fits.complete⟩
  refine ⟨read bytes, ?_, survey.control, survey.destination, survey.code, concerns.cell,
    concerns.round, survey.complete, ?_⟩
  · rw [ofBytes?_eq, if_pos (show headerLength ≤ bytes.length from long)]
  · intro buffer room
    obtain ⟨written, into, front⟩ := survey.written room
    obtain ⟨behind, whole⟩ := survey.take_eq_iff front
    exact ⟨written, into, behind, whole⟩

/-- The station that waits takes the row of its neighbour, whose bytes are those of a sender. -/
theorem handled_rewritten_awaiting :
    ∃ s, (({ hardware := oneAnswer } : Site Bench).performAll awaiting).stations[0]? = some s ∧
      (s.hear (.received answer)).verdict = .handled ∧
      ∃ f, ofBytes? answer = some f ∧ f.network = 0xDECA ∧
        ∃ written, writeRound? (writeFixed (List.replicate 29 0) f.source f.cell) f.round f.slot
            f.peers f.distances = some (written, 25) ∧
          written.take 25 = answer.take 25 := by
  have verdict : ((({ hardware := oneAnswer } : Site Bench).performAll awaiting).stations[0]?).map
      (fun s => (s.hear (.received answer)).verdict) = some .handled := by decide +kernel
  obtain ⟨s, hs, handled⟩ := Option.map_eq_some_iff.mp verdict
  obtain ⟨f, parsed, -, -, -, -, -, -, rewritten⟩ :=
    handled_rewritten oneAnswer awaiting (Does.refl _ _) hs handled
  have fields : f = Frame.announcement 0x101 12 0 1 ⟨1#32⟩ [5] :=
    Option.some.inj (parsed.symm.trans (ofBytes?_toBytes _))
  subst fields
  obtain ⟨written, into, -, whole⟩ := rewritten (List.replicate 29 0) (by decide)
  exact ⟨s, hs, handled, _, parsed, rfl, written, into, whole.mpr rfl⟩

/-- The row of station 1 with the number of another network in front. -/
def strayFrame : Frame := { Frame.announcement 0x101 12 0 1 ⟨1#32⟩ [5] with network := 0x1234 }

/-- A station takes the row from another network too, and no sender writes its bytes. -/
theorem stray_handled :
    ∃ s, (({ hardware := oneAnswer } : Site Bench).performAll awaiting).stations[0]? = some s ∧
      (s.hear (.received strayFrame.toBytes)).verdict = .handled ∧
      ofBytes? strayFrame.toBytes = some strayFrame ∧ strayFrame.network ≠ 0xDECA ∧
      ∀ buffer written length, writeRound? (writeFixed buffer strayFrame.source strayFrame.cell)
          strayFrame.round strayFrame.slot strayFrame.peers strayFrame.distances =
            some (written, length) →
        written.take length ≠ strayFrame.toBytes.take length := by
  have verdict : ((({ hardware := oneAnswer } : Site Bench).performAll awaiting).stations[0]?).map
      (fun s => (s.hear (.received strayFrame.toBytes)).verdict) = some .handled := by
    decide +kernel
  obtain ⟨s, hs, handled⟩ := Option.map_eq_some_iff.mp verdict
  refine ⟨s, hs, handled, ofBytes?_toBytes _, by decide, ?_⟩
  intro buffer written length into same
  have front : strayFrame.toBytes.take length = answer := by
    rw [← same]
    exact (take_writeRound? (take_writeFixed buffer _ _) into).1
  have begins : answer <+: strayFrame.toBytes := front ▸ List.take_prefix length _
  exact absurd begins (by decide)

end Site

end RangeSurvey
