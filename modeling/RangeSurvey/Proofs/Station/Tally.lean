import RangeSurvey.Proofs.Site.Wait

/-!
# What a station tells about a step

The flags of the last step and the counters that go with them. A step clears the flags when it
begins. While it waits, the first event with an effect sets one of them at most, and nothing that a
station hears at any other time changes them.
-/

namespace RangeSurvey

/-- The flags of a step, and how often those that have a counter have been set. -/
structure Tally where
  nothingToSend : Bool
  invalidRow : Bool
  transmitFailed : Bool
  receiveFailed : Bool
  timedOut : Bool
  wasReset : Bool
  transmitFailures : Nat
  receiveFailures : Nat
  timeouts : Nat
  resets : Nat
deriving DecidableEq, Repr

namespace Tally

def clear (t : Tally) : Tally :=
  { t with
    nothingToSend := false
    invalidRow := false
    transmitFailed := false
    receiveFailed := false
    timedOut := false
    wasReset := false }

def after (t : Tally) : RadioEvent → Tally
  | .timedOut => { t with timedOut := true, timeouts := t.timeouts + 1 }
  | .reset => { t with wasReset := true, resets := t.resets + 1 }
  | _ => t

end Tally

/-- A station that waits waits no longer after it has taken an event for its own, or after a
reset. -/
def endsWait (heard : RadioEvent × Verdict) : Bool := heard.2 == .handled || heard.1 == .reset

namespace Station

def tally (s : Station) : Tally where
  nothingToSend := s.status.nothingToSend
  invalidRow := s.status.invalidRow
  transmitFailed := s.status.transmitFailed
  receiveFailed := s.status.receiveFailed
  timedOut := s.status.timedOut
  wasReset := s.status.wasReset
  transmitFailures := s.counters.transmitFailures
  receiveFailures := s.counters.receiveFailures
  timeouts := s.counters.timeouts
  resets := s.counters.resets

variable {s : Station}

theorem Alike.tally {s s' : Station} (h : s.Alike s') : s'.tally = s.tally := by
  obtain ⟨_, _, _, rfl⟩ := h
  rfl

/-- A station that tells of no flag has a status that tells nothing about a step. -/
theorem clearStep_of_tally {s t : Station} (same : t.tally = s.tally.clear) :
    t.status.clearStep = t.status := by
  simp only [tally, Tally.clear, Tally.mk.injEq] at same
  generalize t.status = status at same
  obtain ⟨empty, invalid, transmit, receive, timedOut, wasReset, -⟩ := same
  cases status
  simp_all [Status.clearStep]

/-! ## Events -/

/-- An event that ends a wait leaves its mark, and any other one leaves a waiting station alone. -/
theorem hear_tally (held : s.latch = .held) (event : RadioEvent) :
    (endsWait (event, (s.hear event).verdict) = true ∧
        (s.hear event).station.latch = .available ∧
        (s.hear event).station.tally = s.tally.after event) ∨
      (endsWait (event, (s.hear event).verdict) = false ∧ (s.hear event).station = s) := by
  cases event with
  | received bytes =>
    cases accepts : s.accepts? bytes with
    | some f =>
      left
      rw [hear, hearFrame_accepts held accepts]
      exact ⟨rfl, Latch.putBack_fst _, rfl⟩
    | none =>
      right
      obtain ⟨same, verdict⟩ := hearFrame_rejects held accepts
      rw [hear]
      exact ⟨by simpa [endsWait] using verdict, same⟩
  | sent => simp [hear, hearSent, held, Latch.putBack, endsWait, tally, Tally.after]
  | timedOut => simp [hear, hearTimeout, held, Latch.putBack, endsWait, tally, Tally.after]
  | reset => simp [hear, hearReset, held, Latch.putBack, endsWait, tally, Tally.after]

/-! ## Parts of steps -/

theorem beginRequest_tally (s : Station) : s.beginRequest.1.tally = s.tally.clear := rfl

theorem beginListen_tally (s : Station) : s.beginListen.tally = s.tally.clear := rfl

theorem beginReceive_tally (s : Station) : s.beginReceive.tally = s.tally.clear := rfl

theorem skipBroadcast_tally (s : Station) (b : Broadcast) :
    (s.skipBroadcast b).1.tally = s.tally := rfl

theorem failTransmit_tally (s : Station) : s.failTransmit.1.tally =
    { s.tally with transmitFailed := true, transmitFailures := s.tally.transmitFailures + 1 } := rfl

theorem failReceive_tally (s : Station) : s.failReceive.1.tally =
    { s.tally with receiveFailed := true, receiveFailures := s.tally.receiveFailures + 1 } := rfl

/-- What comes of the beginning of a broadcast: it depends on how many peers the row of the station
names whether there is anything to send, and whether that can be a row of the survey. -/
inductive Prepares (s : Station) : Station × Broadcast → Prop where
  | empty {s' : Station} {row : Row} : s.ownRow? = some row → row.peers.count = 0 →
      s'.latch = .held → s'.tally = { s.tally.clear with nothingToSend := true } →
      Prepares s (s', .empty)
  | invalid {s' : Station} {row : Row} : s.ownRow? = some row → row.peers.count = s.nodeCount →
      s'.latch = .held → s'.tally = { s.tally.clear with invalidRow := true } →
      Prepares s (s', .invalidRow row.peers.count)
  | frame {s' : Station} {row : Row} (length : Nat) : s.ownRow? = some row →
      row.peers.count ≠ 0 → row.peers.count ≠ s.nodeCount → s'.latch = .held →
      s'.tally = s.tally.clear → Prepares s (s', .frame length)

theorem Sound.prepares_broadcast (sound : s.Sound) : s.Prepares s.beginBroadcast := by
  obtain ⟨row, own, sane⟩ := sound.ownRow
  obtain ⟨-, room⟩ := sound.beginBroadcast_prepares
  have few : row.peers.count ≤ s.nodeCount := sane.count_le
  have same (counters : Counters) (latch : Latch) (status : Status) :
      ({ s with latch, counters, status } : Station).ownRow? = some row := own
  simp only [Station.beginBroadcast, prepare, same] at room ⊢
  split
  · next none => exact .empty own none (Latch.take_fst _) rfl
  next some =>
    split
    · next many => exact .invalid own (Nat.le_antisymm few many) (Latch.take_fst _) rfl
    next less =>
      rw [if_neg some, if_neg less] at room
      split
      · exact .frame _ own some (by omega) (Latch.take_fst _) rfl
      · next full =>
        rw [full] at room
        exact absurd rfl (room _)

end Station

end RangeSurvey
