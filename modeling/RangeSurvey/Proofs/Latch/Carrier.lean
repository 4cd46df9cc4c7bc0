import RangeSurvey.Latch.Carrier
import RangeSurvey.Proofs.Latch.Alternation

/-!
# The latch that a channel makes

A channel with room for one message, into which one has been put at the start, is a latch: whatever
it does to wake those who wait, every act has the answer that it has at the latch, and as many
tokens are there. So what is known of the latch holds of every such channel.
-/

namespace RangeSurvey.Latch

universe u

namespace Carrier

open Waiters (Act Change)

variable {κ : Type u} {C : Channel κ Unit 1} {s : Carrier κ} {w : Waiters} {c : κ} {l : Latch}

/-- The channel and the latch look the same from outside. -/
structure Shows (C : Channel κ Unit 1) (s : Carrier κ) (w : Waiters) : Prop where
  count : s.count C = w.latch.count
  available : s.isAvailable C = w.latch.isAvailable
  pending : s.pending = w.pending

/-! ## One act -/

theorem shows_of_count (count : s.count C = w.latch.count) (pending : s.pending = w.pending) :
    Shows C s w where
  count := count
  available := by
    rw [isAvailable, C.isFull_eq, ← Bool.coe_iff_coe, decide_eq_true_iff, isAvailable_iff_count,
      ← count, Carrier.count, C.length_eq]
  pending := pending

theorem length_eq_count (same : C.length c = l.count) : (C.messages c).length = l.count :=
  (C.length_eq c).symm.trans same

/-- A message is received where the token is taken. -/
theorem received_eq {result : κ × Option Unit} (same : C.length c = l.count)
    (received : result.2 = (C.messages c).head? ∧ C.messages result.1 = (C.messages c).tail) :
    result.2.isSome = l.take.2 ∧ C.length result.1 = l.take.1.count := by
  obtain ⟨answer, rest⟩ := received
  have length := length_eq_count same
  rw [C.length_eq, rest, List.length_tail, length, answer]
  cases l with
  | held =>
    rw [List.length_eq_zero_iff.mp length]
    exact ⟨rfl, rfl⟩
  | available =>
    obtain ⟨token, only⟩ := List.length_eq_one_iff.mp length
    rw [only]
    exact ⟨rfl, rfl⟩

/-- A message is sent where the token is put back. -/
theorem sent_eq (same : C.length c = l.count) :
    (C.trySend () c).2 = l.putBack.2 ∧ C.length (C.trySend () c).1 = l.putBack.1.count := by
  have length := length_eq_count same
  cases l with
  | available =>
    rw [C.refuses () c (Nat.le_of_eq length.symm)]
    exact ⟨rfl, same⟩
  | held =>
    obtain ⟨sent, one⟩ := C.sends () c (Nat.lt_of_le_of_lt (Nat.le_of_eq length) Nat.zero_lt_one)
    refine ⟨sent, ?_⟩
    rw [C.length_eq, one, List.length_append, length]
    rfl

theorem perform_shows (shows : Shows C s w) (act : Act) :
    Shows C (s.perform C act).1 (w.perform act).1 ∧
      (s.perform C act).2 = (w.perform act).2 := by
  cases act with
  | take =>
    obtain ⟨received, one⟩ := received_eq shows.count (C.receives s.channel)
    exact ⟨shows_of_count one shows.pending, by simp only [perform, received]; rfl⟩
  | putBack =>
    obtain ⟨sent, one⟩ := sent_eq shows.count
    exact ⟨shows_of_count one shows.pending, by simp only [perform, sent]; rfl⟩
  | start id => exact ⟨shows_of_count shows.count (congrArg (· ++ [id]) shows.pending), rfl⟩
  | drop id => exact ⟨shows_of_count shows.count (congrArg (·.erase id) shows.pending), rfl⟩
  | poll id =>
    obtain ⟨received, one⟩ := received_eq shows.count (C.polls id s.channel)
    rw [Waiters.perform_poll, perform]
    by_cases waiting : id ∈ w.pending
    · rw [if_pos (shows.pending ▸ waiting)]
      cases there : w.latch with
      | available =>
        rw [there] at received one
        simp only [received, Latch.take, if_true, waiting, and_true]
        exact shows_of_count one (congrArg (·.erase id) shows.pending)
      | held =>
        rw [there] at received one
        simp only [received, Latch.take, reduceCtorEq, and_false, if_false, and_true]
        exact shows_of_count (by rw [there]; exact one) shows.pending
    · rw [if_neg (shows.pending ▸ waiting), if_neg fun gets => waiting gets.1]
      exact ⟨shows, rfl⟩

/-! ## Runs -/

theorem fresh_shows (C : Channel κ Unit 1) : Shows C (fresh C) {} := by
  have empty : C.length C.new = 0 := by rw [C.length_eq, C.messages_new, List.length_nil]
  obtain ⟨-, one⟩ := sent_eq (l := .held) empty
  exact shows_of_count one rfl

theorem performAll_cons (s : Carrier κ) (act : Act) (acts : List Act) :
    s.performAll C (act :: acts) = (((s.perform C act).1.performAll C acts).1,
      (s.perform C act).2.toList ++ ((s.perform C act).1.performAll C acts).2) := rfl

theorem performAll_shows (shows : Shows C s w) (acts : List Act) :
    Shows C (s.performAll C acts).1 (w.performAll acts).1 ∧
      (s.performAll C acts).2 = (w.performAll acts).2 := by
  induction acts generalizing s w with
  | nil => exact ⟨shows, rfl⟩
  | cons act acts ih =>
    obtain ⟨after, change⟩ := perform_shows shows act
    obtain ⟨final, changes⟩ := ih after
    rw [performAll_cons, Waiters.performAll_cons, change, changes]
    exact ⟨final, rfl⟩

/-- A channel that has the token in it refuses another one and stays as it is. -/
theorem perform_putBack_refused (shows : Shows C s w) (there : w.latch.isAvailable = true) :
    s.perform C .putBack = (s, none) := by
  have full := (length_eq_count shows.count).trans (isAvailable_iff_count.mp there)
  simp only [perform, C.refuses () s.channel (Nat.le_of_eq full.symm)]
  rfl

/-- Whatever is done with the token of a latch and with acquisitions of it, a channel that carries it
has the answers of the latch, where the token changes hands by turns, taken first. -/
theorem token_by_turns (C : Channel κ Unit 1) (acts : List Act) :
    let s := (fresh C).performAll C acts
    let w := ({} : Waiters).performAll acts
    Shows C s.1 w.1 ∧ s.2 = w.2 ∧
      (s.1.isAvailable C = true → s.1.perform C .putBack = (s.1, none)) ∧
      w.1.Disciplined w.2 := by
  intro s w
  obtain ⟨shows, changes⟩ := performAll_shows (fresh_shows C) acts
  refine ⟨shows, changes, fun there => ?_, Waiters.disciplined_performAll acts⟩
  exact perform_putBack_refused shows (shows.available ▸ there)

/-- Two acquisitions wait for a token that is out. One is given up, the token comes back twice, and
the other one gets it. -/
def contended : List Act :=
  [.take, .start 1, .poll 1, .start 2, .poll 2, .drop 1, .putBack, .putBack, .poll 2, .take]

theorem token_by_turns_contended :
    let mailbox := Mailbox.channel Unit 1
    let s := (fresh mailbox).performAll mailbox contended
    s.1.count mailbox = 0 ∧ s.2 = [.taken, .returned, .taken] ∧
      ({} : Waiters).performAll contended = (⟨.held, []⟩, s.2) ∧
      Waiters.Disciplined ⟨.held, []⟩ [.taken, .returned, .taken] := by
  have run : ({} : Waiters).performAll contended =
      (⟨.held, []⟩, [.taken, .returned, .taken]) := by decide
  obtain ⟨shows, changes, -, disciplined⟩ := token_by_turns (Mailbox.channel Unit 1) contended
  rw [run] at shows changes disciplined
  exact ⟨shows.count, changes, run.trans (by rw [changes]), disciplined⟩

end Carrier

end RangeSurvey.Latch
