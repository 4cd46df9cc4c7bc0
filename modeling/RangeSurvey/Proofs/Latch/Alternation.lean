import Mathlib.Data.List.Chain
import RangeSurvey.Latch.Waiters

/-!
# How the token changes hands

There is one token, so it is taken and put back by turns, and the count can be told from how often
each has happened. An acquisition takes the token only when somebody looks at it. One that is given
up while it waits has therefore made no difference, and while the token is there only those wait
that nobody has looked at since it came back.
-/

namespace RangeSurvey.Latch

def next : Latch → Waiters.Change
  | available => .taken
  | held => .returned

def turned : Latch → Latch
  | available => held
  | held => available

/-- What becomes of a latch when the token changes hands in this way, or does not. -/
inductive Passes : Latch → Option Waiters.Change → Latch → Prop where
  | kept (l : Latch) : Passes l none l
  | turned (l : Latch) : Passes l (some l.next) l.turned

/-- The token has changed hands by turns, and the latch has come from `l` to `l'` by it. -/
structure ByTurns (l : Latch) (changes : List Waiters.Change) (l' : Latch) : Prop where
  alternate : changes.IsChain (· ≠ ·)
  first : ∀ change ∈ changes.head?, change = l.next
  balance : l'.count + changes.count .taken = l.count + changes.count .returned

theorem isAvailable_iff {l : Latch} : l.isAvailable = true ↔ l = .available := beq_iff_eq

theorem isAvailable_iff_count {l : Latch} : l.isAvailable = true ↔ l.count = 1 := by
  cases l <;> decide

theorem count_zero_or_one (l : Latch) : l.count = 0 ∨ l.count = 1 := by
  cases l with
  | available => exact .inr rfl
  | held => exact .inl rfl

theorem next_turned_ne (l : Latch) : l.next ≠ l.turned.next := by cases l <;> decide

theorem count_turned (l : Latch) :
    l.turned.count + [l.next].count .taken = l.count + [l.next].count .returned := by
  cases l <;> rfl

namespace ByTurns

variable {l l' l'' : Latch} {changes : List Waiters.Change}

theorem nil (l : Latch) : ByTurns l [] l where
  alternate := .nil
  first := nofun
  balance := rfl

theorem turned (turns : ByTurns l.turned changes l') : ByTurns l (l.next :: changes) l' where
  alternate := turns.alternate.cons fun change first => by
    rw [turns.first change first]
    exact l.next_turned_ne
  first _ same := (Option.some.inj same).symm
  balance := by
    have before := turns.balance
    have now := l.count_turned
    rw [← List.singleton_append, List.count_append, List.count_append]
    omega

theorem cons {change : Option Waiters.Change} (passes : Passes l change l')
    (turns : ByTurns l' changes l'') : ByTurns l (change.toList ++ changes) l'' := by
  cases passes with
  | kept => exact turns
  | turned => exact turns.turned

/-- A token that is out stays out unless somebody puts it back. -/
theorem stays_held (turns : ByTurns .held changes l') (out : .returned ∉ changes) :
    l' = .held := by
  cases changes with
  | nil =>
    cases l' with
    | held => rfl
    | available => exact absurd turns.balance (by decide)
  | cons change rest =>
    obtain rfl : change = .returned := turns.first change rfl
    exact absurd List.mem_cons_self out

end ByTurns

namespace Waiters

variable {w : Waiters} {act : Act} {acts later : List Act} {id : Nat}

def Act.concerns (id : Nat) : Act → Bool
  | .start other | .poll other | .drop other => other == id
  | .take | .putBack => false

/-- Somebody has looked at the acquisition, after it was started if it was started meanwhile. -/
def Looked (id : Nat) (acts : List Act) : Prop :=
  ∃ early late, acts = early ++ .poll id :: late ∧ .start id ∉ late

/-! ## One act -/

theorem take_eq (w : Waiters) : w.take = (⟨.held, w.pending⟩, w.latch.isAvailable) := by
  obtain ⟨latch, pending⟩ := w
  cases latch <;> rfl

theorem putBack_eq (w : Waiters) :
    w.putBack = (⟨.available, w.pending⟩, !w.latch.isAvailable) := by
  obtain ⟨latch, pending⟩ := w
  cases latch <;> rfl

theorem putBack_refused (there : w.latch = .available) : w.putBack = (w, false) := by
  obtain ⟨latch, pending⟩ := w
  obtain rfl : latch = .available := there
  rfl

/-- A look gets the token for an acquisition that waits if the token is there. -/
theorem perform_poll (w : Waiters) (id : Nat) :
    w.perform (.poll id) = if id ∈ w.pending ∧ w.latch = .available then
      (⟨.held, w.pending.erase id⟩, some .taken) else (w, none) := by
  obtain ⟨latch, pending⟩ := w
  by_cases waiting : id ∈ pending
  · simp only [perform, poll, waiting, if_true, true_and]
    cases latch <;> rfl
  · simp only [perform, poll, waiting, if_false, false_and]
    rfl

theorem perform_passes (w : Waiters) (act : Act) :
    Passes w.latch (w.perform act).2 (w.perform act).1.latch := by
  cases act with
  | take =>
    obtain ⟨latch, pending⟩ := w
    cases latch with
    | available => exact .turned .available
    | held => exact .kept .held
  | putBack =>
    obtain ⟨latch, pending⟩ := w
    cases latch with
    | available => exact .kept .available
    | held => exact .turned .held
  | start id => exact .kept w.latch
  | drop id => exact .kept w.latch
  | poll id =>
    rw [perform_poll]
    split
    · next gets =>
      rw [gets.2]
      exact .turned .available
    · exact .kept w.latch

/-- An acquisition waits only if it has been started. -/
theorem absent_perform (absent : id ∉ w.pending) (unstarted : act ≠ .start id) :
    id ∉ (w.perform act).1.pending := by
  have erased (other : Nat) : id ∉ w.pending.erase other := fun there =>
    absent (List.mem_of_mem_erase there)
  cases act with
  | take => exact absent
  | putBack => exact absent
  | start other =>
    have apart : id ≠ other := fun same => unstarted (by rw [same])
    simpa [perform, start, apart] using absent
  | drop other => exact erased other
  | poll other =>
    rw [perform_poll]
    split
    · exact erased other
    · exact absent

/-- A look that leaves the token there has found the acquisition no longer waiting. -/
theorem absent_of_looked (there : (w.perform (.poll id)).1.latch = .available) :
    id ∉ (w.perform (.poll id)).1.pending := by
  rw [perform_poll] at there ⊢
  split at there
  · cases there
  · next gets =>
    rw [if_neg gets]
    exact fun waits => gets ⟨waits, there⟩

/-- What is about other acquisitions comes out the same when this one has been given up. -/
theorem perform_drop (apart : act.concerns id = false) :
    (w.drop id).1.perform act = (((w.perform act).1.drop id).1, (w.perform act).2) := by
  cases act with
  | take => rfl
  | putBack => rfl
  | start other =>
    have apart : other ≠ id := beq_eq_false_iff_ne.mp apart
    have same : (w.pending ++ [other]).erase id = w.pending.erase id ++ [other] := by
      rw [List.erase_append]
      split
      · rfl
      · next absent =>
        rw [List.erase_of_not_mem absent, List.erase_of_not_mem (by simpa using apart.symm)]
    simp only [perform, drop, start, same]
  | drop other => simp only [perform, drop, List.erase_comm]
  | poll other =>
    have apart : other ≠ id := beq_eq_false_iff_ne.mp apart
    have same : other ∈ (w.drop id).1.pending ↔ other ∈ w.pending := List.mem_erase_of_ne apart
    rw [perform_poll, perform_poll]
    by_cases gets : other ∈ w.pending ∧ w.latch = .available
    · rw [if_pos gets, if_pos ⟨same.mpr gets.1, gets.2⟩]
      simp only [drop, List.erase_comm]
    · rw [if_neg gets, if_neg fun gets' => gets ⟨same.mp gets'.1, gets'.2⟩]

/-- What is about an acquisition changes nothing, unless it starts it, or the acquisition has waited
and waits no longer. -/
theorem perform_about (about : act.concerns id = true) (unstarted : act ≠ .start id) :
    w.perform act = (w, none) ∨
      id ∈ w.pending ∧ (w.perform act).1.pending = (w.drop id).1.pending := by
  cases act with
  | take => cases about
  | putBack => cases about
  | start other => exact absurd (by rw [beq_iff_eq.mp about]) unstarted
  | drop other =>
    obtain rfl : other = id := beq_iff_eq.mp about
    by_cases waits : other ∈ w.pending
    · exact .inr ⟨waits, rfl⟩
    · left
      simp only [perform, drop, List.erase_of_not_mem waits]
  | poll other =>
    obtain rfl : other = id := beq_iff_eq.mp about
    rw [perform_poll]
    split
    · next gets => exact .inr ⟨gets.1, rfl⟩
    · exact .inl rfl

/-! ## Runs -/

theorem performAll_cons (w : Waiters) (act : Act) (acts : List Act) :
    w.performAll (act :: acts) = (((w.perform act).1.performAll acts).1,
      (w.perform act).2.toList ++ ((w.perform act).1.performAll acts).2) := rfl

theorem performAll_append (w : Waiters) (acts later : List Act) :
    w.performAll (acts ++ later) = (((w.performAll acts).1.performAll later).1,
      (w.performAll acts).2 ++ ((w.performAll acts).1.performAll later).2) := by
  induction acts generalizing w with
  | nil => rfl
  | cons act acts ih => simp only [List.cons_append, performAll_cons, ih, List.append_assoc]

theorem performAll_byTurns (w : Waiters) (acts : List Act) :
    ByTurns w.latch (w.performAll acts).2 (w.performAll acts).1.latch := by
  induction acts generalizing w with
  | nil => exact .nil w.latch
  | cons act acts ih => exact .cons (perform_passes w act) (ih _)

theorem absent_performAll (absent : id ∉ w.pending) (unstarted : .start id ∉ acts) :
    id ∉ (w.performAll acts).1.pending := by
  induction acts generalizing w with
  | nil => exact absent
  | cons act acts ih =>
    rw [List.mem_cons, not_or] at unstarted
    exact ih (absent_perform absent (Ne.symm unstarted.1)) unstarted.2

/-- While an acquisition waits, everything but itself goes on as if it had been given up. -/
theorem performAll_drop (once : id ∉ (w.drop id).1.pending) (unstarted : .start id ∉ acts)
    (waits : id ∈ (w.performAll acts).1.pending) :
    (w.drop id).1.performAll (acts.filter fun act => !act.concerns id) =
      (((w.performAll acts).1.drop id).1, (w.performAll acts).2) := by
  induction acts generalizing w with
  | nil => rfl
  | cons act acts ih =>
    rw [List.mem_cons, not_or] at unstarted
    obtain ⟨other, unstarted⟩ := unstarted
    cases about : act.concerns id with
    | false =>
      have same := perform_drop (w := w) about
      have once' : id ∉ ((w.perform act).1.drop id).1.pending := by
        have kept := absent_perform once (Ne.symm other)
        rwa [same] at kept
      rw [List.filter_cons_of_pos (by simpa using about), performAll_cons, same,
        ih once' unstarted waits, performAll_cons]
    | true =>
      rw [performAll_cons] at waits ⊢
      rcases perform_about (w := w) about (Ne.symm other) with unmoved | ⟨-, gone⟩
      · rw [unmoved] at waits ⊢
        rw [List.filter_cons_of_neg (by simpa using about), ih once unstarted waits]
        rfl
      · rw [← gone] at once
        exact absurd waits (absent_performAll once unstarted)

/-- An acquisition that does not wait might as well be left alone. -/
theorem performAll_without (absent : id ∉ w.pending) (unstarted : .start id ∉ acts) :
    w.performAll (acts.filter fun act => !act.concerns id) = w.performAll acts := by
  induction acts generalizing w with
  | nil => rfl
  | cons act acts ih =>
    rw [List.mem_cons, not_or] at unstarted
    obtain ⟨other, unstarted⟩ := unstarted
    have later := ih (absent_perform absent (Ne.symm other)) unstarted
    cases about : act.concerns id with
    | false =>
      rw [List.filter_cons_of_pos (by simpa using about), performAll_cons, later, performAll_cons]
    | true =>
      have unmoved := (perform_about about (Ne.symm other)).resolve_right fun gone => absent gone.1
      rw [unmoved] at later
      rw [List.filter_cons_of_neg (by simpa using about), later, performAll_cons, unmoved]
      rfl

/-- An acquisition that is given up while it waits leaves no trace. -/
theorem performAll_given_up (absent : id ∉ w.pending) (unstarted : .start id ∉ acts ++ later)
    (waits : id ∈ (w.performAll (.start id :: acts)).1.pending) :
    w.performAll (.start id :: acts ++ .drop id :: later) =
      w.performAll ((acts ++ later).filter fun act => !act.concerns id) := by
  rw [List.mem_append, not_or] at unstarted
  have dropped : ((w.start id).drop id).1 = w := by
    simp only [start, drop, List.erase_append, absent, if_false, List.erase_cons_head,
      List.append_nil]
  have once : id ∉ ((w.start id).drop id).1.pending := by rwa [dropped]
  have until_given_up := performAll_drop once unstarted.1 waits
  rw [dropped] at until_given_up
  have gone : id ∉ (((w.start id).performAll acts).1.drop id).1.pending := by
    have unstarted' : .start id ∉ acts.filter fun act => !act.concerns id := fun there =>
      unstarted.1 (List.mem_of_mem_filter there)
    have still := absent_performAll absent unstarted'
    rwa [until_given_up] at still
  rw [List.filter_append, performAll_append, performAll_append, until_given_up,
    performAll_without gone unstarted.2]
  rfl

/-- While the token is there, nobody waits who has been looked at since it came back. -/
theorem pending_eq_nil (out : .returned ∉ (w.performAll later).2)
    (looked : ∀ id ∈ (w.performAll later).1.pending, Looked id later)
    (there : (w.performAll later).1.latch = .available) :
    (w.performAll later).1.pending = [] := by
  refine List.eq_nil_iff_forall_not_mem.mpr fun id waits => ?_
  obtain ⟨early, late, rfl, unstarted⟩ := looked id waits
  rw [performAll_append, performAll_cons] at out there waits
  -- Nobody has put the token back after the look, so that it was there at the look.
  have available : ((w.performAll early).1.perform (.poll id)).1.latch = .available := by
    cases before : ((w.performAll early).1.perform (.poll id)).1.latch with
    | available => rfl
    | held =>
      have turns := performAll_byTurns ((w.performAll early).1.perform (.poll id)).1 late
      rw [before] at turns
      have stays := turns.stays_held fun returned => out (by simp [returned])
      exact absurd (there.symm.trans stays) (by decide)
  exact absent_performAll (absent_of_looked available) unstarted waits

/-- How it stands with the token and those who wait for it, after it has changed hands in these ways
since it was there and nobody waited. -/
structure Disciplined (w : Waiters) (changes : List Change) : Prop where
  alternate : changes.IsChain (· ≠ ·)
  takenFirst : ∀ change ∈ changes.head?, change = .taken
  balance : w.latch.count + changes.count .taken = 1 + changes.count .returned
  one : w.latch.count = 0 ∨ w.latch.count = 1
  available_iff : w.latch.isAvailable = true ↔ w.latch.count = 1
  take : w.take = (⟨.held, w.pending⟩, w.latch.isAvailable)
  refuses_iff : w.putBack.2 = false ↔ w.latch.isAvailable = true
  refused : w.latch.isAvailable = true → w.putBack = (w, false)
  /-- An acquisition that is started now and given up while it waits takes no token, before or after
  it is given up: it might as well not have been started. -/
  givenUp : ∀ id early late, id ∉ w.pending → .start id ∉ early ++ late →
    id ∈ (w.performAll (.start id :: early)).1.pending →
    w.performAll (.start id :: early ++ .drop id :: late) =
      w.performAll ((early ++ late).filter fun act => !act.concerns id)
  /-- Nobody waits while the token is there, once it has not come back for so long that all who wait
  have been looked at. -/
  unawaited : ∀ later, .returned ∉ (w.performAll later).2 →
    (∀ id ∈ (w.performAll later).1.pending, Looked id later) →
    (w.performAll later).1.latch.isAvailable = true → (w.performAll later).1.pending = []

theorem disciplined_performAll (acts : List Act) :
    (({} : Waiters).performAll acts).1.Disciplined (({} : Waiters).performAll acts).2 where
  alternate := (performAll_byTurns {} acts).alternate
  takenFirst := (performAll_byTurns {} acts).first
  balance := (performAll_byTurns {} acts).balance
  one := count_zero_or_one _
  available_iff := isAvailable_iff_count
  take := take_eq _
  refuses_iff := by rw [putBack_eq, Bool.not_eq_false']
  refused there := putBack_refused (isAvailable_iff.mp there)
  givenUp _ _ _ := performAll_given_up
  unawaited _ out looked there := pending_eq_nil out looked (isAvailable_iff.mp there)

end Waiters

end RangeSurvey.Latch
