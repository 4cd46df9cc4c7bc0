import RangeSurvey.Fleet
import RangeSurvey.Proofs.Air.Audience

/-!
# Verdicts at the end of a slot

The sinks on the radios of a fleet are an audience of its medium: none of them touches the hardware.
So the end of a slot of a fleet is that of its medium before this audience.
-/

namespace RangeSurvey

universe u v w

namespace Chain

variable {α : Type u} {σ : Type v} {τ : Type w}

/-- Sinks that do the same on two states leave two states that correspond. -/
theorem offerAll_map {offer : α → σ → σ × Verdict} {offer' : α → τ → τ × Verdict} {f : σ → τ}
    (same : ∀ sink s, offer' sink (f s) = ((offer sink s).map f id)) (sinks : List α) (s : σ) :
    offerAll offer' sinks (f s) = (offerAll offer sinks s).map f id := by
  induction sinks generalizing s with
  | nil => rfl
  | cons sink sinks ih =>
    have first := same sink s
    rcases heard : offer sink s with ⟨s', _ | _ | _⟩
    all_goals
      rw [heard] at first
      simp only [offerAll, heard, first, Prod.map_apply, id, ih]

/-- What every sink keeps is kept on the walk. -/
theorem offerAll_keeps {offer : α → σ → σ × Verdict} {P : σ → Prop}
    (keeps : ∀ sink s, P s → P (offer sink s).1) (sinks : List α) {s : σ} (h : P s) :
    P (offerAll offer sinks s).1 := by
  induction sinks generalizing s with
  | nil => exact h
  | cons sink sinks ih =>
    have first := keeps sink s h
    rcases heard : offer sink s with ⟨s', _ | _ | _⟩
    all_goals
      rw [heard] at first
      simp only [offerAll, heard]
    · exact first
    · exact ih first
    · exact ih first

end Chain

namespace Fleet

def audience (f : Fleet) : Audience Sink Fleet where
  chain := f.chain
  offer := Site.offer
  miss node f := f.note (.notConsumed node)

def onMedium (m : Medium) (f : Fleet) : Fleet := { f with hardware := m }

theorem offer_onMedium (m : Medium) (event : RadioEvent) (sink : Sink) (f : Fleet) :
    Site.offer event sink (onMedium m f) = (Site.offer event sink f).map (onMedium m) id := by
  cases sink with
  | recorder label verdict => rfl
  | station i =>
    have alike : (onMedium m f).stations = f.stations := rfl
    cases hs : f.stations[i]? with
    | none => simp only [Site.offer, alike, hs, Prod.map_apply, id]
    | some s =>
      simp only [Site.offer, alike, hs, Site.act, Prod.map_apply, id]
      rfl

theorem raise_onMedium (m : Medium) (f : Fleet) (node : Nat) (event : RadioEvent) :
    (onMedium m f).raise node event = (f.raise node event).map (onMedium m) id :=
  Chain.offerAll_map (offer_onMedium m event) _ f

/-- The sinks leave the chains alone. -/
theorem raise_chain (f : Fleet) (node : Nat) (event : RadioEvent) :
    (f.raise node event).1.chain = f.chain := by
  refine Chain.offerAll_keeps (P := fun g : Fleet => g.chain = f.chain)
    (fun sink g kept => ?_) _ rfl
  rw [Site.offer_eq]
  exact kept

section Simulation

variable {f s : Fleet} (chain : s.chain = f.chain)

include chain

theorem raise_audience (node : Nat) (event : RadioEvent) :
    (f.audience.raise node event s).1 = (s.raise node event).1 ∧
      (f.audience.raise node event s).2.taken = (s.raise node event).2 := by
  have walks : f.audience.chain node = s.chain node := congrFun chain.symm node
  constructor
  · rw [Audience.raise, walks]
    rfl
  · rw [Audience.raise, walks, Raised.taken, ← Chain.walk_handled]
    rfl

/-- A node of a fleet is told what its audience hears, and a frame that nobody takes is counted. -/
theorem tell_onMedium (m : Medium) (node : Nat) (event : RadioEvent) :
    (onMedium m s).tell node event =
        onMedium (m.countTimeouts (Audience.missed (f.audience.tell node event s).2))
          (f.audience.tell node event s).1 ∧
      (f.audience.tell node event s).1.chain = f.chain := by
  obtain ⟨raised, taken⟩ := raise_audience chain node event
  have kept : (f.audience.raise node event s).1.chain = f.chain := by
    rw [raised, raise_chain, chain]
  have told : (onMedium m s).raise node event =
      (onMedium m (f.audience.raise node event s).1,
        (f.audience.raise node event s).2.taken) := by
    rw [raise_onMedium, raised, taken]
    rfl
  cases event with
  | received bytes =>
    cases took : (f.audience.raise node (.received bytes) s).2.taken with
    | true =>
      rw [took] at told
      simp only [tell, told, Audience.tell, took, if_true]
      refine ⟨?_, kept⟩
      simp [Audience.missed, took, Medium.countTimeouts]
    | false =>
      rw [took] at told
      have noted : (f.audience.miss node
          (f.audience.raise node (.received bytes) s).1).chain = f.chain := kept
      obtain ⟨late, -⟩ := raise_audience noted node .timedOut
      simp only [tell, told, Audience.tell, took, Bool.false_eq_true, if_false]
      refine ⟨?_, by rw [late, raise_chain, noted]⟩
      have one : Audience.missed [(f.audience.raise node (.received bytes) s).2,
          (f.audience.raise node .timedOut (f.audience.miss node
            (f.audience.raise node (.received bytes) s).1)).2] = 1 := by
        rw [Audience.missed, List.countP_cons, took]
        rfl
      rw [one, late]
      have overdue := raise_onMedium (m.countTimeouts 1)
        (f.audience.miss node (f.audience.raise node (.received bytes) s).1) node .timedOut
      exact congrArg Prod.fst overdue
  | _ =>
    simp only [tell, told, Audience.tell]
    exact ⟨rfl, kept⟩

theorem tellAll_onMedium (m : Medium) (told : List (Nat × RadioEvent)) :
    (onMedium m s).tellAll told =
      onMedium (m.countTimeouts (Audience.missed (f.audience.tellAll told s).2))
        (f.audience.tellAll told s).1 := by
  induction told generalizing s m with
  | nil => rfl
  | cons first told ih =>
    obtain ⟨head, kept⟩ := tell_onMedium chain m first.1 first.2
    have count : Audience.missed (f.audience.tellAll (first :: told) s).2 =
        Audience.missed (f.audience.tell first.1 first.2 s).2 +
          Audience.missed (f.audience.tellAll told (f.audience.tell first.1 first.2 s).1).2 :=
      List.countP_append
    rw [tellAll, head, ih kept, count, Medium.countTimeouts, Medium.countTimeouts,
      Medium.countTimeouts, ← Nat.add_assoc]
    rfl

end Simulation

theorem endSlot_audience (f : Fleet) :
    ∃ m f' raised, f.audience.endSlot f.hardware f = some (m, f', raised) ∧
      f.hardware.Ends m raised ∧ endSlot f = { f' with hardware := m } := by
  obtain ⟨m, f', raised, ended, ends⟩ := f.audience.endSlot_ends f.hardware f
  refine ⟨m, f', raised, ended, ends, ?_⟩
  rw [Audience.endSlot_eq] at ended
  cases ended
  rw [endSlot, f.hardware.endSlot?_eq]
  exact tellAll_onMedium rfl f.hardware.afterSlot f.hardware.deliveries

/-- Whatever the sinks on its radios are, a medium that ends its slot comes to one verdict for each
armed node, and to none for anybody else. The slot of a fleet is that of its medium, before the
stations and recorders of the fleet. -/
theorem one_verdict_each {α : Type u} {σ : Type v} (a : Audience α σ) (m : Medium) (s : σ)
    (f : Fleet) :
    (∃ m' s' raised, a.endSlot m s = some (m', s', raised) ∧ m.Ends m' raised) ∧
      ∃ m' f' raised, f.audience.endSlot f.hardware f = some (m', f', raised) ∧
        f.hardware.Ends m' raised ∧ endSlot f = { f' with hardware := m' } :=
  ⟨a.endSlot_ends m s, f.endSlot_audience⟩

end Fleet

end RangeSurvey
