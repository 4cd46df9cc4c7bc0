import Mathlib.Data.List.Induction
import RangeSurvey.Proofs.Site.Renewal

/-!
# The history of a chain

What a chain holds is told by the registrations and removals that led to it. Under an identifier
stands the sink of the last registration, unless a removal came after it, and the identifiers stand
in the order in which they joined the chain: a registration under an identifier that has not been
removed since the one before keeps its place. An event goes to the sinks in this order, once to
each, up to the first that handles it.
-/

namespace RangeSurvey.Chain

universe u v

variable {α : Type u} {σ : Type v}

inductive Change (α : Type u) where
  | register (id : Nat) (sink : α)
  | remove (id : Nat)
deriving DecidableEq, Repr

def Change.about : Change α → Nat
  | .register id _ => id
  | .remove id => id

def apply (c : Chain α) : Change α → Chain α
  | .register id sink => c.register id sink
  | .remove id => c.remove id

/-- The chain to which all this has been done, from the empty one on. -/
def ofChanges (changes : List (Change α)) : Chain α := changes.foldl apply {}

/-- The last of the changes that are about `id` registered `sink`. -/
def Stands (changes : List (Change α)) (id : Nat) (sink : α) : Prop :=
  ∃ before later, changes = before ++ .register id sink :: later ∧
    ∀ change ∈ later, change.about ≠ id

/-- Change `place` registered a sink under `id`, where none stood then, and `id` has not been
removed since. -/
def Joined (changes : List (Change α)) (id place : Nat) : Prop :=
  ∃ before sink later, changes = before ++ .register id sink :: later ∧ before.length = place ∧
    (∀ sink, ¬ Stands before id sink) ∧ .remove id ∉ later

structure Reflects (c : Chain α) (changes : List (Change α)) : Prop where
  once : c.ids.Nodup
  sink : ∀ id sink, c.sink? id = some sink ↔ Stands changes id sink
  holds : ∀ id, c.contains id = true ↔ ∃ sink, Stands changes id sink
  joined : ∀ id, id ∈ c.ids ↔ ∃ place, Joined changes id place
  order : c.ids.Pairwise fun id other =>
    ∀ place place', Joined changes id place → Joined changes other place' → place < place'
  sinks : c.sinks.map some = c.ids.map c.sink?

/-- A sink that keeps a record of what it was offered and what it answered. -/
def recording (offer : α → σ → σ × Verdict) (sink : α) (s : σ × List (α × Verdict)) :
    (σ × List (α × Verdict)) × Verdict :=
  (((offer sink s.1).1, s.2 ++ [(sink, (offer sink s.1).2)]), (offer sink s.1).2)

/-- An event came to some of the sinks, in their order and from the first of them on, and to all of
them unless the last that it came to handled it. -/
structure Heard (sinks : List α) (calls : List (α × Verdict)) (handled : Bool) : Prop where
  inOrder : calls.map Prod.fst <+: sinks
  passed : ∀ call ∈ calls.dropLast, call.2 ≠ .handled
  handled_iff : handled = true ↔ ∃ call ∈ calls, call.2 = .handled
  all : handled = false → calls.map Prod.fst = sinks

/-! ## One change -/

section Snoc

variable {changes : List (Change α)} {change : Change α} {id place : Nat} {sink : α}

/-- A list that ends is cut before its end, or the cut leaves nothing behind. -/
theorem append_cons_eq_snoc {β : Type u} {before later all : List β} {b last : β} :
    all ++ [last] = before ++ b :: later ↔
      (before = all ∧ b = last ∧ later = []) ∨
        ∃ rest, all = before ++ b :: rest ∧ later = rest ++ [last] := by
  constructor
  · intro cut
    rcases List.eq_nil_or_concat' later with rfl | ⟨rest, final, rfl⟩
    · obtain ⟨rfl, rfl⟩ := List.append_singleton_inj.mp cut
      exact Or.inl ⟨rfl, rfl, rfl⟩
    · rw [← List.cons_append, ← List.append_assoc] at cut
      obtain ⟨rfl, rfl⟩ := List.append_singleton_inj.mp cut
      exact Or.inr ⟨rest, rfl, rfl⟩
  · rintro (⟨rfl, rfl, rfl⟩ | ⟨rest, rfl, rfl⟩)
    · rfl
    · rw [List.append_assoc, List.cons_append]

theorem stands_nil : ¬ Stands ([] : List (Change α)) id sink := by
  rintro ⟨before, later, cut, -⟩
  exact absurd cut.symm (by simp)

theorem stands_snoc : Stands (changes ++ [change]) id sink ↔
    change = .register id sink ∨ change.about ≠ id ∧ Stands changes id sink := by
  constructor
  · rintro ⟨before, later, cut, quiet⟩
    rcases append_cons_eq_snoc.mp cut with ⟨-, rfl, -⟩ | ⟨rest, rfl, rfl⟩
    · exact Or.inl rfl
    · refine Or.inr ⟨quiet change (by simp), before, rest, rfl, fun other there => ?_⟩
      exact quiet other (List.mem_append_left _ there)
  · rintro (rfl | ⟨other, before, later, rfl, quiet⟩)
    · exact ⟨changes, [], rfl, by simp⟩
    · refine ⟨before, later ++ [change], by simp, fun final there => ?_⟩
      rcases List.mem_append.mp there with there | there
      · exact quiet final there
      · rw [List.mem_singleton.mp there]
        exact other

theorem joined_nil : ¬ Joined ([] : List (Change α)) id place := by
  rintro ⟨before, sink, later, cut, -⟩
  exact absurd cut.symm (by simp)

theorem joined_snoc : Joined (changes ++ [change]) id place ↔
    ((∃ sink, change = .register id sink) ∧ place = changes.length ∧
        ∀ sink, ¬ Stands changes id sink) ∨
      change ≠ .remove id ∧ Joined changes id place := by
  constructor
  · rintro ⟨before, sink, later, cut, rfl, fresh, kept⟩
    rcases append_cons_eq_snoc.mp cut with ⟨rfl, rfl, -⟩ | ⟨rest, rfl, rfl⟩
    · exact Or.inl ⟨⟨sink, rfl⟩, rfl, fresh⟩
    · refine Or.inr ⟨?_, before, sink, rest, rfl, rfl, fresh, fun there => ?_⟩
      · rintro rfl
        exact kept (by simp)
      · exact kept (List.mem_append_left _ there)
  · rintro (⟨⟨sink, rfl⟩, rfl, fresh⟩ | ⟨other, before, sink, later, rfl, rfl, fresh, kept⟩)
    · exact ⟨changes, sink, [], rfl, rfl, fresh, by simp⟩
    · refine ⟨before, sink, later ++ [change], by simp, rfl, fresh, fun there => ?_⟩
      rcases List.mem_append.mp there with there | there
      · exact kept there
      · exact other (List.mem_singleton.mp there).symm

/-- An identifier joined with one of the changes. -/
theorem Joined.lt (joined : Joined changes id place) : place < changes.length := by
  obtain ⟨before, sink, later, rfl, rfl, -⟩ := joined
  simp

end Snoc

/-! ## The chain after a change -/

theorem contains_iff (c : Chain α) (id : Nat) : c.contains id = true ↔ id ∈ c.ids := by
  simp [contains, ids]

theorem contains_iff_sink? (c : Chain α) (id : Nat) :
    c.contains id = true ↔ ∃ sink, c.sink? id = some sink := by
  rw [← Option.isSome_iff_exists, sink?, Option.isSome_map, List.find?_isSome, contains,
    List.any_eq_true]

theorem ids_register (c : Chain α) (id : Nat) (sink : α) :
    (c.register id sink).ids = if c.contains id then c.ids else c.ids ++ [id] :=
  (register_takes c id sink).ids

theorem ids_remove (c : Chain α) (id : Nat) : (c.remove id).ids = c.ids.filter (· != id) := by
  rw [ids, remove, ids, List.filter_map]
  rfl

theorem sink?_apply (c : Chain α) (change : Change α) (id : Nat) (sink : α) :
    (c.apply change).sink? id = some sink ↔
      change = .register id sink ∨ change.about ≠ id ∧ c.sink? id = some sink := by
  cases change with
  | register other sink' =>
    by_cases here : other = id
    · subst here
      simp [apply, Change.about]
    · simp [apply, Change.about, here, sink?_register_of_ne c sink' here]
  | remove other =>
    by_cases here : other = id
    · subst here
      simp [apply, Change.about]
    · simp [apply, Change.about, here, sink?_remove_of_ne c here]

/-- Where every identifier stands once, the sinks are those that stand under the identifiers. -/
theorem sinks_eq {c : Chain α} (once : c.ids.Nodup) : c.sinks.map some = c.ids.map c.sink? := by
  rw [sinks, ids, List.map_map, List.map_map]
  apply List.map_congr_left
  intro e there
  cases found : c.entries.find? fun other => other.1 == e.1 with
  | none => exact absurd (List.find?_eq_none.mp found e there) (by simp)
  | some other =>
    have same : other = e := List.inj_on_of_nodup_map once (List.mem_of_find?_eq_some found) there
      (by simpa using List.find?_some found)
    simp only [Function.comp_apply, sink?, found, Option.map_some, same]

theorem ofChanges_snoc (changes : List (Change α)) (change : Change α) :
    ofChanges (changes ++ [change]) = (ofChanges changes).apply change := by
  rw [ofChanges, List.foldl_append]
  rfl

/-! ## The chain after a history -/

theorem reflects_nil : Reflects ({} : Chain α) [] where
  once := List.nodup_nil
  sink _ _ := iff_of_false nofun stands_nil
  holds _ := iff_of_false nofun fun ⟨_, stands⟩ => stands_nil stands
  joined _ := iff_of_false nofun fun ⟨_, joined⟩ => joined_nil joined
  order := .nil
  sinks := rfl

namespace Reflects

variable {c : Chain α} {changes : List (Change α)}

theorem of_parts (once : c.ids.Nodup)
    (sink : ∀ id sink, c.sink? id = some sink ↔ Stands changes id sink)
    (joined : ∀ id, id ∈ c.ids ↔ ∃ place, Joined changes id place)
    (order : c.ids.Pairwise fun id other =>
      ∀ place place', Joined changes id place → Joined changes other place' → place < place') :
    Reflects c changes where
  once := once
  sink := sink
  holds id := by simp only [contains_iff_sink?, sink]
  joined := joined
  order := order
  sinks := sinks_eq once

/-- Only the sinks that stand have joined. -/
theorem vacant_iff (reflects : Reflects c changes) {id : Nat} :
    (∀ sink, ¬ Stands changes id sink) ↔ id ∉ c.ids := by
  rw [← contains_iff, reflects.holds, not_exists]

/-- A registration under an identifier that is in the chain is no new one. -/
theorem joined_again (reflects : Reflects c changes) {id other place : Nat} {sink : α}
    (inside : id ∈ c.ids) :
    Joined (changes ++ [.register id sink]) other place ↔ Joined changes other place := by
  rw [joined_snoc, reflects.vacant_iff]
  constructor
  · rintro (⟨⟨_, same⟩, -, vacant⟩ | ⟨-, joined⟩)
    · cases same
      exact absurd inside vacant
    · exact joined
  · exact fun joined => Or.inr ⟨nofun, joined⟩

/-- Any other registration comes after all that joined before. -/
theorem joined_new (reflects : Reflects c changes) {id other place : Nat} {sink : α}
    (vacant : id ∉ c.ids) : Joined (changes ++ [.register id sink]) other place ↔
      Joined changes other place ∨ other = id ∧ place = changes.length := by
  rw [joined_snoc, reflects.vacant_iff]
  constructor
  · rintro (⟨⟨_, same⟩, last, -⟩ | ⟨-, joined⟩)
    · cases same
      exact Or.inr ⟨rfl, last⟩
    · exact Or.inl joined
  · rintro (joined | ⟨rfl, last⟩)
    · exact Or.inr ⟨nofun, joined⟩
    · exact Or.inl ⟨⟨sink, rfl⟩, last, vacant⟩

theorem joined_remove {id other place : Nat} :
    Joined (changes ++ [.remove id]) other place ↔ other ≠ id ∧ Joined changes other place := by
  rw [joined_snoc]
  constructor
  · rintro (⟨⟨_, same⟩, -⟩ | ⟨other, joined⟩)
    · cases same
    · exact ⟨fun same => other (congrArg _ same.symm), joined⟩
  · rintro ⟨apart, joined⟩
    exact Or.inr ⟨fun same => apart (Change.remove.inj same).symm, joined⟩

theorem sink_apply (reflects : Reflects c changes) (change : Change α) (id : Nat) (sink : α) :
    (c.apply change).sink? id = some sink ↔ Stands (changes ++ [change]) id sink := by
  rw [stands_snoc, ← reflects.sink]
  exact sink?_apply c change id sink

theorem register_again (reflects : Reflects c changes) {id : Nat} (inside : id ∈ c.ids)
    (sink : α) : Reflects (c.register id sink) (changes ++ [.register id sink]) := by
  have ids : (c.register id sink).ids = c.ids := by
    rw [ids_register, if_pos ((contains_iff c id).mpr inside)]
  refine of_parts (nodup_register reflects.once id sink)
    (reflects.sink_apply (.register id sink)) (fun other => ?_) ?_
  · simp only [ids, reflects.joined_again inside, reflects.joined]
  · simpa only [ids, reflects.joined_again inside] using reflects.order

theorem register_new (reflects : Reflects c changes) {id : Nat} (vacant : id ∉ c.ids)
    (sink : α) : Reflects (c.register id sink) (changes ++ [.register id sink]) := by
  have ids : (c.register id sink).ids = c.ids ++ [id] := by
    rw [ids_register, if_neg (mt (contains_iff c id).mp vacant)]
  have older {other place : Nat} (there : other ∈ c.ids)
      (joined : Joined (changes ++ [.register id sink]) other place) :
      Joined changes other place := by
    rcases (reflects.joined_new vacant).mp joined with joined | ⟨rfl, -⟩
    · exact joined
    · exact absurd there vacant
  refine of_parts (nodup_register reflects.once id sink)
    (reflects.sink_apply (.register id sink)) (fun other => ?_) ?_
  · simp only [ids, reflects.joined_new vacant, List.mem_append, List.mem_singleton, exists_or,
      reflects.joined, exists_and_left, exists_eq, and_true]
  · rw [ids, List.pairwise_append]
    refine ⟨?_, List.pairwise_singleton _ _, ?_⟩
    · refine reflects.order.imp_of_mem fun here there before j k joined joined' => ?_
      exact before j k (older here joined) (older there joined')
    · intro other there new here j k joined joined'
      obtain rfl := List.mem_singleton.mp here
      rcases (reflects.joined_new vacant).mp joined' with joined' | ⟨-, rfl⟩
      · exact absurd ((reflects.joined new).mpr ⟨k, joined'⟩) vacant
      · exact (older there joined).lt

theorem register (reflects : Reflects c changes) (id : Nat) (sink : α) :
    Reflects (c.register id sink) (changes ++ [.register id sink]) := by
  by_cases inside : id ∈ c.ids
  · exact reflects.register_again inside sink
  · exact reflects.register_new inside sink

theorem remove (reflects : Reflects c changes) (id : Nat) :
    Reflects (c.remove id) (changes ++ [.remove id]) := by
  refine of_parts (nodup_remove reflects.once id) (reflects.sink_apply (.remove id))
    (fun other => ?_) ?_
  · simp only [ids_remove, joined_remove, List.mem_filter, bne_iff_ne, reflects.joined,
      exists_and_left, and_comm]
  · rw [ids_remove]
    refine (reflects.order.filter _).imp fun before j k joined joined' => ?_
    exact before j k (joined_remove.mp joined).2 (joined_remove.mp joined').2

theorem apply (reflects : Reflects c changes) (change : Change α) :
    Reflects (c.apply change) (changes ++ [change]) := by
  cases change with
  | register id sink => exact reflects.register id sink
  | remove id => exact reflects.remove id

end Reflects

theorem reflects_ofChanges (changes : List (Change α)) :
    Reflects (ofChanges changes) changes := by
  induction changes using List.reverseRecOn with
  | nil => exact reflects_nil
  | append_singleton changes change ih =>
    rw [ofChanges_snoc]
    exact ih.apply change

/-! ## The walk -/

namespace Heard

variable {sink : α} {sinks : List α} {verdict : Verdict} {calls : List (α × Verdict)}
  {handled : Bool}

theorem nil : Heard ([] : List α) [] false where
  inOrder := List.prefix_refl _
  passed := nofun
  handled_iff := iff_of_false nofun fun ⟨_, there, _⟩ => nomatch there
  all _ := rfl

/-- The sink that handles the event is the last that hears of it. -/
theorem last : Heard (sink :: sinks) [(sink, .handled)] true where
  inOrder := List.prefix_append [sink] sinks
  passed := nofun
  handled_iff := iff_of_true rfl ⟨_, List.mem_singleton_self _, rfl⟩
  all := nofun

theorem cons (passed : verdict ≠ .handled) (heard : Heard sinks calls handled) :
    Heard (sink :: sinks) ((sink, verdict) :: calls) handled where
  inOrder := (List.prefix_cons_inj sink).mpr heard.inOrder
  passed call there := by
    cases calls with
    | nil => cases there
    | cons first rest =>
      rw [List.dropLast_cons_cons, List.mem_cons] at there
      rcases there with rfl | later
      · exact passed
      · exact heard.passed call later
  handled_iff := by
    rw [heard.handled_iff]
    simp [passed]
  all none := congrArg (sink :: ·) (heard.all none)

end Heard

/-- Sinks that keep a record do what they do without it, and the record tells of a walk in order. -/
theorem offerAll_recording (offer : α → σ → σ × Verdict) (sinks : List α) (s : σ)
    (log : List (α × Verdict)) : ∃ calls,
      offerAll (recording offer) sinks (s, log) =
        (((offerAll offer sinks s).1, log ++ calls), (offerAll offer sinks s).2) ∧
      Heard sinks calls (offerAll offer sinks s).2 := by
  induction sinks generalizing s log with
  | nil => exact ⟨[], by rw [List.append_nil]; rfl, .nil⟩
  | cons sink rest ih =>
    rcases answer : offer sink s with ⟨s', verdict⟩
    obtain ⟨calls, walked, heard⟩ := ih s' (log ++ [(sink, verdict)])
    rw [List.append_assoc] at walked
    cases verdict
    all_goals simp only [offerAll, recording, answer]
    case handled => exact ⟨[(sink, .handled)], rfl, .last⟩
    case notMine => exact ⟨(sink, .notMine) :: calls, walked, .cons (by decide) heard⟩
    case malformed => exact ⟨(sink, .malformed) :: calls, walked, .cons (by decide) heard⟩

/-- A chain holds the sinks that its history leaves, in the order in which they joined it. An event
comes to them once each in this order, up to the first that handles it. -/
theorem ordered_by_history (changes : List (Change α)) (offer : α → σ → σ × Verdict) (s : σ) :
    Reflects (ofChanges changes) changes ∧ ∃ calls,
      (ofChanges changes).walk (recording offer) (s, []) =
        ((((ofChanges changes).walk offer s).1, calls), ((ofChanges changes).walk offer s).2) ∧
      Heard (ofChanges changes).sinks calls ((ofChanges changes).walk offer s).2 :=
  ⟨reflects_ofChanges changes, offerAll_recording offer (ofChanges changes).sinks s []⟩

end RangeSurvey.Chain
