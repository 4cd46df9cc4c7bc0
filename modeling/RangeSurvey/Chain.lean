/-!
# Chains of event sinks

The parties that hear the events of one radio, in order, each under an identifier of its own. An
event is offered to one after the other until one of them handles it.
-/

namespace RangeSurvey

inductive Verdict where
  /-- The event was for this sink, which consumed it. -/
  | handled
  /-- The event is not for this sink. -/
  | notMine
  /-- The event looked as if it was for this sink and was not sound. -/
  | malformed
deriving DecidableEq, Repr

universe u v

structure Chain (α : Type u) where
  entries : List (Nat × α) := []
deriving DecidableEq, Repr

namespace Chain

variable {α : Type u} {σ : Type v}

def ids (c : Chain α) : List Nat := c.entries.map Prod.fst

def sinks (c : Chain α) : List α := c.entries.map Prod.snd

def size (c : Chain α) : Nat := c.entries.length

def isEmpty (c : Chain α) : Bool := c.entries.isEmpty

def contains (c : Chain α) (id : Nat) : Bool := c.entries.any fun e => e.1 == id

def sink? (c : Chain α) (id : Nat) : Option α := (c.entries.find? fun e => e.1 == id).map Prod.snd

/-- The entries with `sink` in the place of the first that stands under `id`, or at the end when
there is none. -/
def place (id : Nat) (sink : α) : List (Nat × α) → List (Nat × α)
  | [] => [(id, sink)]
  | e :: es => if e.1 = id then (id, sink) :: es else e :: place id sink es

/-- A sink registered under an identifier that is in use takes over the place of the sink before
it. -/
def register (c : Chain α) (id : Nat) (sink : α) : Chain α := ⟨place id sink c.entries⟩

def remove (c : Chain α) (id : Nat) : Chain α := ⟨c.entries.filter fun e => e.1 != id⟩

/-- Offers an event to the sinks in order, up to the first that handles it. `offer` says what a
sink does with the event, and the state `σ` is whatever the sinks act on. -/
def offerAll (offer : α → σ → σ × Verdict) : List α → σ → σ × Bool
  | [], s => (s, false)
  | sink :: rest, s =>
    match offer sink s with
    | (s, .handled) => (s, true)
    | (s, _) => offerAll offer rest s

/-- Whether some sink of the chain handled the event, and the state that the sinks leave. -/
def walk (c : Chain α) (offer : α → σ → σ × Verdict) (s : σ) : σ × Bool :=
  offerAll offer c.sinks s

theorem mem_place {id : Nat} {sink : α} {entries : List (Nat × α)} {i : Nat} :
    i ∈ (place id sink entries).map Prod.fst ↔ i = id ∨ i ∈ entries.map Prod.fst := by
  induction entries with
  | nil => simp [place]
  | cons e es ih =>
    unfold place
    split
    · next h => simp [h]
    · next h =>
      rw [List.map_cons, List.mem_cons, ih, List.map_cons, List.mem_cons]
      constructor
      · rintro (h | h | h)
        · exact Or.inr (Or.inl h)
        · exact Or.inl h
        · exact Or.inr (Or.inr h)
      · rintro (h | h | h)
        · exact Or.inr (Or.inl h)
        · exact Or.inl h
        · exact Or.inr (Or.inr h)

theorem nodup_place {id : Nat} {sink : α} {entries : List (Nat × α)}
    (h : (entries.map Prod.fst).Nodup) : ((place id sink entries).map Prod.fst).Nodup := by
  induction entries with
  | nil => simp [place]
  | cons e es ih =>
    rw [List.map_cons, List.nodup_cons] at h
    unfold place
    split
    · next he => subst he; exact List.nodup_cons.mpr h
    · next he =>
      rw [List.map_cons, List.nodup_cons, mem_place]
      refine ⟨?_, ih h.2⟩
      rintro (hid | hin)
      · exact he hid
      · exact h.1 hin

theorem find?_place_self (id : Nat) (sink : α) (entries : List (Nat × α)) :
    (place id sink entries).find? (fun e => e.1 == id) = some (id, sink) := by
  induction entries with
  | nil => simp [place]
  | cons e es ih =>
    unfold place
    split
    · simp
    · next h => rw [List.find?_cons_of_neg (by simpa using h), ih]

theorem find?_place_of_ne {id other : Nat} (sink : α) (entries : List (Nat × α))
    (h : id ≠ other) :
    (place id sink entries).find? (fun e => e.1 == other) =
      entries.find? fun e => e.1 == other := by
  induction entries with
  | nil => simp [place, h]
  | cons e es ih =>
    unfold place
    split
    · next he => subst he; simp [h]
    · simp only [List.find?_cons, ih]

@[simp] theorem sink?_register_self (c : Chain α) (id : Nat) (sink : α) :
    (c.register id sink).sink? id = some sink := by
  simp [sink?, register, find?_place_self]

theorem sink?_register_of_ne (c : Chain α) {id other : Nat} (sink : α) (h : id ≠ other) :
    (c.register id sink).sink? other = c.sink? other := by
  simp [sink?, register, find?_place_of_ne _ _ h]

@[simp] theorem sink?_remove_self (c : Chain α) (id : Nat) : (c.remove id).sink? id = none := by
  simp [sink?, remove, List.find?_filter]

theorem sink?_remove_of_ne (c : Chain α) {id other : Nat} (h : id ≠ other) :
    (c.remove id).sink? other = c.sink? other := by
  simp only [sink?, remove, List.find?_filter]
  congr 2
  funext e
  by_cases he : e.1 = other
  · subst he; simp [Ne.symm h]
  · simp [he]

/-- Every identifier stands in the chain at most once, whatever is registered. -/
theorem nodup_register {c : Chain α} (h : c.ids.Nodup) (id : Nat) (sink : α) :
    (c.register id sink).ids.Nodup := nodup_place h

theorem nodup_remove {c : Chain α} (h : c.ids.Nodup) (id : Nat) : (c.remove id).ids.Nodup :=
  List.Sublist.nodup (List.filter_sublist.map Prod.fst) h

end Chain

end RangeSurvey
