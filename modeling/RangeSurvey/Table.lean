import RangeSurvey.Row

/-!
# The survey table

One row per station, indexed by the station's slot.
-/

namespace RangeSurvey

structure Table where
  rows : List Row
deriving DecidableEq, Repr

namespace Table

def blank (n : Nat) : Table := ⟨List.replicate n (Row.blank n)⟩

def nodeCount (t : Table) : Nat := t.rows.length

def row? (t : Table) (slot : Nat) : Option Row := t.rows[slot]?

def modifyRow (t : Table) (slot : Nat) (f : Row → Row) : Table := ⟨t.rows.modify slot f⟩

def distance? (t : Table) (measured peer : Nat) : Option Distance :=
  (t.row? measured).bind fun r => r.distance? peer

/-- The number of rows in which somebody has answered. -/
def filled (t : Table) : Nat := t.rows.countP fun r => !r.isEmpty

@[simp] theorem nodeCount_blank (n : Nat) : (blank n).nodeCount = n := by simp [blank, nodeCount]

@[simp] theorem nodeCount_modifyRow (t : Table) (slot : Nat) (f : Row → Row) :
    (t.modifyRow slot f).nodeCount = t.nodeCount := by
  simp [modifyRow, nodeCount]

theorem row?_modifyRow_self (t : Table) (slot : Nat) (f : Row → Row) :
    (t.modifyRow slot f).row? slot = (t.row? slot).map f := by
  simp [modifyRow, row?]

theorem row?_modifyRow_of_ne (t : Table) {slot other : Nat} (f : Row → Row) (h : slot ≠ other) :
    (t.modifyRow slot f).row? other = t.row? other := by
  simp [modifyRow, row?, h]

/-- Only what becomes of the row that is there matters. -/
theorem modifyRow_congr {t : Table} {slot : Nat} {f g : Row → Row}
    (h : ∀ r, t.row? slot = some r → f r = g r) : t.modifyRow slot f = t.modifyRow slot g := by
  simp only [modifyRow, Table.mk.injEq]
  apply List.ext_getElem?
  intro k
  rw [List.getElem?_modify, List.getElem?_modify]
  by_cases here : slot = k
  · subst here
    cases hr : t.rows[slot]? with
    | none => rfl
    | some r => simp only [if_true, Option.map_eq_map, Option.map_some, h r hr]
  · simp only [if_neg here]

theorem modifyRow_eq_set {t : Table} {slot : Nat} {r : Row} (hr : t.row? slot = some r)
    (f : Row → Row) : t.modifyRow slot f = ⟨t.rows.set slot (f r)⟩ := by
  have here : t.rows[slot]? = some r := hr
  have inside : slot < t.rows.length := (List.getElem?_eq_some_iff.mp hr).1
  rw [modifyRow, Table.mk.injEq]
  apply List.ext_getElem?
  intro k
  by_cases h : slot = k
  · subst h
    rw [List.getElem?_modify_eq, here, List.getElem?_set_self inside]
    rfl
  · rw [List.getElem?_set_ne h]
    exact List.getElem?_modify_ne f _ h

/-- A row of a changed table was there before, or it is the one that has changed. -/
theorem mem_modifyRow {t : Table} {slot : Nat} {g : Row → Row} {r : Row}
    (h : r ∈ (t.modifyRow slot g).rows) :
    r ∈ t.rows ∨ ∃ r₀, t.row? slot = some r₀ ∧ r = g r₀ := by
  obtain ⟨k, hk⟩ := List.mem_iff_getElem?.mp h
  by_cases hkslot : slot = k
  · subst hkslot
    have here := t.row?_modifyRow_self slot g
    rw [show (t.modifyRow slot g).row? slot = some r from hk] at here
    obtain ⟨r₀, hr₀, heq⟩ := Option.map_eq_some_iff.mp here.symm
    exact Or.inr ⟨r₀, hr₀, heq.symm⟩
  · have there := t.row?_modifyRow_of_ne g hkslot
    rw [show (t.modifyRow slot g).row? k = some r from hk] at there
    exact Or.inl (List.mem_of_getElem? there.symm)

end Table

end RangeSurvey
