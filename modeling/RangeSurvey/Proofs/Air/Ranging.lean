import RangeSurvey.Air.Medium

/-!
# Who reaches whom

Two nodes of the medium that both exist are at some distance and hear each other or do not, and
that is a matter of positions and of the range alone.
-/

namespace RangeSurvey

/-- The node stays where it is and comes to be due no failure. -/
structure Node.Steady (before after : Node) : Prop where
  position : after.position = before.position
  failTransmit : before.failTransmit = false → after.failTransmit = false
  failReceive : before.failReceive = false → after.failReceive = false

theorem Node.Steady.refl (n : Node) : n.Steady n := ⟨rfl, id, id⟩

theorem Node.Steady.trans {a b c : Node} (hab : a.Steady b) (hbc : b.Steady c) : a.Steady c :=
  ⟨hbc.position.trans hab.position, hbc.failTransmit ∘ hab.failTransmit,
    hbc.failReceive ∘ hab.failReceive⟩

namespace Medium

def reaches (m : Medium) (a b : Nat) : Bool := m.hears? a b == some true

/-- Both media lose as much, and their nodes are at the same places and in the same range. -/
structure SameAir (m m' : Medium) : Prop where
  range : m'.range = m.range
  lossPercent : m'.lossPercent = m.lossPercent
  positions : ∀ i, (m'.node? i).map Node.position = (m.node? i).map Node.position

theorem SameAir.refl (m : Medium) : m.SameAir m := ⟨rfl, rfl, fun _ => rfl⟩

theorem SameAir.trans {a b c : Medium} (hab : a.SameAir b) (hbc : b.SameAir c) : a.SameAir c :=
  ⟨hbc.range.trans hab.range, hbc.lossPercent.trans hab.lossPercent,
    fun i => (hbc.positions i).trans (hab.positions i)⟩

theorem distance?_eq (m : Medium) (a b : Nat) :
    m.distance? a b =
      ((m.node? a).map Node.position).bind fun p =>
        ((m.node? b).map Node.position).map fun q => p.distance q := by
  simp only [distance?]
  cases m.node? a with
  | none => rfl
  | some p => cases m.node? b <;> rfl

theorem SameAir.distance? {m m' : Medium} (h : m.SameAir m') (a b : Nat) :
    m'.distance? a b = m.distance? a b := by
  rw [distance?_eq, distance?_eq, h.positions a, h.positions b]

theorem SameAir.reaches {m m' : Medium} (h : m.SameAir m') (a b : Nat) :
    m'.reaches a b = m.reaches a b := by
  simp only [Medium.reaches, Medium.hears?, h.distance?, h.range]

theorem node?_of_lt {m : Medium} {i : Nat} (h : i < m.nodeCount) : ∃ n, m.node? i = some n :=
  ⟨_, List.getElem?_eq_getElem h⟩

theorem lt_of_node? {m : Medium} {i : Nat} {n : Node} (h : m.node? i = some n) :
    i < m.nodeCount := (List.getElem?_eq_some_iff.mp h).1

theorem hears?_of_lt {m : Medium} {a b : Nat} (ha : a < m.nodeCount) (hb : b < m.nodeCount) :
    m.hears? a b = some (m.reaches a b) := by
  obtain ⟨p, hp⟩ := node?_of_lt ha
  obtain ⟨q, hq⟩ := node?_of_lt hb
  by_cases hab : a = b
  · simp [reaches, hears?, hab]
  · cases hw : (p.position.distance q.position).within m.range <;>
      simp [reaches, hears?, hab, distance?, hp, hq, hw]

theorem reaches_lt {m : Medium} {a b : Nat} (h : m.reaches a b = true) :
    a ≠ b ∧ a < m.nodeCount ∧ b < m.nodeCount := by
  have heard : m.hears? a b = some true := by simpa [reaches] using h
  simp only [hears?] at heard
  split at heard
  · cases heard
  next hne =>
    obtain ⟨d, hd, -⟩ := Option.map_eq_some_iff.mp heard
    simp only [distance?] at hd
    split at hd
    · next p q hp hq => exact ⟨hne, lt_of_node? hp, lt_of_node? hq⟩
    · cases hd

theorem distance?_of_lt {m : Medium} {a b : Nat} (ha : a < m.nodeCount) (hb : b < m.nodeCount) :
    ∃ d, m.distance? a b = some d := by
  obtain ⟨p, hp⟩ := node?_of_lt ha
  obtain ⟨q, hq⟩ := node?_of_lt hb
  exact ⟨p.position.distance q.position, by simp [distance?, hp, hq]⟩

end Medium

end RangeSurvey
