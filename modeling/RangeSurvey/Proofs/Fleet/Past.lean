import RangeSurvey.Proofs.Fleet.Turn

/-!
# Slots of the past

What is kept of a slot that is over: the fleet before, during and after it, and what the devices
reported. A slot changes the own row of a requester and the rows of those who receive, and nothing
else.
-/

namespace RangeSurvey

def Outcome.report? : Outcome → Option SlotReport
  | .slot report => report
  | .step _ => none

/-- A slot that is over: the fleet at its start, when all that was armed was on air, and at its end,
with what came of the tasks. -/
structure Past where
  turn : Turn
  start : Fleet
  onAir : Fleet
  finish : Fleet
  done : List (Nat × Outcome)

namespace Past

/-- In the slot it was the turn of station `i`, which was on air with its own row `row`. -/
def Announces (p : Past) (plan : Plan) (i : Nat) (row : Row) : Prop :=
  p.turn.kind = .broadcast ∧ p.turn.active plan = i ∧ p.onAir.Sends i row

def reports (p : Past) (j : Nat) : List SlotReport :=
  (Fleet.comeOf p.done j).filterMap Outcome.report?

def plays (p : Past) (j : Nat) (role : Role) : Bool :=
  (p.reports j).any fun report => report.role == role

def received (p : Past) (j : Nat) : Bool :=
  (p.reports j).any fun report => report.role == .receiver && report.status.succeeded

end Past

namespace Fleet

def row? (f : Fleet) (j slot : Nat) : Option Row := (f.stations[j]?).bind fun s => s.table.row? slot

/-- All rows of a deployed fleet are blank. -/
theorem row?_deploy {generator : UInt64 → Random} {plan : Plan} {stations j slot : Nat}
    (admits : plan.Admits stations) {positions : List Point} (settings : MediumSettings)
    (nodes : stations ≤ positions.length) (hj : j < stations) (hslot : slot < plan.nodeCount) :
    (deploy generator plan positions settings stations).row? j slot =
      some (Row.blank plan.nodeCount) := by
  obtain ⟨trace, deployed⟩ := deploy_eq admits positions settings stations (Nat.le_refl _) nodes
  have founder : (deploy generator plan positions settings stations).stations[j]? =
      some (plan.founder j) := by
    rw [deployed, List.getElem?_map, List.getElem?_range hj, Option.map_some]
  rw [row?, founder, Option.bind_some]
  exact Plan.row?_founder hslot

def past (f : Fleet) (stations : Nat) (t : Turn) : Past where
  turn := t
  start := f
  onAir := f.onAir (t.jobs stations) t.schedule
  finish := (f.carryOut (t.jobs stations) t.schedule).1
  done := (f.carryOut (t.jobs stations) t.schedule).2

namespace Played

variable {plan : Plan} {t : Turn} {f air : Fleet} {calm : Prop} {j stations : Nat} {s s' : Station}

/-- A slot changes the own row of a requester, and at a receiver that succeeds the row of the active
station. -/
theorem row?_eq (h : Played plan t f air calm j s s') (member : plan.Member j s)
    (admits : plan.Admits stations) (hj : j < stations) (slot : Nat) :
    s'.table.row? slot = s.table.row? slot ∨
      t.kind = .ranging ∧ t.active plan = j ∧ slot = j ∨
      t.kind = .broadcast ∧ t.active plan ≠ j ∧ slot = t.active plan ∧
        s'.status.succeeded = true := by
  have own : s.slot = j := member.slot admits hj
  cases h with
  | listener _ _ table => exact Or.inl (by rw [table])
  | @requester m m' kind turn _ _ table =>
    by_cases hslot : slot = j
    · exact Or.inr (Or.inl ⟨kind, turn, hslot⟩)
    · obtain ⟨cells, answered, measured⟩ := s.measure_table m'
      refine Or.inl ?_
      rw [table, measured, own, Table.row?_modifyRow_of_ne _ _ (Ne.symm hslot)]
  | broadcaster _ _ table => exact Or.inl (by rw [table])
  | missed _ _ table => exact Or.inl (by rw [table])
  | stored kind turn _ _ _ table succeeded =>
    by_cases hslot : slot = t.active plan
    · exact Or.inr (Or.inr ⟨kind, turn, hslot, succeeded⟩)
    · refine Or.inl ?_
      rw [table, Table.row?_modifyRow_of_ne _ _ (Ne.symm hslot)]

/-- What a ranging slot does to the station whose turn it is. -/
theorem of_requester (h : Played plan t f air calm j s s') (kind : t.kind = .ranging)
    (turn : t.active plan = j) :
    ∃ m m', m.request? j s.peers = some m' ∧ (calm → f.hardware.SameAir m) ∧
      s'.table = (s.measure m').table := by
  cases h with
  | listener _ other => exact absurd turn other
  | requester _ _ asked sameAir table => exact ⟨_, _, asked, sameAir, table⟩
  | broadcaster other => cases kind.symm.trans other
  | missed other => cases kind.symm.trans other
  | stored other => cases kind.symm.trans other

/-- What a broadcast slot does to the station whose turn it is. -/
theorem of_broadcaster (h : Played plan t f air calm j s s') (kind : t.kind = .broadcast)
    (turn : t.active plan = j) :
    s'.table = s.table ∧
      (calm → ∀ row, s.ownRow? = some row → row.peers.count ≠ 0 →
        row.peers.count < plan.nodeCount → air.Sends j row) := by
  cases h with
  | listener other => cases kind.symm.trans other
  | requester other => cases kind.symm.trans other
  | broadcaster _ _ table announces => exact ⟨table, announces⟩
  | missed _ other => exact absurd turn other
  | stored _ other => exact absurd turn other

/-- What a broadcast slot does to any other station. -/
theorem of_receiver (h : Played plan t f air calm j s s') (kind : t.kind = .broadcast)
    (turn : t.active plan ≠ j) :
    (s'.table = s.table ∧ s'.status.succeeded = false ∧
      (calm → f.hardware.lossPercent = 0 → s'.status.timedOut = true ∧
        ∀ row, air.Sends (t.active plan) row →
          f.hardware.reaches (t.active plan) j = false)) ∨
    ∃ row, air.Sends (t.active plan) row ∧ air.hardware.reaches (t.active plan) j = true ∧
      s'.table = s.table.modifyRow (t.active plan) (fun _ => row) ∧
      s'.status.succeeded = true := by
  cases h with
  | listener other => cases kind.symm.trans other
  | requester other => cases kind.symm.trans other
  | broadcaster _ active => exact absurd active turn
  | missed _ _ table failed unheard => exact Or.inl ⟨table, failed, unheard⟩
  | stored _ _ _ sends reached table succeeded =>
    exact Or.inr ⟨_, sends, reached, table, succeeded⟩

/-- A receive that succeeds leaves the receiver with the row that the active station was on air
with. -/
theorem received (h : Played plan t f air calm j s s') (member : plan.Member j s)
    (positive : plan.nodeCount ≠ 0) (kind : t.kind = .broadcast) (turn : t.active plan ≠ j)
    (succeeded : s'.status.succeeded = true) :
    ∃ row, air.Sends (t.active plan) row ∧ s'.table.row? (t.active plan) = some row := by
  rcases h.of_receiver kind turn with ⟨-, failed, -⟩ | ⟨row, sends, -, table, -⟩
  · rw [succeeded] at failed
    cases failed
  · refine ⟨row, sends, ?_⟩
    rw [table]
    exact member.row?_stored (Nat.mod_lt _ (Nat.pos_of_ne_zero positive)) row

end Played

section Slot

variable {plan : Plan} {stations : Nat} {f : Fleet} {t : Turn}

/-- What a slot of a regular fleet makes of its stations. -/
theorem Regular.past (h : Regular plan stations f) (admits : plan.Admits stations)
    (fair : t.schedule.Fair stations) :
    Turned plan stations t False f (f.past stations t).finish (f.past stations t).done :=
  h.turned admits t fair (@False.elim _) (@False.elim _)

/-- The slot of a device gives exactly one report. -/
theorem reports_eq {j : Nat} {s s' : Station}
    (come : comeOf (f.past stations t).done j = [(t.seat j s).outcome s']) :
    (f.past stations t).reports j = [⟨(t.seat j s).role, (t.seat j s).deadline, s'.status⟩] := by
  rw [Past.reports, come]
  rfl

/-- What a device is said to have received is what the status of its station says. -/
theorem received_iff {j : Nat} {s s' : Station} (admits : plan.Admits stations) (hj : j < stations)
    (member : plan.Member j s)
    (come : comeOf (f.past stations t).done j = [(t.seat j s).outcome s']) :
    (f.past stations t).received j = true ↔
      t.kind = .broadcast ∧ t.active plan ≠ j ∧ s'.status.succeeded = true := by
  rw [Past.received, reports_eq come, t.role_seat admits hj member]
  by_cases turn : t.active plan = j
  · cases t.kind <;> simp [Role.of, turn]
  · have other : (t.active plan == j) = false := by simp [turn]
    cases t.kind <;> simp [Role.of, other, turn]

/-- What a slot changes about the row that station `j` holds of another station: nothing, or it is
the row that the other one was on air with. -/
theorem Regular.past_row? (h : Regular plan stations f) (admits : plan.Admits stations)
    (fair : t.schedule.Fair stations) (j slot : Nat) :
    (f.past stations t).finish.row? j slot = f.row? j slot ∨
      t.kind = .ranging ∧ t.active plan = j ∧ slot = j ∨
      t.kind = .broadcast ∧ t.active plan = slot ∧ j ≠ slot ∧
        (f.past stations t).received j = true := by
  have turned := h.past admits fair
  rcases Nat.lt_or_ge j stations with hj | hj
  · obtain ⟨s, hs, member⟩ := h.member j hj
    obtain ⟨s', hs', played, come⟩ := turned.station j s hs
    simp only [row?, hs, hs', Option.bind_some]
    rcases played.row?_eq member admits hj slot with same | own | ⟨kind, turn, rfl, succeeded⟩
    · exact Or.inl same
    · exact Or.inr (Or.inl own)
    · refine Or.inr (Or.inr ⟨kind, rfl, Ne.symm turn, ?_⟩)
      exact (received_iff admits hj member come).mpr ⟨kind, turn, succeeded⟩
  · refine Or.inl ?_
    have before : f.stations[j]? = none := by
      rw [List.getElem?_eq_none_iff, h.stationCount]
      exact hj
    have after : (f.past stations t).finish.stations[j]? = none := by
      rw [List.getElem?_eq_none_iff, turned.regular.stationCount]
      exact hj
    simp only [row?, before, after, Option.bind_none]

/-- A station that receives without a failure has the row that was on air. -/
theorem Regular.past_received (h : Regular plan stations f) (admits : plan.Admits stations)
    (fair : t.schedule.Fair stations) {j : Nat} (hj : j < stations)
    (received : (f.past stations t).received j = true) :
    ∃ row, (f.past stations t).Announces plan (t.active plan) row ∧
      (f.past stations t).finish.row? j (t.active plan) = some row := by
  obtain ⟨s, hs, member⟩ := h.member j hj
  obtain ⟨s', hs', played, come⟩ := (h.past admits fair).station j s hs
  obtain ⟨kind, turn, succeeded⟩ := (received_iff admits hj member come).mp received
  have positive : plan.nodeCount ≠ 0 := by
    have := admits.2.2
    omega
  obtain ⟨row, sends, hrow⟩ := played.received member positive kind turn succeeded
  refine ⟨row, ⟨kind, rfl, sends⟩, ?_⟩
  simp only [row?, hs', Option.bind_some]
  exact hrow

end Slot

end Fleet

end RangeSurvey
