import RangeSurvey.Proofs.Fleet.Past
import RangeSurvey.Proofs.Station.Measured

/-!
# Slots that nothing disturbs

On a medium that loses nothing, and with nothing reset, moved or due to fail, a slot does all that
it is for. A requester measures whom it reaches, and the row that the active station announces
comes to those whom it reaches. Everybody else times out.
-/

namespace RangeSurvey

/-- A turn of some kind in round number `round`, which gets on and which nothing disturbs. -/
structure Turn.Smooth (t : Turn) (kind : SlotKind) (round stations : Nat) : Prop where
  kind : t.kind = kind
  round : t.slot.round.toNat = round
  fair : t.schedule.Fair stations
  calm : t.schedule.Calm

theorem Turn.Smooth.active {t : Turn} {kind : SlotKind} {round stations : Nat}
    (h : t.Smooth kind round stations) (plan : Plan) : t.active plan = round % plan.nodeCount := by
  rw [Turn.active, h.round]

/-- The nodes of a medium are those of any other over the same air. -/
theorem Medium.SameAir.lt {m m' : Medium} (h : m.SameAir m') {i : Nat} (hi : i < m.nodeCount) :
    i < m'.nodeCount := by
  obtain ⟨n, hn⟩ := node?_of_lt hi
  have there := h.positions i
  rw [hn, Option.map_some] at there
  obtain ⟨n', hn', -⟩ := Option.map_eq_some_iff.mp there
  exact lt_of_node? hn'

namespace Fleet

/-- A full fleet between two slots over the same air as `m`, none of whose nodes is due a
failure. -/
structure Undisturbed (plan : Plan) (m : Medium) (f : Fleet) : Prop where
  regular : Regular plan plan.nodeCount f
  air : m.SameAir f.hardware
  quiet : ∀ n ∈ f.hardware.nodes, n.failTransmit = false ∧ n.failReceive = false

namespace Undisturbed

variable {plan : Plan} {m : Medium} {f : Fleet} {t : Turn} {kind : SlotKind} {round : Nat}

theorem turned (h : Undisturbed plan m f) (admits : plan.Admits plan.nodeCount)
    (smooth : t.Smooth kind round plan.nodeCount) :
    Turned plan plan.nodeCount t True f (f.past plan.nodeCount t).finish
      (f.past plan.nodeCount t).done :=
  h.regular.turned admits t smooth.fair (fun _ => smooth.calm) (fun _ => h.quiet)

theorem past (h : Undisturbed plan m f) (admits : plan.Admits plan.nodeCount)
    (smooth : t.Smooth kind round plan.nodeCount) :
    Undisturbed plan m (f.past plan.nodeCount t).finish := by
  have turned := h.turned admits smooth
  exact ⟨turned.regular, h.air.trans (turned.air trivial), turned.quiet trivial⟩

/-- Every device plays the part that the round gives it. -/
theorem plays (h : Undisturbed plan m f) (admits : plan.Admits plan.nodeCount)
    (smooth : t.Smooth kind round plan.nodeCount) {j : Nat} (hj : j < plan.nodeCount)
    (role : Role) :
    (f.past plan.nodeCount t).plays j role = (Role.of kind (t.active plan == j) == role) := by
  obtain ⟨s, hs, member⟩ := h.regular.member j hj
  obtain ⟨s', -, -, come⟩ := (h.turned admits smooth).station j s hs
  rw [Past.plays, reports_eq come, t.role_seat admits hj member, smooth.kind]
  simp

theorem active_lt (admits : plan.Admits plan.nodeCount) (t : Turn) :
    t.active plan < plan.nodeCount := by
  have least := admits.1
  simp only [minNodes] at least
  exact Nat.mod_lt _ (by omega)

/-- The station whose turn it is to range measures whom it reaches. -/
theorem ranged (h : Undisturbed plan m f) (admits : plan.Admits plan.nodeCount)
    (lossless : m.lossPercent = 0) (smooth : t.Smooth .ranging round plan.nodeCount) :
    ∃ row, (f.past plan.nodeCount t).finish.row? (t.active plan) (t.active plan) = some row ∧
      m.Measures plan.nodeCount (t.active plan) row := by
  have hactive := active_lt admits t
  obtain ⟨s, hs, member⟩ := h.regular.member _ hactive
  obtain ⟨s', hs', played, -⟩ := (h.turned admits smooth).station _ s hs
  obtain ⟨m₁, m₂, asked, sameAir, table⟩ := played.of_requester smooth.kind rfl
  have slot : s.slot = t.active plan := member.slot admits hactive
  have air : m.SameAir m₁ := h.air.trans (sameAir trivial)
  have known : s.slot < s.table.rows.length := by
    rw [slot, member.rows]
    exact hactive
  have own : s.ownRow? = some _ := List.getElem?_eq_getElem known
  have capacity := member.capacity _ (List.mem_of_getElem? own)
  have node : s.slot < m₁.nodeCount := by
    rw [slot]
    exact (sameAir trivial).lt (Nat.lt_of_lt_of_le hactive h.regular.nodes)
  rw [← slot] at asked
  obtain ⟨row, hrow, measures⟩ := Station.measure_measures own
    (capacity.trans member.nodeCount.symm) (by rw [member.nodeCount]; exact admits.2.1)
    (by rw [slot, member.nodeCount]; exact hactive) node (air.lossPercent.trans lossless) asked
  rw [slot, member.nodeCount] at measures
  refine ⟨row, ?_, measures.sameAir air⟩
  rw [Station.ownRow?, (s.measure_kin m₂).slot, slot] at hrow
  simp only [row?, hs', Option.bind_some, table]
  exact hrow

/-- A ranging slot changes no row but that of the station whose turn it is. -/
theorem ranging_row? (h : Undisturbed plan m f) (admits : plan.Admits plan.nodeCount)
    (smooth : t.Smooth .ranging round plan.nodeCount) {j slot : Nat}
    (other : t.active plan = j → slot ≠ j) :
    (f.past plan.nodeCount t).finish.row? j slot = f.row? j slot := by
  rcases h.regular.past_row? admits smooth.fair j slot with same | ⟨-, turn, own⟩ | ⟨kind, -⟩
  · exact same
  · exact absurd own (other turn)
  · rw [smooth.kind] at kind
    cases kind

/-- A broadcast slot changes no row but that of the station whose turn it is, and not at that
station. -/
theorem broadcast_row? (h : Undisturbed plan m f) (admits : plan.Admits plan.nodeCount)
    (smooth : t.Smooth .broadcast round plan.nodeCount) {j slot : Nat}
    (other : t.active plan = slot → j = slot) :
    (f.past plan.nodeCount t).finish.row? j slot = f.row? j slot := by
  rcases h.regular.past_row? admits smooth.fair j slot with same | ⟨kind, -⟩ | ⟨-, turn, away, -⟩
  · exact same
  · rw [smooth.kind] at kind
    cases kind
  · exact absurd (other turn) away

/-- What the active station has measured is on air as soon as it reaches somebody. -/
theorem sends (h : Undisturbed plan m f) (admits : plan.Admits plan.nodeCount)
    (smooth : t.Smooth .broadcast round plan.nodeCount) {row : Row}
    (own : f.row? (t.active plan) (t.active plan) = some row)
    (measures : m.Measures plan.nodeCount (t.active plan) row) {j : Nat} (hj : j < plan.nodeCount)
    (reaches : m.reaches (t.active plan) j = true) :
    (f.past plan.nodeCount t).onAir.Sends (t.active plan) row := by
  have hactive := active_lt admits t
  obtain ⟨s, hs, member⟩ := h.regular.member _ hactive
  obtain ⟨s', -, played, -⟩ := (h.turned admits smooth).station _ s hs
  rw [row?, hs, Option.bind_some, ← member.slot admits hactive] at own
  exact (played.of_broadcaster smooth.kind rfl).2 trivial row own
    (measures.count_ne_zero hj reaches) (measures.count_lt hactive)

/-- The row that the active station announces comes to those whom it reaches; the others time
out. -/
theorem announced (h : Undisturbed plan m f) (admits : plan.Admits plan.nodeCount)
    (lossless : m.lossPercent = 0) (smooth : t.Smooth .broadcast round plan.nodeCount) {row : Row}
    (own : f.row? (t.active plan) (t.active plan) = some row)
    (measures : m.Measures plan.nodeCount (t.active plan) row) {j : Nat} (hj : j < plan.nodeCount)
    (turn : t.active plan ≠ j) :
    ∃ report, (f.past plan.nodeCount t).reports j = [report] ∧ report.role = .receiver ∧
      (m.reaches (t.active plan) j = true → report.status.succeeded = true ∧
        (f.past plan.nodeCount t).finish.row? j (t.active plan) = some row) ∧
      (m.reaches (t.active plan) j = false → report.status.timedOut = true ∧
        (f.past plan.nodeCount t).finish.row? j (t.active plan) = f.row? j (t.active plan)) := by
  have turned := h.turned admits smooth
  have sends := h.sends admits smooth own measures hj
  obtain ⟨s, hs, member⟩ := h.regular.member j hj
  obtain ⟨s', hs', played, come⟩ := turned.station j s hs
  have role : (t.seat j s).role = .receiver := by
    have other : (t.active plan == j) = false := by simp [turn]
    rw [t.role_seat admits hj member, smooth.kind, other]
    rfl
  refine ⟨_, reports_eq come, role, ?_⟩
  simp only [row?, hs, hs', Option.bind_some]
  rcases played.of_receiver smooth.kind turn with
    ⟨table, -, missed⟩ | ⟨row', sent, reached, table, succeeded⟩
  · obtain ⟨timedOut, unheard⟩ := missed trivial (h.air.lossPercent.trans lossless)
    rw [table]
    refine ⟨?_, fun _ => ⟨timedOut, rfl⟩⟩
    intro reaches
    have silent := unheard row (sends reaches)
    rw [h.air.reaches, reaches] at silent
    cases silent
  · have air := h.air.trans (turned.onAir trivial)
    have reaches : m.reaches (t.active plan) j = true := (air.reaches _ j).symm.trans reached
    refine ⟨fun _ => ⟨succeeded, ?_⟩, fun missed => ?_⟩
    · obtain rfl : row' = row := sent.row_eq (sends reaches)
      rw [table]
      exact member.row?_stored (active_lt admits t) row'
    · rw [reaches] at missed
      cases missed

end Undisturbed

end Fleet

end RangeSurvey
