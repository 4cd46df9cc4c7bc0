import RangeSurvey.Proofs.Fleet.Deploy

/-!
# Members of a plan through a slot

Whatever a slot does to a station of a plan, the station remains a member of the plan. What it
sends is the announcement of its own row, and any other member that waits in the same round stores
this row as it is.
-/

namespace RangeSurvey

namespace Station

/-- The table of a station after its exchange. -/
theorem measure_table (s : Station) (m : Medium) :
    ∃ (cells : List Distance) (answered : PeerSet), (s.measure m).table =
      s.table.modifyRow s.slot fun r =>
        (r.fill cells).withPeers (answered.inter (PeerSet.below s.nodeCount)) := by
  simp only [measure]
  split
  · next h =>
    refine ⟨[], PeerSet.empty, ?_⟩
    have out : s.table.rows.length ≤ s.slot := List.getElem?_eq_none_iff.mp h
    have same : s.table.rows.modify s.slot (fun r => (r.fill []).withPeers
        (PeerSet.empty.inter (PeerSet.below s.nodeCount))) = s.table.rows :=
      List.modify_eq_self out
    change s.table = _
    simp only [Table.modifyRow, same]
  · next row _ =>
    exact ⟨_, _, rfl⟩

theorem measure_buffer (s : Station) (m : Medium) : (s.measure m).buffer = s.buffer := by
  simp only [measure]
  split <;> rfl

end Station

namespace Plan

variable {plan : Plan} {stations i : Nat} {s s' : Station}

/-- What leaves table and buffer alone leaves a member a member. -/
theorem Member.same (h : plan.Member i s) (kin : s.Kin s') (table : s'.table = s.table)
    (room : s'.buffer.length = Frame.maxLength plan.nodeCount)
    (front : s'.buffer.take Frame.roundOffset = Frame.fixedFields (plan.address i) plan.cell) :
    plan.Member i s' := by
  refine h.kin kin (by rw [table, h.rows]) ?_ ?_ room front
  · rw [table]
    exact h.capacity
  · intro r hr
    rw [Station.ownRow?, table, kin.slot] at hr
    exact h.own r hr

/-- A row may change for one of the same size, if it is packed and of the survey. -/
theorem Member.modifyRow (h : plan.Member i s) (kin : s.Kin s') {slot : Nat} {g : Row → Row}
    (table : s'.table = s.table.modifyRow slot g) (buffer : s'.buffer = s.buffer)
    (shape : ∀ r, r.capacity = plan.nodeCount →
      (g r).capacity = plan.nodeCount ∧ (g r).IsPacked ∧
        (g r).peers.within plan.nodeCount = true) : plan.Member i s' := by
  have capacity : ∀ k r, s.table.row? k = some r → r.capacity = plan.nodeCount :=
    fun k r hr => h.capacity r (List.mem_of_getElem? hr)
  refine h.kin kin ?_ ?_ ?_ (by rw [buffer, h.room]) (by rw [buffer, h.front])
  · rw [table]
    exact (s.table.nodeCount_modifyRow slot g).trans h.rows
  · intro r hr
    rw [table] at hr
    rcases Table.mem_modifyRow hr with hr | ⟨r₀, hr₀, rfl⟩
    · exact h.capacity r hr
    · exact (shape r₀ (capacity slot r₀ hr₀)).1
  · intro r hr
    rw [Station.ownRow?, table, kin.slot] at hr
    by_cases hslot : slot = s.slot
    · subst hslot
      rw [Table.row?_modifyRow_self] at hr
      obtain ⟨r₀, hr₀, rfl⟩ := Option.map_eq_some_iff.mp hr
      exact (shape r₀ (capacity _ r₀ hr₀)).2
    · rw [Table.row?_modifyRow_of_ne _ _ hslot] at hr
      exact h.own r hr

/-- A station that has begun a broadcast has a new frame at most. -/
theorem Member.begunBroadcast (h : plan.Member i s) {b : Station.Broadcast}
    (hb : s.beginBroadcast = (s', b)) : plan.Member i s' := by
  obtain ⟨kin, -, -, table, -⟩ := Station.beginBroadcast_begun hb
  obtain ⟨room, front⟩ := Station.beginBroadcast_buffer h.front
  rw [hb] at room front
  exact h.same kin table (room.trans h.room) front

theorem Member.keeps (h : plan.Member i s) (keeps : s.Keeps s') : plan.Member i s' := by
  refine h.same keeps.kin keeps.table ?_ ?_
  · rw [keeps.buffer, h.room]
  · rw [keeps.buffer, h.front]

theorem Member.told (h : plan.Member i s) (held : s.latch = .held) (event : RadioEvent) :
    plan.Member i (s.told event) := by
  have kin := Station.told_kin held event
  cases event with
  | received bytes =>
    rw [Station.told_received held] at kin ⊢
    cases hf : s.accepts? bytes with
    | none => exact h.keeps s.hearTimeout_keeps
    | some f =>
      have sound : f.isSound s.nodeCount = true := by
        simp only [Station.accepts?] at hf
        have ok := (Option.filter_eq_some_iff.mp hf).2
        simp only [Bool.decide_and, Bool.and_eq_true, decide_eq_true_eq] at ok
        exact ok.2.2.2.2.2
      rw [h.nodeCount] at sound
      simp only [Frame.isSound, Bool.and_eq_true, decide_eq_true_eq] at sound
      rw [hf] at kin
      refine h.modifyRow kin rfl rfl ?_
      intro r hr
      refine ⟨(r.capacity_replace _ _).trans hr, r.isPacked_replace ?_, sound.1.2⟩
      rw [Frame.distances, List.length_take]
      exact Nat.min_le_left _ _
  | sent => exact h.keeps s.hearSent_keeps
  | timedOut => exact h.keeps s.hearTimeout_keeps
  | reset => exact h.keeps s.hearReset_keeps

theorem Member.entered {p : Seat} (h : plan.Member i p.station) : plan.Member i p.entered :=
  h.keeps p.entered_keeps

theorem Member.armed {p : Seat} (h : plan.Member i p.station) {n : Node} (armed : p.Armed s n) :
    plan.Member i s := by
  cases armed with
  | receive => exact h.keeps p.receiving_keeps
  | broadcast _ hb => exact h.entered.begunBroadcast hb

/-- A part in a slot leaves a member a member, however it ends. -/
theorem Member.ended {p : Seat} (h : plan.Member i p.station) {c : Course} (ended : p.Ended c s) :
    plan.Member i s := by
  cases ended with
  | answered => exact h.keeps (p.listening_keeps.trans (Station.freeEngine_keeps _))
  | requested =>
    have begun : plan.Member i p.entered.beginRequest.1.takeEngine := h.keeps p.requested_keeps
    obtain ⟨cells, answered, table⟩ := p.entered.beginRequest.1.takeEngine.measure_table _
    refine begun.modifyRow (Station.measure_kin _ _) table (Station.measure_buffer _ _) ?_
    intro r hr
    refine ⟨?_, Row.isPacked_withPeers _ _, ?_⟩
    · rw [Row.capacity_withPeers, Row.capacity_fill, hr]
    · rw [begun.nodeCount]
      exact PeerSet.within_inter_below answered plan.nodeCount
  | skipped _ hb => exact (h.entered.begunBroadcast hb).keeps (Station.skipBroadcast_keeps _ _)
  | transmitFailed _ hb => exact (h.entered.begunBroadcast hb).keeps (Station.failTransmit_keeps _)
  | receiveFailed => exact h.keeps (p.receiving_keeps.trans (Station.failReceive_keeps _))
  | cut armed => exact (h.armed armed).keeps (Station.hearReset_keeps _)
  | told armed => exact (h.armed armed).told armed.held _

def announcement (plan : Plan) (i : Nat) (round : UInt32) (row : Row) : Frame :=
  Frame.announcement (plan.address i) plan.cell round (plan.identity i).slot row.peers row.packed

/-- A member that has a frame to send announces its own row. -/
theorem Member.sends (h : plan.Member i s) {length : Nat}
    (hb : s.beginBroadcast = (s', .frame length)) :
    ∃ row, s.ownRow? = some row ∧ row.peers.count ≠ 0 ∧ row.peers.count < plan.nodeCount ∧
      s'.buffer.take length = (plan.announcement i s.round row).toBytes := by
  obtain ⟨row, own, filled, few, sent⟩ := Station.beginBroadcast_frame h.front hb
  rw [h.nodeCount] at few
  rw [h.identity] at sent
  exact ⟨row, own, filled, few, sent⟩

/-- A member that waits in the round of an announced row accepts it and stores it as it is. -/
theorem Member.stores {j : Nat} (h : plan.Member j s) (admits : plan.Admits stations)
    (hi : i < stations) (held : s.latch = .held) {row : Row} (packed : row.IsPacked)
    (within : row.peers.within plan.nodeCount = true) (count : row.peers.count < plan.nodeCount)
    (capacity : row.capacity = plan.nodeCount) :
    (s.told (.received (plan.announcement i s.round row).toBytes)).table =
        s.table.modifyRow i (fun _ => row) ∧
      (s.told (.received (plan.announcement i s.round row).toBytes)).status = s.status := by
  have slot : (plan.identity i).slot.toNat = i := toNat_slot admits hi
  have cell : plan.cell = s.identity.cell := by
    rw [h.identity]
    rfl
  have sound : (Frame.announcement (plan.address i) s.identity.cell s.round (plan.identity i).slot
      row.peers row.packed).isSound s.nodeCount = true := by
    rw [h.nodeCount]
    refine Frame.isSound_announcement _ _ _ ?_ within (Nat.le_of_lt count) capacity
    rw [slot]
    exact Nat.lt_of_lt_of_le hi admits.2.2
  have heard := Station.hear_announcement held packed (fun r hr =>
    (h.capacity r (List.mem_of_getElem? hr)).trans capacity.symm) sound
  rw [announcement, cell, Station.told, heard, slot]
  exact ⟨rfl, rfl⟩

/-- The row that a member has stored is the one that it has. -/
theorem Member.row?_stored {j : Nat} (h : plan.Member j s) (hi : i < plan.nodeCount) (row : Row) :
    (s.table.modifyRow i fun _ => row).row? i = some row := by
  have known : i < s.table.rows.length := by
    rw [h.rows]
    exact hi
  have here : s.table.row? i = some _ := List.getElem?_eq_getElem known
  rw [Table.row?_modifyRow_self, here, Option.map_some]

end Plan

end RangeSurvey
