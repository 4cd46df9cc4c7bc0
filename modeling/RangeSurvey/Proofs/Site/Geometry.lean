import RangeSurvey.Air.Wyrand
import RangeSurvey.Proofs.Air.Answers
import RangeSurvey.Proofs.Site.Atomicity

/-!
# The geometry that a station sees

A station whose engine is that of a node of the medium, and which is in the slot of this node, asks
all others of its survey, since a request under way asks the peers that its station has for good.
When the request is over, its own row gives the distances to those that have answered, and nothing
else.
-/

namespace RangeSurvey

/-! ## What the engine of a node packs -/

namespace Medium

/-- The distance between two nodes, or nothing worth reading. -/
def span (m : Medium) (i p : Nat) : Distance := (m.distance? i p).getD 0

theorem distance?_of_reaches {m : Medium} {i p : Nat} (reaches : m.reaches i p = true) :
    m.distance? i p = some (m.span i p) := by
  obtain ⟨-, here, there⟩ := reaches_lt reaches
  obtain ⟨d, hd⟩ := distance?_of_lt here there
  rw [span, hd, Option.getD_some]

/-- After a request the engine hands out a distance for everybody who has answered. -/
theorem requested_packs {m : Medium} {i : Nat} (here : i < m.nodeCount) (peers : PeerSet)
    (n : Nat) :
    Hardware.Packs (m.requested i peers) i i n (PeerSet.ofList (m.answering i peers))
      (m.span i) := by
  intro cells size
  have values : (m.answering i peers).filterMap (m.distance? i) =
      (PeerSet.ofList (m.answering i peers)).members.map (m.span i) := by
    apply List.map_injective_iff.mpr fun _ _ => Option.some.inj
    rw [distances_answering, members_answering, List.map_map]
    apply List.map_congr_left
    intro p answers
    exact distance?_of_reaches (mem_answering.mp answers).2.1
  have measured : Hardware.measured (m.requested i peers) i i cells = _ :=
    measured_requested here peers cells
  rw [measured, values]
  refine ⟨rfl, ?_, PeerSet.packed_values _ _ _⟩
  rw [List.length_append, List.length_take, List.length_drop]
  omega

end Medium

/-- The row gives those nodes of a survey of `n` that answer a request of node `i` at this moment,
each at the distance of the medium, and holds nothing else. -/
structure Medium.Portrayed (m : Medium) (n i : Nat) (row : Row) : Prop where
  capacity : row.capacity = n
  distances : ∀ p d, row.distance? p = some d ↔
    p ≠ i ∧ p < n ∧ p < m.nodeCount ∧ m.reaches i p = true ∧
      m.answerLost i (PeerSet.others n i) p = false ∧ m.distance? i p = some d
  cleared : ∀ cell, row.peers.count ≤ cell → cell < n → row.cells[cell]? = some 0

def Exchange.asks? : Exchange → Option PeerSet
  | request _ _ _ peers => some peers
  | listen .. => none

theorem Call.stage_of_exchange? {c : Call} {e : Exchange} (under : c.exchange? = some e) :
    c.stage = .exchanging e := by
  cases stage : c.stage <;> simp_all [exchange?]

/-- A station has the same peers for good. -/
theorem Station.Stays.peers {s s' : Station} (stays : s.Stays s') : s'.peers = s.peers := by
  rw [Station.peers, stays.nodeCount, stays.slot, Station.peers]

namespace Site

variable {H : Type} [Hardware H] {site : Site H} {id : Nat}

/-! ## Whom a request asks -/

/-- The requests that station `id` has under way ask all its peers. -/
def AsksAll (site : Site H) (id : Nat) : Prop :=
  ∀ k e peers, site.exchangeOf id k = some e → e.asks? = some peers →
    ∃ s, site.stations[id]? = some s ∧ peers = s.peers

/-- A call that waits for the answers to a request has done so before or asks all peers of its
station. -/
theorem look_peers (site : Site H) (c : Call) :
    (site.look c).2.At c fun stage => ∀ e peers, stage = .exchanging e → e.asks? = some peers →
      c.exchange? = some e ∨
        ∃ s, site.stations[c.station]? = some s ∧ peers = s.peers := by
  cases hs : site.stations[c.station]? with
  | none =>
    simp only [look, hs]
    exact ⟨c.stage, rfl, fun e _ stage _ => .inl (by rw [Call.exchange?, stage])⟩
  | some s =>
    cases request : c.measurer? with
    | none =>
      have quiet := look_asks site c
      cases looked : (site.look c).2 with
      | done => trivial
      | waiting c' =>
        rw [looked] at quiet
        obtain ⟨stage, rfl, unasked⟩ := quiet
        refine ⟨stage, rfl, fun e peers exchanging asks => ?_⟩
        cases e with
        | listen => cases asks
        | request =>
          have exchanged : ({ c with stage } : Call).measurer? ≠ none := by
            simp [exchanging, Call.measurer?, Exchange.measurer?]
          exact absurd request (unasked exchanged)
    | some id =>
      obtain ⟨rfl, -⟩ := Call.measurer?_eq request
      rw [look_request request hs]
      split
      · split
        · exact finish_at _ fun e _ stage _ => .inl (by rw [Call.exchange?, stage])
        · refine ⟨.exchanging (c.asks s), rfl, ?_⟩
          rintro _ peers ⟨⟩ asks
          cases stage : c.stage with
          | exchanging e =>
            left
            simp only [Call.exchange?, Call.asks, stage]
          | _ =>
            right
            simp only [Call.asks, stage, Exchange.asks?, Option.some.injEq] at asks
            exact ⟨s, rfl, asks.symm⟩
      · exact ⟨.requestTurn _, rfl, fun _ _ stage => by cases stage⟩

theorem AsksAll.perform (nodup : site.pending.Nodup) (asks : site.AsksAll id) {action : Action H}
    (anew : begunAnew site action = true) : (site.perform action).AsksAll id := by
  intro k e peers under asked
  have kept {s : Station} (hs : site.stations[id]? = some s) (all : peers = s.peers) :
      ∃ s', (site.perform action).stations[id]? = some s' ∧ peers = s'.peers := by
    obtain ⟨s', hs', stays⟩ := (perform_does site action).stays hs
    exact ⟨s', hs', all.trans stays.peers.symm⟩
  have before (old : site.exchangeOf id k = some e) :
      ∃ s', (site.perform action).stations[id]? = some s' ∧ peers = s'.peers := by
    obtain ⟨s, hs, all⟩ := asks k e peers old asked
    exact kept hs all
  cases touched : action.touches k with
  | false => exact before ((exchangeOf_untouched nodup anew touched).symm.trans under)
  | true =>
    by_cases acts : site.actor? action = some id
    · cases action with
      | poll j =>
        obtain rfl := beq_iff_eq.mp touched
        obtain ⟨⟨begun, c⟩, going, rfl⟩ := Option.map_eq_some_iff.mp acts
        obtain ⟨task, found, turn⟩ := Option.bind_eq_some_iff.mp going
        cases looked : begun.look c with
        | mk after progress =>
          cases progress with
          | done status =>
            rw [perform, exchangeOf_done found turn looked] at under
            cases under
          | waiting c' =>
            have peers := look_peers begun c
            rw [looked] at peers
            obtain ⟨stage, rfl, how⟩ := peers
            rw [perform, exchangeOf_waits found turn looked, if_pos rfl] at under
            rcases how e _ (Call.stage_of_exchange? under) asked with old | ⟨t, ht, all⟩
            · exact before ((exchangeOf_own found turn).trans old)
            · obtain ⟨s, hs, holds, -⟩ := (turn_idles turn).2.2 t ht
              exact kept hs (all.trans holds.peers)
      | cancel j =>
        obtain rfl := beq_iff_eq.mp touched
        rw [exchangeOf_cancel] at under
        cases under
      | _ => cases touched
    · exact before ((exchangeOf_elsewhere nodup anew acts k).symm.trans under)

theorem asksAll_run {hardware : H} {actions : List (Action H)}
    (anew : ({ hardware } : Site H).follows begunAnew actions = true) (id : Nat) :
    (({ hardware } : Site H).performAll actions).AsksAll id := by
  have both := follows_induction (P := fun site => site.pending.Nodup ∧ site.AsksAll id)
    (fun _ action anew asks => ⟨nodup_pending_perform asks.1 action, asks.2.perform asks.1 anew⟩)
    anew ⟨List.nodup_nil, fun _ _ _ under => by cases under⟩
  exact both.2

/-! ## What a request reports -/

section Simulated

variable {site : Site Medium} {k : Nat} {s : Station}

/-- On a medium a request that is under way is over when it is looked at again. -/
theorem ends_of_exchanging (hs : site.stations[id]? = some s) (sound : s.Sound)
    (here : s.unit < site.hardware.nodeCount) {e : Exchange} {peers : PeerSet}
    (under : site.exchangeOf id k = some e) (asks : e.asks? = some peers) :
    site.endsRequest id (.poll k) = true := by
  obtain ⟨task, found, waits⟩ := Option.bind_eq_some_iff.mp under
  cases task with
  | slot job => cases waits
  | call c =>
    obtain ⟨rfl, has⟩ := Option.ite_none_right_eq_some.mp waits
    have stage := Call.stage_of_exchange? has
    cases e with
    | listen => cases asks
    | request destination start mode peers =>
      have request : c.measurer? = some c.station := by
        simp only [Call.measurer?, stage, Exchange.measurer?]
      obtain ⟨row, own, -⟩ := sound.ownRow
      have ready : site.measures c s = true := by
        have answers := Medium.request?_eq peers (Medium.asks_of_lt here peers.members)
        simp [measures, engineAnswer, Call.hasEngine, Call.asks, stage, Hardware.pollExchange,
          Medium.pollExchange, answers]
      obtain ⟨after, t, looked, -⟩ := look_measured request hs own ready (Prod.eta _).symm
      have turn : site.turn (.call c) = some (site, c) := rfl
      refine endsRequest_iff.mpr ⟨k, rfl, ?_, ?_⟩
      · rw [measurer?, found, Option.bind_some, turn, Option.bind_some, request]
      · rw [(poll_over found turn).1, looked]
        rfl

/-- A request that ends stores the distances to those that answer it at this moment. -/
theorem Guarded.assigns (guarded : site.Guarded id) (all : site.AsksAll id)
    (sound : ∀ (i : Nat) (s : Station), site.stations[i]? = some s → s.Sound)
    (hs : site.stations[id]? = some s) (unit : s.unit = s.slot)
    (here : s.slot < site.hardware.nodeCount) (ends : site.endsRequest id (.poll k) = true) :
    ∃ s' row, (site.perform (.poll k)).stations[id]? = some s' ∧ s'.ownRow? = some row ∧
      row.Assigns s.nodeCount (PeerSet.ofList (site.hardware.answering s.slot s.peers))
        (site.hardware.span s.slot) := by
  obtain ⟨t, row, collects⟩ := guarded.collects sound ends
  obtain rfl := Option.some.inj (hs.symm.trans collects.station)
  have capacity : row.capacity = s.nodeCount := by
    obtain ⟨row', own, good⟩ := (sound id s hs).ownRow
    rw [Option.some.inj (collects.own.symm.trans own), good.capacity]
  obtain ⟨e, first, after, measurer, alone, polled, -, s', hs', stored⟩ := collects.finished
  refine ⟨s', _, hs', stored, ?_⟩
  cases e with
  | listen => cases measurer
  | request destination start mode peers =>
    cases first with
    | true => cases polled
    | false =>
      have under := ((exchanging_eq_singleton guarded.nodup).mp alone).1
      obtain ⟨t, ht, rfl⟩ := all k _ peers under rfl
      obtain rfl := Option.some.inj (hs.symm.trans ht)
      have asked := Medium.request?_eq s.peers (Medium.asks_of_lt here s.peers.members)
      simp only [Hardware.pollExchange, Medium.pollExchange, unit, asked, Bool.false_eq_true,
        if_false] at polled
      cases polled
      obtain ⟨reported, size, packed⟩ :=
        Medium.requested_packs here s.peers s.nodeCount row.cells capacity
      have assigned := Row.assigns_measured capacity packed size
      rw [Station.measuredRow, unit]
      rw [← reported] at assigned ⊢
      exact assigned

/-- What is assigned to those who answer is what the medium portrays. -/
theorem portrayed_of_assigns {m : Medium} {row : Row} (sound : s.Sound)
    (good : row.Sound s.nodeCount)
    (assigns : row.Assigns s.nodeCount (PeerSet.ofList (m.answering s.slot s.peers))
      (m.span s.slot)) : m.Portrayed s.nodeCount s.slot row := by
  refine ⟨assigns.capacity, fun p d => ?_, good.cleared⟩
  have answers : p ∈ PeerSet.ofList (m.answering s.slot s.peers) ↔
      s.peers.contains p = true ∧ m.reaches s.slot p = true ∧
        m.answerLost s.slot s.peers p = false := by
    change (PeerSet.ofList _).contains p = true ↔ _
    rw [Medium.contains_answering, decide_eq_true_eq, Medium.mem_answering]
  have asked : s.peers.contains p = true ↔ p < s.nodeCount ∧ p ≠ s.slot := by
    have few : s.nodeCount ≤ 32 := sound.nodeCount.2
    rw [Station.peers, PeerSet.contains_others]
    simp only [Bool.and_eq_true, decide_eq_true_eq]
    omega
  rw [assigns.distances, Option.ite_none_right_eq_some, answers, asked, Option.some.injEq]
  constructor
  · rintro ⟨⟨⟨⟨below, other⟩, reaches, heard⟩, -⟩, rfl⟩
    exact ⟨other, below, (Medium.reaches_lt reaches).2.2, reaches, heard,
      Medium.distance?_of_reaches reaches⟩
  · rintro ⟨other, below, -, reaches, heard, distance⟩
    refine ⟨⟨⟨⟨below, other⟩, reaches, heard⟩, below⟩, ?_⟩
    exact Option.some.inj ((Medium.distance?_of_reaches reaches).symm.trans distance)

end Simulated

/-- Whenever a request of a station is over, its own row portrays the medium as it is at this
moment, and nothing of an earlier request is left in it. -/
theorem request_portrays (medium : Medium) (actions : List (Action Medium))
    (anew : ({ hardware := medium } : Site Medium).follows begunAnew actions = true) {id : Nat}
    {s : Station}
    (hs : (({ hardware := medium } : Site Medium).performAll actions).stations[id]? = some s)
    (unit : s.unit = s.slot)
    (here : s.slot < (({ hardware := medium } : Site Medium).performAll actions).hardware.nodeCount) :
    (∀ k e peers,
      (({ hardware := medium } : Site Medium).performAll actions).exchangeOf id k = some e →
      e.asks? = some peers →
      (({ hardware := medium } : Site Medium).performAll actions).endsRequest id (.poll k) = true) ∧
    ∀ k,
      (({ hardware := medium } : Site Medium).performAll actions).endsRequest id (.poll k) = true →
      ∃ s' row,
        (({ hardware := medium } : Site Medium).performAll (actions ++ [.poll k])).stations[id]? =
          some s' ∧ s'.ownRow? = some row ∧
        (({ hardware := medium } : Site Medium).performAll actions).hardware.Portrayed s.nodeCount
          s.slot row := by
  have sound (actions : List (Action Medium)) (i : Nat) (s : Station)
      (hs : (({ hardware := medium } : Site Medium).performAll actions).stations[i]? = some s) :
      s.Sound := Passes.sound (performAll_passes _ actions) hs
  refine ⟨fun k e peers => ends_of_exchanging hs (sound actions id s hs) (unit ▸ here), ?_⟩
  intro k ends
  obtain ⟨s', row, hs', own, assigns⟩ := (guarded_run anew id).assigns (asksAll_run anew id)
    (sound actions) hs unit here ends
  obtain ⟨t, ht, stays⟩ := (perform_does _ (.poll k)).stays hs
  obtain rfl := Option.some.inj (hs'.symm.trans ht)
  rw [← performAll_snoc] at hs'
  obtain ⟨row', own', good⟩ := (sound (actions ++ [.poll k]) id s' hs').ownRow
  obtain rfl := Option.some.inj (own.symm.trans own')
  rw [stays.nodeCount] at good
  exact ⟨s', row, hs', own, portrayed_of_assigns (sound actions id s hs) good assigns⟩

/-- Station 0 of three is on a medium of two nodes, of which the other one moves while a request is
under way. -/
def sighted : List (Action Medium) :=
  [.enrol ⟨0, 3, ⟨0x100, 0, 12⟩, {}, 0⟩,
    .start 0 (.call { station := 0, activity := .request, deadline := 0 }), .poll 0,
    .alter fun m => m.move 1 ⟨0x40400000, 0⟩]

/-- The request is over at the next look, and portrays the medium after the move. -/
theorem request_portrays_moved :
    let medium := Medium.ofPositions [⟨0, 0⟩, ⟨0, 0⟩] { lossPercent := 50 }
    let site := ({ hardware := medium } : Site Medium).performAll sighted
    site.endsRequest 0 (.poll 0) = true ∧
      ∃ s' row, (({ hardware := medium } : Site Medium).performAll
          (sighted ++ [.poll 0])).stations[0]? = some s' ∧ s'.ownRow? = some row ∧
        site.hardware.Portrayed 3 0 row := by
  intro medium site
  have fields : (site.stations[0]?).map (fun s => (s.unit, s.slot, s.nodeCount)) =
      some (0, 0, 3) := by decide +kernel
  obtain ⟨s, hs, fields⟩ := Option.map_eq_some_iff.mp fields
  simp only [Prod.mk.injEq] at fields
  obtain ⟨unit, slot, nodes⟩ := fields
  have under : site.exchangeOf 0 0 =
      some (.request 0xFFFF 0 .single (.others 3 0)) := by decide +kernel
  obtain ⟨ended, portrays⟩ := request_portrays medium sighted (by decide +kernel) hs
    (unit.trans slot.symm) (by rw [slot]; decide +kernel)
  have ends := ended 0 _ _ under rfl
  rw [slot, nodes] at portrays
  exact ⟨ends, portrays 0 ends⟩

end Site

end RangeSurvey
