import Mathlib.Data.List.Induction
import RangeSurvey.Bench
import RangeSurvey.Proofs.Site.Arming

/-!
# Where the row of a station comes from

The row of a station's own slot is blank until a request of the station ends, and then it holds what
the engine has measured for the last request that has ended. Nothing else that a station does or
hears changes it, but for a frame that names the slot of the station itself as that of its sender: a
station that waits for a row takes such a frame and stores it as its own row.
-/

namespace RangeSurvey

open RangeSurvey.Frame

/-- Station `id`, which is in slot `slot`, has stored a frame as its own row. -/
def Entry.intrudes (id slot : Nat) : Entry → Bool
  | offered (.station i) (.received bytes) .handled => i == id && slotAt bytes == slot
  | _ => false

namespace Station

variable {s s' : Station}

/-! ## What changes the own row -/

structure Holds (s s' : Station) : Prop extends s.Stays s' where
  row : s'.ownRow? = s.ownRow?

theorem Holds.refl (s : Station) : s.Holds s := ⟨.refl s, rfl⟩

theorem Holds.trans {a b c : Station} (hab : a.Holds b) (hbc : b.Holds c) : a.Holds c :=
  ⟨hab.toStays.trans hbc.toStays, hbc.row.trans hab.row⟩

/-- Only the part that stores a measurement changes the table. -/
theorem Part.run_table (s : Station) {p : Part} (unmeasured : p.measures = false) :
    (p.run s).1.table = s.table := by
  cases p with
  | beginBroadcast =>
    obtain ⟨-, -, -, table, -⟩ := beginBroadcast_begun (Prod.eta s.beginBroadcast).symm
    exact table
  | endRequest reported cells => cases unmeasured
  | _ => rfl

/-- A frame that is taken changes the row of the slot that it names, and no other event changes a
row. -/
theorem hear_row? (s : Station) (event : RadioEvent) (slot : Nat) :
    (s.hear event).station.table.row? slot = s.table.row? slot ∨
      ∃ bytes, event = .received bytes ∧ (s.hear event).verdict = .handled ∧
        slotAt bytes = slot := by
  cases latch : s.latch with
  | available =>
    left
    rw [(hear_available latch event).1.table]
  | held =>
    cases event with
    | received bytes =>
      cases accepts : s.accepts? bytes with
      | none =>
        left
        rw [hear, (hearFrame_rejects latch accepts).1]
      | some f =>
        have named : f.slot.toNat = slotAt bytes := by
          obtain ⟨parsed, -⟩ := Option.filter_eq_some_iff.mp accepts
          rw [ofBytes?_eq] at parsed
          split at parsed
          · obtain rfl := Option.some.inj parsed
            rfl
          · cases parsed
        rw [hear, hearFrame_accepts latch accepts]
        by_cases own : slotAt bytes = slot
        · exact Or.inr ⟨bytes, rfl, rfl, own⟩
        · left
          exact Table.row?_modifyRow_of_ne s.table _ (named ▸ own)
    | sent =>
      left
      rw [hear, s.hearSent_keeps.table]
    | timedOut =>
      left
      rw [hear, s.hearTimeout_keeps.table]
    | reset =>
      left
      rw [hear, s.hearReset_keeps.table]

/-- The own row stays as it is, unless a measurement is stored or a frame that names the slot of the
station is taken. -/
theorem holds_of_moves {d : Site.Deed} {id : Nat} (moved : d.Moves id s s')
    (unmeasured : d.measurer? ≠ some id) : s.Holds s' ∨
      ∃ bytes, d = .offer (.station id) (.received bytes) ∧
        (s.hear (.received bytes)).verdict = .handled ∧ slotAt bytes = s.slot := by
  have stays := stays_of_moves moved
  have holds (row : s'.table.row? s.slot = s.table.row? s.slot) : s.Holds s' := by
    refine ⟨stays, ?_⟩
    rw [ownRow?, stays.slot]
    exact row
  cases moved with
  | still => exact Or.inl (.refl s)
  | part p =>
    left
    apply holds
    rw [p.run_table]
    cases measures : p.measures with
    | false => rfl
    | true => exact absurd (if_pos measures) unmeasured
  | hear event =>
    rcases s.hear_row? event s.slot with same | ⟨bytes, rfl, handled, own⟩
    · exact Or.inl (holds same)
    · exact Or.inr ⟨bytes, rfl, handled, own⟩

/-- The own row of a station that has just been made. -/
theorem build_ownRow? {e : Enrolment} {ownsStorage : Bool} (built : build e ownsStorage = .ok s) :
    s.ownRow? = some (Row.blank s.nodeCount) := by
  obtain ⟨rfl, -, inside⟩ := build_eq built
  change (List.replicate e.nodeCount (Row.blank e.nodeCount))[e.identity.slot.toNat]? = _
  rw [List.getElem?_replicate, if_pos inside]
  rfl

/-- The row that a station has of its own after it has stored an answer. -/
theorem endRequest_ownRow? {row : Row} (own : s.ownRow? = some row) (reported : PeerSet)
    (cells : List Distance) :
    (s.endRequest reported cells).1.ownRow? =
      some ((row.fill cells).withPeers (reported.inter (PeerSet.below s.nodeCount))) := by
  change (s.table.modifyRow s.slot _).row? s.slot = _
  rw [Table.row?_modifyRow_self, show s.table.row? s.slot = some row from own, Option.map_some]

def measuredRow {H : Type} [Hardware H] (hardware : H) (s : Station) (row : Row) : Row :=
  let (reported, cells) := Hardware.measured hardware s.unit s.slot row.cells
  (row.fill cells).withPeers (reported.inter (PeerSet.below s.nodeCount))

theorem Holds.measuredRow {H : Type} [Hardware H] (holds : s.Holds s') (hardware : H) (row : Row) :
    s'.measuredRow hardware row = s.measuredRow hardware row := by
  simp only [Station.measuredRow, holds.unit, holds.slot, holds.nodeCount]

/-- A station that ends a request holds what the engine has measured. -/
theorem Holds.endRequest {H : Type} [Hardware H] (holds : s.Holds s') {row : Row}
    (own : s.ownRow? = some row) (hardware : H) :
    (s'.endRequest (Hardware.measured hardware s.unit s.slot row.cells).1
        (Hardware.measured hardware s.unit s.slot row.cells).2).1.ownRow? =
      some (s.measuredRow hardware row) := by
  rw [endRequest_ownRow? (holds.row.trans own), holds.nodeCount]
  rfl

end Station

namespace Site

variable {H : Type}

/-! ## Deeds -/

/-- Station `id` stores no measurement by a deed. -/
def Deed.Retains (id : Nat) (d : Deed) : Prop := d.measurer? ≠ some id

theorem Deed.retains_of_none {d : Deed} {id : Nat} (none : d.measurer? = none) : d.Retains id := by
  rw [Deed.Retains, none]
  simp

theorem Deed.Within.retains {actor taker measurer : Option Nat} {d : Deed} {id : Nat}
    (within : d.Within actor taker measurer) (other : measurer ≠ some id) : d.Retains id := by
  intro stores
  rcases within.measure with none | some
  · rw [none] at stores
    cases stores
  · exact other (some.symm.trans stores)

def intrusions (site : Site H) (id slot : Nat) : Nat := site.trace.countP (Entry.intrudes id slot)

section Deeds

variable {d : Deed} {a b : Site H} {id : Nat} {s : Station}

theorem Did.intrusions_le (did : Did d a b) (id slot : Nat) :
    a.intrusions id slot ≤ b.intrusions id slot :=
  did.record_grows.sublist.countP_le

/-- A frame that a station takes is on record. -/
theorem countP_offer {bytes : List UInt8} (hs : a.stations[id]? = some s)
    (handled : (s.hear (.received bytes)).verdict = .handled) {p : Entry → Bool}
    (counted : p (.offered (.station id) (.received bytes) .handled) = true) :
    a.trace.countP p < (offer (.received bytes) (.station id) a).1.trace.countP p := by
  have grows : a.trace <:+
      (a.act id fun _ => ((s.hear (.received bytes)).station,
        (s.hear (.received bytes)).notices)).trace := by
    rw [act_some _ hs]
    exact List.suffix_append _ _
  have before := grows.sublist.countP_le (p := p)
  simp only [offer, hs, handled, record]
  rw [List.countP_cons_of_pos counted]
  omega

/-- A frame that a station takes for its own row is counted. -/
theorem intrusions_offer {bytes : List UInt8} (hs : a.stations[id]? = some s)
    (handled : (s.hear (.received bytes)).verdict = .handled) :
    a.intrusions id (slotAt bytes) <
      (offer (.received bytes) (.station id) a).1.intrusions id (slotAt bytes) :=
  countP_offer hs handled (by simp [Entry.intrudes])

/-- A deed by which a station neither stores a measurement nor takes a frame for its own row leaves
this row alone. -/
theorem Did.holds (did : Did d a b) (retains : d.Retains id) (hs : a.stations[id]? = some s)
    (genuine : b.intrusions id s.slot = a.intrusions id s.slot) :
    ∃ s', b.stations[id]? = some s' ∧ s.Holds s' := by
  obtain ⟨s', hs', moved⟩ := did.station hs
  rcases Station.holds_of_moves moved retains with holds | ⟨bytes, rfl, handled, own⟩
  · exact ⟨s', hs', holds⟩
  · cases did
    have intrudes := intrusions_offer hs handled
    rw [own] at intrudes
    omega

theorem Does.intrusions_le {ok : Deed → Prop} (h : Does ok a b) (id slot : Nat) :
    a.intrusions id slot ≤ b.intrusions id slot :=
  h.record_grows.sublist.countP_le

theorem Does.slot {ok : Deed → Prop} {s' : Station} (h : Does ok a b)
    (hs : a.stations[id]? = some s) (hs' : b.stations[id]? = some s') : s'.slot = s.slot := by
  obtain ⟨t, ht, stays⟩ := h.stays hs
  obtain rfl := Option.some.inj (hs'.symm.trans ht)
  exact stays.slot

/-- A station keeps its row while it neither stores a measurement nor takes a frame for this row. -/
theorem Does.holds (h : Does (Deed.Retains id) a b) (hs : a.stations[id]? = some s)
    (genuine : b.intrusions id s.slot = a.intrusions id s.slot) :
    ∃ s', b.stations[id]? = some s' ∧ s.Holds s' := by
  induction h with
  | refl => exact ⟨s, hs, .refl s⟩
  | tail before last ih =>
    obtain ⟨d, retains, did⟩ := last
    have low := Does.intrusions_le before id s.slot
    have high := did.intrusions_le id s.slot
    obtain ⟨t, ht, same⟩ := ih (by omega)
    obtain ⟨s', hs', holds⟩ := did.holds retains ht (by rw [same.slot]; omega)
    exact ⟨s', hs', same.trans holds⟩

/-- A station that has joined has a blank row of its own as long as it has neither stored a
measurement nor taken a frame for this row. -/
theorem Does.joined (h : Does (Deed.Retains id) a b) (unknown : a.stations[id]? = none)
    (hs : b.stations[id]? = some s)
    (genuine : b.intrusions id s.slot = a.intrusions id s.slot) :
    s.ownRow? = some (Row.blank s.nodeCount) := by
  induction h generalizing s with
  | refl =>
    rw [unknown] at hs
    cases hs
  | @tail x y before last ih =>
    obtain ⟨d, retains, did⟩ := last
    have low := Does.intrusions_le before id s.slot
    have high := did.intrusions_le id s.slot
    cases ht : x.stations[id]? with
    | none =>
      rcases did.known hs with ⟨t, known⟩ | ⟨e, ownsStorage, built⟩
      · rw [ht] at known
        cases known
      · exact Station.build_ownRow? built
    | some t =>
      have slot : s.slot = t.slot := (Does.single did retains).slot ht hs
      rw [slot] at genuine low high
      obtain ⟨s', hs', holds⟩ := did.holds retains ht (by omega)
      obtain rfl := Option.some.inj (hs.symm.trans hs')
      rw [holds.row, holds.nodeCount]
      exact ih ht (by omega)

/-- A deed that lets no step of a station go on stores no measurement for it. -/
theorem Deed.Spares.retains (spares : d.Spares id) : d.Retains id := by
  intro stores
  apply spares
  cases d with
  | part other p =>
    cases p with
    | endRequest reported cells => exact stores
    | _ => cases stores
  | _ => cases stores

end Deeds

variable [Hardware H]

/-! ## Requests -/

section Requests

variable {site begun : Site H} {c : Call} {s : Station} {id k : Nat}

/-- What a look at a request of station `s` comes to. Only the end of the request stores a
measurement. -/
inductive Requested (site : Site H) (c : Call) (s : Station) : Site H × Progress → Prop where
  | waits {after : Site H} (c' : Call) : Does (Deed.Retains c.station) site after →
      Requested site c s (after, .waiting c')
  | ends {between : Site H} (destination : UInt16) (start : UInt64) (mode : Sidedness)
      (peers : PeerSet) (status : Status) : Does (Deed.Retains c.station) site between →
      Requested site c s
        (between.endExchange c s (.request destination start mode peers), .done status)

/-- An exchange that ends gives the status of the station. -/
theorem endExchange_finish {t : Station} (ht : site.stations[c.station]? = some t) (s : Station)
    (e : Exchange) :
    ∃ status, (site.endExchange c s e).finish c = (site.endExchange c s e, .done status) := by
  have done : ∃ status, ((site.endExchange c s e).finish c).2 = .done status := by
    cases e with
    | listen start timeout => exact ⟨_, finish_act ht⟩
    | request destination start mode peers =>
      simp only [endExchange]
      split
      · exact ⟨_, finish_act ht⟩
      · exact ⟨_, finish_act ht⟩
  obtain ⟨status, done⟩ := done
  exact ⟨status, Prod.ext (finish_fst _ c) done⟩

theorem lookExchange_requested {between : Site H} {t : Station}
    (did : Does (Deed.Retains c.station) site between)
    (ht : between.stations[c.station]? = some t) (first : Bool) (destination : UInt16)
    (start : UInt64) (mode : Sidedness) (peers : PeerSet) : Requested site c s
      (between.lookExchange c s first (.request destination start mode peers)) := by
  have polled (hardware : H) : Does (Deed.Retains c.station) site { between with hardware } :=
    did.trans (setting_does rfl rfl rfl rfl rfl (Deed.retains_of_none rfl))
  have known (hardware : H) : ({ between with hardware } : Site H).stations[c.station]? = some t :=
    ht
  simp only [lookExchange]
  split
  · obtain ⟨status, done⟩ := endExchange_finish (known _) s (.request destination start mode peers)
    rw [done]
    exact .ends destination start mode peers status (polled _)
  · exact .waits _ (polled _)

theorem tryRequest_requested {between : Site H} {t : Station}
    (did : Does (Deed.Retains c.station) site between)
    (ht : between.stations[c.station]? = some t) (mode : Sidedness) :
    Requested site c s (between.tryRequest c s mode) := by
  simp only [tryRequest]
  split
  · exact .waits _ did
  · have taken : Does (Deed.Retains c.station) between
        (between.update c.station Station.takeEngine) :=
      part_does between c.station .takeEngine (Deed.retains_of_none rfl)
    have asked (e : Exchange) : Does (Deed.Retains c.station)
        (between.update c.station Station.takeEngine)
        ((between.update c.station Station.takeEngine).call (.exchange s.unit e)) :=
      record_does _ rfl (Deed.retains_of_none rfl)
    exact lookExchange_requested ((did.trans taken).trans (asked _))
      (stations_update ht Station.takeEngine) true _ _ _ _

theorem look_requested (measures : c.measurer? = some id)
    (hs : site.stations[c.station]? = some s) :
    c.station = id ∧ Requested site c s (site.look c) := by
  simp only [look, hs]
  cases stage : c.stage with
  | fresh =>
    simp only [Call.measurer?, stage, Option.ite_none_right_eq_some] at measures
    obtain ⟨activity, here⟩ := measures
    simp only [advance, stage, activity]
    have counted : Does (Deed.Retains c.station) site
        (site.act c.station Station.beginRequest) :=
      part_does site c.station .beginRequest (Deed.retains_of_none rfl)
    have known := Did.stations_act site c.station c.station Station.beginRequest
    rw [if_pos rfl, hs, Option.map_some] at known
    exact ⟨Option.some.inj here, tryRequest_requested counted known _⟩
  | requestTurn mode =>
    simp only [Call.measurer?, stage] at measures
    simp only [advance, stage]
    exact ⟨Option.some.inj measures, tryRequest_requested (Does.refl _ site) hs mode⟩
  | exchanging e =>
    simp only [Call.measurer?, stage] at measures
    simp only [advance, stage]
    cases e with
    | listen start timeout => cases measures
    | request destination start mode peers =>
      exact ⟨Option.some.inj measures, lookExchange_requested (Does.refl _ site) hs false _ _ _ _⟩
  | _ => simp [Call.measurer?, stage] at measures

/-- A request that ends stores what the engine has measured. -/
theorem endExchange_ownRow? {t : Station} {row : Row} (ht : site.stations[c.station]? = some t)
    (holds : s.Holds t) (own : s.ownRow? = some row) (destination : UInt16) (start : UInt64)
    (mode : Sidedness) (peers : PeerSet) :
    let after := site.endExchange c s (.request destination start mode peers)
    after.hardware = site.hardware ∧ ∃ t', after.stations[c.station]? = some t' ∧
      t'.slot = t.slot ∧ t'.ownRow? = some (s.measuredRow site.hardware row) := by
  intro after
  have stored : after = (site.call (.measured s.unit s.slot row.capacity)).act c.station fun t =>
      t.endRequest (Hardware.measured site.hardware s.unit s.slot row.cells).1
        (Hardware.measured site.hardware s.unit s.slot row.cells).2 := by
    simp only [after, endExchange, own]
  rw [stored]
  constructor
  · rw [act_eq]
    rfl
  · refine ⟨_, (Did.stations_act _ _ _ _).trans ?_, ?_, holds.endRequest own site.hardware⟩
    · rw [if_pos rfl]
      exact congrArg (Option.map _) ht
    · rfl

/-! ## Looks at requests -/

theorem measurer?_turn (measures : site.measurer? k = some id) :
    ∃ task begun c, site.task? k = some task ∧ site.turn task = some (begun, c) ∧
      c.measurer? = some id := by
  simp only [measurer?, Option.bind_eq_some_iff] at measures
  obtain ⟨⟨begun, c⟩, ⟨task, found, turn⟩, measures⟩ := measures
  exact ⟨task, begun, c, found, turn, measures⟩

theorem turn_retains {task : Task} (turn : site.turn task = some (begun, c)) (id : Nat) :
    Does (Deed.Retains id) site begun :=
  (turn_does turn).mono fun _ within => within.retains (by simp)

/-- A look at a task is over when the look at its call is, and changes no hardware after that. -/
theorem poll_over {task : Task} (found : site.task? k = some task)
    (turn : site.turn task = some (begun, c)) :
    (poll k site).2.isSome = (begun.look c).2.status?.isSome ∧
      (poll k site).1.hardware = (begun.look c).1.hardware := by
  have concluded (site : Site H) (status : Status) :
      (site.conclude c status).1.hardware = site.hardware := by
    rw [conclude]
    split
    · rfl
    simp only
    split
    · split
      · simp only [announce]
        split
        · rfl
        · rw [say, act_eq]
          rfl
      · rfl
    · rfl
  simp only [poll, found, run_turn turn, runCall]
  cases looked : begun.look c with
  | mk after progress =>
    cases progress with
    | waiting c' => exact ⟨rfl, rfl⟩
    | done status => exact ⟨rfl, concluded after status⟩

/-- A look at a request stores a measurement only if the request is over then. -/
theorem poll_retains (measures : site.measurer? k = some id) (on : (poll k site).2.isSome = false) :
    Does (Deed.Retains id) site (poll k site).1 := by
  obtain ⟨task, begun, c, found, turn, measures⟩ := measurer?_turn measures
  have rest := ((poll_turn found turn).2 id).mono fun d spares => spares.retains
  refine ((turn_retains turn id).trans ?_).trans rest
  cases hs : begun.stations[c.station]? with
  | none =>
    simp only [look, hs]
    exact Does.refl _ begun
  | some s =>
    obtain ⟨rfl, requested⟩ := look_requested measures hs
    have finished := (poll_over found turn).1
    generalize begun.look c = result at requested finished
    cases requested with
    | waits c' did => exact did
    | ends => simp [on, Progress.status?] at finished

/-- A request that is over has stored what the engine has measured. -/
theorem poll_measures (measures : site.measurer? k = some id)
    (finished : (poll k site).2.isSome = true) :
    ∃ s, site.stations[id]? = some s ∧ ∀ row, s.ownRow? = some row →
      (poll k site).1.intrusions id s.slot = site.intrusions id s.slot →
      ∃ s', (poll k site).1.stations[id]? = some s' ∧
        s'.ownRow? = some (s.measuredRow (poll k site).1.hardware row) := by
  obtain ⟨task, begun, c, found, turn, measures⟩ := measurer?_turn measures
  obtain ⟨done, hardware⟩ := poll_over found turn
  rw [finished] at done
  cases known : begun.stations[c.station]? with
  | none => simp [look, known, Progress.status?] at done
  | some b =>
    obtain ⟨rfl, requested⟩ := look_requested measures known
    obtain ⟨s, hs, -⟩ := turn_station turn known
    refine ⟨s, hs, fun row own genuine => ?_⟩
    have entered := turn_retains turn c.station
    have rest := ((poll_turn found turn).2 c.station).mono fun d spares => spares.retains
    generalize begun.look c = result at requested done hardware rest
    cases requested with
    | waits => cases done
    | @ends between destination start mode peers status did =>
      dsimp only at hardware rest
      have ended : Does (Deed.Within (some c.station) none (some c.station)) between
          (between.endExchange c b (.request destination start mode peers)) :=
        endExchange_does between (Deed.within_covers _ _ _) b fun _ _ _ =>
          ⟨by simp, rfl, Or.inr rfl, Or.inl rfl, Or.inr rfl⟩
      have h₁ := entered.intrusions_le c.station s.slot
      have h₂ := did.intrusions_le c.station s.slot
      have h₃ := ended.intrusions_le c.station s.slot
      have h₄ := rest.intrusions_le c.station s.slot
      obtain ⟨b', hb, held⟩ := entered.holds hs (by omega)
      obtain rfl := Option.some.inj (known.symm.trans hb)
      obtain ⟨t, ht, holds⟩ := did.holds known (by rw [held.slot]; omega)
      obtain ⟨same, t', ht', slot, stored⟩ := endExchange_ownRow? ht holds (held.row.trans own)
        destination start mode peers
      have here : t'.slot = s.slot := slot.trans (holds.slot.trans held.slot)
      obtain ⟨s', hs', kept⟩ := rest.holds ht' (by rw [here]; omega)
      refine ⟨s', hs', ?_⟩
      rw [kept.row, stored, held.measuredRow, hardware, same]

end Requests

/-! ## Runs -/

def endsRequest (id : Nat) (site : Site H) : Action H → Bool
  | .poll k => site.measurer? k == some id && (poll k site).2.isSome
  | _ => false

theorem endsRequest_iff {site : Site H} {id : Nat} {action : Action H} :
    site.endsRequest id action = true ↔
      ∃ k, action = .poll k ∧ site.measurer? k = some id ∧ (poll k site).2.isSome = true := by
  cases action with
  | poll k => simp [endsRequest]
  | _ => simp [endsRequest]

/-- An action stores a measurement for a station only when it ends a request of it. -/
theorem perform_retains {site : Site H} {id : Nat} {action : Action H}
    (quiet : site.endsRequest id action = false) :
    Does (Deed.Retains id) site (site.perform action) := by
  by_cases looks : ∃ k, action = .poll k ∧ site.measurer? k = some id
  · obtain ⟨k, rfl, measures⟩ := looks
    exact poll_retains measures (by simpa [endsRequest, measures] using quiet)
  · exact (perform_does site action).mono fun d of stores => looks (of.measure id stores)

/-- Where the row comes from that station `id`, which is now `s`, has of its own after a run. -/
inductive Origin (start : Site H) (id : Nat) (s : Station) : List (Action H) → Prop where
  /-- No request of the station has ended, and its row is blank unless a frame has intruded. -/
  | blank {actions : List (Action H)} :
      start.follows (fun site action => !site.endsRequest id action) actions = true →
      ((start.performAll actions).intrusions id s.slot = start.intrusions id s.slot →
        s.ownRow? = some (Row.blank s.nodeCount)) →
      Origin start id s actions
  /-- The last request that has ended did so by a look at task `k`. What the engine had measured
  then was put in the place of `row`, and stands there unless a frame has intruded since. -/
  | measured {first later : List (Action H)} {k : Nat} {s₀ : Station} {row : Row} :
      (start.performAll first).endsRequest id (.poll k) = true →
      (start.performAll (first ++ [.poll k])).follows
        (fun site action => !site.endsRequest id action) later = true →
      (start.performAll first).stations[id]? = some s₀ → s₀.ownRow? = some row →
      ((start.performAll (first ++ .poll k :: later)).intrusions id s.slot =
          (start.performAll first).intrusions id s.slot →
        s.ownRow? = some (s₀.measuredRow (start.performAll (first ++ [.poll k])).hardware row)) →
      Origin start id s (first ++ .poll k :: later)

section Origin

variable {start : Site H} {id : Nat} {s s' : Station} {actions : List (Action H)}
  {action : Action H}

/-- An action that ends no request of a station leaves the origin of its row as it is. -/
theorem Origin.step (origin : Origin start id s actions)
    (quiet : (start.performAll actions).endsRequest id action = false)
    (hs : (start.performAll actions).stations[id]? = some s)
    (hs' : (start.performAll (actions ++ [action])).stations[id]? = some s') :
    Origin start id s' (actions ++ [action]) := by
  have did : Does (Deed.Retains id) (start.performAll actions)
      (start.performAll (actions ++ [action])) := by
    rw [performAll_snoc]
    exact perform_retains quiet
  have low := did.intrusions_le id s.slot
  have slot : s'.slot = s.slot := did.slot hs hs'
  have holds (genuine : (start.performAll (actions ++ [action])).intrusions id s.slot =
      (start.performAll actions).intrusions id s.slot) : s.Holds s' := by
    obtain ⟨t, ht, same⟩ := did.holds hs genuine
    obtain rfl := Option.some.inj (hs'.symm.trans ht)
    exact same
  cases origin with
  | blank quiets row =>
    have before := (performAll_passes start actions).intrusions_le id s.slot
    refine .blank (follows_snoc quiets (by rw [quiet]; rfl)) fun genuine => ?_
    rw [slot] at genuine
    have same := holds (by omega)
    rw [same.row, same.nodeCount]
    exact row (by omega)
  | @measured first later k s₀ row ends quiets hs₀ own stored =>
    have before := (performAll_passes (start.performAll first) (.poll k :: later)).intrusions_le
      id s.slot
    rw [← performAll_append] at before
    have split : first ++ .poll k :: later = (first ++ [.poll k]) ++ later := by simp
    have last : (start.performAll (first ++ [.poll k])).performAll later =
        start.performAll (first ++ .poll k :: later) := by
      rw [split]
      exact (performAll_append start _ _).symm
    rw [List.append_assoc, List.cons_append] at low holds ⊢
    refine .measured ends (follows_snoc quiets (by rw [last, quiet]; rfl)) hs₀ own fun genuine => ?_
    rw [slot] at genuine
    have same := holds (by omega)
    rw [same.row]
    exact stored (by omega)

/-- A request that ends gives the row a new origin. -/
theorem Origin.of_ends {row : Row}
    (ends : (start.performAll actions).endsRequest id action = true)
    (hs : (start.performAll actions).stations[id]? = some s) (own : s.ownRow? = some row)
    (hs' : (start.performAll (actions ++ [action])).stations[id]? = some s') :
    Origin start id s' (actions ++ [action]) := by
  obtain ⟨k, rfl, measures, finished⟩ := endsRequest_iff.mp ends
  obtain ⟨t, ht, stores⟩ := poll_measures measures finished
  obtain rfl := Option.some.inj (hs.symm.trans ht)
  have after : start.performAll (actions ++ [.poll k]) = (poll k (start.performAll actions)).1 :=
    performAll_snoc start actions (.poll k)
  have passes : (start.performAll actions).Passes (start.performAll (actions ++ [.poll k])) := by
    rw [performAll_append]
    exact performAll_passes _ [.poll k]
  refine .measured ends rfl hs own fun genuine => ?_
  rw [passes.slot hs hs', after] at genuine
  obtain ⟨t, ht, stored⟩ := stores row own genuine
  rw [← after] at ht stored
  obtain rfl := Option.some.inj (hs'.symm.trans ht)
  exact stored

/-- The row of a station that has just joined is blank. -/
theorem Origin.of_joined
    (quiets : start.follows (fun site action => !site.endsRequest id action) actions = true)
    (quiet : (start.performAll actions).endsRequest id action = false)
    (unknown : (start.performAll actions).stations[id]? = none)
    (hs : (start.performAll (actions ++ [action])).stations[id]? = some s) :
    Origin start id s (actions ++ [action]) := by
  have did : Does (Deed.Retains id) (start.performAll actions)
      (start.performAll (actions ++ [action])) := by
    rw [performAll_snoc]
    exact perform_retains quiet
  have before := (performAll_passes start actions).intrusions_le id s.slot
  have low := did.intrusions_le id s.slot
  refine .blank (follows_snoc quiets (by rw [quiet]; rfl)) fun genuine => ?_
  exact did.joined unknown hs (by omega)

/-- Where rows come from after a run from a site without stations, on which stations have rows of
their own. -/
theorem origin_of_run (empty : start.stations = [])
    (owns : ∀ (actions : List (Action H)) (id : Nat) (s : Station),
      (start.performAll actions).stations[id]? = some s → ∃ row, s.ownRow? = some row)
    (actions : List (Action H)) (id : Nat) : ((start.performAll actions).stations[id]? = none →
      start.follows (fun site action => !site.endsRequest id action) actions = true) ∧
    ∀ s, (start.performAll actions).stations[id]? = some s → Origin start id s actions := by
  induction actions using List.reverseRecOn with
  | nil => exact ⟨fun _ => rfl, by simp [performAll, empty]⟩
  | append_singleton actions action ih =>
    obtain ⟨unknown, origin⟩ := ih
    have passes := performAll_passes (start.performAll actions) [action]
    rw [← performAll_append] at passes
    cases hs : (start.performAll actions).stations[id]? with
    | some s =>
      obtain ⟨s', hs'⟩ := passes.remains hs
      obtain ⟨row, own⟩ := owns actions id s hs
      constructor
      · intro none
        rw [hs'] at none
        cases none
      · intro t ht
        cases ends : (start.performAll actions).endsRequest id action with
        | true => exact .of_ends ends hs own ht
        | false => exact (origin s hs).step ends hs ht
    | none =>
      have quiet : (start.performAll actions).endsRequest id action = false := by
        rw [Bool.eq_false_iff]
        intro ends
        obtain ⟨k, rfl, measures, finished⟩ := endsRequest_iff.mp ends
        obtain ⟨s, there, -⟩ := poll_measures measures finished
        rw [hs] at there
        cases there
      constructor
      · intro _
        exact follows_snoc (unknown hs) (by rw [quiet]; rfl)
      · intro s there
        exact .of_joined (unknown hs) quiet hs there

end Origin

/-- After every run, the row that a station has of its own is the one that its last request has
stored, or it is blank because no request has ended, unless the station has taken a frame that names
its own slot since. -/
theorem ownRow_provenance (hardware : H) (actions : List (Action H)) {id : Nat} {s : Station}
    (hs : (({ hardware } : Site H).performAll actions).stations[id]? = some s) :
    Origin { hardware } id s actions := by
  refine (origin_of_run rfl ?_ actions id).2 s hs
  intro actions id s hs
  obtain ⟨row, own, -⟩ := (Passes.sound (performAll_passes _ actions) hs).ownRow
  exact ⟨row, own⟩

def measuredAwaiting : List (Action Bench) :=
  [.enrol ⟨0, 2, ⟨0x100, 0, 12⟩, {}, 0⟩,
    .start 0 (.call { station := 0, activity := .request, deadline := 0 }), .poll 0,
    .start 1 (.call { station := 0, activity := .receive, deadline := 0 }), .poll 1]

/-- The row of station 1 arrives and the device is enrolled again, and the station still has the
distance that it has measured. -/
theorem ownRow_provenance_enrolled :
    let actions := measuredAwaiting ++
      [.raise 0 (.received answer), .poll 1, .enrol ⟨0, 2, ⟨0x100, 0, 12⟩, {}, 0⟩]
    ∃ s, (({ hardware := oneAnswer } : Site Bench).performAll actions).stations[0]? = some s ∧
      Origin { hardware := oneAnswer } 0 s actions ∧
      s.ownRow? = some ⟨⟨2#32⟩, [5, 0]⟩ ∧ s.table.row? 1 = some ⟨⟨1#32⟩, [5, 0]⟩ := by
  intro actions
  have rows : ((({ hardware := oneAnswer } : Site Bench).performAll actions).stations[0]?).map
      (fun s => (s.ownRow?, s.table.row? 1)) =
        some (some ⟨⟨2#32⟩, [5, 0]⟩, some ⟨⟨1#32⟩, [5, 0]⟩) := by decide +kernel
  obtain ⟨s, hs, rows⟩ := Option.map_eq_some_iff.mp rows
  obtain ⟨own, other⟩ := Prod.mk.inj rows
  exact ⟨s, hs, ownRow_provenance oneAnswer actions hs, own, other⟩

/-- A row from an unknown sender that names slot 0 as its own. -/
def forged : List UInt8 := (Frame.announcement 0x1FF 12 0 0 ⟨2#32⟩ [9]).toBytes

/-- Station 0, which waits for a row, stores it in the place of what it has measured, and no request
has ended. -/
theorem ownRow_overwritten :
    let site := ({ hardware := oneAnswer } : Site Bench).performAll measuredAwaiting
    site.endsRequest 0 (.raise 0 (.received forged)) = false ∧
      (site.stations[0]?).bind Station.ownRow? = some ⟨⟨2#32⟩, [5, 0]⟩ ∧
      ((site.perform (.raise 0 (.received forged))).stations[0]?).bind Station.ownRow? =
        some ⟨⟨2#32⟩, [9, 0]⟩ := by
  decide +kernel

end Site

end RangeSurvey
