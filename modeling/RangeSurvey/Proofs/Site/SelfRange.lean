import RangeSurvey.Proofs.Site.Request
import RangeSurvey.Proofs.Site.Rounds
import RangeSurvey.Proofs.Site.Unstarted

/-!
# Ranges of a station to itself

Before a broadcast the peers of the own row are counted: a row that names as many peers as the survey
has stations is not sent, since one of them has to be the station itself. A row that names the
station and leaves out somebody else passes. It comes from an engine that reports it, or from a frame
that names the slot of the station as that of its sender. As long as neither happens, no station
announces a range to itself.
-/

namespace RangeSurvey

open RangeSurvey.Frame

/-- The set names a slot of a survey of `n`, and the number of its members does not give that
away. -/
def PeerSet.hides (s : PeerSet) (n slot : Nat) : Bool := s.contains slot && decide (s.count < n)

/-- Station `id`, in slot `slot` of `n`, has stored a frame as its own row that hides this slot. -/
def Entry.hides (id slot n : Nat) : Entry → Bool
  | offered (.station i) (.received bytes) .handled =>
    i == id && slotAt bytes == slot && (peersAt bytes).hides n slot
  | _ => false

/-- A sound station whose own row does not hide a range to itself. -/
structure Station.Candid (s : Station) : Prop where
  sound : s.Sound
  plain : ∀ row, s.ownRow? = some row → row.peers.hides s.nodeCount s.slot = false

/-- A set below `n` that does not hide a slot and does not have `n` members does not name it. -/
theorem PeerSet.others_of_plain {s : PeerSet} {n slot : Nat}
    (within : ∀ p, s.contains p = true → p < n) (plain : s.hides n slot = false) (few : s.count < n)
    {p : Nat} (named : p ∈ s) : p ∈ PeerSet.others n slot := by
  have absent : s.contains slot = false := by
    simpa [hides, few] using plain
  have other : p ≠ slot := by
    rintro rfl
    exact absurd (absent.symm.trans named) (by simp)
  change (PeerSet.others n slot).contains p = true
  simp only [contains_others, Bool.and_eq_true, decide_eq_true_eq]
  exact ⟨⟨within p named, lt_of_contains named⟩, other⟩

/-- A frame that hides nothing leaves the own row of a candid station plain. -/
theorem Station.Candid.heard {s : Station} (candid : s.Candid) {bytes : List UInt8}
    (plain : (peersAt bytes).hides s.nodeCount s.slot = false) {row : Row}
    (own : (s.hear (.received bytes)).station.table.row? s.slot = some row) :
    row.peers.hides s.nodeCount s.slot = false := by
  rcases candid.sound.hear_row (.received bytes) s.slot with same | ⟨_, received, -, -, stored⟩
  · exact candid.plain row (same.symm.trans own)
  · cases received
    rw [stored, Option.some.injEq] at own
    rw [← own]
    exact plain

namespace Site

variable {H : Type}

/-! ## Deeds -/

def hidings (site : Site H) (id slot n : Nat) : Nat := site.trace.countP (Entry.hides id slot n)

def Candid (site : Site H) (id : Nat) : Prop :=
  ∀ s, site.stations[id]? = some s → s.Candid

def Genuine (a b : Site H) (id : Nat) : Prop :=
  ∀ s, b.stations[id]? = some s →
    b.hidings id s.slot s.nodeCount = a.hidings id s.slot s.nodeCount

section Deeds

variable {d : Deed} {a b x : Site H} {id : Nat} {s : Station}

theorem Does.hidings_le {ok : Deed → Prop} (h : Does ok a b) (id slot n : Nat) :
    a.hidings id slot n ≤ b.hidings id slot n :=
  h.record_grows.sublist.countP_le

theorem Genuine.split {ok ok' : Deed → Prop} (genuine : Genuine a b id) (first : Does ok a x)
    (second : Does ok' x b) : Genuine a x id ∧ Genuine x b id := by
  constructor
  · intro s hs
    obtain ⟨s', hs', stays⟩ := second.stays hs
    have total := genuine s' hs'
    rw [stays.slot, stays.nodeCount] at total
    have low := first.hidings_le id s.slot s.nodeCount
    have high := second.hidings_le id s.slot s.nodeCount
    omega
  · intro s hs
    have total := genuine s hs
    have low := first.hidings_le id s.slot s.nodeCount
    have high := second.hidings_le id s.slot s.nodeCount
    omega

/-- A frame for the own row that is taken on such a way does not hide the slot. -/
theorem Genuine.plain {bytes : List UInt8} (hs : a.stations[id]? = some s)
    (handled : (s.hear (.received bytes)).verdict = .handled) (named : slotAt bytes = s.slot)
    (genuine : Genuine a (Site.offer (.received bytes) (.station id) a).1 id) :
    (peersAt bytes).hides s.nodeCount s.slot = false := by
  rw [Bool.eq_false_iff]
  intro hides
  obtain ⟨s', hs', stays⟩ := (offer_does a (.received bytes) (.station id)).stays hs
  have total := genuine s' hs'
  have counted := countP_offer hs handled (p := Entry.hides id s.slot s.nodeCount)
    (by simp [Entry.hides, named, hides])
  rw [stays.slot, stays.nodeCount, hidings, hidings] at total
  omega

/-- A deed by which a station neither stores a measurement nor a frame that hides its slot leaves it
candid, and a station that joins is candid. -/
theorem Did.candid (did : Did d a b) (retains : d.Retains id) (candid : a.Candid id)
    (genuine : Genuine a b id) : b.Candid id := by
  intro s' hs'
  rcases did.known hs' with ⟨s, hs⟩ | ⟨e, ownsStorage, built⟩
  · obtain ⟨t, ht, moved⟩ := did.station hs
    obtain rfl := Option.some.inj (hs'.symm.trans ht)
    have before := candid s hs
    have stays := Station.stays_of_moves moved
    refine ⟨before.sound.moves moved, fun row own => ?_⟩
    rw [stays.slot, stays.nodeCount]
    rcases Station.holds_of_moves moved retains with holds | ⟨bytes, rfl, handled, named⟩
    · exact before.plain row (holds.row.symm.trans own)
    · cases did
      have heard := Did.stations_offer a (.received bytes) id id
      rw [if_pos rfl, hs, hs', Option.map_some, Option.some.injEq] at heard
      rw [Station.ownRow?, stays.slot, heard] at own
      exact before.heard (genuine.plain hs handled named) own
  · refine ⟨Station.Sound.of_build built, fun row own => ?_⟩
    rw [Station.build_ownRow? built] at own
    obtain rfl := Option.some.inj own
    simp [Row.blank, PeerSet.hides]

theorem Does.candid (h : Does (Deed.Retains id) a b) (candid : a.Candid id)
    (genuine : Genuine a b id) : b.Candid id := by
  induction h with
  | refl => exact candid
  | tail before last ih =>
    obtain ⟨d, retains, did⟩ := last
    obtain ⟨first, second⟩ := genuine.split before (Does.single did retains)
    exact did.candid retains (ih first) second

end Deeds

variable [Hardware H]

/-! ## Requests that end -/

section Requests

variable {site begun : Site H} {c : Call} {s : Station} {id k : Nat}

/-- The answer to a request of station `id` that ends by an action hides the slot of the station. -/
def answersSelf (id : Nat) (site : Site H) (action : Action H) : Bool :=
  site.endsRequest id action && (site.stations[id]?).any fun s => s.ownRow?.any fun row =>
    (s.measuredRow (site.perform action).hardware row).peers.hides s.nodeCount s.slot

/-- What a request stores is candid if the answer is. -/
theorem look_candid (request : c.measurer? = some c.station) (candid : begun.Candid c.station)
    (hs : begun.stations[c.station]? = some s) (done : (begun.look c).2.status?.isSome = true)
    (plain : ∀ row, s.ownRow? = some row →
      (s.measuredRow (begun.look c).1.hardware row).peers.hides s.nodeCount s.slot = false) :
    (begun.look c).1.Candid c.station := by
  obtain ⟨row, own, good⟩ := (candid s hs).sound.ownRow
  have ready : begun.measures c s = true := by
    cases on : begun.measures c s with
    | true => rfl
    | false =>
      obtain ⟨after, c', looked, -⟩ := look_unmeasured request hs on
      rw [looked] at done
      cases done
  obtain ⟨after, t, looked, keeps, same, there, -⟩ :=
    look_measured request hs own ready (Prod.eta _).symm
  have told := plain row own
  rw [looked, same] at told
  rw [looked]
  intro t' ht'
  obtain rfl := Option.some.inj (there.symm.trans ht')
  refine ⟨((candid s hs).sound.keeps keeps).endRequest _ _, fun stored own' => ?_⟩
  rw [Station.endRequest_ownRow? (keeps.ownRow?.trans own)] at own'
  obtain rfl := Option.some.inj own'
  change ((Hardware.measured (begun.engineAnswer c s).1 s.unit s.slot row.cells).1.inter
    (PeerSet.below t.nodeCount)).hides t.nodeCount t.slot = false
  rw [keeps.kin.nodeCount, keeps.kin.slot]
  exact told

/-- The own row of a station at the beginning of a look at its task is the one that it had before. -/
theorem turn_ownRow? {task : Task} (turn : site.turn task = some (begun, c))
    (hs : begun.stations[id]? = some s) : ∃ s₀, site.stations[id]? = some s₀ ∧ s₀.Holds s := by
  obtain ⟨s₀, hs₀, -, table, -⟩ := turn_station turn hs
  obtain ⟨t, ht, stays⟩ := (turn_does turn).stays hs₀
  obtain rfl := Option.some.inj (hs.symm.trans ht)
  refine ⟨s₀, hs₀, stays, ?_⟩
  rw [Station.ownRow?, stays.slot, table]
  rfl

/-- A look at a task that ends a request whose answer is candid. -/
theorem poll_candid (candid : site.Candid id) (genuine : Genuine site (poll k site).1 id)
    (measures : site.measurer? k = some id) (finished : (poll k site).2.isSome = true)
    (plain : ∀ s row, site.stations[id]? = some s → s.ownRow? = some row →
      (s.measuredRow (poll k site).1.hardware row).peers.hides s.nodeCount s.slot = false) :
    (poll k site).1.Candid id := by
  obtain ⟨task, begun, c, found, turn, measures⟩ := measurer?_turn measures
  obtain ⟨done, hardware⟩ := poll_over found turn
  rw [finished] at done
  have entered := turn_retains turn id
  have rest := ((poll_turn found turn).2 id).mono fun d spares => spares.retains
  cases known : begun.stations[c.station]? with
  | none => simp [look, known, Progress.status?] at done
  | some b =>
    obtain ⟨rfl, -⟩ := look_requested measures known
    obtain ⟨s, hs, holds⟩ := turn_ownRow? turn known
    obtain ⟨before, since⟩ := genuine.split entered ((look_does begun c).passes.trans rest.passes)
    obtain ⟨-, after⟩ := since.split (look_does begun c) rest
    have stored : (begun.look c).1.Candid c.station := by
      refine look_candid measures (entered.candid candid before) known done.symm fun row own => ?_
      rw [← hardware, holds.measuredRow, holds.nodeCount, holds.slot]
      exact plain s row hs (holds.row.symm.trans own)
    exact rest.candid stored after

end Requests

/-! ## Runs -/

section Runs

variable {site : Site H} {id : Nat} {action : Action H}

/-- By an action station `id` gets an own row that hides its slot, from the engine or a frame. -/
def hidesSelf (id : Nat) (site : Site H) (action : Action H) : Bool :=
  site.answersSelf id action || ((site.perform action).stations[id]?).any fun s =>
    decide (site.hidings id s.slot s.nodeCount <
      (site.perform action).hidings id s.slot s.nodeCount)

/-- A station stays candid by whatever does not give it a row that hides its slot. -/
theorem perform_candid (quiet : site.hidesSelf id action = false) (candid : site.Candid id) :
    (site.perform action).Candid id := by
  obtain ⟨answer, frames⟩ := Bool.or_eq_false_iff.mp quiet
  have grows : site.Passes (site.perform action) := performAll_passes site [action]
  have genuine : Genuine site (site.perform action) id := by
    intro s hs
    have low := grows.hidings_le id s.slot s.nodeCount
    rw [hs, Option.any_some, decide_eq_false_iff_not] at frames
    omega
  cases ends : site.endsRequest id action with
  | false => exact (perform_retains ends).candid candid genuine
  | true =>
    obtain ⟨k, rfl, measures, finished⟩ := endsRequest_iff.mp ends
    refine poll_candid candid genuine measures finished fun s row hs own => ?_
    simpa [answersSelf, ends, hs, own, perform] using answer

/-- After every run by which a station gets no row that hides its slot it is candid. -/
theorem performAll_candid (hardware : H) {actions : List (Action H)}
    (quiet : ({ hardware } : Site H).follows (fun site action => !site.hidesSelf id action)
      actions = true) : (({ hardware } : Site H).performAll actions).Candid id := by
  refine follows_induction (P := fun site => site.Candid id) ?_ quiet ?_
  · intro site action allowed candid
    exact perform_candid (by simpa using allowed) candid
  · intro s none
    cases none

end Runs

/-! ## Broadcasts -/

section Broadcasts

variable {site begun : Site H} {c : Call} {s : Station}

/-- A look at a broadcast ends it because of its row, and nothing is asked of the hardware. -/
def Rejects (site : Site H) (c : Call) : Prop :=
  (site.look c).1.calls = site.calls ∧
    ∃ status, (site.look c).2 = .done status ∧ status.invalidRow = true

/-- A row that names as many peers as the survey has stations is not sent. -/
theorem look_rejects (hs : site.stations[c.station]? = some s) (sound : s.Sound)
    (fresh : c.stage = .fresh) (available : s.latch = .available)
    (full : c.Broadcasts s s.nodeCount) : site.Rejects c := by
  have unstarted : site.started? c s = none := by
    cases started : site.started? c s with
    | none => rfl
    | some answer => exact absurd full (sendable_of_started started).2
  obtain ⟨⟨hardware, trace, t, -, looked⟩, silent, -⟩ :=
    look_skipped hs sound fresh full.1 available unstarted
  have done : (site.look c).2 = .done t.status := by rw [looked]
  refine ⟨silent, t.status, done, ?_⟩
  have comes := look_begins hs sound fresh available
  clear silent looked
  generalize site.look c = result at comes done
  cases comes with
  | on => cases done
  | ended _ _ _ ends =>
    rw [← Progress.done.inj done]
    exact ends.tells.invalidRow.mpr full

/-- A broadcast that starts announces the own row, which names fewer peers than there are stations.
Without a row that hides the station among its peers, no row that names it is sent. -/
theorem self_range_unsent (hardware : H) (actions : List (Action H)) {task : Task}
    (turn : (({ hardware } : Site H).performAll actions).turn task = some (begun, c))
    (hs : begun.stations[c.station]? = some s) (activity : c.activity = .broadcast)
    (fresh : c.stage = .fresh) :
    ∃ row, s.ownRow? = some row ∧
      ((begun.look c).1.calls = begun.calls ∨
        row.peers.count ≠ 0 ∧ row.peers.count < s.nodeCount ∧
          (∀ p, p ∈ row.peers → p < s.nodeCount) ∧
          ∃ bytes, bytes = (Frame.announcement s.identity.address s.identity.cell s.round
              s.identity.slot row.peers row.packed).toBytes ∧
            (begun.look c).1.calls = [.armTransmit s.unit c.deadline,
              .control s.unit bytes.length false, .write s.unit 0 bytes] ++ begun.calls) ∧
      (s.latch = .available → row.peers.count = s.nodeCount → begun.Rejects c) ∧
      (({ hardware } : Site H).follows (fun site action => !site.hidesSelf c.station action)
          actions = true →
        ((begun.look c).1.calls ≠ begun.calls →
          ∀ p, p ∈ row.peers → p ∈ PeerSet.others s.nodeCount s.slot) ∧
        (s.latch = .available → s.slot ∈ row.peers → begun.Rejects c)) := by
  have passes : ({ hardware } : Site H).Passes begun :=
    (performAll_passes _ actions).trans (turn_does turn).passes
  have sound : s.Sound := Passes.sound passes hs
  obtain ⟨row, own, good⟩ := sound.ownRow
  have sends : (begun.look c).1.calls = begun.calls ∨ row.peers.count ≠ 0 ∧
      row.peers.count < s.nodeCount ∧
      ∃ bytes, bytes = (Frame.announcement s.identity.address s.identity.cell s.round
          s.identity.slot row.peers row.packed).toBytes ∧
        (begun.look c).1.calls = [.armTransmit s.unit c.deadline,
          .control s.unit bytes.length false, .write s.unit 0 bytes] ++ begun.calls := by
    rcases look_broadcast_asks hs activity fresh with ⟨s', length, prepared, asks⟩ | silent
    · right
      obtain ⟨row', own', some, few, -⟩ := Station.beginBroadcast_frame sound.front prepared
      obtain ⟨row'', own'', -, sent, whole⟩ := sound.announces prepared
      obtain rfl := Option.some.inj (own.symm.trans own')
      obtain rfl := Option.some.inj (own.symm.trans own'')
      refine ⟨some, few, _, sent, ?_⟩
      rw [whole]
      exact asks.calls
    · exact Or.inl silent.calls
  have rejects (available : s.latch = .available) (full : row.peers.count = s.nodeCount) :
      begun.Rejects c :=
    look_rejects hs sound fresh available ⟨activity, row, own, full⟩
  refine ⟨row, own, ?_, rejects, fun quiet => ?_⟩
  · rcases sends with silent | ⟨some, few, sent⟩
    · exact Or.inl silent
    · exact Or.inr ⟨some, few, good.peers, sent⟩
  have plain : row.peers.hides s.nodeCount s.slot = false := by
    obtain ⟨s₀, hs₀, holds⟩ := turn_ownRow? turn hs
    rw [holds.slot, holds.nodeCount]
    exact (performAll_candid hardware quiet s₀ hs₀).plain row (holds.row.symm.trans own)
  constructor
  · intro started p named
    rcases sends with silent | ⟨-, few, -⟩
    · exact absurd silent started
    · exact PeerSet.others_of_plain good.peers plain few named
  · intro available named
    have many : ¬ row.peers.count < s.nodeCount := by
      intro few
      have member : row.peers.contains s.slot = true := named
      simp [PeerSet.hides, member, few] at plain
    exact rejects available (Nat.le_antisymm good.count_le (Nat.le_of_not_lt many))

end Broadcasts

/-- Station 0 of three has measured, and the engine has reported the stations in the word
`reported`. -/
def measuredSelf (reported : BitVec 32) : List (Action Bench) :=
  [.enrol ⟨0, 3, ⟨0x100, 0, 12⟩, {}, 0⟩,
    .alter fun b => b.setEngine 0 { answered := ⟨reported⟩, distances := [5, 7, 9] },
    .start 0 (.call { station := 0, activity := .request, deadline := 0 }), .poll 0]

/-- The station is found out if it is reported with everybody else. -/
theorem self_range_unsent_full :
    let site := ({ hardware := oneAnswer } : Site Bench).performAll (measuredSelf 7#32)
    let c : Call := { station := 0, activity := .broadcast, deadline := 0 }
    ∃ s row, site.stations[0]? = some s ∧ s.ownRow? = some row ∧ s.slot ∈ row.peers ∧
      site.Rejects c := by
  intro site c
  have fields : (site.stations[0]?).map (fun s => (s.latch, s.slot, s.ownRow?)) =
      some (.available, 0, some ⟨⟨7#32⟩, [5, 7, 9]⟩) := by decide +kernel
  obtain ⟨s, hs, fields⟩ := Option.map_eq_some_iff.mp fields
  simp only [Prod.mk.injEq] at fields
  obtain ⟨available, slot, own⟩ := fields
  obtain ⟨row, own', -, -, honest⟩ := self_range_unsent oneAnswer (measuredSelf 7#32)
    (show site.turn (.call c) = some (site, c) from rfl) hs rfl rfl
  obtain rfl := Option.some.inj (own.symm.trans own')
  have named : s.slot ∈ (⟨7#32⟩ : PeerSet) := by
    rw [slot]
    decide
  exact ⟨s, _, hs, own, named, (honest (by decide +kernel)).2 available named⟩

def selfish : List UInt8 := (Frame.announcement 0x100 12 0 0 ⟨1#32⟩ [5]).toBytes

/-- The engine reports that the station has answered itself, or a station that waits for a row hears
one from its own slot that says so. Then the next broadcast announces it. -/
theorem self_range_sent :
    let measured := ({ hardware := oneAnswer } : Site Bench).performAll (measuredSelf 1#32)
    let told := ({ hardware := oneAnswer } : Site Bench).performAll
      [.enrol ⟨0, 3, ⟨0x100, 0, 12⟩, {}, 0⟩,
        .start 0 (.call { station := 0, activity := .receive, deadline := 0 }), .poll 0,
        .raise 0 (.received selfish), .poll 0]
    let c : Call := { station := 0, activity := .broadcast, deadline := 0 }
    let sent : List HardwareCall := [.armTransmit 0 0, .control 0 selfish.length false,
      .write 0 0 selfish]
    (measured.look c).1.calls = sent ++ measured.calls ∧
      (told.look c).1.calls = sent ++ told.calls ∧
      0 ∈ peersAt selfish ∧ 0 ∉ PeerSet.others 3 0 := by
  decide +kernel

end Site

end RangeSurvey
