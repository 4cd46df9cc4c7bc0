import RangeSurvey.Proofs.Site.OwnRow
import RangeSurvey.Proofs.Site.Relay
import RangeSurvey.Proofs.Site.Stretch

/-!
# One round for all of a slot

A station goes on to another round when it begins a slot, and by nothing else: the configuration may
change while the slot goes on, and so may everything around the station. So whatever a slot hands to
the radio, whatever row is stored while it goes on, and the note that it leaves at its end belong to
the round that the slot had when it began.
-/

namespace RangeSurvey

open Bytes RangeSurvey.Frame

abbrev Entry.taking (id : Nat) (bytes : List UInt8) : Entry :=
  .offered (.station id) (.received bytes) .handled

/-! ## Stations -/

namespace Station

/-- The bytes are a frame from the slot of the station in its round. -/
def Says (s : Station) (bytes : List UInt8) : Prop :=
  ∃ f, ofBytes? bytes = some f ∧ f.round = s.round ∧ f.slot = s.identity.slot

variable {s : Station}

theorem Part.run_round (s : Station) {p : Part} (stays : p.enters = false) :
    (p.run s).1.round = s.round := by
  cases p with
  | beginBroadcast =>
    obtain ⟨-, -, -, -, round⟩ := beginBroadcast_begun (Prod.eta s.beginBroadcast).symm
    exact round
  | enterRound => cases stays
  | _ => rfl

/-- No part of a step changes the row of another station. -/
theorem Part.run_row? (s : Station) (p : Part) {slot : Nat} (other : slot ≠ s.slot) :
    (p.run s).1.table.row? slot = s.table.row? slot := by
  cases measures : p.measures with
  | false => rw [Part.run_table s measures]
  | true =>
    cases p with
    | endRequest reported cells => exact Table.row?_modifyRow_of_ne _ _ other.symm
    | _ => cases measures

theorem hear_round (s : Station) (event : RadioEvent) :
    (s.hear event).station.round = s.round := by
  obtain ⟨table, latch, status, counters, heard⟩ := s.hear_eq event
  rw [heard]

/-- A row changes only for the one that a frame of the round announces. -/
theorem Sound.hear_row (sound : s.Sound) (event : RadioEvent) (slot : Nat) :
    (s.hear event).station.table.row? slot = s.table.row? slot ∨
      ∃ bytes, event = .received bytes ∧ (s.hear event).verdict = .handled ∧
        slotAt bytes = slot ∧
        (s.hear event).station.table.row? slot = some (announcedRow bytes s.nodeCount) := by
  rcases s.hear_row? event slot with same | ⟨bytes, rfl, handled, named⟩
  · exact Or.inl same
  · right
    obtain ⟨taken, -, station⟩ := sound.classified bytes
    obtain ⟨-, -, -, -, fits⟩ := taken.mp handled
    have inside : slotAt bytes < s.table.rows.length :=
      (show s.table.rows.length = s.nodeCount from sound.rows) ▸ fits.slot
    rw [if_pos (show (s.hearFrame bytes).verdict = .handled from handled)] at station
    refine ⟨bytes, rfl, handled, named, ?_⟩
    rw [Station.hear, station, ← named]
    exact List.getElem?_set_self inside

end Station

namespace Site

variable {H : Type}

/-! ## Rounds -/

/-- On the way to `b` station `id`, which was `s`, gets to round `r` or stays there: what it takes
for a row is of this round, and the rows of others change only for these. -/
structure Stores (r : UInt32) (id : Nat) (a b : Site H) (s s' : Station) (news : List Entry) :
    Prop where
  station : b.stations[id]? = some s'
  trace : b.trace = news ++ a.trace
  stays : s.Stays s'
  round : s'.round = r
  taken : ∀ bytes, .taking id bytes ∈ news → word32At bytes 11 = r
  rows : ∀ slot, slot ≠ s.slot → s'.table.row? slot = s.table.row? slot ∨
    ∃ bytes, .taking id bytes ∈ news ∧ slotAt bytes = slot ∧
      s'.table.row? slot = some (Station.announcedRow bytes s.nodeCount)

def Deed.entrant? : Deed → Option Nat
  | part id p => if p.enters then some id else none
  | _ => none

def Deed.Steady (id : Nat) (d : Deed) : Prop := d.entrant? ≠ some id

section Stores

variable {r : UInt32} {id : Nat} {a b c : Site H} {s s' t : Station}
  {news first second : List Entry}

/-- The station takes nothing for a row. -/
theorem Stores.silent (hs' : b.stations[id]? = some s') (trace : b.trace = news ++ a.trace)
    (stays : s.Stays s') (round : s'.round = r) (silent : ∀ bytes, Entry.taking id bytes ∉ news)
    (rows : ∀ slot, slot ≠ s.slot → s'.table.row? slot = s.table.row? slot) :
    Stores r id a b s s' news :=
  ⟨hs', trace, stays, round, fun bytes taken => absurd taken (silent bytes),
    fun slot other => Or.inl (rows slot other)⟩

/-- The station is left alone. -/
theorem Stores.still (hs' : b.stations[id]? = some s) (trace : b.trace = news ++ a.trace)
    (silent : ∀ bytes, Entry.taking id bytes ∉ news) : Stores s.round id a b s s news :=
  .silent hs' trace (.refl s) rfl silent fun _ _ => rfl

theorem Stores.trans (hab : Stores r id a b s s' first) (hbc : Stores r id b c s' t second) :
    Stores r id a c s t (second ++ first) where
  station := hbc.station
  trace := by rw [hbc.trace, hab.trace, List.append_assoc]
  stays := hab.stays.trans hbc.stays
  round := hbc.round
  taken bytes taken := (List.mem_append.mp taken).elim (hbc.taken bytes) (hab.taken bytes)
  rows slot other := by
    rcases hbc.rows slot (hab.stays.slot ▸ other) with same | ⟨bytes, taken, named, stored⟩
    · rcases hab.rows slot other with before | ⟨bytes, taken, named, stored⟩
      · exact Or.inl (same.trans before)
      · exact Or.inr ⟨bytes, List.mem_append_right _ taken, named, same.trans stored⟩
    · rw [hab.stays.nodeCount] at stored
      exact Or.inr ⟨bytes, List.mem_append_left _ taken, named, stored⟩

theorem not_taking_reported (j slot : Nat) (notices : List StationNotice) (bytes : List UInt8) :
    Entry.taking id bytes ∉ (notices.map fun n => Entry.reported j slot n).reverse := by
  simp

theorem not_taking_of_plain {e : Entry} (plain : e.isPlain = true) (bytes : List UInt8) :
    Entry.taking id bytes ∉ [e] := by
  rw [List.mem_singleton]
  rintro rfl
  cases plain

theorem Stores.part (hs : a.stations[id]? = some s) {j : Nat} {p : Station.Part}
    (steady : (Deed.part j p).Steady id) :
    ∃ s' news, Stores s.round id a (a.act j p.run) s s' news := by
  cases there : a.stations[j]? with
  | none =>
    rw [act_none p.run there]
    exact ⟨s, [], .still hs rfl fun _ => List.not_mem_nil⟩
  | some t =>
    rw [act_some p.run there]
    by_cases h : j = id
    · subst h
      obtain rfl := Option.some.inj (hs.symm.trans there)
      have stays : p.enters = false := by
        cases enters : p.enters with
        | false => rfl
        | true => exact absurd (if_pos enters) steady
      have inside := (List.getElem?_eq_some_iff.mp hs).1
      have moved : (Deed.part j p).Moves j s (p.run s).1 := .part p s
      exact ⟨(p.run s).1, _, .silent (List.getElem?_set_self inside) rfl
        (Station.stays_of_moves moved) (Station.Part.run_round s stays)
        (not_taking_reported _ _ _) fun slot other => Station.Part.run_row? s p other⟩
    · exact ⟨s, _, .still ((List.getElem?_set_ne h).trans hs) rfl (not_taking_reported _ _ _)⟩

theorem Stores.offer (hs : a.stations[id]? = some s) (sound : s.Sound) (event : RadioEvent)
    (sink : Sink) : ∃ s' news, Stores s.round id a (Site.offer event sink a).1 s s' news := by
  cases sink with
  | recorder label verdict => exact ⟨s, [_], .still hs rfl (by simp)⟩
  | station j =>
    cases there : a.stations[j]? with
    | none =>
      simp only [Site.offer, there]
      exact ⟨s, [], .still hs rfl fun _ => List.not_mem_nil⟩
    | some t =>
      simp only [Site.offer, there]
      rw [act_some _ there]
      by_cases h : j = id
      · subst h
        obtain rfl := Option.some.inj (hs.symm.trans there)
        have inside := (List.getElem?_eq_some_iff.mp hs).1
        have moved : (Deed.offer (.station j) event).Moves j s (s.hear event).station :=
          .hear event s
        refine ⟨(s.hear event).station, .offered (.station j) event (s.hear event).verdict :: _,
          List.getElem?_set_self inside, rfl, Station.stays_of_moves moved, s.hear_round event, ?_,
          ?_⟩
        · intro bytes taken
          rcases List.mem_cons.mp taken with heard | reported
          · obtain ⟨-, rfl, handled⟩ := Entry.offered.inj heard
            obtain ⟨-, -, -, concerns, -⟩ := (sound.classified bytes).1.mp handled.symm
            exact concerns.round
          · exact absurd reported (not_taking_reported _ _ _ _)
        · intro slot _
          rcases sound.hear_row event slot with same | ⟨bytes, rfl, handled, named, stored⟩
          · exact Or.inl same
          · rw [handled]
            exact Or.inr ⟨bytes, List.mem_cons_self, named, stored⟩
      · refine ⟨s, .offered (.station j) event (t.hear event).verdict :: _,
          .still ((List.getElem?_set_ne h).trans hs) rfl fun bytes taken => ?_⟩
        rcases List.mem_cons.mp taken with heard | reported
        · exact h (Sink.station.inj (Entry.offered.inj heard).1).symm
        · exact not_taking_reported _ _ _ _ reported

/-- A station stays in its round by every deed but one. -/
theorem Did.stores {d : Deed} (did : Did d a b) (steady : d.Steady id)
    (hs : a.stations[id]? = some s) (sound : s.Sound) :
    ∃ s' news, Stores s.round id a b s s' news := by
  have still {b : Site H} (stations : b.stations = a.stations) (trace : b.trace = a.trace) :
      ∃ s' news, Stores s.round id a b s s' news :=
    ⟨s, [], .still (by rw [stations, hs]) trace fun _ => List.not_mem_nil⟩
  cases did with
  | part _ j p => exact Stores.part hs steady
  | offer _ sink event => exact Stores.offer hs sound event sink
  | arm => exact ⟨s, [_], .still hs rfl (by simp)⟩
  | record _ plain => exact ⟨s, [_], .still hs rfl (not_taking_of_plain plain)⟩
  | join =>
    have known : id < a.stations.length := (List.getElem?_eq_some_iff.mp hs).1
    exact ⟨s, [], .still ((List.getElem?_append_left known).trans hs) rfl
      fun _ => List.not_mem_nil⟩
  | rewire stations trace => exact still stations trace
  | setting stations trace => exact still stations trace
  | tasking stations trace => exact still stations trace

theorem Does.stores (h : Does (Deed.Steady id) a b) (hs : a.stations[id]? = some s)
    (sound : s.Sound) : ∃ s' news, Stores s.round id a b s s' news ∧ s'.Sound := by
  induction h with
  | refl => exact ⟨s, [], .still hs rfl fun _ => List.not_mem_nil, sound⟩
  | tail _ last ih =>
    obtain ⟨d, steady, did⟩ := last
    obtain ⟨t, first, before, good⟩ := ih
    obtain ⟨t', second, after⟩ := did.stores steady before.station good
    obtain ⟨t'', ht'', moved⟩ := did.station before.station
    obtain rfl := Option.some.inj (after.station.symm.trans ht'')
    rw [before.round] at after
    exact ⟨t', _, before.trans after, good.moves moved⟩

end Stores

/-! ## The record -/

theorem not_plain_reported (j slot : Nat) (notices : List StationNotice) :
    ∀ e ∈ (notices.map fun n => Entry.reported j slot n).reverse, e.isPlain = false := by
  intro e mem
  obtain ⟨n, -, rfl⟩ := List.mem_map.mp (List.mem_reverse.mp mem)
  rfl

/-- Of what is neither heard nor done by a station, a deed records what it is about. -/
theorem Did.recorded {d : Deed} {a b : Site H} (did : Did d a b) :
    ∃ news, b.trace = news ++ a.trace ∧ ∀ e ∈ news, e.isPlain = true → d = .record e := by
  have nothing (same : b.trace = a.trace) :
      ∃ news, b.trace = news ++ a.trace ∧ ∀ e ∈ news, e.isPlain = true → d = .record e :=
    ⟨[], same, fun _ mem => absurd mem List.not_mem_nil⟩
  cases did with
  | part _ j p =>
    cases there : a.stations[j]? with
    | none => exact nothing (by rw [act_none p.run there])
    | some t =>
      rw [act_some p.run there]
      refine ⟨_, rfl, fun e mem plain => ?_⟩
      rw [not_plain_reported _ _ _ e mem] at plain
      cases plain
  | offer _ sink event =>
    cases sink with
    | recorder label verdict => exact ⟨[_], rfl, by simp [Entry.isPlain]⟩
    | station j =>
      cases there : a.stations[j]? with
      | none => exact nothing (by simp only [Site.offer, there])
      | some t =>
        simp only [Site.offer, there]
        rw [act_some _ there]
        refine ⟨_ :: _, rfl, fun e mem plain => ?_⟩
        rcases List.mem_cons.mp mem with rfl | mem
        · cases plain
        · rw [not_plain_reported _ _ _ e mem] at plain
          cases plain
  | arm _ _ arming => exact ⟨[_], rfl, by simp [Entry.isPlain, arming]⟩
  | record => exact ⟨[_], rfl, by simp⟩
  | join => exact nothing rfl
  | rewire _ same => exact nothing same
  | setting _ same => exact nothing same
  | tasking _ same => exact nothing same

/-- What has come on record by a chain of deeds is of their kinds. -/
theorem Does.recorded {ok : Deed → Prop} {a b : Site H} (h : Does ok a b) {news : List Entry}
    (trace : b.trace = news ++ a.trace) : ∀ e ∈ news, e.isPlain = true → ok (.record e) := by
  have added : ∃ news, b.trace = news ++ a.trace ∧
      ∀ e ∈ news, e.isPlain = true → ok (.record e) := by
    refine h.keeps (P := fun site => ∃ news, site.trace = news ++ a.trace ∧
      ∀ e ∈ news, e.isPlain = true → ok (.record e)) ?_
      ⟨[], rfl, fun _ mem => absurd mem List.not_mem_nil⟩
    rintro d x y hd did ⟨first, before, known⟩
    obtain ⟨second, after, about⟩ := did.recorded
    refine ⟨second ++ first, by rw [after, before, List.append_assoc], fun e mem plain => ?_⟩
    rcases List.mem_append.mp mem with new | old
    · exact about e new plain ▸ hd
    · exact known e old plain
  obtain ⟨news', trace', known⟩ := added
  rw [List.append_cancel_right (trace.symm.trans trace')]
  exact known

/-! ## Steps -/

theorem Deed.Outside.entrant? {d : Deed} (h : d.Outside) : d.entrant? = none := by
  cases h <;> rfl

theorem Deed.steady_of_none {d : Deed} {id : Nat} (none : d.entrant? = none) : d.Steady id := by
  rw [Deed.Steady, none]
  simp

/-- No call lets a station go on to another round. -/
theorem Deed.steady_covers (id station : Nat) : Covers (Deed.Steady id) station where
  aside _ aside := steady_of_none aside.outside.entrant?
  calm p calm := by
    simp only [Station.Part.isCalm, Bool.and_eq_true, Bool.not_eq_true'] at calm
    exact steady_of_none (by simp [Deed.entrant?, calm.2])
  say _ := steady_of_none rfl
  arm _ := steady_of_none rfl
  call _ _ _ := steady_of_none rfl

/-- What a deed hands to a radio satisfies `sent`, and the completion note that it leaves is
`note`. -/
def Deed.Speaks (sent : List UInt8 → Prop) (note : Completion) : Deed → Prop
  | record (.called (.write _ _ bytes)) => sent bytes
  | record (.announced n _) => n = note
  | _ => True

theorem Deed.speaks_covers (sent : List UInt8 → Prop) (note : Completion) (station : Nat) :
    Covers (Deed.Speaks sent note) station where
  aside d aside := by
    obtain ⟨outside, -⟩ := aside
    cases outside <;> trivial
  calm _ _ := trivial
  say _ := trivial
  arm _ := trivial
  call c _ writing := by
    cases c with
    | write => cases writing
    | _ => trivial

variable [Hardware H]

section Steps

variable {site begun : Site H} {c : Call} {s : Station} {k id : Nat}

theorem look_steady (site : Site H) (c : Call) (id : Nat) :
    Does (Deed.Steady id) site (site.look c).1 := by
  apply look_covered
  intro s _
  refine ⟨Deed.steady_covers id c.station, ?_, ?_, ?_⟩
  · intro _ _ _
    exact Deed.steady_of_none rfl
  · intro _ p takes
    cases p with
    | beginBroadcast => exact Deed.steady_of_none rfl
    | beginReceive => exact Deed.steady_of_none rfl
    | _ => cases takes
  · intro _ _ _ _
    exact Deed.steady_of_none rfl

theorem runCall_steady (site : Site H) (c : Call) (id : Nat) :
    Does (Deed.Steady id) site (site.runCall c).1 :=
  runCall_covered (look_steady site c id) fun _ status _ =>
    conclude_covered (Deed.steady_of_none rfl) (fun _ => Deed.steady_of_none rfl)
      (fun _ _ _ => Deed.steady_of_none rfl) status

/-- A call hands announcements of its station to the radio and leaves a note of its round. -/
theorem runCall_speaks (hs : site.stations[c.station]? = some s) (sound : s.Sound) :
    Does (Deed.Speaks s.Says ⟨s.device, s.round⟩) site (site.runCall c).1 := by
  apply runCall_covered
  · apply look_covered
    intro t ht
    obtain rfl := Option.some.inj (hs.symm.trans ht)
    refine ⟨Deed.speaks_covers _ _ _, fun _ _ _ => trivial, fun _ _ _ => trivial, ?_⟩
    intro _ s' length prepared
    obtain ⟨row, -, -, sent, -⟩ := sound.announces prepared
    exact ⟨_, by rw [sent, ofBytes?_toBytes], rfl, rfl⟩
  · intro after status looked
    apply conclude_covered trivial (fun _ => trivial)
    intro t ht kept
    have steady := look_steady site c c.station
    rw [looked] at steady
    obtain ⟨t', news, stores, -⟩ := steady.stores hs sound
    obtain rfl := Option.some.inj (ht.symm.trans stores.station)
    exact congrArg₂ Completion.mk stores.stays.device stores.round

end Steps

/-! ## Slots -/

def beginsSlot (device : Nat) (site : Site H) : Action H → Bool
  | .poll k =>
    match site.task? k with
    | some (.slot job) => job.device == device
    | _ => false
  | _ => false

/-- Task `k` goes on, and no slot of the device begins. -/
def during (k device : Nat) (site : Site H) (action : Action H) : Bool :=
  (site.task? k).isSome && !site.beginsSlot device action

section Slots

variable {r : UInt32} {site begun : Site H} {c : Call} {s t : Station} {k id : Nat} {job : SlotJob}

/-- A station stays in its round when a slot of another device begins. -/
theorem enter_steady (hs : site.stations[id]? = some s) (other : job.device ≠ s.device) :
    Does (Deed.Steady id) site (site.enter job).1 := by
  cases called : (site.enter job).2 with
  | none =>
    rcases (enter_eq_none called).2 with same | noted
    · rw [same]
      exact Does.refl _ site
    · rw [noted]
      exact (Deed.steady_covers id id).does (note_does site _)
  | some c =>
    obtain ⟨i, t, found, ht, -, same⟩ := enter_eq_some called
    have apart : i ≠ id := by
      rintro rfl
      obtain ⟨-, t', ht', device⟩ := find?_some found
      obtain rfl := Option.some.inj (hs.symm.trans ht')
      exact other device.symm
    rw [same]
    refine takePart_does ht job fun _ _ => ?_
    simpa [Deed.Steady, Deed.entrant?, Station.Part.enters] using apart

theorem run_steady (hs : site.stations[id]? = some s) {task : Task}
    (other : ∀ job, task = .slot job → job.device ≠ s.device) :
    Does (Deed.Steady id) site (site.run task).1 := by
  cases task with
  | call c => exact runCall_steady site c id
  | slot job =>
    have entered : Does (Deed.Steady id) site (site.enter job).1 := enter_steady hs (other job rfl)
    simp only [run]
    split
    · next heq =>
      rw [heq] at entered
      exact entered
    · next site' c heq =>
      rw [heq] at entered
      exact entered.trans (runCall_steady site' c id)

omit [Hardware H] in
theorem cancel_steady (site : Site H) (k id : Nat) :
    Does (Deed.Steady id) site (site.cancel k).1 := by
  have removed : Does (Deed.Steady id) site (site.removeTask k) :=
    tasking_does rfl rfl rfl rfl (Deed.steady_of_none rfl)
  simp only [cancel]
  split
  · exact Does.refl _ site
  · exact removed
  · next c _ =>
    refine removed.trans ?_
    simp only [abandon]
    split
    · exact (Deed.steady_covers id c.station).calm_does _ .freeEngine rfl
    · exact Does.refl _ _

/-- A station goes on to another round only when a slot of its device begins. -/
theorem perform_steady (hs : site.stations[id]? = some s) {action : Action H}
    (other : site.beginsSlot s.device action = false) :
    Does (Deed.Steady id) site (site.perform action) := by
  cases outside : action.isOutside with
  | true => exact (outside_does site outside).mono fun d h => Deed.steady_of_none h.entrant?
  | false =>
    cases action with
    | start number task =>
      simp only [perform]
      split
      · exact Does.refl _ site
      · exact tasking_does rfl rfl rfl rfl (Deed.steady_of_none rfl)
    | cancel number => exact cancel_steady site number id
    | poll number =>
      cases found : site.task? number with
      | none =>
        simp only [perform, poll, found]
        exact Does.refl _ site
      | some task =>
        refine poll_covered found (run_steady hs ?_) (Deed.steady_of_none rfl)
          fun _ => Deed.steady_of_none rfl
        rintro job rfl
        simpa [beginsSlot, found] using other
    | _ => cases outside

omit [Hardware H] in
/-- A frame that is handed to a radio and a note that is left are those of a station in its
round. -/
theorem Does.speaks {a b : Site H} {news : List Entry} {note : Completion}
    (h : Does (Deed.Speaks s.Says note) a b) (trace : b.trace = news ++ a.trace) :
    (∀ unit offset bytes, .called (.write unit offset bytes) ∈ news → s.Says bytes) ∧
      ∀ n kept, .announced n kept ∈ news → n = note :=
  ⟨fun _ _ _ written => h.recorded trace _ written rfl,
    fun _ _ announced => h.recorded trace _ announced rfl⟩

theorem poll_call_speaks (found : site.task? k = some (.call c))
    (hs : site.stations[c.station]? = some s) (sound : s.Sound) :
    Does (Deed.Speaks s.Says ⟨s.device, s.round⟩) site (poll k site).1 :=
  poll_covered found (runCall_speaks hs sound) trivial fun _ => trivial

end Slots

end Site

end RangeSurvey
