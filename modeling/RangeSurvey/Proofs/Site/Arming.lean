import RangeSurvey.Proofs.Site.Wait
import RangeSurvey.Proofs.Station.Frames

/-!
# How a wait begins and ends

A look at a broadcast or a receive that finds the token takes it and arms the radio, unless there is
nothing to send or the radio does not start; from then on the station waits. A look at a call that
waits changes nothing: the call is done, with the status of its station, if the token is back.
-/

namespace RangeSurvey

def Outcome.status? : Outcome → Option Status
  | step status => some status
  | slot report => report.map SlotReport.status

def Progress.status? : Progress → Option Status
  | waiting _ => none
  | done status => some status

namespace Station

/-- How a call stands that waits for the radio of its station. -/
def progress (s : Station) (c : Call) : Progress :=
  match s.latch with
  | .held => .waiting { c with stage := .armed }
  | .available => .done s.status

/-- The status of a station that has a row of its own but nothing that it could send. -/
theorem prepare_status (s : Station) :
    (s.prepare.2 = .empty → s.prepare.1.status.nothingToSend = true) ∧
      ∀ peers, s.prepare.2 = .invalidRow peers → s.prepare.1.status.invalidRow = true := by
  simp only [prepare]
  split
  · simp
  split
  · simp
  split
  · simp
  split
  · simp
  · simp

/-- A sound station that skips a broadcast says so in its status. -/
theorem Sound.skips {s : Station} (sound : s.Sound)
    (skips : ∀ length, s.beginBroadcast.2 ≠ .frame length)
    (succeeded : s.beginBroadcast.1.status.succeeded = true) :
    s.beginBroadcast.1.status.nothingToSend = true := by
  obtain ⟨empty, invalid⟩ := prepare_status { s with
    latch := s.latch.take.1
    counters := { s.counters with broadcasts := s.counters.broadcasts + 1 }
    status := s.status.clearStep }
  obtain ⟨row, room⟩ := sound.beginBroadcast_prepares
  cases prepared : s.beginBroadcast.2 with
  | frame length => exact absurd prepared (skips length)
  | noRow => exact absurd prepared row
  | noRoom peers => exact absurd prepared (room peers)
  | empty => exact empty prepared
  | invalidRow peers =>
    have failed : s.beginBroadcast.1.status.invalidRow = true := invalid peers prepared
    simp [Status.succeeded, failed] at succeeded

end Station

namespace Site

variable {H : Type}

theorem update_self {site : Site H} {id : Nat} {s : Station} {f : Station → Station}
    (hs : site.stations[id]? = some s) (same : f s = s) : site.update id f = site := by
  obtain ⟨inside, rfl⟩ := List.getElem?_eq_some_iff.mp hs
  rw [update, act_some _ hs]
  simp [same]

/-- A look at a call that waits for the radio changes nothing. -/
theorem lookArmed_eq {site : Site H} {c : Call} {s : Station}
    (hs : site.stations[c.station]? = some s) : site.lookArmed c s = (site, s.progress c) := by
  cases latch : s.latch with
  | held => simp only [lookArmed, Station.progress, latch]
  | available =>
    simp only [lookArmed, Station.progress, latch]
    rw [update_self hs (Station.endWait_of_available latch), finish, hs]

theorem look_armed [Hardware H] {site : Site H} {c : Call} {s : Station} (armed : c.stage = .armed)
    (hs : site.stations[c.station]? = some s) : site.look c = (site, s.progress c) := by
  simp only [look, hs, advance, armed, lookArmed_eq hs]

theorem waitArmed_eq {site : Site H} {c : Call} {s : Station}
    (hs : site.stations[c.station]? = some s) : site.waitArmed c = (site, s.progress c) := by
  simp only [waitArmed, hs, lookArmed_eq hs]

/-- The station ends its call with what it has just done. -/
theorem finish_act {site : Site H} {c : Call} {s : Station}
    {f : Station → Station × List StationNotice} (hs : site.stations[c.station]? = some s) :
    ((site.act c.station f).finish c).2 = .done (f s).1.status := by
  have here := Did.stations_act site c.station c.station f
  rw [if_pos rfl, hs, Option.map_some] at here
  rw [finish, here]

/-- What there is when the radio of station `id` is armed for an activity, by a look that finds the
token on `site`: the station is `a` then, and `base` is on record, the arming as its last entry. -/
structure Arming (site : Site H) (id : Nat) (activity : Activity) (a : Station)
    (base : List Entry) : Prop where
  held : a.latch = .held
  sound : a.Sound
  station : ∃ s, site.stations[id]? = some s ∧ a.unit = s.unit ∧ a.table = s.table ∧
    a.nodeCount = s.nodeCount
  record : ∃ arm older, base = arm :: older ∧ arm.armedFor? a.unit = some activity ∧
    site.trace <:+ older

variable [Hardware H]

/-- A look at call `c` arms the radio, and then hears what the radio may report at once. -/
def Arms (site : Site H) (c : Call) (a : Station) (base : List Entry) : Prop :=
  site.Arming c.station c.activity a base ∧ ∃ armed after : Site H,
    armed.stations[c.station]? = some a ∧ armed.trace = base ∧
      Does (Deed.Within none none none) armed after ∧ site.look c = after.waitArmed c

section Gated

variable {site : Site H} {c : Call} {s : Station}

omit [Hardware H] in
/-- Only a broadcast or a receive that has not begun finds the token. -/
theorem of_token? {id : Nat} (token : site.token? c = some id) :
    ∃ s, c.isGated = true ∧ site.stations[c.station]? = some s ∧ s.latch = .available := by
  simp only [token?, Option.bind_eq_some_iff, Option.ite_none_right_eq_some,
    Bool.and_eq_true] at token
  obtain ⟨s, hs, ⟨gated, idle⟩, -⟩ := token
  exact ⟨s, gated, hs, Station.isIdle_iff.mp idle⟩

/-- The radio is armed to send, and may report something at once, unless it does not start. -/
theorem transmit_arms (hs : site.stations[c.station]? = some s) (length : Nat) :
    (∃ armed after : Site H, armed.stations = site.stations ∧
      (∃ older, armed.trace = .called (.armTransmit s.unit c.deadline) :: older ∧
        site.trace <:+ older) ∧
      Does (Deed.Within none none none) armed after ∧ site.transmit c s length = after.waitArmed c) ∨
    (site.transmit c s length).2 = .done s.failTransmit.1.status := by
  simp only [transmit_eq]
  split
  · next events _ =>
    left
    have heard (armed : Site H) : Does (Deed.Within none none none) armed
        ((armed.raiseAll s.unit events).say c.station (.broadcastStarted length)) :=
      ((raiseAll_does armed s.unit events).within _ _ _).trans (say_does _ _ _)
    refine ⟨_, _, ?_, ?_, heard _, rfl⟩
    · rfl
    · exact ⟨_, rfl, [_, _], rfl⟩
  · exact Or.inr (finish_act hs)

theorem tryBroadcast_arms (hs : site.stations[c.station]? = some s) (sound : s.Sound)
    (activity : c.activity = .broadcast) (available : s.latch = .available)
    (looked : site.look c = site.tryBroadcast c s) :
    (∃ a base, site.Arms c a base) ∨ ∃ status, (site.look c).2 = .done status ∧
      (status.succeeded = true → status.nothingToSend = true) := by
  obtain ⟨buffer, nothingToSend, invalidRow, begun⟩ := s.beginBroadcast_eq
  have there := stations_update hs fun _ => s.beginBroadcast.1
  have unsaid : (site.update c.station fun _ => s.beginBroadcast.1).trace = site.trace := by
    rw [update, act_some _ hs]
    rfl
  cases prepared : s.beginBroadcast.2 with
  | frame length =>
    simp only [tryBroadcast, available, prepared] at looked
    rcases transmit_arms there length with
      ⟨armed, after, stations, ⟨older, trace, since⟩, heard, waits⟩ | failed
    · left
      have unit : s.beginBroadcast.1.unit = s.unit := by rw [begun]
      have arming : site.Arming c.station c.activity s.beginBroadcast.1 armed.trace := by
        refine ⟨by rw [begun], sound.beginBroadcast, ⟨s, hs, unit, ?_, ?_⟩, _, older, trace, ?_, ?_⟩
        · rw [begun]
        · rw [begun]
        · simp [Entry.armedFor?, activity]
        · rwa [unsaid] at since
      exact ⟨_, _, arming, armed, after, stations ▸ there, rfl, heard, looked.trans waits⟩
    · right
      rw [looked]
      exact ⟨_, failed, by simp [Station.failTransmit, Status.succeeded]⟩
  | _ =>
    right
    simp only [tryBroadcast, available, prepared] at looked
    rw [looked]
    exact ⟨_, finish_act there, sound.skips (by simp [prepared])⟩

theorem tryReceive_arms (hs : site.stations[c.station]? = some s) (sound : s.Sound)
    (activity : c.activity = .receive) (available : s.latch = .available)
    (looked : site.look c = site.tryReceive c s) :
    (∃ a base, site.Arms c a base) ∨ ∃ status, (site.look c).2 = .done status ∧
      status.succeeded = false := by
  have there := stations_update hs Station.beginReceive
  have unsaid : (site.update c.station Station.beginReceive).trace = site.trace := by
    rw [update, act_some _ hs]
    rfl
  simp only [tryReceive_eq, available] at looked
  split at looked
  · left
    refine ⟨s.beginReceive, _, ?_, _, _, ?_, rfl, (raiseAll_does _ _ _).within _ _ _, looked⟩
    · refine ⟨Latch.take_fst _, sound.same rfl rfl rfl rfl, ⟨s, hs, rfl, rfl, rfl⟩, _, _, rfl, ?_, ?_⟩
      · simp [Entry.armedFor?, activity, Station.beginReceive]
      · exact ⟨[], unsaid.symm⟩
    · exact there
  · right
    rw [looked]
    exact ⟨_, finish_act there, by simp [Station.failReceive, Status.succeeded]⟩

/-- A look at a broadcast or a receive that finds the token arms the radio, or it is done at once,
without success unless a broadcast had nothing to send. -/
theorem look_gated (hs : site.stations[c.station]? = some s) (sound : s.Sound)
    (gated : c.isGated = true) (available : s.latch = .available) :
    (∃ a base, site.Arms c a base) ∨ ∃ status, (site.look c).2 = .done status ∧
      (status.succeeded = true → c.activity = .broadcast ∧ status.nothingToSend = true) := by
  simp only [Call.isGated, Bool.and_eq_true, Bool.or_eq_true, beq_iff_eq] at gated
  obtain ⟨stage, activity | activity⟩ := gated
  · have looked : site.look c = site.tryBroadcast c s := by
      simp only [look, hs, advance, stage, activity]
    rcases tryBroadcast_arms hs sound activity available looked with arms | ⟨status, done, empty⟩
    · exact Or.inl arms
    · exact Or.inr ⟨status, done, fun succeeded => ⟨activity, empty succeeded⟩⟩
  · have looked : site.look c = site.tryReceive c s := by
      simp only [look, hs, advance, stage, activity]
    rcases tryReceive_arms hs sound activity available looked with arms | ⟨status, done, failed⟩
    · exact Or.inl arms
    · refine Or.inr ⟨status, done, fun succeeded => ?_⟩
      rw [failed] at succeeded
      cases succeeded

/-- A broadcast or a receive that has not begun is not done by a look that finds no token. -/
theorem available_of_done {status : Status} (gated : c.isGated = true)
    (done : (site.look c).2.status? = some status) :
    ∃ s, site.stations[c.station]? = some s ∧ s.latch = .available := by
  simp only [Call.isGated, Bool.and_eq_true, Bool.or_eq_true, beq_iff_eq] at gated
  obtain ⟨stage, activity⟩ := gated
  cases hs : site.stations[c.station]? with
  | none => simp [look, hs, Progress.status?] at done
  | some s =>
    cases latch : s.latch with
    | available => exact ⟨s, rfl, latch⟩
    | held =>
      rcases activity with activity | activity
      · simp [look, hs, advance, stage, activity, tryBroadcast, latch, Progress.status?] at done
      · simp [look, hs, advance, stage, activity, tryReceive_eq, latch, Progress.status?] at done

/-- After a look that has armed the radio the station waits, and the call with it. -/
theorem Arms.waits {a : Station} {base : List Entry} (arms : site.Arms c a base)
    (alone : (site.look c).1.alone c.station) :
    (site.look c).1.Waits c.station a base ∧
      ∃ s, (site.look c).1.stations[c.station]? = some s ∧ (site.look c).2 = s.progress c := by
  obtain ⟨arming, armed, after, ha, rfl, heard, looked⟩ := arms
  obtain ⟨s, hs⟩ := heard.remains ha
  rw [looked, waitArmed_eq hs] at alone ⊢
  have began : armed.Waits c.station a armed.trace :=
    ⟨a, [], ha, rfl, .pending (.refl a) rfl, rfl, List.forall_mem_nil _⟩
  have spares : Does (Deed.Spares c.station) armed after :=
    heard.mono fun d within => within.spares (by simp)
  exact ⟨spares.waits arming.held began alone, s, hs, rfl⟩

end Gated

/-! ## Looks at tasks -/

section Tasks

variable {site begun : Site H} {c : Call} {task : Task} {k : Nat}

omit [Hardware H] in
theorem conclude_status (site : Site H) (c : Call) (status : Status) :
    (site.conclude c status).2.status? = some status := by
  rw [conclude]
  split
  · rfl
  simp only
  split
  · split
    · rfl
    · rfl
  · rfl

theorem run_turn (turn : site.turn task = some (begun, c)) : site.run task = begun.runCall c := by
  cases task with
  | call c =>
    cases turn
    rfl
  | slot job =>
    simp only [Site.turn, Option.map_eq_some_iff] at turn
    obtain ⟨c', entered, same⟩ := turn
    cases same
    rw [run, show site.enter job = (_, some _) from Prod.ext rfl entered]

/-- A call on its turn has entered its round at most. -/
theorem turn_does (turn : site.turn task = some (begun, c)) :
    Does (Deed.Within (some c.station) none none) site begun := by
  cases task with
  | call c =>
    cases turn
    exact Does.refl _ site
  | slot job =>
    have entered : Does (Deed.Within ((site.turn (.slot job)).map fun t => t.2.station) none none)
        site (site.enter job).1 := enter_does site job
    rw [turn] at entered
    simp only [Site.turn, Option.map_eq_some_iff] at turn
    obtain ⟨c', -, same⟩ := turn
    cases same
    exact entered

/-- A station that takes its part in a slot enters the round and stays as it is otherwise. -/
theorem turn_station (turn : site.turn task = some (begun, c)) {id : Nat} {t : Station}
    (ht : begun.stations[id]? = some t) : ∃ s, site.stations[id]? = some s ∧ t.unit = s.unit ∧
      t.table = s.table ∧ t.nodeCount = s.nodeCount := by
  cases task with
  | call c =>
    cases turn
    exact ⟨t, ht, rfl, rfl, rfl⟩
  | slot job =>
    simp only [Site.turn, Option.map_eq_some_iff] at turn
    obtain ⟨c', called, same⟩ := turn
    cases same
    obtain ⟨i, s, -, hs, -, entered⟩ := enter_eq_some called
    rw [entered] at ht
    simp only [takePart, act_some _ hs] at ht
    by_cases here : i = id
    · subst here
      have inside := (List.getElem?_eq_some_iff.mp hs).1
      rw [List.getElem?_set_self inside] at ht
      cases ht
      exact ⟨s, hs, rfl, rfl, rfl⟩
    · exact ⟨t, (List.getElem?_set_ne here).symm.trans ht, rfl, rfl, rfl⟩

omit [Hardware H] in
theorem conclude_spares (site : Site H) (c : Call) (status : Status) (id : Nat) :
    Does (Deed.Spares id) site (site.conclude c status).1 := by
  have bounded : Does (Deed.Within none none none) site (site.conclude c status).1 :=
    conclude_does site c status
  exact bounded.mono fun _ within => within.spares (by simp)

/-- A look at a task gives the status of its call when the call is done, and lets no step go on but
in the look at the call. -/
theorem poll_turn (found : site.task? k = some task) (turn : site.turn task = some (begun, c)) :
    (poll k site).2.bind Outcome.status? = (begun.look c).2.status? ∧
      ∀ id, Does (Deed.Spares id) (begun.look c).1 (poll k site).1 := by
  have tasked {x y : Site H} (id : Nat) (stations : y.stations = x.stations)
      (trace : y.trace = x.trace) (chain : y.chain = x.chain) (roster : y.roster = x.roster) :
      Does (Deed.Spares id) x y :=
    Does.single (.tasking stations trace chain roster) (Deed.spares_of_none rfl)
  simp only [poll, found, run_turn turn, runCall]
  cases looked : begun.look c with
  | mk after progress =>
    cases progress with
    | waiting c' => exact ⟨rfl, fun id => tasked id rfl rfl rfl rfl⟩
    | done status =>
      refine ⟨conclude_status after c status, fun id => ?_⟩
      have removed : Does (Deed.Spares id) (after.conclude c status).1
          ((after.conclude c status).1.removeTask k) := tasked id rfl rfl rfl rfl
      exact ((conclude_spares after c status id).trans removed).trans
        (record_does _ rfl (Deed.spares_of_none rfl))

theorem Arming.of_turn {id : Nat} {activity : Activity} {a : Station} {base : List Entry}
    (arming : begun.Arming id activity a base) (turn : site.turn task = some (begun, c)) :
    site.Arming id activity a base := by
  obtain ⟨held, sound, ⟨t, ht, unit, table, nodeCount⟩, arm, older, told, armed, before⟩ := arming
  obtain ⟨s, hs, unit', table', nodeCount'⟩ := turn_station turn ht
  exact ⟨held, sound, ⟨s, hs, unit.trans unit', table.trans table', nodeCount.trans nodeCount'⟩,
    arm, older, told, armed, (turn_does turn).record_grows.trans before⟩

/-- The station at the end of a look that ends a wait. -/
theorem poll_ends {s : Station} {status : Status} (found : site.task? k = some task)
    (turn : site.turn task = some (begun, c))
    (hs : (begun.look c).1.stations[c.station]? = some s)
    (progress : (begun.look c).2 = s.progress c) (alone : (poll k site).1.alone c.station)
    (ended : (poll k site).2.bind Outcome.status? = some status) :
    ∃ s', (poll k site).1.stations[c.station]? = some s' ∧ s'.latch = .available ∧
      s'.status.succeeded = status.succeeded := by
  obtain ⟨result, rest⟩ := poll_turn found turn
  rw [result, progress] at ended
  cases latch : s.latch with
  | held => simp [Station.progress, latch, Progress.status?] at ended
  | available =>
    simp only [Station.progress, latch, Progress.status?, Option.some.injEq] at ended
    subst ended
    obtain ⟨s', hs', like⟩ := (rest c.station).alike hs latch alone
    exact ⟨s', hs', like.latch.trans latch, like.succeeded⟩

/-- A look at a task that finds the token begins a wait, or the task is over at once, without
success unless a broadcast had nothing to send. -/
theorem poll_begins {s : Station}
    (found : site.task? k = some task) (turn : site.turn task = some (begun, c))
    (gated : c.isGated = true) (hs : begun.stations[c.station]? = some s)
    (available : s.latch = .available) (sound : s.Sound)
    (alone : (poll k site).1.alone c.station) :
    (∃ a base, site.Arming c.station c.activity a base ∧ (poll k site).1.Waits c.station a base ∧
      ∃ s', (begun.look c).1.stations[c.station]? = some s' ∧ (begun.look c).2 = s'.progress c) ∨
    ∃ status, (poll k site).2.bind Outcome.status? = some status ∧
      (status.succeeded = true → c.activity = .broadcast ∧ status.nothingToSend = true) := by
  obtain ⟨result, rest⟩ := poll_turn found turn
  rcases look_gated hs sound gated available with ⟨a, base, arms⟩ | ⟨status, done, empty⟩
  · left
    obtain ⟨waits, known⟩ := arms.waits ((rest c.station).alone alone)
    exact ⟨a, base, arms.1.of_turn turn, (rest c.station).waits arms.1.held waits alone, known⟩
  · right
    refine ⟨status, ?_, empty⟩
    rw [result, done]
    rfl

end Tasks

end Site

end RangeSurvey
