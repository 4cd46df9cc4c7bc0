import RangeSurvey.Proofs.Site.Slots
import RangeSurvey.Proofs.Slot.Deadline

/-!
# When the units of a slot start

A station hands its unit no start but the deadline that it has when the slot begins, however late it
finds its engine or its token free and whatever happens meanwhile. So of two stations in one slot,
the one whose turn it is and one that listens, the second has its unit start one preamble before the
first.
-/

namespace RangeSurvey

def Exchange.start : Exchange → UInt64
  | request _ start _ _ | listen start _ => start

/-- When a unit is to start, if that is what it is told. -/
def HardwareCall.start? : HardwareCall → Option UInt64
  | armTransmit _ start | armReceive _ _ start => some start
  | exchange _ e => some e.start
  | _ => none

def Station.Broadcast.isFrame : Station.Broadcast → Bool
  | frame _ => true
  | _ => false

/-- The station has all that it takes to begin with an activity at once. -/
def Station.canBegin (s : Station) : Activity → Bool
  | .request | .listen => !s.engineBusy
  | .broadcast => s.isIdle && s.beginBroadcast.2.isFrame
  | .receive => s.isIdle

namespace Site

variable {H : Type}

def startTimes (site : Site H) : List UInt64 := site.calls.filterMap HardwareCall.start?

/-- A look tells a unit to start at a time, or tells none to start. -/
def Starts (time : UInt64) (a b : Site H) : Prop :=
  b.startTimes = a.startTimes ∨ b.startTimes = time :: a.startTimes

theorem startTimes_act (site : Site H) (id : Nat) (f : Station → Station × List StationNotice) :
    (site.act id f).startTimes = site.startTimes := by
  rw [startTimes, calls_act, startTimes]

theorem startTimes_update (site : Site H) (id : Nat) (f : Station → Station) :
    (site.update id f).startTimes = site.startTimes := startTimes_act site id _

theorem startTimes_finish (site : Site H) (c : Call) :
    (site.finish c).1.startTimes = site.startTimes := by
  rw [finish_fst]

theorem startTimes_lookArmed (site : Site H) (c : Call) (s : Station) :
    (site.lookArmed c s).1.startTimes = site.startTimes := by
  simp only [lookArmed]
  split
  · rfl
  · rw [startTimes_finish, startTimes_update]

variable [Hardware H]

/-! ## Looks at calls -/

section Looks

variable (site : Site H) (c : Call) (s : Station)

theorem startTimes_endExchange (e : Exchange) :
    (site.endExchange c s e).startTimes = site.startTimes := by
  cases e with
  | listen => exact startTimes_update site _ _
  | request =>
    simp only [endExchange]
    split
    · exact startTimes_update site _ _
    · exact startTimes_act (site.call _) _ _

theorem startTimes_lookExchange (first : Bool) (e : Exchange) :
    (site.lookExchange c s first e).1.startTimes = site.startTimes := by
  simp only [lookExchange]
  split
  · rw [startTimes_finish, startTimes_endExchange]
    rfl
  · rfl

theorem startTimes_beginExchange (e : Exchange) :
    (site.beginExchange c s e).1.startTimes = e.start :: site.startTimes := by
  rw [beginExchange, startTimes_lookExchange, ← startTimes_update site c.station Station.takeEngine]
  rfl

theorem startTimes_transmit (length : Nat) :
    (site.transmit c s length).1.startTimes = c.deadline :: site.startTimes := by
  rw [startTimes, (transmit_asks site c s length).calls]
  rfl

theorem tryRequest_starts (mode : Sidedness) :
    Starts c.deadline site (site.tryRequest c s mode).1 := by
  simp only [tryRequest]
  split
  · exact Or.inl rfl
  · exact Or.inr (startTimes_beginExchange site c s _)

theorem tryListen_starts : Starts c.deadline site (site.tryListen c s).1 := by
  simp only [tryListen]
  split
  · exact Or.inl rfl
  · right
    rw [startTimes_beginExchange, say, startTimes_act]
    rfl

theorem tryBroadcast_starts : Starts c.deadline site (site.tryBroadcast c s).1 := by
  rw [tryBroadcast]
  split
  · exact Or.inl rfl
  simp only
  split
  · right
    rw [startTimes_transmit, startTimes_update]
  · left
    rw [startTimes_finish, startTimes_act, startTimes_update]

theorem tryReceive_begins (available : s.latch = .available) :
    (site.tryReceive c s).1.startTimes = c.deadline :: site.startTimes := by
  have armed (hardware : H) (timeout : UInt16) :
      ((({ site.update c.station Station.beginReceive with hardware } : Site H)).call
        (.armReceive s.unit timeout c.deadline)).startTimes = c.deadline :: site.startTimes :=
    congrArg (c.deadline :: ·) (startTimes_update site c.station Station.beginReceive)
  simp only [tryReceive_eq, available]
  split
  · rw [startTimes, calls_waitArmed, calls_raiseAll]
    exact armed _ _
  · rw [startTimes_finish, startTimes_act]
    exact armed _ _

theorem tryReceive_starts : Starts c.deadline site (site.tryReceive c s).1 := by
  cases latch : s.latch with
  | held =>
    simp only [tryReceive_eq, latch]
    exact Or.inl rfl
  | available => exact Or.inr (tryReceive_begins site c s latch)

/-- A look at a call tells no unit to start but at the deadline of the call. -/
theorem look_starts : Starts c.deadline site (site.look c).1 := by
  rw [look]
  split
  · exact Or.inl rfl
  next s _ =>
    unfold advance
    split
    · split
      · rcases tryRequest_starts (site.act c.station Station.beginRequest) c s s.config.mode with
          same | starts
        · exact Or.inl (same.trans (startTimes_act site _ _))
        · exact Or.inr (starts.trans (congrArg _ (startTimes_act site _ _)))
      · rcases tryListen_starts (site.update c.station Station.beginListen) c s with same | starts
        · exact Or.inl (same.trans (startTimes_update site _ _))
        · exact Or.inr (starts.trans (congrArg _ (startTimes_update site _ _)))
      · exact tryBroadcast_starts site c s
      · exact tryReceive_starts site c s
    · exact tryRequest_starts site c s _
    · exact tryListen_starts site c s
    · exact Or.inl (startTimes_lookExchange site c s false _)
    · exact Or.inl (startTimes_lookArmed site c s)

/-- A call that can begin at once tells its unit to start. -/
theorem look_of_free {site : Site H} {c : Call} {s : Station}
    (hs : site.stations[c.station]? = some s) (fresh : c.stage = .fresh)
    (free : s.canBegin c.activity = true) :
    (site.look c).1.startTimes = c.deadline :: site.startTimes := by
  cases activity : c.activity with
  | request =>
    rw [activity, Station.canBegin, Bool.not_eq_true'] at free
    simp only [look, hs, advance, fresh, activity, tryRequest, free, Bool.false_eq_true, if_false,
      startTimes_beginExchange, startTimes_act, Exchange.start]
  | listen =>
    rw [activity, Station.canBegin, Bool.not_eq_true'] at free
    simp only [look, hs, advance, fresh, activity, tryListen, free, Bool.false_eq_true, if_false,
      startTimes_beginExchange, say, startTimes_act, startTimes_update, Exchange.start]
  | broadcast =>
    rw [activity, Station.canBegin, Bool.and_eq_true, Station.isIdle_iff] at free
    obtain ⟨available, prepared⟩ := free
    simp only [look, hs, advance, fresh, activity, tryBroadcast, available]
    split
    · rw [startTimes_transmit, startTimes_update]
    · next skips =>
      cases frame : s.beginBroadcast.2 with
      | frame length => exact absurd frame (skips length)
      | _ => simp [frame, Station.Broadcast.isFrame] at prepared
  | receive =>
    rw [activity, Station.canBegin, Station.isIdle_iff] at free
    simp only [look, hs, advance, fresh, activity]
    exact tryReceive_begins site c s free

end Looks

/-! ## Looks at tasks -/

section Tasks

variable {site begun : Site H} {c : Call} {k : Nat} {task : Task} {time : UInt64}

omit [Hardware H] in
theorem startTimes_conclude (site : Site H) (c : Call) (status : Status) :
    (site.conclude c status).1.startTimes = site.startTimes := by
  rw [conclude]
  split
  · rfl
  simp only
  split
  · split
    · simp only [announce]
      split
      · rfl
      · rw [say, startTimes_act]
        rfl
    · rfl
  · rfl

theorem startTimes_poll (found : site.task? k = some task)
    (turn : site.turn task = some (begun, c)) :
    (poll k site).1.startTimes = (begun.look c).1.startTimes := by
  simp only [poll, found, run_turn turn, runCall]
  cases looked : begun.look c with
  | mk after progress =>
    cases progress with
    | waiting => rfl
    | done status => exact startTimes_conclude after c status

theorem startTimes_takePart (site : Site H) (id : Nat) (s : Station) (job : SlotJob) :
    (site.takePart id s job).1.startTimes = site.startTimes := startTimes_act site id _

omit [Hardware H] in
theorem startTimes_abandon (site : Site H) (c : Call) :
    (site.abandon c).startTimes = site.startTimes := by
  rw [abandon]
  split
  · exact startTimes_update site _ _
  · rfl

/-- No unit is told to start when a call is given up, and in a look at a call only at its
deadline. -/
theorem touches_starts (found : site.task? k = some (.call c)) {action : Action H}
    (touches : action.touches k = true) : Starts c.deadline site (site.perform action) := by
  cases action with
  | poll j =>
    obtain rfl := beq_iff_eq.mp touches
    rw [Starts, perform, startTimes_poll found rfl]
    exact look_starts site c
  | cancel j =>
    obtain rfl := beq_iff_eq.mp touches
    simp only [perform, cancel, found]
    exact Or.inl (startTimes_abandon _ c)
  | _ => cases touches

/-- Task `k` is a call with this deadline, or is over. -/
structure Carries (site : Site H) (k : Nat) (deadline : UInt64) : Prop where
  nodup : site.pending.Nodup
  call : ∀ task, site.task? k = some task → ∃ c : Call, task = .call c ∧ c.deadline = deadline

/-- A call keeps its deadline. -/
theorem Carries.perform (carries : site.Carries k time) (on : (site.task? k).isSome = true)
    (action : Action H) : (site.perform action).Carries k time := by
  obtain ⟨nodup, call⟩ := carries
  obtain ⟨task, found⟩ := Option.isSome_iff_exists.mp on
  obtain ⟨c, rfl, rfl⟩ := call task found
  refine ⟨nodup_pending_perform nodup action, fun task after => ?_⟩
  obtain ⟨stage, rfl⟩ := call_remains nodup found after
  exact ⟨_, rfl, rfl⟩

end Tasks

/-! ## Runs -/

def newStarts (a b : Site H) : List UInt64 :=
  b.startTimes.take (b.startTimes.length - a.startTimes.length)

omit [Hardware H] in
theorem Starts.eq {time : UInt64} {a b : Site H} (starts : Starts time a b) :
    newStarts a b = [] ∨ newStarts a b = [time] := by
  rcases starts with same | one
  · left
    simp [newStarts, same]
  · right
    simp [newStarts, one]

/-- The starts that task `k` tells units in the course of some actions, up to its end. -/
def starts (k : Nat) (site : Site H) : List (Action H) → List UInt64
  | [] => []
  | action :: actions =>
    if (site.task? k).isSome then
      (if action.touches k then newStarts site (site.perform action) else []) ++
        starts k (site.perform action) actions
    else []

section Runs

variable {site : Site H} {k id : Nat} {job : SlotJob} {s : Station} {time : UInt64}

theorem Carries.starts_eq (carries : site.Carries k time) (actions : List (Action H)) :
    ∀ t ∈ site.starts k actions, t = time := by
  induction actions generalizing site with
  | nil => exact List.forall_mem_nil _
  | cons action actions ih =>
    intro t ht
    rw [starts] at ht
    split at ht
    · next on =>
      rcases List.mem_append.mp ht with now | later
      · obtain ⟨task, found⟩ := Option.isSome_iff_exists.mp on
        obtain ⟨c, rfl, rfl⟩ := carries.call task found
        split at now
        · next touches =>
          rcases (touches_starts found touches).eq with none | one
          · rw [none] at now
            cases now
          · rw [one] at now
            exact List.mem_singleton.mp now
        · cases now
      · exact ih (carries.perform on action) t later
    · cases ht

/-- Task `k` is a slot that station `id`, which is `s`, is told of. -/
structure ToldOf (site : Site H) (k : Nat) (job : SlotJob) (id : Nat) (s : Station) : Prop where
  nodup : site.pending.Nodup
  task : site.task? k = some (.slot job)
  owned : site.find? job.device = some id
  station : site.stations[id]? = some s

theorem ToldOf.turn (told : site.ToldOf k job id s) (ready : s.status.ready = true) :
    site.turn (.slot job) = some (site.takePart id s job) := by
  simp only [Site.turn, enter, told.owned, told.station, if_pos ready]
  rfl

/-- Nothing comes of the slot if the station is not ready. -/
theorem ToldOf.skips (told : site.ToldOf k job id s) (resting : s.status.ready = false) :
    (poll k site).1.startTimes = site.startTimes ∧ (poll k site).1.task? k = none := by
  have skipped : (poll k site).2 = some (.slot none) := by
    apply skipped_of_resting told.task
    intro id' s' owned hs
    obtain rfl := Option.some.inj (told.owned.symm.trans owned)
    obtain rfl := Option.some.inj (told.station.symm.trans hs)
    exact resting
  obtain ⟨-, untouched⟩ := poll_skipped skipped
  refine ⟨congrArg (List.filterMap HardwareCall.start?) untouched.calls, poll_skips told.task ?_⟩
  simp [Site.turn, enter, told.owned, told.station, resting]

/-- In the look that begins a slot a unit is told to start at the deadline, or not yet. -/
theorem ToldOf.begins (told : site.ToldOf k job id s) :
    Starts (site.deadline s job) site (poll k site).1 ∧
      (poll k site).1.Carries k (site.deadline s job) := by
  have nodup := nodup_pending_perform told.nodup (.poll k)
  cases ready : s.status.ready with
  | true =>
    have turn := told.turn ready
    constructor
    · rw [Starts, startTimes_poll told.task turn, ← startTimes_takePart site id s job]
      exact look_starts (site.takePart id s job).1 (site.takePart id s job).2
    · refine ⟨nodup, fun task after => ?_⟩
      obtain ⟨stage, rfl⟩ := call_of_turn told.task turn after
      exact ⟨_, rfl, rfl⟩
  | false =>
    obtain ⟨same, gone⟩ := told.skips ready
    refine ⟨Or.inl same, nodup, fun task after => ?_⟩
    rw [gone] at after
    cases after

theorem ToldOf.starts_poll (told : site.ToldOf k job id s) (actions : List (Action H)) :
    site.starts k (.poll k :: actions) =
      newStarts site (poll k site).1 ++ (poll k site).1.starts k actions := by
  have touches : (Action.poll k : Action H).touches k = true := beq_self_eq_true k
  rw [starts, told.task, Option.isSome_some, if_pos rfl, if_pos touches]
  rfl

/-- Whatever start a slot tells a unit is the deadline that it has when it begins. -/
theorem ToldOf.starts_eq (told : site.ToldOf k job id s) (actions : List (Action H)) :
    ∀ t ∈ site.starts k (.poll k :: actions), t = site.deadline s job := by
  obtain ⟨now, carries⟩ := told.begins
  intro t ht
  rw [told.starts_poll] at ht
  rcases List.mem_append.mp ht with first | later
  · rcases now.eq with none | one
    · rw [none] at first
      cases first
    · rw [one] at first
      exact List.mem_singleton.mp first
  · exact carries.starts_eq actions t later

/-- A ready station that can begin with its part at once has its unit start. -/
theorem ToldOf.starts_of_free (told : site.ToldOf k job id s) (ready : s.status.ready = true)
    (free : (s.enterRound (roundNumber job.slot.round s.config.roundShift)).canBegin
      (Role.of job.kind (hasTurn job.slot.round s.nodeCount s.slot)).activity = true)
    (actions : List (Action H)) : site.deadline s job ∈ site.starts k (.poll k :: actions) := by
  have turn := told.turn ready
  have entered : (site.takePart id s job).1.stations[id]? =
      some (s.enterRound (roundNumber job.slot.round s.config.roundShift)) := by
    have inside := (List.getElem?_eq_some_iff.mp told.station).1
    simp only [takePart, act_some _ told.station]
    exact List.getElem?_set_self inside
  have started : (poll k site).1.startTimes = site.deadline s job :: site.startTimes := by
    rw [startTimes_poll told.task turn, ← startTimes_takePart site id s job]
    exact look_of_free (c := (site.takePart id s job).2) entered rfl free
  rw [told.starts_poll, newStarts, started]
  simp

end Runs

/-- Units are started at the deadlines of their slots only. In a slot that two stations share, the
one that listens starts one preamble before the one whose turn it is. -/
theorem listens_one_preamble_ahead :
    (∀ start preamble, Deadline.Spaced start preamble) ∧
    (∀ {H : Type} [Hardware H] (site : Site H) (k : Nat) (job : SlotJob) (id : Nat) (s : Station)
      (actions : List (Action H)), site.ToldOf k job id s →
      (∀ t ∈ site.starts k (.poll k :: actions), t = site.deadline s job) ∧
      (s.status.ready = true →
        (s.enterRound (roundNumber job.slot.round s.config.roundShift)).canBegin
          (Role.of job.kind (hasTurn job.slot.round s.nodeCount s.slot)).activity = true →
        site.deadline s job ∈ site.starts k (.poll k :: actions))) ∧
    (∀ {H K : Type} [Hardware H] [Hardware K] (near : Site H) (far : Site K) (k k' : Nat)
      (job job' : SlotJob) (i j : Nat) (a b : Station) (actions : List (Action H))
      (actions' : List (Action K)),
      near.ToldOf k job i a → hasTurn job.slot.round a.nodeCount a.slot = true →
      far.ToldOf k' job' j b → hasTurn job'.slot.round b.nodeCount b.slot = false →
      job'.slot.start job'.clock = job.slot.start job.clock →
      Deadline.preambleLength (Hardware.preamble far.hardware b.unit) ≤
        (job.slot.start job.clock).toNat →
      ∀ t ∈ near.starts k (.poll k :: actions), ∀ t' ∈ far.starts k' (.poll k' :: actions'),
        Deadline.ahead t' t =
          Deadline.preambleLength (Hardware.preamble far.hardware b.unit) % 2 ^ 48) := by
  refine ⟨Deadline.spaced, ?_, ?_⟩
  · intro H _ site k job id s actions told
    exact ⟨told.starts_eq actions, fun ready free => told.starts_of_free ready free actions⟩
  · intro H K _ _ near far k k' job job' i j a b actions actions' told turn told' noTurn same room
      t ht t' ht'
    have active : t = Deadline.active (job.slot.start job.clock) := by
      rw [told.starts_eq actions t ht, deadline, if_pos turn]
    have passive : t' = Deadline.passive (job.slot.start job.clock)
        (Hardware.preamble far.hardware b.unit) := by
      rw [told'.starts_eq actions' t' ht', deadline, noTurn, if_neg Bool.false_ne_true, same]
    rw [active, passive]
    exact Deadline.ahead_passive _ _ room

/-- A ranging slot that starts just after a range of the mask. -/
def wrapping : SlotJob :=
  { device := 0, kind := .ranging, slot := ⟨0, 0, 1000, 2, 0x1000000000123⟩ }

def toRange : List (Action Bench) :=
  [.enrol ⟨0, 2, ⟨0x100, 0, 12⟩, {}, 0⟩, .start 0 (.slot wrapping)]

def toListen : List (Action Bench) :=
  [.enrol ⟨0, 2, ⟨0x101, 1, 12⟩, {}, 0⟩, .alter fun b => b.setEngine 0 { hold := true },
    .start 0 (.call { station := 0, activity := .listen, deadline := 0 }), .poll 0,
    .start 1 (.slot wrapping)]

/-- The slot begins, and the engine gets free after the preamble has been changed. -/
def heldUp : List (Action Bench) :=
  [.poll 1, .alter fun b => b.setRadio 0 { preamble := 1 }, .cancel 0, .poll 1]

/-- The unit that listens starts before the range is over, the preamble that it had when the
slot began ahead of the other one. -/
theorem listens_one_preamble_ahead_wrapping :
    let near := ({ hardware := {} } : Site Bench).performAll toRange
    let far := ({ hardware := {} } : Site Bench).performAll toListen
    near.starts 0 [.poll 0] = [0] ∧ far.starts 1 heldUp = [0xFFFFFF7E0000] ∧
      Deadline.ahead 0xFFFFFF7E0000 0 = 130 * 65536 := by
  intro near far
  have starts : near.starts 0 [.poll 0] = [0] := by decide +kernel
  have starts' : far.starts 1 heldUp = [0xFFFFFF7E0000] := by decide +kernel
  have known : (near.stations[0]?).map (fun a => (a.nodeCount, a.slot)) = some (2, 0) := by
    decide +kernel
  have known' : (far.stations[0]?).map (fun b => (b.nodeCount, b.slot, b.unit)) =
      some (2, 1, 0) := by decide +kernel
  obtain ⟨a, ha, fields⟩ := Option.map_eq_some_iff.mp known
  obtain ⟨b, hb, fields'⟩ := Option.map_eq_some_iff.mp known'
  simp only [Prod.mk.injEq] at fields fields'
  obtain ⟨nodes, slot⟩ := fields
  obtain ⟨nodes', slot', unit⟩ := fields'
  have told : near.ToldOf 0 wrapping 0 a :=
    ⟨nodup_pending _ _, rfl, by decide +kernel, ha⟩
  have told' : far.ToldOf 1 wrapping 0 b :=
    ⟨nodup_pending _ _, rfl, by decide +kernel, hb⟩
  obtain ⟨-, -, ahead⟩ := listens_one_preamble_ahead
  refine ⟨starts, starts', ?_⟩
  have apart := ahead near far 0 1 wrapping wrapping 0 0 a b [] heldUp.tail told
    (by rw [nodes, slot]; decide) told' (by rw [nodes', slot']; decide) rfl
    (by rw [unit]; decide +kernel) 0 (by rw [starts]; simp) 0xFFFFFF7E0000
    (by rw [show Action.poll 1 :: heldUp.tail = heldUp from rfl, starts']; simp)
  rw [apart, unit]
  decide +kernel

end Site

end RangeSurvey
