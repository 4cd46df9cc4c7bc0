import RangeSurvey.Proofs.Air.Patch
import RangeSurvey.Proofs.Fleet.Schedule
import RangeSurvey.Proofs.Site.Runs
import RangeSurvey.Proofs.Station.Sound

/-!
# What happens elsewhere

A change of the fleet at one station, its node and its task is a patch. What a call of another
station does is the same with a patch as without, and the patch is still there afterwards. A request
draws random numbers and reads what has been measured, so that for requests the patch has to be
quiet.
-/

namespace RangeSurvey

namespace Fleet

/-- The list of tasks after task `k` has gone on as another one or has come to its end. -/
def become (k : Nat) (task? : Option Task) (tasks : List (Nat × Task)) : List (Nat × Task) :=
  match task? with
  | none => tasks.filter fun t => t.1 != k
  | some task => tasks.map fun t => if t.1 = k then (k, task) else t

theorem become_comm {j k : Nat} (other : j ≠ k) (a b : Option Task) (tasks : List (Nat × Task)) :
    become j a (become k b tasks) = become k b (become j a tasks) := by
  cases a with
  | none =>
    cases b with
    | none => simp only [become, List.filter_filter, Bool.and_comm]
    | some task =>
      simp only [become, List.filter_map]
      congr 1
      apply List.filter_congr
      intro t _
      by_cases ht : t.1 = k <;> simp [ht]
  | some task =>
    cases b with
    | none =>
      simp only [become, List.filter_map]
      congr 1
      apply List.filter_congr
      intro t _
      by_cases ht : t.1 = j <;> simp [ht]
    | some task' =>
      simp only [become, List.map_map]
      apply List.map_congr_left
      intro t _
      by_cases hj : t.1 = j
      · simp [hj, other]
      · by_cases hk : t.1 = k <;> simp [hj, hk, Ne.symm other]

/-- A change of a fleet at one station, its node and its task, before which `older` has been
recorded. -/
structure Patch where
  id : Nat
  station : Station → Station
  device : ∀ s, (station s).device = s.device
  ready : ∀ s, (station s).status.ready = s.status.ready
  air : Medium.Patch
  task : Nat
  /-- What becomes of the task, if it goes on. -/
  becomes : Option Task
  older : List Entry

namespace Patch

def apply (q : Patch) (f : Fleet) : Fleet :=
  { f with
    stations := f.stations.modify q.id q.station
    hardware := q.air.apply f.hardware
    tasks := become q.task q.becomes f.tasks
    trace := f.trace ++ q.older }

def both {α : Type} (q : Patch) (x : Fleet × α) : Fleet × α := (q.apply x.1, x.2)

/-- The patch leaves station `id` and its node `unit` alone, and a request does not notice it. -/
structure Spares (q : Patch) (id unit : Nat) (ranging : Prop) : Prop where
  station : q.id ≠ id
  node : q.air.unit ≠ unit
  quiet : ranging → q.air.Quiet

section Frame

variable {q : Patch} {f : Fleet} {id unit : Nat} {c : Call} {s : Station} {ranging : Prop}

theorem station?_apply (other : q.id ≠ id) (f : Fleet) :
    (q.apply f).stations[id]? = f.stations[id]? := by
  simp [apply, other]

theorem act_apply (other : q.id ≠ id) (f : Fleet) (g : Station → Station × List StationNotice) :
    (q.apply f).act id g = q.apply (f.act id g) := by
  cases hs : f.stations[id]? with
  | none => rw [Site.act_none g hs, Site.act_none g ((station?_apply other f).trans hs)]
  | some s =>
    rw [Site.act_some g hs, Site.act_some g ((station?_apply other f).trans hs)]
    simp only [apply, List.append_assoc]
    congr 1
    apply List.ext_getElem?
    intro i
    by_cases hi : id = i
    · subst hi
      simp [List.getElem?_set, other]
    · simp [List.getElem?_modify, hi]

theorem update_apply (other : q.id ≠ id) (f : Fleet) (g : Station → Station) :
    (q.apply f).update id g = q.apply (f.update id g) := act_apply other f _

theorem finish_apply (other : q.id ≠ c.station) (f : Fleet) :
    (q.apply f).finish c = q.both (f.finish c) := by
  simp only [Site.finish, station?_apply other]
  split <;> rfl

theorem call_apply (q : Patch) (f : Fleet) (call : HardwareCall) :
    (q.apply f).call call = q.apply (f.call call) := rfl

theorem with_hardware (q : Patch) (f : Fleet) (m : Medium) :
    ({ q.apply f with hardware := q.air.apply m } : Fleet) =
      q.apply { f with hardware := m } := rfl

theorem endExchange_apply {e : Exchange} (spares : q.Spares c.station unit ranging)
    (asks : e.measurer? c.station ≠ none → ranging) (f : Fleet) :
    (q.apply f).endExchange c s e = q.apply (f.endExchange c s e) := by
  cases e with
  | listen => exact update_apply spares.station f _
  | request =>
    have same (slot : Nat) (cells : List Distance) :
        Hardware.measured (q.apply f).hardware s.unit slot cells =
          Hardware.measured f.hardware s.unit slot cells :=
      (spares.quiet (asks nofun)).measured f.hardware slot cells
    simp only [Site.endExchange]
    split
    · exact update_apply spares.station f _
    · rw [same, call_apply, act_apply spares.station]

theorem lookExchange_apply {e : Exchange} (spares : q.Spares c.station s.unit ranging)
    (asks : e.measurer? c.station ≠ none → ranging) (f : Fleet) (first : Bool) :
    (q.apply f).lookExchange c s first e = q.both (f.lookExchange c s first e) := by
  have polled : Hardware.pollExchange (q.apply f).hardware s.unit first e =
      (q.air.apply (Hardware.pollExchange f.hardware s.unit first e).1,
        (Hardware.pollExchange f.hardware s.unit first e).2) :=
    Medium.Patch.pollExchange_apply spares.node (fun h => spares.quiet (asks h)) f.hardware first
  simp only [Site.lookExchange, polled, with_hardware, endExchange_apply spares asks,
    finish_apply spares.station]
  split <;> rfl

theorem beginExchange_apply {e : Exchange} (spares : q.Spares c.station s.unit ranging)
    (asks : e.measurer? c.station ≠ none → ranging) (f : Fleet) :
    (q.apply f).beginExchange c s e = q.both (f.beginExchange c s e) := by
  simp only [Site.beginExchange, update_apply spares.station, call_apply]
  exact lookExchange_apply spares asks _ true

theorem tryRequest_apply (spares : q.Spares c.station s.unit ranging) (asks : ranging) (f : Fleet)
    (mode : Sidedness) : (q.apply f).tryRequest c s mode = q.both (f.tryRequest c s mode) := by
  simp only [Site.tryRequest]
  split
  · rfl
  · exact beginExchange_apply spares (fun _ => asks) f

theorem tryListen_apply (spares : q.Spares c.station s.unit ranging) (f : Fleet) :
    (q.apply f).tryListen c s = q.both (f.tryListen c s) := by
  have same : (q.apply f).listenTimeout s = f.listenTimeout s := rfl
  simp only [Site.tryListen, Site.say, same, act_apply spares.station]
  split
  · rfl
  · exact beginExchange_apply spares (fun h => absurd rfl h) _

theorem lookArmed_apply (other : q.id ≠ c.station) (f : Fleet) (s : Station) :
    (q.apply f).lookArmed c s = q.both (f.lookArmed c s) := by
  simp only [Site.lookArmed, update_apply other, finish_apply other]
  split <;> rfl

theorem waitArmed_apply (other : q.id ≠ c.station) (f : Fleet) :
    (q.apply f).waitArmed c = q.both (f.waitArmed c) := by
  simp only [Site.waitArmed, station?_apply other, lookArmed_apply other]
  split <;> rfl

theorem transmit_apply (spares : q.Spares c.station s.unit ranging) (f : Fleet) (length : Nat) :
    (q.apply f).transmit c s length = q.both (f.transmit c s length) := by
  have loaded : Hardware.setControl (Hardware.write (q.apply f).hardware s.unit
        (s.buffer.take length) 0) s.unit length false =
      q.air.apply (Hardware.setControl (Hardware.write f.hardware s.unit
        (s.buffer.take length) 0) s.unit length false) := by
    simp only [Hardware.setControl, Hardware.write, apply,
      Medium.Patch.modifyNode_apply spares.node]
  have armed (m : Medium) : Hardware.armTransmit (q.air.apply m) s.unit c.deadline =
      (q.air.apply (Hardware.armTransmit m s.unit c.deadline).1,
        (Hardware.armTransmit m s.unit c.deadline).2) :=
    Medium.Patch.armTransmit_apply spares.node m
  simp only [Site.transmit_eq, loaded, armed, with_hardware, call_apply, act_apply spares.station,
    finish_apply spares.station]
  split
  · next events started =>
    obtain rfl := Medium.armTransmit_silent _ _ started
    simp only [Site.raiseAll, Site.say, act_apply spares.station]
    exact waitArmed_apply spares.station _
  · rfl

theorem tryBroadcast_apply (spares : q.Spares c.station s.unit ranging) (f : Fleet) :
    (q.apply f).tryBroadcast c s = q.both (f.tryBroadcast c s) := by
  obtain ⟨begun, -⟩ := Station.beginBroadcast_begun (Prod.eta s.beginBroadcast).symm
  rw [← begun.unit] at spares
  simp only [Site.tryBroadcast, update_apply spares.station, act_apply spares.station,
    finish_apply spares.station, transmit_apply spares]
  split
  · rfl
  · split <;> rfl

theorem tryReceive_apply (spares : q.Spares c.station s.unit ranging) (f : Fleet) :
    (q.apply f).tryReceive c s = q.both (f.tryReceive c s) := by
  have armed (f : Fleet) (wait : UInt16) :
      Hardware.armReceive (q.apply f).hardware s.unit wait c.deadline =
        (q.air.apply (Hardware.armReceive f.hardware s.unit wait c.deadline).1,
          (Hardware.armReceive f.hardware s.unit wait c.deadline).2) :=
    Medium.Patch.armReceive_apply spares.node f.hardware
  have same (f : Fleet) : (q.apply f).receiveTimeout s = f.receiveTimeout s := rfl
  simp only [Site.tryReceive_eq, update_apply spares.station, same, armed, with_hardware, call_apply,
    act_apply spares.station, finish_apply spares.station]
  split
  · rfl
  · split
    · next events started =>
      obtain rfl := Medium.armReceive_silent _ _ started
      exact waitArmed_apply spares.station _
    · rfl

theorem advance_apply (spares : q.Spares c.station s.unit (c.measurer? ≠ none)) (f : Fleet) :
    (q.apply f).advance c s = q.both (f.advance c s) := by
  cases stage : c.stage with
  | fresh =>
    cases activity : c.activity with
    | request =>
      simp only [Site.advance, stage, activity, act_apply spares.station]
      exact tryRequest_apply spares (by simp [Call.measurer?, stage, activity]) _ _
    | listen =>
      simp only [Site.advance, stage, activity, update_apply spares.station]
      exact tryListen_apply spares _
    | broadcast =>
      simp only [Site.advance, stage, activity]
      exact tryBroadcast_apply spares f
    | receive =>
      simp only [Site.advance, stage, activity]
      exact tryReceive_apply spares f
  | requestTurn mode =>
    simp only [Site.advance, stage]
    exact tryRequest_apply spares (by simp [Call.measurer?, stage]) f mode
  | listenTurn =>
    simp only [Site.advance, stage]
    exact tryListen_apply spares f
  | exchanging e =>
    simp only [Site.advance, stage]
    exact lookExchange_apply spares (by simp [Call.measurer?, stage]) f false
  | armed =>
    simp only [Site.advance, stage]
    exact lookArmed_apply spares.station f s

theorem look_apply (hs : f.stations[c.station]? = some s)
    (spares : q.Spares c.station s.unit (c.measurer? ≠ none)) :
    (q.apply f).look c = q.both (f.look c) := by
  simp only [Site.look, station?_apply spares.station, hs, advance_apply spares]

/-! ### Tasks -/

theorem task?_apply {k : Nat} (other : q.task ≠ k) (f : Fleet) :
    (q.apply f).task? k = f.task? k := by
  cases becomes : q.becomes with
  | none =>
    have removed := Site.task?_removeTask f q.task k
    rw [if_neg (Ne.symm other)] at removed
    simp only [Site.task?, apply, becomes] at removed ⊢
    exact removed
  | some task =>
    have replaced := Site.task?_replaceTask f q.task task k
    rw [if_neg (Ne.symm other)] at replaced
    simp only [Site.task?, apply, becomes] at replaced ⊢
    exact replaced

theorem removeTask_apply {k : Nat} (other : q.task ≠ k) (f : Fleet) :
    (q.apply f).removeTask k = q.apply (f.removeTask k) :=
  congrArg (fun tasks => ({ q.apply f with tasks } : Fleet))
    (become_comm (Ne.symm other) none q.becomes f.tasks)

theorem replaceTask_apply {k : Nat} (other : q.task ≠ k) (f : Fleet) (task : Task) :
    (q.apply f).replaceTask k task = q.apply (f.replaceTask k task) :=
  congrArg (fun tasks => ({ q.apply f with tasks } : Fleet))
    (become_comm (Ne.symm other) (some task) q.becomes f.tasks)

theorem find?_apply (q : Patch) (f : Fleet) (device : Nat) :
    (q.apply f).find? device = f.find? device := by
  refine Site.find?_congr (show (q.apply f).roster = f.roster from rfl) ?_ device
  intro i
  simp only [apply, List.getElem?_modify]
  cases f.stations[i]? with
  | none => rfl
  | some s =>
    by_cases hi : q.id = i
    · simp [hi, q.device]
    · simp [hi]

theorem takePart_apply (other : q.id ≠ id) (f : Fleet) (s : Station) (job : SlotJob) :
    (q.apply f).takePart id s job = q.both (f.takePart id s job) := by
  simp only [Site.takePart, act_apply other]
  rfl

/-- Only a station that takes part in the slot has to be spared. -/
theorem enter_apply {job : SlotJob} (spares : ∀ c, (f.enter job).2 = some c → q.id ≠ c.station) :
    (q.apply f).enter job = q.both (f.enter job) := by
  have same : (q.apply f).find? job.device = f.find? job.device := find?_apply q f job.device
  cases found : f.find? job.device with
  | none =>
    simp only [Site.enter, same, found]
    rfl
  | some i =>
    cases hs : f.stations[i]? with
    | none =>
      have gone : (q.apply f).stations[i]? = none := by simp [apply, List.getElem?_modify, hs]
      simp only [Site.enter, same, found, hs, gone]
      rfl
    | some s =>
      cases ready : s.status.ready with
      | true =>
        have other : q.id ≠ i :=
          spares (f.takePart i s job).2 (by simp only [Site.enter, found, hs, ready, if_true])
        simp only [Site.enter, same, found, station?_apply other, hs, ready, if_true,
          takePart_apply other]
        rfl
      | false =>
        obtain ⟨s', hs', resting⟩ :
            ∃ s', (q.apply f).stations[i]? = some s' ∧ s'.status.ready = false := by
          by_cases hi : q.id = i
          · exact ⟨q.station s, by simp [apply, hs, hi],
              (q.ready s).trans ready⟩
          · exact ⟨s, (station?_apply hi f).trans hs, ready⟩
        simp only [Site.enter, same, found, hs', resting, hs, ready, Bool.false_eq_true, if_false]
        rfl

theorem conclude_apply (other : q.id ≠ c.station)
    (quiet : ∀ part, c.part = some part → part.notify = false) (f : Fleet) (status : Status) :
    (q.apply f).conclude c status = q.both (f.conclude c status) := by
  simp only [Site.conclude, station?_apply other]
  cases part : c.part with
  | none => rfl
  | some part' =>
    simp only [quiet part' part, Bool.and_false, Bool.false_eq_true, if_false]
    split <;> rfl

end Frame

end Patch

/-- On the way from `f` to `f'` no station but `id` changes and no node but `unit`, and nothing is
queued. -/
structure Works (id unit : Nat) (ranging : Prop) (f f' : Fleet) : Prop where
  others : ∀ i, i ≠ id → f'.stations[i]? = f.stations[i]?
  air : f.hardware.Goes unit ranging f'.hardware
  queue : f'.queue = f.queue

namespace Works

variable {id unit : Nat} {ranging : Prop} {f f' f'' : Fleet} {c : Call} {s : Station}

theorem refl (id unit : Nat) (ranging : Prop) (f : Fleet) : Works id unit ranging f f :=
  ⟨fun _ _ => rfl, .refl unit ranging _, rfl⟩

theorem trans (first : Works id unit ranging f f') (second : Works id unit ranging f' f'') :
    Works id unit ranging f f'' :=
  ⟨fun i hi => (second.others i hi).trans (first.others i hi), first.air.trans second.air,
    second.queue.trans first.queue⟩

/-- What a station does by itself does not concern the medium. -/
theorem act (h : Works id unit ranging f f') (g : Station → Station × List StationNotice) :
    Works id unit ranging f (f'.act id g) := by
  refine ⟨fun i hi => ?_, ?_, ?_⟩
  · exact (Site.station?_act_of_ne f' g (Ne.symm hi)).trans (h.others i hi)
  · rw [Site.act_eq]
    exact h.air
  · rw [Site.act_eq]
    exact h.queue

theorem hardware (h : Works id unit ranging f f') {m : Medium}
    (goes : f'.hardware.Goes unit ranging m) : Works id unit ranging f { f' with hardware := m } :=
  ⟨h.others, h.air.trans goes, h.queue⟩

theorem record (h : Works id unit ranging f f') (e : Entry) :
    Works id unit ranging f (f'.record e) :=
  ⟨h.others, h.air, h.queue⟩

theorem finish (h : Works id unit ranging f f') (c : Call) :
    Works id unit ranging f (f'.finish c).1 := by
  rw [Site.finish_fst]
  exact h

theorem endExchange (h : Works c.station unit ranging f f') (s : Station) (e : Exchange) :
    Works c.station unit ranging f (f'.endExchange c s e) := by
  cases e with
  | listen => exact h.act fun s => (s.freeEngine, [])
  | request =>
    simp only [Site.endExchange]
    split
    · exact h.act _
    · exact (h.record _).act _

theorem lookExchange {e : Exchange} (h : Works c.station s.unit ranging f f')
    (asks : e.measurer? c.station ≠ none → ranging) (first : Bool) :
    Works c.station s.unit ranging f (f'.lookExchange c s first e).1 := by
  have polled := h.hardware (Medium.Goes.pollExchange f'.hardware s.unit first asks)
  simp only [Site.lookExchange]
  split
  · exact (polled.endExchange s e).finish c
  · exact polled

theorem beginExchange {e : Exchange} (h : Works c.station s.unit ranging f f')
    (asks : e.measurer? c.station ≠ none → ranging) :
    Works c.station s.unit ranging f (f'.beginExchange c s e).1 :=
  ((h.act _).record _).lookExchange asks true

theorem tryRequest (h : Works c.station s.unit ranging f f') (asks : ranging) (mode : Sidedness) :
    Works c.station s.unit ranging f (f'.tryRequest c s mode).1 := by
  simp only [Site.tryRequest]
  split
  · exact h
  · exact h.beginExchange fun _ => asks

theorem tryListen (h : Works c.station s.unit ranging f f') :
    Works c.station s.unit ranging f (f'.tryListen c s).1 := by
  simp only [Site.tryListen]
  split
  · exact h
  · exact (h.act _).beginExchange fun none => absurd rfl none

theorem lookArmed (h : Works c.station unit ranging f f') (s : Station) :
    Works c.station unit ranging f (f'.lookArmed c s).1 := by
  simp only [Site.lookArmed]
  split
  · exact h
  · exact (h.act _).finish c

theorem waitArmed (h : Works c.station unit ranging f f') :
    Works c.station unit ranging f (f'.waitArmed c).1 := by
  simp only [Site.waitArmed]
  split
  · exact h
  · exact h.lookArmed _

theorem transmit (h : Works c.station s.unit ranging f f') (length : Nat) :
    Works c.station s.unit ranging f (f'.transmit c s length).1 := by
  have written := h.hardware (.modifyNode _ s.unit ranging
    (fun n => n.write (s.buffer.take length) 0) (fun _ => rfl) (fun _ => rfl) fun _ => rfl)
  have loaded := written.hardware (.modifyNode _ s.unit ranging
    (fun n => { n with frameLength := length }) (fun _ => rfl) (fun _ => rfl) fun _ => rfl)
  have armed := (((loaded.hardware (.armTransmit _ s.unit ranging)).record
    (.called (.write s.unit 0 (s.buffer.take length)))).record
    (.called (.control s.unit length false))).record (.called (.armTransmit s.unit c.deadline))
  simp only [Site.transmit_eq]
  split
  · next events started =>
    obtain rfl := Medium.armTransmit_silent _ _ started
    exact (armed.act _).waitArmed
  · exact (armed.act _).finish c

theorem tryBroadcast (h : Works c.station s.unit ranging f f') :
    Works c.station s.unit ranging f (f'.tryBroadcast c s).1 := by
  obtain ⟨begun, -⟩ := Station.beginBroadcast_begun (Prod.eta s.beginBroadcast).symm
  simp only [Site.tryBroadcast]
  split
  · exact h
  · split
    · rw [← begun.unit] at h ⊢
      exact (h.act _).transmit _
    · exact ((h.act _).act _).finish c

theorem tryReceive (h : Works c.station s.unit ranging f f') :
    Works c.station s.unit ranging f (f'.tryReceive c s).1 := by
  simp only [Site.tryReceive_eq]
  split
  · exact h
  · have armed := ((h.act fun s => (s.beginReceive, [])).hardware
      (.armReceive _ s.unit ranging)).record
      (.called (.armReceive s.unit (f'.receiveTimeout s) c.deadline))
    split
    · next events started =>
      obtain rfl := Medium.armReceive_silent _ _ started
      exact armed.waitArmed
    · exact (armed.act _).finish c

theorem advance (f : Fleet) (c : Call) (s : Station) :
    Works c.station s.unit (c.measurer? ≠ none) f (f.advance c s).1 := by
  have start : Works c.station s.unit (c.measurer? ≠ none) f f := .refl _ _ _ f
  cases stage : c.stage with
  | fresh =>
    cases activity : c.activity with
    | request =>
      simp only [Site.advance, stage, activity]
      exact (start.act _).tryRequest (by simp [Call.measurer?, stage, activity]) _
    | listen =>
      simp only [Site.advance, stage, activity]
      exact (start.act _).tryListen
    | broadcast =>
      simp only [Site.advance, stage, activity]
      exact start.tryBroadcast
    | receive =>
      simp only [Site.advance, stage, activity]
      exact start.tryReceive
  | requestTurn mode =>
    simp only [Site.advance, stage]
    exact start.tryRequest (by simp [Call.measurer?, stage]) mode
  | listenTurn =>
    simp only [Site.advance, stage]
    exact start.tryListen
  | exchanging e =>
    simp only [Site.advance, stage]
    exact start.lookExchange (by simp [Call.measurer?, stage]) false
  | armed =>
    simp only [Site.advance, stage]
    exact start.lookArmed s

theorem mono {ranging' : Prop} (h : Works id unit ranging f f') (le : ranging → ranging') :
    Works id unit ranging' f f' := by
  obtain ⟨others, ⟨q, hq, quiet, air⟩, queue⟩ := h
  exact ⟨others, ⟨q, hq, fun not => quiet fun asks => not (le asks), air⟩, queue⟩

end Works

/-! ## Tasks -/

/-- The call is of station `id` on node `unit`. It asks for distances only if `ranging` allows it,
and leaves no note. -/
structure Sits (f : Fleet) (c : Call) (id unit : Nat) (ranging : Prop) : Prop where
  station : c.station = id
  unit : ∃ s, f.stations[id]? = some s ∧ s.unit = unit
  asks : c.measurer? ≠ none → ranging
  quiet : ∀ part, c.part = some part → part.notify = false

def Tasked (f : Fleet) (k id unit : Nat) (ranging : Prop) : Prop :=
  ∀ task begun c, f.task? k = some task → f.turn task = some (begun, c) →
    Sits begun c id unit ranging

section Tasks

variable {q : Patch} {f : Fleet} {c : Call} {k id unit : Nat} {ranging : Prop} {task : Task}

theorem Sits.runCall_apply (sits : f.Sits c id unit ranging) (spares : q.Spares id unit ranging) :
    (q.apply f).runCall c = q.both (f.runCall c) := by
  obtain ⟨rfl, ⟨s, hs, rfl⟩, asks, quiet⟩ := sits
  have spared : q.Spares c.station s.unit (c.measurer? ≠ none) :=
    ⟨spares.station, spares.node, fun h => spares.quiet (asks h)⟩
  simp only [Site.runCall, Patch.look_apply hs spared]
  rcases f.look c with ⟨g, c' | status⟩
  · rfl
  · simp only [Patch.both, Patch.conclude_apply spares.station quiet]

theorem run_apply (sits : ∀ begun c, f.turn task = some (begun, c) → Sits begun c id unit ranging)
    (spares : q.Spares id unit ranging) : (q.apply f).run task = q.both (f.run task) := by
  cases task with
  | call c => exact (sits f c rfl).runCall_apply spares
  | slot job =>
    have entered : (q.apply f).enter job = q.both (f.enter job) := by
      refine Patch.enter_apply fun c called => ?_
      rw [(sits (f.enter job).1 c (by rw [Site.turn, called]; rfl)).station]
      exact spares.station
    simp only [Site.run, entered]
    rcases called : f.enter job with ⟨g, none | c⟩
    · rfl
    · exact (sits g c (by rw [Site.turn, called]; rfl)).runCall_apply spares

/-- A look at a task takes no notice of what has happened elsewhere. -/
theorem Tasked.move_apply (tasked : f.Tasked k id unit ranging) (spares : q.Spares id unit ranging)
    (other : q.task ≠ k) : (q.apply f).move (.look k) = q.both (f.move (.look k)) := by
  simp only [move, Site.poll, Patch.task?_apply other]
  cases found : f.task? k with
  | none => rfl
  | some task =>
    have sits := fun begun c => tasked task begun c found
    simp only [run_apply sits spares]
    rcases f.run task with ⟨g, task' | outcome⟩
    · simp only [Patch.both, Patch.replaceTask_apply other]
    · simp only [Patch.both, Patch.removeTask_apply other]
      rfl

theorem conclude_quiet (quiet : ∀ part, c.part = some part → part.notify = false) (f : Fleet)
    (status : Status) : (f.conclude c status).1 = f := by
  simp only [Site.conclude]
  cases part : c.part with
  | none => rfl
  | some part' =>
    simp only [quiet part' part, Bool.and_false, Bool.false_eq_true, if_false]
    split <;> rfl

theorem Sits.runCall_works (sits : f.Sits c id unit ranging) :
    Works id unit ranging f (f.runCall c).1 := by
  obtain ⟨rfl, ⟨s, hs, rfl⟩, asks, quiet⟩ := sits
  have looked := (Works.advance f c s).mono asks
  have same : f.look c = f.advance c s := by simp only [Site.look, hs]
  simp only [Site.runCall, same]
  generalize f.advance c s = x at looked ⊢
  obtain ⟨g, c' | status⟩ := x
  · exact looked
  · simp only [conclude_quiet quiet]
    exact looked

theorem enter_works {job : SlotJob} (called : (f.enter job).2 = some c) (unit : Nat)
    (ranging : Prop) : Works c.station unit ranging f (f.enter job).1 := by
  obtain ⟨i, s, -, -, -, same⟩ := Site.enter_eq_some called
  rw [same] at called ⊢
  obtain rfl := Option.some.inj called
  simp only [Site.takePart]
  exact (Works.refl i unit ranging f).act _

theorem run_works (sits : ∀ begun c, f.turn task = some (begun, c) → Sits begun c id unit ranging) :
    Works id unit ranging f (f.run task).1 := by
  cases task with
  | call c => exact (sits f c rfl).runCall_works
  | slot job =>
    simp only [Site.run]
    rcases called : f.enter job with ⟨g, none | c⟩
    · have skipped := (Site.enter_eq_none (by rw [called])).2
      rw [called] at skipped
      rcases skipped with rfl | rfl
      · exact .refl _ _ _ _
      · exact (Works.refl _ _ _ f).record _
    · have sits := sits g c (by rw [Site.turn, called]; rfl)
      have entered := enter_works (by rw [called]) unit ranging
      rw [called, sits.station] at entered
      exact entered.trans sits.runCall_works

/-- What a look changes at one station is a patch at this station. -/
theorem stations_patched {f g : Fleet} (others : ∀ i, i ≠ id → g.stations[i]? = f.stations[i]?)
    (length : g.stations.length = f.stations.length)
    (kept : ∀ s, f.stations[id]? = some s → ∃ s', g.stations[id]? = some s' ∧
      s'.device = s.device ∧ s'.status.ready = s.status.ready) :
    ∃ h : Station → Station, (∀ s, (h s).device = s.device) ∧
      (∀ s, (h s).status.ready = s.status.ready) ∧ g.stations = f.stations.modify id h := by
  cases hs : f.stations[id]? with
  | none =>
    refine ⟨fun s => s, fun _ => rfl, fun _ => rfl, List.ext_getElem? fun i => ?_⟩
    rw [List.getElem?_modify]
    by_cases hi : i = id
    · subst hi
      have beyond : g.stations.length ≤ i := length ▸ List.getElem?_eq_none_iff.mp hs
      simp [hs, List.getElem?_eq_none beyond]
    · simp [others i hi]
  | some s =>
    obtain ⟨s', hs', device, ready⟩ := kept s hs
    refine ⟨fun t => { s' with
      device := t.device, status := { s'.status with ready := t.status.ready } },
      fun _ => rfl, fun _ => rfl, List.ext_getElem? fun i => ?_⟩
    rw [List.getElem?_modify]
    by_cases hi : i = id
    · subst hi
      simp [hs, hs', ← device, ← ready]
    · simp [Ne.symm hi, others i hi]

/-- What works at one station is a patch, apart from record and tasks. -/
theorem Works.patch {f g : Fleet} (works : Works id unit ranging f g)
    (does : Site.Does (fun d => d.isSetup = false) f g) (k : Nat) (becomes : Option Task) :
    ∃ q : Patch, q.id = id ∧ q.air.unit = unit ∧ q.task = k ∧ (¬ ranging → q.air.Quiet) ∧
      q.becomes = becomes ∧ ∀ trace,
        ({ g with tasks := (q.apply f).tasks, trace } : Fleet) = { q.apply f with trace } := by
  obtain ⟨others, ⟨air, hunit, quiet, moved⟩, queue⟩ := works
  obtain ⟨chain, roster⟩ := does.wiring fun _ h => h
  have kept (s : Station) (hs : f.stations[id]? = some s) : ∃ s', g.stations[id]? = some s' ∧
      s'.device = s.device ∧ s'.status.ready = s.status.ready := by
    refine does.station (P := fun t => t.device = s.device ∧ t.status.ready = s.status.ready) ?_ hs
      ⟨rfl, rfl⟩
    rintro d t t' setup moves ⟨device, ready⟩
    exact ⟨(Station.stays_of_moves moves).device.trans device,
      (Station.ready_of_moves moves setup).trans ready⟩
  obtain ⟨h, device, ready, stations⟩ := stations_patched others (does.length fun _ h => h) kept
  refine ⟨⟨id, h, device, ready, air, k, becomes, []⟩, rfl, hunit, rfl, quiet, rfl, fun trace => ?_⟩
  simp only [Patch.apply, chain, roster, stations, queue, moved]

def Alike (f g : Fleet) : Prop := ∃ trace, g = { f with trace }

/-- A look at a task is a patch at the station that it belongs to, apart from the record. -/
theorem Tasked.move_patch (tasked : f.Tasked k id unit ranging) :
    ∃ q : Patch, q.id = id ∧ q.air.unit = unit ∧ q.task = k ∧ (¬ ranging → q.air.Quiet) ∧
      Alike (q.apply f) (f.move (.look k)).1 := by
  simp only [move, Site.poll]
  cases found : f.task? k with
  | none =>
    obtain ⟨q, hid, hunit, rfl, quiet, becomes, patched⟩ :=
      (Works.refl id unit ranging f).patch (Site.Does.refl _ f) k none
    have absent : (q.apply f).tasks = f.tasks := by
      simp only [Patch.apply, becomes, become, List.filter_eq_self]
      intro t ht
      simpa using Site.task?_eq_none.mp found t ht
    exact ⟨q, hid, hunit, rfl, quiet, f.trace, by rw [← patched, absent]⟩
  | some task =>
    have works := run_works fun begun c => tasked task begun c found
    have does := (Site.run_does f task).mono fun _ within => within.setup
    have tasks := Site.run_tasks f task
    simp only
    generalize f.run task = x at works does tasks ⊢
    obtain ⟨g, task' | outcome⟩ := x
    · obtain ⟨q, hid, hunit, rfl, quiet, becomes, patched⟩ := works.patch does k (some task')
      refine ⟨q, hid, hunit, rfl, quiet, g.trace, ?_⟩
      rw [← patched]
      simp only [Site.replaceTask, Patch.apply, becomes]
      rw [← tasks]
      rfl
    · obtain ⟨q, hid, hunit, rfl, quiet, becomes, patched⟩ := works.patch does k none
      refine ⟨q, hid, hunit, rfl, quiet, .ended q.task outcome :: g.trace, ?_⟩
      rw [← patched]
      simp only [Site.removeTask, Site.record, Patch.apply, becomes]
      rw [← tasks]
      rfl

end Tasks

end Fleet

end RangeSurvey
