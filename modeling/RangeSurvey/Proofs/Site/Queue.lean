import RangeSurvey.Proofs.Fleet.Verdicts
import RangeSurvey.Proofs.Site.Rounds

/-!
# What is apart from the queue

Nothing that goes on at a site looks at the completion notes that wait in its queue, but for the
note that is made when a slot is over and for whoever reads one. So whatever else is done comes out
the same whichever notes are waiting, and leaves them as they are.
-/

namespace RangeSurvey.Site

universe u

variable {H : Type} {R : Type u}

/-- The site with these notes in its queue. -/
def queued (queue : List Completion) (site : Site H) : Site H := { site with queue }

def bothQueued (queue : List Completion) (result : Site H × R) : Site H × R :=
  (queued queue result.1, result.2)

/-- A step that comes out the same whichever notes are waiting leaves them as they are. -/
theorem queue_of_queued {f : Site H → Site H} {site : Site H}
    (apart : f (queued site.queue site) = queued site.queue (f site)) :
    (f site).queue = site.queue := by
  have same : f site = queued site.queue (f site) := apart
  rw [same]
  rfl

section Steps

variable (queue : List Completion) (site : Site H) (c : Call) (s : Station)

@[simp] theorem stations_queued : (queued queue site).stations = site.stations := rfl

@[simp] theorem hardware_queued : (queued queue site).hardware = site.hardware := rfl

/-! ## Stations and sinks -/

theorem act_queued (id : Nat) (f : Station → Station × List StationNotice) :
    (queued queue site).act id f = queued queue (site.act id f) := by
  simp only [act, stations_queued]
  split <;> rfl

theorem update_queued (id : Nat) (f : Station → Station) :
    (queued queue site).update id f = queued queue (site.update id f) := act_queued queue site id _

theorem record_queued (e : Entry) :
    (queued queue site).record e = queued queue (site.record e) := rfl

theorem call_queued (call : HardwareCall) :
    (queued queue site).call call = queued queue (site.call call) := rfl

theorem with_hardware_queued (hardware : H) :
    ({ queued queue site with hardware } : Site H) = queued queue { site with hardware } := rfl

theorem offer_queued (event : RadioEvent) (sink : Sink) :
    offer event sink (queued queue site) = bothQueued queue (offer event sink site) := by
  cases sink with
  | recorder label verdict => rfl
  | station id =>
    simp only [offer, stations_queued, act_queued, record_queued]
    split <;> rfl

theorem raise_queued (unit : Nat) (event : RadioEvent) :
    (queued queue site).raise unit event = bothQueued queue (site.raise unit event) :=
  Chain.offerAll_map (f := queued queue) (fun sink site => offer_queued queue site event sink)
    (site.chain unit).sinks site

theorem raiseAll_queued (unit : Nat) (events : List RadioEvent) :
    (queued queue site).raiseAll unit events = queued queue (site.raiseAll unit events) := by
  induction events generalizing site with
  | nil => rfl
  | cons event events ih =>
    rw [raiseAll, raise_queued]
    exact ih _

/-! ## Looks at calls -/

theorem finish_queued : (queued queue site).finish c = bothQueued queue (site.finish c) := by
  simp only [finish, stations_queued]
  split <;> rfl

theorem lookArmed_queued :
    (queued queue site).lookArmed c s = bothQueued queue (site.lookArmed c s) := by
  simp only [lookArmed, update_queued, finish_queued]
  split <;> rfl

theorem waitArmed_queued :
    (queued queue site).waitArmed c = bothQueued queue (site.waitArmed c) := by
  simp only [waitArmed, stations_queued, lookArmed_queued]
  split <;> rfl

variable [Hardware H]

theorem endExchange_queued (e : Exchange) :
    (queued queue site).endExchange c s e = queued queue (site.endExchange c s e) := by
  cases e with
  | listen => exact update_queued queue site _ _
  | request =>
    simp only [endExchange, update_queued, call_queued, act_queued]
    split <;> rfl

theorem lookExchange_queued (first : Bool) (e : Exchange) :
    (queued queue site).lookExchange c s first e =
      bothQueued queue (site.lookExchange c s first e) := by
  simp only [lookExchange, hardware_queued, with_hardware_queued, endExchange_queued, finish_queued]
  split <;> rfl

theorem beginExchange_queued (e : Exchange) :
    (queued queue site).beginExchange c s e = bothQueued queue (site.beginExchange c s e) := by
  rw [beginExchange, update_queued, call_queued, lookExchange_queued]
  rfl

theorem tryRequest_queued (mode : Sidedness) :
    (queued queue site).tryRequest c s mode = bothQueued queue (site.tryRequest c s mode) := by
  simp only [tryRequest, beginExchange_queued]
  split <;> rfl

theorem tryListen_queued :
    (queued queue site).tryListen c s = bothQueued queue (site.tryListen c s) := by
  have same : (queued queue site).listenTimeout s = site.listenTimeout s := rfl
  simp only [tryListen, same, say, act_queued, beginExchange_queued]
  split <;> rfl

theorem transmit_queued (length : Nat) :
    (queued queue site).transmit c s length = bothQueued queue (site.transmit c s length) := by
  simp only [transmit_eq, hardware_queued, with_hardware_queued, call_queued, raiseAll_queued, say,
    act_queued, waitArmed_queued, finish_queued]
  split <;> rfl

theorem tryBroadcast_queued :
    (queued queue site).tryBroadcast c s = bothQueued queue (site.tryBroadcast c s) := by
  simp only [tryBroadcast, update_queued, act_queued, transmit_queued, finish_queued]
  split
  · rfl
  · split <;> rfl

theorem tryReceive_queued :
    (queued queue site).tryReceive c s = bothQueued queue (site.tryReceive c s) := by
  have same (site : Site H) : (queued queue site).receiveTimeout s = site.receiveTimeout s := rfl
  simp only [tryReceive_eq, update_queued, same, hardware_queued, with_hardware_queued, call_queued,
    raiseAll_queued, act_queued, waitArmed_queued, finish_queued]
  split
  · rfl
  · split <;> rfl

theorem advance_queued :
    (queued queue site).advance c s = bothQueued queue (site.advance c s) := by
  simp only [advance, act_queued, update_queued, tryRequest_queued, tryListen_queued,
    tryBroadcast_queued, tryReceive_queued, lookExchange_queued, lookArmed_queued]
  split
  · split <;> rfl
  all_goals rfl

/-- A look at a call comes out the same whichever notes are waiting. -/
theorem look_queued : (queued queue site).look c = bothQueued queue (site.look c) := by
  simp only [look, stations_queued, advance_queued]
  split <;> rfl

theorem enter_queued (job : SlotJob) :
    (queued queue site).enter job = bothQueued queue (site.enter job) := by
  have same : (queued queue site).find? job.device = site.find? job.device := rfl
  have due (s : Station) : (queued queue site).deadline s job = site.deadline s job := rfl
  simp only [enter, takePart, same, due, stations_queued, act_queued]
  split
  · rfl
  · split
    · rfl
    · split <;> rfl

end Steps

/-! ## The queue -/

section Queue

variable (site : Site H)

theorem queue_act (id : Nat) (f : Station → Station × List StationNotice) :
    (site.act id f).queue = site.queue := by
  rw [act_eq]

theorem queue_update (id : Nat) (f : Station → Station) : (site.update id f).queue = site.queue :=
  queue_act site id _

variable [Hardware H]

theorem queue_rechain (unit : Nat) (f : Chain Sink → Chain Sink) :
    (site.rechain unit f).queue = site.queue := by
  rw [rechain]
  split <;> rfl

theorem queue_hook (id : Nat) : (site.hook id).queue = site.queue := by
  rw [hook]
  split
  · rfl
  · rw [queue_rechain]
    rfl

theorem queue_unhook (id : Nat) : (site.unhook id).queue = site.queue := by
  rw [unhook]
  split
  · rfl
  · rw [queue_rechain]
    rfl

theorem queue_install (id : Nat) (config : Configuration) :
    (site.install id config).queue = site.queue := by
  rw [install, queue_hook, queue_update]
  rfl

omit [Hardware H] in
theorem queue_build (e : Enrolment) : (site.build e).1.queue = site.queue := by
  rw [build]
  split <;> rfl

theorem queue_enrol (e : Enrolment) : (site.enrol e).1.queue = site.queue := by
  have made : (site.enrolNew e).1.queue = site.queue := by
    rw [enrolNew]
    split
    · rfl
    · exact queue_install _ _ _
  have renewed (id : Nat) (s : Station) : (site.renew id s e).1.queue = site.queue := by
    rw [renew]
    split
    · rfl
    split
    · rfl
    · exact (queue_hook _ id).trans (queue_update site id _)
  rw [enrol]
  split
  · rfl
  split
  · exact made
  split
  · rfl
  · exact renewed _ _

theorem queue_adopt (id : Nat) : (site.adopt id).1.queue = site.queue := by
  rw [adopt]
  split
  · rfl
  split
  · exact queue_install _ _ _
  split
  · rw [queue_hook, queue_update]
  · rfl

theorem queue_dismiss (id : Nat) : (site.dismiss id).queue = site.queue := by
  rw [dismiss]
  split
  · rfl
  simp only
  split
  · exact (queue_unhook _ id).trans (queue_update site id _)
  · exact queue_update site id _

theorem queue_look (c : Call) : (site.look c).1.queue = site.queue :=
  queue_of_queued (f := fun site => (site.look c).1)
    (congrArg Prod.fst (look_queued site.queue site c))

theorem queue_enter (job : SlotJob) : (site.enter job).1.queue = site.queue :=
  queue_of_queued (f := fun site => (site.enter job).1)
    (congrArg Prod.fst (enter_queued site.queue site job))

/-- No action from outside puts a note into the queue, and only the one that reads notes takes one
out. -/
theorem queue_outside {action : Action H} (outside : action.isOutside = true)
    (keeps : action ≠ .collect) : (site.perform action).queue = site.queue := by
  cases action with
  | enrol e => exact queue_enrol site e
  | build e => exact queue_build site e
  | adopt id => exact queue_adopt site id
  | dismiss id => exact queue_dismiss site id
  | raise unit event =>
    exact queue_of_queued (f := fun site => (site.raise unit event).1)
      (congrArg Prod.fst (raise_queued site.queue site unit event))
  | tell sink event =>
    exact queue_of_queued (f := fun site => (offer event sink site).1)
      (congrArg Prod.fst (offer_queued site.queue site event sink))
  | join unit id sink => exact queue_rechain site unit _
  | collect => exact absurd rfl keeps
  | alter change => rfl
  | start | poll | cancel => cases outside

end Queue

end RangeSurvey.Site
