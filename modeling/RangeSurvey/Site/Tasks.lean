import RangeSurvey.Settling
import RangeSurvey.Site.Calls
import RangeSurvey.Site.Roster

/-!
# Slots and tasks

A device that is told of a slot looks up its station, which takes the part that the round gives it.
After a broadcast slot that ends a survey round a completion note is queued for whoever asked.
-/

namespace RangeSurvey

def Role.activity : Role → Activity
  | .requester => .request
  | .listener => .listen
  | .broadcaster => .broadcast
  | .receiver => .receive

namespace Site

variable {H : Type} [Hardware H]

def deadline (site : Site H) (s : Station) (job : SlotJob) : UInt64 :=
  let start := job.slot.start job.clock
  if hasTurn job.slot.round s.nodeCount s.slot then Deadline.active start
  else Deadline.passive start (Hardware.preamble site.hardware s.unit)

/-- A station that is ready enters the round of a slot and takes its part in it. -/
def takePart (site : Site H) (id : Nat) (s : Station) (job : SlotJob) : Site H × Call :=
  let round := job.slot.round
  let role := Role.of job.kind (hasTurn round s.nodeCount s.slot)
  let deadline := site.deadline s job
  (site.act id fun s =>
      (s.enterRound (roundNumber round s.config.roundShift), [.slotPart round role deadline]),
    { station := id
      activity := role.activity
      deadline
      part := some ⟨job.kind, role, round, job.notify⟩ })

/-- Finds the station of a device and its part in a slot, if it has a station that is ready. -/
def enter (site : Site H) (job : SlotJob) : Site H × Option Call :=
  match site.find? job.device with
  | none => (site, none)
  | some id =>
    match site.stations[id]? with
    | none => (site, none)
    | some s =>
      if s.status.ready then
        let (site, c) := site.takePart id s job
        (site, some c)
      else (site.note (.slotSkipped job.kind job.device), none)

/-- Queues the note that a survey round is over. There is room for a few; one more is dropped. -/
def announce (site : Site H) (id : Nat) (s : Station) : Site H :=
  let note : Completion := ⟨s.device, s.round⟩
  if site.queue.length < completionCapacity then
    ({ site with queue := site.queue ++ [note] } : Site H).record (.announced note true)
  else (site.record (.announced note false)).say id .queueFull

def conclude (site : Site H) (c : Call) (status : Status) : Site H × Outcome :=
  match c.part with
  | none => (site, .step status)
  | some part =>
    let outcome := .slot (some ⟨part.role, c.deadline, status⟩)
    match part.kind, site.stations[c.station]? with
    | .broadcast, some s =>
      if endsCycle part.round s.nodeCount && part.notify then (site.announce c.station s, outcome)
      else (site, outcome)
    | _, _ => (site, outcome)

/-- How a task stands after somebody has looked at it. -/
inductive TaskProgress where
  | waiting (task : Task)
  | over (outcome : Outcome)

def runCall (site : Site H) (c : Call) : Site H × TaskProgress :=
  match site.look c with
  | (site, .waiting c) => (site, .waiting (.call c))
  | (site, .done status) =>
    let (site, outcome) := site.conclude c status
    (site, .over outcome)

def run (site : Site H) : Task → Site H × TaskProgress
  | .call c => site.runCall c
  | .slot job =>
    match site.enter job with
    | (site, none) => (site, .over (.slot none))
    | (site, some c) => site.runCall c

/-- Begins a task; nothing happens before somebody looks at it. -/
def start (site : Site H) (id : Nat) (task : Task) : Site H :=
  { site with tasks := site.tasks ++ [(id, task)] }

def task? (site : Site H) (id : Nat) : Option Task :=
  (site.tasks.find? fun t => t.1 == id).map Prod.snd

def removeTask (site : Site H) (id : Nat) : Site H :=
  { site with tasks := site.tasks.filter fun t => t.1 != id }

def replaceTask (site : Site H) (id : Nat) (task : Task) : Site H :=
  { site with tasks := site.tasks.map fun t => if t.1 = id then (id, task) else t }

/-- Looks at the task number `id`, which leaves the list when it is over. -/
def poll (id : Nat) (site : Site H) : Site H × Option Outcome :=
  match site.task? id with
  | none => (site, none)
  | some task =>
    match site.run task with
    | (site, .waiting task) => (site.replaceTask id task, none)
    | (site, .over outcome) => ((site.removeTask id).record (.ended id outcome), some outcome)

def cancel (site : Site H) (id : Nat) : Site H × Bool :=
  match site.task? id with
  | none => (site, false)
  | some (.slot _) => (site.removeTask id, true)
  | some (.call c) => ((site.removeTask id).abandon c, true)

def pending (site : Site H) : List Nat := site.tasks.map Prod.fst

def settle (site : Site H) : Site H × List (Nat × Outcome) := RangeSurvey.settle poll pending site

def popCompletion (site : Site H) : Site H × Option Completion :=
  match site.queue with
  | [] => (site, none)
  | note :: rest => (({ site with queue := rest } : Site H).record (.collected note), some note)

end Site

end RangeSurvey
