import RangeSurvey.Site.Tasks

/-!
# Runs of a site

Everything that can happen to a site, one action at a time and in any order: devices are enrolled
and stations dismissed, steps and slots are begun, looked at and given up, radios raise events, and
the hardware changes as it likes in between.
-/

namespace RangeSurvey

inductive Action (H : Type) where
  | enrol (e : Enrolment)
  | build (e : Enrolment)
  | adopt (id : Nat)
  | dismiss (id : Nat)
  /-- Begins a task, unless its number is in use. -/
  | start (number : Nat) (task : Task)
  /-- Looks at a task. -/
  | poll (number : Nat)
  /-- Gives a task up. -/
  | cancel (number : Nat)
  /-- A radio raises an event. -/
  | raise (unit : Nat) (event : RadioEvent)
  /-- A sink is told of an event directly. -/
  | tell (sink : Sink) (event : RadioEvent)
  /-- Another party joins the chain of a unit. -/
  | join (unit id : Nat) (sink : Sink)
  /-- A completion note is read. -/
  | collect
  /-- The hardware changes by itself. -/
  | alter (change : H → H)

namespace Site

variable {H : Type} [Hardware H]

def perform (site : Site H) : Action H → Site H
  | .enrol e => (site.enrol e).1
  | .build e => (site.build e).1
  | .adopt id => (site.adopt id).1
  | .dismiss id => site.dismiss id
  | .start number task => if (site.task? number).isSome then site else site.start number task
  | .poll number => (poll number site).1
  | .cancel number => (site.cancel number).1
  | .raise unit event => (site.raise unit event).1
  | .tell sink event => (offer event sink site).1
  | .join unit id sink => site.rechain unit fun c => c.register id sink
  | .collect => site.popCompletion.1
  | .alter change => site.mapHardware change

def performAll (site : Site H) : List (Action H) → Site H
  | [] => site
  | action :: actions => performAll (site.perform action) actions

@[simp] theorem performAll_append (site : Site H) (first second : List (Action H)) :
    site.performAll (first ++ second) = (site.performAll first).performAll second := by
  induction first generalizing site with
  | nil => rfl
  | cons action first ih => exact ih (site.perform action)

/-- What every action preserves holds after every run. -/
theorem performAll_induction {P : Site H → Prop} (hP : ∀ site action, P site →
    P (site.perform action)) (actions : List (Action H)) {site : Site H} (h : P site) :
    P (site.performAll actions) := by
  induction actions generalizing site with
  | nil => exact h
  | cons action actions ih => exact ih (hP site action h)

end Site

end RangeSurvey
