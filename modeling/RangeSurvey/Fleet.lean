import RangeSurvey.Air.Hearing
import RangeSurvey.Air.Wyrand
import RangeSurvey.Site.Tasks

/-!
# Fleets

Stations on a simulated medium. A slot lets all devices arm their radios, then decides who hears
what, tells the nodes, and lets the devices finish.
-/

namespace RangeSurvey

/-- A site in the air: unit `i` is node `i` of the medium. -/
abbrev Fleet := Site Medium

namespace Fleet

/-- Tells a node what happened to its radio. A frame that nobody consumes is followed by a
timeout. -/
def tell (f : Fleet) (node : Nat) : RadioEvent → Fleet
  | .received bytes =>
    match f.raise node (.received bytes) with
    | (f, true) => f
    | (f, false) =>
      let f := (f.note (.notConsumed node)).mapHardware fun m =>
        { m with counters := { m.counters with timeouts := m.counters.timeouts + 1 } }
      (f.raise node .timedOut).1
  | event => (f.raise node event).1

def tellAll (f : Fleet) : List (Nat × RadioEvent) → Fleet
  | [] => f
  | (node, event) :: rest => tellAll (tell f node event) rest

/-- Ends the slot of the medium and tells every armed node what happened. -/
def endSlot (f : Fleet) : Fleet :=
  match f.hardware.endSlot? with
  | none => f
  | some (m, told) => tellAll { f with hardware := m } told

/-- Resets the radio of a node: it is disarmed, and its chain hears of it. -/
def resetRadio (f : Fleet) (node : Nat) : Fleet :=
  if node < f.hardware.nodeCount then
    (((f.mapHardware fun m => m.disarm node).note (.radioReset node)).raise node .reset).1
  else f

/-- How often the medium gives way to the devices before it ends a slot. -/
def settleYields : Nat := 8

/-- A fleet in the middle of a slot. The medium will give way `yields` times more; `none` once it
has ended the slot. -/
structure Running where
  fleet : Fleet
  yields : Option Nat := some settleYields

/-- Looks at the medium, which gives way to the devices or ends the slot. -/
def Running.look (r : Running) : Running :=
  match r.yields with
  | none => r
  | some 0 => ⟨endSlot r.fleet, none⟩
  | some (n + 1) => { r with yields := some n }

def startAll (first : Nat) : List SlotJob → Fleet → Fleet
  | [], f => f
  | job :: jobs, f => startAll (first + 1) jobs (f.start first (.slot job))

/-- A slot that devices are told of. The tasks are looked at twice, which lets every radio be armed,
and once more after the slot has ended; what they come to is given. -/
def slot (f : Fleet) (jobs : List SlotJob) (order resets : List Nat) :
    Fleet × List (Nat × Outcome) :=
  let (f, first) := pass Site.poll order (startAll 0 jobs f)
  let (f, second) := pass Site.poll order f
  let (f, last) := pass Site.poll order (endSlot (resets.foldl resetRadio f))
  (f, first ++ second ++ last)

end Fleet

end RangeSurvey
