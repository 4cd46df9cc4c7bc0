import RangeSurvey.Air.Point
import RangeSurvey.Air.Random
import RangeSurvey.Radio

/-!
# The medium

A simulated medium that the radios of a fleet share. It knows where every node is, what its radio
is armed for and what its engine measured last. Nodes hear each other up to the radio range, and a
seeded random loss takes frames and ranging answers away. A node number may name no node: most
operations then do nothing, and those that need the node's position have no result. Memory is taken
to last.
-/

namespace RangeSurvey

inductive Duty where
  | idle
  | sending
  | listening
deriving DecidableEq, Repr

structure Node where
  position : Point
  /-- The transmit buffer. -/
  buffer : List UInt8 := []
  /-- The length of the next transmission. -/
  frameLength : Nat := 0
  duty : Duty := .idle
  /-- The next transmission fails to start. -/
  failTransmit : Bool := false
  /-- The next reception fails to start. -/
  failReceive : Bool := false
  /-- The packed distances that the engine measured last. -/
  distances : List Distance
  /-- The peers that they belong to. -/
  answered : PeerSet := .empty
deriving DecidableEq, Repr

namespace Node

def frame (n : Node) : List UInt8 := n.buffer.take n.frameLength

/-- Copies bytes over those of a buffer between two places, if these are there and as far apart. -/
def overwrite? (buffer bytes : List UInt8) (start stop : Nat) : Option (List UInt8) :=
  if start ≤ stop ∧ stop ≤ buffer.length ∧ bytes.length = stop - start then
    some (buffer.take start ++ bytes ++ buffer.drop stop)
  else none

/-- The transmit buffer after it has grown to hold some bytes and they have been copied into it. The
place where they end is a sum of 64-bit words, which wraps. -/
def written? (n : Node) (bytes : List UInt8) (offset : UInt64) : Option (List UInt8) :=
  let stop := (offset + UInt64.ofNat bytes.length).toNat
  overwrite? (n.buffer ++ List.replicate (stop - n.buffer.length) 0) bytes offset.toNat stop

/-- A write that has no result leaves the buffer as it is. -/
def write (n : Node) (bytes : List UInt8) (offset : UInt64) : Node :=
  { n with buffer := (n.written? bytes offset).getD n.buffer }

/-- There is room for what is written, unless the place where it ends wraps. -/
theorem written?_eq (n : Node) (bytes : List UInt8) (offset : UInt64) :
    n.written? bytes offset =
      if offset.toNat + bytes.length < UInt64.size then
        let room :=
          n.buffer ++ List.replicate (offset.toNat + bytes.length - n.buffer.length) 0
        some (room.take offset.toNat ++ bytes ++ room.drop (offset.toNat + bytes.length))
      else none := by
  have stop : (offset + UInt64.ofNat bytes.length).toNat =
      (offset.toNat + bytes.length) % 2 ^ 64 := by
    rw [UInt64.toNat_add, UInt64.toNat_ofNat', Nat.add_mod_mod]
  have bound := offset.toNat_lt
  simp only [written?, stop]
  split
  next fits =>
    have inside : offset.toNat + bytes.length < 2 ^ 64 := fits
    rw [Nat.mod_eq_of_lt inside, overwrite?, if_pos]
    rw [List.length_append, List.length_replicate]
    omega
  next wraps =>
    have past : 2 ^ 64 ≤ offset.toNat + bytes.length := Nat.le_of_not_lt wraps
    rw [overwrite?, if_neg]
    omega

end Node

structure MediumSettings where
  /-- How far a radio reaches. -/
  range : Distance := Distance.infinite
  /-- How many of a hundred frames and answers are lost. -/
  lossPercent : Nat := 0
  seed : UInt64 := 0x5EED
deriving DecidableEq, Repr

/-- How often each thing has happened on the medium. The counts have no bound here. -/
structure AirCounters where
  framesSent : Nat := 0
  framesDelivered : Nat := 0
  framesLost : Nat := 0
  collisions : Nat := 0
  timeouts : Nat := 0
  rangingRequests : Nat := 0
  rangingListens : Nat := 0
deriving DecidableEq, Repr

structure Medium where
  nodes : List Node
  range : Distance
  lossPercent : Nat
  random : Random
  counters : AirCounters := {}

namespace Medium

/-- A medium with a node at each of the positions, which draws what a generator makes of the
seed. -/
def seeded (generator : UInt64 → Random) (positions : List Point) (settings : MediumSettings) :
    Medium where
  nodes := positions.map fun position =>
    { position, distances := List.replicate positions.length 0 }
  range := settings.range
  lossPercent := settings.lossPercent
  random := generator settings.seed

def nodeCount (m : Medium) : Nat := m.nodes.length

def node? (m : Medium) (i : Nat) : Option Node := m.nodes[i]?

def modifyNode (m : Medium) (i : Nat) (f : Node → Node) : Medium :=
  { m with nodes := m.nodes.modify i f }

def setLoss (m : Medium) (percent : Nat) : Medium := { m with lossPercent := min percent 100 }

def move (m : Medium) (i : Nat) (position : Point) : Medium :=
  m.modifyNode i fun n => { n with position }

def failNextTransmit (m : Medium) (i : Nat) : Medium :=
  m.modifyNode i fun n => { n with failTransmit := true }

def failNextReceive (m : Medium) (i : Nat) : Medium :=
  m.modifyNode i fun n => { n with failReceive := true }

def disarm (m : Medium) (i : Nat) : Medium := m.modifyNode i fun n => { n with duty := .idle }

def disarmAll (m : Medium) : Medium :=
  { m with nodes := m.nodes.map fun n => { n with duty := .idle } }

def write? (m : Medium) (i : Nat) (bytes : List UInt8) (offset : UInt64) : Option Medium :=
  match m.node? i with
  | none => some m
  | some n =>
    (n.written? bytes offset).map fun buffer => m.modifyNode i fun n => { n with buffer }

theorem write?_eq_some {m m' : Medium} {i : Nat} {bytes : List UInt8} {offset : UInt64}
    (written : m.write? i bytes offset = some m') : ∃ f, m' = m.modifyNode i f := by
  rw [write?] at written
  split at written
  next gone =>
    obtain rfl := Option.some.inj written
    refine ⟨id, ?_⟩
    rw [modifyNode, List.modify_id]
  next =>
    obtain ⟨buffer, -, rfl⟩ := Option.map_eq_some_iff.mp written
    exact ⟨_, rfl⟩

/-- Whether a frame or an answer is lost. Without loss nothing is drawn. -/
def draw (lossPercent : Nat) (random : Random) : Random × Bool :=
  if lossPercent = 0 then (random, false)
  else
    let (random, word) := random.next32
    (random, word.toNat % 100 < lossPercent)

def distance? (m : Medium) (a b : Nat) : Option Distance :=
  match m.node? a, m.node? b with
  | some p, some q => some (p.position.distance q.position)
  | _, _ => none

/-- Whether `b` hears `a`: a node does not hear itself, and two nodes have to exist to be within
range. -/
def hears? (m : Medium) (a b : Nat) : Option Bool :=
  if a = b then some false else (m.distance? a b).map fun d => d.within m.range

/-- Arms a node to transmit, or uses up a failure that it is due. -/
def armTransmit (m : Medium) (i : Nat) : Medium × Except StartError (List RadioEvent) :=
  match m.node? i with
  | none => (m, .error .transmit)
  | some n =>
    if n.failTransmit then
      (m.modifyNode i fun n => { n with failTransmit := false }, .error .transmit)
    else (m.modifyNode i fun n => { n with duty := .sending }, .ok [])

def armReceive (m : Medium) (i : Nat) : Medium × Except StartError (List RadioEvent) :=
  match m.node? i with
  | none => (m, .error .receive)
  | some n =>
    if n.failReceive then
      (m.modifyNode i fun n => { n with failReceive := false }, .error .receive)
    else (m.modifyNode i fun n => { n with duty := .listening }, .ok [])

/-- How long the preamble of every frame takes, in microseconds. -/
def preamble : UInt32 := 130

def requestLength : Nat := 16

/-- What a listener adds to the air time of a request, in microseconds. -/
def listenMargin : UInt16 := 0x80

/-- The air time of a frame at 6.8 megabits a second with its preamble, up to the longest time that
sixteen bits hold. The count of tenths of bits is a 32-bit word. -/
def airTime (length : Nat) : UInt16 :=
  let tenths := (UInt32.ofNat length * 80).toNat
  UInt16.ofNat (min (preamble.toNat + (tenths + 67) / 68) 65535)

structure Answers where
  random : Random
  answered : PeerSet
  distances : List Distance

/-- Asks the peers one after the other for their distance to node `i`. Those that do not exist or
are out of reach do not answer, and some answers are lost. There is no result when node `i` itself
does not exist and somebody who does is asked. -/
def ask? (m : Medium) (i : Nat) : List Nat → Random → Option Answers
  | [], random => some ⟨random, .empty, []⟩
  | peer :: peers, random =>
    if m.nodeCount ≤ peer then m.ask? i peers random
    else
      match m.hears? i peer with
      | none => none
      | some false => m.ask? i peers random
      | some true =>
        match draw m.lossPercent random with
        | (random, true) => m.ask? i peers random
        | (random, false) =>
          match m.distance? i peer, m.ask? i peers random with
          | some d, some a => some ⟨a.random, a.answered.insert peer, d :: a.distances⟩
          | _, _ => none

def request? (m : Medium) (i : Nat) (peers : PeerSet) : Option Medium :=
  (m.ask? i peers.members m.random).map fun a =>
    ({ m with
        random := a.random
        counters := { m.counters with rangingRequests := m.counters.rangingRequests + 1 } } :
      Medium).modifyNode i fun n => { n with answered := a.answered, distances := a.distances }

def listen (m : Medium) : Medium :=
  { m with counters := { m.counters with rangingListens := m.counters.rangingListens + 1 } }

def measured (m : Medium) (i : Nat) (cells : List Distance) : PeerSet × List Distance :=
  match m.node? i with
  | none => (.empty, cells)
  | some n => (n.answered, n.distances.take cells.length ++ cells.drop n.distances.length)

/-- An exchange takes two looks. A request measures at the second; a listener is counted at the
first. A request that has no result never ends. -/
def pollExchange (m : Medium) (i : Nat) (first : Bool) : Exchange → Medium × Bool
  | .request _ _ _ peers =>
    if first then (m, false)
    else
      match m.request? i peers with
      | some m => (m, true)
      | none => (m, false)
  | .listen .. => if first then (m.listen, false) else (m, true)

instance : Hardware Medium where
  present m i := i < m.nodeCount
  write m i bytes offset := m.modifyNode i fun n => n.write bytes (UInt64.ofNat offset)
  setControl m i length _ := m.modifyNode i fun n => { n with frameLength := length }
  armTransmit m i _ := m.armTransmit i
  armReceive m i _ _ := m.armReceive i
  airTime _ _ length := airTime length
  preamble _ _ := preamble
  pollExchange m i first e := m.pollExchange i first e
  measured m _ slot cells := m.measured slot cells
  requestLength _ _ := requestLength
  listenMargin _ _ := listenMargin

end Medium

end RangeSurvey
