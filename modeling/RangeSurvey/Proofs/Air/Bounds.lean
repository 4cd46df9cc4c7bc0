import RangeSurvey.Air.Wyrand
import RangeSurvey.Proofs.Air.Answers
import RangeSurvey.Proofs.Air.Audience

/-!
# Reads and writes within bounds

Whatever is asked of a medium, of its radios and of its engines, a node is looked up or a part of a
buffer is read or written. Here every place that is taken without a look whether it is there is
checked, and what is asked has no result when one of them is out of bounds. This happens on two
occasions: a node that does not exist asks somebody who does for a distance, and bytes are written
so far out that the place where they end is no machine word. The end of a slot stays within bounds
whatever lengths have been set, since a frame ends where its buffer ends.
-/

namespace RangeSurvey

universe u v

variable {α : Type u} {σ : Type v}

namespace Node

/-- The first bytes of the buffer, which has to hold as many. -/
def slice? (n : Node) (length : Nat) : Option (List UInt8) :=
  if length ≤ n.buffer.length then some (n.buffer.take length) else none

/-- The buffer holds what is sent of it. -/
theorem slice?_frame (n : Node) : n.slice? (min n.frameLength n.buffer.length) = some n.frame := by
  rw [slice?, if_pos (Nat.min_le_right _ _), frame, ← List.take_eq_take_min]

end Node

namespace Medium

def pick? (m : Medium) (duty : Duty) : List Nat → Option (List Nat)
  | [] => some []
  | i :: is =>
    match m.node? i, m.pick? duty is with
    | some n, some picked => some (if n.duty == duty then i :: picked else picked)
    | _, _ => none

/-- What a receiver is told that hears some senders at once. Both the sender and the receiver are
looked up, and the frame is read off the buffer. -/
def delivery? (m : Medium) (receiver : Nat) (heard : List Nat) : Option RadioEvent :=
  match m.node? receiver, heard with
  | none, _ => none
  | some _, [sender] =>
    (m.node? sender).bind fun n =>
      (n.slice? (min n.frameLength n.buffer.length)).map .received
  | some _, _ => some .timedOut

def deliver? (senders : List Nat) : List Nat → Medium → Option (Medium × List (Nat × RadioEvent))
  | [], m => some (m, [])
  | receiver :: receivers, m =>
    match m.inReach? receiver senders with
    | none => none
    | some reaching =>
      let s := sift m.lossPercent reaching m.random
      let m' : Medium :=
        { m with random := s.random, counters := m.counters.hear s.heard.length s.lost }
      match m.delivery? receiver s.heard, deliver? senders receivers m' with
      | some event, some (m'', later) => some (m'', (receiver, event) :: later)
      | _, _ => none

def release? (m : Medium) : List Nat → Option (List (Nat × RadioEvent))
  | [] => some []
  | sender :: senders =>
    match m.node? sender, m.release? senders with
    | some _, some later => some ((sender, .sent) :: later)
    | _, _ => none

def resolve? (m : Medium) : Option (Medium × List (Nat × RadioEvent)) := do
  let senders ← m.pick? .sending (List.range m.nodeCount)
  let receivers ← m.pick? .listening (List.range m.nodeCount)
  let (m, told) ← deliver? senders receivers
    { m with counters := { m.counters with framesSent := m.counters.framesSent + senders.length } }
  let sent ← m.release? senders
  return (m.disarmAll, told ++ sent)

/-! ## The end of a slot -/

theorem pick?_eq {m : Medium} (duty : Duty) {is : List Nat} (inside : ∀ i ∈ is, i < m.nodeCount) :
    m.pick? duty is = some (is.filter fun i => (m.node? i).any fun n => n.duty == duty) := by
  induction is with
  | nil => rfl
  | cons i is ih =>
    obtain ⟨n, hn⟩ := node?_of_lt (inside i List.mem_cons_self)
    have rest := ih fun j hj => inside j (List.mem_cons_of_mem i hj)
    simp only [pick?, hn, rest, List.filter_cons, Option.any_some]

theorem delivery?_eq {m : Medium} {receiver : Nat} (inside : receiver < m.nodeCount)
    (heard : List Nat) : m.delivery? receiver heard = m.told? heard := by
  obtain ⟨n, hn⟩ := node?_of_lt inside
  rcases heard with _ | ⟨sender, _ | ⟨other, senders⟩⟩
  · simp only [delivery?, hn, told?]
  · simp only [delivery?, hn, told?, Node.slice?_frame, Option.map_some]
    cases m.node? sender with
    | none => rfl
    | some _ => rfl
  · simp only [delivery?, hn, told?]

theorem deliver?_eq (senders : List Nat) {receivers : List Nat} {m : Medium}
    (inside : ∀ i ∈ receivers, i < m.nodeCount) :
    deliver? senders receivers m = serve? senders receivers m := by
  induction receivers generalizing m with
  | nil => rfl
  | cons receiver receivers ih =>
    have rest (random : Random) (counters : AirCounters) :
        deliver? senders receivers { m with random, counters } =
          serve? senders receivers { m with random, counters } :=
      ih fun i hi => inside i (List.mem_cons_of_mem receiver hi)
    have first := delivery?_eq (inside receiver List.mem_cons_self)
    cases reach : m.inReach? receiver senders with
    | none => simp only [deliver?, serve?, reach]
    | some reaching =>
      let s := sift m.lossPercent reaching m.random
      cases told : m.told? s.heard with
      | none => simp only [deliver?, serve?, reach, first, told, s]
      | some event =>
        cases served : serve? senders receivers
            { m with random := s.random, counters := m.counters.hear s.heard.length s.lost } with
        | none => simp only [deliver?, serve?, reach, first, told, rest, served, s]
        | some later => simp only [deliver?, serve?, reach, first, told, rest, served, s]

theorem release?_eq {m : Medium} {senders : List Nat} (inside : ∀ i ∈ senders, i < m.nodeCount) :
    m.release? senders = some (senders.map fun i => (i, .sent)) := by
  induction senders with
  | nil => rfl
  | cons sender senders ih =>
    obtain ⟨n, hn⟩ := node?_of_lt (inside sender List.mem_cons_self)
    have rest := ih fun j hj => inside j (List.mem_cons_of_mem sender hj)
    simp only [release?, hn, rest, List.map_cons]

/-- A slot ends as it does without the checks. -/
theorem resolve?_eq (m : Medium) : m.resolve? = m.endSlot? := by
  have picked (duty : Duty) : m.pick? duty (List.range m.nodeCount) = some (m.onDuty duty) :=
    pick?_eq duty fun i => List.mem_range.mp
  have delivered (counters : AirCounters) :
      deliver? (m.onDuty .sending) (m.onDuty .listening) { m with counters } =
        some
          ({ m with
              random := drawn m.lossPercent m.random m.crossings.length
              counters := m.served counters (m.onDuty .listening) },
            (m.onDuty .listening).map fun i => (i, m.outcome i)) := by
    rw [deliver?_eq (m := { m with counters }) _ fun i hi => onDuty_lt (m := m) hi]
    exact m.serve?_eq (List.nil_append (m.onDuty .listening)).symm counters
  have released (random : Random) (counters : AirCounters) :
      ({ m with random, counters } : Medium).release? (m.onDuty .sending) =
        some ((m.onDuty .sending).map fun i => (i, .sent)) :=
    release?_eq fun i hi => onDuty_lt (m := m) hi
  rw [m.endSlot?_eq]
  simp only [resolve?, picked, delivered, released, Option.bind_eq_bind, Option.bind_some,
    Option.pure_def]
  rfl

/-! ## Nodes that do not exist -/

theorem modifyNode_absent {m : Medium} {i : Nat} (absent : m.nodeCount ≤ i) (f : Node → Node) :
    m.modifyNode i f = m := by
  rw [modifyNode, List.modify_eq_self absent]

theorem node?_absent {m : Medium} {i : Nat} (absent : m.nodeCount ≤ i) : m.node? i = none :=
  List.getElem?_eq_none absent

/-- A write has no result just if it is to a node that exists and the place where it ends wraps. -/
theorem write?_eq_none {m : Medium} {i : Nat} {bytes : List UInt8} {offset : UInt64} :
    m.write? i bytes offset = none ↔
      i < m.nodeCount ∧ UInt64.size ≤ offset.toNat + bytes.length := by
  rcases Nat.lt_or_ge i m.nodeCount with inside | absent
  · obtain ⟨n, hn⟩ := node?_of_lt inside
    simp only [write?, hn, Option.map_eq_none_iff, Node.written?_eq, inside, true_and]
    split
    next fits => exact iff_of_false (Option.some_ne_none _) (Nat.not_le.mpr fits)
    next wraps => exact iff_of_true rfl (Nat.le_of_not_lt wraps)
  · rw [write?, node?_absent absent]
    exact iff_of_false (Option.some_ne_none _) fun there =>
      absurd there.1 (Nat.not_lt.mpr absent)

end Medium

structure Scene (α : Type u) (σ : Type v) where
  medium : Medium
  audience : Audience α σ
  shared : σ

/-- What can be asked of a medium, of one of its radios or of one of its engines. -/
inductive Asked (α : Type u) where
  | nodeCount
  | counters
  | setLoss (percent : Nat)
  | move (node : Nat) (position : Point)
  | failNextTransmit (node : Nat)
  | failNextReceive (node : Nat)
  | reset (node : Nat)
  | endSlot
  | write (node : Nat) (bytes : List UInt8) (offset : UInt64)
  | setControl (node length : Nat) (ranging : Bool)
  | armTransmit (node : Nat) (start : UInt64)
  | armReceive (node : Nat) (timeout : UInt16) (start : UInt64)
  | airTime (node length : Nat)
  | preamble (node : Nat)
  | register (node id : Nat) (sink : α)
  | remove (node id : Nat)
  | exchange (node : Nat) (exchange : Exchange)
  | measured (node slot : Nat) (cells : List Distance)
  | requestLength (node : Nat)
  | listenMargin (node : Nat)

inductive Answer where
  | done
  | number (n : Nat)
  | counters (counters : AirCounters)
  | started (result : Except StartError (List RadioEvent))
  | measured (answered : PeerSet) (cells : List Distance)

/-- The node that is meant. What an engine has measured is that of the slot it is asked for. -/
def Asked.node? : Asked α → Option Nat
  | .move i _ | .failNextTransmit i | .failNextReceive i | .reset i | .write i _ _
  | .setControl i _ _ | .armTransmit i _ | .armReceive i _ _ | .airTime i _ | .preamble i
  | .register i _ _ | .remove i _ | .exchange i _ | .measured _ i _ | .requestLength i
  | .listenMargin i => some i
  | .nodeCount | .counters | .setLoss _ | .endSlot => none

/-- A node that does not exist is to request distances of peers of which one does. -/
def Asked.FromNowhere (m : Medium) : Asked α → Prop
  | .exchange i (.request _ _ _ peers) =>
    m.nodeCount ≤ i ∧ ∃ p, peers.contains p = true ∧ p < m.nodeCount
  | _ => False

/-- A node that exists is to write bytes that do not end at a 64-bit word. -/
def Asked.Wraps (m : Medium) : Asked α → Prop
  | .write i bytes offset => i < m.nodeCount ∧ UInt64.size ≤ offset.toNat + bytes.length
  | _ => False

namespace Scene

def onMedium (e : Scene α σ) (f : Medium → Medium) : Scene α σ :=
  { e with medium := f e.medium }

def rechain (e : Scene α σ) (i : Nat) (f : Chain α → Chain α) : Scene α σ :=
  if i < e.medium.nodeCount then
    { e with
      audience := { e.audience with
        chain := fun j => if j = i then f (e.audience.chain i) else e.audience.chain j } }
  else e

/-- What comes of what is asked, or nothing when a node or a part of a buffer is taken that is not
there. -/
def perform? (e : Scene α σ) : Asked α → Option (Scene α σ × Answer)
  | .nodeCount => some (e, .number e.medium.nodeCount)
  | .counters => some (e, .counters e.medium.counters)
  | .setLoss percent => some (e.onMedium fun m => m.setLoss percent, .done)
  | .move i position => some (e.onMedium fun m => m.move i position, .done)
  | .failNextTransmit i => some (e.onMedium fun m => m.failNextTransmit i, .done)
  | .failNextReceive i => some (e.onMedium fun m => m.failNextReceive i, .done)
  | .reset i =>
    if i < e.medium.nodeCount then
      some ({ e with
        medium := e.medium.disarm i
        shared := (e.audience.raise i .reset e.shared).1 }, .done)
    else some (e, .done)
  | .endSlot =>
    e.medium.resolve?.map fun (m, told) =>
      match e.audience.tellAll told e.shared with
      | (shared, raised) =>
        ({ e with medium := m.countTimeouts (Audience.missed raised), shared }, .done)
  | .write i bytes offset =>
    (e.medium.write? i bytes offset).map fun medium => ({ e with medium }, .done)
  | .setControl i length ranging =>
    some (e.onMedium fun m => Hardware.setControl m i length ranging, .done)
  | .armTransmit i start =>
    match Hardware.armTransmit e.medium i start with
    | (medium, result) => some ({ e with medium }, .started result)
  | .armReceive i timeout start =>
    match Hardware.armReceive e.medium i timeout start with
    | (medium, result) => some ({ e with medium }, .started result)
  | .airTime i length => some (e, .number (Hardware.airTime e.medium i length).toNat)
  | .preamble i => some (e, .number (Hardware.preamble e.medium i).toNat)
  | .register i id sink => some (e.rechain i fun c => c.register id sink, .done)
  | .remove i id => some (e.rechain i fun c => c.remove id, .done)
  | .exchange i (.request _ _ _ peers) =>
    (e.medium.request? i peers).map fun medium => ({ e with medium }, .done)
  | .exchange _ (.listen ..) => some (e.onMedium Medium.listen, .done)
  | .measured i slot cells =>
    match Hardware.measured e.medium i slot cells with
    | (answered, cells) => some (e, .measured answered cells)
  | .requestLength i => some (e, .number (Hardware.requestLength e.medium i))
  | .listenMargin i => some (e, .number (Hardware.listenMargin e.medium i).toNat)

variable {e e' : Scene α σ} {i : Nat}

theorem perform?_endSlot (e : Scene α σ) :
    e.perform? .endSlot = (e.audience.endSlot e.medium e.shared).map fun (medium, shared, _) =>
      ({ e with medium, shared }, .done) := by
  rw [perform?, Medium.resolve?_eq, Audience.endSlot, Option.map_map]
  rfl

/-- What is asked of a node that does not exist changes no other, and reaches no sink. -/
theorem perform?_absent {asked : Asked α} {answer : Answer} (about : asked.node? = some i)
    (absent : e.medium.nodeCount ≤ i) (result : e.perform? asked = some (e', answer)) :
    e'.medium.nodes = e.medium.nodes ∧ e'.audience = e.audience ∧ e'.shared = e.shared := by
  have unchanged (f : Node → Node) : (e.medium.modifyNode i f).nodes = e.medium.nodes := by
    rw [Medium.modifyNode_absent absent]
  have nobody := Medium.node?_absent absent
  have outside := Nat.not_lt.mpr absent
  cases asked with
  | nodeCount | counters | setLoss | endSlot => cases about
  | move | failNextTransmit | failNextReceive | setControl =>
    cases about
    cases result
    exact ⟨unchanged _, rfl, rfl⟩
  | write =>
    cases about
    simp only [perform?, Medium.write?, nobody, Option.map_some] at result
    cases result
    exact ⟨rfl, rfl, rfl⟩
  | reset =>
    cases about
    rw [perform?, if_neg outside] at result
    cases result
    exact ⟨rfl, rfl, rfl⟩
  | register | remove =>
    cases about
    simp only [perform?, rechain, if_neg outside] at result
    cases result
    exact ⟨rfl, rfl, rfl⟩
  | armTransmit =>
    cases about
    simp only [perform?, Hardware.armTransmit, Medium.armTransmit, nobody] at result
    cases result
    exact ⟨rfl, rfl, rfl⟩
  | armReceive =>
    cases about
    simp only [perform?, Hardware.armReceive, Medium.armReceive, nobody] at result
    cases result
    exact ⟨rfl, rfl, rfl⟩
  | exchange _ exchange =>
    cases about
    cases exchange with
    | request =>
      obtain ⟨m, done, after⟩ := Option.map_eq_some_iff.mp result
      cases after
      obtain ⟨a, -, after⟩ := Option.map_eq_some_iff.mp done
      cases after
      exact ⟨unchanged _, rfl, rfl⟩
    | listen =>
      cases result
      exact ⟨rfl, rfl, rfl⟩
  | airTime | preamble | measured | requestLength | listenMargin =>
    cases result
    exact ⟨rfl, rfl, rfl⟩

/-- A request is out of bounds when a node that does not exist asks somebody who does, a write when
the place where it ends wraps, and nothing else is. -/
theorem perform?_eq_none {asked : Asked α} :
    e.perform? asked = none ↔ asked.FromNowhere e.medium ∨ asked.Wraps e.medium := by
  cases asked with
  | exchange i exchange =>
    cases exchange with
    | request destination start mode peers =>
      have nowhere : e.medium.AsksFromNowhere i peers.members ↔
          e.medium.nodeCount ≤ i ∧ ∃ p, peers.contains p = true ∧ p < e.medium.nodeCount := by
        simp only [Medium.AsksFromNowhere, PeerSet.mem_members]
      simp only [Asked.FromNowhere, Asked.Wraps, or_false, ← nowhere]
      rw [perform?, Option.map_eq_none_iff]
      constructor
      · intro unanswered
        refine Classical.byContradiction fun asks => ?_
        rw [Medium.request?_eq peers asks] at unanswered
        cases unanswered
      · exact Medium.request?_nowhere
    | listen => exact iff_of_false nofun (or_self_iff.mp ·)
  | write =>
    simp only [perform?, Option.map_eq_none_iff, Medium.write?_eq_none, Asked.FromNowhere,
      Asked.Wraps, false_or]
  | endSlot =>
    rw [perform?_endSlot, Audience.endSlot_eq]
    exact iff_of_false nofun (or_self_iff.mp ·)
  | reset =>
    simp only [perform?]
    split
    all_goals exact iff_of_false nofun (or_self_iff.mp ·)
  | _ => exact iff_of_false nofun (or_self_iff.mp ·)

/-- Two things that are asked of a medium, of its radios or of its engines take a place that is not
there: a request from nowhere and a write that wraps. Whatever else is asked of a node that does not
exist changes no node and reaches no sink, and a slot always ends. -/
theorem out_of_bounds_iff (e : Scene α σ) (asked : Asked α) :
    (e.perform? asked = none ↔ asked.FromNowhere e.medium ∨ asked.Wraps e.medium) ∧
      (∀ i e' answer, asked.node? = some i → e.medium.nodeCount ≤ i →
        e.perform? asked = some (e', answer) →
        e'.medium.nodes = e.medium.nodes ∧ e'.audience = e.audience ∧ e'.shared = e.shared) ∧
      (∀ i, e.medium.nodeCount ≤ i →
        (∀ start, e.perform? (.armTransmit i start) = some (e, .started (.error .transmit))) ∧
        (∀ timeout start,
          e.perform? (.armReceive i timeout start) = some (e, .started (.error .receive))) ∧
        ∀ node cells, e.perform? (.measured node i cells) = some (e, .measured .empty cells)) ∧
      ∃ e', e.perform? .endSlot = some (e', .done) := by
  refine ⟨perform?_eq_none, fun i e' answer => perform?_absent, fun i absent => ?_, ?_⟩
  · have nobody := Medium.node?_absent absent
    refine ⟨fun start => ?_, fun timeout start => ?_, fun node cells => ?_⟩
    · simp only [perform?, Hardware.armTransmit, Medium.armTransmit, nobody]
    · simp only [perform?, Hardware.armReceive, Medium.armReceive, nobody]
    · simp only [perform?, Hardware.measured, Medium.measured, nobody]
  · rw [perform?_endSlot, Audience.endSlot_eq]
    exact ⟨_, rfl⟩

/-- A node writes one byte to the last place that a word can name. -/
theorem write_wraps :
    let e : Scene Unit Unit :=
      ⟨Medium.ofPositions [⟨0, 0⟩] {}, ⟨fun _ => {}, fun _ _ s => (s, .notMine), fun _ s => s⟩, ()⟩
    let asked : Asked Unit := .write 0 [1] 18446744073709551615
    e.perform? asked = none ∧ ¬ asked.FromNowhere e.medium := by
  intro e asked
  have wraps : asked.Wraps e.medium := ⟨Nat.zero_lt_one, by decide⟩
  exact ⟨perform?_eq_none.mpr (Or.inr wraps), id⟩

end Scene

end RangeSurvey
