import RangeSurvey.Chain
import RangeSurvey.Proofs.Air.Delivery

/-!
# Who is told of the end of a slot

The events of a radio are heard by a chain of sinks, and a sink may be anything that keeps a state,
takes an event or leaves it, and does not touch the medium. Whatever the sinks are, an armed node
comes to exactly one verdict at the end of a slot, and the counters of the medium tell how many
came to which.
-/

namespace RangeSurvey

universe u v

variable {α : Type u} {σ : Type v}

namespace Chain

/-- The verdicts of the sinks that an event comes to, up to the first that handles it. -/
def verdictsOf (offer : α → σ → σ × Verdict) : List α → σ → List Verdict
  | [], _ => []
  | sink :: rest, s =>
    match offer sink s with
    | (_, .handled) => [.handled]
    | (s, verdict) => verdict :: verdictsOf offer rest s

def verdicts (c : Chain α) (offer : α → σ → σ × Verdict) (s : σ) : List Verdict :=
  verdictsOf offer c.sinks s

theorem offerAll_handled (offer : α → σ → σ × Verdict) (sinks : List α) (s : σ) :
    (offerAll offer sinks s).2 = (verdictsOf offer sinks s).contains .handled := by
  induction sinks generalizing s with
  | nil => rfl
  | cons sink rest ih =>
    rcases heard : offer sink s with ⟨s', _ | _ | _⟩
    · simp [offerAll, verdictsOf, heard]
    · simp [offerAll, verdictsOf, heard, ih]
    · simp [offerAll, verdictsOf, heard, ih]

/-- A walk says whether some sink handled the event. -/
theorem walk_handled (c : Chain α) (offer : α → σ → σ × Verdict) (s : σ) :
    (c.walk offer s).2 = (c.verdicts offer s).contains .handled :=
  offerAll_handled offer c.sinks s

end Chain

def RadioEvent.isFrame : RadioEvent → Bool
  | .received _ => true
  | _ => false

theorem Medium.isFrame_outcome (m : Medium) (i : Nat) :
    (m.outcome i).isFrame = ((m.heard i).length == 1) := by
  by_cases single : (m.heard i).length = 1
  · obtain ⟨_, n, -, -, outcome⟩ := outcome_heard single
    rw [outcome, single]
    rfl
  · rw [outcome_silent single]
    exact (beq_eq_false_iff_ne.mpr single).symm

/-- One event that the radio of a node raised, and what the sinks of the node made of it. -/
structure Raised where
  node : Nat
  event : RadioEvent
  verdicts : List Verdict
deriving DecidableEq, Repr

namespace Raised

def taken (r : Raised) : Bool := r.verdicts.contains .handled

def isFrame (r : Raised) : Bool := r.event.isFrame

end Raised

/-- The sinks on the radios of a medium, with what they share as the state `σ`. They know nothing of
the medium. -/
structure Audience (α : Type u) (σ : Type v) where
  chain : Nat → Chain α
  /-- What a sink does with an event. -/
  offer : RadioEvent → α → σ → σ × Verdict
  /-- What is noted when no sink of a node takes a frame. -/
  miss : Nat → σ → σ

def Medium.countTimeouts (m : Medium) (n : Nat) : Medium :=
  { m with counters := { m.counters with timeouts := m.counters.timeouts + n } }

namespace Audience

def raise (a : Audience α σ) (node : Nat) (event : RadioEvent) (s : σ) : σ × Raised :=
  (((a.chain node).walk (a.offer event) s).1,
    ⟨node, event, (a.chain node).verdicts (a.offer event) s⟩)

/-- Tells a node what happened to its radio. A frame that nobody takes is followed by a timeout. -/
def tell (a : Audience α σ) (node : Nat) : RadioEvent → σ → σ × List Raised
  | .received bytes, s =>
    match a.raise node (.received bytes) s with
    | (s, frame) =>
      if frame.taken then (s, [frame])
      else
        match a.raise node .timedOut (a.miss node s) with
        | (s, timeout) => (s, [frame, timeout])
  | event, s =>
    match a.raise node event s with
    | (s, raised) => (s, [raised])

def tellAll (a : Audience α σ) : List (Nat × RadioEvent) → σ → σ × List Raised
  | [], s => (s, [])
  | (node, event) :: rest, s =>
    match a.tell node event s with
    | (s, raised) =>
      match a.tellAll rest s with
      | (s, later) => (s, raised ++ later)

def missed (raised : List Raised) : Nat := raised.countP fun r => r.isFrame && !r.taken

/-- Ends the slot of a medium and tells every armed node what happened. A frame that nobody takes
counts as a timeout. -/
def endSlot (a : Audience α σ) (m : Medium) (s : σ) : Option (Medium × σ × List Raised) :=
  m.endSlot?.map fun (m, told) =>
    match a.tellAll told s with
    | (s, raised) => (m.countTimeouts (missed raised), s, raised)

end Audience

/-- What a node that listens is told when its slot is over. It hears a single sender, and is offered
its frame, or does not and is told that time is up. -/
inductive Medium.Reception (m : Medium) (i : Nat) : List Raised → Prop
  | taken {sender : Nat} {n : Node} {frame : Raised} : m.heard i = [sender] →
      m.node? sender = some n → frame.node = i →
      frame.event = .received (n.buffer.take (min n.frameLength n.buffer.length)) →
      frame.taken = true → Reception m i [frame]
  | missed {sender : Nat} {n : Node} {frame timeout : Raised} : m.heard i = [sender] →
      m.node? sender = some n → frame.node = i →
      frame.event = .received (n.buffer.take (min n.frameLength n.buffer.length)) →
      frame.taken = false → timeout.node = i → timeout.event = .timedOut →
      Reception m i [frame, timeout]
  | silent {timeout : Raised} : (m.heard i).length ≠ 1 → timeout.node = i →
      timeout.event = .timedOut → Reception m i [timeout]

/-- How a slot of a medium ends: what the radios raise, in order, and the medium afterwards. -/
structure Medium.Ends (m m' : Medium) (raised : List Raised) : Prop where
  listening : ∀ i ∈ m.onDuty .listening, m.Reception i (raised.filter fun r => r.node == i)
  sending : ∀ i ∈ m.onDuty .sending, ∃ r, raised.filter (fun r => r.node == i) = [r] ∧
    r.event = .sent
  armed : ∀ r ∈ raised, r.node ∈ m.onDuty .listening ∨ r.node ∈ m.onDuty .sending
  order : raised.Pairwise fun r r' => r.node ∈ m.onDuty .sending → r'.node ∈ m.onDuty .sending
  nodes : m'.nodes = m.nodes.map fun n => { n with duty := .idle }
  range : m'.range = m.range
  lossPercent : m'.lossPercent = m.lossPercent
  framesSent : m'.counters.framesSent = m.counters.framesSent + (m.onDuty .sending).length
  framesDelivered : m'.counters.framesDelivered =
    m.counters.framesDelivered + raised.countP Raised.isFrame
  collisions : m'.counters.collisions =
    m.counters.collisions + (m.onDuty .listening).countP fun i => 2 ≤ (m.heard i).length
  timeouts : m'.counters.timeouts + raised.countP (fun r => r.isFrame && r.taken) =
    m.counters.timeouts + (m.onDuty .listening).length
  framesLost : m'.counters.framesLost + ((m.onDuty .listening).flatMap m.heard).length =
    m.counters.framesLost + m.crossings.length
  rangingRequests : m'.counters.rangingRequests = m.counters.rangingRequests
  rangingListens : m'.counters.rangingListens = m.counters.rangingListens

namespace Audience

variable {a : Audience α σ} {m : Medium}

/-! ### What one node raises -/

theorem tell_taken {node : Nat} {bytes : List UInt8} {s : σ}
    (taken : (a.raise node (.received bytes) s).2.taken = true) :
    (a.tell node (.received bytes) s).2 = [(a.raise node (.received bytes) s).2] := by
  simp only [tell, taken, if_true]

theorem tell_missed {node : Nat} {bytes : List UInt8} {s : σ}
    (missed : (a.raise node (.received bytes) s).2.taken = false) :
    (a.tell node (.received bytes) s).2 =
      [(a.raise node (.received bytes) s).2,
        (a.raise node .timedOut (a.miss node (a.raise node (.received bytes) s).1)).2] := by
  simp only [tell, missed, Bool.false_eq_true, if_false]

theorem tell_node (a : Audience α σ) (node : Nat) (event : RadioEvent) (s : σ) :
    ∀ r ∈ (a.tell node event s).2, r.node = node := by
  have alone {event : RadioEvent} {s : σ} : ∀ r ∈ [(a.raise node event s).2], r.node = node :=
    fun r hr => List.mem_singleton.mp hr ▸ rfl
  cases event with
  | received bytes =>
    cases taken : (a.raise node (.received bytes) s).2.taken with
    | true =>
      rw [tell_taken taken]
      exact alone
    | false =>
      rw [tell_missed taken]
      intro r hr
      rcases List.mem_cons.mp hr with rfl | hr
      · rfl
      · exact alone r hr
  | _ => exact alone

/-- Only a node that receives a frame raises one, and it raises one. -/
theorem tell_frames (a : Audience α σ) (node : Nat) (event : RadioEvent) (s : σ) :
    (a.tell node event s).2.countP Raised.isFrame = if event.isFrame then 1 else 0 := by
  cases event with
  | received bytes =>
    cases taken : (a.raise node (.received bytes) s).2.taken with
    | true =>
      rw [tell_taken taken]
      rfl
    | false =>
      rw [tell_missed taken]
      rfl
  | _ => rfl

/-- What a receiver raises is what it is told, and once more a timeout after a frame that nobody
takes. -/
theorem tell_reception (a : Audience α σ) (m : Medium) (i : Nat) (s : σ) :
    m.Reception i (a.tell i (m.outcome i) s).2 := by
  by_cases single : (m.heard i).length = 1
  · obtain ⟨sender, n, heard, hn, outcome⟩ := Medium.outcome_heard single
    have bytes : RadioEvent.received n.frame =
        .received (n.buffer.take (min n.frameLength n.buffer.length)) := by
      rw [Node.frame, List.take_eq_take_min]
    rw [outcome]
    cases taken : (a.raise i (.received n.frame) s).2.taken with
    | true =>
      rw [tell_taken taken]
      exact .taken heard hn rfl bytes taken
    | false =>
      rw [tell_missed taken]
      exact .missed heard hn rfl bytes taken rfl rfl
  · rw [Medium.outcome_silent single]
    exact .silent single rfl rfl

/-! ### What several nodes raise -/

theorem tellAll_cons (a : Audience α σ) (node : Nat) (event : RadioEvent)
    (told : List (Nat × RadioEvent)) (s : σ) :
    (a.tellAll ((node, event) :: told) s).2 =
      (a.tell node event s).2 ++ (a.tellAll told (a.tell node event s).1).2 := rfl

theorem tellAll_node (a : Audience α σ) (told : List (Nat × RadioEvent)) (s : σ) :
    ∀ r ∈ (a.tellAll told s).2, r.node ∈ told.map Prod.fst := by
  induction told generalizing s with
  | nil => simp [tellAll]
  | cons first told ih =>
    intro r hr
    rcases List.mem_append.mp hr with hr | hr
    · rw [a.tell_node _ _ _ r hr]
      exact List.mem_cons_self
    · exact List.mem_cons_of_mem _ (ih _ r hr)

/-- A node that is told of one event raises what it raises for that event. -/
theorem tellAll_filter (a : Audience α σ) {told : List (Nat × RadioEvent)}
    (nodup : (told.map Prod.fst).Nodup) {i : Nat} {event : RadioEvent} (mem : (i, event) ∈ told)
    (s : σ) :
    ∃ s', (a.tellAll told s).2.filter (fun r => r.node == i) = (a.tell i event s').2 := by
  induction told generalizing s with
  | nil => cases mem
  | cons first told ih =>
    rw [List.map_cons, List.nodup_cons] at nodup
    rw [tellAll_cons, List.filter_append]
    rcases List.mem_cons.mp mem with rfl | mem
    · have own : (a.tell i event s).2.filter (fun r => r.node == i) = (a.tell i event s).2 := by
        rw [List.filter_eq_self]
        exact fun r hr => beq_iff_eq.mpr (a.tell_node i event s r hr)
      have later : (a.tellAll told (a.tell i event s).1).2.filter (fun r => r.node == i) = [] := by
        rw [List.filter_eq_nil_iff]
        intro r hr same
        exact nodup.1 (beq_iff_eq.mp same ▸ a.tellAll_node _ _ r hr)
      exact ⟨s, by rw [own, later, List.append_nil]⟩
    · have other : (a.tell first.1 first.2 s).2.filter (fun r => r.node == i) = [] := by
        rw [List.filter_eq_nil_iff]
        intro r hr same
        rw [a.tell_node _ _ _ r hr, beq_iff_eq] at same
        exact nodup.1 (same ▸ List.mem_map_of_mem mem)
      rw [other, List.nil_append]
      exact ih nodup.2 mem _

theorem tellAll_append (a : Audience α σ) (told told' : List (Nat × RadioEvent)) (s : σ) :
    (a.tellAll (told ++ told') s).2 =
      (a.tellAll told s).2 ++ (a.tellAll told' (a.tellAll told s).1).2 := by
  induction told generalizing s with
  | nil => rfl
  | cons first told ih =>
    rw [List.cons_append, tellAll_cons, ih, tellAll_cons, List.append_assoc]
    rfl

theorem tellAll_frames (a : Audience α σ) (told : List (Nat × RadioEvent)) (s : σ) :
    (a.tellAll told s).2.countP Raised.isFrame = told.countP fun t => t.2.isFrame := by
  induction told generalizing s with
  | nil => rfl
  | cons first told ih =>
    rw [tellAll_cons, List.countP_append, tell_frames, ih, List.countP_cons, Nat.add_comm]

theorem missed_add_taken (raised : List Raised) :
    missed raised + raised.countP (fun r => r.isFrame && r.taken) =
      raised.countP Raised.isFrame := by
  rw [List.countP_eq_countP_filter_add raised Raised.isFrame Raised.taken, List.countP_filter,
    List.countP_filter, Nat.add_comm, missed]

/-! ### The end of a slot -/

theorem frames_deliveries (m : Medium) :
    m.deliveries.countP (fun t => t.2.isFrame) =
      (m.onDuty .listening).countP fun i => (m.heard i).length == 1 := by
  have senders : ((m.onDuty .sending).map fun i => (i, RadioEvent.sent)).countP
      (fun t => t.2.isFrame) = 0 := by
    rw [List.countP_eq_zero]
    intro t sent
    obtain ⟨i, -, rfl⟩ := List.mem_map.mp sent
    exact Bool.false_ne_true
  rw [Medium.deliveries, List.countP_append, senders, Nat.add_zero, List.countP_map]
  apply List.countP_congr
  intro i _
  rw [← Medium.isFrame_outcome]
  rfl

/-- Whoever is told after a sender is a sender. -/
theorem senders_last (a : Audience α σ) (m : Medium) (s : σ) :
    (a.tellAll m.deliveries s).2.Pairwise fun r r' =>
      r.node ∈ m.onDuty .sending → r'.node ∈ m.onDuty .sending := by
  have receivers : ∀ s, ∀ r ∈ (a.tellAll ((m.onDuty .listening).map fun i => (i, m.outcome i)) s).2,
      r.node ∉ m.onDuty .sending := by
    intro s r hr sending
    have listening := a.tellAll_node _ _ r hr
    rw [List.map_map] at listening
    obtain ⟨i, listening, same⟩ := List.mem_map.mp listening
    cases Medium.disjoint_onDuty listening (same ▸ sending)
  have senders : ∀ s, ∀ r ∈ (a.tellAll ((m.onDuty .sending).map fun i => (i, .sent)) s).2,
      r.node ∈ m.onDuty .sending := by
    intro s r hr
    have sending := a.tellAll_node _ _ r hr
    rw [List.map_map] at sending
    obtain ⟨i, sending, same⟩ := List.mem_map.mp sending
    exact same ▸ sending
  rw [Medium.deliveries, tellAll_append, List.pairwise_append]
  refine ⟨?_, ?_, fun r _ r' hr' _ => senders _ r' hr'⟩
  · exact List.Pairwise.imp_of_mem (fun hr _ _ sending => absurd sending (receivers _ _ hr))
      (List.pairwise_of_forall fun _ _ => trivial)
  · exact List.Pairwise.imp_of_mem (fun _ hr' _ _ => senders _ _ hr')
      (List.pairwise_of_forall fun _ _ => trivial)

theorem endSlot_eq (a : Audience α σ) (m : Medium) (s : σ) :
    a.endSlot m s = some
      (m.afterSlot.countTimeouts (missed (a.tellAll m.deliveries s).2),
        (a.tellAll m.deliveries s).1, (a.tellAll m.deliveries s).2) := by
  rw [endSlot, m.endSlot?_eq]
  rfl

theorem endSlot_ends (a : Audience α σ) (m : Medium) (s : σ) :
    ∃ m' s' raised, a.endSlot m s = some (m', s', raised) ∧ m.Ends m' raised := by
  have nodup := m.nodup_deliveries
  refine ⟨_, _, _, a.endSlot_eq m s, ?_⟩
  constructor
  case listening =>
    intro i listening
    obtain ⟨s', own⟩ := a.tellAll_filter nodup (m.mem_deliveries_listening listening) s
    rw [own]
    exact a.tell_reception m i s'
  case sending =>
    intro i sending
    obtain ⟨s', own⟩ := a.tellAll_filter nodup (m.mem_deliveries_sending sending) s
    exact ⟨_, own, rfl⟩
  case armed =>
    intro r hr
    have told := a.tellAll_node _ _ r hr
    rw [m.keys_deliveries, List.mem_append] at told
    exact told
  case order => exact a.senders_last m s
  case framesDelivered =>
    rw [tellAll_frames, frames_deliveries]
    rfl
  case timeouts =>
    have frames := missed_add_taken (a.tellAll m.deliveries s).2
    rw [tellAll_frames, frames_deliveries] at frames
    have receivers := List.length_eq_countP_add_countP
      (fun i => (m.heard i).length == 1) (l := m.onDuty .listening)
    have others : (m.onDuty .listening).countP (fun i => (m.heard i).length != 1) =
        (m.onDuty .listening).countP fun i => decide ¬ ((m.heard i).length == 1) = true := by
      apply List.countP_congr
      intro i _
      simp
    change m.counters.timeouts + _ + _ + _ = _
    rw [receivers, others, ← frames]
    omega
  case framesLost =>
    change m.counters.framesLost + (m.crossingsTo (m.onDuty .listening)).countP _ + _ = _
    rw [Medium.crossings, m.length_crossings]
    omega
  all_goals rfl

end Audience

end RangeSurvey
