import RangeSurvey.Proofs.Air.Draws
import RangeSurvey.Proofs.Air.Ranging

/-!
# The end of a slot on the medium

At the end of a slot every armed node is told exactly one thing. A sender is told that its frame is
out. A receiver is told of a frame or of a timeout, by those senders that reach it and are not
lost; without loss these are all that reach it.
-/

namespace RangeSurvey.Medium

theorem mem_onDuty {m : Medium} {duty : Duty} {i : Nat} :
    i ∈ m.onDuty duty ↔ ∃ n, m.node? i = some n ∧ n.duty = duty := by
  simp only [onDuty, List.mem_filter, List.mem_range]
  constructor
  · rintro ⟨hi, hany⟩
    obtain ⟨n, hn⟩ := node?_of_lt hi
    rw [hn] at hany
    exact ⟨n, hn, by simpa using hany⟩
  · rintro ⟨n, hn, hduty⟩
    exact ⟨lt_of_node? hn, by simp [hn, hduty]⟩

theorem onDuty_lt {m : Medium} {duty : Duty} {i : Nat} (h : i ∈ m.onDuty duty) :
    i < m.nodeCount := by
  obtain ⟨n, hn, -⟩ := mem_onDuty.mp h
  exact lt_of_node? hn

theorem nodup_onDuty (m : Medium) (duty : Duty) : (m.onDuty duty).Nodup :=
  List.nodup_range.filter _

def reaching (m : Medium) (receiver : Nat) : List Nat :=
  (m.onDuty .sending).filter fun sender => m.reaches sender receiver

/-- What an armed node may be told at the end of a slot. -/
inductive Tells (m : Medium) : Nat → RadioEvent → Prop where
  | sent {i : Nat} : i ∈ m.onDuty .sending → Tells m i .sent
  | heard {i : Nat} {senders : List Nat} {event : RadioEvent} : i ∈ m.onDuty .listening →
      senders.Sublist (m.reaching i) → (m.lossPercent = 0 → senders = m.reaching i) →
      m.told? senders = some event → Tells m i event

theorem inReach?_eq {m : Medium} {receiver : Nat} (hr : receiver < m.nodeCount)
    {senders : List Nat} (hs : ∀ i ∈ senders, i < m.nodeCount) :
    m.inReach? receiver senders = some (senders.filter fun i => m.reaches i receiver) := by
  induction senders with
  | nil => rfl
  | cons sender senders ih =>
    have first := hears?_of_lt (hs sender List.mem_cons_self) hr
    have rest := ih fun i hi => hs i (List.mem_cons_of_mem sender hi)
    simp only [inReach?]
    rw [first, rest]
    cases h : m.reaches sender receiver with
    | true => simp only [List.filter_cons, h, if_true]
    | false => simp only [List.filter_cons, h, Bool.false_eq_true, if_false]

theorem told?_of_lt {m : Medium} {senders : List Nat} (h : ∀ i ∈ senders, i < m.nodeCount) :
    ∃ event, m.told? senders = some event := by
  simp only [told?]
  split
  · exact ⟨_, rfl⟩
  · next sender =>
    obtain ⟨n, hn⟩ := node?_of_lt (h sender List.mem_cons_self)
    exact ⟨_, by rw [hn]; rfl⟩
  · exact ⟨_, rfl⟩

/-! ## What every receiver hears -/

/-- The frames on their way to some receivers, each as its sender and its receiver, in the order in
which draws are made for them. -/
def crossingsTo (m : Medium) (receivers : List Nat) : List (Nat × Nat) :=
  receivers.flatMap fun receiver => (m.reaching receiver).map fun sender => (sender, receiver)

def crossings (m : Medium) : List (Nat × Nat) := m.crossingsTo (m.onDuty .listening)

def frameLost (m : Medium) (sender receiver : Nat) : Bool :=
  losesAt m.lossPercent m.random (m.crossings.idxOf (sender, receiver))

def heard (m : Medium) (receiver : Nat) : List Nat :=
  (m.reaching receiver).filter fun sender => !m.frameLost sender receiver

def outcome (m : Medium) (receiver : Nat) : RadioEvent :=
  (m.told? (m.heard receiver)).getD .timedOut

/-- The counters when some receivers have been served. -/
def served (m : Medium) (c : AirCounters) (receivers : List Nat) : AirCounters :=
  { c with
    framesLost := c.framesLost +
      (m.crossingsTo receivers).countP fun f => m.frameLost f.1 f.2
    framesDelivered := c.framesDelivered + receivers.countP fun r => (m.heard r).length == 1
    collisions := c.collisions + receivers.countP fun r => 2 ≤ (m.heard r).length
    timeouts := c.timeouts + receivers.countP fun r => (m.heard r).length != 1 }

def afterSlot (m : Medium) : Medium :=
  ({ m with
      random := drawn m.lossPercent m.random m.crossings.length
      counters := m.served
        { m.counters with framesSent := m.counters.framesSent + (m.onDuty .sending).length }
        (m.onDuty .listening) } : Medium).disarmAll

/-- What the armed nodes are told when the slot is over: the receivers first, then the senders. -/
def deliveries (m : Medium) : List (Nat × RadioEvent) :=
  (m.onDuty .listening).map (fun i => (i, m.outcome i)) ++
    (m.onDuty .sending).map fun i => (i, .sent)

theorem reaching_lt {m : Medium} {receiver sender : Nat} (h : sender ∈ m.reaching receiver) :
    sender < m.nodeCount := onDuty_lt (List.mem_filter.mp h).1

theorem nodup_reaching (m : Medium) (receiver : Nat) : (m.reaching receiver).Nodup :=
  (m.nodup_onDuty .sending).filter _

theorem heard_sublist (m : Medium) (receiver : Nat) :
    (m.heard receiver).Sublist (m.reaching receiver) := List.filter_sublist

theorem told?_heard (m : Medium) (receiver : Nat) :
    m.told? (m.heard receiver) = some (m.outcome receiver) := by
  obtain ⟨event, hevent⟩ :=
    told?_of_lt fun i (hi : i ∈ m.heard receiver) =>
      reaching_lt ((m.heard_sublist receiver).subset hi)
  rw [outcome, hevent, Option.getD_some]

theorem crossingsTo_append (m : Medium) (receivers receivers' : List Nat) :
    m.crossingsTo (receivers ++ receivers') =
      m.crossingsTo receivers ++ m.crossingsTo receivers' := List.flatMap_append

theorem crossingsTo_cons (m : Medium) (receiver : Nat) (receivers : List Nat) :
    m.crossingsTo (receiver :: receivers) =
      (m.reaching receiver).map (fun sender => (sender, receiver)) ++ m.crossingsTo receivers :=
  List.flatMap_cons

/-- The draw for a frame comes after those for the frames to the receivers before, and its place
among the frames to its own receiver is that of its sender. -/
theorem idxOf_crossing {m : Medium} {receiver sender : Nat} {before later : List Nat}
    (order : m.onDuty .listening = before ++ receiver :: later)
    (reaches : sender ∈ m.reaching receiver) :
    m.crossings.idxOf (sender, receiver) =
      (m.crossingsTo before).length + (m.reaching receiver).idxOf sender := by
  have nodup := m.nodup_onDuty .listening
  rw [order, List.nodup_append] at nodup
  have earlier : (sender, receiver) ∉ m.crossingsTo before := by
    intro mem
    obtain ⟨other, hother, mem⟩ := List.mem_flatMap.mp mem
    obtain ⟨_, -, same⟩ := List.mem_map.mp mem
    exact nodup.2.2 other hother receiver List.mem_cons_self (Prod.mk.inj same).2
  have own : ((m.reaching receiver).map fun s => (s, receiver)).idxOf (sender, receiver) =
      (m.reaching receiver).idxOf sender := by
    rw [List.idxOf, List.findIdx_map, List.idxOf]
    congr 1
    funext s
    change (s == sender && receiver == receiver) = _
    rw [beq_self_eq_true, Bool.and_true]
  have mem : (sender, receiver) ∈ (m.reaching receiver).map fun s => (s, receiver) :=
    List.mem_map_of_mem reaches
  rw [crossings, order, crossingsTo_append, List.idxOf_append, if_neg earlier, crossingsTo_cons,
    List.idxOf_append, if_pos mem, own, Nat.add_comm]

/-- A receiver that is served after some others hears the senders that the medium says. -/
theorem survivors_reaching {m : Medium} {receiver : Nat} {before later : List Nat}
    (order : m.onDuty .listening = before ++ receiver :: later) :
    survivors m.lossPercent (m.reaching receiver)
        (drawn m.lossPercent m.random (m.crossingsTo before).length) = m.heard receiver := by
  rw [survivors_eq_filter (m.nodup_reaching receiver), heard]
  apply List.filter_congr
  intro sender reaches
  rw [frameLost, idxOf_crossing order reaches, losesAt, losesAt, drawn_add]

/-- Every frame on its way to a receiver is heard or lost. -/
theorem length_reaching (m : Medium) (receiver : Nat) :
    (m.reaching receiver).length = (m.heard receiver).length +
      ((m.reaching receiver).map fun sender => (sender, receiver)).countP
        fun f => m.frameLost f.1 f.2 := by
  have split := List.length_eq_countP_add_countP (fun sender => !m.frameLost sender receiver)
    (l := m.reaching receiver)
  rw [List.countP_map, heard, ← List.countP_eq_length_filter, split]
  congr 1
  apply List.countP_congr
  intro sender _
  simp

theorem served_cons (m : Medium) (c : AirCounters) (receiver : Nat) (receivers : List Nat) :
    m.served (c.hear (m.heard receiver).length
        ((m.reaching receiver).length - (m.heard receiver).length)) receivers =
      m.served c (receiver :: receivers) := by
  have lost : (m.reaching receiver).length - (m.heard receiver).length =
      ((m.reaching receiver).map fun sender => (sender, receiver)).countP
        fun f => m.frameLost f.1 f.2 := by
    rw [length_reaching, Nat.add_sub_cancel_left]
  simp only [served, AirCounters.hear, lost, crossingsTo_cons, List.countP_append,
    List.countP_cons, beq_iff_eq, bne_iff_ne, ne_eq, ite_not, decide_eq_true_eq]
  congr 1 <;> omega

/-- Serving receivers draws once for each frame on its way to them. -/
theorem serve?_eq (m : Medium) {before receivers : List Nat}
    (order : m.onDuty .listening = before ++ receivers) (counters : AirCounters) :
    serve? (m.onDuty .sending) receivers
        { m with
          random := drawn m.lossPercent m.random (m.crossingsTo before).length, counters } =
      some
        ({ m with
            random := drawn m.lossPercent m.random m.crossings.length
            counters := m.served counters receivers },
          receivers.map fun i => (i, m.outcome i)) := by
  induction receivers generalizing before counters with
  | nil =>
    rw [List.append_nil] at order
    rw [crossings, order]
    rfl
  | cons receiver receivers ih =>
    have onDuty : receiver ∈ m.onDuty .listening := by
      rw [order]
      exact List.mem_append_right before List.mem_cons_self
    have inside := onDuty_lt onDuty
    have next : drawn m.lossPercent (drawn m.lossPercent m.random (m.crossingsTo before).length)
          (m.reaching receiver).length =
        drawn m.lossPercent m.random (m.crossingsTo (before ++ [receiver])).length := by
      rw [← drawn_add, crossingsTo_append, List.length_append, crossingsTo_cons,
        List.length_append, List.length_map]
      rfl
    have reached (random : Random) (counters : AirCounters) :
        ({ m with random, counters } : Medium).inReach? receiver (m.onDuty .sending) =
          some (m.reaching receiver) :=
      inReach?_eq (m := { m with random, counters }) inside fun i (hi : i ∈ m.onDuty .sending) =>
        onDuty_lt hi
    have told (random : Random) (counters : AirCounters) :
        ({ m with random, counters } : Medium).told? (m.heard receiver) =
          some (m.outcome receiver) := m.told?_heard receiver
    have later : m.onDuty .listening = (before ++ [receiver]) ++ receivers := by
      rw [List.append_assoc]
      exact order
    simp only [serve?, reached, sift_eq, survivors_reaching order, told, next, ih later,
      served_cons, List.map_cons]

theorem endSlot?_eq (m : Medium) : m.endSlot? = some (m.afterSlot, m.deliveries) := by
  have ended := m.serve?_eq (List.nil_append (m.onDuty .listening)).symm
    { m.counters with framesSent := m.counters.framesSent + (m.onDuty .sending).length }
  rw [endSlot?]
  exact congrArg (Option.map _) ended

theorem frameLost_lossless {m : Medium} (lossless : m.lossPercent = 0) (sender receiver : Nat) :
    m.frameLost sender receiver = false := by
  rw [frameLost, losesAt, lossless]
  rfl

theorem heard_lossless {m : Medium} (lossless : m.lossPercent = 0) (receiver : Nat) :
    m.heard receiver = m.reaching receiver := by
  rw [heard, List.filter_eq_self]
  intro sender _
  rw [frameLost_lossless lossless]
  rfl

/-- A receiver that hears a single sender is told of its frame. -/
theorem outcome_heard {m : Medium} {receiver : Nat} (single : (m.heard receiver).length = 1) :
    ∃ sender n, m.heard receiver = [sender] ∧ m.node? sender = some n ∧
      m.outcome receiver = .received n.frame := by
  obtain ⟨sender, heard⟩ := List.length_eq_one_iff.mp single
  have present : sender ∈ m.reaching receiver :=
    (m.heard_sublist receiver).subset (heard ▸ List.mem_singleton_self sender)
  obtain ⟨n, hn⟩ := node?_of_lt (reaching_lt present)
  refine ⟨sender, n, heard, hn, ?_⟩
  rw [outcome, heard, told?, hn]
  rfl

theorem outcome_silent {m : Medium} {receiver : Nat} (silent : (m.heard receiver).length ≠ 1) :
    m.outcome receiver = .timedOut := by
  rw [outcome]
  rcases heard : m.heard receiver with _ | ⟨sender, _ | ⟨other, senders⟩⟩
  · rfl
  · exact absurd (congrArg List.length heard) silent
  · rfl

theorem keys_deliveries (m : Medium) :
    m.deliveries.map Prod.fst = m.onDuty .listening ++ m.onDuty .sending := by
  rw [deliveries, List.map_append, List.map_map, List.map_map]
  congr 1
  · exact List.map_id _
  · exact List.map_id _

theorem disjoint_onDuty {m : Medium} {duty duty' : Duty} {i : Nat} (h : i ∈ m.onDuty duty)
    (h' : i ∈ m.onDuty duty') : duty = duty' := by
  obtain ⟨n, hn, rfl⟩ := mem_onDuty.mp h
  obtain ⟨n', hn', rfl⟩ := mem_onDuty.mp h'
  rw [hn] at hn'
  rw [Option.some.inj hn']

theorem nodup_deliveries (m : Medium) : (m.deliveries.map Prod.fst).Nodup := by
  rw [keys_deliveries, List.nodup_append]
  refine ⟨m.nodup_onDuty _, m.nodup_onDuty _, ?_⟩
  rintro i listening _ sending rfl
  cases disjoint_onDuty listening sending

theorem mem_deliveries_listening {m : Medium} {i : Nat} (listening : i ∈ m.onDuty .listening) :
    (i, m.outcome i) ∈ m.deliveries :=
  List.mem_append_left _ (List.mem_map_of_mem listening)

theorem mem_deliveries_sending {m : Medium} {i : Nat} (sending : i ∈ m.onDuty .sending) :
    (i, .sent) ∈ m.deliveries :=
  List.mem_append_right _ (List.mem_map_of_mem sending)

/-- Every frame on its way is heard or lost. -/
theorem length_crossings (m : Medium) (receivers : List Nat) :
    (m.crossingsTo receivers).length = (receivers.flatMap m.heard).length +
      (m.crossingsTo receivers).countP fun f => m.frameLost f.1 f.2 := by
  induction receivers with
  | nil => rfl
  | cons receiver receivers ih =>
    have first := m.length_reaching receiver
    rw [crossingsTo_cons, List.countP_append, List.length_append, List.length_map,
      List.flatMap_cons, List.length_append]
    omega

/-- A slot always ends. No node is armed afterwards, and each that was has been told one thing. -/
theorem endSlot?_tells (m : Medium) :
    ∃ random counters told,
      m.endSlot? = some (({ m with random, counters } : Medium).disarmAll, told) ∧
      told.map Prod.fst = m.onDuty .listening ++ m.onDuty .sending ∧
      ∀ i event, (i, event) ∈ told → m.Tells i event := by
  refine ⟨_, _, m.deliveries, m.endSlot?_eq, m.keys_deliveries, ?_⟩
  intro i event mem
  rcases List.mem_append.mp mem with mem | mem
  · obtain ⟨j, listening, heq⟩ := List.mem_map.mp mem
    obtain ⟨rfl, rfl⟩ := Prod.mk.inj heq
    exact .heard listening (m.heard_sublist j) (fun lossless => heard_lossless lossless j)
      (m.told?_heard j)
  · obtain ⟨j, sending, heq⟩ := List.mem_map.mp mem
    obtain ⟨rfl, rfl⟩ := Prod.mk.inj heq
    exact .sent sending

end RangeSurvey.Medium
