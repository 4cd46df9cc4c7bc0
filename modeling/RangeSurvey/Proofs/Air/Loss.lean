import Mathlib.Data.List.Basic
import RangeSurvey.Air.Wyrand
import RangeSurvey.Proofs.Air.Answers
import RangeSurvey.Proofs.Air.Audience

/-!
# Two rates of loss

Two media that differ in nothing but how much they lose stay in step, whatever is done to both: the
same draws are made, in the same order, since whether one is made depends on positions, duties and
peers alone. So whatever is lost at the lower rate is lost at the higher one, too.
-/

namespace RangeSurvey

universe u v

variable {α : Type u} {σ : Type v}

inductive Operation where
  | write (node : Nat) (bytes : List UInt8) (offset : UInt64)
  | setControl (node length : Nat) (ranging : Bool)
  | armTransmit (node : Nat) (start : UInt64)
  | armReceive (node : Nat) (timeout : UInt16) (start : UInt64)
  | failNextTransmit (node : Nat)
  | failNextReceive (node : Nat)
  | move (node : Nat) (position : Point)
  | reset (node : Nat)
  | request (node : Nat) (peers : PeerSet)
  | listen
  | endSlot
deriving DecidableEq, Repr

namespace Audience

/-- An operation on a medium before an audience. A request from nowhere and a write that wraps have
no result. -/
def operate? (a : Audience α σ) : Operation → Medium × σ → Option (Medium × σ)
  | .write i bytes offset, (m, s) => (m.write? i bytes offset).map fun m => (m, s)
  | .setControl i length ranging, (m, s) => some (Hardware.setControl m i length ranging, s)
  | .armTransmit i start, (m, s) => some ((Hardware.armTransmit m i start).1, s)
  | .armReceive i timeout start, (m, s) => some ((Hardware.armReceive m i timeout start).1, s)
  | .failNextTransmit i, (m, s) => some (m.failNextTransmit i, s)
  | .failNextReceive i, (m, s) => some (m.failNextReceive i, s)
  | .move i position, (m, s) => some (m.move i position, s)
  | .reset i, (m, s) =>
    some (if i < m.nodeCount then (m.disarm i, (a.raise i .reset s).1) else (m, s))
  | .request i peers, (m, s) => (m.request? i peers).map fun m => (m, s)
  | .listen, (m, s) => some (m.listen, s)
  | .endSlot, (m, s) => (a.endSlot m s).map fun (m, s, _) => (m, s)

def operateAll? (a : Audience α σ) : List Operation → Medium × σ → Option (Medium × σ)
  | [], x => some x
  | operation :: operations, x => (a.operate? operation x).bind (a.operateAll? operations)

end Audience

def Node.distance? (n : Node) (p : Nat) : Option Distance :=
  (⟨n.answered, n.distances⟩ : Row).distance? p

/-- The second node has had answers from some of those that answered the first, at the same
distances, and there is no other difference between them. -/
structure Node.Missing (n n' : Node) : Prop where
  position : n'.position = n.position
  buffer : n'.buffer = n.buffer
  frameLength : n'.frameLength = n.frameLength
  duty : n'.duty = n.duty
  failTransmit : n'.failTransmit = n.failTransmit
  failReceive : n'.failReceive = n.failReceive
  answered : ∀ p, n'.answered.contains p = true → n.answered.contains p = true
  distances : ∀ p, n'.answered.contains p = true → n'.distance? p = n.distance? p

namespace Medium

/-- The second medium is in step with the first, and loses more. -/
structure Fainter (m m' : Medium) : Prop where
  rate : 0 < m.lossPercent
  more : m.lossPercent ≤ m'.lossPercent
  range : m'.range = m.range
  random : m'.random = m.random
  nodes : ∀ i, Option.Rel Node.Missing (m.node? i) (m'.node? i)
  framesSent : m'.counters.framesSent = m.counters.framesSent
  framesLost : m.counters.framesLost ≤ m'.counters.framesLost

/-- Who has answered a request has a distance in the engine, which is that of the medium. -/
theorem distance?_answering {m : Medium} {i : Nat} {peers : PeerSet} {p : Nat}
    (answers : p ∈ m.answering i peers) (n : Node) :
    ({ n with
        answered := PeerSet.ofList (m.answering i peers)
        distances := (m.answering i peers).filterMap (m.distance? i) } : Node).distance? p =
      m.distance? i p := by
  have order : ((m.answering i peers).filterMap (m.distance? i)).map some =
      (PeerSet.ofList (m.answering i peers)).members.map (m.distance? i) := by
    rw [distances_answering, members_answering]
  have named : (PeerSet.ofList (m.answering i peers)).contains p = true := by
    rw [contains_answering, decide_eq_true answers]
  have found := PeerSet.rank_values order [] named
  rw [List.append_nil] at found
  exact found

theorem rel_map {β γ β' γ' : Type} {r : β → γ → Prop} {r' : β' → γ' → Prop} {f : β → β'}
    {g : γ → γ'} (keeps : ∀ b c, r b c → r' (f b) (g c)) {x : Option β} {y : Option γ}
    (related : Option.Rel r x y) : Option.Rel r' (x.map f) (y.map g) := by
  cases related with
  | none => exact .none
  | some related => exact .some (keeps _ _ related)

theorem node?_modifyNode (m : Medium) (i j : Nat) (f : Node → Node) :
    (m.modifyNode i f).node? j = if i = j then (m.node? j).map f else m.node? j := by
  simp only [node?, modifyNode, List.getElem?_modify]
  split <;> simp

namespace Fainter

variable {m m' : Medium}

/-- Two media that differ in how much they lose. -/
theorem of_loss (m : Medium) {p q : Nat} (rate : 0 < p) (more : p ≤ q) :
    Fainter { m with lossPercent := p } { m with lossPercent := q } where
  rate
  more
  range := rfl
  random := rfl
  nodes i := by
    change Option.Rel _ (m.node? i) (m.node? i)
    cases m.node? i with
    | none => exact .none
    | some n => exact .some ⟨rfl, rfl, rfl, rfl, rfl, rfl, fun _ h => h, fun _ _ => rfl⟩
  framesSent := rfl
  framesLost := Nat.le_refl _

/-- A node exists on both media or on neither. -/
theorem node?_cases (h : m.Fainter m') (i : Nat) :
    (m.node? i = none ∧ m'.node? i = none) ∨
      ∃ n n', m.node? i = some n ∧ m'.node? i = some n' ∧ n.Missing n' := by
  have missing := h.nodes i
  generalize m.node? i = n at missing
  generalize m'.node? i = n' at missing
  cases missing with
  | none => exact .inl ⟨rfl, rfl⟩
  | some missing => exact .inr ⟨_, _, rfl, rfl, missing⟩

theorem node?_map (h : m.Fainter m') {β : Type} {f : Node → β}
    (same : ∀ n n', Node.Missing n n' → f n' = f n) (i : Nat) :
    (m'.node? i).map f = (m.node? i).map f := by
  rcases h.node?_cases i with ⟨hn, hn'⟩ | ⟨n, n', hn, hn', missing⟩
  · rw [hn, hn']
  · rw [hn, hn']
    exact congrArg some (same n n' missing)

theorem nodeCount (h : m.Fainter m') : m'.nodeCount = m.nodeCount := by
  have present (i : Nat) : i < m'.nodeCount ↔ i < m.nodeCount := by
    have same := congrArg Option.isSome (h.node?_map (f := fun _ => ()) (fun _ _ _ => rfl) i)
    rw [Bool.eq_iff_iff] at same
    simpa [node?, Medium.nodeCount] using same
  exact Nat.le_antisymm (Nat.le_of_not_lt fun lt => Nat.lt_irrefl _ ((present _).mp lt))
    (Nat.le_of_not_lt fun lt => Nat.lt_irrefl _ ((present _).mpr lt))

theorem sameAir (h : m.Fainter m') :
    ({ m with lossPercent := m'.lossPercent } : Medium).SameAir m' :=
  ⟨h.range, rfl, h.node?_map fun _ _ missing => missing.position⟩

theorem reaches (h : m.Fainter m') (i j : Nat) : m'.reaches i j = m.reaches i j :=
  h.sameAir.reaches i j

theorem distance? (h : m.Fainter m') (i j : Nat) : m'.distance? i j = m.distance? i j :=
  h.sameAir.distance? i j

theorem onDuty (h : m.Fainter m') (duty : Duty) : m'.onDuty duty = m.onDuty duty := by
  rw [Medium.onDuty, Medium.onDuty, h.nodeCount]
  apply List.filter_congr
  intro i _
  have same := h.node?_map (f := fun n => n.duty == duty)
    (fun _ _ missing => by rw [missing.duty]) i
  have any (n : Option Node) : n.any (fun n => n.duty == duty) =
      (n.map fun n => n.duty == duty).getD false := by cases n <;> rfl
  rw [any, any, same]

theorem reaching (h : m.Fainter m') (i : Nat) : m'.reaching i = m.reaching i := by
  rw [Medium.reaching, Medium.reaching, h.onDuty]
  exact List.filter_congr fun j _ => h.reaches j i

theorem crossings (h : m.Fainter m') : m'.crossings = m.crossings := by
  rw [Medium.crossings, Medium.crossings, h.onDuty, crossingsTo, crossingsTo,
    funext h.reaching]

/-- What is lost at the lower rate is lost at the higher one. -/
theorem losesAt (h : m.Fainter m') {n : Nat} (lost : losesAt m.lossPercent m.random n = true) :
    losesAt m'.lossPercent m'.random n = true := by
  rw [h.random, Medium.losesAt, drawn_rates h.rate h.more]
  exact draw_mono h.rate h.more _ lost

theorem frameLost (h : m.Fainter m') {sender receiver : Nat}
    (lost : m.frameLost sender receiver = true) : m'.frameLost sender receiver = true := by
  rw [Medium.frameLost, h.crossings]
  exact h.losesAt lost

theorem heard (h : m.Fainter m') (i : Nat) : (m'.heard i).Sublist (m.heard i) := by
  rw [Medium.heard, Medium.heard, h.reaching]
  apply List.monotone_filter_right
  intro sender hears
  rw [Bool.not_eq_true'] at hears ⊢
  rw [Bool.eq_false_iff] at hears ⊢
  exact fun lost => hears (h.frameLost lost)

theorem reached (h : m.Fainter m') (i : Nat) (peers : PeerSet) :
    m'.reached i peers = m.reached i peers :=
  List.filter_congr fun p _ => h.reaches i p

theorem answering (h : m.Fainter m') (i : Nat) (peers : PeerSet) :
    (m'.answering i peers).Sublist (m.answering i peers) := by
  rw [answering_eq, answering_eq, h.reached, h.random]
  exact survivors_rates h.rate h.more _ _

theorem modifyNode (h : m.Fainter m') (i : Nat) {f g : Node → Node}
    (keeps : ∀ n n', Node.Missing n n' → Node.Missing (f n) (g n')) :
    (m.modifyNode i f).Fainter (m'.modifyNode i g) := by
  refine { h with nodes := fun j => ?_ }
  rw [node?_modifyNode, node?_modifyNode]
  split
  · exact rel_map keeps (h.nodes j)
  · exact h.nodes j

theorem write? (h : m.Fainter m') (i : Nat) (bytes : List UInt8) (offset : UInt64) :
    Option.Rel Fainter (m.write? i bytes offset) (m'.write? i bytes offset) := by
  rcases h.node?_cases i with ⟨hn, hn'⟩ | ⟨n, n', hn, hn', missing⟩
  · simp only [Medium.write?, hn, hn']
    exact .some h
  · have same : n'.written? bytes offset = n.written? bytes offset := by
      simp only [Node.written?, missing.buffer]
    simp only [Medium.write?, hn, hn', same]
    cases n.written? bytes offset with
    | none => exact .none
    | some buffer => exact .some (h.modifyNode i fun _ _ missing => { missing with buffer := rfl })

theorem armTransmit (h : m.Fainter m') (i : Nat) :
    (m.armTransmit i).1.Fainter (m'.armTransmit i).1 := by
  rcases h.node?_cases i with ⟨hn, hn'⟩ | ⟨n, n', hn, hn', missing⟩
  · simp only [Medium.armTransmit, hn, hn']
    exact h
  · simp only [Medium.armTransmit, hn, hn', missing.failTransmit]
    split
    · exact h.modifyNode i fun _ _ missing => { missing with failTransmit := rfl }
    · exact h.modifyNode i fun _ _ missing => { missing with duty := rfl }

theorem armReceive (h : m.Fainter m') (i : Nat) :
    (m.armReceive i).1.Fainter (m'.armReceive i).1 := by
  rcases h.node?_cases i with ⟨hn, hn'⟩ | ⟨n, n', hn, hn', missing⟩
  · simp only [Medium.armReceive, hn, hn']
    exact h
  · simp only [Medium.armReceive, hn, hn', missing.failReceive]
    split
    · exact h.modifyNode i fun _ _ missing => { missing with failReceive := rfl }
    · exact h.modifyNode i fun _ _ missing => { missing with duty := rfl }

theorem requested (h : m.Fainter m') (i : Nat) (peers : PeerSet) :
    (m.requested i peers).Fainter (m'.requested i peers) := by
  have asked : Fainter
      { m with
        random := drawn m.lossPercent m.random (m.reached i peers).length
        counters := { m.counters with rangingRequests := m.counters.rangingRequests + 1 } }
      { m' with
        random := drawn m'.lossPercent m'.random (m'.reached i peers).length
        counters := { m'.counters with rangingRequests := m'.counters.rangingRequests + 1 } } := by
    refine { h with random := ?_ }
    rw [h.reached, h.random]
    exact drawn_rates h.rate h.more _ _
  refine asked.modifyNode i fun n n' missing => { missing with answered := ?_, distances := ?_ }
  · intro p answers
    rw [contains_answering, decide_eq_true_eq] at answers ⊢
    exact (h.answering i peers).subset answers
  · intro p answers
    rw [contains_answering, decide_eq_true_eq] at answers
    rw [distance?_answering answers, distance?_answering ((h.answering i peers).subset answers),
      h.distance?]

theorem afterSlot (h : m.Fainter m') : m.afterSlot.Fainter m'.afterSlot := by
  refine { h with random := ?_, nodes := ?_, framesSent := ?_, framesLost := ?_ }
  · change drawn _ _ _ = drawn _ _ _
    rw [h.crossings, h.random]
    exact drawn_rates h.rate h.more _ _
  · intro i
    change Option.Rel _ (m.nodes.map _)[i]? (m'.nodes.map _)[i]?
    rw [List.getElem?_map, List.getElem?_map]
    exact rel_map (fun _ _ missing => { missing with duty := rfl }) (h.nodes i)
  · change _ + _ = _ + _
    rw [h.framesSent, h.onDuty]
  · change _ + _ ≤ _ + _
    refine Nat.add_le_add h.framesLost ?_
    rw [← Medium.crossings, ← Medium.crossings, h.crossings]
    exact List.countP_mono_left fun _ _ lost => h.frameLost lost

end Fainter

end Medium

namespace Audience

theorem operate?_fainter (a : Audience α σ) {m m' : Medium} (h : m.Fainter m')
    (operation : Operation) (s s' : σ) :
    Option.Rel (fun x x' => x.1.Fainter x'.1) (a.operate? operation (m, s))
      (a.operate? operation (m', s')) := by
  cases operation with
  | write i bytes offset =>
    have written := h.write? i bytes offset
    simp only [operate?]
    generalize m.write? i bytes offset = x at written
    generalize m'.write? i bytes offset = x' at written
    cases written with
    | none => exact .none
    | some fainter => exact .some fainter
  | setControl i length ranging =>
    exact .some (h.modifyNode i fun _ _ missing => { missing with frameLength := rfl })
  | armTransmit i start => exact .some (h.armTransmit i)
  | armReceive i timeout start => exact .some (h.armReceive i)
  | failNextTransmit i =>
    exact .some (h.modifyNode i fun _ _ missing => { missing with failTransmit := rfl })
  | failNextReceive i =>
    exact .some (h.modifyNode i fun _ _ missing => { missing with failReceive := rfl })
  | move i position =>
    exact .some (h.modifyNode i fun _ _ missing => { missing with position := rfl })
  | reset i =>
    simp only [operate?, h.nodeCount]
    split
    · exact .some (h.modifyNode i fun _ _ missing => { missing with duty := rfl })
    · exact .some h
  | request i peers =>
    have asks : m'.AsksFromNowhere i peers.members ↔ m.AsksFromNowhere i peers.members := by
      rw [Medium.AsksFromNowhere, Medium.AsksFromNowhere, h.nodeCount]
    by_cases nowhere : m.AsksFromNowhere i peers.members
    · simp only [operate?, Medium.request?_nowhere nowhere,
        Medium.request?_nowhere (asks.mpr nowhere), Option.map_none]
      exact .none
    · simp only [operate?, Medium.request?_eq _ nowhere,
        Medium.request?_eq _ (mt asks.mp nowhere), Option.map_some]
      exact .some (h.requested i peers)
  | listen => exact .some { h with }
  | endSlot =>
    simp only [operate?, endSlot, Medium.endSlot?_eq, Option.map_some]
    exact .some { h.afterSlot with }

theorem operateAll?_fainter (a : Audience α σ) {m m' : Medium} (h : m.Fainter m')
    (operations : List Operation) (s s' : σ) :
    Option.Rel (fun x x' => x.1.Fainter x'.1) (a.operateAll? operations (m, s))
      (a.operateAll? operations (m', s')) := by
  induction operations generalizing m m' s s' with
  | nil => exact .some h
  | cons operation operations ih =>
    have first := a.operate?_fainter h operation s s'
    rw [operateAll?, operateAll?]
    generalize a.operate? operation (m, s) = x at first
    generalize a.operate? operation (m', s') = x' at first
    cases first with
    | none => exact .none
    | some fainter => exact ih fainter _ _

/-! ### No loss, and nothing but loss -/

/-- An operation does not touch the rate of loss. Without loss it draws nothing and loses
nothing. -/
theorem operate?_lossPercent (a : Audience α σ) {m m' : Medium} {operation : Operation} {s s' : σ}
    (result : a.operate? operation (m, s) = some (m', s')) :
    m'.lossPercent = m.lossPercent ∧
      (m.lossPercent = 0 → m'.random = m.random ∧
        m'.counters.framesLost = m.counters.framesLost) := by
  cases operation with
  | write i bytes offset =>
    obtain ⟨_, written, same⟩ := Option.map_eq_some_iff.mp result
    cases same
    obtain ⟨_, rfl⟩ := Medium.write?_eq_some written
    exact ⟨rfl, fun _ => ⟨rfl, rfl⟩⟩
  | armTransmit i start =>
    cases result
    simp only [Hardware.armTransmit, Medium.armTransmit]
    repeat' split
    all_goals exact ⟨rfl, fun _ => ⟨rfl, rfl⟩⟩
  | armReceive i timeout start =>
    cases result
    simp only [Hardware.armReceive, Medium.armReceive]
    repeat' split
    all_goals exact ⟨rfl, fun _ => ⟨rfl, rfl⟩⟩
  | reset i =>
    simp only [operate?] at result
    split at result
    all_goals
      cases result
      exact ⟨rfl, fun _ => ⟨rfl, rfl⟩⟩
  | request i peers =>
    by_cases nowhere : m.AsksFromNowhere i peers.members
    · simp only [operate?, Medium.request?_nowhere nowhere, Option.map_none] at result
      cases result
    · simp only [operate?, Medium.request?_eq _ nowhere, Option.map_some] at result
      cases result
      refine ⟨rfl, fun lossless => ⟨?_, rfl⟩⟩
      change Medium.drawn _ _ _ = _
      rw [lossless, Medium.drawn_zero]
  | endSlot =>
    simp only [operate?, endSlot, Medium.endSlot?_eq, Option.map_some] at result
    cases result
    refine ⟨rfl, fun lossless => ⟨?_, ?_⟩⟩
    · change Medium.drawn _ _ _ = _
      rw [lossless, Medium.drawn_zero]
    · have none : m.crossings.countP (fun f => m.frameLost f.1 f.2) = 0 := by
        rw [List.countP_eq_zero]
        intro f _
        rw [Medium.frameLost_lossless lossless]
        exact Bool.false_ne_true
      exact congrArg (m.counters.framesLost + ·) none
  | _ =>
    cases result
    exact ⟨rfl, fun _ => ⟨rfl, rfl⟩⟩

theorem operateAll?_lossPercent (a : Audience α σ) {m m' : Medium} {operations : List Operation}
    {s s' : σ} (result : a.operateAll? operations (m, s) = some (m', s')) :
    m'.lossPercent = m.lossPercent ∧
      (m.lossPercent = 0 → m'.random = m.random ∧
        m'.counters.framesLost = m.counters.framesLost) := by
  induction operations generalizing m s with
  | nil =>
    obtain ⟨rfl, rfl⟩ : m = m' ∧ s = s' := by simpa [operateAll?] using result
    exact ⟨rfl, fun _ => ⟨rfl, rfl⟩⟩
  | cons operation operations ih =>
    obtain ⟨⟨m₁, s₁⟩, first, rest⟩ := Option.bind_eq_some_iff.mp result
    obtain ⟨rate, quiet⟩ := a.operate?_lossPercent first
    obtain ⟨rate', quiet'⟩ := ih rest
    refine ⟨rate'.trans rate, fun lossless => ?_⟩
    obtain ⟨random, lost⟩ := quiet lossless
    obtain ⟨random', lost'⟩ := quiet' (rate.trans lossless)
    exact ⟨random'.trans random, lost'.trans lost⟩

end Audience

theorem Medium.heard_full {m : Medium} (all : 100 ≤ m.lossPercent) (i : Nat) : m.heard i = [] := by
  rw [heard, List.filter_eq_nil_iff]
  intro sender _
  rw [frameLost, losesAt, draw_full all]
  exact Bool.false_ne_true

theorem Medium.answering_full {m : Medium} (all : 100 ≤ m.lossPercent) (i : Nat) (peers : PeerSet) :
    m.answering i peers = [] := by
  rw [answering_eq, survivors_full all]

/-- Two media that differ in how much they lose stay in step, drawing the same random numbers. At
the higher rate fewer answers and frames get through, and those that do are the same. -/
theorem loss_monotone (a : Audience α σ) (m : Medium) (s : σ) (operations : List Operation)
    {p q : Nat} (rate : 0 < p) (more : p ≤ q) :
    Option.Rel
        (fun x x' => x.1.Fainter x'.1 ∧ (∀ i, (x'.1.heard i).Sublist (x.1.heard i)) ∧
          ∀ i peers, (x'.1.answering i peers).Sublist (x.1.answering i peers))
        (a.operateAll? operations ({ m with lossPercent := p }, s))
        (a.operateAll? operations ({ m with lossPercent := q }, s)) ∧
      (∀ m' s', a.operateAll? operations ({ m with lossPercent := 0 }, s) = some (m', s') →
        m'.random = m.random ∧ m'.counters.framesLost = m.counters.framesLost ∧
          (∀ i, m'.heard i = m'.reaching i) ∧
          ∀ i peers, m'.answering i peers = m'.reached i peers) ∧
      (∀ all m' s', 100 ≤ all →
        a.operateAll? operations ({ m with lossPercent := all }, s) = some (m', s') →
        (∀ i, m'.heard i = []) ∧ ∀ i peers, m'.answering i peers = []) ∧
      (∀ m : Medium, m.endSlot? = some (m.afterSlot, m.deliveries)) ∧
      ∀ (m m' : Medium) i peers, m.request? i peers = some m' → m' = m.requested i peers := by
  refine ⟨?_, ?_, ?_, Medium.endSlot?_eq, ?_⟩
  · have run := a.operateAll?_fainter (Medium.Fainter.of_loss m rate more) operations s s
    generalize a.operateAll? operations ({ m with lossPercent := p }, s) = x at run
    generalize a.operateAll? operations ({ m with lossPercent := q }, s) = x' at run
    cases run with
    | none => exact .none
    | some fainter => exact .some ⟨fainter, fainter.heard, fainter.answering⟩
  · intro m' s' result
    obtain ⟨kept, quiet⟩ := a.operateAll?_lossPercent result
    obtain ⟨random, lost⟩ := quiet rfl
    exact ⟨random, lost, Medium.heard_lossless kept, Medium.answering_lossless kept⟩
  · intro all m' s' full result
    have kept : 100 ≤ m'.lossPercent := by
      rw [(a.operateAll?_lossPercent result).1]
      exact full
    exact ⟨Medium.heard_full kept, Medium.answering_full kept⟩
  · intro m m' i peers result
    by_cases nowhere : m.AsksFromNowhere i peers.members
    · rw [Medium.request?_nowhere nowhere] at result
      cases result
    · rw [Medium.request?_eq _ nowhere] at result
      exact (Option.some.inj result).symm

/-- A frame between two nodes, at two rates of loss. -/
theorem loss_monotone_pair :
    let a : Audience Unit Unit := ⟨fun _ => {}, fun _ _ s => (s, .notMine), fun _ s => s⟩
    let m := Medium.ofPositions [⟨0, 0⟩, ⟨0x40400000, 0⟩] {}
    let operations : List Operation :=
      [.request 0 (.others 2 0), .endSlot, .armTransmit 0 0, .armReceive 1 0 0]
    ∃ x x', a.operateAll? operations ({ m with lossPercent := 20 }, ()) = some x ∧
      a.operateAll? operations ({ m with lossPercent := 60 }, ()) = some x' ∧
      x.1.Fainter x'.1 ∧ ∀ i, (x'.1.heard i).Sublist (x.1.heard i) := by
  intro a m operations
  have run := (loss_monotone a m () operations (show 0 < 20 by decide) (show 20 ≤ 60 by decide)).1
  have result (percent : Nat) :
      ∃ x, a.operateAll? operations ({ m with lossPercent := percent }, ()) = some x := by
    have here : 0 < ({ m with lossPercent := percent } : Medium).nodeCount := Nat.zero_lt_succ 1
    simp only [operations, Audience.operateAll?, Audience.operate?, Audience.endSlot,
      Medium.request?_eq _ (Medium.asks_of_lt here _), Medium.endSlot?_eq, Option.map_some,
      Option.bind_some]
    exact ⟨_, rfl⟩
  obtain ⟨x, low⟩ := result 20
  obtain ⟨x', high⟩ := result 60
  rw [low, high] at run
  cases run with
  | some fainter => exact ⟨x, x', low, high, fainter.1, fainter.2.1⟩

end RangeSurvey
