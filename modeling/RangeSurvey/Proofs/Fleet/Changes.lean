import RangeSurvey.Fleet
import RangeSurvey.Proofs.Air.Ranging
import RangeSurvey.Proofs.Station.Parts

/-!
# What one operation of a fleet changes

Whatever a station does by itself or by an event of its own radio concerns that station and the
node that it runs on. The rest of the fleet stays as it was, apart from what is counted, drawn,
queued and recorded.
-/

namespace RangeSurvey

namespace Fleet

/-- The fleet `f'` is the fleet `f` with `s` as station `id` and `n` as node `unit`. Counters,
random numbers, queue and record may differ too. -/
structure Changes (f : Fleet) (id : Nat) (s : Station) (unit : Nat) (n : Node) (f' : Fleet) :
    Prop where
  isStation : id < f.stations.length
  isNode : unit < f.hardware.nodes.length
  stations : f'.stations = f.stations.set id s
  nodes : f'.hardware.nodes = f.hardware.nodes.set unit n
  range : f'.hardware.range = f.hardware.range
  lossPercent : f'.hardware.lossPercent = f.hardware.lossPercent
  chain : f'.chain = f.chain
  roster : f'.roster = f.roster
  tasks : f'.tasks = f.tasks

namespace Changes

variable {f f' : Fleet} {id unit : Nat} {s : Station} {n n' : Node}

/-- Nothing has changed yet. -/
theorem start (hs : f.stations[id]? = some s) (hn : f.hardware.nodes[unit]? = some n) :
    Changes f id s unit n f := by
  obtain ⟨hid, rfl⟩ := List.getElem?_eq_some_iff.mp hs
  obtain ⟨hunit, rfl⟩ := List.getElem?_eq_some_iff.mp hn
  exact ⟨hid, hunit, (List.set_getElem_self hid).symm, (List.set_getElem_self hunit).symm, rfl, rfl,
    rfl, rfl, rfl⟩

theorem station (h : Changes f id s unit n f') : f'.stations[id]? = some s := by
  rw [h.stations, List.getElem?_set_self h.isStation]

theorem node (h : Changes f id s unit n f') : f'.hardware.nodes[unit]? = some n := by
  rw [h.nodes, List.getElem?_set_self h.isNode]

theorem station_of_ne (h : Changes f id s unit n f') {other : Nat} (hne : other ≠ id) :
    f'.stations[other]? = f.stations[other]? := by
  rw [h.stations, List.getElem?_set_ne (Ne.symm hne)]

theorem node_of_ne (h : Changes f id s unit n f') {other : Nat} (hne : other ≠ unit) :
    f'.hardware.nodes[other]? = f.hardware.nodes[other]? := by
  rw [h.nodes, List.getElem?_set_ne (Ne.symm hne)]

theorem nodeCount (h : Changes f id s unit n f') :
    f'.hardware.nodeCount = f.hardware.nodeCount := by
  simp only [Medium.nodeCount, h.nodes, List.length_set]

theorem length (h : Changes f id s unit n f') : f'.stations.length = f.stations.length := by
  rw [h.stations, List.length_set]

theorem record (h : Changes f id s unit n f') (e : Entry) :
    Changes f id s unit n (f'.record e) :=
  ⟨h.isStation, h.isNode, h.stations, h.nodes, h.range, h.lossPercent, h.chain, h.roster, h.tasks⟩

theorem act (h : Changes f id s unit n f') (g : Station → Station × List StationNotice) :
    Changes f id (g s).1 unit n (f'.act id g) := by
  have hs := h.station
  have changed : f'.act id g =
      { f' with
        stations := f'.stations.set id (g s).1
        trace := ((g s).2.map fun n => .reported id s.slot n).reverse ++ f'.trace } := by
    simp only [Site.act, hs]
  rw [changed]
  refine ⟨h.isStation, h.isNode, ?_, h.nodes, h.range, h.lossPercent, h.chain, h.roster, h.tasks⟩
  rw [h.stations, List.set_set]

theorem update (h : Changes f id s unit n f') (g : Station → Station) :
    Changes f id (g s) unit n (f'.update id g) := h.act fun s => (g s, [])

theorem say (h : Changes f id s unit n f') (notice : StationNotice) :
    Changes f id s unit n (f'.say id notice) := h.act fun s => (s, [notice])

/-- The node changes. -/
theorem modifyNode (h : Changes f id s unit n f') (g : Node → Node) :
    Changes f id s unit (g n) { f' with hardware := f'.hardware.modifyNode unit g } := by
  refine ⟨h.isStation, h.isNode, h.stations, ?_, h.range, h.lossPercent, h.chain, h.roster, h.tasks⟩
  simp only [Medium.modifyNode, h.nodes]
  apply List.ext_getElem?
  intro i
  by_cases hi : unit = i
  · subst hi
    simp [h.isNode]
  · simp [hi]

/-- What the medium draws and counts is no change. -/
theorem draw (h : Changes f id s unit n f') (random : Random) (counters : AirCounters) :
    Changes f id s unit n { f' with hardware := { f'.hardware with random, counters } } :=
  ⟨h.isStation, h.isNode, h.stations, h.nodes, h.range, h.lossPercent, h.chain, h.roster, h.tasks⟩

/-- The station alone hears the events of its radio. -/
theorem raise (h : Changes f id s unit n f') {node : Nat}
    (alone : f.chain node = ⟨[(surveyInterface, .station id)]⟩) (event : RadioEvent) :
    Changes f id (s.hear event).station unit n (f'.raise node event).1 ∧
      (f'.raise node event).2 = decide ((s.hear event).verdict = .handled) := by
  have offered : Site.offer event (.station id) f' =
      ((f'.act id fun _ => ((s.hear event).station, (s.hear event).notices)).record
        (.offered (.station id) event (s.hear event).verdict), (s.hear event).verdict) := by
    simp only [Site.offer, h.station]
  have heard := (h.act fun _ => ((s.hear event).station, (s.hear event).notices)).record
    (.offered (.station id) event (s.hear event).verdict)
  simp only [Site.raise, Chain.walk, h.chain, alone, Chain.sinks, List.map_cons, List.map_nil,
    Chain.offerAll, offered]
  cases hv : (s.hear event).verdict with
  | handled => rw [hv] at heard; exact ⟨heard, rfl⟩
  | notMine => rw [hv] at heard; exact ⟨heard, rfl⟩
  | malformed => rw [hv] at heard; exact ⟨heard, rfl⟩

theorem tell (h : Changes f id s unit n f') {node : Nat}
    (alone : f.chain node = ⟨[(surveyInterface, .station id)]⟩) (event : RadioEvent) :
    Changes f id (s.told event) unit n (Fleet.tell f' node event) := by
  cases event with
  | received bytes =>
    obtain ⟨heard, consumed⟩ := h.raise alone (.received bytes)
    by_cases hv : (s.hear (.received bytes)).verdict = .handled
    · have hc : f'.raise node (.received bytes) = ((f'.raise node (.received bytes)).1, true) := by
        rw [decide_eq_true hv] at consumed
        rw [← consumed]
      simp only [Fleet.tell, Station.told]
      rw [hc, if_pos hv]
      exact heard
    · have hc : f'.raise node (.received bytes) = ((f'.raise node (.received bytes)).1, false) := by
        rw [decide_eq_false hv] at consumed
        rw [← consumed]
      simp only [Fleet.tell, Station.told]
      rw [hc, if_neg hv]
      exact (((heard.record _).draw _ _).raise alone .timedOut).1
  | sent => exact (h.raise alone .sent).1
  | timedOut => exact (h.raise alone .timedOut).1
  | reset => exact (h.raise alone .reset).1

/-- As long as the node stays where it is, the medium reaches as far as before. -/
theorem sameAir (h : Changes f id s unit n' f') (hn : f.hardware.nodes[unit]? = some n)
    (steady : n.Steady n') : f.hardware.SameAir f'.hardware := by
  refine ⟨h.range, h.lossPercent, ?_⟩
  intro i
  by_cases hi : i = unit
  · subst hi
    simp only [Medium.node?, hn, h.node, Option.map_some, steady.position]
  · simp only [Medium.node?, h.node_of_ne hi]

theorem quiet (h : Changes f id s unit n' f') (hn : f.hardware.nodes[unit]? = some n)
    (steady : n.Steady n')
    (quiet : ∀ n ∈ f.hardware.nodes, n.failTransmit = false ∧ n.failReceive = false) :
    ∀ n ∈ f'.hardware.nodes, n.failTransmit = false ∧ n.failReceive = false := by
  intro m hm
  obtain ⟨i, hi⟩ := List.mem_iff_getElem?.mp hm
  by_cases hu : i = unit
  · subst hu
    rw [h.node] at hi
    obtain rfl := Option.some.inj hi
    obtain ⟨transmit, receive⟩ := quiet n (List.mem_of_getElem? hn)
    exact ⟨steady.failTransmit transmit, steady.failReceive receive⟩
  · rw [h.node_of_ne hu] at hi
    exact quiet m (List.mem_of_getElem? hi)

end Changes

end Fleet

end RangeSurvey
