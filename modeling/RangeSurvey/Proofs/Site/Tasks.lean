import RangeSurvey.Site.Tasks

/-!
# Tasks and devices of a site

Which task stands under a number after the list of tasks has changed, and which station a device
has.
-/

namespace RangeSurvey.Site

variable {H : Type}

theorem task?_removeTask (site : Site H) (k j : Nat) :
    (site.removeTask k).task? j = if j = k then none else site.task? j := by
  simp only [task?, removeTask, List.find?_filter]
  by_cases h : j = k
  · subst h
    simp
  · have same : (fun t : Nat × Task => decide ((t.1 != k) = true ∧ (t.1 == j) = true)) =
        fun t => t.1 == j := by
      funext t
      by_cases ht : t.1 = j
      · simp [ht, h]
      · simp [ht]
    simp only [if_neg h, same]

theorem task?_replaceTask (site : Site H) (k : Nat) (task : Task) (j : Nat) :
    (site.replaceTask k task).task? j =
      if j = k then (site.task? k).map fun _ => task else site.task? j := by
  simp only [task?, replaceTask]
  induction site.tasks with
  | nil => by_cases h : j = k <;> simp [h]
  | cons t ts ih =>
    by_cases htk : t.1 = k
    · by_cases h : j = k
      · simp [htk, h]
      · have hne : ¬ k = j := fun hkj => h hkj.symm
        simpa [htk, h, hne] using ih
    · by_cases htj : t.1 = j
      · have h : j ≠ k := fun hjk => htk (htj.trans hjk)
        simp [htj, h]
      · by_cases h : j = k
        · simpa [htk, htj, h] using ih
        · simpa [htk, htj, h] using ih

theorem task?_eq_none {site : Site H} {k : Nat} :
    site.task? k = none ↔ ∀ t ∈ site.tasks, t.1 ≠ k := by
  simp [task?]

theorem find?_some [Hardware H] {site : Site H} {device id : Nat}
    (h : site.find? device = some id) :
    id ∈ site.roster ∧ ∃ s, site.stations[id]? = some s ∧ s.device = device := by
  simp only [find?] at h
  refine ⟨List.mem_of_find?_eq_some h, ?_⟩
  have hdevice := List.find?_some h
  cases hs : site.stations[id]? with
  | none => simp [hs] at hdevice
  | some s => exact ⟨s, rfl, by simpa [hs] using hdevice⟩

/-- Which station a device has is a matter of the roster and of the devices of the stations. -/
theorem find?_congr [Hardware H] {site site' : Site H} (roster : site'.roster = site.roster)
    (devices : ∀ id : Nat, (site'.stations[id]?).map Station.device =
      (site.stations[id]?).map Station.device) (device : Nat) :
    site'.find? device = site.find? device := by
  simp only [find?, roster]
  congr 1
  funext id
  have h := devices id
  cases hs : site.stations[id]? with
  | none =>
    rw [hs, Option.map_none, Option.map_eq_none_iff] at h
    rw [h]
  | some s =>
    rw [hs, Option.map_some, Option.map_eq_some_iff] at h
    obtain ⟨s', hs', hdevice⟩ := h
    rw [hs', Option.any_some, Option.any_some, hdevice]

end RangeSurvey.Site
