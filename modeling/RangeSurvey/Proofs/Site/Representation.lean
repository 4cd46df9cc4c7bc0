import RangeSurvey.Proofs.Site.Accounts
import RangeSurvey.Proofs.Site.Actions
import RangeSurvey.Proofs.Station.Sound

/-!
# The representation of stations

At every point of every run every station is sound, and what can be read off its table and its
buffer follows. Engines may write what they like and report whom they like, and radios may bring
any bytes at any time.
-/

namespace RangeSurvey.Site

variable {H : Type}

/-- Every station that is passed on a run is sound. -/
theorem Passes.sound {hardware : H} {site : Site H} {id : Nat} {s : Station}
    (passes : ({ hardware } : Site H).Passes site) (hs : site.stations[id]? = some s) :
    s.Sound := by
  refine passes.stations (P := Station.Sound) ?_ ?_ ?_ id s hs
  · intro e ownsStorage s built
    exact Station.Sound.of_build built
  · intro d id s s' moved h
    exact h.moves moved
  · intro id s none
    cases none

variable [Hardware H]

/-- The representation invariant of a station, at every point of every run: its slot, its table and
its frame buffer are sound, and identity, size and fixed fields never change. -/
theorem representation (hardware : H) (actions : List (Action H)) {site : Site H} {id : Nat}
    {s : Station} (passes : (({ hardware } : Site H).performAll actions).Passes site)
    (hs : site.stations[id]? = some s) :
    s.Sound ∧ (∀ row ∈ s.table.rows, row.Reads) ∧
      (∃ f, Frame.ofBytes? s.buffer = some f ∧ f.network = networkId ∧
        f.control = rangingControl ∧ f.destination = everybody ∧ f.source = s.identity.address ∧
        f.code = surveyCode ∧ f.cell = s.identity.cell) ∧
      (s.beginBroadcast.2 ≠ .noRow ∧ ∀ peers, s.beginBroadcast.2 ≠ .noRoom peers) ∧
      ∀ site', site.Passes site' → ∃ s', site'.stations[id]? = some s' ∧
        s'.identity = s.identity ∧ s'.nodeCount = s.nodeCount ∧
        s'.buffer.take Frame.roundOffset = s.buffer.take Frame.roundOffset := by
  have sound : s.Sound := Passes.sound ((performAll_passes _ actions).trans passes) hs
  refine ⟨sound, ?_, sound.header, sound.beginBroadcast_prepares, ?_⟩
  · intro row hrow
    exact (sound.row row hrow).reads
  · intro site' later
    have moves (d : Deed) (t t' : Station) : True → d.Moves id t t' →
        t.Sound ∧ t.identity = s.identity ∧ t.nodeCount = s.nodeCount →
        t'.Sound ∧ t'.identity = s.identity ∧ t'.nodeCount = s.nodeCount := by
      rintro - moved ⟨sound, identity, nodeCount⟩
      obtain ⟨-, -, same, size⟩ := Station.stays_of_moves moved
      exact ⟨sound.moves moved, same.trans identity, size.trans nodeCount⟩
    obtain ⟨s', hs', sound', identity, nodeCount⟩ := later.station moves hs ⟨sound, rfl, rfl⟩
    refine ⟨s', hs', identity, nodeCount, ?_⟩
    rw [sound'.front, sound.front, identity]

/-- The station that measures and broadcasts, while it waits for the radio to be done. -/
theorem representation_crowded :
    let site := ({ hardware := oneAnswer } : Site Bench).performAll crowded
    ∃ s, site.stations[0]? = some s ∧ s.Sound ∧ (∀ row ∈ s.table.rows, row.Reads) ∧
      (s.beginBroadcast.2 ≠ .noRow ∧ ∀ peers, s.beginBroadcast.2 ≠ .noRoom peers) := by
  intro site
  have there : (site.stations[0]?).isSome = true := by decide +kernel
  obtain ⟨s, hs⟩ := Option.isSome_iff_exists.mp there
  obtain ⟨sound, reads, -, prepares, -⟩ :=
    representation oneAnswer crowded (Does.refl _ site) hs
  exact ⟨s, hs, sound, reads, prepares⟩

end RangeSurvey.Site
