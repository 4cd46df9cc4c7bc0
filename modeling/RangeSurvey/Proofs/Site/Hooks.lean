import RangeSurvey.Bench
import RangeSurvey.Proofs.Site.Wiring

/-!
# Who hears a radio

A station that is dismissed clears the survey's place in the chain of its radio, whoever stands
there. As long as no station over storage of its own is dismissed while its device has another one
that is ready, every station that is in the roster and ready hears the survey's events on its radio.
A station that has been dismissed before takes the radio away from the one that its device has now.
-/

namespace RangeSurvey.Site

variable {H : Type} [Hardware H]

def live (site : Site H) (id : Nat) : Bool := site.roster.contains id && site.isReady id

def equipped (site : Site H) : Bool :=
  site.stations.all fun s => Hardware.present site.hardware s.unit

/-- Stations are set up on radios that are there, nobody else registers under the survey's
identifier, and a station over storage of its own is dismissed only while its device has no other
one that is ready. -/
def tended (site : Site H) : Action H → Bool
  | .enrol e => (site.perform (.enrol e)).equipped
  | .adopt id => (site.perform (.adopt id)).equipped
  | .dismiss id => (site.stations[id]?).all fun s => !s.status.ownsStorage ||
      (site.find? s.device).all fun j => j == id || !site.isReady j
  | .join _ i _ => i != surveyInterface
  | _ => true

omit [Hardware H] in
theorem live_iff {site : Site H} {id : Nat} :
    site.live id = true ↔ id ∈ site.roster ∧ site.isReady id = true := by
  simp [live]

/-- Every station that takes part in slots hears its radio. -/
def Tuned (site : Site H) : Prop := ∀ id, site.live id = true → site.hooked id = true

section Step

variable {a b : Site H} {action : Action H}

theorem present_of_tended (allowed : tended a action = true) (sets : action.setsUp = true)
    {id : Nat} {s : Station} (hs : (a.perform action).stations[id]? = some s) :
    Hardware.present (a.perform action).hardware s.unit = true := by
  have equipped : (a.perform action).equipped = true := by
    cases action with
    | enrol e => exact allowed
    | adopt id => exact allowed
    | _ => cases sets
  exact List.all_eq_true.mp equipped s (List.mem_of_getElem? hs)

theorem Tuned.rewired (tuned : a.Tuned) (rostered : a.Rostered) (passes : a.Passes b)
    (pairs : b.paired) (allowed : tended a action = true) (performed : b = a.perform action)
    (rewired : Rewired a action b) : b.Tuned := by
  have before : a.paired := passes.paired pairs
  intro id lives
  obtain ⟨member, ready⟩ := live_iff.mp lives
  cases rewired with
  | still roster sinks same =>
    have hooked := tuned id (live_iff.mpr ⟨roster ▸ member, same id ▸ ready⟩)
    exact hooked_of_same passes hooked fun s _ => sinks s.unit
  | @suspended _ other roster sinks rests others =>
    have distinct : id ≠ other := by
      rintro rfl
      rw [rests] at ready
      cases ready
    have hooked := tuned id (live_iff.mpr ⟨roster ▸ member, others id distinct ▸ ready⟩)
    exact hooked_of_same passes hooked fun s _ => sinks s.unit
  | @dismissed _ other t ht owns roster sinks others =>
    rw [roster, List.mem_filter, bne_iff_ne] at member
    obtain ⟨member, distinct⟩ := member
    rw [others id distinct] at ready
    have hooked := tuned id (live_iff.mpr ⟨member, ready⟩)
    refine hooked_of_same passes hooked fun s hs => sinks s.unit ?_
    intro shared
    have found := find?_of_shared rostered before member hs ht shared
    simp [tended, ht, owns, found, distinct, ready] at allowed
  | @configured _ _ other t sets ht enters sinks others =>
    by_cases distinct : id = other
    · subst distinct performed
      rw [hooked_iff ht, sinks, if_pos ⟨rfl, present_of_tended allowed sets ht⟩]
    · rw [others id distinct] at ready
      have old : id ∈ a.roster := by
        rcases enters with ⟨-, roster⟩ | ⟨-, roster⟩
        · exact roster ▸ member
        · rw [roster, List.mem_append, List.mem_singleton] at member
          exact member.resolve_right distinct
      have hooked := tuned id (live_iff.mpr ⟨old, ready⟩)
      refine hooked_of_same passes hooked fun s hs => ?_
      rw [sinks, if_neg]
      rintro ⟨shared, -⟩
      exact unit_of_configured rostered passes pairs ht enters old distinct hs shared

end Step

/-- In every run in which no station over storage of its own is dismissed while its device has
another one that is ready, every station in the roster that is ready hears the survey's events on
its radio, if the stations of a device share one radio and those of different devices do not. -/
theorem live_hooked (hardware : H) (actions : List (Action H))
    (careful : ({ hardware } : Site H).follows tended actions = true)
    (pairs : (({ hardware } : Site H).performAll actions).paired) (id : Nat)
    (lives : (({ hardware } : Site H).performAll actions).live id = true) :
    (({ hardware } : Site H).performAll actions).hooked id = true := by
  have start : Tuned ({ hardware } : Site H) := by
    intro id lives
    simp [live] at lives
  have kept : (({ hardware } : Site H).performAll actions).Rostered ∧
      ((({ hardware } : Site H).performAll actions).paired →
        (({ hardware } : Site H).performAll actions).Tuned) := by
    refine rostered_induction (by simp [tended]) ?_ start careful
    intro site action allowed rostered pairs rewired tuned
    exact tuned.rewired rostered (perform_does site action).passes pairs allowed rfl rewired
  exact kept.2 pairs id lives

def replaced : List (Action Bench) :=
  [.enrol ⟨0, 2, ⟨0x100, 0, 12⟩, {}, 0⟩, .dismiss 0, .enrol ⟨0, 2, ⟨0x100, 0, 12⟩, {}, 0⟩]

/-- The second station of the device hears the radio, and so does the station of another device. -/
theorem live_hooked_replaced :
    let site := ({ hardware := {} } : Site Bench).performAll
      (replaced ++ [.enrol ⟨1, 2, ⟨0x101, 1, 12⟩, {}, 1⟩])
    site.paired ∧ site.live 1 = true ∧ site.hooked 1 = true ∧ site.hooked 2 = true := by
  intro site
  have careful : ({ hardware := {} } : Site Bench).follows tended
      (replaced ++ [.enrol ⟨1, 2, ⟨0x101, 1, 12⟩, {}, 1⟩]) = true := by decide +kernel
  have pairs : site.paired := by decide +kernel
  have first : site.live 1 = true := by decide +kernel
  have second : site.live 2 = true := by decide +kernel
  exact ⟨pairs, first, live_hooked _ _ careful pairs 1 first,
    live_hooked _ _ careful pairs 2 second⟩

/-- The first station of the device is dismissed once more, and the second one, which is ready, does
not hear the radio any longer. -/
theorem live_unhooked :
    let site := ({ hardware := {} } : Site Bench).performAll (replaced ++ [.dismiss 0])
    site.paired ∧ site.live 1 = true ∧ site.hooked 1 = false := by
  decide +kernel

end RangeSurvey.Site
