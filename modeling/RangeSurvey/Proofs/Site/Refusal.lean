import RangeSurvey.Proofs.Site.Representation
import RangeSurvey.Proofs.Site.Wiring

/-!
# Refused requests

An enrolment is refused for the first of four reasons that applies: the number of stations, the size
and the identity of the station that the device has, and the slot. A station that has been built
apart is refused only when its device has another one. Whatever has happened before, a refused
request leaves all stations, the roster and the chains of all radios as they are.
-/

namespace RangeSurvey

/-- An error that stands for as long as something does not hold. -/
def EnrolmentError.unless (ok : Bool) (err : EnrolmentError) : List EnrolmentError :=
  if ok then [] else [err]

/-- What a device that has station `s` has against an enrolment. -/
def Station.objections (s : Station) (e : Enrolment) : List EnrolmentError :=
  (EnrolmentError.nodeCountMismatch s.nodeCount e.nodeCount).unless (s.nodeCount = e.nodeCount) ++
    (EnrolmentError.identityMismatch s.identity e.identity).unless (s.identity = e.identity)

namespace Enrolment

def isSized (e : Enrolment) : Bool := minNodes ≤ e.nodeCount && e.nodeCount ≤ maxNodes

def refusal (e : Enrolment) : EnrolmentError → List Notice
  | .nodeCountMismatch existing requested => [.sizeConflict e.device existing requested]
  | .identityMismatch existing requested => [.identityConflict e.device existing requested]
  | _ => []

theorem checkNodeCount_eq (e : Enrolment) : checkNodeCount e.nodeCount =
    if e.isSized then .ok () else .error (.invalidNodeCount e.nodeCount) := by
  simp only [checkNodeCount, isSized, Bool.and_eq_true, decide_eq_true_eq]

end Enrolment

namespace Site

variable {H : Type} [Hardware H]

/-- Everything that stands against an enrolment, in the order in which it is looked at. -/
def objections (site : Site H) (e : Enrolment) : List EnrolmentError :=
  (EnrolmentError.invalidNodeCount e.nodeCount).unless e.isSized ++
    (((site.find? e.device).bind fun id => site.stations[id]?).elim [] fun s => s.objections e) ++
    (EnrolmentError.slotOutOfRange e.identity.slot.toNat e.nodeCount).unless
      (e.identity.slot.toNat < e.nodeCount)

inductive Enrols (site : Site H) (e : Enrolment) : Site H × Enrolled → Prop where
  /-- It is refused, and hardware has been set up for nothing if it is the slot that is wrong. -/
  | refused {err : EnrolmentError} {built : Bool} : (site.objections e).head? = some err →
      (built = true ↔ e.isSized = true ∧ site.find? e.device = none) →
      Enrols site e ({ site with trace := (e.refusal err).map .noticed ++ site.trace },
        ⟨.error err, built⟩)
  /-- The station that the device has is configured. -/
  | renewed {id : Nat} {s : Station} : site.objections e = [] → site.find? e.device = some id →
      site.stations[id]? = some s → s.nodeCount = e.nodeCount → s.identity = e.identity →
      Enrols site e
        (((site.update id fun s => s.configure e.config).hook id).note (.renewed e.device),
          ⟨.ok id, false⟩)
  /-- The device gets a new station. -/
  | created : site.objections e = [] → e.isSized = true → site.find? e.device = none →
      Station.build e true = .ok (Station.fresh e true) →
      Enrols site e
        (((site.addStation (Station.fresh e true)).install site.stations.length e.config).note
            (.created e.device e.nodeCount e.identity),
          ⟨.ok site.stations.length, true⟩)

theorem enrolNew_enrols {site : Site H} {e : Enrolment} (sized : e.isSized = true)
    (unknown : site.find? e.device = none) : site.Enrols e (site.enrolNew e) := by
  have check := e.checkNodeCount_eq
  rw [if_pos sized] at check
  by_cases slot : e.identity.slot.toNat < e.nodeCount
  · have built : Station.build e true = .ok (Station.fresh e true) := by
      simp only [Station.build, check, if_pos slot]
    have accepted : site.objections e = [] := by
      simp [objections, EnrolmentError.unless, sized, unknown, slot]
    simp only [enrolNew, built]
    exact .created accepted sized unknown built
  · have refused : Station.build e true =
        .error (.slotOutOfRange e.identity.slot.toNat e.nodeCount) := by
      simp only [Station.build, check, if_neg slot]
    have first : (site.objections e).head? =
        some (.slotOutOfRange e.identity.slot.toNat e.nodeCount) := by
      simp [objections, EnrolmentError.unless, sized, unknown, slot]
    simp only [enrolNew, refused]
    exact .refused first (by simp [sized, unknown])

/-- An enrolment is refused, renews the station that the device has, or makes one. -/
theorem enrol_enrols {site : Site H}
    (sound : ∀ (id : Nat) (s : Station), site.stations[id]? = some s → s.slot < s.nodeCount)
    (e : Enrolment) : site.Enrols e (site.enrol e) := by
  simp only [enrol, e.checkNodeCount_eq]
  by_cases sized : e.isSized = true
  · simp only [if_pos sized]
    cases found : site.find? e.device with
    | none => exact enrolNew_enrols sized found
    | some id =>
      obtain ⟨-, s, hs, -⟩ := find?_some found
      have known : ((site.find? e.device).bind fun id => site.stations[id]?) = some s := by
        rw [found, Option.bind_some, hs]
      have none : false = true ↔ e.isSized = true ∧ site.find? e.device = none := by simp [found]
      simp only [hs, renew]
      by_cases size : s.nodeCount = e.nodeCount
      · by_cases identity : s.identity = e.identity
        · -- The slot of the station that is there is right, and it is the one asked for.
          have slot : e.identity.slot.toNat < e.nodeCount := by
            rw [← identity, ← size]
            exact sound id s hs
          have accepted : site.objections e = [] := by
            simp [objections, EnrolmentError.unless, Station.objections, known, sized, size,
              identity, slot]
          rw [if_neg (not_not.mpr size), if_neg (not_not.mpr identity)]
          exact .renewed accepted found hs size identity
        · have first : (site.objections e).head? =
              some (.identityMismatch s.identity e.identity) := by
            simp [objections, EnrolmentError.unless, Station.objections, known, sized, size,
              identity]
          rw [if_neg (not_not.mpr size), if_pos identity]
          exact .refused first none
      · have first : (site.objections e).head? =
            some (.nodeCountMismatch s.nodeCount e.nodeCount) := by
          simp [objections, EnrolmentError.unless, Station.objections, known, sized, size]
        rw [if_pos size]
        exact .refused first none
  · have first : (site.objections e).head? = some (.invalidNodeCount e.nodeCount) := by
      simp [objections, EnrolmentError.unless, sized]
    simp only [if_neg sized]
    exact .refused first (by simp [sized])

inductive Adopts (site : Site H) (id : Nat) : Site H × Except EnrolmentError Unit → Prop where
  | unknown : site.stations[id]? = none → Adopts site id (site, .ok ())
  | refused {s : Station} {other : Nat} : site.stations[id]? = some s →
      site.find? s.device = some other → other ≠ id →
      Adopts site id (site, .error (.deviceInUse s.device))
  /-- The device has the station already, which is configured as it is. -/
  | renewed {s : Station} : site.stations[id]? = some s → site.find? s.device = some id →
      Adopts site id ((site.update id fun s => s.configure s.config).hook id, .ok ())
  | adopted {s : Station} : site.stations[id]? = some s → site.find? s.device = none →
      Adopts site id ((site.install id s.config).note (.adopted s.device), .ok ())

theorem adopt_adopts (site : Site H) (id : Nat) : site.Adopts id (site.adopt id) := by
  simp only [adopt]
  split
  · next none => exact .unknown none
  next s hs =>
    split
    · next none => exact .adopted hs none
    next other found =>
      split
      · next same =>
        subst same
        exact .renewed hs found
      · next distinct => exact .refused hs found distinct

/-- What it means that refused requests change nothing but the record, and that the first objection
decides. -/
structure Refuses (site : Site H) : Prop where
  enrol_error : ∀ e err,
    (site.enrol e).2.outcome = .error err ↔ (site.objections e).head? = some err
  enrol_same : ∀ e err, (site.enrol e).2.outcome = .error err →
    (site.enrol e).1 = { site with trace := (e.refusal err).map .noticed ++ site.trace }
  adopt_error : ∀ id err, (site.adopt id).2 = .error err ↔ ∃ s other,
    site.stations[id]? = some s ∧ site.find? s.device = some other ∧ other ≠ id ∧
      err = .deviceInUse s.device
  adopt_same : ∀ id err, (site.adopt id).2 = .error err → (site.adopt id).1 = site

theorem slot_performAll (hardware : H) (actions : List (Action H)) (id : Nat) (s : Station)
    (hs : (({ hardware } : Site H).performAll actions).stations[id]? = some s) :
    s.slot < s.nodeCount :=
  (Passes.sound (performAll_passes _ actions) hs).slot

/-- After every run an enrolment is refused exactly if something stands against it, for the first of
the reasons, a station is refused a place in the roster exactly if its device has another one, and
nothing changes but the record, which says why. -/
theorem refused_unchanged (hardware : H) (actions : List (Action H)) :
    (({ hardware } : Site H).performAll actions).Refuses := by
  generalize at_end : ({ hardware } : Site H).performAll actions = site
  have enrols (e : Enrolment) : site.Enrols e (site.enrol e) :=
    enrol_enrols (at_end ▸ slot_performAll hardware actions) e
  refine ⟨?_, ?_, ?_, ?_⟩
  · intro e err
    have came := enrols e
    generalize site.enrol e = after at came
    cases came with
    | refused first => simp [first]
    | renewed accepted => simp [accepted]
    | created accepted => simp [accepted]
  · intro e err refused
    have came := enrols e
    generalize site.enrol e = after at came refused
    cases came with
    | refused =>
      cases refused
      rfl
    | renewed => cases refused
    | created => cases refused
  · intro id err
    have came := site.adopt_adopts id
    generalize site.adopt id = after at came
    cases came with
    | unknown none => simp [none]
    | refused hs found distinct => simp [hs, found, distinct, eq_comm (b := err)]
    | renewed hs found => simp [hs, found]
    | adopted hs none => simp [hs, none]
  · intro id err refused
    have came := site.adopt_adopts id
    generalize site.adopt id = after at came refused
    cases came with
    | refused => rfl
    | unknown => cases refused
    | renewed => cases refused
    | adopted => cases refused

/-- Device 0 has a station, and that of device 1, over storage of its caller, rests. Another station
has been built for device 1. -/
def disputed : List (Action Bench) :=
  [.enrol ⟨0, 3, ⟨0x100, 0, 12⟩, {}, 0⟩, .build ⟨1, 3, ⟨0x101, 1, 12⟩, {}, 1⟩, .adopt 1, .dismiss 1,
    .build ⟨1, 2, ⟨0x102, 0, 12⟩, {}, 1⟩]

/-- Requests that are refused for each of the reasons, the resting station being one of them. -/
theorem refused_unchanged_disputed :
    let site := ({ hardware := {} } : Site Bench).performAll disputed
    (site.enrol ⟨1, 33, ⟨0x101, 40, 13⟩, {}, 1⟩).2.outcome = .error (.invalidNodeCount 33) ∧
      (site.enrol ⟨1, 4, ⟨0x101, 9, 13⟩, {}, 1⟩).2.outcome = .error (.nodeCountMismatch 3 4) ∧
      (site.enrol ⟨1, 3, ⟨0x101, 9, 13⟩, {}, 1⟩).2.outcome =
        .error (.identityMismatch ⟨0x101, 1, 12⟩ ⟨0x101, 9, 13⟩) ∧
      (site.enrol ⟨2, 3, ⟨0x102, 3, 12⟩, {}, 2⟩).2.outcome = .error (.slotOutOfRange 3 3) ∧
      (site.adopt 2).2 = .error (.deviceInUse 1) ∧ (site.adopt 2).1 = site := by
  intro site
  have refuses : site.Refuses := refused_unchanged ({} : Bench) disputed
  have existing : (site.stations[2]?).map Station.device = some 1 := by decide +kernel
  obtain ⟨s, hs, device⟩ := Option.map_eq_some_iff.mp existing
  have taken : site.find? s.device = some 1 := by
    rw [device]
    decide +kernel
  have adopt : (site.adopt 2).2 = .error (.deviceInUse 1) :=
    (refuses.adopt_error 2 _).mpr ⟨s, 1, hs, taken, by decide, by rw [device]⟩
  refine ⟨?_, ?_, ?_, ?_, adopt, refuses.adopt_same 2 _ adopt⟩
  · exact (refuses.enrol_error _ _).mpr (by decide +kernel)
  · exact (refuses.enrol_error _ _).mpr (by decide +kernel)
  · exact (refuses.enrol_error _ _).mpr (by decide +kernel)
  · exact (refuses.enrol_error _ _).mpr (by decide +kernel)

end Site

end RangeSurvey
