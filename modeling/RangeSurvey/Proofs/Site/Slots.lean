import Mathlib.Algebra.Group.Nat.Defs
import RangeSurvey.Proofs.Site.Rounds

/-!
# Everything in a slot is of one round

From the look that begins a slot to the one that ends it, whatever happens around it: frames that
the slot hands to the radio, rows of others that are stored meanwhile, and the note that the slot
leaves all carry the number that the round had when the slot began. A slot in which no station takes
part leaves everything as it was.
-/

namespace RangeSurvey.Site

open Bytes RangeSurvey.Frame

variable {H : Type}

/-- What comes on record by an action belongs to round `r` of station `id`, which was `s`: what the
station takes for a row, to which the rows of others change, and, in a look at task `k`, what is
handed to a radio and the completion note. -/
structure Belongs (r : UInt32) (k id : Nat) (s : Station) (action : Action H) (a b : Site H)
    (news : List Entry) : Prop where
  trace : b.trace = news ++ a.trace
  taken : ∀ bytes, .taking id bytes ∈ news → word32At bytes 11 = r
  rows : ∃ t t', a.stations[id]? = some t ∧ b.stations[id]? = some t' ∧
    ∀ slot, slot ≠ s.slot → t'.table.row? slot = t.table.row? slot ∨
      ∃ bytes, .taking id bytes ∈ news ∧ slotAt bytes = slot ∧
        t'.table.row? slot = some (Station.announcedRow bytes s.nodeCount)
  sent : action = .poll k → ∀ unit offset bytes, .called (.write unit offset bytes) ∈ news →
    ∃ f, ofBytes? bytes = some f ∧ f.round = r ∧ f.slot = s.identity.slot
  announced : action = .poll k → ∀ note kept, .announced note kept ∈ news → note = ⟨s.device, r⟩

/-- Task `k` plays the part of station `id`, which was `s`, in round `r`, or is over. -/
structure Plays (site : Site H) (k id : Nat) (r : UInt32) (s : Station) : Prop where
  nodup : site.pending.Nodup
  station : ∃ t, site.stations[id]? = some t ∧ s.Stays t ∧ t.round = r ∧ t.Sound
  call : ∀ task, site.task? k = some task → ∃ c : Call, task = .call c ∧ c.station = id

/-- Nothing but the record and the list of tasks has changed, and nothing has been asked of the
hardware. -/
structure Untouched (a b : Site H) : Prop where
  stations : b.stations = a.stations
  hardware : b.hardware = a.hardware
  chain : b.chain = a.chain
  roster : b.roster = a.roster
  queue : b.queue = a.queue
  calls : b.calls = a.calls

variable [Hardware H]

/-- The round of a survey is that of the network without its low bits. -/
theorem roundNumber_toNat (round : UInt32) (shift : Nat) :
    (roundNumber round shift).toNat = round.toNat / 2 ^ shift := by
  have small : round.toNat < 2 ^ 32 := round.toNat_lt
  rw [roundNumber, Nat.shiftRight_eq_div_pow, UInt32.toNat_ofNat_of_lt']
  · rcases Nat.le_total shift 32 with few | many
    · rw [Nat.min_eq_left few]
    · have more : 2 ^ 32 ≤ 2 ^ shift := Nat.pow_le_pow_right (by decide) many
      rw [Nat.min_eq_right many, Nat.div_eq_of_lt small,
        Nat.div_eq_of_lt (Nat.lt_of_lt_of_le small more)]
  · exact Nat.lt_of_le_of_lt (Nat.div_le_self ..) small

section Plays

variable {r : UInt32} {site begun : Site H} {c : Call} {s : Station} {k id : Nat} {job : SlotJob}

/-- A task that is looked at goes on with its call or is over. -/
theorem call_of_turn {task task' : Task} (found : site.task? k = some task)
    (turn : site.turn task = some (begun, c)) (after : (poll k site).1.task? k = some task') :
    ∃ stage, task' = .call { c with stage } := by
  cases looked : begun.look c with
  | mk next progress =>
    cases progress with
    | waiting c' =>
      have progress := look_at begun c
      rw [looked] at progress
      obtain ⟨stage, rfl, -⟩ := progress
      rw [poll_waits found turn looked] at after
      exact ⟨stage, (Option.some.inj after).symm⟩
    | done status =>
      rw [(poll_done found turn looked).2] at after
      cases after

theorem call_remains (nodup : site.pending.Nodup) (found : site.task? k = some (.call c))
    {action : Action H} {task : Task} (after : (site.perform action).task? k = some task) :
    ∃ stage, task = .call { c with stage } := by
  cases touched : action.touches k with
  | false =>
    rw [task?_untouched nodup found touched] at after
    exact ⟨c.stage, (Option.some.inj after).symm⟩
  | true =>
    cases action with
    | poll j =>
      obtain rfl := beq_iff_eq.mp touched
      exact call_of_turn found rfl after
    | cancel j =>
      obtain rfl := beq_iff_eq.mp touched
      have gone := task?_removeTask site j j
      rw [if_pos rfl] at gone
      simp only [perform, cancel, found] at after
      rw [task?, abandon_tasks, ← task?, gone] at after
      cases after
    | _ => cases touched

/-- Whatever happens while a slot goes on belongs to its round, if no other slot of the device
begins. -/
theorem Plays.perform (plays : site.Plays k id r s) {action : Action H}
    (allowed : during k s.device site action = true) :
    ∃ news, Belongs r k id s action site (site.perform action) news ∧
      (site.perform action).Plays k id r s := by
  obtain ⟨nodup, ⟨t, ht, stays, rfl, sound⟩, calls⟩ := plays
  simp only [during, Bool.and_eq_true, Bool.not_eq_true', Option.isSome_iff_exists] at allowed
  obtain ⟨⟨task, found⟩, alone⟩ := allowed
  obtain ⟨c, rfl, rfl⟩ := calls task found
  obtain ⟨t', news, stores, good⟩ := (perform_steady ht (stays.device ▸ alone)).stores ht sound
  have speaks (looks : action = .poll k) :
      (∀ unit offset bytes, .called (.write unit offset bytes) ∈ news → t.Says bytes) ∧
        ∀ n kept, .announced n kept ∈ news → n = ⟨t.device, t.round⟩ := by
    subst looks
    exact (poll_call_speaks found ht sound).speaks stores.trace
  refine ⟨news, ⟨stores.trace, stores.taken, ⟨t, t', ht, stores.station, ?_⟩, ?_, ?_⟩,
    nodup_pending_perform nodup action, ⟨t', stores.station, stays.trans stores.stays, stores.round,
    good⟩, fun task after => ?_⟩
  · intro slot other
    have rows := stores.rows slot (stays.slot ▸ other)
    rwa [stays.nodeCount] at rows
  · intro looks unit offset bytes written
    obtain ⟨f, parsed, round, slot⟩ := (speaks looks).1 unit offset bytes written
    exact ⟨f, parsed, round, slot.trans (congrArg Identity.slot stays.identity)⟩
  · intro looks note kept announced
    rw [(speaks looks).2 note kept announced, stays.device]
  · obtain ⟨stage, rfl⟩ := call_remains nodup found after
    exact ⟨_, rfl, rfl⟩

/-- A station that takes part in a slot enters its round, and takes nothing for a row by that. -/
theorem takePart_stores (site : Site H) (hs : site.stations[id]? = some s) (job : SlotJob) :
    ∃ news, Stores (roundNumber job.slot.round s.config.roundShift) id site
      (site.takePart id s job).1 s
      (s.enterRound (roundNumber job.slot.round s.config.roundShift)) news := by
  have inside := (List.getElem?_eq_some_iff.mp hs).1
  simp only [takePart, act_some _ hs]
  exact ⟨[_], .silent (List.getElem?_set_self inside) rfl ⟨rfl, rfl, rfl, rfl⟩ rfl (by simp)
    fun _ _ => rfl⟩

/-- A slot begins, and the first look at it belongs to its round already. -/
theorem plays_of_begins (task : site.task? k = some (.slot job))
    (found : site.find? job.device = some id) (hs : site.stations[id]? = some s)
    (ready : s.status.ready = true) (nodup : site.pending.Nodup) (sound : s.Sound) :
    ∃ news, Belongs (roundNumber job.slot.round s.config.roundShift) k id s (.poll k) site
        (site.perform (.poll k)) news ∧
      (site.perform (.poll k)).Plays k id (roundNumber job.slot.round s.config.roundShift) s := by
  have turn : site.turn (.slot job) = some (site.takePart id s job) := by
    simp only [Site.turn, enter, found, hs, if_pos ready]
    rfl
  have here : (site.takePart id s job).2.station = id := rfl
  have speaks (sent : List UInt8 → Prop) (note : Completion) :
      Does (Deed.Speaks sent note) site (site.takePart id s job).1 :=
    takePart_does hs job fun _ _ => trivial
  obtain ⟨earlier, entered⟩ := takePart_stores site hs job
  generalize roundNumber job.slot.round s.config.roundShift = r at entered ⊢
  generalize site.takePart id s job = begins at turn here speaks entered
  obtain ⟨begun, c⟩ := begins
  obtain rfl : c.station = id := here
  have sound' : (s.enterRound r).Sound := sound.keeps (s.enterRound_keeps r)
  have ran := run_turn turn
  -- once the station has entered its round, the look is a look at any call
  have steady : Does (Deed.Steady c.station) begun (poll k site).1 :=
    poll_covered task (ran ▸ runCall_steady begun c c.station) (Deed.steady_of_none rfl)
      fun _ => Deed.steady_of_none rfl
  obtain ⟨s', news, stores, good⟩ := steady.stores entered.station sound'
  have stored := entered.trans stores
  have spoken := (poll_covered task (ran ▸ (speaks _ _).trans
    (runCall_speaks entered.station sound')) trivial fun _ => trivial).speaks stored.trace
  refine ⟨_, ⟨stored.trace, stored.taken, ⟨s, s', hs, stored.station, stored.rows⟩,
    fun _ => spoken.1, fun _ => spoken.2⟩, nodup_pending_perform nodup (.poll k),
    ⟨s', stored.station, stored.stays, stored.round, good⟩, fun _ after => ?_⟩
  obtain ⟨stage, rfl⟩ := call_of_turn task turn after
  exact ⟨_, rfl, rfl⟩

/-- Whatever happens up to the end of a slot belongs to its round, if no other slot of the device
begins. -/
theorem Plays.performAll (first : List (Action H)) {action : Action H} {later : List (Action H)}
    (plays : site.Plays k id r s)
    (allowed : site.follows (during k s.device) (first ++ action :: later) = true) :
    ∃ news, Belongs r k id s action (site.performAll first)
      (site.performAll (first ++ [action])) news := by
  induction first generalizing site with
  | nil =>
    obtain ⟨news, belongs, -⟩ := plays.perform (follows_cons.mp allowed).1
    exact ⟨news, belongs⟩
  | cons earlier first ih =>
    obtain ⟨now, allowed⟩ := follows_cons.mp allowed
    obtain ⟨-, -, plays⟩ := plays.perform now
    exact ih plays allowed

end Plays

/-! ## Slots in which no station takes part -/

section Skipped

variable {site : Site H} {k : Nat}

omit [Hardware H] in
theorem conclude_ne_skipped (site : Site H) (c : Call) (status : Status) :
    (site.conclude c status).2 ≠ .slot none := by
  rw [conclude]
  split
  · simp
  simp only
  split
  · split <;> simp
  · simp

/-- What comes of a call is not what comes of a slot in which no station takes part. -/
theorem runCall_ne_skipped (begun after : Site H) (c : Call) :
    begun.runCall c ≠ (after, .over (.slot none)) := by
  rw [runCall]
  split
  · simp
  · simp only [ne_eq, Prod.mk.injEq, TaskProgress.over.injEq, not_and]
    exact fun _ => conclude_ne_skipped _ c _

theorem run_skipped {task : Task} {after : Site H}
    (ran : site.run task = (after, .over (.slot none))) :
    ∃ job, task = .slot job ∧ (site.enter job).2 = none ∧ after = (site.enter job).1 := by
  cases task with
  | call c => exact absurd ran (runCall_ne_skipped _ after _)
  | slot job =>
    simp only [run] at ran
    split at ran
    · next entered =>
      refine ⟨job, rfl, ?_⟩
      rw [entered]
      exact ⟨rfl, (Prod.mk.inj ran).1.symm⟩
    · exact absurd ran (runCall_ne_skipped _ after _)

/-- A slot that a device takes no part in changes nothing. -/
theorem enter_untouched {job : SlotJob} (skipped : (site.enter job).2 = none) :
    site.Untouched (site.enter job).1 := by
  rcases (enter_eq_none skipped).2 with same | noted
  · rw [same]
    exact ⟨rfl, rfl, rfl, rfl, rfl, rfl⟩
  · rw [noted]
    exact ⟨rfl, rfl, rfl, rfl, rfl, rfl⟩

theorem poll_skipped (skipped : (poll k site).2 = some (.slot none)) :
    (∃ job, site.task? k = some (.slot job) ∧ (site.enter job).2 = none) ∧
      site.Untouched (poll k site).1 := by
  cases found : site.task? k with
  | none => simp [poll, found] at skipped
  | some task =>
    simp only [poll, found] at skipped ⊢
    split at skipped
    · cases skipped
    · next ran =>
      obtain rfl := Option.some.inj skipped
      obtain ⟨job, rfl, none, rfl⟩ := run_skipped ran
      have same := enter_untouched none
      exact ⟨⟨job, rfl, none⟩, same.stations, same.hardware, same.chain, same.roster, same.queue,
        same.calls⟩

theorem skipped_of_resting {job : SlotJob} (found : site.task? k = some (.slot job))
    (resting : ∀ id s, site.find? job.device = some id → site.stations[id]? = some s →
      s.status.ready = false) : (poll k site).2 = some (.slot none) := by
  cases entered : (site.enter job).2 with
  | some c =>
    obtain ⟨id, s, owned, hs, ready, -⟩ := enter_eq_some entered
    rw [resting id s owned hs] at ready
    cases ready
  | none =>
    obtain ⟨after, same⟩ : ∃ after, site.enter job = (after, none) := ⟨_, Prod.ext rfl entered⟩
    simp only [poll, found, run, same]

end Skipped

/-! ## Every slot -/

/-- Whatever comes of a slot belongs to the round in which it began, under the configuration of that
moment. Nothing comes of it exactly if the device has no station that is ready. -/
theorem slot_of_one_round (hardware : H) (before : List (Action H)) (k : Nat) :
    (∀ job id s rest,
      (({ hardware } : Site H).performAll before).task? k = some (.slot job) →
      (({ hardware } : Site H).performAll before).find? job.device = some id →
      (({ hardware } : Site H).performAll before).stations[id]? = some s →
      s.status.ready = true →
      (({ hardware } : Site H).performAll (before ++ [.poll k])).follows (during k job.device) rest
        = true →
      ∃ r : UInt32, r.toNat = job.slot.round.toNat / 2 ^ s.config.roundShift ∧
        ∀ first action later, .poll k :: rest = first ++ action :: later →
          ∃ news, Belongs r k id s action (({ hardware } : Site H).performAll (before ++ first))
            (({ hardware } : Site H).performAll (before ++ first ++ [action])) news) ∧
    ((poll k (({ hardware } : Site H).performAll before)).2 = some (.slot none) ↔
      ∃ job, (({ hardware } : Site H).performAll before).task? k = some (.slot job) ∧
        ∀ id s, (({ hardware } : Site H).performAll before).find? job.device = some id →
          (({ hardware } : Site H).performAll before).stations[id]? = some s →
          s.status.ready = false) ∧
    ((poll k (({ hardware } : Site H).performAll before)).2 = some (.slot none) →
      (({ hardware } : Site H).performAll before).Untouched
        (poll k (({ hardware } : Site H).performAll before)).1) := by
  refine ⟨?_, ⟨fun skipped => ?_, ?_⟩, fun skipped => (poll_skipped skipped).2⟩
  · intro job id s rest found owned hs ready allowed
    have sound : s.Sound := (performAll_passes { hardware } before).sound hs
    obtain ⟨-, s', hs', device⟩ := find?_some owned
    obtain rfl := Option.some.inj (hs.symm.trans hs')
    obtain ⟨news, belongs, plays⟩ := plays_of_begins found owned hs ready
      (nodup_pending hardware before) sound
    refine ⟨_, roundNumber_toNat .., fun first action later split => ?_⟩
    cases first with
    | nil =>
      obtain ⟨rfl, -⟩ := List.cons.inj split
      rw [List.append_nil, performAll_append]
      exact ⟨news, belongs⟩
    | cons look first =>
      obtain ⟨rfl, rfl⟩ := List.cons.inj split
      rw [performAll_append, ← device] at allowed
      rw [List.append_assoc, performAll_append, performAll_append]
      exact plays.performAll first allowed
  · obtain ⟨⟨job, found, none⟩, -⟩ := poll_skipped skipped
    exact ⟨job, found, (enter_eq_none none).1⟩
  · rintro ⟨job, found, resting⟩
    exact skipped_of_resting found resting

def firstAnswers : Bench where
  engine := fun _ => { answered := ⟨1#32⟩, distances := [5] }

def reshifted (roundShift : Nat) : Action Bench :=
  .enrol ⟨0, 2, ⟨0x101, 1, 12⟩, { roundShift }, 0⟩

/-- Station 1 of two measures a distance and is about to broadcast it in the last round of a
cycle. -/
def lastTurn : List (Action Bench) :=
  [reshifted 1,
    .start 0 (.call { station := 0, activity := .request, deadline := 0 }), .poll 0,
    .start 1 (.slot { device := 0, kind := .broadcast, slot := ⟨5, 0, 1000, 2, 0⟩, notify := true })]

def upcoming? (site : Site H) (k : Nat) : Option (Nat × UInt32) :=
  match site.task? k with
  | some (.slot job) => some (job.device, job.slot.round)
  | _ => none

omit [Hardware H] in
theorem slot_of_upcoming {site : Site H} {k device : Nat} {round : UInt32}
    (h : site.upcoming? k = some (device, round)) :
    ∃ job, site.task? k = some (.slot job) ∧ job.device = device ∧ job.slot.round = round := by
  simp only [upcoming?] at h
  split at h
  · next job found =>
    obtain ⟨same, round⟩ := Prod.mk.inj (Option.some.inj h)
    exact ⟨job, found, same, round⟩
  · cases h

/-- The configuration changes while the station waits for the end of its transmission, and the note
that it leaves is still of the round in which it has sent. Had the station been dismissed before,
the slot would have changed nothing. -/
theorem slot_of_one_round_reshifted :
    (∃ (r : UInt32) (s : Station), r.toNat = 2 ∧
      ∀ first action later,
        .poll 1 :: [reshifted 3, .raise 0 .sent, .poll 1] = first ++ action :: later →
        ∃ news, Belongs r 1 0 s action
          (({ hardware := firstAnswers } : Site Bench).performAll (lastTurn ++ first))
          (({ hardware := firstAnswers } : Site Bench).performAll (lastTurn ++ first ++ [action]))
          news) ∧
      (({ hardware := firstAnswers } : Site Bench).performAll
        (lastTurn ++ [.poll 1, reshifted 3, .raise 0 .sent, .poll 1])).queue = [⟨0, 2⟩] ∧
      (({ hardware := firstAnswers } : Site Bench).performAll (lastTurn ++ [.dismiss 0])).Untouched
        (poll 1 (({ hardware := firstAnswers } : Site Bench).performAll
          (lastTurn ++ [.dismiss 0]))).1 := by
  have start : ((({ hardware := firstAnswers } : Site Bench).performAll lastTurn).stations[0]?).map
      (fun s => (s.status.ready, s.config.roundShift)) = some (true, 1) := by decide +kernel
  obtain ⟨s, hs, configured⟩ := Option.map_eq_some_iff.mp start
  obtain ⟨ready, shift⟩ := Prod.mk.inj configured
  have upcoming : (({ hardware := firstAnswers } : Site Bench).performAll lastTurn).upcoming? 1 =
      some (0, 5) := by decide +kernel
  obtain ⟨job, found, device, round⟩ := slot_of_upcoming upcoming
  obtain ⟨r, entered, belongs⟩ := (slot_of_one_round firstAnswers lastTurn 1).1 job 0 s
    [reshifted 3, .raise 0 .sent, .poll 1] found (by rw [device]; decide +kernel) hs ready
    (by rw [device]; decide +kernel)
  rw [round, shift] at entered
  obtain ⟨-, skipped, untouched⟩ := slot_of_one_round firstAnswers (lastTurn ++ [.dismiss 0]) 1
  have gone : (poll 1 (({ hardware := firstAnswers } : Site Bench).performAll
      (lastTurn ++ [.dismiss 0]))).2 = some (.slot none) := by decide +kernel
  exact ⟨⟨r, s, entered, belongs⟩, by decide +kernel, untouched gone⟩

end RangeSurvey.Site
