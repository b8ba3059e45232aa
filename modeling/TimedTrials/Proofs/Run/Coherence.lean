/-
  TimedTrials/Proofs/Run/Coherence.lean
  =====================================
  **How the parts of a run fit together.**

  Phase, cursor, trial on screen, feedback and records are separate parts of a run. `Coherent`
  says how they hang together in each phase, and that the records, until they are handed over,
  are those of the trials resolved so far, one for each and in their order. It holds of a new
  run (`coherent_new`) and no operation breaks it (`Coherent.handle`, `Coherent.takeRecords`).
-/
import Mathlib.Data.List.Forall2
import TimedTrials.Proofs.Run.Step

namespace TimedTrials.Run

/-! ### Records of trials -/

/-- The records that a trial can come to: some event answered it while it was on screen. -/
inductive RecordOf (settings : RunSettings) (trial : TrialInstance) : TrialRecord → Prop where
  | answered (token : Token) (onset : Nat) (clock : Clock) {event : RunEvent} {answer : Answer}
      (hanswer : answerTo (arm settings trial token onset) trial clock.now event = .ok answer) :
      RecordOf settings trial (record clock trial onset answer)

/-- A record names the trial that it belongs to. -/
structure Describes (trial : TrialInstance) (entry : TrialRecord) : Prop where
  sequencePosition : entry.outcome.sequencePosition = trial.sequencePosition
  block : entry.outcome.block = trial.spec.block
  repetition : entry.outcome.repetition = trial.repetition
  grouping : entry.outcome.grouping = trial.grouping
  stimulus : entry.outcome.stimulus = trial.spec.stimulus
  correctResponse : entry.outcome.correctResponse = trial.spec.correctResponse

theorem RecordOf.describes {settings : RunSettings} {trial : TrialInstance} {entry : TrialRecord}
    (h : RecordOf settings trial entry) : Describes trial entry := by
  cases h with
  | answered => exact ⟨rfl, rfl, rfl, rfl, rfl, rfl⟩

/-! ### The invariant -/

/-- How many trials of a run have been resolved. -/
def resolvedCount (r : Run) : Nat :=
  match r.phase with
  | .idle => 0
  | .presenting => r.cursor
  | .resolved => r.cursor + 1
  | .finished => r.trials.length

/-- The trial at the cursor is on screen, with the timers that were set up at its onset. -/
def Presenting (r : Run) : Prop :=
  ∃ trial onset, r.trials[r.cursor]? = some trial ∧
    r.active = some (arm r.settings trial ⟨r.cursor, r.generation⟩ onset) ∧ r.shown = none

/-- The feedback after the trial at the cursor is on screen. -/
def Resolved (r : Run) : Prop :=
  ∃ trial feedback, r.trials[r.cursor]? = some trial ∧ r.active = none ∧
    r.shown = some feedback ∧ feedback.token = ⟨r.cursor, r.generation⟩

/-- How the parts of a run fit together. -/
structure Coherent (r : Run) : Prop where
  idle : r.phase = .idle → r = Run.new r.trials r.settings
  presenting : r.phase = .presenting → r.Presenting
  resolved : r.phase = .resolved → r.Resolved
  finished : r.phase = .finished → r.active = none ∧ r.shown = none
  records : r.delivered = false →
    List.Forall₂ (RecordOf r.settings) (r.trials.take r.resolvedCount) r.records
  delivered : r.delivered = true → r.phase = .finished ∧ r.records = []

/-- What a run holds in each phase. -/
def PhaseInvariant (r : Run) : Prop :=
  match r.phase with
  | .idle => r.active = none ∧ r.shown = none ∧ r.records = []
  | .presenting =>
    (∃ live, r.active = some live ∧ live.token.position = r.cursor ∧
      live.token.position = r.records.length ∧ live.token.position < r.trials.length) ∧
      r.shown = none
  | .resolved =>
    r.active = none ∧ (∃ feedback, r.shown = some feedback ∧ feedback.token.position = r.cursor) ∧
      r.records.length = r.cursor + 1
  | .finished => r.active = none ∧ r.shown = none

theorem coherent_new (trials : List TrialInstance) (settings : RunSettings) :
    (Run.new trials settings).Coherent where
  idle _ := rfl
  presenting h := nomatch h
  resolved h := nomatch h
  finished h := nomatch h
  records _ := by simp [Run.new, resolvedCount]
  delivered h := nomatch h

variable {r : Run} {clock : Clock}

/-- Records can only have been handed over at the end. -/
theorem Coherent.not_delivered (h : r.Coherent) (hphase : r.phase ≠ .finished) :
    r.delivered = false := by
  by_contra hdelivered
  exact hphase (h.delivered (by simpa using hdelivered)).1

theorem Coherent.cursor_lt (h : r.Coherent) (hphase : r.phase.isRunning = true) :
    r.cursor < r.trials.length := by
  have hcursor : ∃ trial, r.trials[r.cursor]? = some trial := by
    cases hp : r.phase with
    | idle => rw [hp] at hphase; exact absurd hphase (by decide)
    | presenting => exact (h.presenting hp).imp fun _ ⟨_, htrial, _⟩ => htrial
    | resolved => exact (h.resolved hp).imp fun _ ⟨_, htrial, _⟩ => htrial
    | finished => rw [hp] at hphase; exact absurd hphase (by decide)
  obtain ⟨trial, htrial⟩ := hcursor
  exact (List.getElem?_eq_some_iff.mp htrial).1

theorem Coherent.resolvedCount_le (h : r.Coherent) : r.resolvedCount ≤ r.trials.length := by
  have hcursor := h.cursor_lt
  cases hp : r.phase <;> simp only [resolvedCount, hp, Phase.isRunning] at hcursor ⊢
  · exact Nat.zero_le _
  · exact Nat.le_of_lt (hcursor trivial)
  · exact hcursor trivial
  · exact Nat.le_refl _

/-- Until they are handed over there are as many records as resolved trials. -/
theorem Coherent.length_records (h : r.Coherent) (hdelivered : r.delivered = false) :
    r.records.length = r.resolvedCount := by
  have hlength := (h.records hdelivered).length_eq
  rw [List.length_take_of_le h.resolvedCount_le] at hlength
  exact hlength.symm

theorem Coherent.phaseInvariant (h : r.Coherent) : r.PhaseInvariant := by
  unfold PhaseInvariant
  cases hp : r.phase with
  | idle =>
    rw [h.idle hp]
    exact ⟨rfl, rfl, rfl⟩
  | presenting =>
    have hlt := h.cursor_lt (by rw [hp]; rfl)
    have hlength := h.length_records (h.not_delivered (by rw [hp]; decide))
    simp only [resolvedCount, hp] at hlength
    obtain ⟨trial, onset, _, hactive, hshown⟩ := h.presenting hp
    exact ⟨⟨_, hactive, rfl, hlength.symm, hlt⟩, hshown⟩
  | resolved =>
    have hlength := h.length_records (h.not_delivered (by rw [hp]; decide))
    simp only [resolvedCount, hp] at hlength
    obtain ⟨trial, feedback, _, hactive, hshown, htoken⟩ := h.resolved hp
    exact ⟨hactive, ⟨feedback, hshown, by rw [htoken]⟩, hlength⟩
  | finished => exact h.finished hp

/-- Whatever token is in use names a trial of the run. -/
theorem Coherent.token_lt (h : r.Coherent) {token : Token}
    (htoken : r.token? = some token ∨ r.shown.map (·.token) = some token) :
    token.position < r.trials.length := by
  cases hp : r.phase with
  | idle =>
    rw [h.idle hp] at htoken
    rcases htoken with htoken | htoken <;> cases htoken
  | presenting =>
    obtain ⟨trial, onset, _, hactive, hshown⟩ := h.presenting hp
    simp only [token?, hactive, hshown, Option.map_some, Option.map_none, Option.some.injEq,
      reduceCtorEq, or_false] at htoken
    rw [← htoken]
    exact h.cursor_lt (by rw [hp]; rfl)
  | resolved =>
    obtain ⟨trial, feedback, _, hactive, hshown, hfeedback⟩ := h.resolved hp
    simp only [token?, hactive, hshown, Option.map_some, Option.map_none, Option.some.injEq,
      reduceCtorEq, false_or] at htoken
    rw [← htoken, hfeedback]
    exact h.cursor_lt (by rw [hp]; rfl)
  | finished =>
    obtain ⟨hactive, hshown⟩ := h.finished hp
    simp only [token?, hactive, hshown, Option.map_none, reduceCtorEq, or_false] at htoken

theorem Coherent.token?_of_presenting (h : r.Coherent) (hphase : r.phase = .presenting) :
    r.token? = some ⟨r.cursor, r.generation⟩ := by
  obtain ⟨trial, onset, _, hactive, _⟩ := h.presenting hphase
  rw [token?, hactive]
  rfl

theorem Coherent.presenting_of_token? (h : r.Coherent) {token : Token}
    (htoken : r.token? = some token) : r.phase = .presenting := by
  cases hphase : r.phase with
  | presenting => rfl
  | idle =>
    rw [h.idle hphase] at htoken
    cases htoken
  | resolved =>
    obtain ⟨_, _, _, hactive, _⟩ := h.resolved hphase
    rw [token?, hactive] at htoken
    cases htoken
  | finished =>
    rw [token?, (h.finished hphase).1] at htoken
    cases htoken

theorem Coherent.resolved_of_shown (h : r.Coherent) {token : Token}
    (htoken : r.shown.map (·.token) = some token) :
    r.phase = .resolved ∧ token = ⟨r.cursor, r.generation⟩ := by
  cases hphase : r.phase with
  | resolved =>
    obtain ⟨_, feedback, _, _, hshown, hfeedback⟩ := h.resolved hphase
    rw [hshown, Option.map_some, Option.some.injEq] at htoken
    exact ⟨rfl, htoken.symm.trans hfeedback⟩
  | idle =>
    rw [h.idle hphase] at htoken
    cases htoken
  | presenting =>
    obtain ⟨_, _, _, _, hshown⟩ := h.presenting hphase
    rw [hshown] at htoken
    cases htoken
  | finished =>
    rw [(h.finished hphase).2] at htoken
    cases htoken

/-- The trial that an event can answer is the one at the cursor. -/
theorem Coherent.live (h : r.Coherent) {live : LiveTrial} {trial : TrialInstance}
    (hphase : r.phase = .presenting) (hlive : r.live? = some (live, trial)) :
    r.trials[r.cursor]? = some trial ∧
      ∃ onset, live = arm r.settings trial ⟨r.cursor, r.generation⟩ onset := by
  obtain ⟨hactive, htrial⟩ := live?_eq_some_iff.mp hlive
  obtain ⟨other, onset, hother, harm, _⟩ := h.presenting hphase
  obtain rfl : arm r.settings other ⟨r.cursor, r.generation⟩ onset = live :=
    Option.some.inj (harm.symm.trans hactive)
  obtain rfl : other = trial := Option.some.inj (hother.symm.trans htrial)
  exact ⟨hother, onset, rfl⟩

/-! ### The operations -/

/-- Bringing up a trial is all right when just the trials before it have been recorded. -/
theorem coherent_present {position : Nat} (hposition : position ≤ r.trials.length)
    (hdelivered : r.delivered = false)
    (hrecords : List.Forall₂ (RecordOf r.settings) (r.trials.take position) r.records) :
    (r.present clock position).run.Coherent := by
  -- behind the last trial the run is over, and then the trials before it are all there are
  rcases Nat.lt_or_eq_of_le hposition with hlt | heq
  · have htrial := List.getElem?_eq_getElem hlt
    rw [present_run_of_some htrial]
    exact {
      idle := fun h => nomatch h
      presenting := fun _ => ⟨_, _, htrial, rfl, rfl⟩
      resolved := fun h => nomatch h
      finished := fun h => nomatch h
      records := fun _ => hrecords
      delivered := fun h => absurd (hdelivered.symm.trans h) (by decide) }
  · rw [present_run_of_length_le (Nat.le_of_eq heq.symm)]
    exact {
      idle := fun h => nomatch h
      presenting := fun h => nomatch h
      resolved := fun h => nomatch h
      finished := fun _ => ⟨rfl, rfl⟩
      records := fun _ => by rw [heq] at hrecords; exact hrecords
      delivered := fun h => absurd (hdelivered.symm.trans h) (by decide) }

/-- A trial that is resolved adds its record behind those of the trials before it. -/
theorem Coherent.records_recorded (h : r.Coherent) (hphase : r.phase = .presenting)
    {trial : TrialInstance} {entry : TrialRecord} (htrial : r.trials[r.cursor]? = some trial)
    (hentry : RecordOf r.settings trial entry) :
    List.Forall₂ (RecordOf r.settings) (r.trials.take (r.cursor + 1)) (r.records ++ [entry]) := by
  have hbefore := h.records (h.not_delivered (by rw [hphase]; decide))
  simp only [resolvedCount, hphase] at hbefore
  rw [List.take_add_one, htrial]
  exact List.rel_append hbefore (.cons hentry .nil)

theorem Coherent.resolve (h : r.Coherent) {event : RunEvent} {live : LiveTrial}
    {trial : TrialInstance} {answer : Answer} (hphase : r.phase = .presenting)
    (hlive : r.live? = some (live, trial))
    (hanswer : answerTo live trial clock.now event = .ok answer) :
    (r.resolve clock live trial answer).run.Coherent := by
  obtain ⟨htrial, onset, rfl⟩ := h.live hphase hlive
  have hdelivered := h.not_delivered (by rw [hphase]; decide)
  have hrecords := h.records_recorded hphase htrial
    (.answered ⟨r.cursor, r.generation⟩ onset clock hanswer)
  cases hshown : (outcome trial answer).feedbackShown with
  | none =>
    rw [resolve_run_of_no_feedback hshown]
    have hlt : r.cursor < r.trials.length := (List.getElem?_eq_some_iff.mp htrial).1
    exact coherent_present hlt hdelivered hrecords
  | some message =>
    rw [resolve_run_of_feedback hshown]
    exact {
      idle := fun h => nomatch h
      presenting := fun h => nomatch h
      resolved := fun _ => ⟨trial, _, htrial, rfl, rfl, rfl⟩
      finished := fun h => nomatch h
      records := fun _ => hrecords
      delivered := fun h => absurd (hdelivered.symm.trans h) (by decide) }

theorem Coherent.accepts (h : r.Coherent) {event : RunEvent} {r' : Run}
    (haccepts : Accepts clock r event r') : r'.Coherent := by
  cases haccepts with
  | start hphase =>
    have hnew := h.idle hphase
    refine coherent_present (Nat.zero_le _) ?_ ?_
    · rw [hnew]; rfl
    · rw [hnew]; exact .nil
  | answer hphase hlive hanswer => exact h.resolve hphase hlive hanswer
  | elapsed hphase hshown =>
    obtain ⟨trial, _, htrial, _⟩ := h.resolved hphase
    have hdelivered := h.not_delivered (by rw [hphase]; decide)
    have hrecords := h.records hdelivered
    simp only [resolvedCount, hphase] at hrecords
    exact coherent_present (List.getElem?_eq_some_iff.mp htrial).1 hdelivered hrecords

theorem Coherent.handle (h : r.Coherent) (clock : Clock) (event : RunEvent) :
    (r.handle clock event).run.Coherent := by
  rcases handle_cases r clock event with ⟨_, hrun⟩ | ⟨_, haccepts⟩
  · rw [hrun]
    exact h
  · exact h.accepts haccepts

/-! ### Handing over the records -/

/-- Records are handed over at the end only, and only once. -/
theorem takeRecords_cases (r : Run) :
    (r.takeRecords = (none, r) ∧ (r.phase = .finished → r.delivered = true)) ∨
      (r.phase = .finished ∧ r.delivered = false ∧
        r.takeRecords = (some r.records, { r with records := [], delivered := true })) := by
  unfold takeRecords
  cases hphase : r.phase <;> cases hdelivered : r.delivered <;> simp [Phase.isFinished]

theorem Coherent.takeRecords (h : r.Coherent) : r.takeRecords.2.Coherent := by
  rcases takeRecords_cases r with ⟨htake, _⟩ | ⟨hphase, _, htake⟩
  · rw [htake]
    exact h
  · rw [htake]
    exact {
      idle := fun hidle => absurd (hphase.symm.trans hidle) (by decide)
      presenting := fun hidle => absurd (hphase.symm.trans hidle) (by decide)
      resolved := fun hidle => absurd (hphase.symm.trans hidle) (by decide)
      finished := h.finished
      records := fun h => nomatch h
      delivered := fun _ => ⟨hphase, rfl⟩ }

end TimedTrials.Run
