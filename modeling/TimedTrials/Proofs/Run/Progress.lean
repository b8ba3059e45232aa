/-
  TimedTrials/Proofs/Run/Progress.lean
  ====================================
  **What a run waits for, and how far it is from its end.**

  The next deadline and the timer that is due say the same thing in two ways
  (`due_eq_none_iff`), and a timer that is due is accepted (`Coherent.due_accepted`). A run
  under way waits without a deadline only for the answer to a trial that has no latency
  (`Coherent.nextDeadline_eq_none_iff`). Every accepted event brings the run closer to its end:
  `pending` bounds the events that it can still accept.
-/
import TimedTrials.Proofs.Run.Coherence

namespace TimedTrials.Run

variable {r : Run} {clock : Clock} {event : RunEvent}

/-! ### Timers -/

theorem nextDeadline_of_active {live : LiveTrial} (hphase : r.phase = .presenting)
    (hactive : r.active = some live) : r.nextDeadline = live.deadline := by
  simp only [nextDeadline, hphase, hactive, Option.bind_some]

theorem nextDeadline_of_shown {feedback : ShownFeedback} (hphase : r.phase = .resolved)
    (hshown : r.shown = some feedback) : r.nextDeadline = some feedback.holdUntil := by
  simp only [nextDeadline, hphase, hshown, Option.map_some]

/-- There is a deadline only while something is on screen. -/
theorem isRunning_of_nextDeadline {deadline : Nat} (h : r.nextDeadline = some deadline) :
    r.phase.isRunning = true := by
  cases hphase : r.phase with
  | idle => simp only [nextDeadline, hphase, reduceCtorEq] at h
  | finished => simp only [nextDeadline, hphase, reduceCtorEq] at h
  | presenting => rfl
  | resolved => rfl

/-- Deadlines are cut off at the largest reading, so that a clock can come to each of them. -/
theorem Coherent.nextDeadline_le (h : r.Coherent)
    (hreach : ∀ feedback, r.shown = some feedback → feedback.holdUntil ≤ Duration.limit)
    {deadline : Nat} (hdeadline : r.nextDeadline = some deadline) :
    deadline ≤ Duration.limit := by
  have hrunning := isRunning_of_nextDeadline hdeadline
  cases hphase : r.phase with
  | idle => rw [hphase] at hrunning; exact absurd hrunning (by decide)
  | finished => rw [hphase] at hrunning; exact absurd hrunning (by decide)
  | presenting =>
    obtain ⟨trial, onset, _, hactive, _⟩ := h.presenting hphase
    rw [nextDeadline_of_active hphase hactive] at hdeadline
    obtain ⟨ms, _, rfl⟩ := Option.map_eq_some_iff.mp hdeadline
    exact Nat.min_le_right _ _
  | resolved =>
    obtain ⟨_, feedback, _, _, hshown, _⟩ := h.resolved hphase
    obtain rfl := Option.some.inj ((nextDeadline_of_shown hphase hshown).symm.trans hdeadline)
    exact hreach feedback hshown

/-- Nothing is due just as long as the next deadline, if there is one, lies ahead. -/
theorem due_eq_none_iff {now : Nat} :
    r.due now = none ↔ ∀ deadline, r.nextDeadline = some deadline → now < deadline := by
  cases hphase : r.phase with
  | idle => simp only [due, nextDeadline, hphase, reduceCtorEq, false_implies, implies_true]
  | finished => simp only [due, nextDeadline, hphase, reduceCtorEq, false_implies, implies_true]
  | presenting =>
    cases hactive : r.active with
    | none => simp [due, nextDeadline, hphase, hactive]
    | some live => cases hdeadline : live.deadline <;> simp [due, nextDeadline, *]
  | resolved =>
    cases hshown : r.shown with
    | none => simp [due, nextDeadline, hphase, hshown]
    | some feedback => simp [due, nextDeadline, hphase, hshown]

/-- A deadline that has been reached makes its timer due. -/
theorem due_isSome_of_le {now deadline : Nat} (h : r.nextDeadline = some deadline)
    (hle : deadline ≤ now) : (r.due now).isSome = true := by
  rw [Option.isSome_iff_ne_none]
  intro hnone
  exact absurd hle (Nat.not_le.mpr (due_eq_none_iff.mp hnone deadline h))

theorem handle_accepted_of_answer {live : LiveTrial} {trial : TrialInstance} {answer : Answer}
    (hphase : r.phase = .presenting) (hlive : r.live? = some (live, trial))
    (hanswer : answerTo live trial clock.now event = .ok answer) :
    (r.handle clock event).accepted = true := by
  simp only [handle, hphase, hlive, hanswer, resolve_accepted]

theorem handle_accepted_of_elapsed {feedback : ShownFeedback} (hphase : r.phase = .resolved)
    (hshown : r.shown = some feedback) :
    (r.handle clock (.feedbackElapsed feedback.token)).accepted = true := by
  simp only [handle, hphase, hshown, Option.map_some, if_true, advance_accepted]

/-- In the presenting phase the trial at the cursor can be answered. -/
theorem Coherent.live?_eq (h : r.Coherent) (hphase : r.phase = .presenting) :
    ∃ trial onset, r.trials[r.cursor]? = some trial ∧
      r.live? = some (arm r.settings trial ⟨r.cursor, r.generation⟩ onset, trial) := by
  obtain ⟨trial, onset, htrial, hactive, _⟩ := h.presenting hphase
  exact ⟨trial, onset, htrial, live?_eq_some_iff.mpr ⟨hactive, htrial⟩⟩

/-- A timer that is due is accepted whenever it is applied, for its token is the live one. -/
theorem Coherent.due_accepted (h : r.Coherent) {now : Nat} (hdue : r.due now = some event)
    (clock : Clock) : (r.handle clock event).accepted = true := by
  cases hphase : r.phase with
  | idle => simp only [due, hphase, reduceCtorEq] at hdue
  | finished => simp only [due, hphase, reduceCtorEq] at hdue
  | presenting =>
    obtain ⟨trial, onset, _, hlive⟩ := h.live?_eq hphase
    simp only [due, hphase, (live?_eq_some_iff.mp hlive).1, Option.bind_some,
      Option.ite_none_right_eq_some, Option.some.injEq] at hdue
    obtain ⟨_, rfl⟩ := hdue
    refine handle_accepted_of_answer hphase hlive (?_ : _ = Except.ok Answer.timeout)
    simp only [answerTo, if_true]
  | resolved =>
    obtain ⟨trial, feedback, _, _, hshown, _⟩ := h.resolved hphase
    simp only [due, hphase, hshown, Option.bind_some, Option.ite_none_right_eq_some,
      Option.some.injEq] at hdue
    obtain ⟨_, rfl⟩ := hdue
    exact handle_accepted_of_elapsed hphase hshown

/-! ### Waiting without a deadline -/

/-- A trial without a latency is on screen. -/
def Untimed (r : Run) : Prop := ∃ trial, r.current? = some trial ∧ trial.spec.latencyMs = none

theorem Coherent.current?_eq (h : r.Coherent) :
    r.current? = if r.phase = .presenting then r.trials[r.cursor]? else none := by
  cases hphase : r.phase with
  | idle =>
    rw [h.idle hphase]
    rfl
  | presenting =>
    obtain ⟨trial, onset, htrial, hlive⟩ := h.live?_eq hphase
    simp only [current?, hlive, htrial, Option.map_some, if_true]
  | resolved =>
    obtain ⟨_, _, _, hactive, _⟩ := h.resolved hphase
    simp only [current?, live?, hactive, Option.bind_none, Option.map_none, reduceCtorEq, if_false]
  | finished =>
    simp only [current?, live?, (h.finished hphase).1, Option.bind_none, Option.map_none,
      reduceCtorEq, if_false]

theorem Coherent.presenting_of_untimed (h : r.Coherent) (huntimed : r.Untimed) :
    r.phase = .presenting := by
  obtain ⟨trial, hcurrent, _⟩ := huntimed
  rw [h.current?_eq] at hcurrent
  by_contra hphase
  rw [if_neg hphase] at hcurrent
  cases hcurrent

/-- A run under way waits without a deadline just when the trial on screen has no latency. -/
theorem Coherent.nextDeadline_eq_none_iff (h : r.Coherent) (hrunning : r.phase.isRunning = true) :
    r.nextDeadline = none ↔ r.Untimed := by
  cases hphase : r.phase with
  | idle => rw [hphase] at hrunning; exact absurd hrunning (by decide)
  | finished => rw [hphase] at hrunning; exact absurd hrunning (by decide)
  | presenting =>
    obtain ⟨trial, onset, _, hlive⟩ := h.live?_eq hphase
    simp only [nextDeadline_of_active hphase (live?_eq_some_iff.mp hlive).1, arm,
      Option.map_eq_none_iff, Untimed, current?, hlive, Option.map_some, Option.some.injEq,
      exists_eq_left']
  | resolved =>
    obtain ⟨_, feedback, _, _, hshown, _⟩ := h.resolved hphase
    constructor
    · intro hnone
      cases hnone.symm.trans (nextDeadline_of_shown hphase hshown)
    · intro huntimed
      rw [h.presenting_of_untimed huntimed] at hphase
      cases hphase

/-- Nothing is ever due while a trial without a latency is on screen. -/
theorem Coherent.due_of_untimed (h : r.Coherent) (huntimed : r.Untimed) (now : Nat) :
    r.due now = none := by
  have hphase := h.presenting_of_untimed huntimed
  have hdeadline := (h.nextDeadline_eq_none_iff (by rw [hphase]; rfl)).mpr huntimed
  rw [due_eq_none_iff]
  intro deadline hsome
  cases hdeadline.symm.trans hsome

/-! ### The way to the end -/

/-- How many events a run can still accept at most: one for the start, and for each trial one
    for its answer and one for the end of its feedback. -/
def pending (r : Run) : Nat :=
  match r.phase with
  | .idle => 2 * r.trials.length + 1
  | .presenting => 2 * (r.trials.length - r.cursor)
  | .resolved => 2 * (r.trials.length - r.cursor) - 1
  | .finished => 0

theorem pending_present {position : Nat} (h : position ≤ r.trials.length) :
    (r.present clock position).run.pending = 2 * (r.trials.length - position) := by
  rcases Nat.lt_or_eq_of_le h with hlt | heq
  · rw [present_run_of_some (List.getElem?_eq_getElem hlt)]
    rfl
  · rw [present_run_of_length_le (Nat.le_of_eq heq.symm), heq, Nat.sub_self]
    rfl

/-- Every accepted event brings a run closer to its end. -/
theorem Coherent.pending_accepts (h : r.Coherent) {r' : Run}
    (haccepts : Accepts clock r event r') : r'.pending < r.pending := by
  -- the start costs the one event it counts for, an answer and an end of feedback one each
  cases haccepts with
  | start hphase =>
    have hpresent : (({ r with startedAt := some clock.wall }).present clock 0).run.pending =
        2 * (r.trials.length - 0) := pending_present (Nat.zero_le _)
    rw [hpresent]
    simp only [pending, hphase, Nat.sub_zero]
    exact Nat.lt_succ_self _
  | @answer _ live trial answer hphase hlive hanswer =>
    have hlt := h.cursor_lt (by rw [hphase]; rfl)
    cases hshown : (outcome trial answer).feedbackShown with
    | none =>
      have hpresent : ((r.recorded (record clock trial live.onset answer)).present clock
          (r.cursor + 1)).run.pending = 2 * (r.trials.length - (r.cursor + 1)) :=
        pending_present hlt
      rw [resolve_run_of_no_feedback hshown, advance]
      refine Nat.lt_of_le_of_lt (Nat.le_of_eq hpresent) ?_
      simp only [pending, hphase]
      omega
    | some message =>
      rw [resolve_run_of_feedback hshown]
      simp only [pending, hphase, showsFeedback, recorded]
      omega
  | elapsed hphase hshown =>
    have hlt := h.cursor_lt (by rw [hphase]; rfl)
    have hpresent : (({ r with shown := none }).present clock (r.cursor + 1)).run.pending =
        2 * (r.trials.length - (r.cursor + 1)) := pending_present hlt
    rw [advance]
    refine Nat.lt_of_le_of_lt (Nat.le_of_eq hpresent) ?_
    simp only [pending, hphase]
    omega

theorem Coherent.pending_handle_le (h : r.Coherent) (clock : Clock) (event : RunEvent) :
    (r.handle clock event).run.pending ≤ r.pending := by
  rcases handle_cases r clock event with ⟨_, hrun⟩ | ⟨_, haccepts⟩
  · exact Nat.le_of_eq (by rw [hrun])
  · exact Nat.le_of_lt (h.pending_accepts haccepts)

/-- A run under way never becomes idle again. -/
theorem Accepts.phase_ne_idle {r' : Run} (h : Accepts clock r event r') : r'.phase ≠ .idle := by
  have hpresent : ∀ (r : Run) (position : Nat), (r.present clock position).run.phase ≠ .idle := by
    intro r position
    unfold present
    split <;> exact fun h => nomatch h
  cases h with
  | start => exact hpresent _ _
  | @answer _ live trial answer =>
    cases hshown : (outcome trial answer).feedbackShown with
    | none =>
      rw [resolve_run_of_no_feedback hshown]
      exact hpresent _ _
    | some message =>
      rw [resolve_run_of_feedback hshown]
      exact fun h => nomatch h
  | elapsed => exact hpresent _ _

end TimedTrials.Run
