/-
  TimedTrials/Proofs/Run/Step.lean
  ================================
  **What one event can do to a run.**

  An event is refused and leaves the run as it is, or it is accepted in one of three ways:
  the start presents the first trial, an answer resolves the trial on screen, and the end of
  feedback brings up the next trial. `handle_cases` says that nothing else can happen, so that
  whatever is to hold of every step is proved by three cases and never by opening `handle`.
-/
import TimedTrials.Run.Handle

namespace TimedTrials.Run

variable {r : Run} {clock : Clock} {event : RunEvent}

/-! ### The trial on screen -/

theorem live?_eq_some_iff {live : LiveTrial} {trial : TrialInstance} :
    r.live? = some (live, trial) ↔
      r.active = some live ∧ r.trials[live.token.position]? = some trial := by
  simp only [live?, Option.bind_eq_some_iff, Option.map_eq_some_iff, Prod.mk.injEq]
  constructor
  · rintro ⟨_, hactive, _, htrial, rfl, rfl⟩
    exact ⟨hactive, htrial⟩
  · rintro ⟨hactive, htrial⟩
    exact ⟨live, hactive, trial, htrial, rfl, rfl⟩

/-! ### Presenting -/

/-- The run in which a trial has just come on screen. -/
def shows (r : Run) (clock : Clock) (position : Nat) (trial : TrialInstance) : Run :=
  { r with
    phase := .presenting
    cursor := position
    generation := r.generation + 1
    active := some (arm r.settings trial ⟨position, r.generation + 1⟩ clock.now)
    shown := none }

/-- The run in which nothing is left to present. -/
def finished (r : Run) : Run := { r with phase := .finished, active := none, shown := none }

theorem present_run_of_some {position : Nat} {trial : TrialInstance}
    (h : r.trials[position]? = some trial) :
    (r.present clock position).run = r.shows clock position trial := by
  simp only [present, h, shows]

theorem present_run_of_length_le {position : Nat} (h : r.trials.length ≤ position) :
    (r.present clock position).run = r.finished := by
  simp only [present, List.getElem?_eq_none h, finish, finished]

theorem present_phase (r : Run) (clock : Clock) (position : Nat) :
    (r.present clock position).run.phase = .presenting ∨
      (r.present clock position).run.phase = .finished := by
  unfold present
  split
  · exact Or.inr rfl
  · exact Or.inl rfl

theorem present_records (r : Run) (clock : Clock) (position : Nat) :
    (r.present clock position).run.records = r.records := by
  unfold present
  split <;> rfl

theorem present_shown (r : Run) (clock : Clock) (position : Nat) :
    (r.present clock position).run.shown = none := by
  unfold present
  split <;> rfl

@[simp] theorem present_accepted (r : Run) (clock : Clock) (position : Nat) :
    (r.present clock position).accepted = true := by
  unfold present
  split <;> rfl

@[simp] theorem advance_accepted (r : Run) (clock : Clock) : (r.advance clock).accepted = true :=
  present_accepted r clock _

/-! ### Resolving -/

/-- The run without its trial on screen, which has been recorded. -/
def recorded (r : Run) (entry : TrialRecord) : Run :=
  { r with active := none, records := r.records ++ [entry] }

/-- The run in which feedback has just come on screen. -/
def showsFeedback (r : Run) (feedback : ShownFeedback) : Run :=
  { r with phase := .resolved, shown := some feedback }

variable {live : LiveTrial} {trial : TrialInstance} {answer : Answer}

theorem resolve_run_of_feedback {message : String}
    (h : (outcome trial answer).feedbackShown = some message) :
    (r.resolve clock live trial answer).run =
      (r.recorded (record clock trial live.onset answer)).showsFeedback
        (feedbackAfter r.settings trial live.token clock.now message) := by
  have hentry : (record clock trial live.onset answer).outcome.feedbackShown = some message := h
  simp only [resolve, hentry, recorded, showsFeedback]

theorem resolve_run_of_no_feedback (h : (outcome trial answer).feedbackShown = none) :
    (r.resolve clock live trial answer).run =
      ((r.recorded (record clock trial live.onset answer)).advance clock).run := by
  have hentry : (record clock trial live.onset answer).outcome.feedbackShown = none := h
  simp only [resolve, hentry, recorded]

@[simp] theorem resolve_accepted (r : Run) (clock : Clock) (live : LiveTrial)
    (trial : TrialInstance) (answer : Answer) :
    (r.resolve clock live trial answer).accepted = true := by
  unfold resolve
  simp only
  split
  · rfl
  · exact advance_accepted _ clock

/-- A trial that is resolved is recorded, whatever comes on screen after it. -/
theorem resolve_records (r : Run) (clock : Clock) (live : LiveTrial) (trial : TrialInstance)
    (answer : Answer) : (r.resolve clock live trial answer).run.records =
      r.records ++ [record clock trial live.onset answer] := by
  cases hshown : (outcome trial answer).feedbackShown with
  | none =>
    rw [resolve_run_of_no_feedback hshown, advance, present_records]
    rfl
  | some message =>
    rw [resolve_run_of_feedback hshown]
    rfl

/-! ### Answers -/

/-- The events that answer the trial on screen, each with its answer: one of its keys while keys
    are taken, a text where one is asked for, and its own timeout. -/
inductive Answers (live : LiveTrial) (trial : TrialInstance) (now : Nat) : RunEvent → Answer → Prop
    where
  | key {name : String} (hopen : keysClosed live now = false)
      (hkey : trial.spec.response.acceptsKey name = true) :
      Answers live trial now (.key name) (.key (Key.normal name))
  | text {value : String} (htext : trial.spec.response.isText = true) :
      Answers live trial now (.textSubmitted value) (.text value)
  | timeout : Answers live trial now (.timeout live.token) .timeout

/-- Nothing else answers a trial. -/
theorem answers_of_answerTo {now : Nat} (h : answerTo live trial now event = .ok answer) :
    Answers live trial now event answer := by
  cases event with
  | start => cases h
  | feedbackElapsed token => cases h
  | key name =>
    simp only [answerTo] at h
    split at h
    · cases h
    · rename_i hopen
      split at h
      · rename_i hkey
        cases h
        exact .key (by simpa using hopen) hkey
      · cases h
  | textSubmitted text =>
    simp only [answerTo] at h
    split at h
    · rename_i htext
      cases h
      exact .text htext
    · cases h
  | timeout token =>
    simp only [answerTo] at h
    split at h
    · rename_i htoken
      cases h
      rw [htoken]
      exact .timeout
    · cases h

/-! ### Events -/

/-- The ways in which an event is accepted, each with the run after it. -/
inductive Accepts (clock : Clock) (r : Run) : RunEvent → Run → Prop where
  | start (hphase : r.phase = .idle) :
      Accepts clock r .start ({ r with startedAt := some clock.wall }.present clock 0).run
  | answer {event : RunEvent} {live : LiveTrial} {trial : TrialInstance} {answer : Answer}
      (hphase : r.phase = .presenting) (hlive : r.live? = some (live, trial))
      (hanswer : answerTo live trial clock.now event = .ok answer) :
      Accepts clock r event (r.resolve clock live trial answer).run
  | elapsed {feedback : ShownFeedback} (hphase : r.phase = .resolved)
      (hshown : r.shown = some feedback) :
      Accepts clock r (.feedbackElapsed feedback.token) ({ r with shown := none }.advance clock).run

theorem Accepts.phase_ne_finished {r' : Run} (h : Accepts clock r event r') :
    r.phase ≠ .finished := by
  cases h with
  | start hphase =>
    rw [hphase]
    decide
  | answer hphase =>
    rw [hphase]
    decide
  | elapsed hphase =>
    rw [hphase]
    decide

/-- **Everything an event can do.** It is refused and the run stays as it is, or it is accepted
    in one of the three ways. -/
theorem handle_cases (r : Run) (clock : Clock) (event : RunEvent) :
    ((r.handle clock event).accepted = false ∧ (r.handle clock event).run = r) ∨
      ((r.handle clock event).accepted = true ∧
        Accepts clock r event (r.handle clock event).run) := by
  unfold handle
  -- one case for each line of `handle`: the start, an answer, the end of feedback, anything else
  split
  · rename_i hphase
    exact Or.inr ⟨present_accepted _ _ _, .start hphase⟩
  · rename_i hphase
    split
    · rename_i live trial hlive
      split
      · rename_i answer hanswer
        exact Or.inr ⟨resolve_accepted _ _ _ _ _, .answer hphase hlive hanswer⟩
      · exact Or.inl ⟨rfl, rfl⟩
    · exact Or.inl ⟨rfl, rfl⟩
  · rename_i token hphase
    split
    · rename_i htoken
      obtain ⟨feedback, hshown, rfl⟩ := Option.map_eq_some_iff.mp htoken
      exact Or.inr ⟨advance_accepted _ _, .elapsed hphase hshown⟩
    · exact Or.inl ⟨rfl, rfl⟩
  · exact Or.inl ⟨rfl, rfl⟩

theorem accepts_of_accepted (h : (r.handle clock event).accepted = true) :
    Accepts clock r event (r.handle clock event).run := by
  rcases handle_cases r clock event with ⟨hrefused, _⟩ | ⟨_, haccepts⟩
  · rw [h] at hrefused
    exact absurd hrefused (by decide)
  · exact haccepts

/-! ### What no event changes -/

/-- One run goes on from another: the trials, the settings and whether the records have been
    handed over are the same. -/
structure GoesOn (r r' : Run) : Prop where
  trials : r'.trials = r.trials
  settings : r'.settings = r.settings
  delivered : r'.delivered = r.delivered

theorem goesOn_present (r : Run) (clock : Clock) (position : Nat) :
    GoesOn r (r.present clock position).run := by
  unfold present
  split <;> exact ⟨rfl, rfl, rfl⟩

theorem goesOn_resolve (r : Run) (clock : Clock) (live : LiveTrial) (trial : TrialInstance)
    (answer : Answer) : GoesOn r (r.resolve clock live trial answer).run := by
  cases hshown : (outcome trial answer).feedbackShown with
  | none =>
    rw [resolve_run_of_no_feedback hshown]
    obtain ⟨htrials, hsettings, hdelivered⟩ :=
      goesOn_present (r.recorded (record clock trial live.onset answer)) clock (r.cursor + 1)
    exact ⟨htrials, hsettings, hdelivered⟩
  | some message =>
    rw [resolve_run_of_feedback hshown]
    exact ⟨rfl, rfl, rfl⟩

theorem Accepts.goesOn {r' : Run} (h : Accepts clock r event r') : GoesOn r r' := by
  cases h with
  | start =>
    obtain ⟨htrials, hsettings, hdelivered⟩ :=
      goesOn_present { r with startedAt := some clock.wall } clock 0
    exact ⟨htrials, hsettings, hdelivered⟩
  | answer => exact goesOn_resolve _ _ _ _ _
  | elapsed =>
    obtain ⟨htrials, hsettings, hdelivered⟩ :=
      goesOn_present { r with shown := none } clock (r.cursor + 1)
    exact ⟨htrials, hsettings, hdelivered⟩

/-- Records are only ever added behind those that there are. -/
theorem Accepts.records_prefix {r' : Run} (h : Accepts clock r event r') :
    r.records <+: r'.records := by
  cases h with
  | start => simp only [present_records, List.prefix_rfl]
  | answer =>
    rw [resolve_records]
    exact List.prefix_append _ _
  | elapsed => simp only [advance, present_records, List.prefix_rfl]

theorem goesOn_handle (r : Run) (clock : Clock) (event : RunEvent) :
    GoesOn r (r.handle clock event).run := by
  rcases handle_cases r clock event with ⟨_, hrun⟩ | ⟨_, haccepts⟩
  · rw [hrun]
    exact ⟨rfl, rfl, rfl⟩
  · exact haccepts.goesOn

end TimedTrials.Run
