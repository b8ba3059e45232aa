/-
  TimedTrials/Proofs/Run/Unstuck.lean
  ===================================
  **No run gets stuck.**

  A sound row reads as a trial that can end: one without a latency takes a text or some key
  (`AuthoredRow.Sound.canEnd`), for a key list never reads as an empty one and every authored key
  is its own answer. On screen such a trial never closes its key window, since windows are only
  set up beside a deadline. A run of trials that can end therefore always has a way on
  (`Coherent.movesOn_or_awaitsAnswer`), and so has every run of accepted rows, whatever has
  happened to it (`history_unstuck`).
-/
import TimedTrials.Proofs.Run.Deadlines
import TimedTrials.Proofs.Sequence.Origin
import TimedTrials.Proofs.Trial.KeyNames

namespace TimedTrials

/-! ### Trials that can end -/

/-- A trial that does not end by its latency takes a text or some key. -/
def TrialSpec.CanEnd (spec : TrialSpec) : Prop :=
  spec.latencyMs = none →
    spec.response.isText = true ∨ ∃ key, spec.response.acceptsKey key = true

namespace Response

/-- An authored key is an answer, however it is spelled. -/
theorem acceptsKey_authored {tokens : List String} {key : String} (h : key ∈ tokens) :
    (Response.keys tokens).acceptsKey key = true :=
  acceptsKey_iff.mpr ⟨key, h, rfl⟩

/-- A key list names some key, or it is no response at all. -/
theorem ofKeys_cases (tokens : List String) :
    ofKeys tokens = .none ∨ ∃ key, (ofKeys tokens).acceptsKey key = true := by
  cases tokens with
  | nil => exact Or.inl rfl
  | cons key rest => exact Or.inr ⟨key, acceptsKey_authored List.mem_cons_self⟩

/-- A cell reads as no response at all, as a text entry, or as keys of which one is taken. -/
theorem read_cases (raw : String) :
    (read raw).value = .none ∨ (read raw).value.isText = true ∨
      ∃ key, (read raw).value.acceptsKey key = true := by
  simp only [read]
  split
  · exact Or.inl rfl
  · split
    · exact Or.inr (Or.inl rfl)
    · have hkeys := ofKeys_cases ((TextEntry.tokens (Text.trimChars raw.toList)).map String.ofList)
      simp only
      exact hkeys.imp_right Or.inr

end Response

/-- What the check of latency and response is for. -/
theorem AuthoredRow.Sound.canEnd {options : ValidationOptions} {first : Bool}
    {raw : AuthoredRow} (h : raw.Sound options first) (row : Nat) :
    (raw.cellsTrial row).CanEnd := by
  intro hlatency
  have hresponse : (raw.cellsTrial row).response = (Response.read raw.response).value := rfl
  rw [hresponse]
  rcases Response.read_cases raw.response with hnone | hanswer
  · -- without a response there is a latency cell to read, and it reads
    have hna := h.ends hnone
    rcases h.latency with hmissing | ⟨ms, hms⟩
    · cases hna.symm.trans hmissing
    · have hread : (raw.cellsTrial row).latencyMs = some ms := by
        simp only [cellsTrial, trial, hna, Bool.false_eq_true, if_false, hms]
      cases hlatency.symm.trans hread
  · exact hanswer

namespace Run

/-- A timer moves the run on: there is a next deadline that a clock can come to, and once it has
    been reached an event is due, none of the participant's, that is accepted and brings the run
    closer to its end. -/
def MovesOn (r : Run) : Prop :=
  ∃ deadline, r.nextDeadline = some deadline ∧ deadline ≤ Duration.limit ∧
    ∀ clock : Clock, deadline ≤ clock.now → ∃ event, r.due clock.now = some event ∧
      event.isInput = false ∧ (r.handle clock event).accepted = true ∧
      (r.handle clock event).run.pending < r.pending

/-- The trial on screen has no latency, and there is a key or a text that it takes at every
    reading of the clock. -/
def AwaitsAnswer (r : Run) : Prop :=
  ∃ trial event, r.current? = some trial ∧ trial.spec.latencyMs = none ∧
    event.isInput = true ∧ ∀ clock : Clock, (r.handle clock event).accepted = true

variable {r : Run}

/-! ### Deadlines within reach -/

/-- Feedback on screen does not stay there beyond the largest reading. -/
def FeedbackInReach (r : Run) : Prop :=
  ∀ feedback, r.shown = some feedback → feedback.holdUntil ≤ Duration.limit

theorem feedbackInReach_of_shown_eq_none (h : r.shown = none) : r.FeedbackInReach := by
  intro feedback hshown
  cases h.symm.trans hshown

/-- Feedback that an event brings up is cut off at the largest reading. -/
theorem Accepts.feedbackInReach {clock : Clock} {event : RunEvent} {r' : Run}
    (h : Accepts clock r event r') : r'.FeedbackInReach := by
  cases h with
  | start => exact feedbackInReach_of_shown_eq_none (present_shown _ clock 0)
  | elapsed => exact feedbackInReach_of_shown_eq_none (present_shown _ clock _)
  | @answer _ live trial answer =>
    cases hmessage : (outcome trial answer).feedbackShown with
    | none =>
      rw [resolve_run_of_no_feedback hmessage]
      exact feedbackInReach_of_shown_eq_none (present_shown _ clock _)
    | some message =>
      rw [resolve_run_of_feedback hmessage]
      intro feedback hshown
      obtain rfl := Option.some.inj hshown
      exact Nat.min_le_right _ _

theorem FeedbackInReach.step {s : Session} (h : s.run.FeedbackInReach) (move : Move) :
    (s.step move).run.FeedbackInReach := by
  cases move with
  | send event =>
    rcases handle_cases s.run s.clock event with ⟨_, hrun⟩ | ⟨_, haccepts⟩
    · rw [Session.step, hrun]
      exact h
    · exact haccepts.feedbackInReach
  | poll => exact h
  | take =>
    rcases takeRecords_cases s.run with ⟨htake, _⟩ | ⟨_, _, htake⟩
    · simp only [Session.step, htake]
      exact h
    · simp only [Session.step, htake]
      exact h
  | wait reading => exact h

theorem FeedbackInReach.after {s : Session} (h : s.run.FeedbackInReach) (moves : List Move) :
    (s.after moves).run.FeedbackInReach := by
  induction moves generalizing s with
  | nil => exact h
  | cons move moves ih => exact ih (h.step move)

/-! ### Ways on -/

theorem Coherent.movesOn_of_nextDeadline (h : r.Coherent) (hreach : r.FeedbackInReach)
    {deadline : Nat} (hdeadline : r.nextDeadline = some deadline) : r.MovesOn := by
  refine ⟨deadline, hdeadline, h.nextDeadline_le hreach hdeadline, ?_⟩
  intro clock hle
  obtain ⟨event, hdue⟩ := Option.isSome_iff_exists.mp (due_isSome_of_le hdeadline hle)
  have haccepted := h.due_accepted hdue clock
  exact ⟨event, hdue, isInput_of_due hdue, haccepted,
    h.pending_accepts (accepts_of_accepted haccepted)⟩

/-- A trial without a latency never closes its key window. -/
theorem keysClosed_of_untimed {settings : RunSettings} {trial : TrialInstance} {token : Token}
    {onset now : Nat} (h : trial.spec.latencyMs = none) :
    keysClosed (arm settings trial token onset) now = false := by
  simp only [keysClosed, arm, h, Option.map_none]
  cases trial.spec.response <;> rfl

theorem Coherent.awaitsAnswer_of_untimed (h : r.Coherent) (huntimed : r.Untimed)
    (hends : ∀ trial ∈ r.trials, trial.spec.CanEnd) : r.AwaitsAnswer := by
  obtain ⟨trial, hcurrent, hlatency⟩ := huntimed
  have hphase := h.presenting_of_untimed ⟨trial, hcurrent, hlatency⟩
  obtain ⟨live, hlive⟩ : ∃ live, r.live? = some (live, trial) := by
    obtain ⟨⟨live, _⟩, hlive, rfl⟩ := Option.map_eq_some_iff.mp hcurrent
    exact ⟨live, hlive⟩
  obtain ⟨htrial, onset, rfl⟩ := h.live hphase hlive
  rcases hends trial (List.mem_of_getElem? htrial) hlatency with htext | ⟨key, hkey⟩
  · refine ⟨trial, .textSubmitted "", hcurrent, hlatency, rfl, ?_⟩
    intro clock
    exact (text_accepted_iff hphase hlive).mpr htext
  · refine ⟨trial, .key key, hcurrent, hlatency, rfl, ?_⟩
    intro clock
    exact (key_accepted_iff hphase hlive).mpr ⟨keysClosed_of_untimed hlatency, hkey⟩

/-- Under way, a run of trials that can end has a way on. -/
theorem Coherent.movesOn_or_awaitsAnswer (h : r.Coherent) (hreach : r.FeedbackInReach)
    (hrunning : r.phase.isRunning = true)
    (hends : ∀ trial ∈ r.trials, trial.spec.CanEnd) : r.MovesOn ∨ r.AwaitsAnswer := by
  cases hdeadline : r.nextDeadline with
  | some deadline => exact Or.inl (h.movesOn_of_nextDeadline hreach hdeadline)
  | none =>
    have huntimed := (h.nextDeadline_eq_none_iff hrunning).mp hdeadline
    exact Or.inr (h.awaitsAnswer_of_untimed huntimed hends)

end Run

theorem Phase.isRunning_of_ne {phase : Phase} (hidle : phase ≠ .idle)
    (hfinished : phase ≠ .finished) : phase.isRunning = true := by
  cases phase with
  | idle => exact absurd rfl hidle
  | finished => exact absurd rfl hfinished
  | presenting => rfl
  | resolved => rfl

/-! ### Runs of accepted rows -/

/-- **No run gets stuck.** Whatever has happened to a run of trials that were compiled from
    accepted rows, under any settings: while it is neither idle nor finished, a timer moves it
    on, or its trial has no latency and waits for an answer that it takes at any time. -/
theorem Session.history_unstuck {γ : Type} {shuffle : TrialTable.Shuffle γ}
    (hshuffle : shuffle.Permutes) {options : ValidationOptions} {rows : List AuthoredRow}
    {table : TrialTable} (hvalid : validate options rows = .ok table)
    {sequence : SequenceOptions} {g g' : γ} {trials : List TrialInstance}
    (hcompile : table.compileWith shuffle sequence g = .ok (trials, g'))
    (settings : RunSettings) (clock : Clock) (moves : List Move) :
    let run := ((Session.start trials settings clock).after moves).run
    run.phase ≠ .idle → run.phase ≠ .finished → run.MovesOn ∨ run.AwaitsAnswer := by
  intro run hidle hfinished
  have hrun : run.Coherent := coherent_after (Run.coherent_new trials settings) moves
  have hreach : run.FeedbackInReach :=
    (Run.feedbackInReach_of_shown_eq_none rfl).after moves
  have htrials : run.trials = trials := after_trials (Session.start trials settings clock) moves
  refine hrun.movesOn_or_awaitsAnswer hreach (Phase.isRunning_of_ne hidle hfinished) ?_
  intro trial htrial
  obtain ⟨i, raw, horigin⟩ := Validation.exists_origin hshuffle hvalid hcompile (htrials ▸ htrial)
  rw [horigin.spec]
  exact horigin.sound.canEnd (i + 1)

/-- An untimed text trial, then an untimed key trial whose keys are authored in odd ways. -/
def untimedRows : List AuthoredRow :=
  [.ofCells ["1", "", "name?", " [text] ", " na "],
    .ofCells ["1", "", "go", " SPACE ,, LShift ", "NA", "", "well done"]]

def untimedTable : TrialTable :=
  ⟨[⟨1, 1, [
    { TrialSpec.timed 1 1 "name?" 0 with response := .text .plain, latencyMs := none },
    { TrialSpec.timed 2 1 "go" 0 with
      response := .keys ["SPACE", "LShift"], latencyMs := none
      feedback := some ⟨.unmarked, "well done"⟩ }]⟩]⟩

def untimedTrials : List TrialInstance :=
  untimedTable.specs.mapIdx fun i spec => ⟨spec, 1, .fixed 1, i⟩

/-- The run of these trials after some moves. -/
def untimedRun (moves : List Move) : Run :=
  ((Session.start untimedTrials .standard ⟨0, 0⟩).after moves).run

/-- Long after the key window of timed trials the second trial still waits for a key; after the
    key its feedback goes by itself. -/
theorem Session.history_unstuck_untimedRows :
    let moves : List Move := [.send .start, .send (.textSubmitted "me"), .wait 60000000]
    let waiting := untimedRun moves
    let praised := untimedRun (moves ++ [.send (.key "spacebar")])
    TrialTable.Shuffle.Permutes Random.shuffle ∧
      validate (.standard fun _ => false) untimedRows = .ok untimedTable ∧
      untimedTable.compileWith Random.shuffle ⟨1, false⟩ (.cycle [1]) =
        .ok (untimedTrials, .cycle [1]) ∧
      waiting.phase = .presenting ∧ waiting.AwaitsAnswer ∧
      praised.phase = .resolved ∧ praised.MovesOn := by
  intro moves waiting praised
  have hvalid : validate (.standard fun _ => false) untimedRows = .ok untimedTable := by rfl
  have hcompile : untimedTable.compileWith Random.shuffle ⟨1, false⟩ (.cycle [1]) =
      .ok (untimedTrials, .cycle [1]) := by rfl
  have hwaiting : waiting.phase = .presenting := by rfl
  have hpraised : praised.phase = .resolved := by rfl
  have hon : ∀ moves, (untimedRun moves).phase ≠ .idle → (untimedRun moves).phase ≠ .finished →
      (untimedRun moves).MovesOn ∨ (untimedRun moves).AwaitsAnswer := fun moves =>
    history_unstuck TrialTable.shuffle_permutes hvalid hcompile .standard ⟨0, 0⟩ moves
  refine ⟨TrialTable.shuffle_permutes, hvalid, hcompile, hwaiting, ?_, hpraised, ?_⟩
  · refine (hon _ (by rw [hwaiting]; decide) (by rw [hwaiting]; decide)).resolve_left ?_
    rintro ⟨deadline, hdeadline, _⟩
    have hnone : waiting.nextDeadline = none := by rfl
    cases hnone.symm.trans hdeadline
  · refine (hon _ (by rw [hpraised]; decide) (by rw [hpraised]; decide)).resolve_right ?_
    rintro ⟨trial, event, hcurrent, _⟩
    have hnone : praised.current? = none := by rfl
    cases hnone.symm.trans hcurrent

end TimedTrials
