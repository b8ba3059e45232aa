/-
  TimedTrials/Proofs/Run/Consistency.lean
  =======================================
  **The parts of a record fit together, and they fit the trial.**

  A record says what the response was, whether it was right, whether the trial timed out and
  which feedback was shown. Each of these is worked out at another place. `Consistent` says what
  they have to do with each other and with the trial, and every outcome that a trial can come to
  is consistent (`Answers.consistent`).

  So all records of a history are, those that are held and those that have been handed over; and
  feedback comes on screen just when there is a message to record (`history_consistent`).
-/
import TimedTrials.Proofs.Run.History
import TimedTrials.Proofs.Run.Progress
import TimedTrials.Proofs.Trial.KeyNames

namespace TimedTrials

/-! ### When feedback is shown -/

/-- There is something to show, and it is meant for the outcome. -/
structure Feedback.Applies (f : Feedback) (correct : Option Bool) : Prop where
  message : f.message ≠ ""
  rule : f.rule = .always ∨ f.rule = .unmarked ∨ (f.rule = .whenCorrect ∧ correct = some true) ∨
    (f.rule = .whenIncorrect ∧ correct = some false)

theorem FeedbackRule.shows_iff {rule : FeedbackRule} {correct : Option Bool} :
    rule.shows correct = true ↔ rule = .always ∨ rule = .unmarked ∨
      (rule = .whenCorrect ∧ correct = some true) ∨
      (rule = .whenIncorrect ∧ correct = some false) := by
  cases rule <;> simp [shows]

theorem Feedback.resolve_eq_some_iff {f : Feedback} {correct : Option Bool} {message : String} :
    f.resolve correct = some message ↔ f.message = message ∧ f.Applies correct := by
  have happlies : (f.rule.shows correct && !f.message.isEmpty) = true ↔ f.Applies correct := by
    rw [Bool.and_eq_true, FeedbackRule.shows_iff, Bool.not_eq_true', ← Bool.not_eq_true,
      String.isEmpty_iff]
    exact ⟨fun ⟨hrule, hmessage⟩ => ⟨hmessage, hrule⟩, fun h => ⟨h.rule, h.message⟩⟩
  rw [resolve, Option.ite_none_right_eq_some, happlies, Option.some.injEq, and_comm]

namespace Run

variable {r r' : Run} {clock : Clock} {event : RunEvent} {live : LiveTrial}
  {trial : TrialInstance} {answer : Answer}

/-! ### Judging -/

/-- How an answer is judged on a trial that has a correct response. -/
structure Judged (trial : TrialInstance) (correct : String) (outcome : Outcome) : Prop where
  timeout : outcome.timedOut = true → outcome.isCorrect = some false
  text : ∀ options given, trial.spec.response = .text options →
    outcome.actualResponse = some given → outcome.isCorrect = some (decide (given = correct))
  key : ∀ tokens given, trial.spec.response = .keys tokens →
    outcome.actualResponse = some given →
    outcome.isCorrect = some (decide (Key.normal given = Key.normal correct))

theorem judge_eq_none_iff {spec : TrialSpec} {given : Option String} :
    judge spec given = none ↔ spec.correctResponse = none := by
  simp only [judge, Option.map_eq_none_iff]

theorem judge_missing {spec : TrialSpec} {correct : String}
    (hcorrect : spec.correctResponse = some correct) : judge spec none = some false := by
  simp only [judge, hcorrect, Option.map_some]

theorem judge_text {spec : TrialSpec} {correct given : String} {options : TextEntry}
    (hcorrect : spec.correctResponse = some correct) (hresponse : spec.response = .text options) :
    judge spec (some given) = some (decide (given = correct)) := by
  simp only [judge, hcorrect, hresponse, Option.map_some, beq_eq_decide]

theorem judge_keys {spec : TrialSpec} {correct given : String} {tokens : List String}
    (hcorrect : spec.correctResponse = some correct) (hresponse : spec.response = .keys tokens) :
    judge spec (some given) = some (decide (Key.normal given = Key.normal correct)) := by
  simp only [judge, hcorrect, hresponse, Option.map_some, Key.same, beq_eq_decide]

/-! ### Outcomes -/

/-- What the parts of an outcome have to do with each other and with their trial. -/
structure Consistent (trial : TrialInstance) (outcome : Outcome) : Prop where
  timedOut : outcome.timedOut = true ↔ outcome.actualResponse = none
  noResponse : trial.spec.response = .none → outcome.timedOut = true
  key : ∀ tokens, trial.spec.response = .keys tokens → outcome.timedOut = false →
    ∃ token ∈ tokens, outcome.actualResponse = some (Key.normal token)
  unjudged : outcome.isCorrect = none ↔ trial.spec.correctResponse = none
  judged : ∀ correct, trial.spec.correctResponse = some correct → Judged trial correct outcome
  feedback : ∀ message, outcome.feedbackShown = some message ↔
    ∃ feedback, trial.spec.feedback = some feedback ∧ feedback.message = message ∧
      feedback.Applies outcome.isCorrect

/-- An answer has timed out when it holds no response. -/
theorem timedOut_outcome_iff (trial : TrialInstance) (answer : Answer) :
    (outcome trial answer).timedOut = true ↔ answer.given? = none := by
  cases answer <;> simp [outcome, Answer.given?]

/-- **An answer makes a consistent outcome.** -/
theorem Answers.consistent {now : Nat} (h : Answers live trial now event answer) :
    Consistent trial (outcome trial answer) where
  timedOut := timedOut_outcome_iff trial answer
  noResponse hresponse := by
    cases h with
    | key hopen hkey =>
      rw [hresponse] at hkey
      cases hkey
    | text htext =>
      rw [hresponse] at htext
      cases htext
    | timeout => rfl
  key tokens hresponse hanswered := by
    cases h with
    | key hopen hkey =>
      rw [hresponse] at hkey
      obtain ⟨token, hmem, hnormal⟩ := Response.acceptsKey_iff.mp hkey
      exact ⟨token, hmem, congrArg some hnormal.symm⟩
    | text htext =>
      rw [hresponse] at htext
      cases htext
    | timeout => cases hanswered
  unjudged := judge_eq_none_iff
  judged correct hcorrect := {
    timeout := fun htimedOut => by
      have hgiven := (timedOut_outcome_iff trial answer).mp htimedOut
      simp only [outcome, hgiven, judge_missing hcorrect]
    text := fun options given hresponse hgiven => by
      have hgiven : answer.given? = some given := hgiven
      simp only [outcome, hgiven, judge_text hcorrect hresponse]
    key := fun tokens given hresponse hgiven => by
      have hgiven : answer.given? = some given := hgiven
      simp only [outcome, hgiven, judge_keys hcorrect hresponse] }
  feedback message := by
    simp only [outcome, Option.bind_eq_some_iff, Feedback.resolve_eq_some_iff]

theorem RecordOf.consistent {settings : RunSettings} {entry : TrialRecord}
    (h : RecordOf settings trial entry) : Consistent trial entry.outcome := by
  cases h with
  | answered token onset clock hanswer => exact (answers_of_answerTo hanswer).consistent

theorem Coherent.consistent (h : r.Coherent) :
    List.Forall₂ (fun trial entry => Consistent trial entry.outcome)
      (r.trials.take r.records.length) r.records := by
  cases hdelivered : r.delivered with
  | true =>
    -- all records have been handed over
    rw [(h.delivered hdelivered).2]
    exact .nil
  | false =>
    rw [h.length_records hdelivered]
    exact (h.records hdelivered).imp fun _ _ => RecordOf.consistent

/-! ### What comes after a record -/

/-- A record with feedback is followed by that feedback, one without by whatever comes next. -/
structure FollowedUp (entry : TrialRecord) (r : Run) : Prop where
  phase : r.phase = .resolved ↔ entry.outcome.feedbackShown.isSome = true
  shown : r.shown.map (·.message) = entry.outcome.feedbackShown

theorem present_phase_ne_resolved (r : Run) (clock : Clock) (position : Nat) :
    (r.present clock position).run.phase ≠ .resolved := by
  rcases present_phase r clock position with hphase | hphase
  · rw [hphase]
    decide
  · rw [hphase]
    decide

theorem resolve_followedUp (r : Run) (clock : Clock) (live : LiveTrial) (trial : TrialInstance)
    (answer : Answer) : FollowedUp (record clock trial live.onset answer)
      (r.resolve clock live trial answer).run := by
  have hentry : (record clock trial live.onset answer).outcome = outcome trial answer := rfl
  cases hshown : (outcome trial answer).feedbackShown with
  | some message =>
    rw [resolve_run_of_feedback hshown]
    refine ⟨?_, ?_⟩
    · simp only [showsFeedback, hentry, hshown, Option.isSome_some]
    · simp only [showsFeedback, hentry, hshown, Option.map_some, feedbackAfter]
  | none =>
    rw [resolve_run_of_no_feedback hshown, advance]
    refine ⟨?_, ?_⟩
    · simp only [present_phase_ne_resolved, hentry, hshown, Option.isSome_none,
        Bool.false_eq_true]
    · simp only [present_shown, hentry, hshown, Option.map_none]

/-- **What an accepted event records.** It answers the trial on screen and adds one record, with
    its feedback behind it if there is any; or no trial is on screen, and then it adds none and
    brings up no feedback. -/
theorem Coherent.records_of_accepts (h : r.Coherent) (haccepts : Accepts clock r event r') :
    (∃ trial entry, r.current? = some trial ∧ r'.records = r.records ++ [entry] ∧
      RecordOf r.settings trial entry ∧ FollowedUp entry r') ∨
      (r.current? = none ∧ r'.records = r.records ∧ r'.phase ≠ .resolved) := by
  cases haccepts with
  | start hphase =>
    right
    refine ⟨?_, present_records _ _ _, present_phase_ne_resolved _ _ _⟩
    rw [h.idle hphase]
    rfl
  | @answer _ live trial answer hphase hlive hanswer =>
    left
    refine ⟨trial, record clock trial live.onset answer, ?_, resolve_records _ _ _ _ _, ?_,
      resolve_followedUp _ _ _ _ _⟩
    · rw [current?, hlive]
      rfl
    · obtain ⟨_, onset, rfl⟩ := h.live hphase hlive
      exact .answered _ onset clock hanswer
  | elapsed hphase hshown =>
    right
    refine ⟨?_, present_records _ _ _, present_phase_ne_resolved _ _ _⟩
    rw [h.current?_eq, hphase]
    rfl

end Run

namespace Session

/-- **The records of every history are consistent**, those that are held and those that have been
    handed over. An event that is accepted while a trial is on screen adds one consistent record
    for it, and the run shows feedback next just when the record has a message, and then that
    message. No other event adds a record or brings up feedback. -/
theorem history_consistent (trials : List TrialInstance) (settings : RunSettings) (clock : Clock)
    (moves : List Move) :
    let s := start trials settings clock
    let run := (s.after moves).run
    let handled := run.handle (s.after moves).clock
    List.Forall₂ (fun trial entry => Run.Consistent trial entry.outcome)
      (trials.take run.records.length) run.records ∧
      (∀ taken ∈ collect handover s moves,
        List.Forall₂ (fun trial entry => Run.Consistent trial entry.outcome) trials taken.2) ∧
      ∀ event, (handled event).accepted = true →
        (∃ trial entry, run.current? = some trial ∧
          (handled event).run.records = run.records ++ [entry] ∧
          Run.Consistent trial entry.outcome ∧ Run.FollowedUp entry (handled event).run) ∨
        (run.current? = none ∧ (handled event).run.records = run.records ∧
          (handled event).run.phase ≠ .resolved) := by
  intro s run handled
  have hnew : s.run.Coherent := Run.coherent_new trials settings
  have hrun : run.Coherent := coherent_after hnew moves
  have htrials : run.trials = trials := after_trials s moves
  refine ⟨?_, ?_, ?_⟩
  · rw [← htrials]
    exact hrun.consistent
  · intro taken hmem
    rcases collect_handover hnew moves with ⟨hnone, _⟩ | ⟨_, _, records, hone, hrecords⟩
    · rw [hnone] at hmem
      cases hmem
    · rw [hone] at hmem
      obtain rfl := List.mem_singleton.mp hmem
      exact hrecords.imp fun _ _ => Run.RecordOf.consistent
  · intro event haccepted
    rcases hrun.records_of_accepts (Run.accepts_of_accepted haccepted) with
      ⟨trial, entry, hcurrent, hrecords, hentry, hfollowed⟩ | hnone
    · exact Or.inl ⟨trial, entry, hcurrent, hrecords, hentry.consistent, hfollowed⟩
    · exact Or.inr hnone

end Session

end TimedTrials
