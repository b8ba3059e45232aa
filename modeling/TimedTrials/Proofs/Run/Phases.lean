/-
  TimedTrials/Proofs/Run/Phases.lean
  ==================================
  **The phases that a run comes through, and how many events that takes.**

  Some accepted events lead over one phase and some over two, but each of them leaves the run in
  some phase, and which phases these were can be read off the records: each recorded trial was
  presented, and resolved if there was feedback after it (`passage`). One accepted event adds the
  phase that it leads to (`Accepts.passage_eq`), so that after any history the phases number the
  events that were accepted (`Session.passage_after`), and their number is known
  (`accounts_passage`).
-/
import TimedTrials.Proofs.Run.History
import TimedTrials.Proofs.Run.Progress

namespace TimedTrials

/-- Whether there was feedback after the trial of a record. -/
def TrialRecord.hasFeedback (entry : TrialRecord) : Bool := entry.outcome.feedbackShown.isSome

namespace Run

variable {r r' : Run} {clock : Clock} {event : RunEvent}

/-! ### Phases and records -/

/-- The phases of a trial that has been recorded: it was presented, and then resolved if there was
    feedback after it. -/
def phasesOf (entry : TrialRecord) : List Phase :=
  if entry.hasFeedback then [.presenting, .resolved] else [.presenting]

/-- The phases that a run has come through up to a phase, when it has these records. -/
def passage (phase : Phase) (records : List TrialRecord) : List Phase :=
  match phase with
  | .idle => []
  | .presenting => records.flatMap phasesOf ++ [.presenting]
  | .resolved => records.flatMap phasesOf
  | .finished => records.flatMap phasesOf ++ [.finished]

/-- What comes next is behind the phases of all trials that have been recorded. -/
theorem passage_present (r : Run) (clock : Clock) (position : Nat) (records : List TrialRecord) :
    passage (r.present clock position).run.phase records =
      records.flatMap phasesOf ++ [(r.present clock position).run.phase] := by
  rcases present_phase r clock position with hphase | hphase
  · rw [hphase]
    rfl
  · rw [hphase]
    rfl

/-- **One accepted event** adds the phase that it leads to. Records that have been handed over are
    counted before those that the run still has. -/
theorem Accepts.passage_eq (h : Accepts clock r event r') (before : List TrialRecord)
    (hidle : r.phase = .idle → before ++ r.records = []) :
    passage r'.phase (before ++ r'.records) =
      passage r.phase (before ++ r.records) ++ [r'.phase] := by
  cases h with
  | start hphase =>
    rw [passage_present, present_records, hidle hphase, hphase]
    rfl
  | @answer _ live trial answer hphase hlive hanswer =>
    rw [resolve_records, hphase]
    -- the trial was presented, which is the last phase so far; its feedback comes next if it has any
    cases hshown : (outcome trial answer).feedbackShown with
    | none =>
      have hphases : phasesOf (record clock trial live.onset answer) = [.presenting] := by
        simp [phasesOf, TrialRecord.hasFeedback, record, hshown]
      rw [resolve_run_of_no_feedback hshown, advance, passage_present]
      simp [passage, hphases]
    | some message =>
      have hphases : phasesOf (record clock trial live.onset answer) =
          [.presenting, .resolved] := by
        simp [phasesOf, TrialRecord.hasFeedback, record, hshown]
      rw [resolve_run_of_feedback hshown]
      simp [passage, showsFeedback, hphases]
  | elapsed hphase hshown =>
    rw [advance, passage_present, present_records, hphase]
    rfl

/-- A run that is over accepts nothing more. -/
theorem refuses_of_finished (h : r.phase = .finished) (clock : Clock) (event : RunEvent) :
    (r.handle clock event).accepted = false := by
  rcases handle_cases r clock event with ⟨hrefused, _⟩ | ⟨_, haccepts⟩
  · exact hrefused
  · exact absurd h haccepts.phase_ne_finished

/-! ### The number of accepted events -/

theorem length_phasesOf (entry : TrialRecord) :
    (phasesOf entry).length = 1 + if entry.hasFeedback then 1 else 0 := by
  unfold phasesOf
  split <;> rfl

theorem length_flatMap_phasesOf (records : List TrialRecord) :
    (records.flatMap phasesOf).length = records.length + records.countP (·.hasFeedback) := by
  induction records with
  | nil => rfl
  | cons entry records ih =>
    rw [List.flatMap_cons, List.length_append, ih, length_phasesOf, List.countP_cons,
      List.length_cons]
    omega

/-- What the phases that a run has entered, one for each accepted event, have to do with the
    results of its trials: they can be told from the results; a finished run has entered one for
    the end, one for each trial and one for each feedback; one that is not finished has entered at
    most two for each trial. -/
structure Accounts (trials : List TrialInstance) (phase : Phase) (results : List TrialRecord)
    (entered : List Phase) : Prop where
  passage : entered = passage phase results
  finished : phase = .finished → results.length = trials.length ∧
    entered.length = 1 + trials.length + results.countP (·.hasFeedback)
  unfinished : phase ≠ .finished → entered.length ≤ 2 * trials.length

/-- As long as there is one result for each resolved trial, the phases account for them. -/
theorem Coherent.accounts (h : r.Coherent) {results : List TrialRecord}
    (hlength : results.length = r.resolvedCount) :
    Accounts r.trials r.phase results (Run.passage r.phase results) := by
  have hphases := length_flatMap_phasesOf results
  have hfeedback : results.countP (·.hasFeedback) ≤ results.length := List.countP_le_length
  refine ⟨rfl, ?_, ?_⟩
  · intro hphase
    have hall : results.length = r.trials.length := by
      simpa only [resolvedCount, hphase] using hlength
    refine ⟨hall, ?_⟩
    simp only [Run.passage, hphase, List.length_append, List.length_singleton]
    omega
  · intro hunfinished
    cases hphase : r.phase with
    | idle => exact Nat.zero_le _
    | finished => exact absurd hphase hunfinished
    | presenting =>
      have hlt := h.cursor_lt (by rw [hphase]; rfl)
      simp only [resolvedCount, hphase] at hlength
      simp only [Run.passage, List.length_append, List.length_singleton]
      omega
    | resolved =>
      have hlt := h.cursor_lt (by rw [hphase]; rfl)
      simp only [resolvedCount, hphase] at hlength
      simp only [Run.passage]
      omega

end Run

/-! ### Histories -/

namespace Session

open Run (passage)

/-- The phase that a move leads to, if it is an event that is accepted. -/
def entered (s : Session) : Move → List Phase
  | .send event =>
    if (s.run.handle s.clock event).accepted then [(s.step (.send event)).run.phase] else []
  | _ => []

/-- All records so far: those that were handed over and those that the run still has. -/
def results (s : Session) (moves : List Move) : List TrialRecord :=
  (collect handover s moves).flatMap (·.2) ++ (s.after moves).run.records

theorem results_cons (s : Session) (move : Move) (moves : List Move) :
    s.results (move :: moves) =
      (s.handover move).flatMap (·.2) ++ (s.step move).results moves := by
  rw [results, collect, List.flatMap_append, List.append_assoc]
  rfl

/-- A move adds the phase that it leads to; records that it hands over are still counted. -/
theorem passage_step (s : Session) (move : Move) (before : List TrialRecord)
    (hidle : s.run.phase = .idle → before ++ s.run.records = []) :
    passage (s.step move).run.phase
        (before ++ ((s.handover move).flatMap (·.2) ++ (s.step move).run.records)) =
      passage s.run.phase (before ++ s.run.records) ++ s.entered move := by
  cases move with
  | send event =>
    simp only [handover, entered, step, List.flatMap_nil, List.nil_append]
    rcases Run.handle_cases s.run s.clock event with ⟨hrefused, hrun⟩ | ⟨haccepted, haccepts⟩
    · simp only [hrefused, hrun, Bool.false_eq_true, if_false, List.append_nil]
    · rw [if_pos haccepted, haccepts.passage_eq before hidle]
  | poll => simp only [handover, entered, step, List.flatMap_nil, List.nil_append, List.append_nil]
  | take =>
    rcases Run.takeRecords_cases s.run with ⟨htake, _⟩ | ⟨_, _, htake⟩
    · simp [handover, entered, step, htake]
    · simp [handover, entered, step, htake]
  | wait reading =>
    simp only [handover, entered, step, List.flatMap_nil, List.nil_append, List.append_nil]

/-- Only a run that has not been started is idle, and it has brought no records. -/
theorem idle_step (s : Session) (move : Move) {before : List TrialRecord}
    (hidle : s.run.phase = .idle → before ++ s.run.records = [])
    (hphase : (s.step move).run.phase = .idle) :
    before ++ ((s.handover move).flatMap (·.2) ++ (s.step move).run.records) = [] := by
  cases move with
  | send event =>
    simp only [handover, step, List.flatMap_nil, List.nil_append] at hphase ⊢
    rcases Run.handle_cases s.run s.clock event with ⟨_, hrun⟩ | ⟨_, haccepts⟩
    · rw [hrun] at hphase ⊢
      exact hidle hphase
    · exact absurd hphase haccepts.phase_ne_idle
  | poll => exact hidle hphase
  | take =>
    rcases Run.takeRecords_cases s.run with ⟨htake, _⟩ | ⟨hfinished, _, htake⟩
    · simp only [step, htake] at hphase
      simpa [handover, step, htake] using hidle hphase
    · simp only [step, htake] at hphase
      cases hfinished.symm.trans hphase
  | wait reading => exact hidle hphase

/-- **A history** adds the phases that its moves lead to. -/
theorem passage_after (s : Session) (moves : List Move) (before : List TrialRecord)
    (hidle : s.run.phase = .idle → before ++ s.run.records = []) :
    passage (s.after moves).run.phase (before ++ s.results moves) =
      passage s.run.phase (before ++ s.run.records) ++ collect entered s moves := by
  -- what the first move hands over is counted before what the others do
  induction moves generalizing s before with
  | nil => simp only [results, after, collect, List.foldl_nil, List.flatMap_nil, List.nil_append,
      List.append_nil]
  | cons move moves ih =>
    have hrest := ih (s.step move) (before ++ (s.handover move).flatMap (·.2)) (by
      intro hphase
      rw [List.append_assoc]
      exact idle_step s move hidle hphase)
    rw [results_cons, ← List.append_assoc, collect, ← List.append_assoc,
      ← passage_step s move before hidle, ← List.append_assoc]
    exact hrest

/-- There is one result for each resolved trial, whether they have been handed over or not. -/
theorem length_results (trials : List TrialInstance) (settings : RunSettings) (clock : Clock)
    (moves : List Move) :
    ((start trials settings clock).results moves).length =
      ((start trials settings clock).after moves).run.resolvedCount := by
  have hnew : (start trials settings clock).run.Coherent := Run.coherent_new trials settings
  have hrun := coherent_after hnew moves
  rcases collect_handover hnew moves with ⟨hnone, hdelivered⟩ | ⟨_, hdelivered, records, hone, hall⟩
  · rw [results, hnone]
    exact hrun.length_records hdelivered
  · obtain ⟨hphase, hempty⟩ := hrun.delivered hdelivered
    have htrials := after_trials (start trials settings clock) moves
    rw [results, hone, hempty]
    simp only [List.flatMap_singleton, List.append_nil, Run.resolvedCount, hphase, htrials]
    exact hall.length_eq.symm

/-- A run that is over stays so. -/
theorem finished_after {s : Session} (h : s.run.phase = .finished) (moves : List Move) :
    (s.after moves).run.phase = .finished := by
  induction moves generalizing s with
  | nil => exact h
  | cons move moves ih =>
    apply ih
    cases move with
    | send event =>
      rcases Run.handle_cases s.run s.clock event with ⟨_, hrun⟩ | ⟨_, haccepts⟩
      · simp only [step, hrun, h]
      · exact absurd h haccepts.phase_ne_finished
    | poll => exact h
    | take =>
      rcases Run.takeRecords_cases s.run with ⟨htake, _⟩ | ⟨_, _, htake⟩
      · simp only [step, htake, h]
      · simp only [step, htake, h]
    | wait reading => exact h

/-- The phases that a history leads to account for the results. -/
theorem accounts_after (trials : List TrialInstance) (settings : RunSettings) (clock : Clock)
    (moves : List Move) :
    let s := start trials settings clock
    Run.Accounts trials (s.after moves).run.phase (s.results moves) (collect entered s moves) := by
  intro s
  have hrun : (s.after moves).run.Coherent :=
    coherent_after (Run.coherent_new trials settings) moves
  have hpassage : passage (s.after moves).run.phase (s.results moves) = collect entered s moves :=
    passage_after s moves [] fun _ => rfl
  have haccounts := hrun.accounts (length_results trials settings clock moves)
  rw [hpassage, after_trials s moves] at haccounts
  exact haccounts

end Session

end TimedTrials
