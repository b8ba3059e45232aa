/-
  TimedTrials/Proofs/Run/History.lean
  ===================================
  **Runs under any history.**

  A session is a run with the clock it reads. A history is a list of moves in any order:
  events, genuine or forged, questions for due timers, attempts to take the records, and the
  clock going forward. What a history brings to light on its way is collected move by move:
  the positions of the trials it resolved, and the records that were handed over.

  `history_invariant` says what holds after every history of a new run: the phase invariant,
  one record for each resolved trial in sequence order, and records that are handed over at
  most once, complete, and at the end.
-/
import TimedTrials.Proofs.Run.Coherence

namespace TimedTrials

/-- A run and the clock that it reads. -/
structure Session where
  run : Run
  clock : Clock

/-- What may be done with a run: an event happens, timers are asked for, the records are asked
    for, the clock goes forward to a reading. -/
inductive Move where
  | send (event : RunEvent)
  | poll
  | take
  | wait (reading : Nat)

namespace Session

/-- A new run, before its first move. -/
def start (trials : List TrialInstance) (settings : RunSettings) (clock : Clock) : Session :=
  ⟨Run.new trials settings, clock⟩

/-- The session after one move. Asking for timers changes nothing. -/
def step (s : Session) : Move → Session
  | .send event => { s with run := (s.run.handle s.clock event).run }
  | .poll => s
  | .take => { s with run := s.run.takeRecords.2 }
  | .wait reading => { s with clock := s.clock.moveTo reading }

/-- The session after a history. -/
def after (s : Session) (moves : List Move) : Session := moves.foldl step s

/-- What the moves of a history bring to light, one after the other. -/
def collect {α : Type} (observe : Session → Move → List α) : Session → List Move → List α
  | _, [] => []
  | s, move :: moves => observe s move ++ collect observe (s.step move) moves

/-- The position of the trial that a move resolves. -/
def resolution (s : Session) : Move → List Nat
  | .send event =>
    if (s.run.handle s.clock event).accepted then (s.run.token?.map (·.position)).toList else []
  | _ => []

/-- The records that a move hands over, with the phase in which it does. -/
def handover (s : Session) : Move → List (Phase × List TrialRecord)
  | .take => (s.run.takeRecords.1.map fun records => (s.run.phase, records)).toList
  | _ => []

/-! ### The run keeps together -/

theorem coherent_step {s : Session} (h : s.run.Coherent) (move : Move) :
    (s.step move).run.Coherent := by
  cases move with
  | send event => exact h.handle s.clock event
  | poll => exact h
  | take => exact h.takeRecords
  | wait reading => exact h

theorem coherent_after {s : Session} (h : s.run.Coherent) (moves : List Move) :
    (s.after moves).run.Coherent := by
  induction moves generalizing s with
  | nil => exact h
  | cons move moves ih => exact ih (coherent_step h move)

/-- The trials and the settings never change. -/
theorem step_trials_settings (s : Session) (move : Move) :
    (s.step move).run.trials = s.run.trials ∧ (s.step move).run.settings = s.run.settings := by
  cases move with
  | send event =>
    have hgoes := Run.goesOn_handle s.run s.clock event
    exact ⟨hgoes.trials, hgoes.settings⟩
  | poll => exact ⟨rfl, rfl⟩
  | take =>
    rcases Run.takeRecords_cases s.run with ⟨htake, _⟩ | ⟨_, _, htake⟩
    · simp only [step, htake, and_self]
    · simp only [step, htake, and_self]
  | wait reading => exact ⟨rfl, rfl⟩

theorem after_trials (s : Session) (moves : List Move) :
    (s.after moves).run.trials = s.run.trials := by
  induction moves generalizing s with
  | nil => rfl
  | cons move moves ih => exact (ih (s.step move)).trans (step_trials_settings s move).1

theorem after_settings (s : Session) (moves : List Move) :
    (s.after moves).run.settings = s.run.settings := by
  induction moves generalizing s with
  | nil => rfl
  | cons move moves ih => exact (ih (s.step move)).trans (step_trials_settings s move).2

end Session

/-! ### Resolved trials -/

namespace Run

variable {r : Run} {clock : Clock}

/-- A trial that comes up finds all trials before it resolved. -/
theorem present_resolvedCount {position : Nat} (h : position ≤ r.trials.length) :
    (r.present clock position).run.resolvedCount = position := by
  rcases Nat.lt_or_eq_of_le h with hlt | heq
  · rw [present_run_of_some (List.getElem?_eq_getElem hlt)]
    rfl
  · rw [present_run_of_length_le (Nat.le_of_eq heq.symm)]
    exact heq.symm

/-- What an accepted event resolves: the trial at the cursor when it answers it, else none. -/
theorem Coherent.resolvedCount_accepts (h : r.Coherent) {event : RunEvent} {r' : Run}
    (haccepts : Accepts clock r event r') :
    (r.token? = none ∧ r'.resolvedCount = r.resolvedCount) ∨
      (r.token?.map (·.position) = some r.resolvedCount ∧
        r'.resolvedCount = r.resolvedCount + 1) := by
  cases haccepts with
  | start hphase =>
    left
    have hcount : r.resolvedCount = 0 := by simp only [resolvedCount, hphase]
    refine ⟨by rw [h.idle hphase]; rfl, ?_⟩
    rw [hcount]
    exact present_resolvedCount (Nat.zero_le _)
  | answer hphase hlive hanswer =>
    right
    rename_i live trial answer
    have hcount : r.resolvedCount = r.cursor := by simp only [resolvedCount, hphase]
    obtain ⟨htrial, onset, rfl⟩ := h.live hphase hlive
    have hlt : r.cursor < r.trials.length := (List.getElem?_eq_some_iff.mp htrial).1
    rw [hcount]
    constructor
    · simp only [token?, (live?_eq_some_iff.mp hlive).1, Option.map_some, arm]
    · cases hshown : (outcome trial answer).feedbackShown with
      | none =>
        rw [resolve_run_of_no_feedback hshown]
        exact present_resolvedCount hlt
      | some message =>
        rw [resolve_run_of_feedback hshown]
        rfl
  | elapsed hphase hshown =>
    left
    obtain ⟨trial, _, htrial, hactive, _⟩ := h.resolved hphase
    have hcount : r.resolvedCount = r.cursor + 1 := by simp only [resolvedCount, hphase]
    refine ⟨by rw [token?, hactive]; rfl, ?_⟩
    rw [hcount]
    exact present_resolvedCount (List.getElem?_eq_some_iff.mp htrial).1

end Run

namespace Session

/-- A move resolves no trial, or just the next one in sequence order. -/
theorem resolution_cases {s : Session} (h : s.run.Coherent) (move : Move) :
    (s.resolution move = [] ∧ (s.step move).run.resolvedCount = s.run.resolvedCount) ∨
      (s.resolution move = [s.run.resolvedCount] ∧
        (s.step move).run.resolvedCount = s.run.resolvedCount + 1) := by
  cases move with
  | send event =>
    rcases Run.handle_cases s.run s.clock event with ⟨hrefused, hrun⟩ | ⟨haccepted, haccepts⟩
    · left
      simp only [resolution, step, hrefused, hrun, Bool.false_eq_true, if_false, and_self]
    · simp only [resolution, step, haccepted, if_true]
      rcases h.resolvedCount_accepts haccepts with ⟨htoken, hcount⟩ | ⟨htoken, hcount⟩
      · left
        rw [htoken]
        exact ⟨rfl, hcount⟩
      · right
        rw [htoken]
        exact ⟨rfl, hcount⟩
  | poll => exact Or.inl ⟨rfl, rfl⟩
  | take =>
    left
    rcases Run.takeRecords_cases s.run with ⟨htake, _⟩ | ⟨hphase, _, htake⟩
    · simp only [resolution, step, htake, and_self]
    · simp only [resolution, step, htake, Run.resolvedCount, hphase, and_self]
  | wait reading => exact Or.inl ⟨rfl, rfl⟩

/-- A history resolves trials in sequence order, none twice and none left out. -/
theorem collect_resolution {s : Session} (h : s.run.Coherent) (moves : List Move) :
    ∃ count, collect resolution s moves = List.range' s.run.resolvedCount count ∧
      (s.after moves).run.resolvedCount = s.run.resolvedCount + count := by
  -- the count of resolved trials says with which one the rest of the history goes on
  induction moves generalizing s with
  | nil => exact ⟨0, rfl, rfl⟩
  | cons move moves ih =>
    obtain ⟨count, hcollect, hcount⟩ := ih (coherent_step h move)
    rcases resolution_cases h move with ⟨hnone, hstep⟩ | ⟨hone, hstep⟩
    · refine ⟨count, ?_, ?_⟩
      · rw [collect, hnone, hcollect, hstep, List.nil_append]
      · exact hcount.trans (by rw [hstep])
    · refine ⟨count + 1, ?_, ?_⟩
      · rw [collect, hone, hcollect, hstep, List.range'_succ, List.singleton_append]
      · exact hcount.trans (by rw [hstep]; omega)

/-! ### Records that are handed over -/

/-- A move hands nothing over, or all records of a finished run that has not yet given them. -/
theorem handover_cases {s : Session} (h : s.run.Coherent) (move : Move) :
    (s.handover move = [] ∧ (s.step move).run.delivered = s.run.delivered) ∨
      (s.run.delivered = false ∧ (s.step move).run.delivered = true ∧
        ∃ records, s.handover move = [(.finished, records)] ∧
          List.Forall₂ (Run.RecordOf s.run.settings) s.run.trials records) := by
  cases move with
  | send event => exact Or.inl ⟨rfl, (Run.goesOn_handle s.run s.clock event).delivered⟩
  | poll => exact Or.inl ⟨rfl, rfl⟩
  | take =>
    rcases Run.takeRecords_cases s.run with ⟨htake, _⟩ | ⟨hphase, hdelivered, htake⟩
    · left
      simp only [handover, step, htake, Option.map_none, Option.toList_none, and_self]
    · right
      have hrecords := h.records hdelivered
      simp only [Run.resolvedCount, hphase, List.take_length] at hrecords
      refine ⟨hdelivered, by simp only [step, htake], s.run.records, ?_, hrecords⟩
      simp only [handover, htake, hphase, Option.map_some, Option.toList_some]
  | wait reading => exact Or.inl ⟨rfl, rfl⟩

/-- A history hands the records over at most once, all of them, and at the end of the run. -/
theorem collect_handover {s : Session} (h : s.run.Coherent) (moves : List Move) :
    (collect handover s moves = [] ∧ (s.after moves).run.delivered = s.run.delivered) ∨
      (s.run.delivered = false ∧ (s.after moves).run.delivered = true ∧
        ∃ records, collect handover s moves = [(.finished, records)] ∧
          List.Forall₂ (Run.RecordOf s.run.settings) s.run.trials records) := by
  induction moves generalizing s with
  | nil => exact Or.inl ⟨rfl, rfl⟩
  | cons move moves ih =>
    obtain ⟨htrials, hsettings⟩ := step_trials_settings s move
    rcases handover_cases h move with ⟨hnone, hsame⟩ | ⟨hbefore, hafter, records, hone, hrecords⟩
    · rw [collect, hnone, List.nil_append]
      rcases ih (coherent_step h move) with ⟨hrest, hlater⟩ | ⟨hbefore, hlater, records, hone, hrecords⟩
      · exact Or.inl ⟨hrest, hlater.trans hsame⟩
      · refine Or.inr ⟨hsame.symm.trans hbefore, hlater, records, hone, ?_⟩
        rw [htrials, hsettings] at hrecords
        exact hrecords
    · rw [collect, hone]
      -- the run is marked now, so that the rest of the history hands over nothing more
      rcases ih (coherent_step h move) with ⟨hrest, hlater⟩ | ⟨hagain, _⟩
      · refine Or.inr ⟨hbefore, hlater.trans hafter, records, ?_, hrecords⟩
        rw [hrest]
        rfl
      · exact absurd (hafter.symm.trans hagain) (by decide)

/-- **What holds of a run under every history.** The run keeps its phase invariant and every
    token in use names one of its trials. The trials are resolved in sequence order. Until the
    records are handed over there is one for each resolved trial; they are handed over at most
    once, in the finished phase, and then there is one for every trial. -/
theorem history_invariant (trials : List TrialInstance) (settings : RunSettings) (clock : Clock)
    (moves : List Move) :
    let s := start trials settings clock
    let run := (s.after moves).run
    let resolved := collect resolution s moves
    let handed := collect handover s moves
    run.trials = trials ∧ run.PhaseInvariant ∧
      (∀ token, run.token? = some token ∨ run.shown.map (·.token) = some token →
        token.position < trials.length) ∧
      resolved = List.range resolved.length ∧ resolved.length ≤ trials.length ∧
      (handed = [] → List.Forall₂ Run.Describes (trials.take resolved.length) run.records) ∧
      handed.length ≤ 1 ∧
      ∀ handover ∈ handed, handover.1 = .finished ∧ handover.2.length = trials.length ∧
        List.Forall₂ Run.Describes trials handover.2 := by
  intro s run resolved handed
  have hnew : s.run.Coherent := Run.coherent_new trials settings
  have hrun : run.Coherent := coherent_after hnew moves
  have htrials : run.trials = trials := after_trials s moves
  have hdescribes : ∀ trial entry, Run.RecordOf run.settings trial entry →
      Run.Describes trial entry := fun _ _ h => h.describes
  obtain ⟨count, hresolved, hcount⟩ : ∃ count, resolved = List.range' 0 count ∧
      run.resolvedCount = 0 + count := collect_resolution hnew moves
  have hlength : resolved.length = run.resolvedCount := by
    rw [hresolved, hcount, List.length_range', Nat.zero_add]
  refine ⟨htrials, hrun.phaseInvariant, ?_, ?_, ?_, ?_, ?_⟩
  · intro token htoken
    exact htrials ▸ hrun.token_lt htoken
  · rw [hresolved, List.length_range', List.range_eq_range']
  · rw [hlength, ← htrials]
    exact hrun.resolvedCount_le
  · intro hhanded
    have hdelivered : run.delivered = false := by
      rcases collect_handover hnew moves with ⟨_, hsame⟩ | ⟨_, _, records, hone, _⟩
      · exact hsame
      · exact absurd (hhanded.symm.trans hone) (by simp)
    rw [hlength, ← htrials]
    exact (hrun.records hdelivered).imp hdescribes
  · rcases collect_handover hnew moves with ⟨hnone, _⟩ | ⟨_, _, records, hone, hrecords⟩
    · have hnone : handed = [] := hnone
      rw [hnone]
      exact ⟨Nat.zero_le 1, by simp⟩
    · have hone : handed = [(.finished, records)] := hone
      rw [hone]
      refine ⟨Nat.le_refl 1, ?_⟩
      intro handover hmem
      obtain rfl := List.mem_singleton.mp hmem
      have hall : List.Forall₂ Run.Describes trials records :=
        hrecords.imp fun _ _ h => h.describes
      exact ⟨rfl, hall.length_eq.symm, hall⟩

end Session

end TimedTrials
