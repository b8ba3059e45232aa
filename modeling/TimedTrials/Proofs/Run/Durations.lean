/-
  TimedTrials/Proofs/Run/Durations.lean
  =====================================
  **How long things last in a run, and timers that have been waited for.**

  Deadlines are sums that stop at the largest reading of the clock (`Duration.after`). When one
  has been reached its duration has passed, unless there is no later reading at all
  (`Duration.passed_of_after_le`).

  Timers are handed out by a poll and may be applied long after. A timer is `Ripe` when its
  deadline has come or the run has left its stage behind, and it stays so, whatever happens next.
  So a timer that was handed out once is accepted only when it has been waited for
  (`Ripe.reached_of_accepts`), and along a history that is `Genuine` all timers are of this kind.
-/
import TimedTrials.Proofs.Run.Deadlines
import TimedTrials.Proofs.Run.Tokens

namespace TimedTrials

/-! ### Readings beyond the largest one -/

namespace Duration

/-- Cutting a duration off first makes no difference to where it ends. -/
theorem after_clamp (reading ns : Nat) : after reading (clamp ns) = after reading ns := by
  simp only [after, clamp]
  omega

theorem after_ofMillis (reading ms : Nat) :
    after reading (ofMillis ms) = after reading (ms * Calendar.perMilli) :=
  after_clamp reading _

/-- The end of a duration has been reached when the duration has passed, or no reading is left. -/
theorem passed_of_after_le {reading ns now : Nat} (h : after reading ns ≤ now) :
    reading + ns ≤ now ∨ limit ≤ now := by
  simp only [after, clamp] at h
  omega

theorem not_passed_of_lt_after {reading ns now : Nat} (h : now < after reading ns) :
    now < reading + ns := by
  simp only [after, clamp] at h
  omega

theorem after_le_limit (reading ns : Nat) : after reading ns ≤ limit := Nat.min_le_right _ _

theorem le_after {reading : Nat} (h : reading ≤ limit) (ns : Nat) : reading ≤ after reading ns := by
  simp only [after, clamp]
  omega

theorem after_zero {reading : Nat} (h : reading ≤ limit) : after reading 0 = reading :=
  Nat.min_eq_left h

theorem after_sub (reading ns : Nat) : after reading ns - reading = min ns (limit - reading) := by
  simp only [after, clamp]
  omega

theorem after_after (reading ns more : Nat) :
    after (after reading ns) more = after reading (ns + more) := by
  simp only [after, clamp]
  omega

end Duration

/-- How long feedback stays on screen after a trial: as its row says, or else as usual. -/
def RunSettings.holdTime (settings : RunSettings) (trial : TrialInstance) : Nat :=
  (trial.spec.feedbackDurationMs.map (· * Calendar.perMilli)).getD settings.feedbackTime

/-- A trial with a latency times out as much later than its onset. -/
theorem Run.deadline_arm {trial : TrialInstance} {ms : Nat}
    (h : trial.spec.latencyMs = some ms) (settings : RunSettings) (token : Token) (onset : Nat) :
    (arm settings trial token onset).deadline =
      some (Duration.after onset (ms * Calendar.perMilli)) := by
  have hdeadline : (arm settings trial token onset).deadline =
      trial.spec.latencyMs.map fun ms => Duration.after onset (Duration.ofMillis ms) := rfl
  rw [hdeadline, h, Option.map_some, Duration.after_ofMillis]

theorem Run.holdUntil_feedbackAfter (settings : RunSettings) (trial : TrialInstance)
    (token : Token) (now : Nat) (message : String) :
    (feedbackAfter settings trial token now message).holdUntil =
      Duration.after now (settings.holdTime trial) := by
  unfold feedbackAfter RunSettings.holdTime
  cases trial.spec.feedbackDurationMs with
  | none => rw [Option.map_none, Option.map_none]
  | some ms =>
    rw [Option.map_some, Option.map_some, Option.getD_some, Option.getD_some]
    exact Duration.after_ofMillis now ms

/-! ### Timers that have been waited for -/

/-- What a poll hands out. -/
def RunEvent.isTimer : RunEvent → Bool
  | .timeout _ | .feedbackElapsed _ => true
  | .start | .key _ | .textSubmitted _ => false

/-- The stage of a run at which a timer can be accepted. -/
def RunEvent.dueStage : RunEvent → Nat
  | .timeout token => 2 * token.generation
  | .feedbackElapsed token => 2 * token.generation + 1
  | .start | .key _ | .textSubmitted _ => 0

namespace Run

variable {r r' : Run} {clock : Clock} {event : RunEvent} {now : Nat}

theorem Coherent.dueStage_of_due (h : r.Coherent) (hdue : r.due now = some event) :
    event.dueStage = r.stage := by
  cases hphase : r.phase with
  | idle => simp only [due, hphase, reduceCtorEq] at hdue
  | finished => simp only [due, hphase, reduceCtorEq] at hdue
  | presenting =>
    obtain ⟨trial, onset, _, hactive, _⟩ := h.presenting hphase
    simp only [due, hphase, hactive, Option.bind_some, Option.ite_none_right_eq_some,
      Option.some.injEq] at hdue
    obtain ⟨_, rfl⟩ := hdue
    simp only [RunEvent.dueStage, stage, hphase, arm]
  | resolved =>
    obtain ⟨trial, feedback, _, _, hshown, htoken⟩ := h.resolved hphase
    simp only [due, hphase, hshown, Option.bind_some, Option.ite_none_right_eq_some,
      Option.some.injEq] at hdue
    obtain ⟨_, rfl⟩ := hdue
    simp only [RunEvent.dueStage, stage, hphase, htoken]

/-- A timer is accepted at its own stage only. -/
theorem Coherent.dueStage_of_accepts (h : r.Coherent) (htimer : event.isTimer = true)
    (haccepts : Accepts clock r event r') : event.dueStage = r.stage := by
  cases haccepts with
  | start => cases htimer
  | @answer _ live trial answer hphase hlive hanswer =>
    obtain ⟨_, onset, rfl⟩ := h.live hphase hlive
    cases answers_of_answerTo hanswer with
    | key => cases htimer
    | text => cases htimer
    | timeout => simp only [RunEvent.dueStage, stage, hphase, arm]
  | @elapsed feedback hphase hshown =>
    have htoken := (h.resolved_of_shown (by rw [hshown]; rfl)).2
    simp only [RunEvent.dueStage, stage, hphase, htoken]

/-- The next deadline has come. -/
def Reached (r : Run) (now : Nat) : Prop :=
  ∃ deadline, r.nextDeadline = some deadline ∧ deadline ≤ now

theorem reached_of_due (hdue : r.due now = some event) : r.Reached now := by
  by_contra hnot
  have hnone : r.due now = none := due_eq_none_iff.mpr fun deadline hdeadline =>
    Nat.not_le.mp fun hle => hnot ⟨deadline, hdeadline, hle⟩
  cases hdue.symm.trans hnone

end Run

namespace Session

variable {s : Session} {event : RunEvent}

/-- A timer whose deadline has come, or whose stage the run has left behind. -/
structure Ripe (s : Session) (event : RunEvent) : Prop where
  stage_le : event.dueStage ≤ s.run.stage
  reached : event.dueStage = s.run.stage → s.run.Reached s.clock.now

theorem ripe_of_due (h : s.run.Coherent) (hdue : s.run.due s.clock.now = some event) :
    s.Ripe event :=
  ⟨Nat.le_of_eq (h.dueStage_of_due hdue), fun _ => Run.reached_of_due hdue⟩

/-- What has been waited for once need not be waited for again. -/
theorem Ripe.step (h : s.Ripe event) (move : Move) : (s.step move).Ripe event := by
  cases move with
  | send other =>
    rcases Run.handle_cases s.run s.clock other with ⟨_, hrun⟩ | ⟨_, haccepts⟩
    · rw [Session.step, hrun]
      exact h
    · -- the run has come to another stage
      have hlt := haccepts.stage_lt
      have hle := h.stage_le
      refine ⟨Nat.le_trans hle (Nat.le_of_lt hlt), fun heq => ?_⟩
      simp only [Session.step] at heq
      omega
  | poll => exact h
  | take =>
    rcases Run.takeRecords_cases s.run with ⟨htake, _⟩ | ⟨_, _, htake⟩
    · rw [Session.step, htake]
      exact h
    · rw [Session.step, htake]
      exact ⟨h.stage_le, h.reached⟩
  | wait reading =>
    refine ⟨h.stage_le, fun heq => ?_⟩
    obtain ⟨deadline, hdeadline, hle⟩ := h.reached heq
    exact ⟨deadline, hdeadline, Nat.le_trans hle (Nat.le_max_left _ _)⟩

/-- **A timer is accepted only when it has been waited for**, as long as it was due at some time
    before. -/
theorem Ripe.reached_of_accepts (h : s.Ripe event) (hrun : s.run.Coherent)
    (htimer : event.isTimer = true) {r' : Run} (haccepts : Run.Accepts s.clock s.run event r') :
    s.run.Reached s.clock.now :=
  h.reached (hrun.dueStage_of_accepts htimer haccepts)

/-! ### Genuine histories -/

/-- The event that a move sends, if it sends one. -/
def sent? : Move → Option RunEvent
  | .send event => some event
  | .poll | .take | .wait _ => none

/-- What a move is told about timers that are due. -/
def handedOut (s : Session) : Move → List RunEvent
  | .poll => (s.run.due s.clock.now).toList
  | _ => []

/-- Along a history the only timers that are sent are those known at first and those that have
    been handed out on the way, however long ago. Keys and texts may come as they like. -/
def Genuine (known : List RunEvent) : Session → List Move → Prop
  | _, [] => True
  | s, move :: moves =>
    (∀ event ∈ sent? move, event.isTimer = true → event ∈ known) ∧
      Genuine (known ++ s.handedOut move) (s.step move) moves

instance decidableGenuine : (known : List RunEvent) → (s : Session) → (moves : List Move) →
    Decidable (Genuine known s moves)
  | _, _, [] => isTrue trivial
  | known, s, move :: moves =>
    have := decidableGenuine (known ++ s.handedOut move) (s.step move) moves
    inferInstanceAs (Decidable
      ((∀ event ∈ sent? move, event.isTimer = true → event ∈ known) ∧
        Genuine (known ++ s.handedOut move) (s.step move) moves))

/-- All timers that are known have been waited for. -/
def AllRipe (s : Session) (known : List RunEvent) : Prop := ∀ event ∈ known, s.Ripe event

theorem AllRipe.step {known : List RunEvent} (h : s.AllRipe known) (hrun : s.run.Coherent)
    (move : Move) : (s.step move).AllRipe (known ++ s.handedOut move) := by
  intro event hevent
  rcases List.mem_append.mp hevent with hknown | hnow
  · exact (h event hknown).step move
  · cases move with
    | poll => exact ripe_of_due hrun (Option.mem_toList.mp hnow)
    | send => cases hnow
    | take => cases hnow
    | wait => cases hnow

end Session

end TimedTrials
