/-
  TimedTrials/Proofs/Run/Polling.lean
  ===================================
  **The deadline that is waited for and the timer that is asked for are one and the same.**

  A loop sleeps until the next deadline and then asks which timer is due. What is on screen has one
  timer (`Run.timer?`), and it is due from the next deadline on and not before
  (`Run.due_eq_some_iff`). While something is on screen a run only moves by an event that it accepts
  (`Session.run_after_of_accepted_eq_nil`), so a timer that was found due may be applied later: it
  is accepted at any reading, as long as nothing else has been (`Session.history_timers`).
-/
import TimedTrials.Proofs.Run.Tokens

namespace TimedTrials

namespace Run

variable {r : Run} {now : Nat} {event : RunEvent}

/-! ### The timer of what is on screen -/

/-- The event that ends what is on screen when its time is over: the timeout of the trial, or the
    end of the feedback. -/
def timer? (r : Run) : Option RunEvent :=
  match r.phase with
  | .presenting => r.active.map fun live => .timeout live.token
  | .resolved => r.shown.map fun shown => .feedbackElapsed shown.token
  | .idle | .finished => none

/-- **What is due is the timer of what is on screen**, from the next deadline on. -/
theorem due_eq_some_iff : r.due now = some event ↔
    (∃ deadline, r.nextDeadline = some deadline ∧ deadline ≤ now) ∧ r.timer? = some event := by
  cases hphase : r.phase with
  | idle => simp only [due, timer?, hphase, reduceCtorEq, and_false]
  | finished => simp only [due, timer?, hphase, reduceCtorEq, and_false]
  | presenting =>
    cases hactive : r.active with
    | none => simp [due, timer?, hphase, hactive]
    | some live =>
      rw [nextDeadline_of_active hphase hactive]
      cases hdeadline : live.deadline <;> simp [due, timer?, *]
  | resolved =>
    cases hshown : r.shown with
    | none => simp [due, timer?, hphase, hshown]
    | some feedback =>
      rw [nextDeadline_of_shown hphase hshown]
      simp [due, timer?, hphase, hshown]

/-- A timer is due just when the next deadline has been reached. -/
theorem exists_due_iff : (∃ event, r.due now = some event) ↔
    ∃ deadline, r.nextDeadline = some deadline ∧ deadline ≤ now := by
  constructor
  · rintro ⟨event, hdue⟩
    exact (due_eq_some_iff.mp hdue).1
  · rintro ⟨deadline, hdeadline, hle⟩
    exact Option.isSome_iff_exists.mp (due_isSome_of_le hdeadline hle)

end Run

namespace Session

variable {s : Session} {move : Move} {moves : List Move}

/-! ### Runs that stay where they are -/

/-- The event that a move gets accepted. -/
def accepted (s : Session) : Move → List RunEvent
  | .send event => if (s.run.handle s.clock event).accepted then [event] else []
  | _ => []

/-- With something on screen there are no records to take yet, so that nothing but an accepted
    event moves the run. -/
theorem run_step_of_accepted_eq_nil (hrunning : s.run.phase.isRunning = true)
    (h : s.accepted move = []) : (s.step move).run = s.run := by
  cases move with
  | send event =>
    rcases Run.handle_cases s.run s.clock event with ⟨_, hrun⟩ | ⟨haccepted, _⟩
    · exact hrun
    · simp only [accepted, haccepted, if_true, reduceCtorEq] at h
  | poll => rfl
  | take =>
    rcases Run.takeRecords_cases s.run with ⟨htake, _⟩ | ⟨hphase, _, _⟩
    · rw [step, htake]
    · rw [hphase] at hrunning
      exact absurd hrunning (by decide)
  | wait reading => rfl

theorem run_after_of_accepted_eq_nil (hrunning : s.run.phase.isRunning = true)
    (h : collect accepted s moves = []) : (s.after moves).run = s.run := by
  induction moves generalizing s with
  | nil => rfl
  | cons move moves ih =>
    rw [collect, List.append_eq_nil_iff] at h
    have hstep := run_step_of_accepted_eq_nil hrunning h.1
    have hrest : ((s.step move).after moves).run = (s.step move).run :=
      ih (hstep ▸ hrunning) h.2
    exact hrest.trans hstep

/-- A timer that was due is accepted at whatever reading it is applied, as long as no other event
    has been accepted before it. -/
theorem accepted_of_due (h : s.run.Coherent) {now : Nat} {event : RunEvent}
    (hdue : s.run.due now = some event) (hbetween : collect accepted s moves = []) (later : Clock) :
    ((s.after moves).run.handle later event).accepted = true := by
  obtain ⟨⟨deadline, hdeadline, _⟩, _⟩ := Run.due_eq_some_iff.mp hdue
  rw [run_after_of_accepted_eq_nil (Run.isRunning_of_nextDeadline hdeadline) hbetween]
  exact h.due_accepted hdue later

/-- **Deadline and poll agree after any history, at any reading.** When the next deadline has been
    reached, asking for timers gives one event, the timer of what is on screen, and that event is
    accepted at any reading after any moves that got nothing else accepted. When there is no
    deadline, or it lies ahead, asking gives none. Asking changes nothing. -/
theorem history_timers (trials : List TrialInstance) (settings : RunSettings) (clock : Clock)
    (moves : List Move) (now : Nat) :
    let s := (start trials settings clock).after moves
    ((∃ deadline, s.run.nextDeadline = some deadline ∧ deadline ≤ now) →
      ∃ event, (s.run.due now).toList = [event] ∧ s.run.timer? = some event ∧
        ∀ between, collect accepted s between = [] → ∀ later : Clock,
          ((s.after between).run.handle later event).accepted = true) ∧
      ((∀ deadline, s.run.nextDeadline = some deadline → now < deadline) →
        (s.run.due now).toList = []) ∧
      s.step .poll = s := by
  intro s
  have hrun : s.run.Coherent := coherent_after (Run.coherent_new trials settings) moves
  refine ⟨?_, ?_, rfl⟩
  · intro hreached
    obtain ⟨event, hdue⟩ := Run.exists_due_iff.mpr hreached
    refine ⟨event, by rw [hdue]; rfl, (Run.due_eq_some_iff.mp hdue).2, ?_⟩
    intro between hbetween later
    exact accepted_of_due hrun hdue hbetween later
  · intro hahead
    rw [Run.due_eq_none_iff.mpr hahead]
    rfl

/-- A trial with a key and a latency of 100 ms, on screen since the reading 5. -/
def timedSession : Session :=
  (start [⟨{ TrialSpec.timed 1 1 "go" 100 with response := .keys ["a"] }, 1, .fixed 1, 0⟩]
    .standard ⟨0, 5⟩).after [.send .start]

/-- Its timeout is due at the deadline and not before. A key that is none of its own, a timeout of
    another presentation, an attempt to take the records and more time come in between, and the
    timeout is accepted all the same. -/
theorem history_timers_lateTimeout :
    let between : List Move :=
      [.send (.key "b"), .wait 300000000, .send (.timeout ⟨0, 7⟩), .take, .poll]
    timedSession.run.nextDeadline = some 100000005 ∧
      (timedSession.run.due 100000004).toList = [] ∧
      (timedSession.run.due 100000005).toList = [.timeout ⟨0, 1⟩] ∧
      collect accepted timedSession between = [] ∧
      ((timedSession.after between).run.handle ⟨0, 300000000⟩ (.timeout ⟨0, 1⟩)).accepted =
        true := by
  intro between
  have hdeadline : timedSession.run.nextDeadline = some 100000005 := by cbv
  have htoken : timedSession.run.timer? = some (.timeout ⟨0, 1⟩) := by rfl
  have hbetween : collect accepted timedSession between = [] := by rfl
  have htimers := history_timers [⟨{ TrialSpec.timed 1 1 "go" 100 with response := .keys ["a"] }, 1,
    .fixed 1, 0⟩] .standard ⟨0, 5⟩ [.send .start]
  obtain ⟨event, hevent, htimer, haccepted⟩ :=
    (htimers 100000005).1 ⟨100000005, hdeadline, Nat.le_refl _⟩
  obtain rfl := Option.some.inj (htoken.symm.trans htimer)
  refine ⟨hdeadline, (htimers 100000004).2.1 ?_, hevent, hbetween, haccepted between hbetween _⟩
  intro deadline h
  obtain rfl := Option.some.inj (hdeadline.symm.trans h)
  decide

end Session

end TimedTrials
