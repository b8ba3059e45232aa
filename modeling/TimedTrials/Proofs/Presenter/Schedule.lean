/-
  TimedTrials/Proofs/Presenter/Schedule.lean
  ==========================================
  **A run at the terminal is one of the schedules.**

  The terminal of `Console.run` lets its reader catch up whenever the loop waits. That is one
  order of the moves among all: whatever the loop does with such a terminal, some schedule of
  reader and run does as well, so that what holds of every schedule holds of it.
-/
import TimedTrials.Proofs.Presenter.Interleaving
import TimedTrials.Proofs.Run.Observation

namespace TimedTrials.Console.Interplay

variable {s : Interplay} {d : Run.Driven Terminal}

/-- A loop that is ready for what comes next, with its terminal as the source. -/
structure Matches (s : Interplay) (d : Run.Driven Terminal) : Prop where
  terminal : s.terminal = d.source
  run : s.run = d.run
  clock : s.clock = d.clock
  ready : s.stage = .ready

/-- Some schedule leads to what the loop comes to. -/
def LeadsTo (s : Interplay) (d : Run.Driven Terminal) : Prop :=
  ∃ moves, (s.after moves).Matches d

theorem LeadsTo.trans {d' : Run.Driven Terminal} (h : s.LeadsTo d)
    (hnext : ∀ s' : Interplay, s'.Matches d → s'.LeadsTo d') : s.LeadsTo d' := by
  obtain ⟨moves, hmatches⟩ := h
  obtain ⟨more, hmore⟩ := hnext _ hmatches
  refine ⟨moves ++ more, ?_⟩
  rw [after_append]
  exact hmore

theorem Matches.give (h : s.Matches d) (event : RunEvent) :
    ((s.give event).step .announce).Matches (d.apply Terminal.observe event) := by
  obtain ⟨terminal, run, clock, stage, told, judged, received⟩ := s
  obtain ⟨run', clock', source, closed, changes, log⟩ := d
  obtain ⟨rfl, rfl, rfl, rfl⟩ := h
  simp only [Interplay.give, Run.Driven.apply, Interplay.step]
  cases (run.handle clock event).accepted with
  | false => exact ⟨rfl, rfl, rfl, rfl⟩
  | true => exact ⟨rfl, rfl, rfl, rfl⟩

theorem Matches.poll (h : s.Matches d) : s.LeadsTo (d.poll Terminal.observe) := by
  rcases Run.Driven.poll_cases Terminal.observe d with ⟨_, hpoll⟩ | ⟨event, hdue, hpoll⟩
  · rw [hpoll]
    exact ⟨[], h⟩
  · rw [hpoll]
    rw [← h.run, ← h.clock] at hdue
    have htimer : s.step .timer = s.give event := by
      simp only [Interplay.step, h.ready, hdue]
    refine ⟨[.timer, .announce], ?_⟩
    rw [show s.after [.timer, .announce] = (s.step .timer).step .announce from rfl, htimer]
    exact h.give event

/-! ### Waiting at the terminal -/

/-- The reader moves and nothing else does. -/
theorem after_reads (s : Interplay) (n : Nat) :
    let s' := s.after (List.replicate n .read)
    s'.terminal = s.terminal.readerMoves n ∧ s'.run = s.run ∧ s'.clock = s.clock ∧
      s'.stage = s.stage := by
  induction n generalizing s with
  | zero => exact ⟨rfl, rfl, rfl, rfl⟩
  | succ n ih => exact ih (s.step .read)

theorem Matches.catchUp (h : s.Matches d) : s.LeadsTo { d with source := d.source.catchUp } := by
  obtain ⟨hterminal, hrun, hclock, hstage⟩ := after_reads s (3 * d.source.lines.length + 3)
  refine ⟨_, ?_, hrun.trans h.run, hclock.trans h.clock, hstage.trans h.ready⟩
  rw [hterminal, h.terminal]
  rfl

theorem Matches.receive (h : s.Matches d) {input : Input} {rest : List Input}
    (hqueue : d.source.channel.queue = input :: rest) :
    s.LeadsTo (Run.Driven.receive Terminal.observe { d with
      source := { d.source with channel := { d.source.channel with queue := rest } } } input) := by
  obtain ⟨terminal, run, clock, stage, told, judged, received⟩ := s
  obtain ⟨run', clock', source, closed, changes, log⟩ := d
  obtain ⟨rfl, rfl, rfl, rfl⟩ := h
  simp only at hqueue
  refine ⟨[.receive, .apply, .announce], ?_⟩
  simp only [after, List.foldl_cons, List.foldl_nil]
  have htaken : Interplay.step ⟨terminal, run, clock, .ready, told, judged, received⟩ .receive =
      ⟨{ terminal with channel := { terminal.channel with queue := rest } }, run, clock,
        .holding input, told, judged, received⟩ := by
    simp only [Interplay.step, hqueue]
  rw [htaken]
  cases input with
  | key name => exact Matches.give ⟨rfl, rfl, rfl, rfl⟩ (.key name)
  | text value => exact Matches.give ⟨rfl, rfl, rfl, rfl⟩ (.textSubmitted value)
  | closed => exact ⟨rfl, rfl, rfl, rfl⟩

theorem Matches.takeInput (h : s.Matches d) :
    s.LeadsTo (d.takeInput Terminal.wait Terminal.observe) := by
  apply h.catchUp.trans
  intro s' h'
  simp only [Run.Driven.takeInput, Terminal.wait]
  unfold Channel.wait
  cases hqueue : d.source.catchUp.channel.queue with
  | cons input rest => exact h'.receive hqueue
  | nil =>
    cases hopen : d.source.catchUp.channel.isOpen with
    | true =>
      -- nothing comes, and the clock may have moved on
      cases d.run.nextDeadline.map (max d.clock.now) with
      | none => exact ⟨[], h'.terminal, h'.run, h'.clock, h'.ready⟩
      | some last =>
        exact ⟨[.wait last], h'.terminal, h'.run, congrArg (·.moveTo last) h'.clock, h'.ready⟩
    | false => exact ⟨[], h'.terminal, h'.run, h'.clock, h'.ready⟩

/-! ### The whole run -/

/-- Where a schedule has come to when the loop has ended. -/
structure Ends (s : Interplay) (out : Run.Ending × Run.Driven Terminal) : Prop where
  terminal : s.terminal = out.2.source
  clock : s.clock = out.2.clock
  concludes : out.1.Concludes s.run out.2.run

theorem LeadsTo.ends {out : Run.Ending × Run.Driven Terminal} (h : s.LeadsTo d)
    (hnext : ∀ s' : Interplay, s'.Matches d → ∃ moves, (s'.after moves).Ends out) :
    ∃ moves, (s.after moves).Ends out := by
  obtain ⟨moves, hmatches⟩ := h
  obtain ⟨more, hmore⟩ := hnext _ hmatches
  refine ⟨moves ++ more, ?_⟩
  rw [after_append]
  exact hmore

/-- **All turns** of the loop are moves of some schedule. -/
theorem Matches.turns {trials : List TrialInstance} (h : s.Matches d)
    (hrun : d.run.UnderWay trials) (fuel : Nat) :
    ∃ moves, (s.after moves).Ends (d.turns Terminal.wait Terminal.observe fuel) := by
  induction fuel generalizing s d with
  | zero => exact ⟨[], h.terminal, h.clock, h.run.symm⟩
  | succ fuel ih =>
    apply h.poll.ends
    intro s' h'
    have hpolled : (d.poll Terminal.observe).run.UnderWay trials := Run.Driven.underWay_poll hrun
    simp only [Run.Driven.turns]
    rcases Run.Driven.next_cases hpolled with ⟨hphase, hnext⟩ | ⟨_, huntimed, _, hnext⟩ |
      ⟨_, _, deadline, _, hnext⟩ | ⟨_, _, hnext⟩
    · simp only [hnext]
      refine ⟨[], h'.terminal, h'.clock, ?_⟩
      rw [← h'.run] at hphase ⊢
      exact ⟨hphase, rfl, rfl⟩
    · simp only [hnext]
      refine ⟨[], h'.terminal, h'.clock, ?_⟩
      rw [← h'.run] at huntimed
      exact ⟨huntimed, h'.run.symm⟩
    · simp only [hnext]
      have hslept : s'.LeadsTo { d.poll Terminal.observe with
          clock := (d.poll Terminal.observe).clock.moveTo deadline } :=
        ⟨[.wait deadline], h'.terminal, h'.run, congrArg (·.moveTo deadline) h'.clock, h'.ready⟩
      exact hslept.ends fun _ hmatches => ih hmatches hpolled
    · simp only [hnext]
      exact h'.takeInput.ends fun _ hmatches =>
        ih hmatches (Run.Driven.underWay_takeInput hpolled)

/-- **A run at the terminal is one of the schedules**, and so its lines arrive as those of any
    schedule do. -/
theorem drive_scheduled (trials : List TrialInstance) (settings : RunSettings) (clock : Clock)
    (lines : List (Nat × String)) (fuel : Nat) :
    ∃ moves, ((new trials settings clock lines).after moves).Ends
      (Run.drive fuel Terminal.wait Terminal.observe (Run.new trials settings) clock
        (Terminal.new lines)) := by
  have hnew : (new trials settings clock lines).Matches
      ⟨Run.new trials settings, clock, Terminal.new lines, false, [], []⟩ :=
    ⟨rfl, rfl, rfl, rfl⟩
  have hstarted : (new trials settings clock lines).LeadsTo
      (Run.started Terminal.observe (Run.new trials settings) clock (Terminal.new lines)) :=
    ⟨[.start, .announce], hnew.give .start⟩
  apply hstarted.ends
  intro s hmatches
  apply hmatches.turns
  rw [Run.started, Run.Driven.apply_run]
  exact Run.underWay_start trials settings clock

end TimedTrials.Console.Interplay
