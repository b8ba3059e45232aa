/-
  TimedTrials/Proofs/Run/Observation.lean
  =======================================
  **What an observer sees of a run in its loop.**

  `Driven.given` lists the events that the loop gives to its run, whatever the source of input:
  timers that are due and inputs that the source brings. They account for what becomes of the run
  (`Gives`), and those of them that are accepted are the changes of the loop (`Reacts`). The
  observer of a source that writes down all it is shown has exactly these changes in its notebook
  (`Keeps`), so that what was said about the phases of a run holds of what is observed.
-/
import TimedTrials.Proofs.Run.Attribution
import TimedTrials.Proofs.Run.Phases

namespace TimedTrials.Run

/-! ### Events given to a run -/

/-- An event that is given to a run, and the clock as it is then. -/
structure Given where
  run : Run
  clock : Clock
  event : RunEvent

namespace Given

/-- The run just after it. -/
def after (g : Given) : Run := (g.run.handle g.clock g.event).run

/-- The change that it makes if the run accepts it. -/
def change? (g : Given) : Option Change :=
  if (g.run.handle g.clock g.event).accepted then some ⟨g.clock.now, g.after⟩ else none

/-- It is refused and changes nothing, or the run accepts it. -/
theorem change?_cases (g : Given) :
    (g.change? = none ∧ g.after = g.run) ∨
      (g.change? = some ⟨g.clock.now, g.after⟩ ∧ Accepts g.clock g.run g.event g.after) := by
  unfold change? after
  rcases handle_cases g.run g.clock g.event with ⟨hrefused, hrun⟩ | ⟨haccepted, haccepts⟩
  · left
    rw [hrefused]
    exact ⟨rfl, hrun⟩
  · right
    rw [haccepted]
    exact ⟨rfl, haccepts⟩

end Given

/-- Events that are given one after the other lead from one run to another: each is given to the
    run that the one before it has left. -/
inductive Gives : Run → List Given → Run → Prop where
  | nil (r : Run) : Gives r [] r
  | cons (g : Given) {rest : List Given} {last : Run} (hrest : Gives g.after rest last) :
      Gives g.run (g :: rest) last

theorem Gives.append {r s t : Run} {before after : List Given} (hbefore : Gives r before s)
    (hafter : Gives s after t) : Gives r (before ++ after) t := by
  induction hbefore with
  | nil => exact hafter
  | cons g _ ih => exact .cons g (ih hafter)

/-- What is kept by every event is kept by all of them. -/
theorem Gives.preserves {P : Run → Prop}
    (hstep : ∀ r clock event, P r → P (r.handle clock event).run) {r last : Run}
    {given : List Given} (h : Gives r given last) (hr : P r) : P last := by
  induction h with
  | nil => exact hr
  | cons g _ ih => exact ih (hstep g.run g.clock g.event hr)

/-- **The phases that the changes lead to** are those that the run comes through. -/
theorem Gives.passage_eq {r last : Run} {given : List Given} (h : Gives r given last)
    (hidle : r.phase = .idle → r.records = []) :
    passage last.phase last.records =
      passage r.phase r.records ++ (given.filterMap Given.change?).map (·.run.phase) := by
  induction h with
  | nil r => exact (List.append_nil _).symm
  | cons g _ ih =>
    rcases g.change?_cases with ⟨hnone, hafter⟩ | ⟨hsome, haccepts⟩
    · rw [ih (by rw [hafter]; exact hidle), hafter, List.filterMap_cons_none hnone]
    · have hphase := haccepts.phase_ne_idle
      have hone : passage g.after.phase g.after.records =
          passage g.run.phase g.run.records ++ [g.after.phase] :=
        haccepts.passage_eq [] hidle
      rw [ih (fun h => absurd h hphase), hone, List.filterMap_cons_some hsome, List.map_cons,
        List.append_assoc, List.singleton_append]

/-! ### Events in the loop -/

/-- What an ending says of the run that it came to, and what is left of that run: the records of a
    complete one are handed out, one that is given up waits for an input that will not come. -/
def Ending.Concludes (reached last : Run) : Ending → Prop
  | .complete records =>
    reached.phase = .finished ∧ reached.records = records ∧ last = reached.takeRecords.2
  | .abandoned => reached.Untimed ∧ last = reached
  | .unfinished => last = reached

namespace Driven

variable {σ : Type} {wait : Wait σ} {observe : σ → Change → σ} {trials : List TrialInstance}
  {d d' d'' : Driven σ} {before after : List Given}

/-- A timer that is due is given to the run. -/
def timerGiven (d : Driven σ) : List Given :=
  ((d.run.due d.clock.now).map fun event => ⟨d.run, d.clock, event⟩).toList

/-- The input that a wait brings is given to the run, with the clock as the source leaves it. -/
def inputGiven (wait : Wait σ) (d : Driven σ) : List Given :=
  let waited := wait d.source d.clock (d.run.nextDeadline.map (max d.clock.now))
  ((waited.input.bind Input.event?).map fun event => ⟨d.run, waited.clock, event⟩).toList

/-- All events that the loop gives to its run in so many turns. -/
def given (wait : Wait σ) (observe : σ → Change → σ) : Nat → Driven σ → List Given
  | 0, _ => []
  | fuel + 1, d =>
    let polled := d.poll observe
    d.timerGiven ++
      match polled.next with
      | .done _ _ => []
      | .sleep deadline =>
        given wait observe fuel { polled with clock := polled.clock.moveTo deadline }
      | .await => polled.inputGiven wait ++ given wait observe fuel (polled.takeInput wait observe)

/-- The loop has given these events to its run and counts those that were accepted as changes. -/
structure Reacts (d : Driven σ) (given : List Given) (d' : Driven σ) : Prop where
  gives : Gives d.run given d'.run
  changes : d'.changes = d.changes ++ given.filterMap Given.change?

/-- Nothing is given where neither the run nor the changes are touched. -/
theorem reacts_nil (hrun : d'.run = d.run) (hchanges : d'.changes = d.changes) :
    Reacts d [] d' where
  gives := by
    rw [hrun]
    exact .nil _
  changes := by rw [hchanges, List.filterMap_nil, List.append_nil]

theorem apply_changes (observe : σ → Change → σ) (d : Driven σ) (event : RunEvent) :
    (d.apply observe event).changes =
      d.changes ++ (Given.change? ⟨d.run, d.clock, event⟩).toList := by
  simp only [apply, Given.change?, Given.after]
  split
  · rfl
  · exact (List.append_nil _).symm

theorem reacts_apply (observe : σ → Change → σ) (d : Driven σ) (event : RunEvent) :
    Reacts d [⟨d.run, d.clock, event⟩] (d.apply observe event) where
  gives := by
    rw [apply_run]
    exact .cons ⟨d.run, d.clock, event⟩ (.nil _)
  changes := by
    rw [apply_changes]
    cases hchange : Given.change? ⟨d.run, d.clock, event⟩ with
    | none => rw [List.filterMap_cons_none hchange, List.filterMap_nil, Option.toList_none]
    | some change =>
      rw [List.filterMap_cons_some hchange, List.filterMap_nil, Option.toList_some]

theorem reacts_poll (observe : σ → Change → σ) (d : Driven σ) :
    Reacts d d.timerGiven (d.poll observe) := by
  rcases poll_cases observe d with ⟨hdue, hpoll⟩ | ⟨event, hdue, hpoll⟩
  · rw [hpoll, timerGiven, hdue]
    exact reacts_nil rfl rfl
  · rw [hpoll, timerGiven, hdue]
    exact reacts_apply observe d event

/-- An input is given as the event that it is; the end of all input is none. -/
theorem reacts_receive (observe : σ → Change → σ) (d : Driven σ) (input : Input) :
    Reacts d (input.event?.map fun event => ⟨d.run, d.clock, event⟩).toList
      (d.receive observe input) := by
  cases input with
  | key name => exact reacts_apply observe d (.key name)
  | text value => exact reacts_apply observe d (.textSubmitted value)
  | closed => exact reacts_nil rfl rfl

theorem reacts_takeInput (wait : Wait σ) (observe : σ → Change → σ) (d : Driven σ) :
    Reacts d (d.inputGiven wait) (d.takeInput wait observe) := by
  simp only [inputGiven, takeInput]
  cases (wait d.source d.clock (d.run.nextDeadline.map (max d.clock.now))).input with
  | none => exact reacts_nil rfl rfl
  | some input =>
    -- the wait itself changes the clock and the source, and the input comes after it
    have hreceives := reacts_receive observe { d with
      clock := (wait d.source d.clock (d.run.nextDeadline.map (max d.clock.now))).clock
      source := (wait d.source d.clock (d.run.nextDeadline.map (max d.clock.now))).source } input
    exact ⟨hreceives.gives, hreceives.changes⟩

/-- The events that a loop gave to its run account for the run that it came to and for its changes,
    whichever way it ended. -/
structure Accounted (d : Driven σ) (given : List Given) (out : Ending × Driven σ) : Prop where
  gives : ∃ reached, Gives d.run given reached ∧ out.1.Concludes reached out.2.run
  changes : out.2.changes = d.changes ++ given.filterMap Given.change?

/-- What has been given before comes before what is given then. -/
theorem Reacts.accounted {out : Ending × Driven σ} (hbefore : Reacts d before d')
    (hafter : Accounted d' after out) : Accounted d (before ++ after) out where
  gives := by
    obtain ⟨reached, hgives, hconcludes⟩ := hafter.gives
    exact ⟨reached, hbefore.gives.append hgives, hconcludes⟩
  changes := by
    rw [hafter.changes, hbefore.changes, List.filterMap_append, List.append_assoc]

/-- **All turns** are accounted for by the events that the loop gives to its run. -/
theorem accounted_turns (wait : Wait σ) (observe : σ → Change → σ) (fuel : Nat)
    (hrun : d.run.UnderWay trials) :
    Accounted d (d.given wait observe fuel) (d.turns wait observe fuel) := by
  induction fuel generalizing d with
  | zero => exact ⟨⟨d.run, .nil _, rfl⟩, (List.append_nil _).symm⟩
  | succ fuel ih =>
    have hpolled : (d.poll observe).run.UnderWay trials := underWay_poll hrun
    simp only [given, turns]
    apply (reacts_poll observe d).accounted
    rcases next_cases hpolled with
      ⟨hphase, hnext⟩ | ⟨_, huntimed, _, hnext⟩ | ⟨_, _, deadline, _, hnext⟩ | ⟨_, _, hnext⟩
    · simp only [hnext]
      exact ⟨⟨_, .nil _, hphase, rfl, rfl⟩, (List.append_nil _).symm⟩
    · simp only [hnext]
      exact ⟨⟨_, .nil _, huntimed, rfl⟩, (List.append_nil _).symm⟩
    · simp only [hnext]
      have hsleeps : Reacts (d.poll observe) []
          { d.poll observe with clock := (d.poll observe).clock.moveTo deadline } :=
        reacts_nil rfl rfl
      exact hsleeps.accounted (ih hpolled)
    · simp only [hnext]
      exact (reacts_takeInput wait observe _).accounted (ih (underWay_takeInput hpolled))

end Driven

/-! ### Notebooks -/

section Notebooks

variable {σ : Type}

/-- A source that has a notebook beside it waits as it does without. -/
def besideNotebook (wait : Wait σ) : Wait (σ × List Change) := fun source clock limit =>
  let waited := wait source.1 clock limit
  ⟨waited.input, waited.clock, (waited.source, source.2)⟩

/-- A change is shown to the source and written down in its notebook. -/
def noting (observe : σ → Change → σ) (source : σ × List Change) (change : Change) :
    σ × List Change :=
  (observe source.1 change, source.2 ++ [change])

namespace Driven

variable {wait : Wait σ} {observe : σ → Change → σ} {d : Driven (σ × List Change)}

/-- The notebook has the changes of the loop, each of them once. -/
def Keeps (d : Driven (σ × List Change)) : Prop := d.source.2 = d.changes

theorem keeps_apply (h : d.Keeps) (event : RunEvent) : (d.apply (noting observe) event).Keeps := by
  simp only [apply]
  split
  · exact congrArg (· ++ _) h
  · exact h

theorem keeps_poll (h : d.Keeps) : (d.poll (noting observe)).Keeps := by
  rcases poll_cases (noting observe) d with ⟨_, hpoll⟩ | ⟨event, _, hpoll⟩
  · rw [hpoll]
    exact h
  · rw [hpoll]
    exact keeps_apply h event

theorem keeps_receive (h : d.Keeps) (input : Input) : (d.receive (noting observe) input).Keeps := by
  cases input with
  | key name => exact keeps_apply h _
  | text value => exact keeps_apply h _
  | closed => exact h

theorem keeps_takeInput (h : d.Keeps) :
    (d.takeInput (besideNotebook wait) (noting observe)).Keeps := by
  simp only [takeInput]
  split
  · apply keeps_receive
    exact h
  · exact h

theorem keeps_next {ending : Ending} {last : Driven (σ × List Change)} (h : d.Keeps)
    (hnext : d.next = .done ending last) : last.Keeps := by
  simp only [next] at hnext
  split at hnext
  · split at hnext
    · obtain ⟨_, rfl⟩ := Next.done.inj hnext
      exact h
    · obtain ⟨_, rfl⟩ := Next.done.inj hnext
      exact h
  · split at hnext
    · split at hnext
      · cases hnext
      · obtain ⟨_, rfl⟩ := Next.done.inj hnext
        exact h
    · cases hnext

/-- **The notebook is complete** however long the loop goes on. -/
theorem keeps_turns (fuel : Nat) (h : d.Keeps) :
    (d.turns (besideNotebook wait) (noting observe) fuel).2.Keeps := by
  induction fuel generalizing d with
  | zero => exact h
  | succ fuel ih =>
    have hpolled : (d.poll (noting observe)).Keeps := keeps_poll h
    rw [turns]
    cases hnext : (d.poll (noting observe)).next with
    | done ending last => exact keeps_next hpolled hnext
    | sleep deadline => exact ih hpolled
    | await => exact ih (keeps_takeInput hpolled)

end Driven

end Notebooks

/-! ### Observed runs -/

section Observed

variable {σ : Type}

/-- All events that driving a run gives to it, the start first. -/
def givenBy (fuel : Nat) (wait : Wait σ) (observe : σ → Change → σ) (run : Run) (clock : Clock)
    (source : σ) : List Given :=
  ⟨run, clock, .start⟩ :: (started observe run clock source).given wait observe fuel

variable (trials : List TrialInstance) (settings : RunSettings) (clock : Clock)

/-- Driving a new run is accounted for from its start. -/
theorem accounted_drive (fuel : Nat) (wait : Wait σ) (observe : σ → Change → σ) (source : σ) :
    Driven.Accounted ⟨Run.new trials settings, clock, source, false, [], []⟩
      (givenBy fuel wait observe (Run.new trials settings) clock source)
      (drive fuel wait observe (Run.new trials settings) clock source) := by
  have hunderWay : (started observe (Run.new trials settings) clock source).run.UnderWay trials := by
    rw [started, Driven.apply_run]
    exact underWay_start trials settings clock
  have hstart := Driven.reacts_apply observe
    ⟨Run.new trials settings, clock, source, false, [], []⟩ .start
  exact hstart.accounted (Driven.accounted_turns wait observe fuel hunderWay)

/-- The changes that events make to a new run account for the records that it has then. -/
theorem Gives.accounts {given : List Given} {reached : Run}
    (h : Gives (Run.new trials settings) given reached) :
    Accounts trials reached.phase reached.records
      ((given.filterMap Given.change?).map (·.run.phase)) := by
  have hkept : reached.Coherent ∧ reached.delivered = false ∧ reached.trials = trials := by
    refine h.preserves
      (P := fun r => r.Coherent ∧ r.delivered = false ∧ r.trials = trials) ?_
      ⟨coherent_new trials settings, rfl, rfl⟩
    intro r clock event hr
    obtain ⟨hcoherent, hdelivered, htrials⟩ := hr
    have hgoes := goesOn_handle r clock event
    exact ⟨hcoherent.handle clock event, hgoes.delivered.trans hdelivered,
      hgoes.trials.trans htrials⟩
  obtain ⟨hcoherent, hdelivered, htrials⟩ := hkept
  have hpassage : passage reached.phase reached.records =
      (given.filterMap Given.change?).map (·.run.phase) := h.passage_eq fun _ => rfl
  have haccounts := hcoherent.accounts (hcoherent.length_records hdelivered)
  rw [hpassage, htrials] at haccounts
  exact haccounts

end Observed

/-- **Progress is bounded and observed.** After any history of a new run, in whatever order events,
    polls and readings of the clock came, the accepted events are accounted for: a finished run has
    taken one for the end, one for each trial and one for each feedback, and takes no more after
    that, whatever follows; a run that is not finished has taken at most two for each trial. And
    whatever the source of input: the observer of a driven run is shown just the accepted ones of
    all events that were given to the run, and on a complete run it sees each trial presented, its
    feedback if it has any, and then the end. -/
theorem progress_observed (trials : List TrialInstance) (settings : RunSettings) (clock : Clock) :
    (∀ moves : List Move,
      let s := Session.start trials settings clock
      Accounts trials (s.after moves).run.phase (s.results moves)
          (Session.collect Session.entered s moves) ∧
        ((s.after moves).run.phase = .finished → ∀ (later : List Move) (event : RunEvent),
          let t := (s.after moves).after later
          (t.run.handle t.clock event).accepted = false)) ∧
      ∀ (σ : Type) (wait : Wait σ) (observe : σ → Change → σ) (source : σ) (fuel : Nat),
        let run := Run.new trials settings
        let out := drive fuel (besideNotebook wait) (noting observe) run clock (source, [])
        let given := givenBy fuel (besideNotebook wait) (noting observe) run clock (source, [])
        let seen := out.2.source.2
        seen = given.filterMap Given.change? ∧
          (∃ reached, Gives run given reached ∧ out.1.Concludes reached out.2.run ∧
            Accounts trials reached.phase reached.records (seen.map (·.run.phase))) ∧
          ∀ records, out.1 = .complete records →
            seen.map (·.run.phase) = records.flatMap phasesOf ++ [.finished] := by
  constructor
  · intro moves s
    refine ⟨Session.accounts_after trials settings clock moves, ?_⟩
    intro hfinished later event t
    exact refuses_of_finished (Session.finished_after hfinished later) t.clock event
  · intro σ wait observe source fuel run out given seen
    have hkeeps : out.2.Keeps := by
      apply Driven.keeps_turns
      exact Driven.keeps_apply (d := ⟨run, clock, (source, []), false, [], []⟩) rfl .start
    have haccounted := accounted_drive trials settings clock fuel (besideNotebook wait)
      (noting observe) (source, [])
    have hseen : seen = given.filterMap Given.change? := hkeeps.trans haccounted.changes
    obtain ⟨reached, hgives, hconcludes⟩ := haccounted.gives
    have haccounts := hgives.accounts
    rw [← hseen] at haccounts
    refine ⟨hseen, ⟨reached, hgives, hconcludes, haccounts⟩, ?_⟩
    intro records hcomplete
    have hconcludes : out.1.Concludes reached out.2.run := hconcludes
    rw [hcomplete] at hconcludes
    obtain ⟨hphase, hrecords, _⟩ := hconcludes
    rw [haccounts.passage, hphase, hrecords]
    rfl

theorem progress_observed_praisedTrials :
    let second := { praisedTrial with sequencePosition := 1 }
    let run := Run.new [praisedTrial, second] (.ofMillis 1000 none)
    let records := [record ⟨0, Duration.ofMillis 60⟩ praisedTrial 0 (.key "a"),
      record ⟨0, Duration.ofMillis 210⟩ second (Duration.ofMillis 110) .timeout]
    ∃ last, drive 12 (besideNotebook Script.wait) (noting unobserved) run ⟨0, 0⟩
        (praisedScript, []) = (.complete records, last) ∧
      last.source.2.map (·.run.phase) = records.flatMap phasesOf ++ [.finished] ∧
      records.flatMap phasesOf = [.presenting, .resolved, .presenting, .resolved] := by
  intro second run records
  have hending : (drive 12 (besideNotebook Script.wait) (noting unobserved) run ⟨0, 0⟩
      (praisedScript, [])).1 = .complete records := by
    decide +kernel
  have hphases :=
    ((progress_observed [praisedTrial, second] (.ofMillis 1000 none) ⟨0, 0⟩).2 Script Script.wait
      unobserved praisedScript 12).2.2 records hending
  generalize drive 12 (besideNotebook Script.wait) (noting unobserved) run ⟨0, 0⟩
    (praisedScript, []) = out at hending hphases ⊢
  obtain ⟨ending, last⟩ := out
  exact ⟨last, congrArg (·, last) hending, hphases, rfl⟩

end TimedTrials.Run
