/-
  TimedTrials/Proofs/Presenter/Interleaving.lean
  ==============================================
  **Reader and run side by side, in any order of their moves.**

  The reader of a terminal takes a line, judges it by the note of what is expected, and sends
  the input. The loop of the run gives events to it, announces each change, which is when the
  note is written, and takes inputs from the channel. `Interplay` holds both, and a schedule is
  any list of their moves.

  No line is lost and none overtakes another (`Sound`). Every input is what its line stands for
  under the trial that was announced when it was judged, though; whether the live trial takes
  it so when it arrives is another matter (`delivery`).
-/
import TimedTrials.Presenter.Console
import TimedTrials.Proofs.Run.Journal

namespace TimedTrials.Console

/-! ### Lines and inputs -/

/-- A line that has been judged, and the run as it had been announced then. -/
structure Judgement where
  line : String
  announced : Option Run

def Judgement.input (j : Judgement) : Input := readLine (j.announced.any expectsText) j.line

/-- An input that is given to a run. -/
structure Receipt where
  input : Input
  run : Run

theorem readLine_inj {expected other : Bool} {line : String} :
    readLine expected line = readLine other line ↔ expected = other := by
  constructor
  · intro h
    cases expected with
    | false =>
      cases other with
      | false => rfl
      | true => cases h
    | true =>
      cases other with
      | false => cases h
      | true => rfl
  · rintro rfl
    rfl

/-- Whether a text is expected can be said of the trials and the token on screen alone. -/
theorem expectsText_eq (run : Run) : expectsText run =
    (run.token?.bind fun token => run.trials[token.position]?).any (·.spec.response.isText) := by
  unfold expectsText Run.current? Run.live? Run.token?
  cases run.active with
  | none => rfl
  | some live =>
    simp only [Option.bind_some, Option.map_some]
    cases run.trials[live.token.position]? <;> rfl

/-! ### The interplay -/

/-- What the loop is at: ready for an event, about to announce a change, or holding an input. -/
inductive Stage where
  | ready
  | announcing (change : Run.Change)
  | holding (input : Input)

/-- A terminal with its reader, a run in its loop with the clock, the run as it was announced
    last, and all that has been judged and received so far. -/
structure Interplay where
  terminal : Terminal
  run : Run
  clock : Clock
  stage : Stage
  announced : Option Run
  judged : List Judgement
  received : List Receipt

/-- A move of the reader, or one of the loop: it starts the run, gives it the timer that is due,
    takes an input from the channel, gives it to the run, announces a change, or waits. -/
inductive Interplay.Move where
  | read
  | start
  | timer
  | receive
  | apply
  | announce
  | wait (reading : Nat)
deriving DecidableEq, Repr

namespace Interplay

def new (trials : List TrialInstance) (settings : RunSettings) (clock : Clock)
    (lines : List (Nat × String)) : Interplay :=
  ⟨Terminal.new lines, Run.new trials settings, clock, .ready, none, [], []⟩

/-- Gives an event to the run; an accepted one has to be announced. -/
def give (s : Interplay) (event : RunEvent) : Interplay :=
  let step := s.run.handle s.clock event
  { s with
    run := step.run
    stage := if step.accepted then .announcing ⟨s.clock.now, step.run⟩ else .ready }

/-- The reader's judgement, if it is about to judge. -/
def judgement (s : Interplay) : List Judgement :=
  match s.terminal.reader with
  | .holding line => [⟨line, s.announced⟩]
  | _ => []

/-- One move; a move whose time has not come changes nothing. -/
def step (s : Interplay) : Move → Interplay
  | .read => { s with terminal := s.terminal.readerMove, judged := s.judged ++ s.judgement }
  | .start =>
    match s.stage with
    | .ready => s.give .start
    | _ => s
  | .timer =>
    match s.stage, s.run.due s.clock.now with
    | .ready, some event => s.give event
    | _, _ => s
  | .receive =>
    match s.stage, s.terminal.channel.queue with
    | .ready, input :: rest =>
      { s with
        stage := .holding input
        terminal := { s.terminal with channel := { s.terminal.channel with queue := rest } } }
    | _, _ => s
  | .apply =>
    match s.stage with
    | .holding input =>
      let s := { s with stage := .ready, received := s.received ++ [⟨input, s.run⟩] }
      match input.event? with
      | some event => s.give event
      | none => s
    | _ => s
  | .announce =>
    match s.stage with
    | .announcing change =>
      { s with
        stage := .ready
        announced := some change.run
        terminal := s.terminal.observe change }
    | _ => s
  | .wait reading => { s with clock := s.clock.moveTo reading }

def after (s : Interplay) (moves : List Move) : Interplay := moves.foldl step s

theorem after_append (s : Interplay) (before rest : List Move) :
    s.after (before ++ rest) = (s.after before).after rest := List.foldl_append

/-! ### Where the lines are -/

/-- The line that the reader has taken and not judged. -/
def unjudged (s : Interplay) : List String :=
  match s.terminal.reader with
  | .holding line => [line]
  | _ => []

/-- The input that the reader has made of a line and not sent. -/
def unsent (s : Interplay) : List Input :=
  match s.terminal.reader with
  | .judged input => [input]
  | _ => []

/-- The end of all input, once the reader is done. -/
def closing (s : Interplay) : List Input :=
  match s.terminal.reader with
  | .done => [.closed]
  | _ => []

/-- The input that the loop has taken and not given to the run. -/
def inHand (s : Interplay) : List Input :=
  match s.stage with
  | .holding input => [input]
  | _ => []

/-- What holds of reader and run after any schedule. Every line is where it should be, the inputs
    are on their way in the order of the lines, the note says what the announced trial expects,
    and what has been announced lags behind only while there is a change to announce. -/
structure Sound (sequence : List TrialInstance) (typed : List String) (s : Interplay) : Prop where
  lines : s.judged.map (·.line) ++ (s.unjudged ++ s.terminal.lines.map (·.2)) = typed
  inputs : s.received.map (·.input) ++ (s.inHand ++ (s.terminal.channel.queue ++ s.unsent)) =
    s.judged.map Judgement.input ++ s.closing
  isOpen : s.terminal.channel.isOpen = true ↔ s.terminal.reader ≠ .done
  note : s.terminal.expectsText = s.announced.any expectsText
  announced : (∀ change, s.stage ≠ .announcing change) →
    s.announced.bind Run.token? = s.run.token?
  announcing : ∀ change, s.stage = .announcing change → change.run = s.run
  trials : s.run.trials = sequence
  trialsAnnounced : ∀ run ∈ s.announced, run.trials = sequence
  trialsJudged : ∀ j ∈ s.judged, ∀ run ∈ j.announced, run.trials = sequence
  trialsReceived : ∀ receipt ∈ s.received, receipt.run.trials = sequence

variable {sequence : List TrialInstance} {typed : List String} {s : Interplay}

theorem sound_new (trials : List TrialInstance) (settings : RunSettings) (clock : Clock)
    (lines : List (Nat × String)) :
    Sound trials (lines.map (·.2)) (new trials settings clock lines) where
  lines := rfl
  inputs := rfl
  isOpen := by
    constructor
    · intro _ h
      cases h
    · intro _
      rfl
  note := rfl
  announced _ := rfl
  announcing _ h := nomatch h
  trials := rfl
  trialsAnnounced _ h := nomatch h
  trialsJudged _ h := nomatch h
  trialsReceived _ h := nomatch h

/-! ### One move -/

/-- A reader that waits for a line, or has sent the end, changes nothing. -/
theorem step_read_of_still (hmove : s.terminal.readerMove = s.terminal)
    (hjudgement : s.judgement = []) : s.step .read = s := by
  rw [step, hmove, hjudgement, List.append_nil]

theorem Sound.read (h : Sound sequence typed s) : Sound sequence typed (s.step .read) := by
  obtain ⟨⟨lines, reader, screens, expected, channel⟩, run, clock, stage, told, judged, received⟩ := s
  have hlines := h.lines
  have hinputs := h.inputs
  have hopen := h.isOpen
  have hnote : expected = told.any expectsText := h.note
  cases reader with
  | ready =>
    have hchannel : channel.isOpen = true := hopen.mpr (fun hdone => nomatch hdone)
    cases lines with
    | nil =>
      -- the end goes behind all inputs, and nothing can be sent after it
      refine { h with lines := ?_, inputs := ?_, isOpen := ?_, note := hnote, trialsJudged := ?_ }
      · simpa [step, Terminal.readerMove, judgement, unjudged] using hlines
      · simp only [step, Terminal.readerMove, judgement, unsent, closing, inHand, Channel.send,
          hchannel, if_true, Channel.close, List.append_nil] at hinputs ⊢
        rw [← hinputs]
        simp only [List.append_assoc]
      · simp [step, Terminal.readerMove, Channel.close]
      · simpa [step, judgement] using h.trialsJudged
    | cons first rest =>
      obtain ⟨least, line⟩ := first
      by_cases htyped : least ≤ screens
      · refine { h with lines := ?_, inputs := ?_, isOpen := ?_, note := ?_, trialsJudged := ?_ }
        · simpa [step, Terminal.readerMove, htyped, judgement, unjudged] using hlines
        · simpa [step, Terminal.readerMove, htyped, judgement, unsent, closing, inHand] using hinputs
        · simp [step, Terminal.readerMove, htyped, hchannel]
        · simpa [step, Terminal.readerMove, htyped] using hnote
        · simpa [step, judgement] using h.trialsJudged
      · rw [step_read_of_still (by simp [Terminal.readerMove, htyped]) rfl]
        exact h
  | holding line =>
    have hchannel : channel.isOpen = true := hopen.mpr (fun hdone => nomatch hdone)
    refine { h with lines := ?_, inputs := ?_, isOpen := ?_, note := hnote, trialsJudged := ?_ }
    · simpa [step, Terminal.readerMove, judgement, unjudged] using hlines
    · -- the line is judged by the note, which is what the announced run expects
      simp only [step, Terminal.readerMove, judgement, unsent, closing, inHand, List.append_nil,
        List.map_append, List.map_cons, List.map_nil, Judgement.input, ← hnote] at hinputs ⊢
      rw [← hinputs]
      simp only [List.append_assoc]
    · simp [step, Terminal.readerMove, hchannel]
    · intro j hj
      rcases List.mem_append.mp hj with hold | hnew
      · exact h.trialsJudged j hold
      · obtain rfl := List.mem_singleton.mp hnew
        exact h.trialsAnnounced
  | judged input =>
    have hchannel : channel.isOpen = true := hopen.mpr (fun hdone => nomatch hdone)
    refine { h with lines := ?_, inputs := ?_, isOpen := ?_, note := hnote, trialsJudged := ?_ }
    · simpa [step, Terminal.readerMove, judgement, unjudged] using hlines
    · simp only [step, Terminal.readerMove, judgement, unsent, closing, inHand, Channel.send,
        hchannel, if_true, List.append_nil] at hinputs ⊢
      exact hinputs
    · simp [step, Terminal.readerMove, Channel.send, hchannel]
    · simpa [step, judgement] using h.trialsJudged
  | done =>
    rw [step_read_of_still rfl rfl]
    exact h

theorem Sound.give (h : Sound sequence typed s) (hready : s.stage = .ready) (event : RunEvent) :
    Sound sequence typed (s.give event) := by
  have htrials : (s.run.handle s.clock event).run.trials = sequence :=
    (Run.goesOn_handle s.run s.clock event).trials.trans h.trials
  have hinputs := h.inputs
  rcases Run.handle_cases s.run s.clock event with ⟨hrefused, hrun⟩ | ⟨haccepted, _⟩
  · have hstage : (s.give event).stage = .ready := by
      simp only [Interplay.give, hrefused, Bool.false_eq_true, if_false]
    have hsame : s.give event = s := by
      obtain ⟨terminal, run, clock, stage, told, judged, received⟩ := s
      simp only [Interplay.give] at hstage hrun hready ⊢
      rw [hstage, hrun, hready]
    rw [hsame]
    exact h
  · have hstage : (s.give event).stage =
        .announcing ⟨s.clock.now, (s.run.handle s.clock event).run⟩ := by
      simp only [Interplay.give, haccepted, if_true]
    refine { h with inputs := ?_, announced := ?_, announcing := ?_, trials := htrials }
    · simp only [inHand, hstage, hready] at hinputs ⊢
      exact hinputs
    · intro hnone
      exact absurd hstage (hnone _)
    · intro change hchange
      rw [hstage, Stage.announcing.injEq] at hchange
      rw [← hchange]
      rfl

theorem Sound.receive (h : Sound sequence typed s) : Sound sequence typed (s.step .receive) := by
  have hinputs := h.inputs
  simp only [step]
  split
  · rename_i input rest hstage hqueue
    refine { h with inputs := ?_, announced := ?_, announcing := ?_ }
    · simp only [inHand, hstage, hqueue] at hinputs ⊢
      exact hinputs
    · intro _
      exact h.announced (fun change hchange => nomatch hstage.symm.trans hchange)
    · intro _ hchange
      cases hchange
  · exact h

/-- What is in hand goes to the run, which is as it was when the input was taken. -/
theorem Sound.apply (h : Sound sequence typed s) : Sound sequence typed (s.step .apply) := by
  have hinputs := h.inputs
  simp only [step]
  split
  · rename_i input hstage
    have hready : Sound sequence typed
        { s with stage := .ready, received := s.received ++ [⟨input, s.run⟩] } := by
      refine { h with inputs := ?_, announced := ?_, announcing := ?_, trialsReceived := ?_ }
      · simp only [inHand, hstage, List.map_append, List.map_cons, List.map_nil,
          List.append_assoc, List.nil_append] at hinputs ⊢
        exact hinputs
      · intro _
        exact h.announced (fun change hchange => nomatch hstage.symm.trans hchange)
      · intro _ hchange
        cases hchange
      · intro receipt hreceipt
        rcases List.mem_append.mp hreceipt with hold | hnew
        · exact h.trialsReceived receipt hold
        · obtain rfl := List.mem_singleton.mp hnew
          exact h.trials
    cases input.event? with
    | none => exact hready
    | some event => exact hready.give rfl event
  · exact h

/-- The note is written as the change is announced. -/
theorem Sound.announce (h : Sound sequence typed s) :
    Sound sequence typed (s.step .announce) := by
  have hinputs := h.inputs
  simp only [step]
  split
  · rename_i change hstage
    have hrun : change.run = s.run := h.announcing change hstage
    refine { h with
      inputs := ?_
      note := rfl
      announced := ?_
      announcing := ?_
      trialsAnnounced := ?_ }
    · simp only [inHand, hstage] at hinputs ⊢
      exact hinputs
    · intro _
      simp only [Option.bind_some, hrun]
    · intro _ hchange
      cases hchange
    · rintro run ⟨⟩
      rw [hrun]
      exact h.trials
  · exact h

/-- **One move** keeps everything in its place. -/
theorem Sound.step (h : Sound sequence typed s) (move : Move) :
    Sound sequence typed (s.step move) := by
  cases move with
  | read => exact h.read
  | start =>
    simp only [Interplay.step]
    split
    · rename_i hready
      exact h.give hready .start
    · exact h
  | timer =>
    simp only [Interplay.step]
    split
    · rename_i event hready _
      exact h.give hready event
    · exact h
  | receive => exact h.receive
  | apply => exact h.apply
  | announce => exact h.announce
  | wait reading => exact { h with }

/-- **Any schedule** keeps everything in its place. -/
theorem Sound.after (h : Sound sequence typed s) (moves : List Move) :
    Sound sequence typed (s.after moves) := by
  induction moves generalizing s with
  | nil => exact h
  | cons move moves ih => exact ih (h.step move)

/-! ### What arrives -/

/-- Runs of one sequence that show the same expect the same. -/
theorem expects_of_token {told : Option Run} {run : Run} (htrials : run.trials = sequence)
    (htold : ∀ other ∈ told, other.trials = sequence)
    (htoken : told.bind Run.token? = run.token?) : told.any expectsText = expectsText run := by
  cases told with
  | none =>
    have hnone : run.token? = none := htoken.symm
    rw [expectsText_eq, hnone]
    rfl
  | some other =>
    have hsame : other.token? = run.token? := htoken
    rw [Option.any_some, expectsText_eq, expectsText_eq, hsame, htrials, htold other rfl]

/-- Unless a change waits to be announced, the note says what the trial on screen expects. -/
theorem Sound.note_eq (h : Sound sequence typed s)
    (hstage : ∀ change, s.stage ≠ .announcing change) :
    s.terminal.expectsText = expectsText s.run := by
  rw [h.note]
  exact expects_of_token h.trials h.trialsAnnounced (h.announced hstage)

/-- Inputs arrive in the order in which their lines were judged. -/
theorem Sound.input_eq (h : Sound sequence typed s) {i : Nat} {judgement : Judgement}
    {receipt : Receipt} (hjudged : s.judged[i]? = some judgement)
    (hreceived : s.received[i]? = some receipt) : receipt.input = judgement.input := by
  have hleft : (s.received.map (·.input))[i]? = some receipt.input := by
    rw [List.getElem?_map, hreceived]
    rfl
  have hright : (s.judged.map Judgement.input)[i]? = some judgement.input := by
    rw [List.getElem?_map, hjudged]
    rfl
  have hsame := congrArg (fun inputs => inputs[i]?) h.inputs
  simp only [List.getElem?_append_left (List.getElem?_eq_some_iff.mp hleft).1,
    List.getElem?_append_left (List.getElem?_eq_some_iff.mp hright).1, hleft, hright] at hsame
  exact Option.some.inj hsame

/-- An untimed key trial, and an untimed text trial after it. -/
def keyThenText : List TrialInstance :=
  let untimed (row : Nat) (stimulus : String) (response : Response) : TrialSpec :=
    { TrialSpec.timed row 1 stimulus 0 with response, latencyMs := none }
  [⟨untimed 1 "Press f" (.keys ["f"]), 1, .fixed 1, 0⟩,
    ⟨untimed 2 "Your name?" (.text .plain), 1, .fixed 1, 1⟩]

/-- Both lines are typed while the first trial is on screen, and the reader is done with them
    before the loop takes the first one. -/
def typedAhead : List (Nat × String) := [(1, "f"), (1, "hello")]

def readerFirst : List Move :=
  [.start, .announce, .read, .read, .read, .read, .read, .read, .receive, .apply, .announce,
    .receive, .apply]

/-- **A typed answer can arrive as a key.** The text trial is on screen when the second line is
    received; it arrives as a key, which the trial refuses, and the run at the terminal is given
    up when the input has ended. -/
theorem answer_arrives_as_key :
    let s := (new keyThenText .standard ⟨0, 0⟩ typedAhead).after readerFirst
    s.judged.map (·.line) = ["f", "hello"] ∧
      s.received.map (fun receipt => (receipt.input, expectsText receipt.run)) =
        [(.key "f", false), (.key "hello", true)] ∧
      s.run.records.length = 1 ∧
      (Run.drive (Run.turnsFor (Run.new keyThenText .standard) 3) Terminal.wait Terminal.observe
        (Run.new keyThenText .standard) ⟨0, 0⟩ (Terminal.new typedAhead)).1 = .abandoned := by
  decide +kernel

/-- **How lines arrive, whatever the schedule.** None is lost and none overtakes another. Each
    arrives as it was judged, so that it is what the live trial takes it for just when the trial
    that was announced at its judgement expects the same. That is so when the same presentation
    is live; and the note is right unless a change waits to be announced. -/
theorem delivery (trials : List TrialInstance) (settings : RunSettings) (clock : Clock)
    (lines : List (Nat × String)) (moves : List Move) :
    let s := (new trials settings clock lines).after moves
    Sound trials (lines.map (·.2)) s ∧
      ((∀ change, s.stage ≠ .announcing change) → s.terminal.expectsText = expectsText s.run) ∧
      ∀ (i : Nat) (judgement : Judgement) (receipt : Receipt),
        s.judged[i]? = some judgement → s.received[i]? = some receipt →
          receipt.input = judgement.input ∧
          (receipt.input = readLine (expectsText receipt.run) judgement.line ↔
            judgement.announced.any expectsText = expectsText receipt.run) ∧
          (judgement.announced.bind Run.token? = receipt.run.token? →
            receipt.input = readLine (expectsText receipt.run) judgement.line) := by
  intro s
  have hsound : Sound trials (lines.map (·.2)) s :=
    (sound_new trials settings clock lines).after moves
  refine ⟨hsound, hsound.note_eq, ?_⟩
  intro i judgement receipt hjudged hreceived
  have hinput := hsound.input_eq hjudged hreceived
  have hreads : receipt.input = readLine (expectsText receipt.run) judgement.line ↔
      judgement.announced.any expectsText = expectsText receipt.run := by
    rw [hinput]
    exact readLine_inj
  refine ⟨hinput, hreads, ?_⟩
  intro htoken
  exact hreads.mpr (expects_of_token
    (hsound.trialsReceived receipt (List.mem_of_getElem? hreceived))
    (hsound.trialsJudged judgement (List.mem_of_getElem? hjudged)) htoken)

theorem delivery_readerFirst :
    let s := (new keyThenText .standard ⟨0, 0⟩ typedAhead).after readerFirst
    ∃ first second : Receipt, s.received = [first, second] ∧
      first.input = readLine (expectsText first.run) "f" ∧
      ¬ second.input = readLine (expectsText second.run) "hello" := by
  intro s
  have hdelivery := (delivery keyThenText .standard ⟨0, 0⟩ typedAhead readerFirst).2.2
  refine ⟨_, _, rfl, ?_, ?_⟩
  · exact (hdelivery 0 _ _ rfl rfl).2.2 (by decide +kernel)
  · rw [(hdelivery 1 _ _ rfl rfl).2.1]
    decide +kernel

end Interplay

end TimedTrials.Console
