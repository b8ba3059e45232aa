/-
  TimedTrials/Proofs/Run/Attribution.lean
  =======================================
  **Which entry of a script answers which trial.**

  The journal of a scripted run says of every trial how it came to its record: the one entry
  that answered it, or its timeout, and nothing else that happened while it was on screen had
  any effect (`driveScript_attribution`). That a timeout is in time, and no entry before the
  deadline was left lying, is due to the clock: it never goes beyond the next entry of a script
  in time order while the source is open (`InStep`).
-/
import TimedTrials.Proofs.Run.Deadlines
import TimedTrials.Proofs.Run.Journal

namespace TimedTrials

/-- The entries of a script stand in the order of their readings. -/
def Script.InOrder (script : Script) : Prop := script.Pairwise fun a b => a.1 ≤ b.1

instance (script : Script) : Decidable script.InOrder :=
  inferInstanceAs (Decidable (script.Pairwise fun a b => a.1 ≤ b.1))

namespace Run

/-! ### Onsets -/

section Onset

variable {r r' : Run} {clock : Clock} {event : RunEvent} {live : LiveTrial}

theorem onset_present {position : Nat}
    (h : (r.present clock position).run.active = some live) : live.onset = clock.now := by
  by_cases hposition : position < r.trials.length
  · rw [present_run_of_some (List.getElem?_eq_getElem hposition)] at h
    obtain rfl := Option.some.inj h
    rfl
  · rw [present_run_of_length_le (Nat.not_lt.mp hposition)] at h
    cases h

/-- What is on screen after an event that was accepted came up with it. -/
theorem Accepts.onset (h : Accepts clock r event r') (hactive : r'.active = some live) :
    live.onset = clock.now := by
  cases h with
  | start => exact onset_present hactive
  | elapsed => exact onset_present hactive
  | @answer _ live trial answer hphase hlive hanswer =>
    cases hshown : (outcome trial answer).feedbackShown with
    | none =>
      rw [resolve_run_of_no_feedback hshown] at hactive
      exact onset_present hactive
    | some message =>
      rw [resolve_run_of_feedback hshown] at hactive
      cases hactive

theorem onset_handle (h : (r.handle clock event).run.active = some live) :
    r.active = some live ∨ live.onset = clock.now := by
  rcases handle_cases r clock event with ⟨_, hrun⟩ | ⟨_, haccepts⟩
  · rw [hrun] at h
    exact Or.inl h
  · exact Or.inr (haccepts.onset h)

end Onset

namespace Driven

variable {trials : List TrialInstance} {d d' : Driven Script}

/-! ### The clock and the script -/

/-- The script is in time order, and as long as the source is open the clock has gone beyond the
    next entry only if the trial on screen came up later than that. -/
structure InStep (d : Driven Script) : Prop where
  inOrder : d.source.InOrder
  clock : d.closed = false → ∀ entry ∈ d.source.head?, ∀ live, d.run.active = some live →
    d.clock.now ≤ max entry.1 live.onset

theorem InStep.apply (h : d.InStep) (event : RunEvent) : (d.apply unobserved event).InStep := by
  refine ⟨by rw [apply_source]; exact h.inOrder, ?_⟩
  rw [apply_closed, apply_source, apply_clock, apply_run]
  intro hopen entry hentry live hactive
  rcases onset_handle hactive with hbefore | honset
  · exact h.clock hopen entry hentry live hbefore
  · omega

theorem InStep.poll (h : d.InStep) : (d.poll unobserved).InStep := by
  rcases poll_cases unobserved d with ⟨_, hpoll⟩ | ⟨event, _, hpoll⟩
  · rw [hpoll]
    exact h
  · rw [hpoll]
    exact h.apply event

theorem InStep.receive (h : d.InStep) (input : Input) : (d.receive unobserved input).InStep := by
  cases input with
  | key name => exact h.apply _
  | text value => exact h.apply _
  | closed =>
    refine ⟨h.inOrder, ?_⟩
    intro hopen
    cases hopen

theorem InStep.takeInput (h : d.InStep) (hopen : d.closed = false) :
    (d.takeInput Script.wait unobserved).InStep := by
  rcases nextTake?_cases d with
    ⟨reading, input, rest, hsource, _, htake⟩ | ⟨deadline, _, _, hlate, htake⟩ | ⟨_, htake⟩
  · have hinOrder := h.inOrder
    rw [hsource] at hinOrder
    obtain ⟨hfirst, hrest⟩ := List.pairwise_cons.mp hinOrder
    rw [htake]
    refine InStep.receive (d := { d with clock := d.clock.moveTo reading, source := rest })
      ⟨hrest, ?_⟩ input
    intro _ entry hentry live hactive
    have hbefore := h.clock hopen (reading, input) (by rw [hsource]; rfl) live hactive
    have hle : reading ≤ entry.1 := hfirst entry (List.mem_of_mem_head? hentry)
    simp only [Clock.moveTo] at hbefore ⊢
    omega
  · rw [htake]
    refine ⟨h.inOrder, ?_⟩
    intro _ entry hentry live _
    have hlt := hlate entry hentry
    simp only [Clock.moveTo]
    omega
  · rw [htake]
    refine ⟨h.inOrder, ?_⟩
    intro hopen
    cases hopen

theorem InStep.turn (h : d.InStep) (hturn : Turn Script.wait unobserved d d') : d'.InStep := by
  cases hturn with
  | @sleep deadline hnext =>
    refine ⟨h.poll.inOrder, ?_⟩
    -- the loop sleeps only when its source is closed
    intro hopen
    have hclosed := closed_of_next_sleep hnext
    cases hopen.symm.trans hclosed
  | await hnext => exact h.poll.takeInput (closed_of_next_await hnext)

theorem Visits.inStep (h : Visits Script.wait unobserved d d') (hd : d.InStep) : d'.InStep :=
  h.preserves (fun _ => InStep.poll) (fun _ _ hturn hd => hd.turn hturn) hd

end Driven

open Driven

/-! ### Answers and timeouts -/

/-- An input is an answer to the trial on screen: one of its keys while keys are taken, or a text
    where one is asked for. -/
inductive AnsweredBy (live : LiveTrial) (trial : TrialInstance) (now : Nat) :
    Input → Answer → Prop where
  | key {name : String} (hopen : keysClosed live now = false)
      (hkey : trial.spec.response.acceptsKey name = true) :
      AnsweredBy live trial now (.key name) (.key (Key.normal name))
  | text {value : String} (htext : trial.spec.response.isText = true) :
      AnsweredBy live trial now (.text value) (.text value)

/-- How a trial came to its record. It was answered by an entry of the script, or it timed out;
    and whatever else happened while it was on screen was refused. When it timed out and the
    source was still open, the next entry of the script was not due before the deadline. -/
inductive Attributed (happenings : List Happening) (position : Nat) (trial : TrialInstance)
    (entry : TrialRecord) : Prop where
  | response {refused : List Happening} {loop : Driven Script} {reading : Nat} {input : Input}
      {live : LiveTrial} {answer : Answer}
      (hduring : happenings.filter (·.isDuring position) = refused ++ [.entry loop reading input])
      (hrefused : ∀ h ∈ refused, h.Refused) (hlive : loop.run.live? = some (live, trial))
      (hanswer : AnsweredBy live trial (max loop.clock.now reading) input answer)
      (hentry : entry = record (loop.clock.moveTo reading) trial live.onset answer)
      (htimedOut : entry.outcome.timedOut = false)
  | timeout {refused : List Happening} {loop : Driven Script} {live : LiveTrial} {deadline : Nat}
      (hduring : happenings.filter (·.isDuring position) =
        refused ++ [.timer loop (.timeout live.token)])
      (hrefused : ∀ h ∈ refused, h.Refused) (hlive : loop.run.live? = some (live, trial))
      (hdeadline : live.deadline = some deadline) (hdue : deadline ≤ loop.clock.now)
      (hnext : loop.closed = false → ∀ next ∈ loop.source.head?,
        deadline ≤ max next.1 live.onset)
      (hentry : entry = record loop.clock trial live.onset .timeout)
      (htimedOut : entry.outcome.timedOut = true)

/-- How the loop takes an entry: it is the first one of the script, the clock moves on to its
    reading unless that has gone by, and the run is given its event, if it is one. -/
structure Takes (loop : Driven Script) (reading : Nat) (input : Input) (after : Driven Script) :
    Prop where
  source : loop.source = (reading, input) :: after.source
  clock : after.clock = { loop.clock with now := max loop.clock.now reading }
  run : after.run = match input.event? with
    | some event => (loop.run.handle after.clock event).run
    | none => loop.run

section Attribution

variable {first : Driven Script} {trials : List TrialInstance} {happenings : List Happening}
  {position : Nat} {trial : TrialInstance} {entry : TrialRecord} {h : Happening}
  {live : LiveTrial}

theorem answeredBy_of_answerTo {now : Nat} {input : Input} {event : RunEvent} {answer : Answer}
    (hevent : input.event? = some event) (hanswer : answerTo live trial now event = .ok answer) :
    AnsweredBy live trial now input answer := by
  have hanswers := answers_of_answerTo hanswer
  cases input with
  | closed => cases hevent
  | key name =>
    obtain rfl := Option.some.inj hevent
    cases hanswers with
    | key hopen hkey => exact .key hopen hkey
  | text value =>
    obtain rfl := Option.some.inj hevent
    cases hanswers with
    | text htext => exact .text htext

theorem isInput_of_event? {input : Input} {event : RunEvent} (h : input.event? = some event) :
    event.isInput = true := by
  cases input with
  | closed => cases h
  | key name =>
    cases h
    rfl
  | text value =>
    cases h
    rfl

/-- A timer that answers the trial on screen is its timeout, and its deadline has come. -/
theorem Coherent.timeout_of_due {r : Run} (h : r.Coherent) {clock : Clock} {event : RunEvent}
    {answer : Answer} (hdue : r.due clock.now = some event)
    (hlive : r.live? = some (live, trial))
    (hanswer : answerTo live trial clock.now event = .ok answer) :
    event = .timeout live.token ∧ answer = .timeout ∧
      ∃ deadline, live.deadline = some deadline ∧ deadline ≤ clock.now := by
  have hphase := h.presenting_of_live? hlive
  simp only [due, hphase, (live?_eq_some_iff.mp hlive).1, Option.bind_some,
    Option.ite_none_right_eq_some, Option.some.injEq] at hdue
  obtain ⟨hreached, rfl⟩ := hdue
  obtain ⟨deadline, hdeadline, hle⟩ := Option.any_eq_true _ _ |>.mp hreached
  simp only [answerTo, if_true, Except.ok.injEq] at hanswer
  exact ⟨rfl, hanswer.symm, deadline, hdeadline, of_decide_eq_true hle⟩

theorem takes_of_nextTake? {d : Driven Script} {reading : Nat} {input : Input}
    (h : d.nextTake? = some (.entry d reading input)) :
    Takes d reading input (d.takeInput Script.wait unobserved) := by
  rcases nextTake?_cases d with
    ⟨reading', input', rest, hsource, hnext, htake⟩ | ⟨_, _, hnone, _⟩ | ⟨hnone, _⟩
  · obtain ⟨rfl, rfl⟩ : reading' = reading ∧ input' = input := by
      simpa using hnext.symm.trans h
    have hclock : (d.takeInput Script.wait unobserved).clock = d.clock.moveTo reading' := by
      rw [htake]
      exact receive_clock _ _
    refine ⟨?_, hclock, ?_⟩
    · rw [htake, receive_source, hsource]
    · rw [hclock]
      exact (congrArg Driven.run htake).trans (receive_run _ _)
  · cases hnone.symm.trans h
  · cases hnone.symm.trans h

/-- What an entry gives to a run that shows feedback is refused. -/
theorem refused_of_resolved {loop : Driven Script} {reading : Nat} {input : Input}
    (hphase : loop.run.phase = .resolved) : (Happening.entry loop reading input).Refused := by
  rcases (Happening.entry loop reading input).refused_or_accepts with
    hrefused | ⟨event, hevent, haccepts⟩
  · exact hrefused
  · exfalso
    have hinput : event.isInput = true := isInput_of_event? hevent
    generalize (Happening.entry loop reading input).after = next at haccepts
    -- feedback only comes to its end by a timer
    cases haccepts with
    | start hidle => cases hphase.symm.trans hidle
    | answer hpresenting => cases hphase.symm.trans hpresenting
    | elapsed => cases hinput

theorem Resolution.mem (hresolution : Resolution happenings position trial entry h live) :
    h ∈ happenings := by
  obtain ⟨refused, hduring, _⟩ := hresolution.during
  have hmem : h ∈ happenings.filter (·.isDuring position) := by
    rw [hduring]
    exact List.mem_append_right _ List.mem_cons_self
  exact List.mem_of_mem_filter hmem

theorem Resolution.attributed (hresolution : Resolution happenings position trial entry h live)
    (hoccurs : Occurs first h) (hfirst : first.run.UnderWay trials) (hinStep : first.InStep) :
    Attributed happenings position trial entry := by
  obtain ⟨⟨refused, hduring, hrefused⟩, hlive, event, answer, hevent, hanswer, rfl⟩ := hresolution
  cases hoccurs with
  | @timer loop event' hvisits hdue =>
    obtain rfl : event' = event := Option.some.inj hevent
    have hcoherent := (hvisits.underWay hfirst).coherent
    obtain ⟨rfl, rfl, deadline, hdeadline, hreached⟩ :=
      hcoherent.timeout_of_due hdue hlive hanswer
    refine .timeout hduring hrefused hlive hdeadline hreached ?_ rfl rfl
    intro hopen next hnext
    have hclock := (hvisits.inStep hinStep).clock hopen next hnext live
      (live?_eq_some_iff.mp hlive).1
    exact Nat.le_trans hreached hclock
  | @entry loop reading input hvisits _ _ =>
    refine .response hduring hrefused hlive (answeredBy_of_answerTo hevent hanswer) rfl ?_
    have htimedOut := timedOut_eq_not_isInput hanswer
    rw [isInput_of_event? hevent] at htimedOut
    exact htimedOut

end Attribution

theorem started_resolvedCount (trials : List TrialInstance) (settings : RunSettings)
    (clock : Clock) (script : Script) :
    (started unobserved (Run.new trials settings) clock script).run.resolvedCount = 0 := by
  rw [started, apply_run]
  exact present_resolvedCount (Nat.zero_le _)

theorem inStep_started (trials : List TrialInstance) (settings : RunSettings) (clock : Clock)
    {script : Script} (hscript : script.InOrder) :
    (started unobserved (Run.new trials settings) clock script).InStep := by
  have hnew : (Driven.mk (Run.new trials settings) clock script false [] []).InStep := by
    refine ⟨hscript, ?_⟩
    intro _ _ _ _ hactive
    cases hactive
  exact hnew.apply .start

/-- **Which entry answers which trial.** In a scripted run in time order that comes to its end,
    the entries that were taken are the first ones of the script, each of them once, and at the
    clock or its reading, whichever is later. The journal accounts for all that happened to the
    run. Every trial has its record from the one entry that answered it or from its timeout, and
    no other entry taken while it was on screen had an effect, nor had any entry that was taken
    while feedback was shown. -/
theorem driveScript_attribution (trials : List TrialInstance) (settings : RunSettings)
    (clock : Clock) {script : Script} (hscript : script.InOrder) {records : List TrialRecord}
    {last : Driven Script}
    (hdrive : driveScript (Run.new trials settings) clock script = (.complete records, last)) :
    let first := started unobserved (Run.new trials settings) clock script
    let happenings := first.journal (turnsFor (Run.new trials settings) script.length)
    (∃ finished, Follows first.run happenings finished ∧ finished.phase = .finished ∧
      finished.records = records) ∧
      happenings.filterMap Happening.entry? ++ last.source = script ∧
      (∀ loop reading input, .entry loop reading input ∈ happenings →
        Visits Script.wait unobserved first loop ∧
        Takes loop reading input (loop.takeInput Script.wait unobserved)) ∧
      (∀ position trial, trials[position]? = some trial → ∃ record,
        records[position]? = some record ∧ Attributed happenings position trial record) ∧
      (∀ loop reading input, .entry loop reading input ∈ happenings →
        loop.run.phase = .resolved → (Happening.entry loop reading input).Refused) := by
  intro first happenings
  have hfirst : first.run.UnderWay trials := started_underWay trials settings clock script
  have hsource : first.source = script := started_source trials settings clock script
  have hinStep : first.InStep := inStep_started trials settings clock hscript
  have hoccurs : ∀ h ∈ happenings, Occurs first h := fun h hmem =>
    occurs_of_mem_journal Relation.ReflTransGen.refl hmem
  obtain ⟨⟨finished, hfollows, hphase, hrecords⟩, hentries⟩ := follows_journal hfirst hdrive
  refine ⟨⟨finished, hfollows, hphase, hrecords⟩, hentries.trans hsource, ?_, ?_, ?_⟩
  · intro loop reading input hmem
    cases hoccurs _ hmem with
    | entry hvisits _ hnext => exact ⟨hvisits, takes_of_nextTake? hnext⟩
  · intro position trial htrial
    have hnone : first.run.resolvedCount = 0 := started_resolvedCount trials settings clock script
    obtain ⟨record, h, live, hrecord, hresolution⟩ :=
      hfollows.resolution hfirst hphase htrial (by omega)
    have hmem : h ∈ happenings := hresolution.mem
    rw [hrecords] at hrecord
    exact ⟨record, hrecord, hresolution.attributed (hoccurs h hmem) hfirst hinStep⟩
  · intro loop reading input _ hresolved
    exact refused_of_resolved hresolved

/-- A trial of 100 ms with the key `a`, after which feedback is shown for 50 ms. -/
def praisedTrial : TrialInstance :=
  ⟨{ TrialSpec.timed 1 1 "X" 100 with
      response := .keys ["a"], feedback := some ⟨.always, "ok"⟩, feedbackDurationMs := some 50 },
    1, .fixed 1, 0⟩

/-- A wrong key, the right one, one that comes during the feedback, and one that comes after the
    second trial has timed out, which begins at 110 ms. -/
def praisedScript : Script :=
  [(Duration.ofMillis 40, .key "b"), (Duration.ofMillis 60, .key "a"),
    (Duration.ofMillis 90, .key "a"), (Duration.ofMillis 300, .key "a")]

theorem driveScript_attribution_praisedTrial :
    let second := { praisedTrial with sequencePosition := 1 }
    let run := Run.new [praisedTrial, second] (.ofMillis 1000 none)
    let happenings := (started unobserved run ⟨0, 0⟩ praisedScript).journal
      (turnsFor run praisedScript.length)
    let records := [record ⟨0, Duration.ofMillis 60⟩ praisedTrial 0 (.key "a"),
      record ⟨0, Duration.ofMillis 210⟩ second (Duration.ofMillis 110) .timeout]
    praisedScript.InOrder ∧ ∃ last, driveScript run ⟨0, 0⟩ praisedScript = (.complete records, last) ∧
      last.source = [(Duration.ofMillis 300, .key "a")] ∧
      (∃ finished, Follows (started unobserved run ⟨0, 0⟩ praisedScript).run happenings finished ∧
        finished.phase = .finished ∧ finished.records = records) ∧
      happenings.filterMap Happening.entry? ++ last.source = praisedScript ∧
      ∃ entry, records[1]? = some entry ∧ Attributed happenings 1 second entry := by
  intro second run happenings records
  have hscript : praisedScript.InOrder := by decide
  have hending : (driveScript run ⟨0, 0⟩ praisedScript).1 = .complete records := by
    decide +kernel
  have hleft : (driveScript run ⟨0, 0⟩ praisedScript).2.source =
      [(Duration.ofMillis 300, .key "a")] := by
    decide +kernel
  rcases hdrive : driveScript run ⟨0, 0⟩ praisedScript with ⟨ending, last⟩
  rw [hdrive] at hending hleft
  obtain rfl : ending = .complete records := hending
  obtain ⟨hfollows, hentries, _, hrecords, _⟩ :=
    driveScript_attribution [praisedTrial, second] (.ofMillis 1000 none) ⟨0, 0⟩ hscript hdrive
  exact ⟨hscript, last, rfl, hleft, hfollows, hentries, hrecords 1 second rfl⟩

end Run

end TimedTrials
