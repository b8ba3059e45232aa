/-
  TimedTrials/Proofs/Run/Deadlines.lean
  =====================================
  **Responses and the deadline of their trial.**

  The deadline of a trial is kept by whoever asks for due timers: an event is judged by the key
  window and by the keys of the trial alone. So a key or a text that comes after the deadline,
  and before anybody has asked, still answers the trial, and the record then shows a response
  slower than the latency (`late_key_answers`). `history_deadlines` says what decides in every
  case, and that no such record comes up as long as input is given on time.

  The loop gives input on time, since it asks for due timers before each wait and no wait goes
  on beyond the next deadline: `drive_withinLatency`.
-/
import TimedTrials.Proofs.Run.History
import TimedTrials.Proofs.Run.ScriptedRun

namespace TimedTrials

/-- What the participant does, as against the start and timers. -/
def RunEvent.isInput : RunEvent → Bool
  | .key _ | .textSubmitted _ => true
  | .start | .timeout _ | .feedbackElapsed _ => false

namespace Run

variable {r r' : Run} {clock : Clock} {event : RunEvent} {live : LiveTrial}
  {trial : TrialInstance} {answer : Answer}

/-! ### Within the latency -/

/-- A response that is recorded for a trial took no longer than the latency. -/
def WithinLatency (trial : TrialInstance) (entry : TrialRecord) : Prop :=
  entry.outcome.timedOut = false →
    ∀ ms, trial.spec.latencyMs = some ms → entry.responseTime ≤ Duration.ofMillis ms

/-- All records of a run are within the latency of their trials. -/
def InTime (r : Run) : Prop :=
  List.Forall₂ WithinLatency (r.trials.take r.records.length) r.records

/-- The trial on screen, if there is one, has been there no longer than its latency. -/
def OnTime (r : Run) (now : Nat) : Prop :=
  ∀ live trial, r.live? = some (live, trial) →
    ∀ ms, trial.spec.latencyMs = some ms → now - live.onset ≤ Duration.ofMillis ms

instance (r : Run) (now : Nat) : Decidable (r.OnTime now) :=
  decidable_of_iff (∀ pair ∈ r.live?, ∀ ms ∈ pair.2.spec.latencyMs,
    now - pair.1.onset ≤ Duration.ofMillis ms) (by simp [OnTime, Prod.forall])

theorem Coherent.presenting_of_live? (h : r.Coherent) (hlive : r.live? = some (live, trial)) :
    r.phase = .presenting := by
  have htoken : r.token? = some live.token := by
    rw [token?, (live?_eq_some_iff.mp hlive).1]
    rfl
  exact h.presenting_of_token? htoken

/-- The deadline lies the latency behind the onset, unless there is no reading as large. -/
theorem Coherent.deadline_of_live? (h : r.Coherent) (hlive : r.live? = some (live, trial))
    {ms : Nat} (hlatency : trial.spec.latencyMs = some ms) :
    ∃ deadline, r.nextDeadline = some deadline ∧
      deadline ≤ live.onset + Duration.ofMillis ms := by
  have hphase := h.presenting_of_live? hlive
  obtain ⟨_, onset, rfl⟩ := h.live hphase hlive
  refine ⟨Duration.after onset (Duration.ofMillis ms), ?_, Nat.min_le_left _ _⟩
  rw [nextDeadline_of_active hphase (live?_eq_some_iff.mp hlive).1]
  simp only [arm, hlatency, Option.map_some]

/-- A run is on time as long as nothing is due. -/
theorem Coherent.onTime_of_due_eq_none (h : r.Coherent) {now : Nat} (hdue : r.due now = none) :
    r.OnTime now := by
  intro live trial hlive ms hlatency
  obtain ⟨deadline, hdeadline, hle⟩ := h.deadline_of_live? hlive hlatency
  have hlt := due_eq_none_iff.mp hdue deadline hdeadline
  omega

/-- What comes on screen is on time at first, whatever its latency. -/
theorem onTime_present (r : Run) (clock : Clock) (position : Nat) :
    (r.present clock position).run.OnTime clock.now := by
  intro live trial hlive ms _
  have hactive := (live?_eq_some_iff.mp hlive).1
  by_cases hposition : position < r.trials.length
  · rw [present_run_of_some (List.getElem?_eq_getElem hposition)] at hactive
    obtain rfl := Option.some.inj hactive
    simp only [arm, Nat.sub_self, Nat.zero_le]
  · rw [present_run_of_length_le (Nat.not_lt.mp hposition)] at hactive
    cases hactive

theorem Accepts.onTime (h : Accepts clock r event r') : r'.OnTime clock.now := by
  cases h with
  | start => exact onTime_present _ clock 0
  | @answer _ live trial answer hphase hlive hanswer =>
    cases hshown : (outcome trial answer).feedbackShown with
    | none =>
      rw [resolve_run_of_no_feedback hshown]
      exact onTime_present _ clock _
    | some message =>
      rw [resolve_run_of_feedback hshown]
      intro _ _ hlive
      cases (live?_eq_some_iff.mp hlive).1
  | elapsed => exact onTime_present _ clock _

/-! ### What an answer records -/

/-- An answer has timed out when it does not come from input, and only then. -/
theorem timedOut_eq_not_isInput (h : answerTo live trial clock.now event = .ok answer) :
    (outcome trial answer).timedOut = !event.isInput := by
  cases answers_of_answerTo h with
  | key => rfl
  | text => rfl
  | timeout => rfl

/-- An answer leaves all records within the latency just when those before it are, and it is no
    late input. -/
theorem Coherent.inTime_resolve_iff (h : r.Coherent) (hphase : r.phase = .presenting)
    (hlive : r.live? = some (live, trial))
    (hanswer : answerTo live trial clock.now event = .ok answer) :
    (r.resolve clock live trial answer).run.InTime ↔
      r.InTime ∧ (event.isInput = true → r.OnTime clock.now) := by
  have hlength := h.length_records (h.not_delivered (by rw [hphase]; decide))
  simp only [resolvedCount, hphase] at hlength
  have htrial : r.trials[r.records.length]? = some trial := by
    rw [hlength]
    exact (h.live hphase hlive).1
  have hwithin : WithinLatency trial (record clock trial live.onset answer) ↔
      (event.isInput = true → r.OnTime clock.now) := by
    simp only [WithinLatency, OnTime, record, timedOut_eq_not_isInput hanswer, Bool.not_eq_false',
      Clock.since, hlive, Option.some.injEq, Prod.mk.injEq, and_imp]
    constructor
    · rintro hrecord hinput _ _ rfl rfl
      exact hrecord hinput
    · intro honTime hinput
      exact honTime hinput live trial rfl rfl
  -- the new record stands last, and reversed it is the head
  rw [InTime, (goesOn_resolve r clock live trial answer).trials, resolve_records,
    List.length_append, List.length_singleton, List.take_add_one, htrial, Option.toList_some,
    ← List.forall₂_reverse_iff, List.reverse_append, List.reverse_append, List.reverse_singleton,
    List.reverse_singleton, List.singleton_append, List.singleton_append, List.forall₂_cons,
    List.forall₂_reverse_iff, hwithin, and_comm, InTime]

/-- Input that is accepted keeps the records within the latency just when it comes on time. -/
theorem Coherent.inTime_accepts_iff (h : r.Coherent) (haccepts : Accepts clock r event r') :
    r'.InTime ↔ r.InTime ∧ (event.isInput = true → r.OnTime clock.now) := by
  have htrials := haccepts.goesOn.trials
  cases haccepts with
  | start hphase =>
    rw [InTime, htrials, present_records, InTime]
    simp only [RunEvent.isInput, Bool.false_eq_true, false_implies, and_true]
  | answer hphase hlive hanswer => exact h.inTime_resolve_iff hphase hlive hanswer
  | elapsed hphase hshown =>
    rw [InTime, htrials, advance, present_records, InTime]
    simp only [RunEvent.isInput, Bool.false_eq_true, false_implies, and_true]

theorem InTime.handle (hin : r.InTime) (h : r.Coherent)
    (honTime : event.isInput = true → r.OnTime clock.now) :
    (r.handle clock event).run.InTime := by
  rcases handle_cases r clock event with ⟨_, hrun⟩ | ⟨_, haccepts⟩
  · rw [hrun]
    exact hin
  · exact (h.inTime_accepts_iff haccepts).mpr ⟨hin, honTime⟩

theorem inTime_new (trials : List TrialInstance) (settings : RunSettings) :
    (Run.new trials settings).InTime :=
  .nil

theorem InTime.takeRecords (hin : r.InTime) : r.takeRecords.2.InTime := by
  rcases takeRecords_cases r with ⟨htake, _⟩ | ⟨_, _, htake⟩
  · rw [htake]
    exact hin
  · rw [htake]
    exact .nil

/-! ### What decides on input -/

theorem key_accepted_iff (hphase : r.phase = .presenting) (hlive : r.live? = some (live, trial))
    {name : String} : (r.handle clock (.key name)).accepted = true ↔
      keysClosed live clock.now = false ∧ trial.spec.response.acceptsKey name = true := by
  simp only [handle, hphase, hlive, answerTo]
  by_cases hclosed : keysClosed live clock.now = true
  · simp [hclosed, refuse]
  · by_cases haccepts : trial.spec.response.acceptsKey name = true
    · simp [hclosed, haccepts]
    · simp [hclosed, haccepts, refuse]

theorem text_accepted_iff (hphase : r.phase = .presenting) (hlive : r.live? = some (live, trial))
    {text : String} : (r.handle clock (.textSubmitted text)).accepted = true ↔
      trial.spec.response.isText = true := by
  simp only [handle, hphase, hlive, answerTo]
  by_cases haccepts : trial.spec.response.isText = true
  · simp [haccepts]
  · simp [haccepts, refuse]

/-- The timeout of the trial on screen is due once its deadline has been reached. -/
theorem timeout_due_iff (hphase : r.phase = .presenting) (hlive : r.live? = some (live, trial))
    {now : Nat} : r.due now = some (.timeout live.token) ↔
      ∃ deadline, r.nextDeadline = some deadline ∧ deadline ≤ now := by
  simp only [due, nextDeadline, hphase, (live?_eq_some_iff.mp hlive).1, Option.bind_some]
  cases live.deadline with
  | none => simp
  | some deadline => simp

end Run

/-! ### Any history -/

namespace Session

/-- Whether a move gives input. -/
def givesInput : Move → Bool
  | .send event => event.isInput
  | .poll | .take | .wait _ => false

/-- Along a history input is given on time. Timers may come at any reading. -/
def Punctual : Session → List Move → Prop
  | _, [] => True
  | s, move :: moves =>
    (givesInput move = true → s.run.OnTime s.clock.now) ∧ Punctual (s.step move) moves

instance decidablePunctual : (s : Session) → (moves : List Move) → Decidable (s.Punctual moves)
  | _, [] => isTrue trivial
  | s, move :: moves =>
    have := decidablePunctual (s.step move) moves
    inferInstanceAs (Decidable
      ((givesInput move = true → s.run.OnTime s.clock.now) ∧ Punctual (s.step move) moves))

variable {s : Session}

theorem inTime_step (h : s.run.Coherent) (hin : s.run.InTime) {move : Move}
    (honTime : givesInput move = true → s.run.OnTime s.clock.now) :
    (s.step move).run.InTime := by
  cases move with
  | send event => exact hin.handle h honTime
  | poll => exact hin
  | take => exact hin.takeRecords
  | wait reading => exact hin

theorem inTime_after (h : s.run.Coherent) (hin : s.run.InTime) {moves : List Move}
    (hpunctual : s.Punctual moves) : (s.after moves).run.InTime := by
  induction moves generalizing s with
  | nil => exact hin
  | cons move moves ih =>
    obtain ⟨hmove, hmoves⟩ := hpunctual
    exact ih (coherent_step h move) (inTime_step h hin hmove) hmoves

/-- A trial with a latency of 100 ms that one key answers. -/
def shortKeyTrial : TrialInstance :=
  ⟨{ TrialSpec.timed 1 1 "X" 100 with response := .keys ["a"] }, 1, .fixed 1, 0⟩

/-- **A key that comes after the deadline answers the trial.** Keys are open until the timeout;
    50 ms after it, and before anybody has asked for due timers, a key is taken for the
    response, and the record shows its time. -/
theorem late_key_answers :
    let late := (start [shortKeyTrial] (.ofMillis 1000 none) ⟨0, 0⟩).after
      [.send .start, .wait (Duration.ofMillis 150)]
    let answered := late.run.handle late.clock (.key "a")
    late.run.nextDeadline = some (Duration.ofMillis 100) ∧
      Duration.ofMillis 100 < late.clock.now ∧ answered.accepted = true ∧
      answered.run.records.map (fun entry => (entry.outcome.timedOut, entry.responseTime)) =
        [(false, Duration.ofMillis 150)] := by
  decide

/-- **What the deadline means after any history.** It decides when the timeout of the trial on
    screen is due, and it has no part in whether a key or a text is taken. An input that is
    taken leaves the records within the latency of their trials just when they were so before
    and it comes on time. So they all are when every input of the history comes on time. -/
theorem history_deadlines (trials : List TrialInstance) (settings : RunSettings) (clock : Clock)
    (moves : List Move) :
    let s := start trials settings clock
    let run := (s.after moves).run
    let clock := (s.after moves).clock
    (∀ live trial, run.live? = some (live, trial) →
      (run.due clock.now = some (.timeout live.token) ↔
        ∃ deadline, run.nextDeadline = some deadline ∧ deadline ≤ clock.now) ∧
      (∀ name, (run.handle clock (.key name)).accepted = true ↔
        Run.keysClosed live clock.now = false ∧ trial.spec.response.acceptsKey name = true) ∧
      (∀ text, (run.handle clock (.textSubmitted text)).accepted = true ↔
        trial.spec.response.isText = true)) ∧
      (∀ event, event.isInput = true → (run.handle clock event).accepted = true →
        ((run.handle clock event).run.InTime ↔ run.InTime ∧ run.OnTime clock.now)) ∧
      (s.Punctual moves → run.InTime) := by
  intro s run clock
  have hnew : s.run.Coherent := Run.coherent_new trials settings
  have hrun : run.Coherent := coherent_after hnew moves
  refine ⟨?_, ?_, ?_⟩
  · intro live trial hlive
    have hphase := hrun.presenting_of_live? hlive
    refine ⟨Run.timeout_due_iff hphase hlive, ?_, ?_⟩
    · intro name
      exact Run.key_accepted_iff hphase hlive
    · intro text
      exact Run.text_accepted_iff hphase hlive
  · intro event hinput haccepted
    rw [hrun.inTime_accepts_iff (Run.accepts_of_accepted haccepted)]
    simp only [hinput, forall_const]
  · intro hpunctual
    exact inTime_after hnew (Run.inTime_new trials settings) hpunctual

theorem history_deadlines_shortKeyTrial :
    let s := start [shortKeyTrial] (.ofMillis 1000 none) ⟨0, 0⟩
    let onScreen := s.after [.send .start, .wait (Duration.ofMillis 60)]
    let answered := [.send .start, .wait (Duration.ofMillis 60), .send (.key "a")]
    (∃ live trial, onScreen.run.live? = some (live, trial) ∧
      ((onScreen.run.handle onScreen.clock (.key "a")).accepted = true ↔
        Run.keysClosed live onScreen.clock.now = false ∧
          trial.spec.response.acceptsKey "a" = true)) ∧
      s.Punctual answered ∧ (s.after answered).run.records.length = 1 ∧
      (s.after answered).run.InTime := by
  have hpunctual : (start [shortKeyTrial] (.ofMillis 1000 none) ⟨0, 0⟩).Punctual
      [.send .start, .wait (Duration.ofMillis 60), .send (.key "a")] := by decide
  refine ⟨⟨_, _, rfl, ?_⟩, hpunctual, by decide, ?_⟩
  · exact ((history_deadlines _ _ _ [.send .start, .wait (Duration.ofMillis 60)]).1 _ _ rfl).2.1 _
  · exact (history_deadlines _ _ _ _).2.2 hpunctual

end Session

/-! ### In the loop -/

/-- A wait that has an end never goes on beyond it. -/
def KeepsLimit {σ : Type} (wait : Wait σ) : Prop :=
  ∀ source clock last, clock.now ≤ last → (wait source clock (some last)).clock.now ≤ last

theorem Script.keepsLimit : KeepsLimit Script.wait := by
  intro script clock last hle
  rcases Script.wait_cases script clock (some last) with
    ⟨reading, input, rest, _, hreading, hwait⟩ | ⟨_, hlast, _, hwait⟩ | ⟨_, hnone, _⟩
  · rw [hwait]
    exact Nat.max_le.mpr ⟨hle, hreading last rfl⟩
  · obtain rfl := Option.some.inj hlast
    rw [hwait]
    exact Nat.max_le.mpr ⟨hle, Nat.le_refl _⟩
  · cases hnone

theorem Channel.keepsLimit : KeepsLimit Channel.wait := by
  intro channel clock last hle
  simp only [Channel.wait]
  split
  · exact hle
  · split
    · exact Nat.max_le.mpr ⟨hle, Nat.le_refl _⟩
    · exact hle

namespace Run

/-- Input that was waited for up to the next deadline comes on time. -/
theorem Coherent.onTime_wait {σ : Type} {wait : Wait σ} (hwait : KeepsLimit wait) {r : Run}
    (h : r.Coherent) {clock : Clock} (honTime : r.OnTime clock.now) (source : σ) :
    r.OnTime (wait source clock (r.nextDeadline.map (max clock.now))).clock.now := by
  intro live trial hlive ms hlatency
  obtain ⟨deadline, hdeadline, hle⟩ := h.deadline_of_live? hlive hlatency
  have hnow := honTime live trial hlive ms hlatency
  have hwaited := hwait source clock (max clock.now deadline) (Nat.le_max_left _ _)
  rw [hdeadline, Option.map_some]
  omega

theorem isInput_of_due {r : Run} {now : Nat} {event : RunEvent} (h : r.due now = some event) :
    event.isInput = false := by
  unfold due at h
  split at h
  · obtain ⟨live, _, h⟩ := Option.bind_eq_some_iff.mp h
    split at h
    · cases h
      rfl
    · cases h
  · obtain ⟨feedback, _, h⟩ := Option.bind_eq_some_iff.mp h
    split at h
    · cases h
      rfl
    · cases h
  · cases h
  · cases h

namespace Driven

variable {σ : Type} {wait : Wait σ} {observe : σ → Change → σ} {trials : List TrialInstance}
  {d : Driven σ}

/-- Once due timers have happened the run is on time. -/
theorem onTime_poll (h : d.run.Coherent) :
    (d.poll observe).run.OnTime (d.poll observe).clock.now := by
  rcases poll_cases observe d with ⟨hdue, hpoll⟩ | ⟨event, hdue, hpoll⟩
  · rw [hpoll]
    exact h.onTime_of_due_eq_none hdue
  · rw [hpoll, apply_run, apply_clock]
    exact (accepts_of_accepted (h.due_accepted hdue d.clock)).onTime

theorem inTime_poll (h : d.run.Coherent) (hin : d.run.InTime) : (d.poll observe).run.InTime := by
  rcases poll_cases observe d with ⟨_, hpoll⟩ | ⟨event, hdue, hpoll⟩
  · rw [hpoll]
    exact hin
  · rw [hpoll, apply_run]
    apply hin.handle h
    intro hinput
    rw [isInput_of_due hdue] at hinput
    cases hinput

theorem inTime_takeInput (hwait : KeepsLimit wait) (h : d.run.Coherent) (hin : d.run.InTime)
    (honTime : d.run.OnTime d.clock.now) : (d.takeInput wait observe).run.InTime := by
  have hwaited := h.onTime_wait hwait honTime d.source
  simp only [takeInput]
  split
  · rename_i input _
    cases input with
    | key name =>
      rw [receive, apply_run]
      exact hin.handle h fun _ => hwaited
    | text value =>
      rw [receive, apply_run]
      exact hin.handle h fun _ => hwaited
    | closed => exact hin
  · exact hin

theorem turns_withinLatency (hwait : KeepsLimit wait) {fuel : Nat} (hrun : d.run.UnderWay trials)
    (hin : d.run.InTime) {records : List TrialRecord} {last : Driven σ}
    (hturns : d.turns wait observe fuel = (.complete records, last)) :
    List.Forall₂ WithinLatency trials records := by
  induction fuel generalizing d with
  | zero => cases hturns
  | succ fuel ih =>
    have hpolled : (d.poll observe).run.UnderWay trials := underWay_poll hrun
    have hpolledIn : (d.poll observe).run.InTime := inTime_poll hrun.coherent hin
    rw [turns] at hturns
    rcases next_cases hpolled with
      ⟨hphase, hnext⟩ | ⟨_, _, _, hnext⟩ | ⟨_, _, _, _, hnext⟩ | ⟨_, _, hnext⟩
    -- a finished run hands out what it has recorded, one record for each trial
    · rw [hnext] at hturns
      obtain ⟨hending, _⟩ := Prod.mk.inj hturns
      obtain rfl := Ending.complete.inj hending
      have hlength := hpolled.coherent.length_records hpolled.delivered
      simp only [resolvedCount, hphase] at hlength
      rw [InTime, hlength, List.take_length, hpolled.trials] at hpolledIn
      exact hpolledIn
    · rw [hnext] at hturns
      cases hturns
    · rw [hnext] at hturns
      refine ih ?_ ?_ hturns
      · exact hpolled
      · exact hpolledIn
    · rw [hnext] at hturns
      exact ih (underWay_takeInput hpolled)
        (inTime_takeInput hwait hpolled.coherent hpolledIn (onTime_poll hrun.coherent)) hturns

end Driven

/-- **In the loop no response is slower than the latency**, whatever the source, as long as its
    waits keep to their end. -/
theorem drive_withinLatency {σ : Type} {wait : Wait σ} (hwait : KeepsLimit wait)
    (observe : σ → Change → σ) (trials : List TrialInstance) (settings : RunSettings)
    (clock : Clock) (source : σ) (fuel : Nat) {records : List TrialRecord} {last : Driven σ}
    (hdrive : drive fuel wait observe (Run.new trials settings) clock source =
      (.complete records, last)) :
    List.Forall₂ WithinLatency trials records := by
  refine Driven.turns_withinLatency hwait ?_ ?_ hdrive
  · rw [started, Driven.apply_run]
    exact underWay_start trials settings clock
  · rw [started, Driven.apply_run]
    apply (inTime_new trials settings).handle (coherent_new trials settings)
    intro hinput
    cases hinput

end Run

end TimedTrials
