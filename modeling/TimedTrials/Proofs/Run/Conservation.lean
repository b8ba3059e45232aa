/-
  TimedTrials/Proofs/Run/Conservation.lean
  ========================================
  **No time is lost in a scripted run, and none is made up.**

  The clock of a scripted run goes forward by three ways: an entry of the script comes at its
  reading, a wait comes to its end, and the loop sleeps. None of them goes beyond the next
  deadline, so that every timer is accepted at its deadline and not later (`KeepsTime`). From
  this the time on the clock is all accounted for by the records: by the time that each trial
  was on screen, and by the feedback that was shown after it.

  `driveScript_conservation` says so for the run as a whole and for each trial in it. Readings
  stop at the largest one, and with them the sums.
-/
import Mathlib.Algebra.Ring.Nat
import TimedTrials.Proofs.Run.Attribution
import TimedTrials.Proofs.Run.Durations

namespace TimedTrials

/-! ### The time that records account for -/

namespace RunSettings

/-- The time that feedback after a trial takes; none unless it was shown. -/
def feedbackSpan (settings : RunSettings) (trial : TrialInstance) (entry : TrialRecord) : Nat :=
  if entry.outcome.feedbackShown.isSome then settings.holdTime trial else 0

theorem feedbackSpan_of_some {settings : RunSettings} {trial : TrialInstance} {entry : TrialRecord}
    {message : String} (h : entry.outcome.feedbackShown = some message) :
    settings.feedbackSpan trial entry = settings.holdTime trial := by
  rw [feedbackSpan, h, Option.isSome_some, if_pos rfl]

theorem feedbackSpan_of_none {settings : RunSettings} {trial : TrialInstance} {entry : TrialRecord}
    (h : entry.outcome.feedbackShown = none) : settings.feedbackSpan trial entry = 0 := by
  rw [feedbackSpan, h, Option.isSome_none, if_neg Bool.false_ne_true]

/-- The time that trials take with their records: all response times, and all feedback that was
    shown. -/
def timeTaken (settings : RunSettings) (trials : List TrialInstance)
    (records : List TrialRecord) : Nat :=
  (records.map (·.responseTime)).sum + (List.zipWith settings.feedbackSpan trials records).sum

/-- The reading once trials have taken their time from a reading on. -/
def readingAfter (settings : RunSettings) (start : Nat) (trials : List TrialInstance)
    (records : List TrialRecord) : Nat :=
  Duration.after start (settings.timeTaken trials records)

end RunSettings

theorem zipWith_concat {α β γ : Type} {f : α → β → γ} {xs : List α} {ys : List β} {x : α} {y : β}
    (h : xs[ys.length]? = some x) :
    List.zipWith f xs (ys ++ [y]) = List.zipWith f xs ys ++ [f x y] := by
  induction ys generalizing xs with
  | nil =>
    cases xs with
    | nil => cases h
    | cons first xs =>
      obtain rfl : first = x := Option.some.inj h
      simp only [List.nil_append, List.zipWith_cons_cons, List.zipWith_nil_right]
  | cons last ys ih =>
    cases xs with
    | nil => cases h
    | cons first xs =>
      rw [List.cons_append, List.zipWith_cons_cons, List.zipWith_cons_cons, List.cons_append]
      exact congrArg _ (ih h)

theorem RunSettings.timeTaken_concat {settings : RunSettings} {trials : List TrialInstance}
    {records : List TrialRecord} {trial : TrialInstance} (h : trials[records.length]? = some trial)
    (entry : TrialRecord) :
    settings.timeTaken trials (records ++ [entry]) = settings.timeTaken trials records +
      (entry.responseTime + settings.feedbackSpan trial entry) := by
  simp only [timeTaken, zipWith_concat h, List.map_append, List.sum_append, List.map_singleton,
    List.sum_singleton]
  omega

/-- A trial that came on screen at a reading had just the time that it may have: all of its
    latency when it timed out, and no more than that when it was answered. The largest reading
    cuts the latency off. -/
structure Exact (trial : TrialInstance) (onset : Nat) (entry : TrialRecord) : Prop where
  timeout : entry.outcome.timedOut = true → ∃ ms, trial.spec.latencyMs = some ms ∧
    entry.responseTime = min (ms * Calendar.perMilli) (Duration.limit - onset)
  response : ∀ ms, trial.spec.latencyMs = some ms →
    entry.responseTime ≤ min (ms * Calendar.perMilli) (Duration.limit - onset)

namespace Run

variable {r r' : Run} {clock : Clock} {event : RunEvent} {start : Nat} {trial : TrialInstance}
  {onset : Nat} {answer : Answer}

/-- An answer that comes no later than the deadline, and at the deadline if it is a timer, makes
    an exact record. -/
theorem exact_of_answers {settings : RunSettings} {token : Token}
    (h : Answers (arm settings trial token onset) trial clock.now event answer)
    (hbefore : ∀ deadline, (arm settings trial token onset).deadline = some deadline →
      clock.now ≤ deadline)
    (hreached : event.isTimer = true →
      ∃ deadline, (arm settings trial token onset).deadline = some deadline ∧
        deadline ≤ clock.now) :
    Exact trial onset (record clock trial onset answer) := by
  have htime : (record clock trial onset answer).responseTime = clock.now - onset := rfl
  refine ⟨?_, ?_⟩
  · intro htimedOut
    cases h with
    | key => cases htimedOut
    | text => cases htimedOut
    | timeout =>
      obtain ⟨deadline, hdeadline, hle⟩ := hreached rfl
      obtain ⟨ms, hms, _⟩ := Option.map_eq_some_iff.mp hdeadline
      obtain rfl := Option.some.inj ((deadline_arm hms settings token onset).symm.trans hdeadline)
      -- a timer is late enough, and the clock has not gone beyond it
      have hnow := Nat.le_antisymm (hbefore _ hdeadline) hle
      exact ⟨ms, hms, by rw [htime, hnow, Duration.after_sub]⟩
  · intro ms hms
    have hle := hbefore _ (deadline_arm hms settings token onset)
    rw [htime, ← Duration.after_sub]
    exact Nat.sub_le_sub_right hle onset

/-! ### Runs that keep time -/

/-- The reading that a run has come to by its records. -/
def reading (start : Nat) (r : Run) : Nat := r.settings.readingAfter start r.trials r.records

/-- Every record of a run is exact, on screen since the records before it. -/
def AllExact (start : Nat) (r : Run) : Prop :=
  ∀ (i : Nat) trial entry, r.trials[i]? = some trial → r.records[i]? = some entry →
    Exact trial (r.settings.readingAfter start r.trials (r.records.take i)) entry

/-- A run that was started at a reading keeps time: the clock has not gone beyond its next
    deadline, and the records account for all time up to the onset of the trial on screen, or to
    the end of the feedback on screen, or at the end up to now. -/
structure KeepsTime (start : Nat) (r : Run) (now : Nat) : Prop where
  bound : now ≤ Duration.limit
  deadline : ∀ deadline, r.nextDeadline = some deadline → now ≤ deadline
  onset : ∀ live, r.active = some live → live.onset = r.reading start ∧ live.onset ≤ now
  holdUntil : ∀ shown, r.shown = some shown → shown.holdUntil = r.reading start
  finished : r.phase = .finished → now = r.reading start
  exact : r.AllExact start

/-- A trial comes on screen, or the run is finished, when the records account for all time. -/
theorem keepsTime_present (position : Nat) (hbound : clock.now ≤ Duration.limit)
    (hnow : clock.now = r.reading start) (hexact : r.AllExact start) :
    (r.present clock position).run.KeepsTime start clock.now := by
  by_cases hposition : position < r.trials.length
  · rw [present_run_of_some (List.getElem?_eq_getElem hposition)]
    refine ⟨hbound, ?_, ?_, ?_, ?_, hexact⟩
    · intro deadline hdeadline
      obtain ⟨ms, _, rfl⟩ := Option.map_eq_some_iff.mp hdeadline
      exact Duration.le_after hbound _
    · rintro live hlive
      obtain rfl := Option.some.inj hlive
      exact ⟨hnow, Nat.le_refl _⟩
    · exact fun _ h => nomatch h
    · exact fun h => nomatch h
  · rw [present_run_of_length_le (Nat.not_lt.mp hposition)]
    exact ⟨hbound, (fun _ h => nomatch h), (fun _ h => nomatch h), (fun _ h => nomatch h),
      fun _ => hnow, hexact⟩

/-- Feedback comes on screen when the records account for all time and the feedback itself. -/
theorem keepsTime_showsFeedback (trial : TrialInstance) (token : Token) (message : String)
    (hbound : clock.now ≤ Duration.limit) (hactive : r.active = none)
    (hreading : r.reading start = Duration.after clock.now (r.settings.holdTime trial))
    (hexact : r.AllExact start) :
    (r.showsFeedback (feedbackAfter r.settings trial token clock.now message)).KeepsTime start
      clock.now := by
  have hhold := holdUntil_feedbackAfter r.settings trial token clock.now message
  refine ⟨hbound, ?_, ?_, ?_, (fun h => nomatch h), hexact⟩
  · intro deadline hdeadline
    obtain rfl := Option.some.inj hdeadline
    exact Nat.le_trans (Duration.le_after hbound _) (Nat.le_of_eq hhold.symm)
  · intro live hlive
    cases hactive.symm.trans hlive
  · intro shown hshown
    obtain rfl := Option.some.inj hshown
    rw [hhold]
    exact hreading.symm

/-- A record takes the time from the onset to the reading, and its feedback the time from then. -/
theorem reading_recorded (answer : Answer) (htrial : r.trials[r.records.length]? = some trial)
    (honset : onset = r.reading start) (hle : onset ≤ clock.now)
    (hbound : clock.now ≤ Duration.limit) :
    (r.recorded (record clock trial onset answer)).reading start =
      Duration.after clock.now
        (r.settings.feedbackSpan trial (record clock trial onset answer)) := by
  have htime : (record clock trial onset answer).responseTime = clock.now - onset := rfl
  simp only [reading, recorded, RunSettings.readingAfter, RunSettings.timeTaken_concat htrial,
    htime]
  simp only [reading, RunSettings.readingAfter] at honset
  rw [← Nat.add_assoc, ← Duration.after_after, ← Duration.after_after, ← honset]
  -- the time on screen leads from the onset to now
  congr 1
  rw [Duration.after, Nat.add_sub_cancel' hle]
  exact Nat.min_eq_left hbound

theorem AllExact.recorded (h : r.AllExact start)
    (htrial : r.trials[r.records.length]? = some trial) {entry : TrialRecord}
    (hentry : Exact trial (r.reading start) entry) : (r.recorded entry).AllExact start := by
  intro i other given hother hgiven
  have hlt := (List.getElem?_eq_some_iff.mp hgiven).1
  simp only [Run.recorded, List.length_append, List.length_singleton] at hlt hgiven hother ⊢
  rcases Nat.lt_or_eq_of_le (Nat.le_of_lt_succ hlt) with hbefore | rfl
  · rw [List.getElem?_append_left hbefore] at hgiven
    rw [List.take_append_of_le_length (Nat.le_of_lt hbefore)]
    exact h i other given hother hgiven
  · rw [List.getElem?_concat_length] at hgiven
    obtain rfl := Option.some.inj hgiven
    obtain rfl := Option.some.inj (htrial.symm.trans hother)
    rw [List.take_left]
    exact hentry

/-- **One accepted event** keeps time, as long as timers have been waited for. -/
theorem KeepsTime.accepts (h : r.KeepsTime start clock.now) (hrun : r.Coherent)
    (hbegun : r.phase ≠ .idle) (haccepts : Accepts clock r event r')
    (hreached : event.isTimer = true → r.Reached clock.now) : r'.KeepsTime start clock.now := by
  cases haccepts with
  | start hphase => exact absurd hphase hbegun
  | @answer _ live trial answer hphase hlive hanswer =>
    obtain ⟨htrial, onset, rfl⟩ := hrun.live hphase hlive
    have hactive := (live?_eq_some_iff.mp hlive).1
    have hnext := nextDeadline_of_active hphase hactive
    have hlength := hrun.length_records (hrun.not_delivered (by rw [hphase]; decide))
    simp only [resolvedCount, hphase] at hlength
    rw [← hlength] at htrial
    obtain ⟨honset, hle⟩ : onset = r.reading start ∧ onset ≤ clock.now := h.onset _ hactive
    have hentry : Exact trial onset (record clock trial onset answer) := by
      refine exact_of_answers (answers_of_answerTo hanswer) ?_ ?_
      · rw [← hnext]
        exact h.deadline
      · rw [← hnext]
        exact hreached
    have hexact : (r.recorded (record clock trial onset answer)).AllExact start :=
      h.exact.recorded htrial (by rw [← honset]; exact hentry)
    -- what the record accounts for is the feedback too, which has yet to be shown
    have hreading := reading_recorded answer htrial honset hle h.bound
    cases hshown : (outcome trial answer).feedbackShown with
    | some message =>
      rw [resolve_run_of_feedback hshown]
      rw [RunSettings.feedbackSpan_of_some hshown] at hreading
      exact keepsTime_showsFeedback (r := r.recorded _) trial _ message h.bound rfl hreading hexact
    | none =>
      rw [resolve_run_of_no_feedback hshown]
      rw [RunSettings.feedbackSpan_of_none hshown, Duration.after_zero h.bound] at hreading
      exact keepsTime_present _ h.bound hreading.symm hexact
  | @elapsed shown hphase hshown =>
    have hnext := nextDeadline_of_shown hphase hshown
    obtain ⟨deadline, hdeadline, hle⟩ := hreached rfl
    obtain rfl := Option.some.inj (hnext.symm.trans hdeadline)
    have hnow := Nat.le_antisymm (h.deadline _ hnext) hle
    exact keepsTime_present _ h.bound (hnow.trans (h.holdUntil shown hshown)) h.exact

/-- The clock may go forward up to the next deadline. -/
theorem KeepsTime.moveTo {now later : Nat} (h : r.KeepsTime start now) (hle : now ≤ later)
    (hbound : later ≤ Duration.limit) (hphase : r.phase ≠ .finished)
    (hdeadline : ∀ deadline, r.nextDeadline = some deadline → later ≤ deadline) :
    r.KeepsTime start later where
  bound := hbound
  deadline := hdeadline
  onset live hlive := ⟨(h.onset live hlive).1, Nat.le_trans (h.onset live hlive).2 hle⟩
  holdUntil := h.holdUntil
  finished hfinished := absurd hfinished hphase
  exact := h.exact

/-- No deadline lies beyond the largest reading. -/
theorem KeepsTime.deadline_le {now deadline : Nat} (h : r.KeepsTime start now) (hrun : r.Coherent)
    (hdeadline : r.nextDeadline = some deadline) : deadline ≤ Duration.limit := by
  refine hrun.nextDeadline_le ?_ hdeadline
  intro shown hshown
  rw [h.holdUntil shown hshown]
  exact Duration.after_le_limit _ _

theorem keepsTime_start (trials : List TrialInstance) (settings : RunSettings)
    (hbound : clock.now ≤ Duration.limit) :
    ((Run.new trials settings).handle clock .start).run.KeepsTime clock.now clock.now := by
  have hnow : clock.now = (Run.new trials settings).reading clock.now := by
    simp only [reading, RunSettings.readingAfter, RunSettings.timeTaken, Run.new, List.map_nil,
      List.zipWith_nil_right, List.sum_nil, Nat.add_zero, Duration.after_zero hbound]
  refine keepsTime_present (r := { Run.new trials settings with startedAt := some clock.wall }) 0
    hbound hnow ?_
  intro i trial entry _ hentry
  cases hentry

/-! ### The loop keeps time -/

namespace Driven

variable {trials : List TrialInstance} {settings : RunSettings} {d d' : Driven Script}

/-- All readings of the script, and the run, are in time. -/
structure KeepsTime (trials : List TrialInstance) (settings : RunSettings) (start : Nat)
    (d : Driven Script) : Prop where
  underWay : d.run.UnderWay trials
  settings : d.run.settings = settings
  run : d.run.KeepsTime start d.clock.now
  inRange : ∀ entry ∈ d.source, entry.1 ≤ Duration.limit

theorem KeepsTime.apply (h : d.KeepsTime trials settings start)
    (hreached : event.isTimer = true → d.run.Reached d.clock.now) :
    (d.apply unobserved event).KeepsTime trials settings start := by
  refine ⟨?_, ?_, ?_, ?_⟩
  · rw [apply_run]
    exact h.underWay.handle d.clock event
  · rw [apply_run, (goesOn_handle d.run d.clock event).settings]
    exact h.settings
  · rw [apply_run, apply_clock]
    rcases handle_cases d.run d.clock event with ⟨_, hsame⟩ | ⟨_, haccepts⟩
    · rw [hsame]
      exact h.run
    · exact h.run.accepts h.underWay.coherent h.underWay.begun haccepts hreached
  · rw [apply_source]
    exact h.inRange

theorem KeepsTime.poll (h : d.KeepsTime trials settings start) :
    (d.poll unobserved).KeepsTime trials settings start := by
  rcases poll_cases unobserved d with ⟨_, hpoll⟩ | ⟨event, hdue, hpoll⟩
  · rw [hpoll]
    exact h
  · rw [hpoll]
    exact h.apply fun _ => reached_of_due hdue

theorem KeepsTime.receive (h : d.KeepsTime trials settings start) (input : Input) :
    (d.receive unobserved input).KeepsTime trials settings start := by
  cases input with
  | key name => exact h.apply fun htimer => nomatch htimer
  | text value => exact h.apply fun htimer => nomatch htimer
  | closed => exact ⟨h.underWay, h.settings, h.run, h.inRange⟩

/-- The loop goes forward to a reading that is not beyond the next deadline. -/
theorem KeepsTime.moveTo (h : d.KeepsTime trials settings start) {reading : Nat}
    (hphase : d.run.phase ≠ .finished) (hbound : reading ≤ Duration.limit)
    (hdeadline : ∀ deadline, d.run.nextDeadline = some deadline →
      reading ≤ max d.clock.now deadline) :
    { d with clock := d.clock.moveTo reading }.KeepsTime trials settings start := by
  refine ⟨h.underWay, h.settings, h.run.moveTo (Nat.le_max_left _ _) ?_ hphase ?_, h.inRange⟩
  · exact Nat.max_le.mpr ⟨h.run.bound, hbound⟩
  · intro deadline hnext
    have hnow := h.run.deadline deadline hnext
    have hreading := hdeadline deadline hnext
    rw [Nat.max_eq_right hnow] at hreading
    exact Nat.max_le.mpr ⟨hnow, hreading⟩

/-- An entry is only taken when it comes before the next deadline. -/
theorem le_of_nextTake? {reading deadline : Nat} {input : Input}
    (h : d.nextTake? = some (.entry d reading input))
    (hdeadline : d.run.nextDeadline = some deadline) : reading ≤ max d.clock.now deadline := by
  unfold nextTake? at h
  split at h
  · cases h
  · split at h
    · rename_i hintime
      obtain ⟨_, rfl, _⟩ := Happening.entry.inj (Option.some.inj h)
      rw [hdeadline, Option.map_some, Option.all_some] at hintime
      exact of_decide_eq_true hintime
    · cases h

theorem KeepsTime.takeInput (h : d.KeepsTime trials settings start)
    (hphase : d.run.phase ≠ .finished) :
    (d.takeInput Script.wait unobserved).KeepsTime trials settings start := by
  rcases nextTake?_cases d with
    ⟨reading, input, rest, hsource, hnext, htake⟩ | ⟨deadline, hdeadline, _, _, htake⟩ | ⟨_, htake⟩
  · have hinRange := h.inRange
    rw [hsource] at hinRange
    have hmoved := h.moveTo hphase (hinRange _ List.mem_cons_self)
      fun deadline hdeadline => le_of_nextTake? hnext hdeadline
    rw [htake]
    refine KeepsTime.receive (d := { d with clock := d.clock.moveTo reading, source := rest })
      ⟨hmoved.underWay, hmoved.settings, hmoved.run, ?_⟩ input
    exact fun entry hentry => hinRange entry (List.mem_cons_of_mem _ hentry)
  · rw [htake]
    refine h.moveTo hphase ?_ ?_
    · exact Nat.max_le.mpr ⟨h.run.bound, h.run.deadline_le h.underWay.coherent hdeadline⟩
    · intro other hother
      obtain rfl := Option.some.inj (hdeadline.symm.trans hother)
      exact Nat.le_refl _
  · rw [htake]
    exact ⟨h.underWay, h.settings, h.run, h.inRange⟩

theorem KeepsTime.turn (h : d.KeepsTime trials settings start)
    (hturn : Turn Script.wait unobserved d d') : d'.KeepsTime trials settings start := by
  cases hturn with
  | @sleep deadline hnext =>
    rcases next_cases h.poll.underWay with
      ⟨_, h'⟩ | ⟨_, _, _, h'⟩ | ⟨_, _, deadline', hdeadline, h'⟩ | ⟨_, _, h'⟩
    · cases hnext.symm.trans h'
    · cases hnext.symm.trans h'
    · obtain rfl := Next.sleep.inj (hnext.symm.trans h')
      refine h.poll.moveTo ?_ (h.poll.run.deadline_le h.poll.underWay.coherent hdeadline) ?_
      · intro hphase
        have hrunning := isRunning_of_nextDeadline hdeadline
        rw [hphase] at hrunning
        cases hrunning
      · intro other hother
        obtain rfl := Option.some.inj (hdeadline.symm.trans hother)
        exact Nat.le_max_right _ _
    · cases hnext.symm.trans h'
  | await hnext =>
    rcases next_cases h.poll.underWay with
      ⟨_, h'⟩ | ⟨_, _, _, h'⟩ | ⟨_, _, _, _, h'⟩ | ⟨hphase, _, _⟩
    · cases hnext.symm.trans h'
    · cases hnext.symm.trans h'
    · cases hnext.symm.trans h'
    · exact h.poll.takeInput hphase

/-! ### Records of the end -/

theorem keeps_records_apply (d : Driven Script) (event : RunEvent) :
    d.run.records <+: (d.apply unobserved event).run.records := by
  rw [apply_run]
  rcases handle_cases d.run d.clock event with ⟨_, hsame⟩ | ⟨_, haccepts⟩
  · simp only [hsame, List.prefix_rfl]
  · exact haccepts.records_prefix

theorem keeps_records_poll (d : Driven Script) :
    d.run.records <+: (d.poll unobserved).run.records := by
  rcases poll_cases unobserved d with ⟨_, hpoll⟩ | ⟨event, _, hpoll⟩
  · simp only [hpoll, List.prefix_rfl]
  · rw [hpoll]
    exact keeps_records_apply d event

theorem keeps_records_takeInput (d : Driven Script) :
    d.run.records <+: (d.takeInput Script.wait unobserved).run.records := by
  rcases nextTake?_cases d with
    ⟨reading, input, rest, _, _, htake⟩ | ⟨_, _, _, _, htake⟩ | ⟨_, htake⟩
  · rw [htake]
    cases input with
    | key name => exact keeps_records_apply { d with clock := _, source := rest } _
    | text value => exact keeps_records_apply { d with clock := _, source := rest } _
    | closed => exact List.prefix_rfl
  · simp only [htake, List.prefix_rfl]
  · simp only [htake, List.prefix_rfl]

/-- What a turn finds recorded after its timers stays recorded. -/
theorem Turn.keeps_records (h : Turn Script.wait unobserved d d') :
    (d.poll unobserved).run.records <+: d'.run.records := by
  cases h with
  | sleep => exact List.prefix_rfl
  | await => exact keeps_records_takeInput _

theorem Leads.keeps_records (h : Leads Script.wait unobserved d d') :
    (d.poll unobserved).run.records <+: (d'.poll unobserved).run.records := by
  induction h with
  | refl => exact List.prefix_rfl
  | tail _ hturn ih => exact ih.trans (hturn.keeps_records.trans (keeps_records_poll _))

/-- What is recorded anywhere on the way is still there at the end. -/
theorem Visits.keeps_records {head : Driven Script} {ending : Ending} {last : Driven Script}
    (hhead : Leads Script.wait unobserved d head)
    (hdone : (head.poll unobserved).next = .done ending last)
    (h : Visits Script.wait unobserved d d') :
    d'.run.records <+: (head.poll unobserved).run.records := by
  obtain ⟨other, hother, hvisit⟩ := h
  have hpolled := (hhead.leads_of_done hdone hother).keeps_records
  rcases hvisit with rfl | rfl
  · exact (keeps_records_poll _).trans hpolled
  · exact hpolled

/-- The onset of the trial on screen, by the records that there will be in the end. -/
theorem KeepsTime.onset_eq (h : d.KeepsTime trials settings start) {records : List TrialRecord}
    (hkept : d.run.records <+: records) {live : LiveTrial} (hactive : d.run.active = some live) :
    live.onset = settings.readingAfter start trials (records.take live.token.position) := by
  have hcoherent := h.underWay.coherent
  have hlength := hcoherent.length_records h.underWay.delivered
  have htoken : d.run.token?.map (·.position) = some live.token.position := by
    rw [token?, hactive]
    rfl
  rw [hcoherent.resolvedCount_of_token? htoken] at hlength
  rw [(h.run.onset live hactive).1, reading, h.settings, h.underWay.trials,
    List.prefix_iff_eq_take.mp hkept, hlength]

end Driven

open Driven

/-- **Conservation of time.** In a scripted run that comes to its end, every trial that timed out
    was on screen for just its latency, every trial with a latency for no longer than that, and
    each trial came on screen at the reading that the records before it account for. At the end
    the clock has gone on by the sum of all response times and of all feedback that was shown.
    All readings lie in the range of the clock, and sums stop at its end. -/
theorem driveScript_conservation (trials : List TrialInstance) (settings : RunSettings)
    (clock : Clock) (script : Script) {records : List TrialRecord} {last : Driven Script}
    (hclock : clock.now ≤ Duration.limit)
    (hscript : ∀ entry ∈ script, entry.1 ≤ Duration.limit)
    (hdrive : driveScript (Run.new trials settings) clock script = (.complete records, last)) :
    let first := started unobserved (Run.new trials settings) clock script
    let onset := fun (i : Nat) => settings.readingAfter clock.now trials (records.take i)
    records.length = trials.length ∧
      (∀ (i : Nat) trial entry, trials[i]? = some trial → records[i]? = some entry →
        Exact trial (onset i) entry) ∧
      (∀ d, Visits Script.wait unobserved first d → ∀ live, d.run.active = some live →
        live.onset = onset live.token.position) ∧
      last.clock.now = settings.readingAfter clock.now trials records := by
  intro first onset
  have hfirst : first.KeepsTime trials settings clock.now := by
    have hrun : first.run = ((Run.new trials settings).handle clock .start).run := apply_run _ _ _
    have hnow : first.clock = clock := apply_clock _ _ _
    refine ⟨started_underWay trials settings clock script, ?_, ?_, ?_⟩
    · rw [hrun]
      exact (goesOn_handle _ _ _).settings
    · rw [hrun, hnow]
      exact keepsTime_start trials settings hclock
    · rw [started_source]
      exact hscript
  have hkeeps : ∀ d, Visits Script.wait unobserved first d →
      d.KeepsTime trials settings clock.now := fun d hvisits =>
    hvisits.preserves (fun _ => KeepsTime.poll) (fun _ _ hturn h => h.turn hturn) hfirst
  obtain ⟨head, hhead, hdone⟩ : Ends Script.wait unobserved first (.complete records) last := by
    have hends := ends_drive trials settings clock script (Nat.le_refl _)
    rw [show drive _ _ _ _ _ _ = _ from hdrive] at hends
    exact hends
  have hend := hkeeps (head.poll unobserved) ⟨head, hhead, Or.inr rfl⟩
  -- the loop hands records over only when its run is finished
  rcases next_cases hend.underWay with
    ⟨hphase, hnext⟩ | ⟨_, _, _, hnext⟩ | ⟨_, _, _, _, hnext⟩ | ⟨_, _, hnext⟩
  · obtain ⟨hending, rfl⟩ := Next.done.inj (hdone.symm.trans hnext)
    obtain rfl := Ending.complete.inj hending
    refine ⟨?_, ?_, ?_, ?_⟩
    · have hlength := hend.underWay.coherent.length_records hend.underWay.delivered
      simp only [resolvedCount, hphase, hend.underWay.trials] at hlength
      exact hlength
    · have hexact := hend.run.exact
      simp only [AllExact, hend.settings, hend.underWay.trials] at hexact
      exact hexact
    · intro d hvisits live hactive
      exact (hkeeps d hvisits).onset_eq (hvisits.keeps_records hhead hdone) hactive
    · have hnow := hend.run.finished hphase
      rw [reading, hend.settings, hend.underWay.trials] at hnow
      exact hnow
  · cases hdone.symm.trans hnext
  · cases hdone.symm.trans hnext
  · cases hdone.symm.trans hnext

theorem driveScript_conservation_praisedTrial :
    let second := { praisedTrial with sequencePosition := 1 }
    let settings := RunSettings.ofMillis 1000 none
    let records := [record ⟨0, Duration.ofMillis 60⟩ praisedTrial 0 (.key "a"),
      record ⟨0, Duration.ofMillis 210⟩ second (Duration.ofMillis 110) .timeout]
    (∀ entry ∈ praisedScript, entry.1 ≤ Duration.limit) ∧
      ∃ last, driveScript (Run.new [praisedTrial, second] settings) ⟨0, 0⟩ praisedScript =
        (.complete records, last) ∧
      settings.timeTaken [praisedTrial, second] records = Duration.ofMillis 260 ∧
      last.clock.now = settings.readingAfter 0 [praisedTrial, second] records ∧
      Exact second (settings.readingAfter 0 [praisedTrial, second] (records.take 1))
        (record ⟨0, Duration.ofMillis 210⟩ second (Duration.ofMillis 110) .timeout) := by
  intro second settings records
  have hscript : ∀ entry ∈ praisedScript, entry.1 ≤ Duration.limit := by decide +kernel
  have hending : (driveScript (Run.new [praisedTrial, second] settings) ⟨0, 0⟩ praisedScript).1 =
      .complete records := by
    decide +kernel
  rcases hdrive : driveScript (Run.new [praisedTrial, second] settings) ⟨0, 0⟩ praisedScript with
    ⟨ending, last⟩
  rw [hdrive] at hending
  obtain rfl : ending = .complete records := hending
  obtain ⟨_, hexact, _, hnow⟩ := driveScript_conservation [praisedTrial, second] settings ⟨0, 0⟩
    praisedScript (Nat.zero_le _) hscript hdrive
  exact ⟨hscript, last, rfl, by decide +kernel, hnow, hexact 1 second _ rfl rfl⟩

end Run

end TimedTrials
