/-
  TimedTrials/Proofs/Run/Timeline.lean
  ====================================
  **Latencies, key windows and feedback are never cut short.**

  A history is genuine when each timer that it gives to the run was handed out by a poll before;
  keys and texts may come as they like, and timers may come late. Its timeline lists the readings
  at which trials come on screen and those at which they are resolved, with their records.

  `history_durations` says that a genuine history has nothing early in its timeline: no timeout
  before the latency, no key behind the key window, and no trial before the feedback of the one
  before it is over. The largest reading of the clock is the one exception, since there is none
  to wait for beyond it.
-/
import TimedTrials.Proofs.Run.Durations

namespace TimedTrials

/-! ### Trials that are not cut short -/

/-- How a trial that was on screen from one reading to another came to its record: it ran for as
    long as recorded; when it timed out its latency had passed, or no reading was left to wait
    for; and a key that was taken came within the key window. -/
structure Timely (settings : RunSettings) (trial : TrialInstance) (onset reading : Nat)
    (entry : TrialRecord) : Prop where
  onset_le : onset ≤ reading
  responseTime : entry.responseTime = reading - onset
  latency : entry.outcome.timedOut = true → ∃ ms, trial.spec.latencyMs = some ms ∧
    (ms * Calendar.perMilli ≤ entry.responseTime ∨ Duration.limit ≤ reading)
  keyWindow : entry.outcome.timedOut = false → ∀ tokens ms grace,
    trial.spec.response = .keys tokens → trial.spec.latencyMs = some ms →
    settings.keyGrace = some grace → entry.responseTime < grace

/-- At a reading, the feedback after a trial that was resolved at another has been up for all of
    its time, if there is any; or no reading is left to wait for. -/
def FeedbackOver (settings : RunSettings) (trial : TrialInstance) (ending : Nat × TrialRecord)
    (reading : Nat) : Prop :=
  ending.2.outcome.feedbackShown.isSome = true →
    ending.1 + settings.holdTime trial ≤ reading ∨ Duration.limit ≤ reading

namespace Run

theorem timely_of_answers {settings : RunSettings} {trial : TrialInstance} {token : Token}
    {onset : Nat} {clock : Clock} {event : RunEvent} {answer : Answer}
    (h : Answers (arm settings trial token onset) trial clock.now event answer)
    (honset : onset ≤ clock.now)
    (hreached : event.isTimer = true →
      ∃ deadline, (arm settings trial token onset).deadline = some deadline ∧
        deadline ≤ clock.now) :
    Timely settings trial onset clock.now (record clock trial onset answer) := by
  have htime : (record clock trial onset answer).responseTime = clock.now - onset := rfl
  refine ⟨honset, htime, ?_, ?_⟩
  · intro htimedOut
    cases h with
    | key => cases htimedOut
    | text => cases htimedOut
    | timeout =>
      obtain ⟨deadline, hdeadline, hle⟩ := hreached rfl
      obtain ⟨ms, hlatency, rfl⟩ := Option.map_eq_some_iff.mp hdeadline
      rw [Duration.after_ofMillis] at hle
      have hpassed := Duration.passed_of_after_le hle
      exact ⟨ms, hlatency, by rw [htime]; omega⟩
  · intro hanswered tokens ms grace hresponse hlatency hgrace
    cases h with
    | text htext =>
      rw [hresponse] at htext
      cases htext
    | timeout => cases hanswered
    | key hopen hkey =>
      have hcloses : (arm settings trial token onset).keysClose =
          some (Duration.after onset grace) := by
        simp only [arm, hresponse, hlatency, hgrace, Option.map_some]
      rw [keysClosed, hcloses, Option.any_some, decide_eq_false_iff_not, Nat.not_le] at hopen
      have hbefore := Duration.not_passed_of_lt_after hopen
      omega

end Run

/-! ### Timelines -/

/-- The readings at which trials came on screen, and those at which they were resolved, with the
    records that they came to. -/
structure Timeline where
  onsets : List Nat
  endings : List (Nat × TrialRecord)

namespace Timeline

variable {t : Timeline} {settings : RunSettings} {trials : List TrialInstance}

/-- No trial of a timeline is cut short, and no feedback. -/
structure NotEarly (settings : RunSettings) (trials : List TrialInstance) (t : Timeline) : Prop
    where
  trial : ∀ (i : Nat) trial reading entry, trials[i]? = some trial →
    t.endings[i]? = some (reading, entry) →
    ∃ onset, t.onsets[i]? = some onset ∧ Timely settings trial onset reading entry
  feedback : ∀ (i : Nat) trial ending next, trials[i]? = some trial →
    t.endings[i]? = some ending → t.onsets[i + 1]? = some next →
    FeedbackOver settings trial ending next

/-- A timeline that goes on. -/
def extend (t : Timeline) (onsets : List Nat) (endings : List (Nat × TrialRecord)) : Timeline :=
  ⟨t.onsets ++ onsets, t.endings ++ endings⟩

@[simp] theorem extend_onsets (t : Timeline) (onsets : List Nat)
    (endings : List (Nat × TrialRecord)) :
    (t.extend onsets endings).onsets = t.onsets ++ onsets := rfl

@[simp] theorem extend_endings (t : Timeline) (onsets : List Nat)
    (endings : List (Nat × TrialRecord)) :
    (t.extend onsets endings).endings = t.endings ++ endings := rfl

theorem extend_nil (t : Timeline) : t.extend [] [] = t := by
  simp only [extend, List.append_nil]

theorem extend_extend (t : Timeline) (onsets onsets' : List Nat)
    (endings endings' : List (Nat × TrialRecord)) :
    (t.extend onsets endings).extend onsets' endings' =
      t.extend (onsets ++ onsets') (endings ++ endings') := by
  simp only [extend, List.append_assoc]

/-- At a reading, the feedback after the trial that was resolved last is over. -/
def LastFeedbackOver (settings : RunSettings) (trials : List TrialInstance) (t : Timeline)
    (reading : Nat) : Prop :=
  ∀ (i : Nat) trial ending, i + 1 = t.endings.length → trials[i]? = some trial →
    t.endings[i]? = some ending → FeedbackOver settings trial ending reading

/-- The next trial comes on screen when the feedback before it is over. -/
theorem NotEarly.onset (h : t.NotEarly settings trials)
    (hlength : t.onsets.length = t.endings.length) {reading : Nat}
    (hover : t.LastFeedbackOver settings trials reading) :
    (t.extend [reading] []).NotEarly settings trials where
  trial i trial ended entry htrial hending := by
    rw [extend_endings, List.append_nil] at hending
    obtain ⟨onset, honset, htimely⟩ := h.trial i trial ended entry htrial hending
    have hlt := (List.getElem?_eq_some_iff.mp honset).1
    exact ⟨onset, by rw [extend_onsets, List.getElem?_append_left hlt, honset], htimely⟩
  feedback i trial ending next htrial hending hnext := by
    rw [extend_endings, List.append_nil] at hending
    have hlt := (List.getElem?_eq_some_iff.mp hending).1
    rw [extend_onsets] at hnext
    rcases Nat.lt_or_eq_of_le (Nat.succ_le_of_lt hlt) with hbefore | hlast
    · rw [List.getElem?_append_left (by omega)] at hnext
      exact h.feedback i trial ending next htrial hending hnext
    · rw [← hlength] at hlast
      rw [show i + 1 = t.onsets.length from hlast, List.getElem?_concat_length] at hnext
      obtain rfl := Option.some.inj hnext
      exact hover i trial ending (hlast.trans hlength) htrial hending

/-- The trial on screen is resolved when it may be. -/
theorem NotEarly.ending (h : t.NotEarly settings trials)
    (hlength : t.onsets.length = t.endings.length + 1) {trial : TrialInstance} {onset reading : Nat}
    {entry : TrialRecord} (htrial : trials[t.endings.length]? = some trial)
    (honset : t.onsets[t.endings.length]? = some onset)
    (htimely : Timely settings trial onset reading entry) :
    (t.extend [] [(reading, entry)]).NotEarly settings trials where
  trial i other ended given hother hended := by
    rw [extend_onsets, List.append_nil]
    have hlt := (List.getElem?_eq_some_iff.mp hended).1
    rw [extend_endings, List.length_append, List.length_singleton] at hlt
    rw [extend_endings] at hended
    rcases Nat.lt_or_eq_of_le (Nat.le_of_lt_succ hlt) with hbefore | rfl
    · rw [List.getElem?_append_left hbefore] at hended
      exact h.trial i other ended given hother hended
    · rw [List.getElem?_concat_length] at hended
      obtain ⟨rfl, rfl⟩ := Prod.mk.inj (Option.some.inj hended)
      obtain rfl := Option.some.inj (htrial.symm.trans hother)
      exact ⟨onset, honset, htimely⟩
  feedback i other ending next hother hended hnext := by
    rw [extend_onsets, List.append_nil] at hnext
    have hlt := (List.getElem?_eq_some_iff.mp hnext).1
    rw [extend_endings, List.getElem?_append_left (by omega)] at hended
    exact h.feedback i other ending next hother hended hnext

/-! ### The run that a timeline is about -/

/-- A timeline is that of a run so far, and nothing in it is early. -/
structure Follows (t : Timeline) (r : Run) (now : Nat) : Prop where
  notEarly : t.NotEarly r.settings r.trials
  endings : t.endings.length = r.resolvedCount
  onsets : t.onsets.length = t.endings.length + r.token?.toList.length
  live : ∀ live, r.active = some live →
    t.onsets[t.endings.length]? = some live.onset ∧ live.onset ≤ now
  shown : ∀ shown, r.shown = some shown → ∃ trial ending, r.trials[r.cursor]? = some trial ∧
    t.endings[r.cursor]? = some ending ∧
    shown.holdUntil = Duration.after ending.1 (r.settings.holdTime trial)

theorem follows_new (trials : List TrialInstance) (settings : RunSettings) (now : Nat) :
    (Timeline.mk [] []).Follows (Run.new trials settings) now where
  notEarly := ⟨fun _ _ _ _ _ h => (nomatch h), fun _ _ _ _ _ h => (nomatch h)⟩
  endings := rfl
  onsets := rfl
  live _ h := nomatch h
  shown _ h := nomatch h

variable {r r' : Run} {clock : Clock} {event : RunEvent} {trial : TrialInstance}
  {ending : Nat × TrialRecord}

/-- A trial comes on screen, or the run is finished, when the feedback before it is over. -/
theorem follows_present {position : Nat} (hnot : t.NotEarly r.settings r.trials)
    (hposition : position ≤ r.trials.length) (hendings : t.endings.length = position)
    (honsets : t.onsets.length = t.endings.length)
    (hover : t.LastFeedbackOver r.settings r.trials clock.now) :
    (t.extend ((r.present clock position).run.token?.toList.map fun _ => clock.now) []).Follows
      (r.present clock position).run clock.now := by
  rcases Nat.lt_or_eq_of_le hposition with hlt | heq
  · rw [Run.present_run_of_some (List.getElem?_eq_getElem hlt)]
    refine ⟨hnot.onset honsets hover, ?_, ?_, ?_, ?_⟩
    · rw [extend_endings, List.append_nil, hendings]
      rfl
    · rw [extend_onsets, extend_endings, List.length_append, List.append_nil, honsets]
      rfl
    · rintro live hlive
      obtain rfl := Option.some.inj hlive
      refine ⟨?_, Nat.le_refl _⟩
      rw [extend_endings, List.append_nil, ← honsets]
      exact List.getElem?_concat_length
    · exact fun _ h => nomatch h
  · rw [Run.present_run_of_length_le (Nat.le_of_eq heq.symm)]
    rw [show (r.finished.token?.toList.map fun _ => clock.now) = [] from rfl, extend_nil]
    refine ⟨hnot, hendings.trans heq, honsets, ?_, ?_⟩
    · exact fun _ h => nomatch h
    · exact fun _ h => nomatch h

/-- The trial at the cursor has been resolved, and nothing else has come on screen. -/
structure Ended (settings : RunSettings) (trials : List TrialInstance) (t : Timeline)
    (cursor : Nat) (ending : Nat × TrialRecord) : Prop where
  notEarly : t.NotEarly settings trials
  endings : t.endings.length = cursor + 1
  onsets : t.onsets.length = t.endings.length
  last : t.endings[cursor]? = some ending

/-- The run goes on to the next trial once there is no feedback to wait for. -/
theorem Ended.advance (h : t.Ended r.settings r.trials r.cursor ending)
    (htrial : r.trials[r.cursor]? = some trial)
    (hover : FeedbackOver r.settings trial ending clock.now) :
    (t.extend ((r.advance clock).run.token?.toList.map fun _ => clock.now) []).Follows
      (r.advance clock).run clock.now := by
  refine follows_present h.notEarly (List.getElem?_eq_some_iff.mp htrial).1 h.endings h.onsets ?_
  intro i other last hlast hother hending
  obtain rfl : i = r.cursor := Nat.succ.inj (hlast.trans h.endings)
  obtain rfl := Option.some.inj (htrial.symm.trans hother)
  obtain rfl := Option.some.inj (h.last.symm.trans hending)
  exact hover

/-- While feedback is on screen its trial is the one that has ended. -/
theorem Follows.ended (h : t.Follows r clock.now) (hrun : r.Coherent) {shown : ShownFeedback}
    (hphase : r.phase = .resolved) (hshown : r.shown = some shown) :
    ∃ trial ending, r.trials[r.cursor]? = some trial ∧ t.Ended r.settings r.trials r.cursor ending ∧
      shown.holdUntil = Duration.after ending.1 (r.settings.holdTime trial) := by
  obtain ⟨_, _, _, hactive, _⟩ := hrun.resolved hphase
  obtain ⟨trial, ending, htrial, hending, hhold⟩ := h.shown shown hshown
  have hendings := h.endings
  have honsets := h.onsets
  simp only [Run.resolvedCount, hphase] at hendings
  rw [Run.token?, hactive] at honsets
  exact ⟨trial, ending, htrial, ⟨h.notEarly, hendings, honsets, hending⟩, hhold⟩

/-- An answer ends the trial on screen, and not before its time. -/
theorem Follows.answered (h : t.Follows r clock.now) (hphase : r.phase = .presenting)
    {onset : Nat} (htrial : r.trials[r.cursor]? = some trial)
    (hactive : r.active = some (Run.arm r.settings trial ⟨r.cursor, r.generation⟩ onset))
    {answer : Run.Answer}
    (hanswer : Run.Answers (Run.arm r.settings trial ⟨r.cursor, r.generation⟩ onset) trial
      clock.now event answer)
    (hreached : event.isTimer = true → r.Reached clock.now) :
    (t.extend [] [(clock.now, Run.record clock trial onset answer)]).Ended r.settings r.trials
      r.cursor (clock.now, Run.record clock trial onset answer) := by
  obtain ⟨honset, hle⟩ := h.live _ hactive
  have hendings := h.endings
  have honsets := h.onsets
  simp only [Run.resolvedCount, hphase] at hendings
  rw [Run.token?, hactive] at honsets
  have htimely : Timely r.settings trial onset clock.now (Run.record clock trial onset answer) := by
    refine Run.timely_of_answers hanswer hle fun htimer => ?_
    obtain ⟨deadline, hdeadline, hle⟩ := hreached htimer
    rw [Run.nextDeadline_of_active hphase hactive] at hdeadline
    exact ⟨deadline, hdeadline, hle⟩
  refine ⟨h.notEarly.ending honsets (hendings ▸ htrial) honset htimely, ?_, ?_, ?_⟩
  · rw [extend_endings, List.length_append, List.length_singleton, hendings]
  · rw [extend_onsets, extend_endings, List.append_nil, List.length_append]
    exact honsets
  · rw [extend_endings, ← hendings]
    exact List.getElem?_concat_length

/-- The feedback after the trial that has ended comes on screen. -/
theorem Ended.showsFeedback {entry : TrialRecord}
    (h : t.Ended r.settings r.trials r.cursor (clock.now, entry))
    (htrial : r.trials[r.cursor]? = some trial) (hactive : r.active = none) (token : Token)
    (message : String) :
    t.Follows (r.showsFeedback (Run.feedbackAfter r.settings trial token clock.now message))
      clock.now where
  notEarly := h.notEarly
  endings := h.endings
  onsets := by
    rw [h.onsets, Run.token?, Run.showsFeedback, hactive]
    rfl
  live live hlive := by cases hactive.symm.trans hlive
  shown shown hshown := by
    obtain rfl := Option.some.inj hshown
    exact ⟨trial, _, htrial, h.last, Run.holdUntil_feedbackAfter _ trial token clock.now message⟩

/-- **One accepted event.** The timeline goes on with the trial that comes on screen and the
    record that is added, if any, as long as timers have been waited for. -/
theorem Follows.accepts (h : t.Follows r clock.now) (hrun : r.Coherent)
    (haccepts : Run.Accepts clock r event r')
    (hreached : event.isTimer = true → r.Reached clock.now) :
    (t.extend (r'.token?.toList.map fun _ => clock.now)
      ((r'.records.drop r.records.length).map fun entry => (clock.now, entry))).Follows
        r' clock.now := by
  cases haccepts with
  | start hphase =>
    have hendings := h.endings
    have honsets := h.onsets
    have htoken : r.token? = none := by
      rw [hrun.idle hphase]
      rfl
    simp only [Run.resolvedCount, hphase] at hendings
    rw [htoken] at honsets
    rw [Run.present_records, List.drop_length]
    refine follows_present h.notEarly (Nat.zero_le _) hendings honsets ?_
    intro i trial ending hlast
    omega
  | @answer _ live trial answer hphase hlive hanswer =>
    obtain ⟨htrial, onset, rfl⟩ := hrun.live hphase hlive
    have hended := h.answered hphase htrial (Run.live?_eq_some_iff.mp hlive).1
      (Run.answers_of_answerTo hanswer) hreached
    rw [Run.resolve_records, List.drop_left]
    cases hshown : (Run.outcome trial answer).feedbackShown with
    | some message =>
      rw [Run.resolve_run_of_feedback hshown]
      exact Ended.showsFeedback (r := r.recorded (Run.record clock trial onset answer)) hended
        htrial rfl _ message
    | none =>
      have hover : FeedbackOver r.settings trial
          (clock.now, Run.record clock trial onset answer) clock.now := by
        intro hfeedback
        have hfeedback : (Run.outcome trial answer).feedbackShown.isSome = true := hfeedback
        rw [hshown] at hfeedback
        cases hfeedback
      have hadvanced := Ended.advance (r := r.recorded (Run.record clock trial onset answer))
        hended htrial hover
      rw [extend_extend] at hadvanced
      rw [Run.resolve_run_of_no_feedback hshown]
      exact hadvanced
  | @elapsed shown hphase hshown =>
    obtain ⟨trial, ending, htrial, hended, hhold⟩ := h.ended hrun hphase hshown
    rw [Run.advance, Run.present_records, List.drop_length]
    refine Ended.advance (r := { r with shown := none }) hended htrial fun _ => ?_
    obtain ⟨deadline, hdeadline, hle⟩ := hreached rfl
    obtain rfl := Option.some.inj
      ((Run.nextDeadline_of_shown hphase hshown).symm.trans hdeadline)
    -- the deadline of feedback stops at the largest reading
    rw [hhold] at hle
    exact Duration.passed_of_after_le hle

end Timeline

/-! ### Histories -/

namespace Session

variable {s : Session} {t : Timeline}

/-- The reading at which a trial comes on screen by a move. -/
def onsets (s : Session) (move : Move) : List Nat := (s.presented move).map fun _ => s.clock.now

/-- The records that a move adds, with the reading. -/
def endings (s : Session) (move : Move) : List (Nat × TrialRecord) :=
  ((s.step move).run.records.drop s.run.records.length).map fun entry => (s.clock.now, entry)

/-- The timeline of a history. -/
def timeline (s : Session) (moves : List Move) : Timeline :=
  ⟨collect onsets s moves, collect endings s moves⟩

theorem endings_eq_nil {move : Move}
    (h : (s.step move).run.records.length ≤ s.run.records.length) : s.endings move = [] := by
  rw [endings, List.drop_eq_nil_of_le h, List.map_nil]

/-- A move that changes nothing adds nothing. -/
theorem endings_of_step_eq {move : Move} (h : s.step move = s) : s.endings move = [] :=
  endings_eq_nil (Nat.le_of_eq (by rw [h]))

theorem step_send_of_refused {event : RunEvent} (h : (s.run.handle s.clock event).run = s.run) :
    s.step (.send event) = s := by
  rw [step, h]

theorem step_take_of_none (h : s.run.takeRecords = (none, s.run)) : s.step .take = s := by
  rw [step, h]

/-- One move, which sends no timer that has not been waited for. -/
theorem follows_step (h : t.Follows s.run s.clock.now) (hrun : s.run.Coherent) {move : Move}
    (hripe : ∀ event ∈ sent? move, event.isTimer = true → s.Ripe event) :
    (t.extend (s.onsets move) (s.endings move)).Follows (s.step move).run
      (s.step move).clock.now := by
  cases move with
  | send event =>
    rcases Run.handle_cases s.run s.clock event with ⟨hrefused, hsame⟩ | ⟨haccepted, haccepts⟩
    · have honsets : s.onsets (.send event) = [] := by
        simp only [onsets, presented, whenAccepted, hrefused, Bool.false_eq_true, if_false,
          List.map_nil]
      have hstep := step_send_of_refused hsame
      rw [honsets, endings_of_step_eq hstep, Timeline.extend_nil, hstep]
      exact h
    · have honsets : s.onsets (.send event) =
          (s.run.handle s.clock event).run.token?.toList.map fun _ => s.clock.now := by
        simp only [onsets, presented, whenAccepted, haccepted, if_true, step]
      rw [honsets]
      exact h.accepts hrun haccepts fun htimer =>
        (hripe event rfl htimer).reached_of_accepts hrun htimer haccepts
  | poll =>
    rw [endings_eq_nil (Nat.le_refl _)]
    exact (Timeline.extend_nil t).symm ▸ h
  | take =>
    rcases Run.takeRecords_cases s.run with ⟨htake, _⟩ | ⟨_, _, htake⟩
    · have hstep := step_take_of_none htake
      rw [endings_of_step_eq hstep, hstep]
      exact (Timeline.extend_nil t).symm ▸ h
    · have hnone : (s.step .take).run.records = [] := by rw [step, htake]
      rw [endings_eq_nil (by rw [hnone]; exact Nat.zero_le _), step, htake]
      exact (Timeline.extend_nil t).symm ▸ ⟨h.notEarly, h.endings, h.onsets, h.live, h.shown⟩
  | wait reading =>
    -- only the bound on the onset sees the clock
    rw [endings_eq_nil (Nat.le_refl _)]
    refine (Timeline.extend_nil t).symm ▸ ⟨h.notEarly, h.endings, h.onsets, ?_, h.shown⟩
    intro live hlive
    exact ⟨(h.live live hlive).1, Nat.le_trans (h.live live hlive).2 (Nat.le_max_left _ _)⟩

/-- A genuine history goes on with the timeline of the run. -/
theorem follows_after (h : t.Follows s.run s.clock.now) (hrun : s.run.Coherent)
    {known : List RunEvent} (hknown : s.AllRipe known) {moves : List Move}
    (hgenuine : Genuine known s moves) :
    (t.extend (collect onsets s moves) (collect endings s moves)).Follows (s.after moves).run
      (s.after moves).clock.now := by
  -- the timers that are known grow along the moves, and all of them stay ripe
  induction moves generalizing s t known with
  | nil => exact (Timeline.extend_nil t).symm ▸ h
  | cons move moves ih =>
    obtain ⟨hmove, hmoves⟩ := hgenuine
    have hstep := follows_step h hrun fun event hsent htimer =>
      hknown event (hmove event hsent htimer)
    have hrest := ih hstep (coherent_step hrun move) (hknown.step hrun move) hmoves
    rw [Timeline.extend_extend] at hrest
    exact hrest

/-! ### Records of a history -/

/-- A move that hands nothing over leaves the records, with its own behind them. -/
theorem records_step {move : Move} (h : (s.step move).run.delivered = s.run.delivered) :
    (s.step move).run.records = s.run.records ++ (s.endings move).map (·.2) := by
  have hkept : s.run.records <+: (s.step move).run.records := by
    cases move with
    | send event =>
      rcases Run.handle_cases s.run s.clock event with ⟨_, hsame⟩ | ⟨_, haccepts⟩
      · simp only [step, hsame, List.prefix_rfl]
      · exact haccepts.records_prefix
    | poll => exact List.prefix_rfl
    | wait => exact List.prefix_rfl
    | take =>
      rcases Run.takeRecords_cases s.run with ⟨htake, _⟩ | ⟨_, hdelivered, htake⟩
      · simp only [step, htake, List.prefix_rfl]
      · simp only [step, htake, hdelivered, Bool.true_eq_false] at h
  obtain ⟨more, hmore⟩ := hkept
  have hmap : (s.endings move).map (·.2) = more := by
    rw [endings, ← hmore, List.drop_left, List.map_map]
    exact List.map_id more
  rw [hmap, hmore]

/-- Nothing is added to a run that is finished. -/
theorem finished_step (h : s.run.phase = .finished) (move : Move) :
    (s.step move).run.phase = .finished ∧ s.endings move = [] := by
  cases move with
  | send event =>
    rcases Run.handle_cases s.run s.clock event with ⟨_, hsame⟩ | ⟨_, haccepts⟩
    · have hstep := step_send_of_refused hsame
      exact ⟨hstep.symm ▸ h, endings_of_step_eq hstep⟩
    · exact absurd h haccepts.phase_ne_finished
  | poll => exact ⟨h, endings_eq_nil (Nat.le_refl _)⟩
  | wait reading => exact ⟨h, endings_eq_nil (Nat.le_refl _)⟩
  | take =>
    rcases Run.takeRecords_cases s.run with ⟨htake, _⟩ | ⟨_, _, htake⟩
    · have hstep := step_take_of_none htake
      exact ⟨hstep.symm ▸ h, endings_of_step_eq hstep⟩
    · have hnone : (s.step .take).run.records = [] := by rw [step, htake]
      exact ⟨by rw [step, htake]; exact h, endings_eq_nil (by rw [hnone]; exact Nat.zero_le _)⟩

theorem collect_endings_of_finished (h : s.run.phase = .finished) (moves : List Move) :
    collect endings s moves = [] := by
  induction moves generalizing s with
  | nil => rfl
  | cons move moves ih =>
    obtain ⟨hphase, hnone⟩ := finished_step h move
    rw [collect, hnone, ih hphase, List.append_nil]

/-- What is handed over is what a finished run has recorded. -/
theorem eq_of_mem_handover {move : Move} {taken : Phase × List TrialRecord}
    (h : taken ∈ s.handover move) : s.run.phase = .finished ∧ taken.2 = s.run.records := by
  cases move with
  | send => cases h
  | poll => cases h
  | wait => cases h
  | take =>
    rcases Run.takeRecords_cases s.run with ⟨htake, _⟩ | ⟨hphase, _, htake⟩
    · rw [handover, htake] at h
      cases h
    · rw [handover, htake] at h
      obtain rfl := List.mem_singleton.mp h
      exact ⟨hphase, rfl⟩

/-- **All records of a history are in its timeline**, those that are held and those that have
    been handed over. -/
theorem records_after (h : s.run.Coherent) (moves : List Move) :
    ((s.after moves).run.delivered = false →
      (s.after moves).run.records = s.run.records ++ (collect endings s moves).map (·.2)) ∧
      ∀ taken ∈ collect handover s moves,
        taken.2 = s.run.records ++ (collect endings s moves).map (·.2) := by
  induction moves generalizing s with
  | nil => exact ⟨fun _ => (List.append_nil _).symm, fun _ htaken => nomatch htaken⟩
  | cons move moves ih =>
    obtain ⟨hheld, htaken⟩ := ih (coherent_step h move)
    rcases handover_cases h move with ⟨hnone, hsame⟩ | ⟨hbefore, hafter, records, hone, _⟩
    · have hrecords := records_step hsame
      rw [hrecords, List.append_assoc, ← List.map_append] at hheld htaken
      refine ⟨hheld, ?_⟩
      rw [collect, hnone]
      exact htaken
    -- all are handed over now, and the run is finished, so that nothing comes after
    · obtain ⟨hphase, hrecords⟩ : s.run.phase = .finished ∧ records = s.run.records :=
        eq_of_mem_handover (hone ▸ List.mem_singleton_self _)
      obtain ⟨hfinished, hnothing⟩ := finished_step hphase move
      have hrest := collect_endings_of_finished hfinished moves
      rcases collect_handover (coherent_step h move) moves with ⟨hlater, hsame⟩ | ⟨hagain, _⟩
      · refine ⟨fun hdelivered => ?_, fun taken hmem => ?_⟩
        · exact absurd (hafter.symm.trans (hsame.symm.trans hdelivered)) (by decide)
        · rw [collect, hone, hlater] at hmem
          obtain rfl := List.mem_singleton.mp hmem
          rw [collect, hnothing, hrest, List.append_nil, List.map_nil, List.append_nil]
          exact hrecords
      · exact absurd (hafter.symm.trans hagain) (by decide)

/-! ### The durations of a history -/

/-- **Nothing in a genuine history is early.** As long as timers are handed out before they are
    sent, and whatever else happens in whichever order: no trial times out before its latency, no
    key is taken behind the key window, and no trial comes on screen before the feedback of the
    one before it is over, or else no reading is left to wait for. All records of the history are
    in its timeline. -/
theorem history_durations (trials : List TrialInstance) (settings : RunSettings) (clock : Clock)
    (moves : List Move) (hgenuine : Genuine [] (start trials settings clock) moves) :
    let s := start trials settings clock
    let run := (s.after moves).run
    let timeline := s.timeline moves
    timeline.NotEarly settings trials ∧ timeline.endings.length ≤ trials.length ∧
      (run.delivered = false → run.records = timeline.endings.map (·.2)) ∧
      ∀ taken ∈ collect handover s moves, taken.2 = timeline.endings.map (·.2) := by
  intro s run timeline
  have hnew : s.run.Coherent := Run.coherent_new trials settings
  have hrun : run.Coherent := coherent_after hnew moves
  have hfollows : timeline.Follows run (s.after moves).clock.now :=
    follows_after (s := s) (Timeline.follows_new trials settings clock.now) hnew
      (fun _ hnone => absurd hnone List.not_mem_nil) hgenuine
  have htrials : run.trials = trials := after_trials s moves
  have hsettings : run.settings = settings := after_settings s moves
  obtain ⟨hheld, htaken⟩ := records_after hnew moves
  refine ⟨?_, ?_, hheld, htaken⟩
  · have hnot := hfollows.notEarly
    rw [htrials, hsettings] at hnot
    exact hnot
  · rw [hfollows.endings, ← htrials]
    exact hrun.resolvedCount_le

/-- A key trial of 100 ms, after which feedback is shown for 50 ms. -/
def rewardedTrial : TrialInstance :=
  { shortKeyTrial with
    spec := { shortKeyTrial.spec with
      feedback := some ⟨.always, "ok"⟩, feedbackDurationMs := some 50 } }

/-- Both timers of the first trial are handed out on time and sent late; the second trial is
    answered 20 ms after it has come on screen. -/
def lateTimers : List Move :=
  [.send .start, .wait (Duration.ofMillis 100), .poll, .wait (Duration.ofMillis 150),
    .send (.timeout ⟨0, 1⟩), .wait (Duration.ofMillis 200), .poll,
    .wait (Duration.ofMillis 230), .send (.feedbackElapsed ⟨0, 1⟩),
    .wait (Duration.ofMillis 250), .send (.key "a")]

theorem history_durations_lateTimers :
    let s := start [rewardedTrial, rewardedTrial] (.ofMillis 1000 (some 50)) ⟨0, 0⟩
    let timeline := s.timeline lateTimers
    Genuine [] s lateTimers ∧ timeline.onsets = [0, Duration.ofMillis 230] ∧
      timeline.endings.map (fun ending => (ending.1, ending.2.outcome.timedOut)) =
        [(Duration.ofMillis 150, true), (Duration.ofMillis 250, false)] ∧
      timeline.NotEarly (.ofMillis 1000 (some 50)) [rewardedTrial, rewardedTrial] := by
  have hgenuine : Genuine [] (start [rewardedTrial, rewardedTrial] (.ofMillis 1000 (some 50))
      ⟨0, 0⟩) lateTimers := by decide +kernel
  exact ⟨hgenuine, by decide +kernel, by decide +kernel,
    (history_durations _ _ _ lateTimers hgenuine).1⟩

end Session

end TimedTrials
