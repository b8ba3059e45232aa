/-
  TimedTrials/Proofs/Run/Instants.lean
  ====================================
  **When the instants of a history go back.**

  Two kinds of events set an instant: the start of the run, and every answer that resolves a
  trial. Each sets the instant of the reading at which it comes (`instants_eq`), and readings
  never go back. Instants do: the wall clock takes a reading for a signed count, so that its
  upper half lies before the lower one (`signed64_le_iff`).

  `history_instants` says that this is the only way: the instants of a history are in order just
  when no reading below the middle of the range is followed by one above it.
-/
import TimedTrials.Proofs.Run.Deadlines
import TimedTrials.Proofs.Run.Phases

namespace TimedTrials

/-! ### Readings as instants -/

namespace Clock

/-- The instant of a clock at another reading. -/
def wallAt (c : Clock) (reading : Nat) : Int := { c with now := reading }.wall

/-- The first reading that is negative as a signed number. -/
def signBound : Nat := 0x8000000000000000

/-- Signed counts keep the order of two readings unless the middle of the range is between
    them. -/
theorem signed64_le_iff {a b : Nat} (hle : a ≤ b) (hb : b ≤ Duration.limit) :
    signed64 a ≤ signed64 b ↔ ¬ (a < signBound ∧ signBound ≤ b) := by
  have hlimit : b < 0x10000000000000000 := Nat.lt_succ_of_le hb
  unfold signed64 signBound
  split
  · rename_i ha
    split
    · rename_i hb
      constructor
      · intro _ hcross
        omega
      · intro _
        exact Int.ofNat_le.mpr hle
    · rename_i hb
      constructor
      · intro hsigned
        omega
      · intro hnot
        exact absurd ⟨ha, Nat.le_of_not_lt hb⟩ hnot
  · rename_i ha
    rw [if_neg (by omega)]
    constructor
    · intro _ hcross
      exact ha hcross.1
    · intro _
      omega

theorem wallAt_le_iff (c : Clock) {a b : Nat} (hle : a ≤ b) (hb : b ≤ Duration.limit) :
    c.wallAt a ≤ c.wallAt b ↔ ¬ (a < signBound ∧ signBound ≤ b) := by
  rw [← signed64_le_iff hle hb]
  exact Int.add_le_add_iff_left _

/-- Readings in order give instants in order just when they stay on one side of the middle. -/
theorem pairwise_map_wallAt_iff (c : Clock) {readings : List Nat}
    (hsorted : readings.Pairwise (· ≤ ·)) (hlimit : ∀ reading ∈ readings, reading ≤ Duration.limit) :
    (readings.map c.wallAt).Pairwise (· ≤ ·) ↔
      ∀ early ∈ readings, ∀ late ∈ readings, ¬ (early < signBound ∧ signBound ≤ late) := by
  rw [List.pairwise_map]
  induction hsorted with
  | nil => simp
  | @cons first rest hfirst hrest ih =>
    rw [List.forall_mem_cons] at hlimit
    rw [List.pairwise_cons, ih hlimit.2]
    constructor
    · rintro ⟨hheads, htails⟩ early hearly late hlate hcross
      rcases List.mem_cons.mp hlate with rfl | hlater
      · -- the first reading is no later than any other, so that nothing is below it
        have hle : late ≤ early := by
          rcases List.mem_cons.mp hearly with rfl | hother
          · exact Nat.le_refl _
          · exact hfirst early hother
        omega
      · rcases List.mem_cons.mp hearly with rfl | hother
        · have hle := hheads late hlater
          rw [c.wallAt_le_iff (hfirst late hlater) (hlimit.2 late hlater)] at hle
          exact hle hcross
        · exact htails early hother late hlater hcross
    · intro hall
      constructor
      · intro late hlate
        rw [c.wallAt_le_iff (hfirst late hlate) (hlimit.2 late hlate)]
        exact hall first List.mem_cons_self late (List.mem_cons_of_mem _ hlate)
      · intro early hearly late hlate
        exact hall early (List.mem_cons_of_mem _ hearly) late (List.mem_cons_of_mem _ hlate)

end Clock

/-! ### Events that set an instant -/

/-- Whether an event sets an instant when it is accepted: all of them do but the end of
    feedback. -/
def RunEvent.setsInstant : RunEvent → Bool
  | .feedbackElapsed _ => false
  | _ => true

namespace Run

variable {r r' : Run} {clock : Clock} {event : RunEvent}

/-- The instant of the start, if there was one, and those of records in their order. -/
def instantsWith (r : Run) (records : List TrialRecord) : List Int :=
  r.startedAt.toList ++ records.map (·.instant)

theorem present_startedAt (r : Run) (clock : Clock) (position : Nat) :
    (r.present clock position).run.startedAt = r.startedAt := by
  unfold present
  split <;> rfl

theorem resolve_startedAt (r : Run) (clock : Clock) (live : LiveTrial) (trial : TrialInstance)
    (answer : Answer) : (r.resolve clock live trial answer).run.startedAt = r.startedAt := by
  cases hshown : (outcome trial answer).feedbackShown with
  | none =>
    rw [resolve_run_of_no_feedback hshown, advance, present_startedAt]
    rfl
  | some message =>
    rw [resolve_run_of_feedback hshown]
    rfl

/-- **One accepted event** sets at most one instant, that of the clock. Records that have been
    handed over are counted before those that the run still has. -/
theorem Coherent.instantsWith_accepts (h : r.Coherent) (haccepts : Accepts clock r event r')
    (before : List TrialRecord) (hidle : r.phase = .idle → before ++ r.records = []) :
    r'.instantsWith (before ++ r'.records) =
      r.instantsWith (before ++ r.records) ++ if event.setsInstant then [clock.wall] else [] := by
  cases haccepts with
  | start hphase =>
    have hnone : r.startedAt = none := by
      rw [h.idle hphase]
      rfl
    rw [present_records, instantsWith, instantsWith, hidle hphase, present_startedAt, hnone]
    rfl
  | @answer _ live trial answer hphase hlive hanswer =>
    have hsets : event.setsInstant = true := by
      cases answers_of_answerTo hanswer <;> rfl
    rw [resolve_records, instantsWith, instantsWith, resolve_startedAt, hsets]
    simp only [List.map_append, List.map_cons, List.map_nil, if_true, List.append_assoc]
    rfl
  | elapsed hphase hshown =>
    rw [advance, present_records, instantsWith, present_startedAt]
    exact (List.append_nil _).symm

end Run

/-! ### Histories -/

namespace Session

variable {s : Session}

/-- The reading at which a move sets an instant. -/
def stamps (s : Session) : Move → List Nat
  | .send event =>
    if (s.run.handle s.clock event).accepted && event.setsInstant then [s.clock.now] else []
  | _ => []

/-- The instants of a history: that of the start, and those of all results. -/
def instants (s : Session) (moves : List Move) : List Int :=
  (s.after moves).run.instantsWith (s.results moves)

theorem step_wallAt (s : Session) (move : Move) :
    (s.step move).clock.wallAt = s.clock.wallAt := by
  cases move <;> rfl

theorem instantsWith_step (h : s.run.Coherent) (move : Move) (before : List TrialRecord)
    (hidle : s.run.phase = .idle → before ++ s.run.records = []) :
    (s.step move).run.instantsWith
        (before ++ ((s.handover move).flatMap (·.2) ++ (s.step move).run.records)) =
      s.run.instantsWith (before ++ s.run.records) ++ (s.stamps move).map s.clock.wallAt := by
  cases move with
  | send event =>
    simp only [handover, step, stamps, List.flatMap_nil, List.nil_append]
    rcases Run.handle_cases s.run s.clock event with ⟨hrefused, hrun⟩ | ⟨haccepted, haccepts⟩
    · simp only [hrefused, hrun, Bool.false_and, Bool.false_eq_true, if_false, List.map_nil,
        List.append_nil]
    · rw [h.instantsWith_accepts haccepts before hidle, haccepted, Bool.true_and]
      cases event.setsInstant <;> rfl
  | poll => simp only [handover, step, stamps, List.flatMap_nil, List.nil_append, List.map_nil,
      List.append_nil]
  | take =>
    rcases Run.takeRecords_cases s.run with ⟨htake, _⟩ | ⟨_, _, htake⟩
    · simp [handover, step, stamps, htake]
    · simp [handover, step, stamps, htake, Run.instantsWith]
  | wait reading => simp only [handover, step, stamps, List.flatMap_nil, List.nil_append,
      List.map_nil, List.append_nil]

/-- **A history** sets the instants of the readings at which it does so. -/
theorem instantsWith_after (h : s.run.Coherent) (moves : List Move) (before : List TrialRecord)
    (hidle : s.run.phase = .idle → before ++ s.run.records = []) :
    (s.after moves).run.instantsWith (before ++ s.results moves) =
      s.run.instantsWith (before ++ s.run.records) ++
        (collect stamps s moves).map s.clock.wallAt := by
  -- what the first move hands over is counted before what the others do
  induction moves generalizing s before with
  | nil => simp [results, after, collect]
  | cons move moves ih =>
    have hrest := ih (coherent_step h move) (before ++ (s.handover move).flatMap (·.2)) (by
      intro hphase
      rw [List.append_assoc]
      exact idle_step s move hidle hphase)
    have hfirst := instantsWith_step h move before hidle
    rw [← List.append_assoc before] at hfirst
    rw [hfirst, step_wallAt, List.append_assoc (s.run.instantsWith _), ← List.map_append] at hrest
    rw [results_cons, collect, ← List.append_assoc before]
    exact hrest

theorem now_le_step (s : Session) (move : Move) : s.clock.now ≤ (s.step move).clock.now := by
  cases move with
  | wait reading => exact Nat.le_max_left _ _
  | send event => exact Nat.le_refl _
  | poll => exact Nat.le_refl _
  | take => exact Nat.le_refl _

theorem now_le_after (s : Session) (moves : List Move) :
    s.clock.now ≤ (s.after moves).clock.now := by
  induction moves generalizing s with
  | nil => exact Nat.le_refl _
  | cons move moves ih => exact Nat.le_trans (now_le_step s move) (ih (s.step move))

theorem eq_now_of_mem_stamps {move : Move} {reading : Nat} (h : reading ∈ s.stamps move) :
    reading = s.clock.now := by
  cases move with
  | send event =>
    rw [stamps] at h
    split at h
    · exact List.mem_singleton.mp h
    · cases h
  | poll => cases h
  | take => cases h
  | wait reading => cases h

/-- A history sets its instants between its first and its last reading. -/
theorem mem_stamps_bounds {moves : List Move} {reading : Nat}
    (h : reading ∈ collect stamps s moves) :
    s.clock.now ≤ reading ∧ reading ≤ (s.after moves).clock.now := by
  induction moves generalizing s with
  | nil => cases h
  | cons move moves ih =>
    rw [collect, List.mem_append] at h
    rcases h with hfirst | hrest
    · rw [eq_now_of_mem_stamps hfirst]
      exact ⟨Nat.le_refl _, now_le_after s (move :: moves)⟩
    · obtain ⟨hle, hlast⟩ := ih hrest
      exact ⟨Nat.le_trans (now_le_step s move) hle, hlast⟩

theorem pairwise_stamps (s : Session) (moves : List Move) :
    (collect stamps s moves).Pairwise (· ≤ ·) := by
  induction moves generalizing s with
  | nil => exact List.Pairwise.nil
  | cons move moves ih =>
    rw [collect, List.pairwise_append]
    refine ⟨?_, ih (s.step move), ?_⟩
    · rw [List.pairwise_iff_getElem]
      intro i j hi hj _
      have hfirst := eq_now_of_mem_stamps (List.getElem_mem hi)
      have hsecond := eq_now_of_mem_stamps (List.getElem_mem hj)
      exact Nat.le_of_eq (hfirst.trans hsecond.symm)
    · intro early hearly late hlate
      rw [eq_now_of_mem_stamps hearly]
      exact Nat.le_trans (now_le_step s move) (mem_stamps_bounds hlate).1

/-- A key trial is put on screen at the last reading below the middle of the range and answered
    one nanosecond later. -/
def acrossTheMiddle : List Move :=
  [.wait (Clock.signBound - 1), .send .start, .wait Clock.signBound, .send (.key "a")]

/-- **An answer can be stamped before the start.** The clock moves on by one nanosecond; the
    instant of the result lies 584 years before that of the start. -/
theorem answer_before_start :
    let s := start [shortKeyTrial] (.ofMillis 1000 none) ⟨0, 0⟩
    let run := (s.after acrossTheMiddle).run
    run.startedAt = some 9223372036854775807 ∧
      run.records.map (·.instant) = [-9223372036854775808] ∧
      ¬ (s.instants acrossTheMiddle).Pairwise (· ≤ ·) := by
  decide

/-- **When the instants of a history go back.** The instant of the start and those of all
    results are those of the readings at which they were set, which lie in order between the
    first reading and the last one. As long as readings fit into 64 bits, the instants are in
    order just when none of those readings lies below the middle of the range while another one
    does not. -/
theorem history_instants (trials : List TrialInstance) (settings : RunSettings) (clock : Clock)
    (moves : List Move)
    (hlimit : ((start trials settings clock).after moves).clock.now ≤ Duration.limit) :
    let s := start trials settings clock
    let readings := collect stamps s moves
    s.instants moves = readings.map clock.wallAt ∧ readings.Pairwise (· ≤ ·) ∧
      (∀ reading ∈ readings, clock.now ≤ reading ∧ reading ≤ (s.after moves).clock.now) ∧
      ((s.instants moves).Pairwise (· ≤ ·) ↔ ∀ early ∈ readings, ∀ late ∈ readings,
        ¬ (early < Clock.signBound ∧ Clock.signBound ≤ late)) := by
  intro s readings
  have hnew : s.run.Coherent := Run.coherent_new trials settings
  have hinstants : s.instants moves = readings.map clock.wallAt :=
    instantsWith_after hnew moves [] fun _ => rfl
  have hbounds : ∀ reading ∈ readings,
      clock.now ≤ reading ∧ reading ≤ (s.after moves).clock.now := by
    intro reading hreading
    exact mem_stamps_bounds hreading
  refine ⟨hinstants, pairwise_stamps s moves, hbounds, ?_⟩
  rw [hinstants]
  apply clock.pairwise_map_wallAt_iff (pairwise_stamps s moves)
  intro reading hreading
  exact Nat.le_trans (hbounds reading hreading).2 hlimit

theorem history_instants_acrossTheMiddle :
    let s := start [shortKeyTrial] (.ofMillis 1000 none) ⟨0, 0⟩
    (s.after acrossTheMiddle).clock.now ≤ Duration.limit ∧
      collect stamps s acrossTheMiddle = [Clock.signBound - 1, Clock.signBound] ∧
      s.instants acrossTheMiddle =
        [Clock.signBound - 1, Clock.signBound].map (Clock.wallAt ⟨0, 0⟩) := by
  have hlimit : ((start [shortKeyTrial] (.ofMillis 1000 none) ⟨0, 0⟩).after
      acrossTheMiddle).clock.now ≤ Duration.limit := by decide
  have hstamps : collect stamps (start [shortKeyTrial] (.ofMillis 1000 none) ⟨0, 0⟩)
      acrossTheMiddle = [Clock.signBound - 1, Clock.signBound] := by decide
  refine ⟨hlimit, hstamps, ?_⟩
  rw [← hstamps]
  exact (history_instants _ _ _ acrossTheMiddle hlimit).1

end Session

end TimedTrials
