/-
  TimedTrials/Proofs/Run/Tokens.lean
  ==================================
  **Every timer counts once, and only for its own presentation.**

  A late timer may arrive in any phase and as often as it likes. What keeps it out is that a run
  never comes back to where it was: `stage` is a number that every accepted event raises
  (`Accepts.stage_lt`), and the token of a presentation fixes the stages at which its timers are
  accepted. So whatever the moves of a history bring to light at a stage of its own comes in
  increasing order (`collect_increasing`), and nothing comes twice. `history_tokens` draws this
  together for presentations, timeouts and ends of feedback.
-/
import TimedTrials.Proofs.Run.History
import TimedTrials.Proofs.Run.Progress

namespace TimedTrials

namespace Run

variable {r r' : Run} {clock : Clock} {event : RunEvent}

/-! ### Stages -/

/-- How far a run has come. A presentation and the feedback after it have a stage each. -/
def stage (r : Run) : Nat :=
  match r.phase with
  | .idle => 0
  | .presenting => 2 * r.generation
  | .resolved => 2 * r.generation + 1
  | .finished => 2 * r.generation + 2

theorem stage_present (r : Run) (clock : Clock) (position : Nat) :
    (r.present clock position).run.stage = 2 * r.generation + 2 := by
  by_cases h : position < r.trials.length
  · rw [present_run_of_some (List.getElem?_eq_getElem h)]
    rfl
  · rw [present_run_of_length_le (Nat.not_lt.mp h)]
    rfl

/-- No accepted event leads back, or leaves the run where it was. -/
theorem Accepts.stage_lt (h : Accepts clock r event r') : r.stage < r'.stage := by
  cases h with
  | start hphase =>
    rw [stage_present]
    simp only [stage, hphase]
    omega
  | @answer _ live trial answer hphase hlive hanswer =>
    cases hshown : (outcome trial answer).feedbackShown with
    | none =>
      rw [resolve_run_of_no_feedback hshown, advance, stage_present]
      simp only [stage, hphase, recorded]
      omega
    | some message =>
      rw [resolve_run_of_feedback hshown]
      simp only [stage, hphase, showsFeedback, recorded]
      omega
  | elapsed hphase hshown =>
    rw [advance, stage_present]
    simp only [stage, hphase]
    omega

/-- An accepted event shows: an answer in the number of records, anything else in the phase. -/
theorem Accepts.changes (h : Accepts clock r event r') :
    (r'.records.length, r'.phase) ≠ (r.records.length, r.phase) := by
  intro hsame
  obtain ⟨hrecords, hphases⟩ := Prod.mk.inj hsame
  cases h with
  | start hphase =>
    rw [hphase] at hphases
    rcases present_phase { r with startedAt := some clock.wall } clock 0 with hnext | hnext
    · cases hphases.symm.trans hnext
    · cases hphases.symm.trans hnext
  | @answer _ live trial answer hphase hlive hanswer =>
    rw [resolve_records, List.length_append, List.length_singleton] at hrecords
    omega
  | elapsed hphase hshown =>
    rw [hphase] at hphases
    rcases present_phase { r with shown := none } clock (r.cursor + 1) with hnext | hnext
    · cases hphases.symm.trans hnext
    · cases hphases.symm.trans hnext

/-! ### Timers and tokens -/

/-- A timeout is accepted just when it names the trial on screen. -/
theorem Coherent.timeout_accepted_iff (h : r.Coherent) {token : Token} :
    (r.handle clock (.timeout token)).accepted = true ↔ r.token? = some token := by
  constructor
  · intro haccepted
    have haccepts := accepts_of_accepted haccepted
    generalize (r.handle clock (.timeout token)).run = next at haccepts
    cases haccepts with
    | answer hphase hlive hanswer =>
      cases answers_of_answerTo hanswer with
      | timeout =>
        rw [token?, (live?_eq_some_iff.mp hlive).1]
        rfl
  · intro htoken
    have hphase := h.presenting_of_token? htoken
    obtain ⟨trial, onset, _, hlive⟩ := h.live?_eq hphase
    have hlive_token := h.token?_of_presenting hphase
    obtain rfl : ⟨r.cursor, r.generation⟩ = token :=
      Option.some.inj (hlive_token.symm.trans htoken)
    have hanswer : answerTo (arm r.settings trial ⟨r.cursor, r.generation⟩ onset) trial clock.now
        (.timeout ⟨r.cursor, r.generation⟩) = .ok .timeout := if_pos rfl
    exact handle_accepted_of_answer hphase hlive hanswer

/-- The end of feedback is accepted just when it names the feedback on screen. -/
theorem Coherent.elapsed_accepted_iff (h : r.Coherent) {token : Token} :
    (r.handle clock (.feedbackElapsed token)).accepted = true ↔
      r.shown.map (·.token) = some token := by
  constructor
  · intro haccepted
    have haccepts := accepts_of_accepted haccepted
    generalize (r.handle clock (.feedbackElapsed token)).run = next at haccepts
    cases haccepts with
    | answer hphase hlive hanswer => cases hanswer
    | elapsed hphase hshown =>
      rw [hshown]
      rfl
  · intro htoken
    obtain ⟨hphase, _⟩ := h.resolved_of_shown htoken
    obtain ⟨feedback, hshown, rfl⟩ := Option.map_eq_some_iff.mp htoken
    exact handle_accepted_of_elapsed hphase hshown

end Run

namespace Session

variable {s : Session}

/-! ### What shows at a stage of its own -/

theorem stage_le_step (s : Session) (move : Move) : s.run.stage ≤ (s.step move).run.stage := by
  cases move with
  | send event =>
    rcases Run.handle_cases s.run s.clock event with ⟨_, hrun⟩ | ⟨_, haccepts⟩
    · exact Nat.le_of_eq (by rw [step, hrun])
    · exact Nat.le_of_lt haccepts.stage_lt
  | poll => exact Nat.le_refl _
  | take =>
    rcases Run.takeRecords_cases s.run with ⟨htake, _⟩ | ⟨_, _, htake⟩
    · exact Nat.le_of_eq (by rw [step, htake])
    · exact Nat.le_of_eq (by rw [step, htake]; rfl)
  | wait reading => exact Nat.le_refl _

/-- An observation that shows one thing at a time, whose key lies among the stages that the
    move leaves behind. -/
structure Marks {α : Type} (observe : Session → Move → List α) (key : α → Nat) : Prop where
  single : ∀ s move, (observe s move).length ≤ 1
  leaves : ∀ s move, s.run.Coherent → ∀ a ∈ observe s move,
    s.run.stage ≤ key a ∧ key a < (s.step move).run.stage

/-- What is observed along a history has increasing keys. -/
theorem collect_increasing {α : Type} {observe : Session → Move → List α} {key : α → Nat}
    (hmarks : Marks observe key) (h : s.run.Coherent) (moves : List Move) :
    (collect observe s moves).Pairwise (fun a b => key a < key b) ∧
      ∀ a ∈ collect observe s moves, s.run.stage ≤ key a := by
  induction moves generalizing s with
  | nil => exact ⟨.nil, fun _ ha => nomatch ha⟩
  | cons move moves ih =>
    obtain ⟨hordered, hbound⟩ := ih (coherent_step h move)
    have hfirst := hmarks.leaves s move h
    rw [collect]
    constructor
    · rw [List.pairwise_append]
      refine ⟨?_, hordered, ?_⟩
      · have hsingle := hmarks.single s move
        rcases hobserved : observe s move with _ | ⟨a, _ | ⟨b, rest⟩⟩
        · exact .nil
        · exact List.pairwise_singleton _ a
        · rw [hobserved] at hsingle
          simp at hsingle
      -- the rest of the history starts at a later stage
      · intro a ha b hb
        exact Nat.lt_of_lt_of_le (hfirst a ha).2 (hbound b hb)
    · intro a ha
      rcases List.mem_append.mp ha with ha | ha
      · exact (hfirst a ha).1
      · exact Nat.le_trans (stage_le_step s move) (hbound a ha)

theorem collect_nodup {α : Type} {observe : Session → Move → List α} {key : α → Nat}
    (hmarks : Marks observe key) (h : s.run.Coherent) (moves : List Move) :
    (collect observe s moves).Nodup := by
  refine (collect_increasing hmarks h moves).1.imp ?_
  intro a b hlt heq
  rw [heq] at hlt
  exact Nat.lt_irrefl _ hlt

/-! ### Tokens that come up in a history -/

/-- What an event brings to light, if it is accepted. -/
def whenAccepted (s : Session) (event : RunEvent) (tokens : List Token) : List Token :=
  if (s.run.handle s.clock event).accepted then tokens else []

/-- The presentation that a move begins: what is on screen after an accepted event. -/
def presented (s : Session) : Move → List Token
  | .send event => s.whenAccepted event (s.step (.send event)).run.token?.toList
  | _ => []

/-- The presentation whose trial a move resolves: what was on screen before an accepted event. -/
def answered (s : Session) : Move → List Token
  | .send event => s.whenAccepted event s.run.token?.toList
  | _ => []

/-- The token of a timeout that is accepted. -/
def timedOut (s : Session) : Move → List Token
  | .send (.timeout token) => s.whenAccepted (.timeout token) [token]
  | _ => []

/-- The token of an end of feedback that is accepted. -/
def elapsed (s : Session) : Move → List Token
  | .send (.feedbackElapsed token) => s.whenAccepted (.feedbackElapsed token) [token]
  | _ => []

theorem mem_whenAccepted_iff {event : RunEvent} {tokens : List Token} {token : Token} :
    token ∈ s.whenAccepted event tokens ↔
      (s.run.handle s.clock event).accepted = true ∧ token ∈ tokens := by
  unfold whenAccepted
  split
  · simp only [*, true_and]
  · simp only [*, List.not_mem_nil, Bool.false_eq_true, false_and]

theorem length_whenAccepted_le (s : Session) (event : RunEvent) (tokens : List Token) :
    (s.whenAccepted event tokens).length ≤ tokens.length := by
  unfold whenAccepted
  split
  · exact Nat.le_refl _
  · exact Nat.zero_le _

theorem stage_lt_of_accepted {event : RunEvent}
    (h : (s.run.handle s.clock event).accepted = true) :
    s.run.stage < (s.step (.send event)).run.stage :=
  (Run.accepts_of_accepted h).stage_lt

/-- A presentation begins at the stage that its token says. -/
theorem marks_presented : Marks presented (fun token => 2 * token.generation - 1) where
  single s move := by
    cases move with
    | send event => exact Nat.le_trans (length_whenAccepted_le s event _) (Option.length_toList_le)
    | _ => exact Nat.zero_le _
  leaves s move h token htoken := by
    cases move with
    | send event =>
      obtain ⟨haccepted, htoken⟩ := mem_whenAccepted_iff.mp htoken
      have hnext : (s.step (.send event)).run.Coherent := coherent_step h _
      have hon := Option.mem_toList.mp htoken
      have hphase := hnext.presenting_of_token? hon
      obtain rfl := Option.some.inj ((hnext.token?_of_presenting hphase).symm.trans hon)
      have hlt := stage_lt_of_accepted haccepted
      have hstage : (s.step (.send event)).run.stage =
          2 * (s.step (.send event)).run.generation := by
        simp only [Run.stage, hphase]
      simp only
      omega
    | _ => cases htoken

theorem marks_timedOut : Marks timedOut (fun token => 2 * token.generation) where
  single s move := by
    unfold timedOut
    split
    · exact length_whenAccepted_le s _ _
    · exact Nat.zero_le _
  leaves s move h token htoken := by
    unfold timedOut at htoken
    split at htoken
    · obtain ⟨haccepted, htoken⟩ := mem_whenAccepted_iff.mp htoken
      obtain rfl := List.mem_singleton.mp htoken
      have hon := h.timeout_accepted_iff.mp haccepted
      have hphase := h.presenting_of_token? hon
      obtain rfl := Option.some.inj ((h.token?_of_presenting hphase).symm.trans hon)
      have hlt := stage_lt_of_accepted haccepted
      have hstage : s.run.stage = 2 * s.run.generation := by simp only [Run.stage, hphase]
      exact ⟨Nat.le_of_eq hstage, hstage ▸ hlt⟩
    · cases htoken

theorem marks_elapsed : Marks elapsed (fun token => 2 * token.generation + 1) where
  single s move := by
    unfold elapsed
    split
    · exact length_whenAccepted_le s _ _
    · exact Nat.zero_le _
  leaves s move h token htoken := by
    unfold elapsed at htoken
    split at htoken
    · obtain ⟨haccepted, htoken⟩ := mem_whenAccepted_iff.mp htoken
      obtain rfl := List.mem_singleton.mp htoken
      obtain ⟨hphase, rfl⟩ := h.resolved_of_shown (h.elapsed_accepted_iff.mp haccepted)
      have hlt := stage_lt_of_accepted haccepted
      have hstage : s.run.stage = 2 * s.run.generation + 1 := by simp only [Run.stage, hphase]
      exact ⟨Nat.le_of_eq hstage, hstage ▸ hlt⟩
    · cases htoken

/-! ### Feedback comes after its trial -/

/-- The feedback on screen after a move was there before, or its trial has just been resolved. -/
theorem shown_step {token : Token} {move : Move}
    (h : (s.step move).run.shown.map (·.token) = some token) :
    s.run.shown.map (·.token) = some token ∨ token ∈ s.answered move := by
  cases move with
  | send event =>
    rcases Run.handle_cases s.run s.clock event with ⟨_, hrun⟩ | ⟨haccepted, haccepts⟩
    · left
      rw [step, hrun] at h
      exact h
    · right
      refine mem_whenAccepted_iff.mpr ⟨haccepted, Option.mem_toList.mpr ?_⟩
      simp only [step] at h
      generalize (s.run.handle s.clock event).run = next at h haccepts
      cases haccepts with
      | start hphase =>
        rw [Run.present_shown] at h
        cases h
      | @answer _ live trial answer hphase hlive hanswer =>
        cases hshown : (Run.outcome trial answer).feedbackShown with
        | none =>
          rw [Run.resolve_run_of_no_feedback hshown, Run.advance, Run.present_shown] at h
          cases h
        | some message =>
          rw [Run.resolve_run_of_feedback hshown] at h
          rw [Run.token?, (Run.live?_eq_some_iff.mp hlive).1]
          exact h
      | elapsed hphase hshown =>
        rw [Run.advance, Run.present_shown] at h
        cases h
  | poll => exact Or.inl h
  | take =>
    left
    rcases Run.takeRecords_cases s.run with ⟨htake, _⟩ | ⟨_, _, htake⟩
    · rw [step, htake] at h
      exact h
    · rw [step, htake] at h
      exact h
  | wait reading => exact Or.inl h

theorem shown_after {token : Token} {moves : List Move}
    (h : (s.after moves).run.shown.map (·.token) = some token) :
    s.run.shown.map (·.token) = some token ∨ token ∈ collect answered s moves := by
  induction moves generalizing s with
  | nil => exact Or.inl h
  | cons move moves ih =>
    rw [collect, List.mem_append]
    rcases ih h with hshown | hrest
    · rcases shown_step hshown with hbefore | hanswered
      · exact Or.inl hbefore
      · exact Or.inr (Or.inl hanswered)
    · exact Or.inr (Or.inr hrest)

/-- **What events and timers can do after any history.** An event that is refused changes
    nothing at all, and one that is accepted shows in the number of records or the phase. A
    timeout is accepted just when it names the trial on screen, an end of feedback just when it
    names the feedback on screen, whose trial has then been resolved. Along the history no two
    presentations have the same token, and no token has a second timeout or a second end of
    feedback accepted. -/
theorem history_tokens (trials : List TrialInstance) (settings : RunSettings) (clock : Clock)
    (moves : List Move) :
    let s := start trials settings clock
    let run := (s.after moves).run
    let handled := run.handle (s.after moves).clock
    (∀ event,
      ((handled event).accepted = false ∧ (handled event).run = run) ∨
      ((handled event).accepted = true ∧
        ((handled event).run.records.length, (handled event).run.phase) ≠
          (run.records.length, run.phase))) ∧
      (∀ token, (handled (.timeout token)).accepted = true ↔ run.token? = some token) ∧
      (∀ token, (handled (.feedbackElapsed token)).accepted = true ↔
        run.shown.map (·.token) = some token ∧ token ∈ collect answered s moves) ∧
      (collect presented s moves).Nodup ∧
      (collect timedOut s moves).Nodup ∧
      (collect elapsed s moves).Nodup := by
  intro s run handled
  have hnew : s.run.Coherent := Run.coherent_new trials settings
  have hrun : run.Coherent := coherent_after hnew moves
  refine ⟨?_, ?_, ?_, ?_, ?_, ?_⟩
  · intro event
    rcases Run.handle_cases run (s.after moves).clock event with hrefused | ⟨haccepted, haccepts⟩
    · exact Or.inl hrefused
    · exact Or.inr ⟨haccepted, haccepts.changes⟩
  · intro token
    exact hrun.timeout_accepted_iff
  · intro token
    rw [hrun.elapsed_accepted_iff]
    constructor
    · intro hshown
      rcases shown_after hshown with hbefore | hanswered
      · cases hbefore
      · exact ⟨hshown, hanswered⟩
    · exact fun h => h.1
  · exact collect_nodup marks_presented hnew moves
  · exact collect_nodup marks_timedOut hnew moves
  · exact collect_nodup marks_elapsed hnew moves

end Session

end TimedTrials
