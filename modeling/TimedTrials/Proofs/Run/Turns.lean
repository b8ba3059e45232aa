/-
  TimedTrials/Proofs/Run/Turns.lean
  =================================
  **The loop that drives a run, turn by turn.**

  `Run.Driven.turns` goes round as often as it is granted. Here the loop is described without
  such a limit: `Turn` is one turn after which it goes on, `Ends` says how it ends however many
  turns it takes, and `Visits` are the states that it comes by. The loop ends in one way only
  (`Ends.unique`), and once some measure falls with every turn the granted turns suffice to
  reach that end (`ends_turns`).

  None of this depends on where the input comes from.
-/
import Mathlib.Logic.Relation
import TimedTrials.Proofs.Run.Progress
import TimedTrials.Run.Loop

namespace TimedTrials.Run

/-! ### Runs under way -/

/-- A run that has been started and goes on from another one, its records still to be taken. -/
structure UnderWay (trials : List TrialInstance) (r : Run) : Prop where
  coherent : r.Coherent
  begun : r.phase ≠ .idle
  delivered : r.delivered = false
  trials : r.trials = trials

theorem UnderWay.handle {trials : List TrialInstance} {r : Run} (h : r.UnderWay trials)
    (clock : Clock) (event : RunEvent) : (r.handle clock event).run.UnderWay trials := by
  have hgoes := goesOn_handle r clock event
  refine ⟨h.coherent.handle clock event, ?_, hgoes.delivered.trans h.delivered,
    hgoes.trials.trans h.trials⟩
  rcases handle_cases r clock event with ⟨_, hrun⟩ | ⟨_, haccepts⟩
  · rw [hrun]
    exact h.begun
  · exact haccepts.phase_ne_idle

/-- The start sets a new run going. -/
theorem underWay_start (trials : List TrialInstance) (settings : RunSettings) (clock : Clock) :
    ((Run.new trials settings).handle clock .start).run.UnderWay trials := by
  have hgoes := goesOn_handle (Run.new trials settings) clock .start
  have haccepts : Accepts clock (Run.new trials settings) .start
      ((Run.new trials settings).handle clock .start).run := Accepts.start rfl
  exact ⟨(coherent_new trials settings).handle clock .start, haccepts.phase_ne_idle,
    hgoes.delivered, hgoes.trials⟩

theorem UnderWay.isRunning {trials : List TrialInstance} {r : Run} (h : r.UnderWay trials)
    (hphase : r.phase ≠ .finished) : r.phase.isRunning = true := by
  have hbegun := h.begun
  cases hp : r.phase <;> simp_all [Phase.isRunning]

namespace Driven

variable {σ : Type} {wait : Wait σ} {observe : σ → Change → σ} {trials : List TrialInstance}
  {d d' : Driven σ}

/-! ### Events in the loop -/

@[simp] theorem apply_run (observe : σ → Change → σ) (d : Driven σ) (event : RunEvent) :
    (d.apply observe event).run = (d.run.handle d.clock event).run := by
  simp only [apply]
  split <;> rfl

@[simp] theorem apply_clock (observe : σ → Change → σ) (d : Driven σ) (event : RunEvent) :
    (d.apply observe event).clock = d.clock := by
  simp only [apply]
  split <;> rfl

@[simp] theorem apply_closed (observe : σ → Change → σ) (d : Driven σ) (event : RunEvent) :
    (d.apply observe event).closed = d.closed := by
  simp only [apply]
  split <;> rfl

/-- A source that takes no notice of changes stays as it is. -/
@[simp] theorem apply_source (d : Driven σ) (event : RunEvent) :
    (d.apply unobserved event).source = d.source := by
  simp only [apply, unobserved]
  split <;> rfl

/-- Polling applies the timer that is due, or does nothing. -/
theorem poll_cases (observe : σ → Change → σ) (d : Driven σ) :
    (d.run.due d.clock.now = none ∧ d.poll observe = d) ∨
      ∃ event, d.run.due d.clock.now = some event ∧ d.poll observe = d.apply observe event := by
  unfold poll
  cases hdue : d.run.due d.clock.now with
  | none => exact Or.inl ⟨rfl, rfl⟩
  | some event => exact Or.inr ⟨event, rfl, rfl⟩

@[simp] theorem poll_closed (observe : σ → Change → σ) (d : Driven σ) :
    (d.poll observe).closed = d.closed := by
  rcases poll_cases observe d with ⟨_, hpoll⟩ | ⟨event, _, hpoll⟩
  · rw [hpoll]
  · rw [hpoll, apply_closed]

@[simp] theorem poll_source (d : Driven σ) : (d.poll unobserved).source = d.source := by
  rcases poll_cases unobserved d with ⟨_, hpoll⟩ | ⟨event, _, hpoll⟩
  · rw [hpoll]
  · rw [hpoll, apply_source]

theorem underWay_poll (h : d.run.UnderWay trials) : (d.poll observe).run.UnderWay trials := by
  rcases poll_cases observe d with ⟨_, hpoll⟩ | ⟨event, _, hpoll⟩
  · rw [hpoll]
    exact h
  · rw [hpoll, apply_run]
    exact h.handle d.clock event

theorem underWay_receive (h : d.run.UnderWay trials) (input : Input) :
    (d.receive observe input).run.UnderWay trials := by
  cases input with
  | key name =>
    rw [receive, apply_run]
    exact h.handle _ _
  | text value =>
    rw [receive, apply_run]
    exact h.handle _ _
  | closed => exact h

theorem underWay_takeInput (h : d.run.UnderWay trials) :
    (d.takeInput wait observe).run.UnderWay trials := by
  simp only [takeInput]
  split
  · apply underWay_receive
    exact h
  · exact h

/-! ### What comes next -/

/-- **All that can come next.** A finished run hands out its records. One under way sleeps until
    its deadline or is given up when its source is closed, and awaits input otherwise. -/
theorem next_cases (h : d.run.UnderWay trials) :
    (d.run.phase = .finished ∧
        d.next = .done (.complete d.run.records) { d with run := d.run.takeRecords.2 }) ∨
      (d.closed = true ∧ d.run.Untimed ∧ ∃ log, d.next = .done .abandoned { d with log := log }) ∨
      (d.closed = true ∧ ¬ d.run.Untimed ∧
        ∃ deadline, d.run.nextDeadline = some deadline ∧ d.next = .sleep deadline) ∨
      (d.run.phase ≠ .finished ∧ d.closed = false ∧ d.next = .await) := by
  by_cases hphase : d.run.phase = .finished
  · left
    rcases takeRecords_cases d.run with ⟨_, hdelivered⟩ | ⟨_, _, htake⟩
    · exact absurd (h.delivered.symm.trans (hdelivered hphase)) (by decide)
    · exact ⟨hphase, by simp only [next, hphase, Phase.isFinished, if_true, htake]⟩
  · right
    have hfinished : d.run.phase.isFinished = false := by
      cases hp : d.run.phase <;> simp_all [Phase.isFinished]
    have huntimed := h.coherent.nextDeadline_eq_none_iff (h.isRunning hphase)
    cases hclosed : d.closed with
    | false =>
      exact Or.inr (Or.inr ⟨hphase, rfl, by simp [next, hfinished, hclosed]⟩)
    | true =>
      cases hdeadline : d.run.nextDeadline with
      | none =>
        exact Or.inl ⟨rfl, huntimed.mp hdeadline, _, by simp [next, hfinished, hclosed, hdeadline]; rfl⟩
      | some deadline =>
        refine Or.inr (Or.inl ⟨rfl, ?_, deadline, rfl, ?_⟩)
        · rw [← huntimed, hdeadline]
          exact Option.some_ne_none _
        · simp [next, hfinished, hclosed, hdeadline]

theorem closed_of_next_await (h : d.next = .await) : d.closed = false := by
  cases hclosed : d.closed with
  | false => rfl
  | true =>
    simp only [next, hclosed, if_true] at h
    split at h
    · split at h <;> cases h
    · split at h <;> cases h

theorem closed_of_next_sleep {deadline : Nat} (h : d.next = .sleep deadline) : d.closed = true := by
  cases hclosed : d.closed with
  | true => rfl
  | false =>
    simp only [next, hclosed, Bool.false_eq_true, if_false] at h
    split at h
    · split at h <;> cases h
    · cases h

/-! ### Turns -/

/-- One turn after which the loop goes on: due timers first, then the sleep until a deadline or
    the wait for input. -/
inductive Turn (wait : Wait σ) (observe : σ → Change → σ) (d : Driven σ) : Driven σ → Prop where
  | sleep {deadline : Nat} (hnext : (d.poll observe).next = .sleep deadline) :
      Turn wait observe d
        { d.poll observe with clock := (d.poll observe).clock.moveTo deadline }
  | await (hnext : (d.poll observe).next = .await) :
      Turn wait observe d ((d.poll observe).takeInput wait observe)

/-- The loop comes to a state at the head of a turn. -/
abbrev Leads (wait : Wait σ) (observe : σ → Change → σ) : Driven σ → Driven σ → Prop :=
  Relation.ReflTransGen (Turn wait observe)

/-- The loop comes by a state, at the head of a turn or once due timers have happened. -/
def Visits (wait : Wait σ) (observe : σ → Change → σ) (d e : Driven σ) : Prop :=
  ∃ head, Leads wait observe d head ∧ (e = head ∨ e = head.poll observe)

/-- The loop ends in this way, however many turns it takes. -/
def Ends (wait : Wait σ) (observe : σ → Change → σ) (d : Driven σ) (ending : Ending)
    (last : Driven σ) : Prop :=
  ∃ head, Leads wait observe d head ∧ (head.poll observe).next = .done ending last

theorem Turn.underWay (h : Turn wait observe d d') (hrun : d.run.UnderWay trials) :
    d'.run.UnderWay trials := by
  cases h with
  | sleep => exact underWay_poll hrun
  | await => exact underWay_takeInput (underWay_poll hrun)

/-- What turns and polls preserve holds of every state that the loop comes by. -/
theorem Visits.preserves {P : Driven σ → Prop} (hpoll : ∀ d, P d → P (d.poll observe))
    (hturn : ∀ d d', Turn wait observe d d' → P d → P d') (h : Visits wait observe d d')
    (hd : P d) : P d' := by
  obtain ⟨head, hleads, hvisit⟩ := h
  have hhead : P head := by
    clear hvisit
    induction hleads with
    | refl => exact hd
    | tail _ hstep ih => exact hturn _ _ hstep ih
  rcases hvisit with rfl | rfl
  · exact hhead
  · exact hpoll head hhead

theorem Visits.underWay (h : Visits wait observe d d') (hrun : d.run.UnderWay trials) :
    d'.run.UnderWay trials :=
  h.preserves (P := fun d => d.run.UnderWay trials) (fun _ => underWay_poll)
    (fun _ _ => Turn.underWay) hrun

/-! ### The end -/

/-- There is at most one way to go on. -/
theorem turn_rightUnique : Relator.RightUnique (Turn wait observe) := by
  intro d a b ha hb
  cases ha with
  | sleep ha =>
    cases hb with
    | sleep hb =>
      obtain rfl := Next.sleep.inj (ha.symm.trans hb)
      rfl
    | await hb => exact nomatch ha.symm.trans hb
  | await ha =>
    cases hb with
    | sleep hb => exact nomatch ha.symm.trans hb
    | await hb => rfl

theorem not_turn_of_done {ending : Ending} {last : Driven σ}
    (h : (d.poll observe).next = .done ending last) : ¬ Turn wait observe d d' := by
  intro hturn
  cases hturn with
  | sleep hnext => exact nomatch h.symm.trans hnext
  | await hnext => exact nomatch h.symm.trans hnext

/-- All states that the loop comes by lead to its end. -/
theorem Leads.leads_of_done {head other : Driven σ} {ending : Ending} {last : Driven σ}
    (hhead : Leads wait observe d head) (hdone : (head.poll observe).next = .done ending last)
    (hother : Leads wait observe d other) : Leads wait observe other head := by
  rcases Relation.ReflTransGen.total_of_right_unique turn_rightUnique hhead hother with
    hafter | hbefore
  · rcases Relation.ReflTransGen.cases_head hafter with heq | ⟨next, hturn, _⟩
    · exact heq ▸ Relation.ReflTransGen.refl
    · exact absurd hturn (not_turn_of_done hdone)
  · exact hbefore

theorem Ends.unique {ending₁ ending₂ : Ending} {last₁ last₂ : Driven σ}
    (h₁ : Ends wait observe d ending₁ last₁) (h₂ : Ends wait observe d ending₂ last₂) :
    ending₁ = ending₂ ∧ last₁ = last₂ := by
  obtain ⟨head₁, hleads₁, hdone₁⟩ := h₁
  obtain ⟨head₂, hleads₂, hdone₂⟩ := h₂
  have hsame : head₁ = head₂ := by
    rcases Relation.ReflTransGen.cases_head (hleads₂.leads_of_done hdone₂ hleads₁) with
      heq | ⟨next, hturn, _⟩
    · exact heq
    · exact absurd hturn (not_turn_of_done hdone₁)
  rw [← hsame] at hdone₂
  exact Next.done.inj (hdone₁.symm.trans hdone₂)

/-- As long as a measure falls with every turn, more turns than it says reach the end. -/
theorem ends_turns (Invariant : Driven σ → Prop) (measure : Driven σ → Nat)
    (hturn : ∀ d d', Invariant d → Turn wait observe d d' → Invariant d' ∧ measure d' < measure d)
    {fuel : Nat} (hinvariant : Invariant d) (hfuel : measure d < fuel) :
    Ends wait observe d (d.turns wait observe fuel).1 (d.turns wait observe fuel).2 := by
  induction fuel generalizing d with
  | zero => exact absurd hfuel (Nat.not_lt_zero _)
  | succ fuel ih =>
    have hgoes : ∀ d', Turn wait observe d d' →
        Ends wait observe d (d'.turns wait observe fuel).1 (d'.turns wait observe fuel).2 := by
      intro d' hd
      obtain ⟨hinvariant', hless⟩ := hturn d d' hinvariant hd
      obtain ⟨head, hleads, hdone⟩ := ih hinvariant' (by omega)
      exact ⟨head, Relation.ReflTransGen.head hd hleads, hdone⟩
    rw [turns]
    cases hnext : (d.poll observe).next with
    | done ending last => exact ⟨d, Relation.ReflTransGen.refl, hnext⟩
    | sleep deadline => exact hgoes _ (.sleep hnext)
    | await => exact hgoes _ (.await hnext)

end Driven

end TimedTrials.Run
