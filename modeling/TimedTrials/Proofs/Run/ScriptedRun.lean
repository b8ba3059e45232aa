/-
  TimedTrials/Proofs/Run/ScriptedRun.lean
  =======================================
  **A run that is driven by a script comes to its end.**

  Every turn of the loop takes an input from the script, finds the source closed, or moves the
  clock to a deadline that the next turn acts upon; `remaining` counts what is left of these.
  `driveScript_ends` says how the run ends: with one record for each trial, or given up, and
  the latter just when the source was closed while a trial without a latency was on screen.
-/
import TimedTrials.Proofs.Run.Turns

namespace TimedTrials

/-! ### The script as a source -/

/-- **All that a wait can bring**: the next input of the script, the end of the wait, or the end
    of all input when nothing is left and the wait has no end. -/
theorem Script.wait_cases (script : Script) (clock : Clock) (limit : Option Nat) :
    (∃ reading input rest, script = (reading, input) :: rest ∧
        (∀ last, limit = some last → reading ≤ last) ∧
        Script.wait script clock limit = ⟨some input, clock.moveTo reading, rest⟩) ∨
      (∃ last, limit = some last ∧ (∀ entry ∈ script.head?, last < entry.1) ∧
        Script.wait script clock limit = ⟨none, clock.moveTo last, script⟩) ∨
      (script = [] ∧ limit = none ∧
        Script.wait script clock limit = ⟨some .closed, clock, script⟩) := by
  cases script with
  | nil =>
    right
    cases limit with
    | none => exact Or.inr ⟨rfl, rfl, rfl⟩
    | some last => exact Or.inl ⟨last, rfl, by simp, rfl⟩
  | cons entry rest =>
    obtain ⟨reading, input⟩ := entry
    cases limit with
    | none => exact Or.inl ⟨reading, input, rest, rfl, by simp, by simp [Script.wait]⟩
    | some last =>
      by_cases hle : reading ≤ last
      · exact Or.inl ⟨reading, input, rest, rfl, by simp [hle], by simp [Script.wait, hle]⟩
      · exact Or.inr (Or.inl ⟨last, rfl, by simpa using hle, by simp [Script.wait, hle]⟩)

namespace Run

namespace Driven

variable {trials : List TrialInstance} {d d' : Driven Script}

/-- **All that a wait for input can do to a run in its loop.** -/
theorem takeInput_cases (d : Driven Script) :
    (∃ reading input rest, d.source = (reading, input) :: rest ∧
        d.takeInput Script.wait unobserved =
          { d with clock := d.clock.moveTo reading, source := rest }.receive unobserved input) ∨
      (∃ deadline, d.run.nextDeadline = some deadline ∧
        d.takeInput Script.wait unobserved =
          { d with clock := d.clock.moveTo (max d.clock.now deadline) }) ∨
      (d.source = [] ∧ d.run.nextDeadline = none ∧
        d.takeInput Script.wait unobserved = { d with closed := true }) := by
  rcases Script.wait_cases d.source d.clock (d.run.nextDeadline.map (max d.clock.now)) with
    ⟨reading, input, rest, hsource, _, hwait⟩ | ⟨last, hlimit, _, hwait⟩ | ⟨hsource, hlimit, hwait⟩
  · exact Or.inl ⟨reading, input, rest, hsource, by simp only [takeInput, hwait]⟩
  · obtain ⟨deadline, hdeadline, rfl⟩ := Option.map_eq_some_iff.mp hlimit
    exact Or.inr (Or.inl ⟨deadline, hdeadline, by simp only [takeInput, hwait]⟩)
  · exact Or.inr (Or.inr ⟨hsource, Option.map_eq_none_iff.mp hlimit,
      by simp only [takeInput, hwait, receive]⟩)

theorem receive_source (d : Driven Script) (input : Input) :
    (d.receive unobserved input).source = d.source := by
  cases input with
  | key name => exact apply_source d _
  | text value => exact apply_source d _
  | closed => rfl

theorem receive_closed (d : Driven Script) (input : Input) :
    (d.receive unobserved input).closed = (d.closed || input == .closed) := by
  cases input with
  | key name => simp [receive]
  | text value => simp [receive]
  | closed => simp [receive]

theorem pending_receive_le (h : d.run.Coherent) (input : Input) :
    (d.receive unobserved input).run.pending ≤ d.run.pending := by
  cases input with
  | key name =>
    rw [receive, apply_run]
    exact h.pending_handle_le _ _
  | text value =>
    rw [receive, apply_run]
    exact h.pending_handle_le _ _
  | closed => exact Nat.le_refl _

/-! ### Turns come to an end -/

/-- One as long as no timer is due. -/
def idleTimers (d : Driven Script) : Nat := if (d.run.due d.clock.now).isSome then 0 else 1

/-- What is left to do: events that the run can accept, each perhaps after a turn that brings the
    clock to its deadline, inputs of the script, and the end of all input. -/
def remaining (d : Driven Script) : Nat :=
  2 * d.run.pending + d.idleTimers + d.source.length + (if d.closed then 0 else 1)

theorem idleTimers_le (d : Driven Script) : d.idleTimers ≤ 1 := by
  unfold idleTimers
  split
  · exact Nat.zero_le _
  · exact Nat.le_refl _

/-- Once the clock has come to the deadline there is a timer that is due. -/
theorem idleTimers_of_le {deadline : Nat} (h : d.run.nextDeadline = some deadline)
    (hle : deadline ≤ d.clock.now) : d.idleTimers = 0 := by
  rw [idleTimers, if_pos (due_isSome_of_le h hle)]

/-- Polling makes use of a due timer; otherwise it leaves everything as it is. -/
theorem poll_remaining (h : d.run.Coherent) :
    2 * (d.poll unobserved).run.pending + 1 ≤ 2 * d.run.pending + d.idleTimers := by
  rcases poll_cases unobserved d with ⟨hdue, hpoll⟩ | ⟨event, hdue, hpoll⟩
  · rw [hpoll, idleTimers, hdue]
    exact Nat.le_refl _
  · have hless : (d.poll unobserved).run.pending < d.run.pending := by
      rw [hpoll, apply_run]
      exact h.pending_accepts (accepts_of_accepted (h.due_accepted hdue d.clock))
    omega

/-- Waiting for input takes an input, reaches a deadline, or finds the source closed. -/
theorem takeInput_remaining (h : d.run.Coherent) (hclosed : d.closed = false) :
    (d.takeInput Script.wait unobserved).remaining <
      2 * d.run.pending + 1 + d.source.length + 1 := by
  rcases takeInput_cases d with
    ⟨reading, input, rest, hsource, htake⟩ | ⟨deadline, hdeadline, htake⟩ | ⟨_, _, htake⟩
  -- an input may be refused, but the script has become shorter by it
  · have hpending := pending_receive_le
      (d := { d with clock := d.clock.moveTo reading, source := rest }) h input
    have htimers := idleTimers_le (d.takeInput Script.wait unobserved)
    rw [htake] at htimers ⊢
    simp only [remaining, receive_source, hsource, List.length_cons]
    split <;> simp only at hpending <;> omega
  · have htimers : (d.takeInput Script.wait unobserved).idleTimers = 0 := by
      rw [htake]
      refine idleTimers_of_le hdeadline ?_
      simp only [Clock.moveTo]
      omega
    rw [remaining, htimers, htake]
    simp only [hclosed, Bool.false_eq_true, if_false]
    omega
  · have htimers := idleTimers_le (d.takeInput Script.wait unobserved)
    rw [htake] at htimers ⊢
    simp only [remaining, if_true]
    omega

theorem Turn.remaining_lt (h : Turn Script.wait unobserved d d') (hrun : d.run.UnderWay trials) :
    d'.remaining < d.remaining := by
  have hpoll := poll_remaining hrun.coherent
  have hsource := poll_source d
  have hunderWay : (d.poll unobserved).run.UnderWay trials := underWay_poll hrun
  cases h with
  | @sleep deadline hnext =>
    -- the clock has come to the deadline, so the next poll finds a timer that is due
    rcases next_cases hunderWay with ⟨_, h⟩ | ⟨_, _, _, h⟩ | ⟨hclosed, _, _, hdeadline, h⟩ | ⟨_, _, h⟩
    · cases hnext.symm.trans h
    · cases hnext.symm.trans h
    · obtain rfl := Next.sleep.inj (hnext.symm.trans h)
      have htimers : ({ d.poll unobserved with
          clock := (d.poll unobserved).clock.moveTo deadline }).idleTimers = 0 :=
        idleTimers_of_le hdeadline (Nat.le_max_right _ _)
      rw [remaining, htimers, remaining]
      simp only [hsource, poll_closed]
      omega
    · cases hnext.symm.trans h
  | await hnext =>
    rcases next_cases hunderWay with ⟨_, h⟩ | ⟨_, _, _, h⟩ | ⟨_, _, _, _, h⟩ | ⟨_, hclosed, h⟩
    · cases hnext.symm.trans h
    · cases hnext.symm.trans h
    · cases hnext.symm.trans h
    · have htake := takeInput_remaining hunderWay.coherent hclosed
      rw [poll_closed] at hclosed
      rw [hsource] at htake
      refine Nat.lt_of_lt_of_le htake ?_
      simp only [remaining, hclosed, Bool.false_eq_true, if_false]
      omega

/-! ### When the source is closed -/

/-- A trial without a latency waits for input while nothing is left of the script. -/
structure AwaitsInVain (d : Driven Script) : Prop where
  awaits : d.next = .await
  untimed : d.run.nextDeadline = none
  exhausted : d.source = []

/-- The source of a loop that began in a state has become closed: the end of all input was read
    from the script, or input was awaited without a deadline when the script was exhausted. -/
def SourceClosed (first : Driven Script) (script : Script) (d : Driven Script) : Prop :=
  (∃ consumed, script = consumed ++ d.source ∧ ∃ entry ∈ consumed, entry.2 = .closed) ∨
    ∃ vain, Visits Script.wait unobserved first vain ∧ vain.AwaitsInVain ∧
      Visits Script.wait unobserved (vain.takeInput Script.wait unobserved) d

/-- Inputs are read from the front of the script, and the end of all input closes the source. -/
def Reads (script : Script) (d : Driven Script) : Prop :=
  ∃ consumed, script = consumed ++ d.source ∧
    ((∃ entry ∈ consumed, entry.2 = .closed) → d.closed = true)

theorem Reads.turn {script : Script} (h : Reads script d)
    (hturn : Turn Script.wait unobserved d d') : Reads script d' := by
  obtain ⟨consumed, hscript, hclosed⟩ := h
  have hsource := poll_source d
  cases hturn with
  | sleep => exact ⟨consumed, by rw [hscript, ← hsource], fun h => by simpa using hclosed h⟩
  | await =>
    rw [← hsource] at hscript
    rw [← poll_closed unobserved d] at hclosed
    rcases takeInput_cases (d.poll unobserved) with
      ⟨reading, input, rest, hfront, htake⟩ | ⟨_, _, htake⟩ | ⟨_, _, htake⟩
    · refine ⟨consumed ++ [(reading, input)], ?_, ?_⟩
      · rw [htake, receive_source, hscript, hfront, List.append_assoc]
        rfl
      · rintro ⟨entry, hentry, hinput⟩
        rw [htake, receive_closed]
        rcases List.mem_append.mp hentry with hbefore | hlast
        · rw [hclosed ⟨entry, hbefore, hinput⟩, Bool.true_or]
        · obtain rfl := List.mem_singleton.mp hlast
          have hlast : input = .closed := hinput
          rw [hlast]
          exact Bool.or_true _
    · rw [htake]
      exact ⟨consumed, hscript, hclosed⟩
    · rw [htake]
      exact ⟨consumed, hscript, fun _ => rfl⟩

theorem Turn.closed (h : Turn Script.wait unobserved d d') (hclosed : d.closed = true) :
    d'.closed = true := by
  cases h with
  | sleep => rw [poll_closed, hclosed]
  | await =>
    rw [← poll_closed unobserved d] at hclosed
    rcases takeInput_cases (d.poll unobserved) with ⟨_, _, _, _, htake⟩ | ⟨_, _, htake⟩ | ⟨_, _, htake⟩
    · rw [htake, receive_closed, hclosed, Bool.true_or]
    · rw [htake, hclosed]
    · rw [htake]

theorem Visits.closed (h : Visits Script.wait unobserved d d') (hclosed : d.closed = true) :
    d'.closed = true :=
  h.preserves (P := fun d => d.closed = true) (fun d hd => (poll_closed unobserved d).trans hd)
    (fun _ _ => Turn.closed) hclosed

theorem Visits.reads {script : Script} (h : Visits Script.wait unobserved d d')
    (hreads : Reads script d) : Reads script d' := by
  refine h.preserves (P := Reads script) ?_ (fun _ _ hturn hd => hd.turn hturn) hreads
  rintro e ⟨consumed, hscript, hclosed⟩
  exact ⟨consumed, by rw [poll_source, hscript], fun h => by rw [poll_closed, hclosed h]⟩

/-- A source is never found closed without reason. -/
theorem sourceClosed_of_leads {first head : Driven Script} {script : Script}
    (hsource : first.source = script) (hopen : first.closed = false)
    (hleads : Leads Script.wait unobserved first head) (hclosed : head.closed = true) :
    (∃ consumed, script = consumed ++ head.source ∧ ∃ entry ∈ consumed, entry.2 = .closed) ∨
      ∃ vain, Visits Script.wait unobserved first vain ∧ vain.AwaitsInVain ∧
        Leads Script.wait unobserved (vain.takeInput Script.wait unobserved) head := by
  induction hleads with
  | refl => exact absurd (hopen.symm.trans hclosed) (by decide)
  | @tail before after hbefore hturn ih =>
    cases hturn with
    | sleep hnext =>
      rw [poll_closed] at hclosed
      rcases ih hclosed with ⟨consumed, hscript, hentry⟩ | ⟨vain, hvisits, hvain, hafter⟩
      · exact Or.inl ⟨consumed, by rw [poll_source, hscript], hentry⟩
      · exact Or.inr ⟨vain, hvisits, hvain, hafter.tail (.sleep hnext)⟩
    | await hnext =>
      have hvisits : Visits Script.wait unobserved first (before.poll unobserved) :=
        ⟨before, hbefore, Or.inr rfl⟩
      have hpollOpen := closed_of_next_await hnext
      have hreads : Reads script (before.poll unobserved) :=
        hvisits.reads ⟨[], hsource.symm, by simp⟩
      obtain ⟨consumed, hscript, _⟩ := hreads
      rcases takeInput_cases (before.poll unobserved) with
        ⟨reading, input, rest, hfront, htake⟩ | ⟨_, _, htake⟩ | ⟨hexhausted, huntimed, _⟩
      · left
        rw [htake, receive_closed, hpollOpen, Bool.false_or, beq_iff_eq] at hclosed
        refine ⟨consumed ++ [(reading, input)], ?_, (reading, input), by simp, hclosed⟩
        rw [htake, receive_source, hscript, hfront, List.append_assoc]
        rfl
      · rw [htake] at hclosed
        exact absurd (hpollOpen.symm.trans hclosed) (by decide)
      · exact Or.inr ⟨_, hvisits, ⟨hnext, huntimed, hexhausted⟩, Relation.ReflTransGen.refl⟩

/-- The loop notices at once that its source has become closed, and never without reason. -/
theorem closed_iff_sourceClosed {first : Driven Script} {script : Script}
    (hsource : first.source = script) (hopen : first.closed = false)
    (h : Visits Script.wait unobserved first d) :
    d.closed = true ↔ SourceClosed first script d := by
  have hreads : Reads script d := h.reads ⟨[], hsource.symm, by simp⟩
  constructor
  · intro hclosed
    obtain ⟨head, hleads, hvisit⟩ := h
    have hsame : head.closed = d.closed ∧ head.source = d.source := by
      rcases hvisit with rfl | rfl
      · exact ⟨rfl, rfl⟩
      · exact ⟨(poll_closed unobserved head).symm, (poll_source head).symm⟩
    rw [← hsame.1] at hclosed
    rcases sourceClosed_of_leads hsource hopen hleads hclosed with
      ⟨consumed, hscript, hentry⟩ | ⟨vain, hvisits, hvain, hafter⟩
    · exact Or.inl ⟨consumed, by rw [← hsame.2, hscript], hentry⟩
    · exact Or.inr ⟨vain, hvisits, hvain, head, hafter, hvisit⟩
  · rintro (⟨consumed, hscript, hentry⟩ | ⟨vain, _, ⟨_, huntimed, hexhausted⟩, hafter⟩)
    · obtain ⟨read, hread, hclosed⟩ := hreads
      obtain rfl : consumed = read := List.append_cancel_right (hscript.symm.trans hread)
      exact hclosed hentry
    · refine hafter.closed ?_
      rcases takeInput_cases vain with ⟨_, _, _, hfront, _⟩ | ⟨_, hdeadline, _⟩ | ⟨_, _, htake⟩
      · exact nomatch hexhausted.symm.trans hfront
      · exact nomatch huntimed.symm.trans hdeadline
      · rw [htake]

/-- A run is given up in a state in which its source is closed and a trial without a latency is
    on screen. -/
theorem untimed_of_ends_abandoned {first last : Driven Script}
    (hfirst : first.run.UnderWay trials)
    (hends : Ends Script.wait unobserved first .abandoned last) :
    ∃ d, Visits Script.wait unobserved first d ∧ d.closed = true ∧ d.run.Untimed ∧
      last.run = d.run := by
  obtain ⟨head, hleads, hdone⟩ := hends
  have hvisits : Visits Script.wait unobserved first (head.poll unobserved) :=
    ⟨head, hleads, Or.inr rfl⟩
  rcases next_cases (hvisits.underWay hfirst) with
    ⟨_, h⟩ | ⟨hclosed, huntimed, log, h⟩ | ⟨_, _, _, _, h⟩ | ⟨_, _, h⟩
  · cases hdone.symm.trans h
  · obtain ⟨_, rfl⟩ := Next.done.inj (hdone.symm.trans h)
    exact ⟨_, hvisits, hclosed, huntimed, rfl⟩
  · cases hdone.symm.trans h
  · cases hdone.symm.trans h

/-- Wherever the loop comes by such a state the run is given up, as it is. -/
theorem ends_abandoned_of_untimed {first : Driven Script} (hfirst : first.run.UnderWay trials)
    (hvisits : Visits Script.wait unobserved first d) (hclosed : d.closed = true)
    (huntimed : d.run.Untimed) :
    ∃ last, Ends Script.wait unobserved first .abandoned last ∧ last.run = d.run := by
  have hrun := hvisits.underWay hfirst
  obtain ⟨head, hleads, hvisit⟩ := hvisits
  -- nothing is due at the head of the turn either, so that the poll makes no difference
  have hpolled : head.poll unobserved = d := by
    rcases hvisit with rfl | rfl
    · rcases poll_cases unobserved d with ⟨_, hsame⟩ | ⟨event, hdue, _⟩
      · exact hsame
      · exact nomatch (hrun.coherent.due_of_untimed huntimed _).symm.trans hdue
    · rfl
  rcases next_cases hrun with
    ⟨hphase, _⟩ | ⟨_, _, log, hnext⟩ | ⟨_, htimed, _⟩ | ⟨_, hopen, _⟩
  · rw [hrun.coherent.presenting_of_untimed huntimed] at hphase
    cases hphase
  · exact ⟨{ d with log := log }, ⟨head, hleads, by rw [hpolled, hnext]⟩, rfl⟩
  · exact absurd huntimed htimed
  · exact absurd (hopen.symm.trans hclosed) (by decide)

/-- A complete run has a record for each trial. -/
theorem records_of_ends_complete {first last : Driven Script} {records : List TrialRecord}
    (hfirst : first.run.UnderWay trials)
    (hends : Ends Script.wait unobserved first (.complete records) last) :
    List.Forall₂ Describes trials records := by
  obtain ⟨head, hleads, hdone⟩ := hends
  have hrun : (head.poll unobserved).run.UnderWay trials :=
    Visits.underWay ⟨head, hleads, Or.inr rfl⟩ hfirst
  rcases next_cases hrun with ⟨hphase, h⟩ | ⟨_, _, _, h⟩ | ⟨_, _, _, _, h⟩ | ⟨_, _, h⟩
  · obtain ⟨hending, _⟩ := Next.done.inj (hdone.symm.trans h)
    obtain rfl := Ending.complete.inj hending
    have hrecords := hrun.coherent.records hrun.delivered
    simp only [resolvedCount, hphase, List.take_length, hrun.trials] at hrecords
    exact hrecords.imp fun _ _ h => h.describes
  · cases hdone.symm.trans h
  · cases hdone.symm.trans h
  · cases hdone.symm.trans h

/-- There is no other end than these two. -/
theorem ending_cases {first last : Driven Script} {ending : Ending}
    (hfirst : first.run.UnderWay trials)
    (hends : Ends Script.wait unobserved first ending last) :
    (∃ records, ending = .complete records) ∨ ending = .abandoned := by
  obtain ⟨head, hleads, hdone⟩ := hends
  have hvisits : Visits Script.wait unobserved first (head.poll unobserved) :=
    ⟨head, hleads, Or.inr rfl⟩
  rcases next_cases (hvisits.underWay hfirst) with
    ⟨_, h⟩ | ⟨_, _, _, h⟩ | ⟨_, _, _, _, h⟩ | ⟨_, _, h⟩
  · exact Or.inl ⟨_, (Next.done.inj (hdone.symm.trans h)).1⟩
  · exact Or.inr (Next.done.inj (hdone.symm.trans h)).1
  · cases hdone.symm.trans h
  · cases hdone.symm.trans h

end Driven

open Driven

/-! ### The end of a scripted run -/

section Scripted

variable (trials : List TrialInstance) (settings : RunSettings) (clock : Clock) (script : Script)

theorem started_underWay :
    (started unobserved (Run.new trials settings) clock script).run.UnderWay trials := by
  rw [started, apply_run]
  exact underWay_start trials settings clock

theorem started_source :
    (started unobserved (Run.new trials settings) clock script).source = script := by
  rw [started, apply_source]

theorem started_closed :
    (started unobserved (Run.new trials settings) clock script).closed = false := by
  rw [started, apply_closed]

/-- The granted turns are more than there is to do. -/
theorem remaining_started_lt :
    (started unobserved (Run.new trials settings) clock script).remaining <
      turnsFor (Run.new trials settings) script.length := by
  have hpending : (started unobserved (Run.new trials settings) clock script).run.pending <
      2 * trials.length + 1 := by
    rw [started, apply_run]
    exact (coherent_new trials settings).pending_accepts (Accepts.start rfl)
  have htimers := idleTimers_le (started unobserved (Run.new trials settings) clock script)
  have hlength : (Run.new trials settings).trials.length = trials.length := rfl
  rw [remaining, started_source, started_closed, turnsFor, hlength]
  simp only [Bool.false_eq_true, if_false]
  omega

/-- A run that is driven by a script ends within the granted turns. -/
theorem ends_drive {fuel : Nat}
    (hfuel : turnsFor (Run.new trials settings) script.length ≤ fuel) :
    Ends Script.wait unobserved (started unobserved (Run.new trials settings) clock script)
      (drive fuel Script.wait unobserved (Run.new trials settings) clock script).1
      (drive fuel Script.wait unobserved (Run.new trials settings) clock script).2 := by
  have hremaining := remaining_started_lt trials settings clock script
  refine ends_turns (fun d => d.run.UnderWay trials) remaining ?_
    (started_underWay trials settings clock script) (by omega)
  intro d d' hrun hturn
  exact ⟨hturn.underWay hrun, hturn.remaining_lt hrun⟩

/-- **A scripted run ends.** However many turns are granted beyond a bound, the run ends in one
    and the same way: complete, with one record for each trial in sequence order, or given up.
    It is given up just when its source has become closed while a trial without a latency is on
    screen; that trial is on screen still, and the records of the trials before it are held and
    not handed over. If every trial has a latency the run is complete whatever the script. -/
theorem driveScript_ends :
    let run := Run.new trials settings
    let first := started unobserved run clock script
    ∃ ending last, driveScript run clock script = (ending, last) ∧
      (∀ fuel, turnsFor run script.length ≤ fuel →
        drive fuel Script.wait unobserved run clock script = (ending, last)) ∧
      ((∃ records, ending = .complete records ∧ List.Forall₂ Describes trials records) ∨
        ending = .abandoned) ∧
      (ending = .abandoned ↔ ∃ d, Visits Script.wait unobserved first d ∧
        SourceClosed first script d ∧ d.run.Untimed) ∧
      (∀ d, Visits Script.wait unobserved first d → SourceClosed first script d →
        d.run.Untimed → last.run = d.run) ∧
      (ending = .abandoned → last.run.phase = .presenting ∧ last.run.Untimed ∧
        last.run.current? = trials[last.run.records.length]? ∧
        List.Forall₂ Describes (trials.take last.run.records.length) last.run.records ∧
        last.run.delivered = false) ∧
      ((∀ trial ∈ trials, trial.spec.latencyMs.isSome = true) →
        ∃ records, ending = .complete records) := by
  intro run first
  have hfirst : first.run.UnderWay trials := started_underWay trials settings clock script
  have hclosed : ∀ d, Visits Script.wait unobserved first d →
      (d.closed = true ↔ SourceClosed first script d) := fun d hvisits =>
    closed_iff_sourceClosed (started_source trials settings clock script)
      (started_closed trials settings clock script) hvisits
  have hends : Ends Script.wait unobserved first (driveScript run clock script).1
      (driveScript run clock script).2 := ends_drive trials settings clock script (Nat.le_refl _)
  rcases hresult : driveScript run clock script with ⟨ending, last⟩
  rw [hresult] at hends
  -- wherever the loop comes by a closed source and an untimed trial, that is its one end
  have huntimed : ∀ d, Visits Script.wait unobserved first d → SourceClosed first script d →
      d.run.Untimed → ending = .abandoned ∧ last.run = d.run := by
    intro d hvisits hsource huntimed
    obtain ⟨last', habandoned, hrun⟩ :=
      ends_abandoned_of_untimed hfirst hvisits ((hclosed d hvisits).mpr hsource) huntimed
    obtain ⟨hending, rfl⟩ := hends.unique habandoned
    exact ⟨hending, hrun⟩
  have habandoned : ending = .abandoned → ∃ d, Visits Script.wait unobserved first d ∧
      SourceClosed first script d ∧ d.run.Untimed ∧ last.run = d.run := by
    rintro rfl
    obtain ⟨d, hvisits, hd, huntimed, hrun⟩ := untimed_of_ends_abandoned hfirst hends
    exact ⟨d, hvisits, (hclosed d hvisits).mp hd, huntimed, hrun⟩
  refine ⟨_, _, rfl, ?_, ?_, ⟨?_, ?_⟩, ?_, ?_, ?_⟩
  · intro fuel hfuel
    obtain ⟨hending, hlast⟩ := (ends_drive trials settings clock script hfuel).unique hends
    exact Prod.ext hending hlast
  · rcases ending_cases hfirst hends with ⟨records, hcomplete⟩ | hending
    · rw [hcomplete] at hends
      exact Or.inl ⟨records, hcomplete, records_of_ends_complete hfirst hends⟩
    · exact Or.inr hending
  · intro hending
    obtain ⟨d, hvisits, hsource, hd, _⟩ := habandoned hending
    exact ⟨d, hvisits, hsource, hd⟩
  · rintro ⟨d, hvisits, hsource, hd⟩
    exact (huntimed d hvisits hsource hd).1
  · intro d hvisits hsource hd
    exact (huntimed d hvisits hsource hd).2
  · intro hending
    obtain ⟨d, hvisits, _, hd, hrun⟩ := habandoned hending
    have hunderWay := hvisits.underWay hfirst
    have hphase := hunderWay.coherent.presenting_of_untimed hd
    have hlength := hunderWay.coherent.length_records hunderWay.delivered
    have hrecords := hunderWay.coherent.records hunderWay.delivered
    have hcurrent := hunderWay.coherent.current?_eq
    simp only [resolvedCount, hphase] at hlength hrecords
    rw [if_pos hphase, ← hlength, hunderWay.trials] at hcurrent
    rw [← hlength, hunderWay.trials] at hrecords
    rw [hrun]
    exact ⟨hphase, hd, hcurrent, hrecords.imp fun _ _ h => h.describes, hunderWay.delivered⟩
  · intro htimed
    rcases ending_cases hfirst hends with hcomplete | hending
    · exact hcomplete
    · obtain ⟨d, hvisits, _, ⟨trial, hcurrent, hlatency⟩, _⟩ := habandoned hending
      rw [(hvisits.underWay hfirst).coherent.current?_eq] at hcurrent
      split at hcurrent
      · rw [(hvisits.underWay hfirst).trials] at hcurrent
        have hsome := htimed trial (List.mem_of_getElem? hcurrent)
        rw [hlatency] at hsome
        cases hsome
      · cases hcurrent

end Scripted

end Run

end TimedTrials
