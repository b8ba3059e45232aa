/-
  TimedTrials/Proofs/Run/Journal.lean
  ===================================
  **What happens to a run in its loop, one thing after the other.**

  Two things can happen to a run in a turn of its loop: a timer is due, or the script has an
  entry for it. `Driven.journal` lists them as they come, each with the loop as it is at that
  moment. The journal accounts for all that the loop does to the run (`follows_journal`), and
  while a trial is on screen everything in it is refused but the last thing, which leaves the
  record of the trial (`Follows.resolution`).
-/
import TimedTrials.Proofs.Run.History
import TimedTrials.Proofs.Run.ScriptedRun

namespace TimedTrials

/-- The event that an input is to a run. The end of all input is none. -/
def Input.event? : Input → Option RunEvent
  | .key name => some (.key name)
  | .text value => some (.textSubmitted value)
  | .closed => none

namespace Run

/-! ### Happenings -/

/-- What can happen to a run in its loop: a timer that is due, or the next entry of the script. -/
inductive Happening where
  | timer (loop : Driven Script) (event : RunEvent)
  | entry (loop : Driven Script) (reading : Nat) (input : Input)

namespace Happening

/-- The loop just before it. -/
def loop : Happening → Driven Script
  | .timer loop _ => loop
  | .entry loop _ _ => loop

def run (h : Happening) : Run := h.loop.run

/-- When it happens. An entry whose reading has gone by happens at once. -/
def clock : Happening → Clock
  | .timer loop _ => loop.clock
  | .entry loop reading _ => loop.clock.moveTo reading

def event? : Happening → Option RunEvent
  | .timer _ event => some event
  | .entry _ _ input => input.event?

def entry? : Happening → Option (Nat × Input)
  | .timer _ _ => none
  | .entry _ reading input => some (reading, input)

/-- The run just after it. -/
def after (h : Happening) : Run :=
  match h.event? with
  | some event => (h.run.handle h.clock event).run
  | none => h.run

/-- It leaves the run as it is: an event that is refused, or no event at all. -/
structure Refused (h : Happening) : Prop where
  after : h.after = h.run
  event : ∀ event, h.event? = some event → (h.run.handle h.clock event).accepted = false

/-- Whether it happens while the trial at a position is on screen. -/
def isDuring (position : Nat) (h : Happening) : Bool :=
  h.run.token?.map (·.position) == some position

theorem after_of_event? {h : Happening} {event : RunEvent} (hevent : h.event? = some event) :
    h.after = (h.run.handle h.clock event).run := by
  simp only [after, hevent]

/-- It is refused, or it is an event that the run accepts. -/
theorem refused_or_accepts (h : Happening) :
    h.Refused ∨ ∃ event, h.event? = some event ∧ Accepts h.clock h.run event h.after := by
  cases hevent : h.event? with
  | none =>
    left
    refine ⟨by simp only [after, hevent], ?_⟩
    intro event hsome
    cases hevent.symm.trans hsome
  | some event =>
    rcases handle_cases h.run h.clock event with ⟨hrefused, hrun⟩ | ⟨_, haccepts⟩
    · left
      refine ⟨(after_of_event? hevent).trans hrun, ?_⟩
      intro event' hevent'
      obtain rfl := Option.some.inj (hevent.symm.trans hevent')
      exact hrefused
    · right
      refine ⟨event, rfl, ?_⟩
      rw [after_of_event? hevent]
      exact haccepts

theorem underWay_after {trials : List TrialInstance} {h : Happening}
    (hrun : h.run.UnderWay trials) : h.after.UnderWay trials := by
  cases hevent : h.event? with
  | none =>
    simp only [after, hevent]
    exact hrun
  | some event =>
    rw [after_of_event? hevent]
    exact hrun.handle h.clock event

end Happening

/-! ### Accounts -/

/-- A list of happenings accounts for how one run becomes another: each befalls the run that the
    one before it has left. -/
inductive Follows : Run → List Happening → Run → Prop where
  | nil (r : Run) : Follows r [] r
  | cons (h : Happening) {rest : List Happening} {last : Run} (hrest : Follows h.after rest last) :
      Follows h.run (h :: rest) last

theorem Follows.append {r s t : Run} {before after : List Happening}
    (hbefore : Follows r before s) (hafter : Follows s after t) : Follows r (before ++ after) t := by
  induction hbefore with
  | nil => exact hafter
  | cons h _ ih => exact .cons h (ih hafter)

section Accounts

variable {trials : List TrialInstance} {r last : Run} {happenings : List Happening}
  {h : Happening} {position : Nat} {trial : TrialInstance} {entry : TrialRecord} {live : LiveTrial}

theorem Follows.records_prefix (h : Follows r happenings last) : r.records <+: last.records := by
  induction h with
  | nil => exact List.prefix_refl _
  | cons h _ ih =>
    refine List.IsPrefix.trans ?_ ih
    rcases h.refused_or_accepts with hrefused | ⟨_, _, haccepts⟩
    · simp only [hrefused.after, List.prefix_rfl]
    · exact haccepts.records_prefix

theorem Coherent.resolvedCount_of_token? (h : r.Coherent)
    (htoken : r.token?.map (·.position) = some position) : r.resolvedCount = position := by
  obtain ⟨token, hon, rfl⟩ := Option.map_eq_some_iff.mp htoken
  have hphase := h.presenting_of_token? hon
  obtain rfl := Option.some.inj ((h.token?_of_presenting hphase).symm.trans hon)
  simp only [resolvedCount, hphase]

theorem Happening.isDuring_iff :
    h.isDuring position = true ↔ h.run.token?.map (·.position) = some position := by
  simp only [isDuring, beq_iff_eq]

theorem Happening.resolvedCount_le (hrun : h.run.UnderWay trials) :
    h.run.resolvedCount ≤ h.after.resolvedCount := by
  rcases h.refused_or_accepts with hrefused | ⟨_, _, haccepts⟩
  · exact Nat.le_of_eq (congrArg resolvedCount hrefused.after.symm)
  · rcases hrun.coherent.resolvedCount_accepts haccepts with ⟨_, hcount⟩ | ⟨_, hcount⟩
    · omega
    · omega

/-- A trial that has been resolved does not come on screen again. -/
theorem Follows.not_isDuring (h : Follows r happenings last) (hrun : r.UnderWay trials)
    (hposition : position < r.resolvedCount) :
    ∀ x ∈ happenings, ¬ x.isDuring position = true := by
  induction h with
  | nil => exact fun _ hx => nomatch hx
  | cons h _ ih =>
    intro x hx
    rcases List.mem_cons.mp hx with rfl | hx
    · intro hduring
      have hcount := hrun.coherent.resolvedCount_of_token? (Happening.isDuring_iff.mp hduring)
      omega
    · have hle := Happening.resolvedCount_le hrun
      exact ih (Happening.underWay_after hrun) (by omega) x hx

/-! ### Resolutions -/

/-- How a trial came to its record: while it was on screen everything was refused but the last
    thing that happened, and that was its answer. -/
structure Resolution (happenings : List Happening) (position : Nat) (trial : TrialInstance)
    (entry : TrialRecord) (h : Happening) (live : LiveTrial) : Prop where
  during : ∃ refused, happenings.filter (·.isDuring position) = refused ++ [h] ∧
    ∀ x ∈ refused, x.Refused
  onScreen : h.run.live? = some (live, trial)
  answered : ∃ event answer, h.event? = some event ∧
    answerTo live trial h.clock.now event = .ok answer ∧
    entry = record h.clock trial live.onset answer

/-- What is refused, or happens while another trial is on screen, is no part of a resolution. -/
theorem Resolution.cons {first : Happening}
    (hrest : Resolution happenings position trial entry h live)
    (hfirst : first.isDuring position = true → first.Refused) :
    Resolution (first :: happenings) position trial entry h live := by
  obtain ⟨refused, hduring, hrefused⟩ := hrest.during
  refine ⟨?_, hrest.onScreen, hrest.answered⟩
  by_cases hon : first.isDuring position = true
  · refine ⟨first :: refused, ?_, ?_⟩
    · rw [List.filter_cons_of_pos hon, hduring, List.cons_append]
    · intro x hx
      rcases List.mem_cons.mp hx with rfl | hx
      · exact hfirst hon
      · exact hrefused x hx
  · refine ⟨refused, ?_, hrefused⟩
    rw [List.filter_cons_of_neg hon, hduring]

/-- What a run accepts while a trial is on screen is an answer to the trial. -/
theorem Coherent.answer_of_accepts {r' : Run} {clock : Clock} {event : RunEvent} (h : r.Coherent)
    (haccepts : Accepts clock r event r') (htoken : r.token?.map (·.position) = some position)
    (htrial : r.trials[position]? = some trial) :
    ∃ live answer, r.live? = some (live, trial) ∧
      answerTo live trial clock.now event = .ok answer ∧
      r'.records = r.records ++ [record clock trial live.onset answer] := by
  obtain ⟨token, hon, hposition⟩ := Option.map_eq_some_iff.mp htoken
  have hpresenting := h.presenting_of_token? hon
  obtain rfl := Option.some.inj ((h.token?_of_presenting hpresenting).symm.trans hon)
  cases haccepts with
  | start hphase => cases hpresenting.symm.trans hphase
  | elapsed hphase => cases hpresenting.symm.trans hphase
  | @answer _ live other answer _ hlive hanswer =>
    obtain ⟨hother, _⟩ := h.live hpresenting hlive
    obtain rfl : r.cursor = position := hposition
    obtain rfl : other = trial := Option.some.inj (hother.symm.trans htrial)
    exact ⟨live, answer, hlive, hanswer, resolve_records _ _ _ _ _⟩

/-- The answer to a trial, and all that is still to come, are its resolution. -/
theorem resolution_of_answer (hrun : h.run.UnderWay trials)
    (hrest : Follows h.after happenings last) {event : RunEvent} (hevent : h.event? = some event)
    (haccepts : Accepts h.clock h.run event h.after) (hon : h.isDuring position = true)
    (htrial : trials[position]? = some trial) :
    ∃ entry live, last.records[position]? = some entry ∧
      Resolution (h :: happenings) position trial entry h live := by
  have htoken := Happening.isDuring_iff.mp hon
  have hcount := hrun.coherent.resolvedCount_of_token? htoken
  have hlength := hrun.coherent.length_records hrun.delivered
  obtain ⟨live, answer, hlive, hanswer, hrecords⟩ :=
    hrun.coherent.answer_of_accepts haccepts htoken (by rw [hrun.trials]; exact htrial)
  have hafter := Happening.underWay_after hrun
  have hlater := hafter.coherent.length_records hafter.delivered
  rw [hrecords, List.length_append, List.length_singleton] at hlater
  refine ⟨_, live, ?_, ⟨[], ?_, fun _ hx => nomatch hx⟩, hlive, event, answer, hevent, hanswer, rfl⟩
  · -- the record stands behind those of the trials before it, and stays there
    obtain ⟨more, hmore⟩ := hrest.records_prefix
    rw [← hmore, hrecords, ← hcount, ← hlength, List.append_assoc, List.singleton_append,
      List.getElem?_append_right (Nat.le_refl _), Nat.sub_self, List.getElem?_cons_zero]
  · have hnone : happenings.filter (·.isDuring position) = [] :=
      List.filter_eq_nil_iff.mpr (hrest.not_isDuring hafter (by omega))
    rw [List.filter_cons_of_pos hon, hnone, List.nil_append]

/-- **Every trial of a finished run has its resolution** in the account of the run. -/
theorem Follows.resolution (h : Follows r happenings last) (hrun : r.UnderWay trials)
    (hlast : last.phase = .finished) (htrial : trials[position]? = some trial)
    (hcount : r.resolvedCount ≤ position) :
    ∃ entry h live, last.records[position]? = some entry ∧
      Resolution happenings position trial entry h live := by
  induction h with
  | nil =>
    have hlt := (List.getElem?_eq_some_iff.mp htrial).1
    simp only [resolvedCount, hlast, hrun.trials] at hcount
    omega
  | @cons h rest last hrest ih =>
    -- a trial that is still to be resolved has its resolution in the rest
    have hlater : h.after.resolvedCount ≤ position → (h.isDuring position = true → h.Refused) →
        ∃ entry x live, last.records[position]? = some entry ∧
          Resolution (h :: rest) position trial entry x live := by
      intro hstill hfirst
      obtain ⟨entry, x, live, hentry, hresolution⟩ :=
        ih (Happening.underWay_after hrun) hlast hstill
      exact ⟨entry, x, live, hentry, hresolution.cons hfirst⟩
    rcases h.refused_or_accepts with hrefused | ⟨event, hevent, haccepts⟩
    · exact hlater (by rw [hrefused.after]; exact hcount) fun _ => hrefused
    · rcases hrun.coherent.resolvedCount_accepts haccepts with ⟨hnone, hsame⟩ | ⟨hon, hmore⟩
      · refine hlater (by omega) fun hduring => ?_
        cases hnone ▸ Happening.isDuring_iff.mp hduring
      · by_cases heq : h.run.resolvedCount = position
        · have hduring := Happening.isDuring_iff.mpr (heq ▸ hon)
          obtain ⟨entry, live, hentry, hresolution⟩ :=
            resolution_of_answer hrun hrest hevent haccepts hduring htrial
          exact ⟨entry, h, live, hentry, hresolution⟩
        · refine hlater (by omega) fun hduring => ?_
          exact absurd (Option.some.inj (hon.symm.trans (Happening.isDuring_iff.mp hduring))) heq

end Accounts

/-! ### The journal of a loop -/

namespace Driven

/-- The timer that the next poll applies. -/
def dueTimer? (d : Driven Script) : Option Happening :=
  (d.run.due d.clock.now).map (.timer d)

/-- The entry of the script that the next wait takes: the first one, if it comes in time. -/
def nextTake? (d : Driven Script) : Option Happening :=
  match d.source with
  | [] => none
  | (reading, input) :: _ =>
    if (d.run.nextDeadline.map (max d.clock.now)).all (reading ≤ ·) then
      some (.entry d reading input)
    else none

/-- All that happens to the run in so many turns of its loop. -/
def journal : Nat → Driven Script → List Happening
  | 0, _ => []
  | fuel + 1, d =>
    let polled := d.poll unobserved
    d.dueTimer?.toList ++
      match polled.next with
      | .done _ _ => []
      | .sleep deadline => journal fuel { polled with clock := polled.clock.moveTo deadline }
      | .await =>
        polled.nextTake?.toList ++ journal fuel (polled.takeInput Script.wait unobserved)

variable {trials : List TrialInstance} {d : Driven Script}

theorem receive_run (d : Driven Script) (input : Input) :
    (d.receive unobserved input).run =
      match input.event? with
      | some event => (d.run.handle d.clock event).run
      | none => d.run := by
  cases input with
  | key name => exact apply_run _ _ _
  | text value => exact apply_run _ _ _
  | closed => rfl

theorem receive_clock (d : Driven Script) (input : Input) :
    (d.receive unobserved input).clock = d.clock := by
  cases input with
  | key name => exact apply_clock _ _ _
  | text value => exact apply_clock _ _ _
  | closed => rfl

/-- A wait takes the next entry and gives it to the run, or it ends at the deadline before the
    next entry comes, or there is nothing to wait for. -/
theorem nextTake?_cases (d : Driven Script) :
    (∃ reading input rest, d.source = (reading, input) :: rest ∧
        d.nextTake? = some (.entry d reading input) ∧
        d.takeInput Script.wait unobserved =
          { d with clock := d.clock.moveTo reading, source := rest }.receive unobserved input) ∨
      (∃ deadline, d.run.nextDeadline = some deadline ∧ d.nextTake? = none ∧
        (∀ entry ∈ d.source.head?, max d.clock.now deadline < entry.1) ∧
        d.takeInput Script.wait unobserved =
          { d with clock := d.clock.moveTo (max d.clock.now deadline) }) ∨
      (d.nextTake? = none ∧ d.takeInput Script.wait unobserved = { d with closed := true }) := by
  rcases Script.wait_cases d.source d.clock (d.run.nextDeadline.map (max d.clock.now)) with
    ⟨reading, input, rest, hsource, hintime, hwait⟩ | ⟨last, hlimit, hlate, hwait⟩ |
    ⟨hsource, hlimit, hwait⟩
  · left
    refine ⟨reading, input, rest, hsource, ?_, by simp only [takeInput, hwait]⟩
    have hall : (d.run.nextDeadline.map (max d.clock.now)).all (reading ≤ ·) = true := by
      rw [Option.all_eq_true]
      intro last hlast
      exact decide_eq_true (hintime last hlast)
    simp only [nextTake?, hsource, hall, if_true]
  · right
    left
    obtain ⟨deadline, hdeadline, rfl⟩ := Option.map_eq_some_iff.mp hlimit
    refine ⟨deadline, hdeadline, ?_, hlate, by simp only [takeInput, hwait]⟩
    cases hsource : d.source with
    | nil => simp only [nextTake?, hsource]
    | cons entry rest =>
      rw [hsource] at hlate
      have hnot : ¬ entry.1 ≤ max d.clock.now deadline :=
        Nat.not_le.mpr (hlate entry rfl)
      simp only [nextTake?, hsource, hdeadline, Option.map_some, Option.all_some, hnot,
        decide_false, Bool.false_eq_true, if_false]
  · right
    right
    exact ⟨by simp only [nextTake?, hsource], by simp only [takeInput, hwait, receive]⟩

theorem follows_dueTimer? (d : Driven Script) :
    Follows d.run d.dueTimer?.toList (d.poll unobserved).run := by
  rcases poll_cases unobserved d with ⟨hdue, hpoll⟩ | ⟨event, hdue, hpoll⟩
  · rw [hpoll, dueTimer?, hdue]
    exact .nil _
  · rw [hpoll, dueTimer?, hdue, apply_run]
    exact .cons (.timer d event) (.nil _)

theorem follows_nextTake? (d : Driven Script) :
    Follows d.run d.nextTake?.toList (d.takeInput Script.wait unobserved).run := by
  rcases nextTake?_cases d with
    ⟨reading, input, rest, _, hnext, htake⟩ | ⟨_, _, hnext, _, htake⟩ | ⟨hnext, htake⟩
  · rw [hnext, htake, receive_run]
    exact .cons (.entry d reading input) (.nil _)
  · rw [hnext, htake]
    exact .nil _
  · rw [hnext, htake]
    exact .nil _

theorem entries_dueTimer? (d : Driven Script) :
    d.dueTimer?.toList.filterMap Happening.entry? = [] := by
  unfold dueTimer?
  cases d.run.due d.clock.now <;> rfl

/-- What a wait takes was at the front of the script. -/
theorem entries_nextTake? (d : Driven Script) :
    d.nextTake?.toList.filterMap Happening.entry? ++
      (d.takeInput Script.wait unobserved).source = d.source := by
  rcases nextTake?_cases d with
    ⟨reading, input, rest, hsource, hnext, htake⟩ | ⟨_, _, hnext, _, htake⟩ | ⟨hnext, htake⟩
  · rw [hnext, htake, receive_source, hsource]
    rfl
  · rw [hnext, htake]
    rfl
  · rw [hnext, htake]
    rfl

/-- **The journal of a complete run accounts for all of it**, from the start of the loop to the
    records that are handed out, and for the entries that are gone from the script. -/
theorem follows_journal {fuel : Nat} {records : List TrialRecord} {last : Driven Script}
    (hrun : d.run.UnderWay trials)
    (hturns : d.turns Script.wait unobserved fuel = (.complete records, last)) :
    (∃ finished, Follows d.run (d.journal fuel) finished ∧ finished.phase = .finished ∧
      finished.records = records) ∧
      (d.journal fuel).filterMap Happening.entry? ++ last.source = d.source := by
  induction fuel generalizing d with
  | zero => cases hturns
  | succ fuel ih =>
    have hpolled : (d.poll unobserved).run.UnderWay trials := underWay_poll hrun
    have htimer := follows_dueTimer? d
    rw [turns] at hturns
    simp only [journal, List.filterMap_append, entries_dueTimer?, List.nil_append]
    rcases next_cases hpolled with
      ⟨hphase, hnext⟩ | ⟨_, _, _, hnext⟩ | ⟨_, _, _, _, hnext⟩ | ⟨_, _, hnext⟩
    · rw [hnext] at hturns ⊢
      obtain ⟨hending, rfl⟩ := Prod.mk.inj hturns
      obtain rfl := Ending.complete.inj hending
      refine ⟨⟨_, ?_, hphase, rfl⟩, ?_⟩
      · rw [List.append_nil]
        exact htimer
      · exact poll_source d
    · rw [hnext] at hturns
      cases hturns
    · simp only [hnext] at hturns ⊢
      have hslept := ih (d := { d.poll unobserved with clock := (d.poll unobserved).clock.moveTo _ })
        hpolled hturns
      obtain ⟨⟨finished, hfollows, hfinished⟩, hentries⟩ := hslept
      exact ⟨⟨finished, htimer.append hfollows, hfinished⟩, hentries.trans (poll_source d)⟩
    · simp only [hnext] at hturns ⊢
      obtain ⟨⟨finished, hfollows, hfinished⟩, hentries⟩ := ih (underWay_takeInput hpolled) hturns
      refine ⟨⟨finished, htimer.append ((follows_nextTake? _).append hfollows), hfinished⟩, ?_⟩
      rw [List.filterMap_append, List.append_assoc, hentries, entries_nextTake?, poll_source]

/-- What is in a journal happens where the loop comes by, when its turn has come. -/
inductive Occurs (first : Driven Script) : Happening → Prop where
  | timer {loop : Driven Script} {event : RunEvent}
      (hvisits : Visits Script.wait unobserved first loop)
      (hdue : loop.run.due loop.clock.now = some event) : Occurs first (.timer loop event)
  | entry {loop : Driven Script} {reading : Nat} {input : Input}
      (hvisits : Visits Script.wait unobserved first loop) (hawaits : loop.next = .await)
      (hnext : loop.nextTake? = some (.entry loop reading input)) :
      Occurs first (.entry loop reading input)

theorem occurs_of_mem_journal {first : Driven Script} {fuel : Nat}
    (hleads : Leads Script.wait unobserved first d) {h : Happening} (h_mem : h ∈ d.journal fuel) :
    Occurs first h := by
  induction fuel generalizing d with
  | zero => cases h_mem
  | succ fuel ih =>
    rw [journal, List.mem_append] at h_mem
    rcases h_mem with htimer | hrest
    · obtain ⟨event, hdue, rfl⟩ := Option.map_eq_some_iff.mp (Option.mem_toList.mp htimer)
      exact .timer ⟨d, hleads, Or.inl rfl⟩ hdue
    · cases hnext : (d.poll unobserved).next with
      | done =>
        rw [hnext] at hrest
        cases hrest
      | sleep deadline =>
        rw [hnext] at hrest
        exact ih (hleads.tail (.sleep hnext)) hrest
      | await =>
        rw [hnext] at hrest
        rcases List.mem_append.mp hrest with hentry | hrest
        · have hentry := Option.mem_toList.mp hentry
          rcases nextTake?_cases (d.poll unobserved) with
            ⟨reading, input, rest, _, hsome, _⟩ | ⟨_, _, hnone, _⟩ | ⟨hnone, _⟩
          · obtain rfl := Option.some.inj (hsome.symm.trans hentry)
            exact .entry ⟨d, hleads, Or.inr rfl⟩ hnext hsome
          · cases hnone.symm.trans hentry
          · cases hnone.symm.trans hentry
        · exact ih (hleads.tail (.await hnext)) hrest

end Driven

end Run

end TimedTrials
