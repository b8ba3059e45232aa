/-
  TimedTrials/Proofs/Table/Faults.lean
  ====================================
  **What can be wrong with a row, and what a row is like when nothing is.**

  `Fault` has one case for each way in which a cell can be wrong, with the problem that reports
  it, and the problems of a row are just its faults (`mem_problems_iff`). `Sound` says cell by
  cell what a row has to be; a row is sound when it has no fault (`problems_eq_nil_iff`), and
  then its trial can be read off its cells (`check_of_sound`).
-/
import Mathlib.Logic.Basic
import Mathlib.Tactic.ByContra
import TimedTrials.Proofs.Table.Check

namespace TimedTrials.AuthoredRow

variable {options : ValidationOptions} {first : Bool} {row : Nat} {raw : AuthoredRow}
  {problem : Problem}

/-! ### Faults -/

/-- The problems that the check of a row finds. -/
def problems (options : ValidationOptions) (first : Bool) (row : Nat) (raw : AuthoredRow) :
    List Problem :=
  match raw.check options first row with
  | .ok _ => []
  | .error problems => problems

/-- The ways in which a row can be wrong. -/
inductive Fault (options : ValidationOptions) (first : Bool) (row : Nat) (raw : AuthoredRow) :
    Problem → Prop where
  | emptyBlock (hcell : nonEmpty? raw.block = none) :
      Fault options first row raw (.emptyBlock row)
  | invalidBlock {cell : String} (hcell : nonEmpty? raw.block = some cell)
      (hread : Number.readInt64? cell = none) :
      Fault options first row raw (.invalidBlock row cell)
  | invalidBlockRepeats {cell : String} (hfirst : first = true)
      (hcell : nonEmpty? raw.blockRepeats = some cell)
      (hread : ∀ n, Number.readNat32? cell = some n → ¬ 1 ≤ n) :
      Fault options first row raw (.invalidBlockRepeats row cell)
  | invalidLatency (hna : isNA raw.latency = false)
      (hread : Number.readNat64? (Text.trim raw.latency) = none) :
      Fault options first row raw (.invalidLatency row raw.latency)
  | noWayToEnd (hna : isNA raw.latency = true)
      (hresponse : (Response.read raw.response).value = .none) :
      Fault options first row raw (.noWayToEnd row)
  | correctResponseNotOffered {correct : String} {tokens : List String}
      (hcell : nonEmpty? raw.correctResponse = some correct)
      (hresponse : (Response.read raw.response).value = .keys tokens) (hnot : correct ∉ tokens) :
      Fault options first row raw (.correctResponseNotOffered row correct tokens)
  | invalidFeedbackDuration {cell : String} (hcell : nonEmpty? raw.feedbackDuration = some cell)
      (hread : Number.readNat64? cell = none) :
      Fault options first row raw (.invalidFeedbackDuration row cell)
  | invalidImageOption {cause : DirectiveError}
      (hread : Stimulus.read raw.stimulus = .error cause) :
      Fault options first row raw (.invalidImageOption row cause)
  | missingImage {stimulus : Stimulus} {image : ImageRef}
      (hread : Stimulus.read raw.stimulus = .ok stimulus) (hcheck : options.checkImages = true)
      (himage : image ∈ stimulus.images)
      (hmissing : options.isFile (Path.join options.imageDir image.file) = false) :
      Fault options first row raw (.missingImage row image.file options.imageDir)

/-- Every fault is reported with the number of its row. -/
theorem Fault.row?_eq (h : Fault options first row raw problem) : problem.row? = some row := by
  cases h <;> rfl

/-- The problems of a row are those of its cells, column by column. -/
theorem problems_eq (options : ValidationOptions) (first : Bool) (row : Nat) (raw : AuthoredRow) :
    raw.problems options first row =
      problemsOf (raw.readBlock row) ++ problemsOf (raw.readRepeatsIf first row)
        ++ problemsOf (raw.readLatency row (Response.read raw.response).value)
        ++ problemsOf (raw.readCorrect row (Response.read raw.response).value)
        ++ problemsOf (raw.readFeedbackDuration row) ++ raw.stimulusProblems options row := by
  unfold problems
  split
  · rename_i pair hcheck
    obtain ⟨spec, repeats⟩ := pair
    obtain ⟨_, _, _, _, hblock, hrepeats, hlatency, hcorrect, hduration, hstimulus, _⟩ :=
      check_eq_ok_iff.mp hcheck
    simp only [hblock, hrepeats, hlatency, hcorrect, hduration, hstimulus, problemsOf,
      List.append_nil]
  · rename_i problems hcheck
    simp only [check] at hcheck
    split at hcheck
    · cases hcheck
    · exact (Except.error.inj hcheck).symm

theorem mem_problemsOf_iff {α : Type} {read : Except Problem α} :
    problem ∈ problemsOf read ↔ read = .error problem := by
  cases read with
  | ok value => simp [problemsOf]
  | error p => simp [problemsOf, eq_comm]

/-! ### Each cell -/

theorem fault_of_readBlock (h : raw.readBlock row = .error problem) :
    Fault options first row raw problem := by
  unfold readBlock at h
  split at h
  · rename_i hcell
    cases h
    exact .emptyBlock hcell
  · rename_i cell hcell
    split at h
    · cases h
    · rename_i hread
      cases h
      exact .invalidBlock hcell hread

theorem fault_of_readRepeatsIf (h : raw.readRepeatsIf first row = .error problem) :
    Fault options first row raw problem := by
  cases first with
  | false => cases h
  | true =>
    simp only [readRepeatsIf, if_true, readRepeats] at h
    split at h
    · cases h
    · rename_i cell hcell
      split at h
      · rename_i n hn
        split at h
        · cases h
        · rename_i hzero
          cases h
          refine .invalidBlockRepeats rfl hcell ?_
          intro m hm
          rw [hn, Option.some.injEq] at hm
          exact hm ▸ hzero
      · rename_i hnone
        cases h
        refine .invalidBlockRepeats rfl hcell ?_
        intro m hm
        rw [hnone] at hm
        cases hm

theorem fault_of_readLatency
    (h : raw.readLatency row (Response.read raw.response).value = .error problem) :
    Fault options first row raw problem := by
  unfold readLatency at h
  split at h
  · rename_i hna
    split at h
    · rename_i hresponse
      cases h
      apply Fault.noWayToEnd hna
      cases hread : (Response.read raw.response).value with
      | none => rfl
      | keys tokens => simp [hread, Response.isNone] at hresponse
      | text entry => simp [hread, Response.isNone] at hresponse
    · cases h
  · rename_i hna
    split at h
    · cases h
    · rename_i hread
      cases h
      exact .invalidLatency (Bool.eq_false_iff.mpr hna) hread

theorem fault_of_readCorrect
    (h : raw.readCorrect row (Response.read raw.response).value = .error problem) :
    Fault options first row raw problem := by
  unfold readCorrect at h
  split at h
  · rename_i correct tokens hcell hresponse
    split at h
    · cases h
    · rename_i hnot
      cases h
      exact .correctResponseNotOffered hcell hresponse (by simpa using hnot)
  · cases h

theorem fault_of_readFeedbackDuration (h : raw.readFeedbackDuration row = .error problem) :
    Fault options first row raw problem := by
  unfold readFeedbackDuration at h
  split at h
  · cases h
  · rename_i cell hcell
    split at h
    · cases h
    · rename_i hread
      cases h
      exact .invalidFeedbackDuration hcell hread

theorem fault_of_mem_stimulusProblems (h : problem ∈ raw.stimulusProblems options row) :
    Fault options first row raw problem := by
  unfold stimulusProblems at h
  split at h
  · rename_i cause hread
    obtain rfl := List.mem_singleton.mp h
    exact .invalidImageOption hread
  · rename_i stimulus hread
    split at h
    · rename_i hcheck
      simp only [missingImages, List.mem_map, List.mem_eraseDups, List.mem_filter,
        Bool.not_eq_true'] at h
      obtain ⟨_, ⟨⟨image, himage, rfl⟩, hmissing⟩, rfl⟩ := h
      exact .missingImage hread hcheck himage hmissing
    · cases h

theorem mem_stimulusProblems_of_missing {stimulus : Stimulus} {image : ImageRef}
    (hread : Stimulus.read raw.stimulus = .ok stimulus) (hcheck : options.checkImages = true)
    (himage : image ∈ stimulus.images)
    (hmissing : options.isFile (Path.join options.imageDir image.file) = false) :
    .missingImage row image.file options.imageDir ∈ raw.stimulusProblems options row := by
  simp only [stimulusProblems, hread, hcheck, if_true, missingImages, List.mem_map,
    List.mem_eraseDups, List.mem_filter, Bool.not_eq_true']
  exact ⟨image.file, ⟨⟨image, himage, rfl⟩, hmissing⟩, rfl⟩

/-- **The problems of a row are its faults**, no more and no fewer. -/
theorem mem_problems_iff :
    problem ∈ raw.problems options first row ↔ Fault options first row raw problem := by
  simp only [problems_eq, List.mem_append, mem_problemsOf_iff]
  constructor
  · intro h
    rcases h with ((((h | h) | h) | h) | h) | h
    · exact fault_of_readBlock h
    · exact fault_of_readRepeatsIf h
    · exact fault_of_readLatency h
    · exact fault_of_readCorrect h
    · exact fault_of_readFeedbackDuration h
    · exact fault_of_mem_stimulusProblems h
  · intro h
    cases h with
    | emptyBlock hcell => simp [readBlock, hcell]
    | invalidBlock hcell hread => simp [readBlock, hcell, hread]
    | @invalidBlockRepeats cell hfirst hcell hread =>
      cases hn : Number.readNat32? cell with
      | none => simp [readRepeatsIf, readRepeats, hfirst, hcell, hn]
      | some n => simp [readRepeatsIf, readRepeats, hfirst, hcell, hn, hread n hn]
    | invalidLatency hna hread => simp [readLatency, hna, hread]
    | noWayToEnd hna hresponse => simp [readLatency, hna, hresponse, Response.isNone]
    | correctResponseNotOffered hcell hresponse hnot =>
      simp [readCorrect.eq_def, hcell, hresponse, hnot]
    | invalidFeedbackDuration hcell hread => simp [readFeedbackDuration, hcell, hread]
    | invalidImageOption hread => simp [stimulusProblems, hread]
    | missingImage hread hcheck himage hmissing =>
      right
      exact mem_stimulusProblems_of_missing hread hcheck himage hmissing

/-! ### Sound rows -/

/-- What a row has to be, cell by cell. The first row of a block is held to its repeats cell. -/
structure Sound (options : ValidationOptions) (first : Bool) (raw : AuthoredRow) : Prop where
  block : ∃ number, Number.readInt64? (Text.trim raw.block) = some number
  repeats : first = true → Text.trim raw.blockRepeats = "" ∨
    ∃ n, Number.readNat32? (Text.trim raw.blockRepeats) = some n ∧ 1 ≤ n
  latency : isNA raw.latency = true ∨ ∃ ms, Number.readNat64? (Text.trim raw.latency) = some ms
  ends : (Response.read raw.response).value = .none → isNA raw.latency = false
  correct : ∀ tokens, (Response.read raw.response).value = .keys tokens →
    Text.trim raw.correctResponse = "" ∨ Text.trim raw.correctResponse ∈ tokens
  duration : Text.trim raw.feedbackDuration = "" ∨
    ∃ ms, Number.readNat64? (Text.trim raw.feedbackDuration) = some ms
  stimulus : ∃ stimulus, Stimulus.read raw.stimulus = .ok stimulus ∧
    (options.checkImages = true → ∀ image ∈ stimulus.images,
      options.isFile (Path.join options.imageDir image.file) = true)

theorem nonEmpty?_eq_none_iff {cell : String} : nonEmpty? cell = none ↔ Text.trim cell = "" := by
  simp [nonEmpty?]

theorem nonEmpty?_eq_some_iff {cell value : String} :
    nonEmpty? cell = some value ↔ Text.trim cell = value ∧ value ≠ "" := by
  simp only [nonEmpty?]
  split
  · rename_i hempty
    simp only [reduceCtorEq, false_iff, not_and, not_not]
    rintro rfl
    simpa using hempty
  · rename_i hempty
    simp only [Option.some.injEq]
    constructor
    · rintro rfl
      exact ⟨rfl, by simpa using hempty⟩
    · exact fun h => h.1

theorem nonEmpty?_cases (cell : String) :
    Text.trim cell = "" ∨ nonEmpty? cell = some (Text.trim cell) := by
  by_cases hempty : Text.trim cell = ""
  · exact Or.inl hempty
  · exact Or.inr (nonEmpty?_eq_some_iff.mpr ⟨rfl, hempty⟩)

/-- A text without digits is no number. -/
theorem readInt64?_empty : Number.readInt64? "" = none := by decide

theorem Sound.not_fault (h : Sound options first raw) : ¬ Fault options first row raw problem := by
  intro hfault
  cases hfault with
  | emptyBlock hcell =>
    obtain ⟨number, hnumber⟩ := h.block
    rw [nonEmpty?_eq_none_iff.mp hcell, readInt64?_empty] at hnumber
    cases hnumber
  | invalidBlock hcell hread =>
    obtain ⟨number, hnumber⟩ := h.block
    rw [(nonEmpty?_eq_some_iff.mp hcell).1, hread] at hnumber
    cases hnumber
  | invalidBlockRepeats hfirst hcell hread =>
    obtain ⟨hvalue, hne⟩ := nonEmpty?_eq_some_iff.mp hcell
    rcases h.repeats hfirst with hempty | ⟨n, hn, hpos⟩
    · exact hne (hvalue.symm.trans hempty)
    · rw [hvalue] at hn
      exact hread n hn hpos
  | invalidLatency hna hread =>
    rcases h.latency with hlatency | ⟨ms, hms⟩
    · exact Bool.false_ne_true (hna.symm.trans hlatency)
    · cases hread.symm.trans hms
  | noWayToEnd hna hresponse => exact Bool.false_ne_true ((h.ends hresponse).symm.trans hna)
  | correctResponseNotOffered hcell hresponse hnot =>
    obtain ⟨rfl, hne⟩ := nonEmpty?_eq_some_iff.mp hcell
    rcases h.correct _ hresponse with hempty | hmem
    · exact hne hempty
    · exact hnot hmem
  | invalidFeedbackDuration hcell hread =>
    obtain ⟨rfl, hne⟩ := nonEmpty?_eq_some_iff.mp hcell
    rcases h.duration with hempty | ⟨ms, hms⟩
    · exact hne hempty
    · cases hread.symm.trans hms
  | invalidImageOption hread =>
    obtain ⟨stimulus, hstimulus, _⟩ := h.stimulus
    cases hread.symm.trans hstimulus
  | missingImage hread hcheck himage hmissing =>
    obtain ⟨stimulus, hstimulus, himages⟩ := h.stimulus
    obtain rfl := Except.ok.inj (hread.symm.trans hstimulus)
    exact Bool.false_ne_true (hmissing.symm.trans (himages hcheck _ himage))

theorem sound_of_not_fault (row : Nat) (h : ∀ problem, ¬ Fault options first row raw problem) :
    Sound options first raw where
  block := by
    cases hread : Number.readInt64? (Text.trim raw.block) with
    | some number => exact ⟨number, rfl⟩
    | none =>
      rcases nonEmpty?_cases raw.block with hempty | hcell
      · exact absurd (.emptyBlock (nonEmpty?_eq_none_iff.mpr hempty)) (h _)
      · exact absurd (.invalidBlock hcell hread) (h _)
  repeats := by
    intro hfirst
    rcases nonEmpty?_cases raw.blockRepeats with hempty | hcell
    · exact Or.inl hempty
    · right
      by_contra hnone
      refine h _ (.invalidBlockRepeats hfirst hcell ?_)
      intro n hn hpos
      exact hnone ⟨n, hn, hpos⟩
  latency := by
    cases hna : isNA raw.latency with
    | true => exact Or.inl rfl
    | false =>
      right
      cases hread : Number.readNat64? (Text.trim raw.latency) with
      | some ms => exact ⟨ms, rfl⟩
      | none => exact absurd (.invalidLatency hna hread) (h _)
  ends := by
    intro hresponse
    by_contra hna
    exact h _ (.noWayToEnd (by simpa using hna) hresponse)
  correct := by
    intro tokens hresponse
    rcases nonEmpty?_cases raw.correctResponse with hempty | hcell
    · exact Or.inl hempty
    · right
      by_contra hnot
      exact h _ (.correctResponseNotOffered hcell hresponse hnot)
  duration := by
    rcases nonEmpty?_cases raw.feedbackDuration with hempty | hcell
    · exact Or.inl hempty
    · right
      cases hread : Number.readNat64? (Text.trim raw.feedbackDuration) with
      | some ms => exact ⟨ms, rfl⟩
      | none => exact absurd (.invalidFeedbackDuration hcell hread) (h _)
  stimulus := by
    cases hread : Stimulus.read raw.stimulus with
    | error cause => exact absurd (.invalidImageOption hread) (h _)
    | ok stimulus =>
      refine ⟨stimulus, rfl, ?_⟩
      intro hcheck image himage
      by_contra hmissing
      exact h _ (.missingImage hread hcheck himage (by simpa using hmissing))

/-- A row has no problem just when it is sound. -/
theorem problems_eq_nil_iff : raw.problems options first row = [] ↔ Sound options first raw := by
  rw [List.eq_nil_iff_forall_not_mem]
  constructor
  · intro h
    apply sound_of_not_fault row
    intro problem hfault
    exact h problem (mem_problems_iff.mpr hfault)
  · intro h problem hmem
    exact h.not_fault (mem_problems_iff.mp hmem)

/-! ### The trial of a sound row -/

theorem block?_eq (raw : AuthoredRow) : raw.block? = Number.readInt64? (Text.trim raw.block) := by
  unfold block? readBlock
  rcases nonEmpty?_cases raw.block with hempty | hcell
  · rw [nonEmpty?_eq_none_iff.mpr hempty, hempty, readInt64?_empty]
    rfl
  · simp only [hcell]
    cases Number.readInt64? (Text.trim raw.block) <;> rfl

/-- The trial that the cells of a row stand for when they can all be read. -/
def cellsTrial (row : Nat) (raw : AuthoredRow) : TrialSpec :=
  raw.trial row (raw.block?.getD 0)
    (if isNA raw.latency then none else Number.readNat64? (Text.trim raw.latency))
    (nonEmpty? raw.correctResponse)
    ((nonEmpty? raw.feedbackDuration).bind Number.readNat64?)

theorem readLatency_eq_ok {response : Response} {latencyMs : Option Nat}
    (h : raw.readLatency row response = .ok latencyMs) : latencyMs =
      if isNA raw.latency then none else Number.readNat64? (Text.trim raw.latency) := by
  unfold readLatency at h
  split at h
  · rename_i hna
    split at h
    · cases h
    · cases h
      rw [if_pos hna]
  · rename_i hna
    split at h
    · rename_i ms hms
      cases h
      rw [if_neg hna, hms]
    · cases h

theorem readCorrect_eq_ok {response : Response} {correct : Option String}
    (h : raw.readCorrect row response = .ok correct) :
    correct = nonEmpty? raw.correctResponse := by
  unfold readCorrect at h
  split at h
  · rename_i hcell
    split at h
    · exact (Except.ok.inj h).symm.trans hcell.symm
    · cases h
  · exact (Except.ok.inj h).symm

theorem readFeedbackDuration_eq_ok {duration : Option Nat}
    (h : raw.readFeedbackDuration row = .ok duration) :
    duration = (nonEmpty? raw.feedbackDuration).bind Number.readNat64? := by
  unfold readFeedbackDuration at h
  split at h
  · rename_i hcell
    cases h
    rw [hcell]
    rfl
  · rename_i cell hcell
    split at h
    · rename_i ms hms
      cases h
      rw [hcell, Option.bind_some, hms]
    · cases h

theorem eq_cellsTrial_of_check {spec : TrialSpec} {repeats : Nat}
    (h : raw.check options first row = .ok (spec, repeats)) : spec = raw.cellsTrial row := by
  obtain ⟨block, latencyMs, correct, duration, hblock, _, hlatency, hcorrect, hduration, _, rfl⟩ :=
    check_eq_ok_iff.mp h
  rw [cellsTrial, readBlock_eq_ok_iff.mp hblock, ← readLatency_eq_ok hlatency,
    ← readCorrect_eq_ok hcorrect, ← readFeedbackDuration_eq_ok hduration, Option.getD_some]

/-- A sound row has its trial, whatever else it asks for. -/
theorem check_of_sound (h : Sound options first raw) (row : Nat) :
    ∃ repeats, raw.check options first row = .ok (raw.cellsTrial row, repeats) := by
  have hnone : raw.problems options first row = [] := problems_eq_nil_iff.mpr h
  unfold problems at hnone
  split at hnone
  · rename_i pair hcheck
    obtain ⟨spec, repeats⟩ := pair
    exact ⟨repeats, eq_cellsTrial_of_check hcheck ▸ hcheck⟩
  · rename_i hcheck
    rw [hnone] at hcheck
    exact absurd hcheck check_ne_error_nil

end TimedTrials.AuthoredRow
