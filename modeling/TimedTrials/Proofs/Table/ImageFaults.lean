/-
  TimedTrials/Proofs/Table/ImageFaults.lean
  =========================================
  **Which image problems of a row are reported.**

  What is wrong with the images of a row can be said directive by directive: sizes that are no
  counts, and a file that is missing (`imageFaults`). A stimulus is read from left to right,
  however, and the reading stops at the first bad size (`firstFault_read`). So a row with bad
  sizes is reported for the first of them alone, whatever else is wrong with its images, and a
  row without any is reported for all its missing files (`validate_imageFaults`).
-/
import TimedTrials.Proofs.Stimulus.Lossless
import TimedTrials.Proofs.Table.Exactness

namespace TimedTrials

/-! ### Readings that stop at the first fault -/

section FirstFault

variable {ε α σ : Type}

/-- A reading that fails with the first of these faults. If there are none it succeeds, with a
    value that meets the condition. -/
def FirstFault (Q : α → Prop) : List ε → Except ε α → Prop
  | [], read => ∃ value, read = .ok value ∧ Q value
  | fault :: _, read => read = .error fault

theorem FirstFault.of_ok {Q : α → Prop} {faults : List ε} {read : Except ε α} {value : α}
    (h : FirstFault Q faults read) (hread : read = .ok value) : Q value := by
  cases faults with
  | nil =>
    obtain ⟨other, hother, hvalue⟩ := h
    obtain rfl := Except.ok.inj (hread.symm.trans hother)
    exact hvalue
  | cons fault more => cases hread.symm.trans h

theorem FirstFault.of_map {β : Type} {faults : List ε} {read : Except ε α} {f : α → β}
    (h : FirstFault (fun _ => True) faults (read.map f)) :
    FirstFault (fun _ => True) faults read := by
  cases faults with
  | nil =>
    obtain ⟨_, hok, _⟩ := h
    cases read with
    | ok value => exact ⟨value, rfl, trivial⟩
    | error fault => cases hok
  | cons fault more =>
    cases read with
    | ok value => cases h
    | error cause => exact congrArg Except.error (Except.error.inj h)

/-- A reading step by step stops at the first fault of all steps, when each step stops at its
    own first fault and keeps the condition. -/
theorem FirstFault.foldlM {step : σ → α → Except ε σ} {faults : α → List ε} {I : σ → Prop}
    (hstep : ∀ s x, I s → FirstFault I (faults x) (step s x)) (xs : List α) {s : σ} (hs : I s) :
    FirstFault I (xs.flatMap faults) (xs.foldlM step s) := by
  induction xs generalizing s with
  | nil => exact ⟨s, rfl, hs⟩
  | cons x xs ih =>
    have hfirst := hstep s x hs
    rw [List.flatMap_cons, List.foldlM_cons]
    cases hfaults : faults x with
    | nil =>
      rw [hfaults] at hfirst
      obtain ⟨s', hread, hs'⟩ := hfirst
      rw [hread]
      exact ih hs'
    | cons fault more =>
      rw [hfaults] at hfirst
      rw [show step s x = .error fault from hfirst]
      rfl

end FirstFault

/-! ### Bad sizes -/

/-- What is wrong with one option: it sets a size, and not to a 32-bit count. -/
def Directive.optionFaults (file : String) (token : List Char) : List DirectiveError :=
  match Text.cutAt? (· == '=') token with
  | none => []
  | some (name, _, value) =>
    let key := String.ofList (Text.lowerChars (Text.trimChars name))
    let size := Placed.sizeText value
    if (key = "width" ∨ key = "height") ∧ Number.readNat? Number.max32 size = none then
      [.invalidSize file key (String.ofList size)]
    else []

/-- All sizes of a directive that are no 32-bit counts. -/
def Directive.sizeFaults (d : Directive) : List DirectiveError :=
  (Placed.tokens d.options).flatMap (optionFaults (String.ofList d.file))

namespace Placed

theorem foldl_takeWord_image (words : List String) (p : Placed) :
    (words.foldl takeWord p).image = p.image := by
  induction words generalizing p with
  | nil => rfl
  | cons word words ih =>
    rw [List.foldl_cons, ih]
    unfold takeWord
    split_ifs <;> rfl

theorem firstFault_takeOption (p : Placed) (token : List Char) :
    FirstFault (fun p' : Placed => p'.image.file = p.image.file)
      (Directive.optionFaults p.image.file token) (takeOption p token) := by
  unfold Directive.optionFaults takeOption
  cases Text.cutAt? (· == '=') token with
  | none => exact ⟨_, rfl, congrArg ImageRef.file (foldl_takeWord_image _ p)⟩
  | some parts =>
    obtain ⟨name, stop, value⟩ := parts
    simp only
    generalize String.ofList (Text.lowerChars (Text.trimChars name)) = key
    cases hsize : Number.readNat? Number.max32 (sizeText value) with
    | some n =>
      simp only [reduceCtorEq, and_false, if_false]
      split_ifs <;> exact ⟨_, rfl, rfl⟩
    | none =>
      by_cases hwidth : key = "width"
      · simp only [hwidth, true_or, and_self, if_true]
        rfl
      · by_cases hheight : key = "height"
        · subst hheight
          simp only [hwidth, or_true, and_self, if_true, if_false]
          rfl
        · simp only [hwidth, hheight, or_self, false_and, if_false]
          exact ⟨_, rfl, rfl⟩

/-- A directive cannot be read just when some size of it is bad. -/
theorem firstFault_ofDirective (d : Directive) :
    FirstFault (fun placed : Placed => placed.image.file = String.ofList d.file) d.sizeFaults
      (ofDirective d) := by
  apply FirstFault.foldlM
  · intro p token hfile
    have htaken := firstFault_takeOption p token
    rw [hfile] at htaken
    exact htaken
  · rfl

end Placed

namespace Stimulus

/-- The directives of a stimulus, in order. -/
def directives (raw : String) : List Directive := Piece.directives (Piece.ofChars raw.toList)

theorem firstFault_add (s : Shown) (d : Directive) :
    FirstFault (fun _ => True) d.sizeFaults (s.add d) := by
  have hplaced := Placed.firstFault_ofDirective d
  unfold Shown.add
  cases hfaults : d.sizeFaults with
  | nil =>
    rw [hfaults] at hplaced
    obtain ⟨placed, hplaced, _⟩ := hplaced
    rw [hplaced]
    exact ⟨_, rfl, trivial⟩
  | cons fault more =>
    rw [hfaults] at hplaced
    rw [show Placed.ofDirective d = .error fault from hplaced]
    rfl

/-- **A stimulus cannot be read just when some size of it is bad**, and then the cause is the
    first one. -/
theorem firstFault_read (raw : String) :
    FirstFault (fun _ => True) ((directives raw).flatMap Directive.sizeFaults) (read raw) := by
  have hshown : FirstFault (fun _ => True) ((directives raw).flatMap Directive.sizeFaults)
      ((read raw).map shown) := by
    rw [read_map_shown]
    exact FirstFault.foldlM (fun s d _ => firstFault_add s d) _ trivial
  exact hshown.of_map

theorem files_of_shows {pieces : List Piece} {segments : List Segment}
    (h : List.Forall₂ Piece.Shows pieces segments) :
    (segments.filterMap fun | .image ref => some ref | .markup _ => none).map (·.file) =
      (Piece.directives pieces).map fun d => String.ofList d.file := by
  induction h with
  | nil => rfl
  | cons hfirst _ ih =>
    cases hfirst with
    | markup text => exact ih
    | @directive d placed hplaced =>
      have hfile := (Placed.firstFault_ofDirective d).of_ok hplaced
      rw [Piece.directives_directive_cons, List.map_cons, ← ih, ← hfile]
      rfl

theorem files_of_read {raw : String} {s : Stimulus} (h : read raw = .ok s) :
    s.images.map (·.file) = (directives raw).map fun d => String.ofList d.file := by
  obtain ⟨segments, hsegments, hshows⟩ := forall₂_shows h
  rw [images, hsegments]
  exact files_of_shows hshows

end Stimulus

/-! ### The image faults of a row -/

namespace AuthoredRow

/-- What is wrong with one directive of a row: its bad sizes, and its file if it is missing. -/
def directiveFaults (options : ValidationOptions) (row : Nat) (d : Directive) : List Problem :=
  let file := String.ofList d.file
  d.sizeFaults.map (.invalidImageOption row) ++
    if options.checkImages && !options.isFile (Path.join options.imageDir file) then
      [.missingImage row file options.imageDir]
    else []

/-- What is wrong with the images of a row, whatever else is wrong with it. -/
def imageFaults (options : ValidationOptions) (row : Nat) (raw : AuthoredRow) : List Problem :=
  (Stimulus.directives raw.stimulus).flatMap (directiveFaults options row)

/-- The bad sizes among them. -/
def sizeFaults (raw : AuthoredRow) : List DirectiveError :=
  (Stimulus.directives raw.stimulus).flatMap Directive.sizeFaults

variable {options : ValidationOptions} {first : Bool} {row : Nat} {raw : AuthoredRow}
  {problem : Problem}

theorem mem_imageFaults_iff : problem ∈ raw.imageFaults options row ↔
    (∃ fault ∈ raw.sizeFaults, problem = .invalidImageOption row fault) ∨
      ∃ d ∈ Stimulus.directives raw.stimulus, options.checkImages = true ∧
        options.isFile (Path.join options.imageDir (String.ofList d.file)) = false ∧
          problem = .missingImage row (String.ofList d.file) options.imageDir := by
  simp only [imageFaults, directiveFaults, sizeFaults, List.mem_flatMap, List.mem_append,
    List.mem_map, List.mem_ite_nil_right, List.mem_singleton, Bool.and_eq_true,
    Bool.not_eq_true']
  constructor
  · rintro ⟨d, hd, ⟨fault, hfault, rfl⟩ | ⟨⟨hcheck, hmissing⟩, rfl⟩⟩
    · exact Or.inl ⟨fault, ⟨d, hd, hfault⟩, rfl⟩
    · exact Or.inr ⟨d, hd, hcheck, hmissing, rfl⟩
  · rintro (⟨fault, ⟨d, hd, hfault⟩, rfl⟩ | ⟨d, hd, hcheck, hmissing, rfl⟩)
    · exact ⟨d, hd, Or.inl ⟨fault, hfault, rfl⟩⟩
    · exact ⟨d, hd, Or.inr ⟨⟨hcheck, hmissing⟩, rfl⟩⟩

theorem stimulusProblems_of_cons {first : DirectiveError} {more : List DirectiveError}
    (h : raw.sizeFaults = first :: more) :
    raw.stimulusProblems options row = [.invalidImageOption row first] := by
  have hread := Stimulus.firstFault_read raw.stimulus
  rw [show (Stimulus.directives raw.stimulus).flatMap Directive.sizeFaults = _ from h] at hread
  rw [stimulusProblems, show Stimulus.read raw.stimulus = .error first from hread]

theorem mem_stimulusProblems_of_nil (h : raw.sizeFaults = []) :
    problem ∈ raw.stimulusProblems options row ↔ problem ∈ raw.imageFaults options row := by
  have hread := Stimulus.firstFault_read raw.stimulus
  rw [show (Stimulus.directives raw.stimulus).flatMap Directive.sizeFaults = _ from h] at hread
  obtain ⟨stimulus, hstimulus, _⟩ := hread
  have hfiles : ∀ file, file ∈ stimulus.images.map (·.file) ↔
      ∃ d ∈ Stimulus.directives raw.stimulus, String.ofList d.file = file := by
    intro file
    rw [Stimulus.files_of_read hstimulus, List.mem_map]
  rw [mem_imageFaults_iff, h, stimulusProblems, hstimulus]
  cases hcheck : options.checkImages with
  | false => simp
  | true =>
    simp only [if_true, missingImages, List.mem_map, List.mem_eraseDups, List.mem_filter,
      Bool.not_eq_true', List.not_mem_nil, false_and, exists_false, false_or, true_and]
    constructor
    · rintro ⟨file, ⟨hfile, hmissing⟩, rfl⟩
      obtain ⟨d, hd, rfl⟩ := (hfiles file).mp (List.mem_map.mpr hfile)
      exact ⟨d, hd, hmissing, rfl⟩
    · rintro ⟨d, hd, hmissing, rfl⟩
      exact ⟨_, ⟨List.mem_map.mp ((hfiles _).mpr ⟨d, hd, rfl⟩), hmissing⟩, rfl⟩

theorem mem_stimulusProblems_of_field (h : problem ∈ raw.problems options first row)
    (hfield : problem.field? = some (.column .stimulus)) :
    problem ∈ raw.stimulusProblems options row := by
  cases mem_problems_iff.mp h with
  | invalidImageOption hread =>
    rw [stimulusProblems, hread]
    exact List.mem_singleton_self _
  | missingImage hread hcheck himage hmissing =>
    exact mem_stimulusProblems_of_missing hread hcheck himage hmissing
  | emptyBlock => cases hfield
  | invalidBlock => cases hfield
  | invalidBlockRepeats => cases hfield
  | invalidLatency => cases hfield
  | noWayToEnd => cases hfield
  | correctResponseNotOffered => cases hfield
  | invalidFeedbackDuration => cases hfield

theorem mem_imageFaults_of_mem_stimulusProblems (h : problem ∈ raw.stimulusProblems options row) :
    problem ∈ raw.imageFaults options row := by
  cases hsizes : raw.sizeFaults with
  | nil => exact (mem_stimulusProblems_of_nil hsizes).mp h
  | cons first more =>
    rw [stimulusProblems_of_cons hsizes] at h
    obtain rfl := List.mem_singleton.mp h
    rw [mem_imageFaults_iff, hsizes]
    exact Or.inl ⟨first, List.mem_cons_self, rfl⟩

end AuthoredRow

/-! ### The report -/

namespace Validation

variable {options : ValidationOptions} {rows : List AuthoredRow} {i : Nat} {raw : AuthoredRow}
  {problem : Problem}

/-- The problems that validation reports. -/
def reports (options : ValidationOptions) (rows : List AuthoredRow) : List Problem :=
  match validate options rows with
  | .ok _ => []
  | .error problems => problems

/-- A problem that is reported about the stimulus of a row. -/
structure ReportsStimulus (options : ValidationOptions) (rows : List AuthoredRow) (row : Nat)
    (problem : Problem) : Prop where
  reported : problem ∈ reports options rows
  row : problem.row? = some row
  field : problem.field? = some (.column .stimulus)

theorem reports_eq (h : authored rows ≠ []) :
    reports options rows = (authored rows).flatMap (problemsIn options rows) := by
  rw [← stateAfter_problems, reports]
  rcases validate_cases options rows with ⟨hnil, _⟩ | ⟨_, hproblems, hverdict⟩ |
    ⟨_, _, hverdict⟩
  · exact absurd hnil h
  · rw [hverdict, hproblems]
  · rw [hverdict]

/-- What is reported with the number of a row are the problems of this row. -/
theorem mem_reports_iff (hraw : rows[i]? = some raw) (hblank : raw.isBlank = false)
    (hrow : problem.row? = some (i + 1)) : problem ∈ reports options rows ↔
      problem ∈ raw.problems options (opensBlock (rows.take i) raw) (i + 1) := by
  have hmem : (i + 1, raw) ∈ authored rows := mem_authored_iff.mpr ⟨i, rfl, hraw, hblank⟩
  rw [reports_eq (List.ne_nil_of_mem hmem), List.mem_flatMap]
  constructor
  · rintro ⟨⟨number, other⟩, hp, hproblem⟩
    have hnumber := (AuthoredRow.mem_problems_iff.mp hproblem).row?_eq
    obtain rfl := Option.some.inj (hrow.symm.trans hnumber)
    obtain ⟨j, hj, hother, _⟩ := mem_authored_iff.mp hp
    obtain rfl := Nat.succ.inj hj
    obtain rfl := Option.some.inj (hraw.symm.trans hother)
    exact hproblem
  · intro h
    exact ⟨(i + 1, raw), hmem, h⟩

theorem reportsStimulus_iff (hraw : rows[i]? = some raw) (hblank : raw.isBlank = false) :
    ReportsStimulus options rows (i + 1) problem ↔
      problem ∈ raw.stimulusProblems options (i + 1) := by
  constructor
  · intro h
    have hproblem := (mem_reports_iff hraw hblank h.row).mp h.reported
    exact AuthoredRow.mem_stimulusProblems_of_field hproblem h.field
  · intro h
    have hproblem : problem ∈ raw.problems options (opensBlock (rows.take i) raw) (i + 1) :=
      AuthoredRow.mem_problems_iff.mpr (AuthoredRow.fault_of_mem_stimulusProblems h)
    have hrow := (AuthoredRow.mem_problems_iff.mp hproblem).row?_eq
    refine ⟨(mem_reports_iff hraw hblank hrow).mpr hproblem, hrow, ?_⟩
    rcases AuthoredRow.mem_imageFaults_iff.mp
        (AuthoredRow.mem_imageFaults_of_mem_stimulusProblems h) with
      ⟨fault, _, rfl⟩ | ⟨d, _, _, _, rfl⟩
    · rfl
    · rfl

/-- An image with two bad sizes, and another one whose file is missing. -/
def manyFaultsRow : AuthoredRow :=
  .ofCells ["1", "", "[image:a.png(width=x,height=y)][image:b.png]", "NA", "100"]

/-- **Image problems behind a bad size are dropped.** Three things are wrong with the images of
    a row, and the first one is reported. -/
theorem faults_behind_size_dropped :
    let options := ValidationOptions.standard fun path => path == "images/a.png"
    manyFaultsRow.imageFaults options 1 =
      [.invalidImageOption 1 (.invalidSize "a.png" "width" "x"),
        .invalidImageOption 1 (.invalidSize "a.png" "height" "y"),
        .missingImage 1 "b.png" "images"] ∧
      validate options [manyFaultsRow] =
        .error [.invalidImageOption 1 (.invalidSize "a.png" "width" "x")] := by
  decide

/-- **Which image problems are reported.** What is reported about the stimulus of a row is one
    of its image faults, and a row with image faults is reported for one at least. A row with
    bad sizes is reported for the first of them alone, and a row without any for all its image
    faults. So they are all reported just when each of them is the first bad size. -/
theorem validate_imageFaults (options : ValidationOptions) (rows : List AuthoredRow)
    (hraw : rows[i]? = some raw) (hblank : raw.isBlank = false) :
    let reported := ReportsStimulus options rows (i + 1)
    let faults := raw.imageFaults options (i + 1)
    (∀ problem, reported problem → problem ∈ faults) ∧
      (faults ≠ [] → ∃ problem, reported problem) ∧
      (∀ first ∈ raw.sizeFaults.head?, ∀ problem, reported problem ↔
        problem = .invalidImageOption (i + 1) first) ∧
      (raw.sizeFaults = [] → ∀ problem, reported problem ↔ problem ∈ faults) ∧
      ((∀ problem ∈ faults, reported problem) ↔ ∀ first ∈ raw.sizeFaults.head?,
        ∀ problem ∈ faults, problem = .invalidImageOption (i + 1) first) := by
  intro reported faults
  have hreported : ∀ problem, reported problem ↔ problem ∈ raw.stimulusProblems options (i + 1) :=
    fun problem => reportsStimulus_iff hraw hblank
  have hfirst : ∀ first ∈ raw.sizeFaults.head?, ∀ problem, reported problem ↔
      problem = .invalidImageOption (i + 1) first := by
    intro first hhead problem
    obtain ⟨more, hsizes⟩ := List.head?_eq_some_iff.mp hhead
    rw [hreported, AuthoredRow.stimulusProblems_of_cons hsizes, List.mem_singleton]
  have hall : raw.sizeFaults = [] → ∀ problem, reported problem ↔ problem ∈ faults := by
    intro hsizes problem
    rw [hreported]
    exact AuthoredRow.mem_stimulusProblems_of_nil hsizes
  refine ⟨?_, ?_, hfirst, hall, ?_⟩
  · intro problem h
    exact AuthoredRow.mem_imageFaults_of_mem_stimulusProblems ((hreported problem).mp h)
  · intro hfaults
    cases hsizes : raw.sizeFaults with
    | nil =>
      obtain ⟨problem, hproblem⟩ := List.exists_mem_of_ne_nil faults hfaults
      exact ⟨problem, (hall hsizes problem).mpr hproblem⟩
    | cons first more =>
      have hhead : first ∈ raw.sizeFaults.head? := by rw [hsizes]; rfl
      exact ⟨_, (hfirst first hhead _).mpr rfl⟩
  · constructor
    · intro h first hhead problem hproblem
      exact (hfirst first hhead problem).mp (h problem hproblem)
    · intro h problem hproblem
      cases hsizes : raw.sizeFaults with
      | nil => exact (hall hsizes problem).mpr hproblem
      | cons first more =>
        have hhead : first ∈ raw.sizeFaults.head? := by rw [hsizes]; rfl
        exact (hfirst first hhead problem).mpr (h first hhead problem hproblem)

theorem validate_imageFaults_manyFaultsRow :
    let options := ValidationOptions.standard fun path => path == "images/a.png"
    let first := DirectiveError.invalidSize "a.png" "width" "x"
    manyFaultsRow.isBlank = false ∧ manyFaultsRow.sizeFaults.head? = some first ∧
      (∀ problem, ReportsStimulus options [manyFaultsRow] 1 problem ↔
        problem = .invalidImageOption 1 first) ∧
      ¬ ∀ problem ∈ manyFaultsRow.imageFaults options 1,
        ReportsStimulus options [manyFaultsRow] 1 problem := by
  intro options first
  have hblank : manyFaultsRow.isBlank = false := by decide
  have hhead : manyFaultsRow.sizeFaults.head? = some first := by decide
  have hmissing : .missingImage 1 "b.png" "images" ∈ manyFaultsRow.imageFaults options 1 := by
    decide
  obtain ⟨_, _, hfirst, _, hall⟩ :=
    validate_imageFaults options [manyFaultsRow] (i := 0) rfl hblank
  refine ⟨hblank, hhead, hfirst first hhead, ?_⟩
  rw [hall]
  intro h
  cases h first hhead _ hmissing

end Validation

end TimedTrials
