/-
  TimedTrials/Proofs/Stimulus/Trimmed.lean
  ========================================
  **A stimulus and its trimmed copy show the same.**

  What a stimulus shows beside its text hangs on its directives alone (`read_map_shown`). Blanks
  at its ends neither make nor break a directive: none begins with a blank, and none that is
  still open can be closed by one (`Directive.at?_append_blanks`). So the directives of a text
  are those of the trimmed text, and both are read alike (`read_trim`).
-/
import TimedTrials.Proofs.Text.Trimming
import TimedTrials.Stimulus.Directive

namespace TimedTrials

/-! ### Directives among blanks -/

theorem Directive.not_mem_mark_of_blank {c : Char} (h : Text.isBlank c = true) : c ∉ mark := by
  intro hmem
  have hmark : mark.all (!Text.isBlank ·) = true := by decide
  have hnot := List.all_eq_true.mp hmark c hmem
  rw [h] at hnot
  cases hnot

theorem Directive.endsName_of_blank {c : Char} (h : Text.isBlank c = true) :
    endsName c = false := by
  have hends : ∀ d : Char, Text.isBlank d = false → c ≠ d := by
    rintro d hd rfl
    cases h.symm.trans hd
  simp only [endsName, Bool.or_eq_false_iff, beq_eq_false_iff_ne]
  exact ⟨⟨hends '(' (by decide), hends ')' (by decide)⟩, hends ']' (by decide)⟩

/-- Blanks behind a text change nothing about the directive at its head. -/
theorem Directive.at?_append_blanks {tail : List Char} (h : ∀ c ∈ tail, Text.isBlank c = true)
    (cs : List Char) : at? (cs ++ tail) = at? cs := by
  have hmark : ∀ c ∈ tail.head?, c ∉ mark := fun c hc =>
    not_mem_mark_of_blank (h c (List.mem_of_mem_head? hc))
  have hends : ∀ c ∈ tail, endsName c = false := fun c hc => endsName_of_blank (h c hc)
  have hclose : ∀ c ∈ tail, c ∉ [')', ']'] := by
    intro c hc hmem
    have hbrackets : [')', ']'].all (!Text.isBlank ·) = true := by decide
    have hnot := List.all_eq_true.mp hbrackets c hmem
    rw [h c hc] at hnot
    cases hnot
  rw [at?, at?, Text.dropHead?_append_tail hmark]
  cases Text.dropHead? mark cs with
  | none => rfl
  | some body =>
    simp only [Option.map_some, Text.cutAt?_append_tail hends]
    cases Text.cutAt? endsName body with
    | none => rfl
    | some found =>
      obtain ⟨name, stop, rest⟩ := found
      simp only [Option.map_some, Text.cut?_append_tail (List.cons_ne_nil _ _) hclose]
      cases Text.cut? [')', ']'] rest <;> rfl

/-- No directive begins with a blank. -/
theorem Directive.at?_blank_cons {c : Char} (h : Text.isBlank c = true) (cs : List Char) :
    at? (c :: cs) = none := by
  have hhead : Text.dropHead? mark (c :: cs) = none := by
    cases hdrop : Text.dropHead? mark (c :: cs) with
    | none => rfl
    | some rest =>
      obtain ⟨rfl, _⟩ := List.cons.inj (Text.eq_append_of_dropHead? hdrop)
      cases h
  rw [at?, hhead]

namespace Piece

def directive? : Piece → Option Directive
  | .markup _ => none
  | .directive d => some d

/-- The directives among pieces, in order. -/
def directives (pieces : List Piece) : List Directive := pieces.filterMap directive?

@[simp] theorem directives_markup_cons (text : List Char) (pieces : List Piece) :
    directives (.markup text :: pieces) = directives pieces := rfl

@[simp] theorem directives_directive_cons (d : Directive) (pieces : List Piece) :
    directives (.directive d :: pieces) = d :: directives pieces := rfl

@[simp] theorem directives_consMarkup (c : Char) (pieces : List Piece) :
    directives (consMarkup c pieces) = directives pieces := by
  unfold consMarkup
  split <;> rfl

theorem directives_of_blanks {tail : List Char} (h : ∀ c ∈ tail, Text.isBlank c = true)
    (skip : Nat) : directives (ofCharsFrom skip tail) = [] := by
  induction tail generalizing skip with
  | nil => cases skip <;> rfl
  | cons c tail ih =>
    rw [List.forall_mem_cons] at h
    cases skip with
    | zero => rw [ofCharsFrom, Directive.at?_blank_cons h.1, directives_consMarkup, ih h.2]
    | succ skip => exact ih h.2 skip

theorem directives_append_blanks {tail : List Char} (h : ∀ c ∈ tail, Text.isBlank c = true)
    (skip : Nat) (cs : List Char) :
    directives (ofCharsFrom skip (cs ++ tail)) = directives (ofCharsFrom skip cs) := by
  induction cs generalizing skip with
  | nil =>
    rw [List.nil_append, directives_of_blanks h]
    cases skip <;> rfl
  | cons c cs ih =>
    cases skip with
    | succ skip => exact ih skip
    | zero =>
      have hhead := Directive.at?_append_blanks h (c :: cs)
      rw [List.cons_append] at hhead
      rw [List.cons_append, ofCharsFrom, ofCharsFrom, hhead]
      cases Directive.at? (c :: cs) with
      | none => simp only [directives_consMarkup, ih]
      | some d => simp only [directives_directive_cons, ih]

theorem directives_blanks_append {lead : List Char} (h : ∀ c ∈ lead, Text.isBlank c = true)
    (cs : List Char) : directives (ofChars (lead ++ cs)) = directives (ofChars cs) := by
  induction lead with
  | nil => rfl
  | cons c lead ih =>
    rw [List.forall_mem_cons] at h
    rw [List.cons_append, ofChars, ofCharsFrom, Directive.at?_blank_cons h.1,
      directives_consMarkup]
    exact ih h.2

/-- A text has the directives of the trimmed text. -/
theorem directives_trimChars (cs : List Char) :
    directives (ofChars (Text.trimChars cs)) = directives (ofChars cs) := by
  obtain ⟨lead, tail, hcs, hlead, htail⟩ := Text.exists_ends Text.isBlank cs
  have hends : ofChars cs = ofChars (lead ++ (Text.trimChars cs ++ tail)) := by
    rw [← List.append_assoc]
    exact congrArg ofChars hcs
  rw [hends, directives_blanks_append hlead]
  exact (directives_append_blanks htail 0 _).symm

end Piece

/-! ### What a stimulus shows beside its text -/

namespace Stimulus

/-- The images of a stimulus, where it stands, and the tokens that were not understood. -/
structure Shown where
  images : List ImageRef
  position : Position
  ignored : List String
deriving DecidableEq, Repr

def shown (s : Stimulus) : Shown := ⟨s.images, s.position, s.ignored⟩

/-- One directive more. -/
def Shown.add (s : Shown) (d : Directive) : Except DirectiveError Shown := do
  let placed ← Placed.ofDirective d
  pure ⟨s.images ++ [placed.image], placed.position, s.ignored ++ placed.ignored⟩

theorem shown_markup (s : Stimulus) (text : String) :
    shown { s with segments := s.segments ++ [.markup text] } = s.shown := by
  simp [shown, images]

/-- What is shown beside the text hangs on the directives alone. -/
theorem foldlM_addPiece_map_shown (pieces : List Piece) (s : Stimulus) :
    (pieces.foldlM addPiece s).map shown = (Piece.directives pieces).foldlM Shown.add s.shown := by
  induction pieces generalizing s with
  | nil => rfl
  | cons piece pieces ih =>
    rw [List.foldlM_cons]
    cases piece with
    | markup text =>
      rw [Piece.directives_markup_cons, ← shown_markup s (String.ofList text)]
      exact ih _
    | directive d =>
      rw [Piece.directives_directive_cons, List.foldlM_cons]
      cases hplaced : Placed.ofDirective d with
      | error cause => simp only [addPiece, Shown.add, hplaced]; rfl
      | ok placed =>
        have hshown : Shown.add s.shown d = .ok (shown
            ⟨s.segments ++ [.image placed.image], placed.position, s.ignored ++ placed.ignored⟩) := by
          simp only [Shown.add, hplaced, shown, images, List.filterMap_append]
          rfl
        have hadd : addPiece s (.directive d) = .ok
            ⟨s.segments ++ [.image placed.image], placed.position, s.ignored ++ placed.ignored⟩ := by
          simp only [addPiece, hplaced]
          rfl
        rw [hadd, hshown]
        exact ih _

theorem read_map_shown (raw : String) :
    (read raw).map shown =
      (Piece.directives (Piece.ofChars raw.toList)).foldlM Shown.add empty.shown :=
  foldlM_addPiece_map_shown _ empty

/-- **A stimulus and its trimmed copy are read alike**: both show the same, or both fail with
    the same cause. -/
theorem read_trim (raw : String) : (read (Text.trim raw)).map shown = (read raw).map shown := by
  have htrim : (Text.trim raw).toList = Text.trimChars raw.toList := String.toList_ofList
  rw [read_map_shown, read_map_shown, htrim, Piece.directives_trimChars]

theorem exists_read_trim {raw : String} {s : Stimulus} (h : read raw = .ok s) :
    ∃ trimmed, read (Text.trim raw) = .ok trimmed ∧ trimmed.shown = s.shown := by
  have hshown := read_trim raw
  rw [h] at hshown
  cases htrimmed : read (Text.trim raw) with
  | error cause =>
    rw [htrimmed] at hshown
    cases hshown
  | ok trimmed =>
    rw [htrimmed] at hshown
    exact ⟨trimmed, rfl, Except.ok.inj hshown⟩

end Stimulus

end TimedTrials
