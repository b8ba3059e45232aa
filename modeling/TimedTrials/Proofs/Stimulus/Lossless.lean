/-
  TimedTrials/Proofs/Stimulus/Lossless.lean
  =========================================
  **Reading a stimulus loses nothing, and overlooks no directive.**

  Whether a directive stands at a place hangs on all of the text behind it, since what closes it
  may stand anywhere there. But once it is closed the rest makes no difference (`Written.at?_eq`).
  So a directive reads alike wherever it stands, and a text in which none was found holds none
  when it stands alone. From this the pieces of a text are put together as they should be, one
  for each way of going on (`WellCut`), and the segments of a stimulus after them.
-/
import Mathlib.Data.List.Chain
import TimedTrials.Proofs.Stimulus.Trimmed

namespace TimedTrials

/-! ### How a directive is written -/

namespace Directive

/-- The ways in which a directive is written: its file name alone, or with options up to the
    first `)]`. -/
inductive Written : Directive → Prop where
  | bare {name : List Char} (hname : ∀ c ∈ name, endsName c = false)
      (hfile : (Text.trimChars name).isEmpty = false) :
      Written ⟨Text.trimChars name, [], mark ++ name ++ [']']⟩
  | withOptions {name options : List Char} (hname : ∀ c ∈ name, endsName c = false)
      (hfile : (Text.trimChars name).isEmpty = false)
      (hoptions : ∀ more, Text.cut? [')', ']'] (options ++ [')', ']'] ++ more) =
        some (options, more)) :
      Written ⟨Text.trimChars name, options, mark ++ name ++ '(' :: options ++ [')', ']']⟩

/-- A directive that is found is one that is written so, and stands at the head of the text. -/
theorem written_of_at? {cs : List Char} {d : Directive} (h : at? cs = some d) :
    d.Written ∧ ∃ rest, cs = d.source ++ rest := by
  unfold at? at h
  split at h
  · cases h
  · rename_i body hbody
    obtain rfl := Text.eq_append_of_dropHead? hbody
    split at h
    · cases h
    · rename_i name stop rest hcut
      obtain ⟨rfl, hname, _⟩ := Text.cutAt?_eq_some_iff.mp hcut
      simp only at h
      split at h
      · cases h
      · rename_i hfile
        rw [Bool.not_eq_true] at hfile
        split at h
        · rename_i hstop
          cases h
          exact ⟨.bare hname hfile, rest, by rw [hstop]; simp⟩
        · split at h
          · rename_i hstop
            split at h
            · cases h
            · rename_i options after hoptions
              cases h
              obtain rfl := Text.eq_append_of_cut? hoptions
              refine ⟨.withOptions hname hfile (Text.cut?_of_cut? hoptions), after, ?_⟩
              rw [hstop]
              simp
          · cases h

/-- **What is behind a directive makes no difference to it.** -/
theorem Written.at?_eq {d : Directive} (h : d.Written) (rest : List Char) :
    at? (d.source ++ rest) = some d := by
  cases h with
  | @bare name hname hfile =>
    have hcut : Text.cutAt? endsName (name ++ ']' :: rest) = some (name, ']', rest) :=
      Text.cutAt?_eq_some_iff.mpr ⟨rfl, hname, rfl⟩
    have hsource : mark ++ name ++ [']'] ++ rest = mark ++ (name ++ ']' :: rest) := by simp
    simp only [at?, hsource, Text.dropHead?_append, hcut, hfile, Bool.false_eq_true, if_false,
      if_true]
  | @withOptions name options hname hfile hoptions =>
    have hcut : Text.cutAt? endsName (name ++ '(' :: (options ++ [')', ']'] ++ rest)) =
        some (name, '(', options ++ [')', ']'] ++ rest) :=
      Text.cutAt?_eq_some_iff.mpr ⟨rfl, hname, rfl⟩
    have hsource : mark ++ name ++ '(' :: options ++ [')', ']'] ++ rest =
        mark ++ (name ++ '(' :: (options ++ [')', ']'] ++ rest)) := by simp
    have hother : ¬ '(' = ']' := by decide
    simp only [at?, hsource, Text.dropHead?_append, hcut, hfile, hother, hoptions,
      Bool.false_eq_true, if_false, if_true]

theorem Written.exists_body {d : Directive} (h : d.Written) :
    ∃ body, d.source = mark ++ body ++ [']'] := by
  cases h with
  | @bare name => exact ⟨name, rfl⟩
  | @withOptions name options => exact ⟨name ++ '(' :: options ++ [')'], by simp⟩

theorem Written.source_ne_nil {d : Directive} (h : d.Written) : d.source ≠ [] := by
  obtain ⟨body, hbody⟩ := h.exists_body
  rw [hbody]
  exact List.append_ne_nil_of_right_ne_nil _ (List.cons_ne_nil _ _)

/-- A text that does not begin with a directive does not begin with one when it is cut short. -/
theorem at?_eq_none_of_append (cs : List Char) {more : List Char} (h : at? (cs ++ more) = none) :
    at? cs = none := by
  cases hat : at? cs with
  | none => rfl
  | some d =>
    obtain ⟨hwritten, rest, rfl⟩ := written_of_at? hat
    rw [List.append_assoc, hwritten.at?_eq] at h
    cases h

end Directive

/-! ### Pieces that are put together as they should be -/

namespace Piece

def isMarkup : Piece → Bool
  | .markup _ => true
  | .directive _ => false

@[simp] theorem flatMap_source_consMarkup (c : Char) (pieces : List Piece) :
    (consMarkup c pieces).flatMap source = c :: pieces.flatMap source := by
  unfold consMarkup
  split <;> rfl

/-- **Nothing of a text is lost** in its pieces. -/
theorem flatMap_source_ofCharsFrom (skip : Nat) (cs : List Char) :
    (ofCharsFrom skip cs).flatMap source = cs.drop skip := by
  induction cs generalizing skip with
  | nil => cases skip <;> rfl
  | cons c cs ih =>
    cases skip with
    | succ skip => exact ih skip
    | zero =>
      rw [ofCharsFrom]
      cases hat : Directive.at? (c :: cs) with
      | none => rw [flatMap_source_consMarkup, ih]; rfl
      | some d =>
        -- the rest of the directive is what has been left out
        obtain ⟨hwritten, rest, hcs⟩ := Directive.written_of_at? hat
        obtain ⟨first, more, hsource⟩ := List.exists_cons_of_ne_nil hwritten.source_ne_nil
        rw [hsource, List.cons_append] at hcs
        obtain ⟨rfl, rfl⟩ := List.cons.inj hcs
        simp only [List.flatMap_cons, source, ih, hsource, List.length_cons, Nat.add_sub_cancel,
          List.drop_left, List.drop_zero, List.cons_append]

theorem flatMap_source_ofChars (cs : List Char) : (ofChars cs).flatMap source = cs :=
  flatMap_source_ofCharsFrom 0 cs

theorem ofCharsFrom_length (cs : List Char) : ofCharsFrom cs.length cs = [] := by
  induction cs with
  | nil => rfl
  | cons c cs ih => exact ih

/-- No markup of a list of pieces could be more, none is empty, and each piece is what it is when
    it is read alone. -/
structure WellCut (pieces : List Piece) : Prop where
  separated : pieces.IsChain fun a b => ¬ (a.isMarkup = true ∧ b.isMarkup = true)
  nonempty : ∀ piece ∈ pieces, piece.source ≠ []
  alone : ∀ piece ∈ pieces, ofChars piece.source = [piece]

theorem wellCut_nil : WellCut [] :=
  ⟨.nil, fun _ h => absurd h List.not_mem_nil, fun _ h => absurd h List.not_mem_nil⟩

theorem ofChars_source_directive {d : Directive} (h : d.Written) :
    ofChars d.source = [.directive d] := by
  have hat := h.at?_eq []
  obtain ⟨first, more, hsource⟩ := List.exists_cons_of_ne_nil h.source_ne_nil
  rw [List.append_nil] at hat
  rw [hsource] at hat ⊢
  simp only [ofChars, ofCharsFrom, hat, hsource, List.length_cons, Nat.add_sub_cancel,
    ofCharsFrom_length]

theorem written_of_ofChars {d : Directive} (h : ofChars d.source = [.directive d]) :
    d.Written := by
  cases hsource : d.source with
  | nil =>
    rw [hsource] at h
    cases h
  | cons c cs =>
    rw [hsource, ofChars, ofCharsFrom] at h
    cases hat : Directive.at? (c :: cs) with
    | none =>
      simp only [hat, Piece.consMarkup] at h
      split at h <;> cases h
    | some found =>
      simp only [hat, List.cons.injEq, Piece.directive.injEq] at h
      exact h.1 ▸ (Directive.written_of_at? hat).1

/-- Markup that grows at its front stays in one piece. -/
theorem ofChars_cons_of_at?_eq_none {c : Char} {cs : List Char}
    (h : Directive.at? (c :: cs) = none) : ofChars (c :: cs) = Piece.consMarkup c (ofChars cs) := by
  rw [ofChars, ofCharsFrom, h]
  rfl

theorem wellCut_cons {piece : Piece} {pieces : List Piece} :
    WellCut (piece :: pieces) ↔
      (∀ next ∈ pieces.head?, ¬ (piece.isMarkup = true ∧ next.isMarkup = true)) ∧
        piece.source ≠ [] ∧ ofChars piece.source = [piece] ∧ WellCut pieces := by
  constructor
  · intro h
    obtain ⟨hnext, hseparated⟩ := List.isChain_cons.mp h.separated
    obtain ⟨hne, hnonempty⟩ := List.forall_mem_cons.mp h.nonempty
    obtain ⟨hpiece, halone⟩ := List.forall_mem_cons.mp h.alone
    exact ⟨hnext, hne, hpiece, hseparated, hnonempty, halone⟩
  · rintro ⟨hnext, hne, hpiece, h⟩
    exact ⟨List.isChain_cons.mpr ⟨hnext, h.separated⟩,
      List.forall_mem_cons.mpr ⟨hne, h.nonempty⟩, List.forall_mem_cons.mpr ⟨hpiece, h.alone⟩⟩

theorem WellCut.directive_cons {pieces : List Piece} (h : WellCut pieces) {d : Directive}
    (hd : d.Written) : WellCut (.directive d :: pieces) := by
  refine wellCut_cons.mpr ⟨?_, hd.source_ne_nil, ofChars_source_directive hd, h⟩
  rintro next _ ⟨hmarkup, _⟩
  cases hmarkup

/-- A character that opens no directive goes to the markup behind it, if there is any. That markup
    held no directive, and it holds none with the character before it. -/
theorem WellCut.consMarkup {pieces : List Piece} (h : WellCut pieces) {c : Char}
    (hc : Directive.at? (c :: pieces.flatMap source) = none) : WellCut (consMarkup c pieces) := by
  have hsingle : ofChars [c] = [.markup [c]] :=
    ofChars_cons_of_at?_eq_none (Directive.at?_eq_none_of_append [c] hc)
  cases pieces with
  | nil =>
    exact wellCut_cons.mpr ⟨(fun _ hnext => nomatch hnext), List.cons_ne_nil _ _, hsingle, h⟩
  | cons piece pieces =>
    cases piece with
    | directive d =>
      refine wellCut_cons.mpr ⟨?_, List.cons_ne_nil _ _, hsingle, h⟩
      rintro next hnext ⟨_, hmarkup⟩
      obtain rfl := Option.some.inj hnext
      cases hmarkup
    | markup text =>
      -- what was tried on the whole rest fails on the markup alone as well
      obtain ⟨hnext, _, halone, hrest⟩ := wellCut_cons.mp h
      have htext : Directive.at? (c :: text) = none :=
        Directive.at?_eq_none_of_append (c :: text) hc
      refine wellCut_cons.mpr ⟨hnext, List.cons_ne_nil _ _, ?_, hrest⟩
      exact (ofChars_cons_of_at?_eq_none htext).trans (congrArg (Piece.consMarkup c) halone)

theorem wellCut_ofCharsFrom (skip : Nat) (cs : List Char) : WellCut (ofCharsFrom skip cs) := by
  induction cs generalizing skip with
  | nil => cases skip <;> exact wellCut_nil
  | cons c cs ih =>
    cases skip with
    | succ skip => exact ih skip
    | zero =>
      rw [ofCharsFrom]
      cases hat : Directive.at? (c :: cs) with
      | some d => exact (ih _).directive_cons (Directive.written_of_at? hat).1
      | none =>
        refine (ih 0).consMarkup ?_
        rw [flatMap_source_ofCharsFrom]
        exact hat

theorem wellCut_ofChars (cs : List Char) : WellCut (ofChars cs) := wellCut_ofCharsFrom 0 cs

theorem mem_directives {pieces : List Piece} {d : Directive} :
    d ∈ directives pieces ↔ .directive d ∈ pieces := by
  rw [directives, List.mem_filterMap]
  constructor
  · rintro ⟨piece, hpiece, hd⟩
    cases piece with
    | markup text => cases hd
    | directive other =>
      obtain rfl := Option.some.inj hd
      exact hpiece
  · exact fun h => ⟨_, h, rfl⟩

/-- What a piece becomes in a stimulus. -/
inductive Shows : Piece → Segment → Prop where
  | markup (text : List Char) : Shows (.markup text) (.markup (String.ofList text))
  | directive {d : Directive} {placed : Placed} (hplaced : Placed.ofDirective d = .ok placed) :
      Shows (.directive d) (.image placed.image)

end Piece

/-! ### Stimuli -/

def Segment.isMarkup : Segment → Bool
  | .markup _ => true
  | .image _ => false

namespace Stimulus

/-- The text of segments, in which each image stands as it was written. -/
def written : List Segment → List String → String
  | .markup text :: segments, sources => text ++ written segments sources
  | .image _ :: segments, source :: sources => source ++ written segments sources
  | _, _ => ""

/-- A text that is a directive for an image, and nothing else. -/
structure IsSource (image : ImageRef) (source : String) : Prop where
  brackets : ∃ body, source = "[image:" ++ body ++ "]"
  alone : ∃ position ignored, read source = .ok ⟨[.image image], position, ignored⟩

/-- Each piece adds the segment that it becomes. -/
theorem forall₂_shows {pieces : List Piece} {s s' : Stimulus}
    (h : pieces.foldlM addPiece s = .ok s') :
    ∃ segments, s'.segments = s.segments ++ segments ∧
      List.Forall₂ Piece.Shows pieces segments := by
  induction pieces generalizing s with
  | nil =>
    cases h
    exact ⟨[], (List.append_nil _).symm, .nil⟩
  | cons piece pieces ih =>
    rw [List.foldlM_cons] at h
    cases piece with
    | markup text =>
      obtain ⟨segments, hsegments, hshows⟩ := ih h
      refine ⟨.markup (String.ofList text) :: segments, ?_, .cons (.markup text) hshows⟩
      rw [hsegments, List.append_assoc]
      rfl
    | directive d =>
      cases hplaced : Placed.ofDirective d with
      | error cause =>
        simp only [addPiece, hplaced] at h
        cases h
      | ok placed =>
        simp only [addPiece, hplaced] at h
        obtain ⟨segments, hsegments, hshows⟩ := ih h
        refine ⟨.image placed.image :: segments, ?_, .cons (.directive hplaced) hshows⟩
        rw [hsegments, List.append_assoc]
        rfl

theorem exists_piece_of_mem {pieces : List Piece} {segments : List Segment} {segment : Segment}
    (h : List.Forall₂ Piece.Shows pieces segments) (hmem : segment ∈ segments) :
    ∃ piece ∈ pieces, piece.Shows segment := by
  induction h with
  | nil => cases hmem
  | @cons piece _ pieces _ hfirst _ ih =>
    rcases List.mem_cons.mp hmem with rfl | hrest
    · exact ⟨piece, List.mem_cons_self, hfirst⟩
    · obtain ⟨other, hother, hshows⟩ := ih hrest
      exact ⟨other, List.mem_cons_of_mem _ hother, hshows⟩

theorem map_isMarkup_of_shows {pieces : List Piece} {segments : List Segment}
    (h : List.Forall₂ Piece.Shows pieces segments) :
    segments.map Segment.isMarkup = pieces.map Piece.isMarkup := by
  induction h with
  | nil => rfl
  | cons hfirst _ ih =>
    rw [List.map_cons, List.map_cons, ih]
    cases hfirst <;> rfl

/-! ### What each piece shows alone -/

theorem read_ofList (cs : List Char) :
    read (String.ofList cs) = (Piece.ofChars cs).foldlM addPiece empty := by
  rw [read, String.toList_ofList]

theorem read_markup {text : List Char} (h : Piece.ofChars text = [.markup text]) :
    read (String.ofList text) = .ok ⟨[.markup (String.ofList text)], .middle, []⟩ := by
  rw [read_ofList, h]
  rfl

theorem read_directive {d : Directive} {placed : Placed}
    (h : Piece.ofChars d.source = [.directive d]) (hplaced : Placed.ofDirective d = .ok placed) :
    read (String.ofList d.source) =
      .ok ⟨[.image placed.image], placed.position, placed.ignored⟩ := by
  rw [read_ofList, h, List.foldlM_cons]
  simp only [addPiece, hplaced]
  rfl

theorem isSource_of_directive {d : Directive} {placed : Placed}
    (h : Piece.ofChars d.source = [.directive d]) (hplaced : Placed.ofDirective d = .ok placed) :
    IsSource placed.image (String.ofList d.source) where
  brackets := by
    obtain ⟨body, hbody⟩ := (Piece.written_of_ofChars h).exists_body
    refine ⟨String.ofList body, ?_⟩
    rw [hbody, String.ofList_append, String.ofList_append]
    rfl
  alone := ⟨_, _, read_directive h hplaced⟩

/-- The texts that the directives among pieces were written as. -/
def sources (pieces : List Piece) : List String :=
  (Piece.directives pieces).map fun d => String.ofList d.source

/-- Every image has its source, and with the sources the text is whole again. -/
theorem written_of_shows {pieces : List Piece} {segments : List Segment}
    (hshows : List.Forall₂ Piece.Shows pieces segments) (hpieces : Piece.WellCut pieces) :
    List.Forall₂ IsSource (images ⟨segments, .middle, []⟩) (sources pieces) ∧
      written segments (sources pieces) = String.ofList (pieces.flatMap Piece.source) := by
  induction hshows with
  | nil => exact ⟨.nil, rfl⟩
  | @cons piece segment pieces segments hfirst _ ih =>
    obtain ⟨_, _, halone, hrest⟩ := Piece.wellCut_cons.mp hpieces
    obtain ⟨hsources, hwritten⟩ := ih hrest
    cases hfirst with
    | markup text =>
      refine ⟨hsources, ?_⟩
      rw [List.flatMap_cons, String.ofList_append, ← hwritten]
      rfl
    | @directive d placed hplaced =>
      refine ⟨.cons (isSource_of_directive halone hplaced) hsources, ?_⟩
      rw [List.flatMap_cons, String.ofList_append, ← hwritten]
      rfl

theorem exists_placed_of_add {d : Directive} {before after : Shown}
    (h : Shown.add before d = .ok after) :
    ∃ placed, Placed.ofDirective d = .ok placed ∧ after.position = placed.position := by
  cases hplaced : Placed.ofDirective d with
  | error cause =>
    simp only [Shown.add, hplaced] at h
    cases h
  | ok placed =>
    simp only [Shown.add, hplaced] at h
    cases h
    exact ⟨placed, rfl, rfl⟩

/-- The last directive decides where the stimulus stands. -/
theorem position_of_read {raw : String} {s : Stimulus} (h : read raw = .ok s) :
    (Piece.directives (Piece.ofChars raw.toList) = [] → s.position = .middle) ∧
      ∀ d ∈ (Piece.directives (Piece.ofChars raw.toList)).getLast?,
        ∃ placed, Placed.ofDirective d = .ok placed ∧ s.position = placed.position := by
  have hshown := read_map_shown raw
  rw [h] at hshown
  rcases List.eq_nil_or_concat' (Piece.directives (Piece.ofChars raw.toList)) with
    hnone | ⟨before, last, hlast⟩
  · rw [hnone] at hshown ⊢
    refine ⟨fun _ => ?_, fun _ hd => nomatch hd⟩
    exact congrArg Shown.position (Except.ok.inj hshown)
  · rw [hlast, List.foldlM_append] at hshown
    rw [hlast, List.getLast?_concat]
    refine ⟨fun hnone => ?_, fun d hd => ?_⟩
    · exact absurd hnone (List.append_ne_nil_of_right_ne_nil _ (List.cons_ne_nil _ _))
    obtain rfl := Option.some.inj hd
    cases hbefore : before.foldlM Shown.add empty.shown with
    | error cause =>
      rw [hbefore] at hshown
      cases hshown
    | ok shown =>
      rw [hbefore] at hshown
      exact exists_placed_of_add ((bind_pure _).symm.trans hshown.symm)

/-- **Reading a stimulus is lossless and maximal.** No markup is empty, no two stand side by
    side, and each reads alone as itself, so that no directive was overlooked in it. Each image
    has a source, a directive that reads alone as that image; with the sources in their places
    the segments are the text again. The stimulus stands where the last of them says. -/
theorem read_lossless {raw : String} {s : Stimulus} (h : read raw = .ok s) :
    (∀ text, .markup text ∈ s.segments →
      text ≠ "" ∧ read text = .ok ⟨[.markup text], .middle, []⟩) ∧
      s.segments.IsChain (fun a b => ¬ (a.isMarkup = true ∧ b.isMarkup = true)) ∧
      ∃ sources, List.Forall₂ IsSource s.images sources ∧ written s.segments sources = raw ∧
        (sources = [] → s.position = .middle) ∧
        ∀ source ∈ sources.getLast?, (read source).map (·.position) = .ok s.position := by
  obtain ⟨segments, hsegments, hshows⟩ := forall₂_shows h
  have hsegments : s.segments = segments := hsegments
  have hpieces := Piece.wellCut_ofChars raw.toList
  obtain ⟨hsources, hwritten⟩ := written_of_shows hshows hpieces
  obtain ⟨hmiddle, hlast⟩ := position_of_read h
  refine ⟨?_, ?_, sources (Piece.ofChars raw.toList), ?_, ?_, ?_, ?_⟩
  · intro text hmem
    rw [hsegments] at hmem
    obtain ⟨piece, hpiece, hshown⟩ := exists_piece_of_mem hshows hmem
    cases hshown with
    | markup chars =>
      refine ⟨fun hempty => hpieces.nonempty _ hpiece (String.ofList_eq_empty_iff.mp hempty), ?_⟩
      exact read_markup (hpieces.alone _ hpiece)
  · refine (List.isChain_map (R := fun a b => ¬ (a = true ∧ b = true)) Segment.isMarkup).mp ?_
    rw [hsegments, map_isMarkup_of_shows hshows]
    exact (List.isChain_map Piece.isMarkup).mpr hpieces.separated
  · rw [images, hsegments]
    exact hsources
  · rw [hsegments, hwritten, Piece.flatMap_source_ofChars, String.ofList_toList]
  · intro hnone
    exact hmiddle (List.map_eq_nil_iff.mp hnone)
  · intro source hsource
    rw [sources, List.getLast?_map] at hsource
    obtain ⟨d, hd, rfl⟩ := Option.map_eq_some_iff.mp hsource
    obtain ⟨placed, hplaced, hposition⟩ := hlast d hd
    have halone := hpieces.alone (.directive d) (Piece.mem_directives.mp (List.mem_of_getLast? hd))
    rw [read_directive halone hplaced, hposition]
    rfl

/-- Openers without a name and without an end, a directive with a size, brackets in between, and a
    directive that says where the stimulus stands. -/
def openersText : String :=
  "[image:]a[image:x.png(top, width=8)](b)][image:(c[image: y.png (bottom-left)]d[image:z"

def openersStimulus : Stimulus :=
  ⟨[.markup "[image:]a", .image ⟨"x.png", some 8, none⟩, .markup "(b)][image:(c",
    .image ⟨"y.png", none, none⟩, .markup "d[image:z"], ⟨.bottom, .left⟩, []⟩

theorem read_lossless_openersText :
    read openersText = .ok openersStimulus ∧
      read "(b)][image:(c" = .ok ⟨[.markup "(b)][image:(c"], .middle, []⟩ ∧
      ∃ sources, List.Forall₂ IsSource openersStimulus.images sources ∧
        written openersStimulus.segments sources = openersText ∧
        ∀ source ∈ sources.getLast?, (read source).map (·.position) = .ok ⟨.bottom, .left⟩ := by
  have hread : read openersText = .ok openersStimulus := by rfl
  obtain ⟨halone, _, sources, hsources, hwritten, _, hlast⟩ := read_lossless hread
  have hmem : Segment.markup "(b)][image:(c" ∈ openersStimulus.segments := by
    simp [openersStimulus]
  exact ⟨hread, (halone _ hmem).2, sources, hsources, hwritten, hlast⟩

end Stimulus

end TimedTrials
