/-
  TimedTrials/Proofs/Page/Preload.lean
  ====================================
  **A page loads the images that its markup shows.**

  Building fails with the error of the first stimulus that cannot be read, and in no other way
  (`Payload.build_eq_error_iff`). Otherwise the sources to load are listed once each, in ascending
  order. In the markup of a trial a `<` stands in markup of the author, or it begins the element
  of an image (`Renders.authored_or_shown`): all that is put into such an element is escaped, so
  nothing else can begin in it. Reading the source of an element undoes the escaping
  (`shownSource?_imageTag`), and what is shown is what is loaded. The author's markup is passed
  through as it is, and images in it are not looked for.
-/
import TimedTrials.Proofs.Page.ImageElement
import TimedTrials.Proofs.Page.Payload

namespace TimedTrials.Page

variable {base : String} {image : ImageRef} {segments : List Segment} {before rest : List Char}
  {sequence : List TrialInstance} {settings : Settings} {payload : Payload} {e : DirectiveError}

/-! ### What may fail -/

/-- The first stimulus that cannot be read fails with this error. -/
inductive FirstUnread (e : DirectiveError) : List TrialInstance → Prop where
  | here {source : TrialInstance} {later : List TrialInstance}
      (h : Stimulus.read source.spec.stimulus = .error e) : FirstUnread e (source :: later)
  | later {source : TrialInstance} {later : List TrialInstance} {s : Stimulus}
      (h : Stimulus.read source.spec.stimulus = .ok s) (hlater : FirstUnread e later) :
      FirstUnread e (source :: later)

theorem FirstUnread.exists_unread (h : FirstUnread e sequence) :
    ∃ source ∈ sequence, Stimulus.read source.spec.stimulus = .error e := by
  induction h with
  | here h => exact ⟨_, List.mem_cons_self, h⟩
  | later _ _ ih =>
    obtain ⟨source, hsource, h⟩ := ih
    exact ⟨source, List.mem_cons_of_mem _ hsource, h⟩

theorem exists_firstUnread {source : TrialInstance} (hsource : source ∈ sequence)
    (h : Stimulus.read source.spec.stimulus = .error e) : ∃ e', FirstUnread e' sequence := by
  induction sequence with
  | nil => cases hsource
  | cons first later ih =>
    cases hfirst : Stimulus.read first.spec.stimulus with
    | error e' => exact ⟨e', .here hfirst⟩
    | ok s =>
      rcases List.mem_cons.mp hsource with rfl | hlater
      · cases hfirst.symm.trans h
      · obtain ⟨e', he'⟩ := ih hlater
        exact ⟨e', .later hfirst he'⟩

theorem trialOf_of_read_error {source : TrialInstance}
    (h : Stimulus.read source.spec.stimulus = .error e) : trialOf base source = .error e := by
  rw [trialOf, h]
  rfl

theorem mapM_trialOf_eq_error_iff :
    sequence.mapM (trialOf base) = .error e ↔ FirstUnread e sequence := by
  induction sequence with
  | nil => constructor <;> intro h <;> cases h
  | cons source sequence ih =>
    rw [List.mapM_cons]
    cases hread : Stimulus.read source.spec.stimulus with
    | error e' =>
      rw [trialOf_of_read_error hread]
      constructor
      · intro h
        obtain rfl := Except.error.inj h
        exact .here hread
      · intro h
        cases h with
        | here h =>
          obtain rfl := Except.error.inj (hread.symm.trans h)
          rfl
        | later h _ => cases hread.symm.trans h
    | ok s =>
      obtain ⟨built, hbuilt, -⟩ := exists_trialOf base hread
      have hrest : sequence.mapM (trialOf base) = .error e ↔
          FirstUnread e (source :: sequence) := by
        rw [ih]
        constructor
        · exact .later hread
        · intro h
          cases h with
          | here h => cases hread.symm.trans h
          | later _ hlater => exact hlater
      rw [hbuilt, ← hrest]
      cases sequence.mapM (trialOf base) with
      | error e' => exact Iff.rfl
      | ok rest => constructor <;> intro h <;> cases h

theorem Payload.build_eq_error_iff :
    Payload.build sequence settings = .error e ↔ FirstUnread e sequence := by
  have htrials : sequence.mapM (trialOf settings.imageBase) = .error e ↔ FirstUnread e sequence :=
    mapM_trialOf_eq_error_iff
  rw [Payload.build, ← htrials]
  cases sequence.mapM (trialOf settings.imageBase) with
  | error e' =>
    exact ⟨fun h => congrArg _ (Except.error.inj h), fun h => congrArg _ (Except.error.inj h)⟩
  | ok built => constructor <;> intro h <;> cases h

theorem Payload.exists_error_iff : (∃ e, Payload.build sequence settings = .error e) ↔
    ∃ source ∈ sequence, ∃ e, Stimulus.read source.spec.stimulus = .error e := by
  simp only [Payload.build_eq_error_iff]
  constructor
  · rintro ⟨e, h⟩
    obtain ⟨source, hsource, hread⟩ := h.exists_unread
    exact ⟨source, hsource, e, hread⟩
  · rintro ⟨source, hsource, e, h⟩
    exact exists_firstUnread hsource h

/-- What was built is of stimuli that can be read. -/
theorem Payload.exists_read_of_build (h : Payload.build sequence settings = .ok payload) :
    ∀ source ∈ sequence, ∃ s, Stimulus.read source.spec.stimulus = .ok s := by
  intro source hsource
  cases hread : Stimulus.read source.spec.stimulus with
  | ok s => exact ⟨s, rfl⟩
  | error e =>
    obtain ⟨e', he'⟩ := Payload.exists_error_iff.mpr ⟨source, hsource, e, hread⟩
    cases h.symm.trans (he' : Payload.build sequence settings = _)

/-! ### The list of sources -/

theorem pairwise_insertSource (x : String) {sources : List String}
    (h : sources.Pairwise (· < ·)) : (insertSource x sources).Pairwise (· < ·) := by
  induction sources with
  | nil => exact List.pairwise_singleton _ x
  | cons y sources ih =>
    obtain ⟨hy, hsources⟩ := List.pairwise_cons.mp h
    rw [insertSource]
    split
    · rename_i hlt
      refine List.pairwise_cons.mpr ⟨?_, h⟩
      intro z hz
      rcases List.mem_cons.mp hz with rfl | hz
      · exact hlt
      · exact String.lt_trans hlt (hy z hz)
    · split
      · exact h
      · rename_i hnot hne
        refine List.pairwise_cons.mpr ⟨?_, ih hsources⟩
        intro z hz
        rcases mem_insertSource.mp hz with rfl | hz
        · exact Std.lt_of_le_of_ne hnot (Ne.symm hne)
        · exact hy z hz

theorem pairwise_foldl_insertSource (sources : List String) {loaded : List String}
    (h : loaded.Pairwise (· < ·)) :
    (sources.foldl (fun xs x => insertSource x xs) loaded).Pairwise (· < ·) := by
  induction sources generalizing loaded with
  | nil => exact h
  | cons x sources ih => exact ih (pairwise_insertSource x h)

theorem Payload.pairwise_preload (h : Payload.build sequence settings = .ok payload) :
    payload.preload.Pairwise (· < ·) := by
  unfold Payload.build at h
  cases hbuilt : sequence.mapM (trialOf settings.imageBase) with
  | error e =>
    rw [hbuilt] at h
    cases h
  | ok built =>
    rw [hbuilt] at h
    obtain rfl := Except.ok.inj h
    exact pairwise_foldl_insertSource _ .nil

/-! ### Elements of images -/

/-- The source that an image element shows at the head of some markup: what stands between the
    first quotation marks, with its entities decoded. -/
def shownSource? (markup : List Char) : Option String := do
  let value ← Text.dropHead? "<img src=\"".toList markup
  let (source, _) ← Text.cutAt? (· == '"') value
  some (String.ofList (Markup.decodeEntities source))

/-- The element of an image begins with its source, and nothing else begins in it. -/
theorem exists_imageTag_eq (image : ImageRef) (base : String) : ∃ more, '<' ∉ more ∧
    (imageTag image base).toList = "<img src=\"".toList ++
      ((escapeHtml (imageSource image base)).toList ++ '"' :: more) := by
  have htag : imageTag image base = "<img src=\"" ++ escapeHtml (imageSource image base) ++
      "\" alt=\"" ++ escapeHtml image.file ++ "\" style=\"" ++ imageStyle image ++ "\">" := rfl
  have hquote : "\" alt=\"".toList = '"' :: " alt=\"".toList := rfl
  refine ⟨" alt=\"".toList ++ ((escapeHtml image.file).toList ++ ("\" style=\"".toList ++
    ((imageStyle image).toList ++ "\">".toList))), ?_, ?_⟩
  · have hfile : '<' ∉ (escapeHtml image.file).toList :=
      not_mem_escapeHtml (by decide) (by decide) image.file
    simp only [List.mem_append, not_or]
    exact ⟨by decide, hfile, by decide, contained_imageStyle image '<' (by decide), by decide⟩
  · simp only [htag, String.toList_append, List.append_assoc]
    rw [hquote]
    rfl

/-- The element of an image shows its source. -/
theorem shownSource?_imageTag (image : ImageRef) (base : String) (rest : List Char) :
    shownSource? ((imageTag image base).toList ++ rest) = some (imageSource image base) := by
  obtain ⟨more, -, htag⟩ := exists_imageTag_eq image base
  have hcut : Text.cutAt? (· == '"') ((escapeHtml (imageSource image base)).toList ++
      '"' :: (more ++ rest)) =
      some ((escapeHtml (imageSource image base)).toList, '"', more ++ rest) :=
    Text.cutAt?_beq_eq_some_iff.mpr ⟨rfl, unquoted_escapeHtml _, rfl⟩
  rw [htag, List.append_assoc, List.append_assoc, List.cons_append, shownSource?,
    Text.dropHead?_append]
  simp only [Option.bind_eq_bind, Option.bind_some, hcut, decodeEntities_escapeHtml,
    String.ofList_toList]

theorem eq_nil_of_imageTag_eq (h : (imageTag image base).toList = before ++ '<' :: rest) :
    before = [] := by
  obtain ⟨more, hmore, htag⟩ := exists_imageTag_eq image base
  have hfirst : "<img src=\"".toList = '<' :: "img src=\"".toList := rfl
  cases before with
  | nil => rfl
  | cons c before =>
    rw [htag, hfirst, List.cons_append, List.cons_append] at h
    have hmem : '<' ∈ "img src=\"".toList ++
        ((escapeHtml (imageSource image base)).toList ++ '"' :: more) := by
      rw [(List.cons.inj h).2]
      exact List.mem_append_right _ List.mem_cons_self
    simp only [List.mem_append, List.mem_cons] at hmem
    rcases hmem with hmem | hmem | hmem | hmem
    · exact absurd hmem (by decide)
    · exact absurd hmem (not_mem_escapeHtml (by decide) (by decide) _)
    · cases hmem
    · exact absurd hmem hmore

/-! ### The markup of a trial -/

/-- A place in a text of two parts is in the second part, or before its end in the first. -/
theorem place_cases {α : Type} {xs ys before rest : List α} {x : α}
    (h : xs ++ ys = before ++ x :: rest) :
    (∃ inner, before = xs ++ inner ∧ ys = inner ++ x :: rest) ∨
      ∃ inner, xs = before ++ x :: inner ∧ rest = inner ++ ys := by
  obtain ⟨inner, hbefore, hys⟩ | ⟨inner, hxs, hrest⟩ := List.append_eq_append_iff.mp h
  · exact .inl ⟨inner, hbefore, hys⟩
  · cases inner with
    | nil =>
      rw [List.append_nil] at hxs
      exact .inl ⟨[], by rw [hxs, List.append_nil], hrest.symm⟩
    | cons y inner =>
      obtain ⟨rfl, htail⟩ := List.cons.inj hrest
      exact .inr ⟨inner, hxs, htail⟩

/-- The markup of segments, one after the other: the author's as it is, and an element for each
    image. -/
inductive Renders (base : String) : List Segment → List Char → Prop where
  | nil : Renders base [] []
  | markup {text : String} {segments : List Segment} {html : List Char}
      (h : Renders base segments html) :
      Renders base (.markup text :: segments) (text.toList ++ html)
  | image {image : ImageRef} {segments : List Segment} {html : List Char}
      (h : Renders base segments html) :
      Renders base (.image image :: segments) ((imageTag image base).toList ++ html)

/-- The place behind `before` in the markup of segments is in markup of the author. -/
inductive Authored (base : String) : List Segment → List Char → Prop where
  | here {text : String} {segments : List Segment} {before : List Char} {c : Char}
      {after : List Char} (h : text.toList = before ++ c :: after) :
      Authored base (.markup text :: segments) before
  | markup {text : String} {segments : List Segment} {before : List Char}
      (h : Authored base segments before) :
      Authored base (.markup text :: segments) (text.toList ++ before)
  | image {image : ImageRef} {segments : List Segment} {before : List Char}
      (h : Authored base segments before) :
      Authored base (.image image :: segments) ((imageTag image base).toList ++ before)

theorem renders_stimulusHtml (base : String) (s : Stimulus) :
    Renders base s.segments (stimulusHtml base s).toList := by
  rw [stimulusHtml]
  induction s.segments with
  | nil => exact .nil
  | cons segment segments ih =>
    rw [List.map_cons, String.join_cons, String.toList_append]
    cases segment with
    | markup text => exact .markup ih
    | image image => exact .image ih

/-- **A `<` stands in markup of the author, or an image shows its source there.** -/
theorem Renders.authored_or_shown {html : List Char} (hrenders : Renders base segments html)
    (h : html = before ++ '<' :: rest) :
    Authored base segments before ∨ ∃ image, .image image ∈ segments ∧
      shownSource? ('<' :: rest) = some (imageSource image base) := by
  induction hrenders generalizing before with
  | nil => exact absurd h (by simp)
  | markup hsegments ih =>
    obtain ⟨inner, rfl, hrest⟩ | ⟨inner, htext, -⟩ := place_cases h
    · rcases ih hrest with hauthored | ⟨image, himage, hshown⟩
      · exact .inl (.markup hauthored)
      · exact .inr ⟨image, List.mem_cons_of_mem _ himage, hshown⟩
    · exact .inl (.here htext)
  | @image image segments html hsegments ih =>
    obtain ⟨inner, hbefore, hrest⟩ | ⟨inner, htag, -⟩ := place_cases h
    · rcases ih hrest with hauthored | ⟨image, himage, hshown⟩
      · rw [hbefore]
        exact .inl (.image hauthored)
      · exact .inr ⟨image, List.mem_cons_of_mem _ himage, hshown⟩
    · obtain rfl := eq_nil_of_imageTag_eq htag
      rw [List.nil_append] at h
      exact .inr ⟨image, List.mem_cons_self, h ▸ shownSource?_imageTag image base html⟩

theorem mem_images {s : Stimulus} : image ∈ s.images ↔ .image image ∈ s.segments := by
  rw [Stimulus.images, List.mem_filterMap]
  constructor
  · rintro ⟨segment, hsegment, h⟩
    cases segment with
    | markup text => cases h
    | image other =>
      obtain rfl := Option.some.inj h
      exact hsegment
  · exact fun h => ⟨_, h, rfl⟩

/-! ### Pages -/

/-- A trial of a page shows its instance: its markup is that of the segments of the stimulus, and
    every `<` in it stands in markup of the author or shows a source that is loaded. -/
structure Shows (base : String) (preload : List String) (given : TrialInstance) (shown : Trial) :
    Prop where
  source : shown.source = given
  markup : ∃ s, Stimulus.read given.spec.stimulus = .ok s ∧
    Renders base s.segments shown.stimulusHtml.toList ∧
    ∀ before rest, shown.stimulusHtml.toList = before ++ '<' :: rest →
      Authored base s.segments before ∨ ∃ name ∈ preload, shownSource? ('<' :: rest) = some name

theorem Pictures.shows {preload : List String} {source : TrialInstance} {shown : Trial}
    (h : Pictures base source shown)
    (hloaded : ∀ name, LoadedFor base source name → name ∈ preload) :
    Shows base preload source shown := by
  obtain ⟨hsource, s, hread, hhtml, -⟩ := h
  have hrenders := renders_stimulusHtml base s
  rw [← hhtml] at hrenders
  refine ⟨hsource, s, hread, hrenders, fun before rest hplace => ?_⟩
  rcases hrenders.authored_or_shown hplace with hauthored | ⟨image, himage, hshown⟩
  · exact .inl hauthored
  · exact .inr ⟨_, hloaded _ ⟨s, hread, image, mem_images.mpr himage, rfl⟩, hshown⟩

/-- **A page loads the images that its markup shows**, for every sequence and all settings. It is
    built unless a stimulus cannot be read, and fails with the error of the first such stimulus.
    Then the sources to load are listed once each in ascending order, and they are those of the
    images in the stimuli. Every trial has the markup of its stimulus, in which all elements that
    the author did not write show an image that is loaded. -/
theorem Payload.build_exact (sequence : List TrialInstance) (settings : Settings) :
    ((∃ e, Payload.build sequence settings = .error e) ↔
      ∃ source ∈ sequence, ∃ e, Stimulus.read source.spec.stimulus = .error e) ∧
    (∀ e, Payload.build sequence settings = .error e ↔ FirstUnread e sequence) ∧
    ∀ payload, Payload.build sequence settings = .ok payload →
      payload.preload.Pairwise (· < ·) ∧
      (∀ name, name ∈ payload.preload ↔
        ∃ source ∈ sequence, LoadedFor settings.imageBase source name) ∧
      List.Forall₂ (Shows settings.imageBase payload.preload) sequence payload.trials := by
  refine ⟨Payload.exists_error_iff, fun e => Payload.build_eq_error_iff, ?_⟩
  intro payload hbuild
  obtain ⟨built, hbuilt, -, hpictures, hnames⟩ :=
    Payload.exists_build (Payload.exists_read_of_build hbuild) settings
  obtain rfl := Except.ok.inj (hbuilt.symm.trans hbuild)
  refine ⟨Payload.pairwise_preload hbuild, hnames, ?_⟩
  rw [List.forall₂_iff_get] at hpictures ⊢
  refine ⟨hpictures.1, fun i hi hi' => (hpictures.2 i hi hi').shows fun name hname => ?_⟩
  exact (hnames name).mpr ⟨_, List.get_mem sequence ⟨i, hi⟩, hname⟩

/-- Two trials that share an image, and whose files have names that need escaping. -/
def sharingTrials : List TrialInstance :=
  [⟨.timed 1 1 "[image:b\"1.png][image:a&lt;.png]" 100, 1, .fixed 1, 0⟩,
    ⟨.timed 2 1 "<b>x</b>[image:a&lt;.png]" 100, 1, .fixed 1, 1⟩]

theorem build_exact_sharingTrials : ∃ payload,
    Payload.build sharingTrials { Settings.standard with imageBase := "img//" } = .ok payload ∧
      payload.preload.Pairwise (· < ·) ∧ "img/a&lt;.png" ∈ payload.preload ∧
      List.Forall₂ (Shows "img//" payload.preload) sharingTrials payload.trials := by
  obtain ⟨payload, hbuild⟩ : ∃ payload, Payload.build sharingTrials
      { Settings.standard with imageBase := "img//" } = .ok payload := ⟨_, rfl⟩
  obtain ⟨-, -, hexact⟩ :=
    Payload.build_exact sharingTrials { Settings.standard with imageBase := "img//" }
  obtain ⟨hpairwise, hnames, hshows⟩ := hexact payload hbuild
  refine ⟨payload, hbuild, hpairwise, (hnames _).mpr ?_, hshows⟩
  exact ⟨_, List.mem_cons_self, _, rfl, ⟨"a&lt;.png", none, none⟩, by decide, by decide⟩

/-- An image that the author writes as markup is shown and not loaded. -/
theorem authored_image_not_loaded : ∃ payload,
    Payload.build [⟨.timed 1 1 "<img src=\"x.png\">" 100, 1, .fixed 1, 0⟩] .standard =
        .ok payload ∧
      payload.preload = [] ∧
      payload.trials.map (fun shown => shownSource? shown.stimulusHtml.toList) =
        [some "x.png"] := by
  refine ⟨_, rfl, rfl, ?_⟩
  decide

end TimedTrials.Page
