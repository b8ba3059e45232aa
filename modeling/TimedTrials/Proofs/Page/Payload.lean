/-
  TimedTrials/Proofs/Page/Payload.lean
  ====================================
  **What was validated is what is shown.**

  The check of a row reads its stimulus as it was typed; the trial keeps the trimmed text, and
  this is what a page is built from. Both are read alike, so that all that was checked of the
  one holds of the other (`ShowsChecked`). In particular every stimulus of a compiled sequence
  can be read, and a payload is built whenever this is so, with one trial for each instance and
  every image among those to be loaded (`Payload.exists_build`). It shows no image that was not
  checked (`exists_build_of_checked`).
-/
import TimedTrials.Page.Payload
import TimedTrials.Proofs.Sequence.Origin
import TimedTrials.Proofs.Stimulus.Trimmed

namespace TimedTrials

/-! ### Checked stimuli -/

/-- A stimulus shows what was checked in a cell: it is the cell without the blanks around it,
    both are read, with the same images, the same place and the same tokens passed over, and
    every image is a file of the image directory. -/
def ShowsChecked (options : ValidationOptions) (cell stimulus : String) : Prop :=
  stimulus = Text.trim cell ∧ ∃ checked shown,
    Stimulus.read cell = .ok checked ∧ Stimulus.read stimulus = .ok shown ∧
      shown.images = checked.images ∧ shown.position = checked.position ∧
      shown.ignored = checked.ignored ∧
      ∀ image ∈ shown.images, options.isFile (Path.join options.imageDir image.file) = true

theorem AuthoredRow.Sound.showsChecked {options : ValidationOptions} {first : Bool}
    {raw : AuthoredRow} (h : raw.Sound options first) (hcheck : options.checkImages = true)
    (row : Nat) : ShowsChecked options raw.stimulus (raw.cellsTrial row).stimulus := by
  obtain ⟨checked, hchecked, hfiles⟩ := h.stimulus
  obtain ⟨shown, hshown, hsame⟩ := Stimulus.exists_read_trim hchecked
  obtain ⟨himages, hposition, hignored⟩ := Stimulus.Shown.mk.inj hsame
  refine ⟨rfl, checked, shown, hchecked, hshown, himages, hposition, hignored, ?_⟩
  rw [himages]
  exact hfiles hcheck

namespace Page

/-! ### The images to load -/

theorem mem_insertSource {x y : String} {sources : List String} :
    y ∈ insertSource x sources ↔ y = x ∨ y ∈ sources := by
  induction sources with
  | nil => simp [insertSource]
  | cons z sources ih =>
    simp only [insertSource]
    split
    · exact List.mem_cons
    · split
      · rename_i heq
        simp [heq]
      · simp only [List.mem_cons, ih]
        exact or_left_comm

theorem mem_foldl_insertSource {y : String} {sources loaded : List String} :
    y ∈ sources.foldl (fun xs x => insertSource x xs) loaded ↔ y ∈ loaded ∨ y ∈ sources := by
  induction sources generalizing loaded with
  | nil => simp
  | cons x sources ih =>
    rw [List.foldl_cons, ih, mem_insertSource, List.mem_cons, or_comm (a := y = x), or_assoc]

/-! ### Building -/

/-- A trial of a page shows an instance as its stimulus reads. -/
def Pictures (base : String) (source : TrialInstance) (shown : Trial) : Prop :=
  shown.source = source ∧ ∃ s, Stimulus.read source.spec.stimulus = .ok s ∧
    shown.stimulusHtml = stimulusHtml base s ∧ shown.position = s.position

/-- An image that an instance shows is loaded under this name. -/
def LoadedFor (base : String) (source : TrialInstance) (name : String) : Prop :=
  ∃ s, Stimulus.read source.spec.stimulus = .ok s ∧
    ∃ image ∈ s.images, imageSource image base = name

theorem exists_trialOf (base : String) {source : TrialInstance} {s : Stimulus}
    (h : Stimulus.read source.spec.stimulus = .ok s) :
    ∃ built, trialOf base source = .ok built ∧ Pictures base source built.1 ∧
      ∀ name, name ∈ built.2 ↔ LoadedFor base source name := by
  refine ⟨(⟨source, stimulusHtml base s, s.position⟩, s.images.map (imageSource · base)),
    ?_, ⟨rfl, s, h, rfl, rfl⟩, ?_⟩
  · rw [trialOf, h]
    rfl
  · intro name
    rw [List.mem_map]
    constructor
    · exact fun hname => ⟨s, h, hname⟩
    · rintro ⟨other, hother, hname⟩
      obtain rfl := Except.ok.inj (h.symm.trans hother)
      exact hname

theorem exists_mapM_trialOf (base : String) {sequence : List TrialInstance}
    (h : ∀ source ∈ sequence, ∃ s, Stimulus.read source.spec.stimulus = .ok s) :
    ∃ built, sequence.mapM (trialOf base) = .ok built ∧
      List.Forall₂ (Pictures base) sequence (built.map (·.1)) ∧
      ∀ name, name ∈ built.flatMap (·.2) ↔ ∃ source ∈ sequence, LoadedFor base source name := by
  induction sequence with
  | nil => exact ⟨[], rfl, .nil, by simp⟩
  | cons source sequence ih =>
    rw [List.forall_mem_cons] at h
    obtain ⟨s, hread⟩ := h.1
    obtain ⟨first, hfirst, hpictures, hloaded⟩ := exists_trialOf base hread
    obtain ⟨built, hbuilt, hall, hnames⟩ := ih h.2
    refine ⟨first :: built, ?_, .cons hpictures hall, ?_⟩
    · rw [List.mapM_cons, hfirst, hbuilt]
      rfl
    · intro name
      simp only [List.flatMap_cons, List.mem_append, hloaded, hnames, List.exists_mem_cons_iff]

/-- A payload is built of every sequence whose stimuli can be read: it has one trial for each
    instance, in order, and the images of all of them. -/
theorem Payload.exists_build {sequence : List TrialInstance}
    (h : ∀ source ∈ sequence, ∃ s, Stimulus.read source.spec.stimulus = .ok s)
    (settings : Settings) :
    ∃ payload, Payload.build sequence settings = .ok payload ∧ payload.settings = settings ∧
      List.Forall₂ (Pictures settings.imageBase) sequence payload.trials ∧
      ∀ name, name ∈ payload.preload ↔
        ∃ source ∈ sequence, LoadedFor settings.imageBase source name := by
  obtain ⟨built, hbuilt, hall, hnames⟩ := exists_mapM_trialOf settings.imageBase h
  refine ⟨_, by rw [Payload.build, hbuilt]; rfl, rfl, hall, ?_⟩
  intro name
  rw [← hnames, mem_foldl_insertSource]
  simp

/-! ### Pages of checked images -/

/-- All images of a page are such: those in its markup, and those that it loads. -/
structure ShowsOnly (P : ImageRef → Prop) (p : Payload) : Prop where
  markup : ∀ trial ∈ p.trials, ∃ s, Stimulus.read trial.source.spec.stimulus = .ok s ∧
    trial.stimulusHtml = stimulusHtml p.settings.imageBase s ∧ ∀ image ∈ s.images, P image
  preload : ∀ name ∈ p.preload, ∃ image, imageSource image p.settings.imageBase = name ∧ P image

theorem ShowsOnly.imp {P Q : ImageRef → Prop} {p : Payload} (h : ShowsOnly P p)
    (hPQ : ∀ image, P image → Q image) : ShowsOnly Q p where
  markup := by
    intro trial htrial
    obtain ⟨s, hread, hmarkup, hfiles⟩ := h.markup trial htrial
    exact ⟨s, hread, hmarkup, fun image himage => hPQ image (hfiles image himage)⟩
  preload := by
    intro name hname
    obtain ⟨image, hsource, himage⟩ := h.preload name hname
    exact ⟨image, hsource, hPQ image himage⟩

theorem settings_of_build {trials : List TrialInstance} {settings : Settings} {payload : Payload}
    (h : Payload.build trials settings = .ok payload) : payload.settings = settings := by
  unfold Payload.build at h
  cases hbuilt : trials.mapM (trialOf settings.imageBase) with
  | error e => rw [hbuilt] at h; cases h
  | ok built =>
    rw [hbuilt] at h
    obtain rfl := Except.ok.inj h
    rfl

/-- A payload is built of trials whose images were checked, and it shows no others. -/
theorem exists_build_of_checked {options : ValidationOptions} (hcheck : options.checkImages = true)
    {rows : List AuthoredRow} {trials : List TrialInstance}
    (h : ∀ trial ∈ trials, ∃ i raw, Validation.Origin options rows i raw trial.spec)
    (settings : Settings) :
    ∃ payload, Payload.build trials settings = .ok payload ∧ payload.settings = settings ∧
      ShowsOnly (fun image => options.isFile (Path.join options.imageDir image.file) = true)
        payload := by
  have hshown : ∀ trial ∈ trials, ∃ s, Stimulus.read trial.spec.stimulus = .ok s ∧
      ∀ image ∈ s.images, options.isFile (Path.join options.imageDir image.file) = true := by
    intro trial htrial
    obtain ⟨i, raw, horigin⟩ := h trial htrial
    obtain ⟨_, _, shown, _, hread, _, _, _, hfiles⟩ := horigin.sound.showsChecked hcheck (i + 1)
    rw [← horigin.spec] at hread
    exact ⟨shown, hread, hfiles⟩
  have hread : ∀ trial ∈ trials, ∃ s, Stimulus.read trial.spec.stimulus = .ok s := by
    intro trial htrial
    obtain ⟨s, hs, _⟩ := hshown trial htrial
    exact ⟨s, hs⟩
  obtain ⟨payload, hbuild, hsettings, hpictures, hloaded⟩ := Payload.exists_build hread settings
  refine ⟨payload, hbuild, hsettings, ?_, ?_⟩
  · intro trial htrial
    obtain ⟨i, hi, rfl⟩ := List.getElem_of_mem htrial
    have hi' : i < trials.length := hpictures.length_eq ▸ hi
    obtain ⟨hsource, s, hs, hmarkup, _⟩ := hpictures.get hi' hi
    obtain ⟨s', hs', hfiles⟩ := hshown trials[i] (List.getElem_mem hi')
    obtain rfl := Except.ok.inj (hs.symm.trans hs')
    rw [List.get_eq_getElem] at hsource hmarkup
    rw [hsource, hsettings]
    exact ⟨s, hs, hmarkup, hfiles⟩
  · intro name hname
    obtain ⟨source, hsource, s, hs, image, himage, rfl⟩ := (hloaded name).mp hname
    obtain ⟨s', hs', hfiles⟩ := hshown source hsource
    obtain rfl := Except.ok.inj (hs.symm.trans hs')
    rw [hsettings]
    exact ⟨image, rfl, hfiles image himage⟩

/-! ### Pages of accepted rows -/

/-- **What was validated is what is shown.** If images were looked for, every trial of a
    sequence that was compiled from accepted rows shows what was checked in the cell of its row,
    and a page's payload is built of the sequence, under any settings. -/
theorem build_of_validate {γ : Type} {shuffle : TrialTable.Shuffle γ}
    (hshuffle : shuffle.Permutes) {options : ValidationOptions}
    (hcheck : options.checkImages = true) {rows : List AuthoredRow} {table : TrialTable}
    (hvalid : validate options rows = .ok table) {sequence : SequenceOptions} {g g' : γ}
    {trials : List TrialInstance}
    (hcompile : table.compileWith shuffle sequence g = .ok (trials, g')) (settings : Settings) :
    (∀ trial ∈ trials, ∃ i raw, rows[i]? = some raw ∧ raw.isBlank = false ∧
      trial.spec.row = i + 1 ∧ ShowsChecked options raw.stimulus trial.spec.stimulus) ∧
      ∃ payload, Payload.build trials settings = .ok payload ∧ payload.settings = settings ∧
        List.Forall₂ (Pictures settings.imageBase) trials payload.trials ∧
        ∀ name, name ∈ payload.preload ↔
          ∃ source ∈ trials, LoadedFor settings.imageBase source name := by
  have hshown : ∀ trial ∈ trials, ∃ i raw, rows[i]? = some raw ∧ raw.isBlank = false ∧
      trial.spec.row = i + 1 ∧ ShowsChecked options raw.stimulus trial.spec.stimulus := by
    intro trial htrial
    obtain ⟨i, raw, horigin⟩ := Validation.exists_origin hshuffle hvalid hcompile htrial
    rw [horigin.spec]
    exact ⟨i, raw, horigin.row, horigin.carries, rfl, horigin.sound.showsChecked hcheck (i + 1)⟩
  refine ⟨hshown, Payload.exists_build ?_ settings⟩
  intro trial htrial
  obtain ⟨_, _, _, _, _, _, _, shown, _, hread, _⟩ := hshown trial htrial
  exact ⟨shown, hread⟩

/-- A directive among wide blanks, with an option that is passed over, and the mark of another
    one that is never closed. -/
def blankEdgedRows : List AuthoredRow :=
  [.ofCells ["1", "", "\u3000 [image: cat.png (top-left, width = 20, glow)] or [image:dog.png \u00a0",
    "NA", "100"]]

def blankEdgedTable : TrialTable :=
  ⟨[⟨1, 1, [.timed 1 1 "[image: cat.png (top-left, width = 20, glow)] or [image:dog.png" 100]⟩]⟩

def blankEdgedTrials : List TrialInstance :=
  blankEdgedTable.specs.mapIdx fun i spec => ⟨spec, 1, .fixed 1, i⟩

/-- The options under which the one image of these rows is a file. -/
def oneImage : ValidationOptions := .standard (· == "images/cat.png")

theorem build_of_validate_blankEdgedRows :
    TrialTable.Shuffle.Permutes Random.shuffle ∧ oneImage.checkImages = true ∧
      validate oneImage blankEdgedRows = .ok blankEdgedTable ∧
      blankEdgedTable.compileWith Random.shuffle ⟨1, false⟩ (.cycle [1]) =
        .ok (blankEdgedTrials, .cycle [1]) ∧
      (∀ trial ∈ blankEdgedTrials, ∃ i raw, blankEdgedRows[i]? = some raw ∧
        raw.isBlank = false ∧ trial.spec.row = i + 1 ∧
        ShowsChecked oneImage raw.stimulus trial.spec.stimulus) ∧
      ∃ payload, Payload.build blankEdgedTrials .standard = .ok payload ∧
        payload.settings = .standard ∧
        List.Forall₂ (Pictures "images") blankEdgedTrials payload.trials ∧
        ∀ name, name ∈ payload.preload ↔
          ∃ source ∈ blankEdgedTrials, LoadedFor "images" source name := by
  have hvalid : validate oneImage blankEdgedRows = .ok blankEdgedTable := by rfl
  have hcompile : blankEdgedTable.compileWith Random.shuffle ⟨1, false⟩ (.cycle [1]) =
      .ok (blankEdgedTrials, .cycle [1]) := by rfl
  exact ⟨TrialTable.shuffle_permutes, rfl, hvalid, hcompile,
    build_of_validate TrialTable.shuffle_permutes rfl hvalid hcompile .standard⟩

end Page

end TimedTrials
