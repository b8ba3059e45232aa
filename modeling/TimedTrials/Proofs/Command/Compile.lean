/-
  TimedTrials/Proofs/Command/Compile.lean
  =======================================
  **Writing the page of a table twice.**

  With a seed, the trials of a page are the same whenever it is written, so that two pages differ
  just when their image bases do. The base is looked up before the output directory is made. The
  second time the directory is there, and every source of an image leads from it to the file that
  was checked; the first time this is only so if the directory was there before
  (`compile_twice`). A sequence that there can be no room for stops both runs before anything is
  written.
-/
import TimedTrials.Proofs.Command.Preparing
import TimedTrials.Proofs.Command.Sources
import TimedTrials.Proofs.Page.Document
import TimedTrials.Proofs.Page.Payload
import TimedTrials.Proofs.Table.RoundTrip

namespace TimedTrials.Command

/-! ### Writing pages -/

def pagePath (out : String) : String := Path.join out Page.fileName

/-- A page can be written into a directory, which may have to be made. -/
structure HasRoom (s : Storage) (out : String) : Prop where
  named : out ≠ ""
  writable : ∃ made content after, s.makeDirectories out = .ok made ∧
    made.write (pagePath out) content = .ok after

/-- A tree after a page was written into a directory. -/
structure Written (s : Storage) (out : String) (content : ByteArray) (after : Storage) : Prop where
  grows : ∃ place, after.place (pagePath out) = .ok place ∧ s.Grows place after
  directory : after.isDirectory out = true
  read : after.read (pagePath out) = .ok content

variable {s s' : Storage} {around later : Surroundings} {t : TableChoice} {r : RunChoice}
  {out title : String} {browse : Bool} {lines lines' : List (Nat × String)}
  {content : ByteArray} {payload : Page.Payload} {prepared : Prepared} {file : TableFile}

theorem HasRoom.exists_write (h : HasRoom s out) (payload : Page.Payload) :
    ∃ after, Page.write s out payload = (pagePath out, .ok after) ∧
      Written s out (Page.document payload).toUTF8 after := by
  obtain ⟨made, content, _, hmade, hwrite⟩ := h.writable
  obtain ⟨after, hafter⟩ := Storage.exists_write_of_write hwrite (Page.document payload).toUTF8
  obtain ⟨hgrows, hdirectory⟩ := Storage.makeDirectories_spec h.named hmade
  obtain ⟨place, hplace, hgrowsWrite, hread⟩ := Storage.write_spec hafter
  refine ⟨after, ?_, ?_⟩
  · rw [Page.write, hmade]
    exact Prod.ext rfl hafter
  · exact ⟨⟨place, hgrowsWrite.place_eq hplace, (hgrows place).trans hgrowsWrite⟩,
      hgrowsWrite.isDirectory hdirectory, hread⟩

/-- A page that was written can be written again. -/
theorem Written.hasRoom (h : Written s out content s') (hnamed : out ≠ "") : HasRoom s' out := by
  obtain ⟨after, hafter⟩ := Storage.exists_write_of_read h.read content
  exact ⟨hnamed, s', content, after, Storage.makeDirectories_of_isDirectory h.directory, hafter⟩

/-- What a run leaves behind whose page could be written. -/
theorem storage_of_compile {q : Sequenced} {after : Storage}
    (hsequenced : sequenced around t r = .ok q)
    (hbuild : Page.Payload.build q.trials (pageSettings around.storage q.config r title) =
      .ok payload)
    (hwrite : Page.write around.storage r.out payload = (pagePath r.out, .ok after)) :
    (perform around lines (.compile t r title browse)).storage = after := by
  have hbegin : begin around (.compile t r title browse) =
      .done (performCompile around q r title browse) := by
    unfold begin
    simp only [hsequenced]
  unfold perform
  rw [hbegin, performCompile, hbuild]
  simp only [writePage, hwrite]
  cases browse with
  | false => rfl
  | true =>
    simp only [if_true]
    split <;> rfl

theorem perform_compile_of_stopped {stopped : Performed}
    (hsequenced : sequenced around t r = .error stopped) :
    perform around lines (.compile t r title browse) = stopped := by
  have hbegin : begin around (.compile t r title browse) = .done stopped := by
    unfold begin
    simp only [hsequenced]
  unfold perform
  rw [hbegin]

/-! ### Two runs -/

/-- What two runs of the same command write: each time the page of the same sequence, with the
    settings that the run finds. -/
structure CompiledTwice (around later : Surroundings) (t : TableChoice) (r : RunChoice)
    (title : String) (second : Storage) (q : Sequenced) (written rewritten : Page.Payload) :
    Prop where
  sequenced : sequenced around t r = .ok q
  build : Page.Payload.build q.trials (pageSettings around.storage q.config r title) = .ok written
  rebuild : Page.Payload.build q.trials (pageSettings later.storage q.config r title) =
    .ok rewritten
  write : Written around.storage r.out (Page.document written).toUTF8 later.storage
  rewrite : Written later.storage r.out (Page.document rewritten).toUTF8 second

theorem exists_compiledTwice (around later : Surroundings) (lines lines' : List (Nat × String))
    {n seed : Nat} {trials : List TrialInstance} {g : Random.Generator}
    (hprepared : PreparedFrom around.storage t (some r) prepared content file)
    (hseed : r.seed = some seed) (hconfig : prepared.config = configOf t n (some r))
    (hcompile : prepared.table.compile prepared.config.sequenceOptions (.ofSeed seed) =
      .ok (trials, g))
    (hbuilds : ∀ settings, ∃ payload, Page.Payload.build trials settings = .ok payload)
    (hroom : HasRoom around.storage r.out)
    (hlater : later.storage = (perform around lines (.compile t r title browse)).storage)
    (hapart : later.storage.place t.table ≠ later.storage.place (pagePath r.out)) :
    ∃ q written rewritten, q.trials = trials ∧ q.config = prepared.config ∧
      CompiledTwice around later t r title
        (perform later lines' (.compile t r title browse)).storage q written rewritten := by
  obtain ⟨written, hbuild⟩ := hbuilds (pageSettings around.storage prepared.config r title)
  obtain ⟨rewritten, hrebuild⟩ := hbuilds (pageSettings later.storage prepared.config r title)
  -- the first run
  obtain ⟨_, hprepare⟩ := hprepared.exists_prepare hprepared.read fun _ h => h
  obtain ⟨_, _, hsequenced⟩ := sequenced_eq_of_seed around hseed hconfig hcompile hprepare
  obtain ⟨after, hwrite, hwritten⟩ := hroom.exists_write written
  rw [storage_of_compile hsequenced hbuild hwrite] at hlater
  subst hlater
  -- the second run, on the tree that the first one has left
  obtain ⟨place, hplace, hgrows⟩ := hwritten.grows
  have htable : later.storage.read t.table = .ok content := by
    apply hgrows.read hprepared.read
    rwa [hplace] at hapart
  obtain ⟨_, hagain⟩ := hprepared.exists_prepare htable fun path => hgrows.isFile
  obtain ⟨_, _, hresequenced⟩ := sequenced_eq_of_seed later hseed hconfig hcompile hagain
  obtain ⟨_, hrewrite, hrewritten⟩ := (hwritten.hasRoom hroom.named).exists_write rewritten
  rw [← storage_of_compile hresequenced hrebuild hrewrite] at hrewritten
  exact ⟨_, written, rewritten, rfl, rfl, hsequenced, hbuild, hrebuild, hwritten, hrewritten⟩

section CompiledTwice

variable {second : Storage} {q : Sequenced} {written rewritten : Page.Payload}

theorem CompiledTwice.imageBase_eq
    (h : CompiledTwice around later t r title second q written rewritten) :
    written.settings.imageBase = imageBase around.storage q.config.imageDir r.out ∧
      rewritten.settings.imageBase = imageBase later.storage q.config.imageDir r.out := by
  rw [Page.settings_of_build h.build, Page.settings_of_build h.rebuild]
  exact ⟨rfl, rfl⟩

theorem CompiledTwice.eq_of_imageBase
    (h : CompiledTwice around later t r title second q written rewritten)
    (hbase : imageBase later.storage q.config.imageDir r.out =
      imageBase around.storage q.config.imageDir r.out) : rewritten = written := by
  have hsettings : pageSettings later.storage q.config r title =
      pageSettings around.storage q.config r title := by
    rw [pageSettings, pageSettings, hbase]
  have hbuild := h.rebuild
  rw [hsettings, h.build] at hbuild
  exact (Except.ok.inj hbuild).symm

/-- **The second page is the first one** just when they have the same image base. -/
theorem CompiledTwice.read_eq_iff
    (h : CompiledTwice around later t r title second q written rewritten) :
    second.read (pagePath r.out) = later.storage.read (pagePath r.out) ↔
      imageBase later.storage q.config.imageDir r.out =
        imageBase around.storage q.config.imageDir r.out := by
  rw [h.rewrite.read, h.write.read, Except.ok.injEq, String.toUTF8, String.toUTF8,
    String.toByteArray_inj]
  constructor
  · intro hdocument
    rw [← h.imageBase_eq.1, ← h.imageBase_eq.2]
    exact Page.imageBase_eq_of_document hdocument
  · exact fun hbase => congrArg Page.document (h.eq_of_imageBase hbase)

/-- Each run makes the tree grow, with the page at the same place. -/
theorem CompiledTwice.grows
    (h : CompiledTwice around later t r title second q written rewritten) :
    ∃ place, around.storage.Grows place later.storage ∧ later.storage.Grows place second := by
  obtain ⟨place, hplace, hfirst⟩ := h.write.grows
  obtain ⟨place', hplace', hsecond⟩ := h.rewrite.grows
  obtain rfl := Except.ok.inj ((hsecond.place_eq hplace).symm.trans hplace')
  exact ⟨place, hfirst, hsecond⟩

end CompiledTwice

/-- Two runs that an overflow stops, the one like the other, before they write anything. -/
structure StoppedTwice (around later : Surroundings) (first second : Performed) (o : Overflow) :
    Prop where
  first : ∃ reports, first = .stopped around.storage around.thread reports o
  second : ∃ reports, second = .stopped around.storage later.thread reports o

/-- The first run leaves the tree as it was, so that the second one finds the same. -/
theorem stoppedTwice_of_stopped {o : Overflow}
    (hprepared : PreparedFrom around.storage t (some r) prepared content file)
    (hstop : prepared.table.reserve prepared.config.repetitions = .error (.stopped o))
    (hlater : later.storage = (perform around lines (.compile t r title browse)).storage) :
    StoppedTwice around later (perform around lines (.compile t r title browse))
      (perform later lines' (.compile t r title browse)) o := by
  obtain ⟨_, hprepare⟩ := hprepared.exists_prepare hprepared.read fun _ h => h
  obtain ⟨reports, hsequenced⟩ := sequenced_eq_stopped around hstop hprepare
  have hfirst : perform around lines (.compile t r title browse) =
      .stopped around.storage around.thread reports o := perform_compile_of_stopped hsequenced
  have hsame : later.storage = around.storage := hlater.trans (congrArg (·.storage) hfirst)
  rw [← hsame] at hprepare
  obtain ⟨reports', hresequenced⟩ := sequenced_eq_stopped later hstop hprepare
  have hsecond : perform later lines' (.compile t r title browse) =
      .stopped later.storage later.thread reports' o := perform_compile_of_stopped hresequenced
  exact ⟨⟨reports, hfirst⟩, ⟨reports', hsame ▸ hsecond⟩⟩

/-- **Compiling twice.** Where the table is accepted, the image directory exists and the page can
    be written, two runs with the same seed write a page of the same sequence each, with the image
    base that they find, unless both are stopped because there can be no room for the sequence. The
    pages are the same just when the bases are, and they are if the output directory was there
    before. The second page shows checked images only, and each one whose file is relative by a
    source that leads from the output directory to the file that was checked. -/
theorem compile_twice (around later : Surroundings) (lines lines' : List (Nat × String))
    (hs : around.storage.Rooted)
    (hprepare : prepare around.storage t (some r) = .ok prepared) (hseed : r.seed.isSome = true)
    (himages : around.storage.isDirectory t.images = true) (hroom : HasRoom around.storage r.out)
    (hlater : later.storage = (perform around lines (.compile t r title browse)).storage)
    (hapart : later.storage.place t.table ≠ later.storage.place (pagePath r.out)) :
    let second := (perform later lines' (.compile t r title browse)).storage
    let before := imageBase around.storage t.images r.out
    let after := imageBase later.storage t.images r.out
    (∃ o, prepared.table.reserve prepared.config.repetitions = .error (.stopped o) ∧
        StoppedTwice around later (perform around lines (.compile t r title browse))
          (perform later lines' (.compile t r title browse)) o) ∨
      ∃ q written rewritten, CompiledTwice around later t r title second q written rewritten ∧
        (second.read (pagePath r.out) = later.storage.read (pagePath r.out) ↔ after = before) ∧
        (around.storage.resolve? r.out ≠ none → after = before ∧ rewritten = written) ∧
        (Plain around.storage t.images →
          Page.ShowsOnly (Leads around.storage second t.images r.out after) rewritten) := by
  intro second before after
  obtain ⟨seed, hseed⟩ := Option.isSome_iff_exists.mp hseed
  obtain ⟨content, file, hprepared⟩ := exists_preparedFrom hprepare
  obtain ⟨n, _, hconfig⟩ := hprepared.repetitions
  rcases hprepared.compile_cases (.ofSeed seed) with ⟨o, hstop⟩ | ⟨trials, g, hcompile, horigin⟩
  · exact .inl ⟨o, hstop, stoppedTwice_of_stopped hprepared hstop hlater⟩
  refine .inr ?_
  have hshows := Page.exists_build_of_checked rfl horigin
  have hbuilds : ∀ settings, ∃ payload, Page.Payload.build trials settings = .ok payload := by
    intro settings
    obtain ⟨payload, hbuild, _⟩ := hshows settings
    exact ⟨payload, hbuild⟩
  obtain ⟨q, written, rewritten, htrials, hqconfig, htwice⟩ : ∃ q written rewritten,
      q.trials = trials ∧ q.config = prepared.config ∧
        CompiledTwice around later t r title second q written rewritten :=
    exists_compiledTwice around later lines lines' hprepared hseed hconfig hcompile hbuilds hroom
      hlater hapart
  have himageDir : q.config.imageDir = t.images := by
    rw [hqconfig, hconfig]
    rfl
  have hiff := htwice.read_eq_iff
  have hsame := htwice.eq_of_imageBase
  rw [himageDir] at hiff hsame
  obtain ⟨place, hgrows, hgrowsAgain⟩ := htwice.grows
  refine ⟨q, written, rewritten, htwice, hiff, ?_, ?_⟩
  · intro hout
    have hbase := imageBase_of_grows hgrows (Storage.resolve?_ne_none_of_isDirectory himages) hout
    exact ⟨hbase, hsame hbase⟩
  · intro hplain
    obtain ⟨payload, hbuild, _, hchecked⟩ :=
      hshows (pageSettings later.storage q.config r title)
    rw [← htrials] at hbuild
    obtain rfl := Except.ok.inj (htwice.rebuild.symm.trans hbuild)
    -- both directories were there before the second run, which leaves the base as it was
    have hbase := imageBase_of_grows hgrowsAgain
      (Storage.resolve?_ne_none_of_isDirectory (hgrows.isDirectory himages))
      (Storage.resolve?_ne_none_of_isDirectory htwice.write.directory)
    apply hchecked.imp
    intro image hfile
    have hleads := leads_of_isFile (hgrows.trans hgrowsAgain) hs himages htwice.rewrite.directory
      hplain hfile
    rwa [hbase] at hleads

/-! ### An output directory that is missing -/

def imageRows : List AuthoredRow := [.ofCells ["1", "", "[image:a.png]", "NA", "100"]]

def imageTable : TrialTable := ⟨[⟨1, 1, [.timed 1 1 "[image:a.png]" 100]⟩]⟩

def imageTrials : List TrialInstance :=
  imageTable.specs.mapIdx fun i spec => ⟨spec, 1, .fixed 1, i⟩

def imageFile : ByteArray := (TableFile.write imageRows).toUTF8

/-- A working directory with a table and an image directory. -/
def imageTree : Storage where
  nodes := [(["w"], .directory), (["w", "t.csv"], .file imageFile false),
    (["w", "images"], .directory), (["w", "images", "a.png"], .file .empty false)]
  workDir := ["w"]

/-- The same with a page in an output directory. -/
def imageTreeWith (page : ByteArray) : Storage where
  nodes := (["w", "out", "experiment.html"], .file page false) :: (["w", "out"], .directory) ::
    imageTree.nodes
  workDir := ["w"]

def imageChoice : TableChoice := ⟨"t.csv", "1", "images"⟩

def imageRun : RunChoice :=
  { noRandomize := false
    seed := some 7
    saveEndpoint := none
    out := "out"
    feedbackMs := 1000
    keepKeysOpen := false }

/-- Surroundings with nothing but files. -/
def filesOnly (s : Storage) : Surroundings where
  storage := s
  environment := fun _ => none
  clock := ⟨0, 0⟩
  generator := .cycle [1]
  decodeFont := fun _ => none
  thread := 1

def imageConfig : RunConfig := configOf imageChoice 1 (some imageRun)

theorem rooted_imageTree : imageTree.Rooted := by
  constructor
  · constructor
    · intro name hname
      obtain rfl := List.mem_singleton.mp hname
      exact ⟨⟨by decide, by decide⟩, by decide, by decide, by decide⟩
    · intro n hn
      obtain rfl := Nat.lt_one_iff.mp hn
      rfl
  · rfl

def imagePrepared : Prepared := ⟨imageTable, imageConfig, []⟩

theorem preparedFrom_imageTree : PreparedFrom imageTree imageChoice (some imageRun) imagePrepared
    imageFile ⟨.v2, imageRows⟩ where
  read := rfl
  rows := TableFile.read_encode_write imageRows
  repetitions := ⟨1, rfl, rfl⟩
  valid := by
    have hvalid : TimedTrials.validate (.standard (· == "images/a.png")) imageRows =
        .ok imageTable := by rfl
    have hmore : ValidationOptions.FindsMore (.standard (· == "images/a.png"))
        ⟨"images", true, imageTree.isFile⟩ := by
      refine ⟨rfl, rfl, ?_⟩
      intro path hpath
      obtain rfl := eq_of_beq hpath
      rfl
    exact validate_of_findsMore hmore hvalid

theorem exists_prepare_imageTree : ∃ log,
    prepare imageTree imageChoice (some imageRun) = .ok { imagePrepared with log := log } :=
  preparedFrom_imageTree.exists_prepare rfl fun _ h => h

theorem compile_imageTable : imagePrepared.table.compile imagePrepared.config.sequenceOptions
    (.ofSeed 7) = .ok (imageTrials, .ofSeed 7) := rfl

theorem hasRoom_imageTree : HasRoom imageTree "out" := ⟨by decide, _, .empty, _, rfl, rfl⟩

theorem exists_build_imageTrials (settings : Page.Settings) :
    ∃ payload, Page.Payload.build imageTrials settings = .ok payload := ⟨_, rfl⟩

theorem preload_imageTrials {settings : Page.Settings} {payload : Page.Payload}
    (h : Page.Payload.build imageTrials settings = .ok payload) :
    payload.preload = [Page.imageSource ⟨"a.png", none, none⟩ payload.settings.imageBase] := by
  obtain rfl := Except.ok.inj h
  rfl

theorem write_imageTree (page : ByteArray) :
    ((imageTree.makeDirectories "out").bind fun s => s.write (pagePath "out") page) =
      .ok (imageTreeWith page) := rfl

theorem exists_imageTreeWith : ∃ page,
    (perform (filesOnly imageTree) [] (.compile imageChoice imageRun "Images" false)).storage =
      imageTreeWith page := by
  obtain ⟨_, hprepare⟩ := exists_prepare_imageTree
  obtain ⟨_, _, hsequenced⟩ :=
    sequenced_eq_of_seed (filesOnly imageTree) rfl rfl compile_imageTable hprepare
  obtain ⟨payload, hbuild⟩ :=
    exists_build_imageTrials (pageSettings imageTree imageConfig imageRun "Images")
  have hwrite : Page.write imageTree "out" payload =
      (pagePath "out", .ok (imageTreeWith (Page.document payload).toUTF8)) :=
    Prod.ext rfl (write_imageTree _)
  exact ⟨(Page.document payload).toUTF8, storage_of_compile hsequenced hbuild hwrite⟩

theorem imageBase_imageTree : imageBase imageTree "images" "out" = "images" := by
  have himages : imageTree.resolve? "images" = some ["w", "images"] := rfl
  have hout : imageTree.resolve? "out" = none := rfl
  rw [imageBase, himages, hout]
  decide

theorem exists_first : ∃ first : Storage,
    first = (perform (filesOnly imageTree) []
      (.compile imageChoice imageRun "Images" false)).storage ∧
      first.place "t.csv" ≠ first.place (pagePath "out") ∧
      imageBase first "images" "out" = "../images" ∧
      first.resolve? (Path.join "out" "images/a.png") = none := by
  obtain ⟨page, hfirst⟩ := exists_imageTreeWith
  have htable : (imageTreeWith page).place "t.csv" = .ok ["w", "t.csv"] := rfl
  have hpath : (imageTreeWith page).place (pagePath "out") =
      .ok ["w", "out", "experiment.html"] := rfl
  have himages : (imageTreeWith page).resolve? "images" = some ["w", "images"] := rfl
  have hout : (imageTreeWith page).resolve? "out" = some ["w", "out"] := rfl
  refine ⟨imageTreeWith page, hfirst.symm, ?_, ?_, rfl⟩
  · rw [htable, hpath]
    simp
  · rw [imageBase_eq himages hout (by decide)]
    decide

theorem plain_imageTree : Plain imageTree "images" := by
  intro place hplace
  have himages : imageTree.resolve? "images" = some ["w", "images"] := rfl
  obtain rfl := Option.some.inj (himages.symm.trans hplace)
  decide

theorem compile_twice_missingOut : ∃ first second : Storage,
    first = (perform (filesOnly imageTree) []
      (.compile imageChoice imageRun "Images" false)).storage ∧
      second = (perform (filesOnly first) []
        (.compile imageChoice imageRun "Images" false)).storage ∧
      imageTree.Rooted ∧
      (∃ prepared, prepare imageTree imageChoice (some imageRun) = .ok prepared) ∧
      imageRun.seed.isSome = true ∧ imageTree.isDirectory "images" = true ∧
      HasRoom imageTree "out" ∧ first.place "t.csv" ≠ first.place (pagePath "out") ∧
      ∃ q written rewritten, CompiledTwice (filesOnly imageTree) (filesOnly first) imageChoice
          imageRun "Images" second q written rewritten ∧
        second.read (pagePath "out") ≠ first.read (pagePath "out") ∧
        Page.ShowsOnly (Leads imageTree second "images" "out" "../images") rewritten := by
  obtain ⟨first, hlater, hapart, hbase, _⟩ := exists_first
  obtain ⟨_, hprepare⟩ := exists_prepare_imageTree
  have hroom : imageTable.reserve imageConfig.repetitions = .ok 1 := rfl
  rcases compile_twice (filesOnly imageTree) (filesOnly first) [] [] rooted_imageTree hprepare rfl
    rfl hasRoom_imageTree hlater hapart with
    ⟨_, hstop, _⟩ | ⟨q, written, rewritten, htwice, hiff, -, hshows⟩
  · cases hroom.symm.trans hstop
  have hdiffer : imageBase first "images" "out" ≠ imageBase imageTree "images" "out" := by
    rw [hbase, imageBase_imageTree]
    decide
  refine ⟨first, _, hlater, rfl, rooted_imageTree, ⟨_, hprepare⟩, rfl, rfl, hasRoom_imageTree,
    hapart, q, written, rewritten, htwice, ?_, hbase ▸ hshows plain_imageTree⟩
  intro hsame
  exact hdiffer (hiff.mp hsame)

/-- **The first page misses its image when the output directory is missing.** The image is there
    when the table is checked, and the first page loads it from a place where nothing is; the
    second page is another one. -/
theorem first_page_misses_image : ∃ first second : Storage,
    first = (perform (filesOnly imageTree) []
      (.compile imageChoice imageRun "Images" false)).storage ∧
      second = (perform (filesOnly first) []
        (.compile imageChoice imageRun "Images" false)).storage ∧
      ∃ written rewritten : Page.Payload,
        first.read (pagePath "out") = .ok (Page.document written).toUTF8 ∧
          second.read (pagePath "out") = .ok (Page.document rewritten).toUTF8 ∧
          second.read (pagePath "out") ≠ first.read (pagePath "out") ∧
          imageTree.isFile (Path.join "images" "a.png") = true ∧
          written.preload = ["images/a.png"] ∧ rewritten.preload = ["../images/a.png"] ∧
          first.resolve? (Path.join "out" "images/a.png") = none := by
  obtain ⟨first, hlater, hapart, hbase, hmissing⟩ := exists_first
  obtain ⟨q, written, rewritten, htrials, hconfig, htwice⟩ :=
    exists_compiledTwice (filesOnly imageTree) (filesOnly first) [] [] preparedFrom_imageTree rfl
      rfl compile_imageTable exists_build_imageTrials hasRoom_imageTree hlater hapart
  have hiff := htwice.read_eq_iff
  obtain ⟨hbefore, hafter⟩ := htwice.imageBase_eq
  rw [hconfig] at hiff hbefore hafter
  have hbefore : written.settings.imageBase = "images" := hbefore.trans imageBase_imageTree
  have hafter : rewritten.settings.imageBase = "../images" := hafter.trans hbase
  have hloaded := preload_imageTrials (htrials ▸ htwice.build)
  have hreloaded := preload_imageTrials (htrials ▸ htwice.rebuild)
  rw [hbefore] at hloaded
  rw [hafter] at hreloaded
  refine ⟨first, _, hlater, rfl, written, rewritten, htwice.write.read, htwice.rewrite.read, ?_,
    rfl, hloaded, hreloaded, hmissing⟩
  intro hsame
  have hbases : "../images" = "images" :=
    hbase.symm.trans ((hiff.mp hsame).trans imageBase_imageTree)
  exact absurd hbases (by decide)

end TimedTrials.Command
