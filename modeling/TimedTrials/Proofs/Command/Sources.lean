/-
  TimedTrials/Proofs/Command/Sources.lean
  =======================================
  **Where the sources of images lead.**

  A page refers to its images below a base, and the base is the way from the output directory to
  the image directory when both exist. Taken from the output directory, the source of an image is
  then another path to the file in the image directory (`resolve?_imageSource`).

  A backslash in a base is turned into a slash, so this is about image directories at whose
  place no name has one (`Plain`).
-/
import TimedTrials.Command.Perform
import TimedTrials.Proofs.Storage.Growth

namespace TimedTrials.Command

/-- A path whose place has no name with a backslash. -/
def Plain (s : Storage) (path : String) : Prop :=
  ∀ place, s.resolve? path = some place → ∀ name ∈ place, '\\' ∉ name.toList

variable {s : Storage} {images out : String} {target base : List String} {image : ImageRef}

theorem imageBase_eq (himages : s.resolve? images = some target) (hout : s.resolve? out = some base)
    (hplain : ∀ name ∈ target, '\\' ∉ name.toList) :
    imageBase s images out = "/".intercalate (Path.relative target base) := by
  simp only [imageBase, himages, hout]
  rw [← String.toList_inj, String.toList_ofList]
  refine (List.map_congr_left ?_).trans (List.map_id _)
  intro c hc
  rw [if_neg, id]
  rintro rfl
  rcases Path.mem_intercalate hc with hslash | ⟨name, hname, hc⟩
  · cases hslash
  · rw [Path.relative, List.mem_append] at hname
    rcases hname with hup | hdown
    · rw [List.eq_of_mem_replicate hup] at hc
      exact absurd hc (by decide)
    · exact hplain name (List.mem_of_mem_drop hdown) hc

theorem imageBase_of_grows {s' : Storage} {changed : List String} (hgrows : s.Grows changed s')
    (himages : s.resolve? images ≠ none) (hout : s.resolve? out ≠ none) :
    imageBase s' images out = imageBase s images out := by
  obtain ⟨target, htarget⟩ := Option.ne_none_iff_exists'.mp himages
  obtain ⟨base, hbase⟩ := Option.ne_none_iff_exists'.mp hout
  rw [imageBase, imageBase, htarget, hbase, hgrows.resolve?_eq htarget, hgrows.resolve?_eq hbase]

/-- **From the output directory, the source of an image leads to its file in the image
    directory.** -/
theorem resolve?_imageSource (hs : s.Rooted) (himages : s.isDirectory images = true)
    (hout : s.isDirectory out = true) (hplain : Plain s images)
    (hrelative : Path.isAbsolute image.file = false) (hsome : image.file ≠ "") :
    s.resolve? (Path.join out (Page.imageSource image (imageBase s images out))) =
      s.resolve? (Path.join images image.file) := by
  obtain ⟨target, htarget, htargetDir⟩ := Storage.isDirectory_iff.mp himages
  obtain ⟨base, hbase, hbaseDir⟩ := Storage.isDirectory_iff.mp hout
  have hfound := Storage.resolve?_of_directory htarget htargetDir
  have hnames : ∀ name ∈ target, Path.IsName name :=
    fun name hname => ((hs.reached_place htarget).names name hname).isName
  rw [imageBase_eq hfound (Storage.resolve?_of_directory hbase hbaseDir) (hplain target hfound)]
  have hway : ∀ name ∈ Path.relative target base, Path.IsName name :=
    fun name hname => Path.isName_of_mem_relative hnames hname
  obtain ⟨hbaseRelative, hbaseEnd⟩ := Path.slashes_intercalate hway
  obtain ⟨hsourceRelative, hsourceEnd, hsourceSome⟩ :=
    Page.slashes_imageSource hbaseEnd hbaseRelative hrelative hsome
  obtain ⟨himagesCheck, himagesFollow⟩ := Storage.place_eq_ok_iff.mp htarget
  obtain ⟨houtCheck, houtFollow⟩ := Storage.place_eq_ok_iff.mp hbase
  have himagesSome := Storage.ne_empty_of_checkPath himagesCheck
  have houtSome := Storage.ne_empty_of_checkPath houtCheck
  apply Storage.resolve?_congr
  · exact Path.join_ne_empty houtSome hsourceRelative
  · exact Path.join_ne_empty himagesSome hrelative
  · -- both ways go through the image directory and on along the names of the file
    rw [Storage.start, Path.isAbsolute_join houtSome hsourceRelative, ← Storage.start,
      Path.names_join houtSome hsourceRelative, Page.names_imageSource hbaseEnd,
      Path.names_intercalate hway, Storage.follow_append, houtFollow]
    rw [Storage.start, Path.isAbsolute_join himagesSome hrelative, ← Storage.start,
      Path.names_join himagesSome hrelative, Storage.follow_append, himagesFollow]
    exact Storage.follow_relative (hs.reached_place hbase) hbaseDir (hs.reached_place htarget) _
  · rw [Path.endsInSlash_join houtSome hsourceRelative hsourceSome, hsourceEnd,
      Path.endsInSlash_join himagesSome hrelative hsome]

/-! ### Images that were checked -/

/-- An image was found in the image directory, and if its file is relative, its source leads to
    that file from the output directory. -/
structure Leads (checked s : Storage) (images out base : String) (image : ImageRef) : Prop where
  found : checked.isFile (Path.join images image.file) = true
  source : Path.isAbsolute image.file = false → ∃ place,
    checked.resolve? (Path.join images image.file) = some place ∧
      s.resolve? (Path.join out (Page.imageSource image base)) = some place

/-- Without a name, an image is looked for as a directory. -/
theorem file_ne_empty (himages : images ≠ "")
    (h : s.isFile (Path.join images image.file) = true) : image.file ≠ "" := by
  intro hempty
  obtain ⟨_, _, _, _, _, hslash⟩ := Storage.isFile_iff.mp h
  rw [hempty, Path.join_eq himages rfl, String.append_empty, String.append_empty] at hslash
  split at hslash
  · rename_i hdir
    cases hslash.symm.trans hdir
  · rw [Path.endsInSlash_append (by decide)] at hslash
    cases hslash

/-- In a tree that has grown, with the output directory in it, checked images are led to. -/
theorem leads_of_isFile {s' : Storage} {changed : List String} (hgrows : s.Grows changed s')
    (hs : s.Rooted) (himages : s.isDirectory images = true) (hout : s'.isDirectory out = true)
    (hplain : Plain s images) (hfile : s.isFile (Path.join images image.file) = true) :
    Leads s s' images out (imageBase s' images out) image := by
  refine ⟨hfile, ?_⟩
  intro hrelative
  obtain ⟨target, htarget, htargetDir⟩ := Storage.isDirectory_iff.mp himages
  have hfound := Storage.resolve?_of_directory htarget htargetDir
  have hplain' : Plain s' images := by
    intro place hplace
    obtain rfl := Option.some.inj ((hgrows.resolve?_eq hfound).symm.trans hplace)
    exact hplain target hfound
  have hsome : image.file ≠ "" :=
    file_ne_empty (Storage.ne_empty_of_checkPath (Storage.place_eq_ok_iff.mp htarget).1) hfile
  obtain ⟨place, hplace⟩ := Storage.exists_resolve?_of_isFile hfile
  refine ⟨place, hplace, ?_⟩
  rw [resolve?_imageSource (hgrows.rooted hs) (hgrows.isDirectory himages) hout hplain' hrelative
    hsome]
  exact hgrows.resolve?_eq hplace

end TimedTrials.Command
