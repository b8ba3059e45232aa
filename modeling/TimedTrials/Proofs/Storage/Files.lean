/-
  TimedTrials/Proofs/Storage/Files.lean
  =====================================
  **Which files a tree holds, and that writing one changes no other.**

  Making directories changes no file (`sameFiles_makeDirectories`), and writing a file changes what
  the tree holds at one place alone (`fileAt?_write`). A name joined to a directory leads to a place
  directly below the place that the directory leads to (`exists_above_of_place_join`). So a file
  that is written into a directory made for it is a child of that directory, and the only file that
  is new or other than before (`oneFileWritten_of_write`).
-/
import TimedTrials.Proofs.Storage.Growth

namespace TimedTrials.Storage

variable {s s' s'' made : Storage} {place other above : List String} {dir name path : String}
  {content : ByteArray}

/-- The content of the file at a place. -/
def fileAt? (s : Storage) (place : List String) : Option ByteArray :=
  match s.nodeAt? place with
  | some (.file content _) => some content
  | _ => none

theorem fileAt?_congr (h : s'.nodeAt? place = s.nodeAt? place) :
    s'.fileAt? place = s.fileAt? place := by
  rw [fileAt?, fileAt?, h]

/-! ### Making directories -/

/-- Two trees hold the same files. -/
def SameFiles (s s' : Storage) : Prop := ∀ place, s'.fileAt? place = s.fileAt? place

theorem SameFiles.refl (s : Storage) : SameFiles s s := fun _ => rfl

theorem SameFiles.trans (h : SameFiles s s') (h' : SameFiles s' s'') : SameFiles s s'' :=
  fun place => (h' place).trans (h place)

theorem sameFiles_put_directory (h : s.nodeAt? place = none) :
    SameFiles s (s.put place .directory) := by
  intro other
  by_cases hother : other = place
  · subst hother
    rw [fileAt?, fileAt?, nodeAt?_put_self (by simp [h]), h]
  · exact fileAt?_congr (nodeAt?_put_of_ne hother _)

theorem sameFiles_makeDirectory (h : s.makeDirectory path = .ok s') : SameFiles s s' := by
  unfold makeDirectory at h
  cases hplace : s.place path with
  | error e => rw [hplace] at h; cases h
  | ok place =>
    rw [hplace] at h
    cases hnode : s.nodeAt? place with
    | some node => simp [bind, Except.bind, hnode] at h
    | none =>
      simp only [bind, Except.bind, hnode, Except.ok.injEq] at h
      exact h ▸ sameFiles_put_directory hnode

theorem sameFiles_makeNested {paths : List String} (h : s.makeNested paths = .ok s') :
    SameFiles s s' := by
  induction paths generalizing s' with
  | nil =>
    obtain rfl := Except.ok.inj h
    exact .refl s
  | cons path above ih =>
    obtain ⟨between, hbetween, hlast⟩ := makeNested_cases h
    have hkept : SameFiles s between := by
      rcases hbetween with rfl | habove
      · exact .refl between
      · exact ih habove
    rcases hlast with hmake | ⟨rfl, -⟩
    · exact hkept.trans (sameFiles_makeDirectory hmake)
    · exact hkept

/-- **No file changes when directories are made.** -/
theorem sameFiles_makeDirectories (h : s.makeDirectories path = .ok s') : SameFiles s s' := by
  unfold makeDirectories at h
  split at h
  · obtain rfl := Except.ok.inj h
    exact .refl s
  · exact sameFiles_makeNested h

/-! ### Writing -/

theorem fileAt?_put_file {executable : Bool} (h : s.nodeAt? place ≠ some .directory) :
    (s.put place (.file content executable)).fileAt? place = some content ∧
      ∀ other, other ≠ place →
        (s.put place (.file content executable)).fileAt? other = s.fileAt? other := by
  constructor
  · rw [fileAt?, nodeAt?_put_self h]
  · intro other hother
    exact fileAt?_congr (nodeAt?_put_of_ne hother _)

/-- **Writing changes the file at one place alone.** -/
theorem fileAt?_write (h : s.write path content = .ok s') (hplace : s.place path = .ok place) :
    s'.fileAt? place = some content ∧
      ∀ other, other ≠ place → s'.fileAt? other = s.fileAt? other := by
  obtain ⟨-, there, hthere, hput⟩ := write_eq_ok_iff.mp h
  obtain rfl := Except.ok.inj (hthere.symm.trans hplace)
  rcases hput with ⟨hnode, rfl⟩ | ⟨old, executable, hnode, rfl⟩
  · exact fileAt?_put_file (by simp [hnode])
  · exact fileAt?_put_file (by simp [hnode])

/-! ### Children of a directory -/

/-- Where the names of a path lead; the empty path leads to the working directory. -/
def LeadsTo (s : Storage) (path : String) (place : List String) : Prop :=
  s.follow (s.start path) (Path.names path) = .ok place

theorem start_join (h : Path.IsName name) (s : Storage) (dir : String) :
    s.start (Path.join dir name) = s.start dir ∧
      Path.names (Path.join dir name) = Path.names dir ++ [name] := by
  by_cases hdir : dir = ""
  · have hjoin : Path.join dir name = name := by rw [Path.join, hdir]; simp
    rw [hjoin, h.names_eq, start, start, h.isAbsolute_eq_false, hdir]
    exact ⟨rfl, rfl⟩
  · rw [start, start, Path.isAbsolute_join hdir h.isAbsolute_eq_false,
      Path.names_join hdir h.isAbsolute_eq_false, h.names_eq]
    exact ⟨rfl, rfl⟩

/-- **A name below a directory leads to a child of what the directory leads to.** -/
theorem exists_above_of_place_join (hname : Path.IsName name) (hhere : name ≠ ".")
    (habove : name ≠ "..") (h : s.place (Path.join dir name) = .ok place) :
    ∃ above, s.LeadsTo dir above ∧ s.nodeAt? above = some .directory ∧ place = above ++ [name] := by
  obtain ⟨hstart, hnames⟩ := start_join hname s dir
  obtain ⟨-, hfollow⟩ := place_eq_ok_iff.mp h
  rw [hstart, hnames, follow_append] at hfollow
  cases hdir : s.follow (s.start dir) (Path.names dir) with
  | error e => rw [hdir] at hfollow; cases hfollow
  | ok above =>
    rw [hdir] at hfollow
    have hlast : s.follow above [name] = .ok place := hfollow
    have hnode := directory_of_follow_cons hlast
    rw [follow_cons hnode, if_neg hhere, if_neg habove] at hlast
    split at hlast
    · cases hlast
    · exact ⟨above, hdir, hnode, (Except.ok.inj hlast).symm⟩

/-- One file of a directory was written. It is a child of the directory, it is read back under its
    path, no other file is new, gone or changed, and every directory is still there. -/
structure OneFileWritten (s s' : Storage) (dir name : String) (content : ByteArray) : Prop where
  workDir : s'.workDir = s.workDir
  child : ∃ above, s'.LeadsTo dir above ∧ s'.nodeAt? above = some .directory ∧
    s'.fileAt? (above ++ [name]) = some content ∧
    ∀ other, other ≠ above ++ [name] → s'.fileAt? other = s.fileAt? other
  directories : ∀ place, s.nodeAt? place = some .directory → s'.nodeAt? place = some .directory
  read : s'.read (Path.join dir name) = .ok content

theorem oneFileWritten_of_write (hname : Path.IsName name) (hhere : name ≠ ".")
    (habove : name ≠ "..") (hmake : s.makeDirectories dir = .ok made)
    (hwrite : made.write (Path.join dir name) content = .ok s') :
    OneFileWritten s s' dir name content := by
  have hmade : Grows [] s made := by
    by_cases hdir : dir = ""
    · rw [makeDirectories, hdir] at hmake
      obtain rfl := Except.ok.inj hmake
      exact .refl _ s
    · exact (makeDirectories_spec hdir hmake).1 []
  have hkept := sameFiles_makeDirectories hmake
  obtain ⟨place, hplace, hgrows, hread⟩ := write_spec hwrite
  obtain ⟨hfile, hothers⟩ := fileAt?_write hwrite hplace
  obtain ⟨above, hleads, hnode, rfl⟩ := exists_above_of_place_join hname hhere habove hplace
  refine ⟨hgrows.workDir.trans hmade.workDir, ⟨above, ?_, hgrows.directory _ hnode, hfile, ?_⟩, ?_,
    hread⟩
  · rw [LeadsTo, hgrows.start_eq]
    exact hgrows.follow hleads
  · intro other hother
    exact (hothers other hother).trans (hkept other)
  · intro place hplace
    exact hgrows.directory place (hmade.directory place hplace)

end TimedTrials.Storage
