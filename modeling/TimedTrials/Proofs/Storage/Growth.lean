/-
  TimedTrials/Proofs/Storage/Growth.lean
  ======================================
  **What is kept when directories are made and a file is written.**

  Making directories only adds to a tree, and writing a file changes what stands at one place at
  most (`Grows`). A way that could be gone before then still leads to the same place, so that a
  path keeps naming a file or a directory, and a file elsewhere keeps its content. The directory
  that was asked for is there afterwards (`makeDirectories_spec`), and a file that was written is
  read back and can be written again (`write_spec`, `exists_write_of_read`).
-/
import TimedTrials.Proofs.Storage.Following

namespace TimedTrials.Storage

variable {s s' s'' : Storage} {place other changed : List String} {path : String}
  {content : ByteArray}

/-! ### Growing trees -/

/-- All that was in a tree is still there, with its kind, and only a file at one place may hold
    something else. -/
structure Grows (changed : List String) (s s' : Storage) : Prop where
  workDir : s'.workDir = s.workDir
  directory : ∀ place, s.nodeAt? place = some .directory → s'.nodeAt? place = some .directory
  file : ∀ place content executable, s.nodeAt? place = some (.file content executable) →
    ∃ content', s'.nodeAt? place = some (.file content' executable) ∧
      (place ≠ changed → content' = content)

theorem Grows.refl (changed : List String) (s : Storage) : Grows changed s s where
  workDir := rfl
  directory _ h := h
  file _ content _ h := ⟨content, h, fun _ => rfl⟩

theorem Grows.trans (h : Grows changed s s') (h' : Grows changed s' s'') :
    Grows changed s s'' where
  workDir := h'.workDir.trans h.workDir
  directory place hplace := h'.directory place (h.directory place hplace)
  file := by
    intro place content executable hplace
    obtain ⟨between, hbetween, hkept⟩ := h.file place content executable hplace
    obtain ⟨content', hcontent', hkept'⟩ := h'.file place between executable hbetween
    refine ⟨content', hcontent', ?_⟩
    intro hne
    exact (hkept' hne).trans (hkept hne)

theorem Grows.follow (h : Grows changed s s') {names : List String} {last : List String}
    (hfollow : s.follow place names = .ok last) : s'.follow place names = .ok last := by
  induction names generalizing place with
  | nil => exact hfollow
  | cons name names ih =>
    have hplace := directory_of_follow_cons hfollow
    rw [follow_cons hplace] at hfollow
    rw [follow_cons (h.directory place hplace)]
    split_ifs at hfollow ⊢ <;> exact ih hfollow

theorem Grows.start_eq (h : Grows changed s s') (path : String) : s'.start path = s.start path := by
  rw [start, start, h.workDir]

theorem Grows.place_eq (h : Grows changed s s') (hplace : s.place path = .ok place) :
    s'.place path = .ok place := by
  obtain ⟨hcheck, hfollow⟩ := place_eq_ok_iff.mp hplace
  rw [place_eq_ok_iff, h.start_eq]
  exact ⟨hcheck, h.follow hfollow⟩

theorem Grows.isDirectory (h : Grows changed s s') (hpath : s.isDirectory path = true) :
    s'.isDirectory path = true := by
  obtain ⟨place, hplace, hnode⟩ := isDirectory_iff.mp hpath
  exact isDirectory_iff.mpr ⟨place, h.place_eq hplace, h.directory place hnode⟩

theorem Grows.isFile (h : Grows changed s s') (hpath : s.isFile path = true) :
    s'.isFile path = true := by
  obtain ⟨place, content, executable, hplace, hnode, hslash⟩ := isFile_iff.mp hpath
  obtain ⟨content', hnode', _⟩ := h.file place content executable hnode
  exact isFile_iff.mpr ⟨place, content', executable, h.place_eq hplace, hnode', hslash⟩

theorem Grows.resolve?_eq (h : Grows changed s s') (hpath : s.resolve? path = some place) :
    s'.resolve? path = some place := by
  obtain ⟨hsome, hfollow, node, hnode, hslash⟩ := resolve?_eq_some_iff.mp hpath
  rw [resolve?_eq_some_iff, h.start_eq]
  refine ⟨hsome, h.follow hfollow, ?_⟩
  cases node with
  | directory => exact ⟨.directory, h.directory place hnode, Or.inl rfl⟩
  | file content executable =>
    obtain ⟨content', hnode', _⟩ := h.file place content executable hnode
    rcases hslash with hdir | hslash
    · cases hdir
    · exact ⟨_, hnode', Or.inr hslash⟩

theorem Grows.reached (h : Grows changed s s') (hplace : s.Reached place) : s'.Reached place where
  names := hplace.names
  above n hn := h.directory _ (hplace.above n hn)

theorem Grows.rooted (h : Grows changed s s') (hs : s.Rooted) : s'.Rooted where
  reached := h.workDir ▸ h.reached hs.reached
  directory := h.workDir ▸ h.directory _ hs.directory

/-- A file elsewhere keeps its content. -/
theorem Grows.read (h : Grows changed s s') (hread : s.read path = .ok content)
    (helse : s'.place path ≠ .ok changed) : s'.read path = .ok content := by
  obtain ⟨place, executable, hplace, hnode, hslash⟩ := read_eq_ok_iff.mp hread
  obtain ⟨content', hnode', hkept⟩ := h.file place content executable hnode
  have hplace' := h.place_eq hplace
  have hne : place ≠ changed := by
    rintro rfl
    exact helse hplace'
  obtain rfl := hkept hne
  exact read_eq_ok_iff.mpr ⟨place, executable, hplace', hnode', hslash⟩

/-! ### Putting nodes -/

/-- A node is found where it was put, and that is not at the root, which is a directory. -/
theorem nodeAt?_put_self (h : s.nodeAt? place ≠ some .directory) (node : Node) :
    (s.put place node).nodeAt? place = some node := by
  have hsome : place.isEmpty = false := by
    cases place with
    | nil => exact absurd (nodeAt?_nil s) h
    | cons name rest => rfl
  simp [nodeAt?, put, hsome]

theorem lookup_filter_ne {nodes : List (List String × Node)} (h : other ≠ place) :
    (nodes.filter (·.1 != place)).lookup other = nodes.lookup other := by
  induction nodes with
  | nil => rfl
  | cons first rest ih =>
    obtain ⟨there, node⟩ := first
    by_cases hthere : there = place
    · subst hthere
      have hne : (other == there) = false := beq_eq_false_iff_ne.mpr h
      simp [List.lookup_cons, hne, ih]
    · simp [List.lookup_cons, hthere, ih]

theorem nodeAt?_put_of_ne (h : other ≠ place) (node : Node) :
    (s.put place node).nodeAt? other = s.nodeAt? other := by
  have hne : (other == place) = false := by simpa using h
  simp [nodeAt?, put, List.lookup_cons, hne, lookup_filter_ne h]

theorem grows_put_new (h : s.nodeAt? place = none) (node : Node) (changed : List String) :
    Grows changed s (s.put place node) where
  workDir := rfl
  directory := by
    intro other hother
    rwa [nodeAt?_put_of_ne]
    rintro rfl
    cases h.symm.trans hother
  file := by
    intro other content executable hother
    refine ⟨content, ?_, fun _ => rfl⟩
    rwa [nodeAt?_put_of_ne]
    rintro rfl
    cases h.symm.trans hother

theorem grows_put_file {executable : Bool} (h : s.nodeAt? place = some (.file content executable))
    (new : ByteArray) : Grows place s (s.put place (.file new executable)) where
  workDir := rfl
  directory := by
    intro other hother
    rwa [nodeAt?_put_of_ne]
    rintro rfl
    cases h.symm.trans hother
  file := by
    intro other old executable' hother
    by_cases hsame : other = place
    · subst hsame
      obtain ⟨-, rfl⟩ := Node.file.inj (Option.some.inj (h.symm.trans hother))
      exact ⟨new, nodeAt?_put_self (by simp [h]) _, fun hne => absurd rfl hne⟩
    · exact ⟨old, by rwa [nodeAt?_put_of_ne hsame], fun _ => rfl⟩

/-! ### Making directories -/

theorem makeDirectory_spec (h : s.makeDirectory path = .ok s') :
    (∀ changed, Grows changed s s') ∧ s'.isDirectory path = true := by
  unfold makeDirectory at h
  cases hplace : s.place path with
  | error e => rw [hplace] at h; cases h
  | ok place =>
    rw [hplace] at h
    cases hnode : s.nodeAt? place with
    | some node => simp [bind, Except.bind, hnode] at h
    | none =>
      simp only [bind, Except.bind, hnode, Except.ok.injEq] at h
      subst h
      have hgrows := grows_put_new hnode .directory
      exact ⟨hgrows, isDirectory_iff.mpr
        ⟨place, (hgrows []).place_eq hplace, nodeAt?_put_self (by simp [hnode]) _⟩⟩

theorem makeNested_of_isDirectory (h : s.isDirectory path = true) (above : List String) :
    s.makeNested (path :: above) = .ok s := by
  obtain ⟨place, hplace, hnode⟩ := isDirectory_iff.mp h
  have hmake : s.makeDirectory path = .error .alreadyExists := by
    simp [makeDirectory, hplace, bind, Except.bind, hnode]
  rw [makeNested, hmake]
  simp only [h, if_true]

/-- How a directory comes to be there: it is made, or was there already, in the tree as it is or
    after the directories above it have been made. -/
theorem makeNested_cases {above : List String} (h : s.makeNested (path :: above) = .ok s') :
    ∃ between, (between = s ∨ s.makeNested above = .ok between) ∧
      (between.makeDirectory path = .ok s' ∨ s' = between ∧ between.isDirectory path = true) := by
  rw [makeNested] at h
  split at h
  · rename_i made hmake
    obtain rfl := Except.ok.inj h
    exact ⟨s, .inl rfl, .inl hmake⟩
  · -- the directory above is missing, and is made first
    cases habove : s.makeNested above with
    | error e => rw [habove] at h; cases h
    | ok between =>
      simp only [habove, bind, Except.bind] at h
      refine ⟨between, .inr rfl, ?_⟩
      split at h
      · rename_i made hmake
        obtain rfl := Except.ok.inj h
        exact .inl hmake
      · split at h
        · rename_i hdir
          exact .inr ⟨(Except.ok.inj h).symm, hdir⟩
        · cases h
  · split at h
    · rename_i hdir
      exact ⟨s, .inl rfl, .inr ⟨(Except.ok.inj h).symm, hdir⟩⟩
    · cases h

theorem makeNested_spec {paths : List String} (h : s.makeNested paths = .ok s') :
    (∀ changed, Grows changed s s') ∧ ∀ path ∈ paths.head?, s'.isDirectory path = true := by
  induction paths generalizing s' with
  | nil =>
    obtain rfl := Except.ok.inj h
    refine ⟨fun changed => .refl changed s, ?_⟩
    intro path hpath
    cases hpath
  | cons path above ih =>
    simp only [List.head?_cons, Option.mem_some_iff, forall_eq']
    obtain ⟨between, hbetween, hlast⟩ := makeNested_cases h
    have hgrows : ∀ changed, Grows changed s between := by
      rcases hbetween with rfl | habove
      · exact fun changed => .refl changed between
      · exact (ih habove).1
    rcases hlast with hmake | ⟨rfl, hdir⟩
    · obtain ⟨hmade, hdir⟩ := makeDirectory_spec hmake
      exact ⟨fun changed => (hgrows changed).trans (hmade changed), hdir⟩
    · exact ⟨hgrows, hdir⟩

/-- **Making directories only adds to a tree**, and the one that was asked for is there. -/
theorem makeDirectories_spec (hpath : path ≠ "") (h : s.makeDirectories path = .ok s') :
    (∀ changed, Grows changed s s') ∧ s'.isDirectory path = true := by
  rw [makeDirectories, if_neg (by simpa using hpath)] at h
  obtain ⟨hgrows, hdir⟩ := makeNested_spec h
  exact ⟨hgrows, hdir path rfl⟩

theorem makeDirectories_of_isDirectory (h : s.isDirectory path = true) :
    s.makeDirectories path = .ok s := by
  unfold makeDirectories
  split
  · rfl
  · exact makeNested_of_isDirectory h _

/-! ### Writing -/

/-- How a file is written: at the place of its path, where a file or nothing is. -/
theorem write_eq_ok_iff : s.write path content = .ok s' ↔
    Path.endsInSlash path = false ∧ ∃ place, s.place path = .ok place ∧
      ((s.nodeAt? place = none ∧ s' = s.put place (.file content false)) ∨
        ∃ old executable, s.nodeAt? place = some (.file old executable) ∧
          s' = s.put place (.file content executable)) := by
  unfold write
  cases hslash : Path.endsInSlash path with
  | true =>
    -- no file is written with a slash behind its name, whatever is found on the way
    simp only [if_true, Bool.true_eq_false, false_and, iff_false]
    intro h
    cases hcheck : checkPath path with
    | error e => rw [hcheck] at h; cases h
    | ok u =>
      cases hfollow : s.follow (s.start path) (Path.names path).dropLast with
      | error e => simp [hcheck, hfollow, bind, Except.bind] at h
      | ok above =>
        cases habove : s.checkDirectory above <;>
          simp [hcheck, hfollow, habove, bind, Except.bind] at h
  | false =>
    cases hcheck : checkPath path with
    | error e =>
      have hplace : s.place path = .error e := by simp [Storage.place, hcheck, bind, Except.bind]
      simp [hplace, bind, Except.bind]
    | ok u =>
      cases hplace : s.place path with
      | error e => simp [bind, Except.bind]
      | ok place =>
        simp only [bind, Except.bind, Bool.false_eq_true, if_false, Except.ok.injEq, true_and,
          exists_eq_left']
        cases s.nodeAt? place with
        | none => simp [eq_comm]
        | some node =>
          cases node with
          | directory => simp
          | file old executable =>
            simp only [Except.ok.injEq, reduceCtorEq, false_and, false_or, Option.some.injEq,
              Node.file.injEq]
            constructor
            · rintro rfl
              exact ⟨old, executable, ⟨rfl, rfl⟩, rfl⟩
            · rintro ⟨_, _, ⟨rfl, rfl⟩, rfl⟩
              rfl

/-- **A file that was written is read back**, and nothing else has changed. -/
theorem write_spec (h : s.write path content = .ok s') :
    ∃ place, s.place path = .ok place ∧ Grows place s s' ∧ s'.read path = .ok content := by
  obtain ⟨hslash, place, hplace, hput⟩ := write_eq_ok_iff.mp h
  refine ⟨place, hplace, ?_⟩
  rcases hput with ⟨hnode, rfl⟩ | ⟨old, executable, hnode, rfl⟩
  · have hgrows := grows_put_new hnode (.file content false) place
    exact ⟨hgrows, read_eq_ok_iff.mpr
      ⟨place, false, hgrows.place_eq hplace, nodeAt?_put_self (by simp [hnode]) _, hslash⟩⟩
  · have hgrows := grows_put_file hnode content
    exact ⟨hgrows, read_eq_ok_iff.mpr
      ⟨place, executable, hgrows.place_eq hplace, nodeAt?_put_self (by simp [hnode]) _, hslash⟩⟩

/-- Whether a file can be written does not depend on what is written. -/
theorem exists_write_of_write (h : s.write path content = .ok s') (new : ByteArray) :
    ∃ after, s.write path new = .ok after := by
  obtain ⟨hslash, place, hplace, hput⟩ := write_eq_ok_iff.mp h
  rcases hput with ⟨hnode, _⟩ | ⟨old, executable, hnode, _⟩
  · exact ⟨_, write_eq_ok_iff.mpr ⟨hslash, place, hplace, Or.inl ⟨hnode, rfl⟩⟩⟩
  · exact ⟨_, write_eq_ok_iff.mpr ⟨hslash, place, hplace, Or.inr ⟨old, executable, hnode, rfl⟩⟩⟩

theorem exists_write_of_read (h : s.read path = .ok content) (new : ByteArray) :
    ∃ after, s.write path new = .ok after := by
  obtain ⟨place, executable, hplace, hnode, hslash⟩ := read_eq_ok_iff.mp h
  exact ⟨_, write_eq_ok_iff.mpr
    ⟨hslash, place, hplace, Or.inr ⟨content, executable, hnode, rfl⟩⟩⟩

end TimedTrials.Storage
