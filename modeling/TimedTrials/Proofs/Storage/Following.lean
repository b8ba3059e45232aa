/-
  TimedTrials/Proofs/Storage/Following.lean
  =========================================
  **What following names leads to.**

  A place that names lead to is made of names that a directory can hold, and stands below
  directories only (`Reached`); one name keeps this, so that all names do (`reached_follow`).
  From such a place the way up and the way down are known, which is all that a relative path
  between two directories is made of: followed from the one it leads to the other
  (`follow_relative`).
-/
import TimedTrials.Proofs.Storage.Paths
import TimedTrials.Storage.Tree

namespace TimedTrials.Storage

variable {s : Storage} {place target base : List String} {name path : String}

/-! ### Directories on the way -/

@[simp] theorem nodeAt?_nil (s : Storage) : s.nodeAt? [] = some .directory := rfl

theorem checkDirectory_eq_ok_iff {u : Unit} :
    s.checkDirectory place = .ok u ↔ s.nodeAt? place = some .directory := by
  unfold checkDirectory
  cases s.nodeAt? place with
  | none => simp
  | some node => cases node <;> simp

/-- A way that goes on begins in a directory. -/
theorem directory_of_follow_cons {names : List String} {last : List String}
    (h : s.follow place (name :: names) = .ok last) : s.nodeAt? place = some .directory := by
  rw [follow] at h
  cases hcheck : s.checkDirectory place with
  | error e => rw [hcheck] at h; cases h
  | ok u => exact checkDirectory_eq_ok_iff.mp hcheck

theorem follow_cons (h : s.nodeAt? place = some .directory) (name : String) (names : List String) :
    s.follow place (name :: names) =
      if name = "." then s.follow place names
      else if name = ".." then s.follow place.dropLast names
      else if maxNameBytes < name.utf8ByteSize then .error .nameTooLong
      else s.follow (place ++ [name]) names := by
  rw [follow, checkDirectory_eq_ok_iff (u := ()) |>.mpr h]
  rfl

theorem follow_append (s : Storage) (place xs ys : List String) :
    s.follow place (xs ++ ys) = (s.follow place xs).bind fun p => s.follow p ys := by
  induction xs generalizing place with
  | nil => rfl
  | cons x xs ih =>
    rw [List.cons_append, follow, follow]
    cases s.checkDirectory place with
    | error e => rfl
    | ok u =>
      simp only [bind, Except.bind]
      split_ifs
      · exact ih place
      · exact ih place.dropLast
      · rfl
      · exact ih (place ++ [x])

/-! ### Reached places -/

/-- A name that a directory can hold. -/
structure CanName (name : String) : Prop where
  isName : Path.IsName name
  notHere : name ≠ "."
  notAbove : name ≠ ".."
  short : name.utf8ByteSize ≤ maxNameBytes

/-- A place that names can lead to: it is made of names that directories can hold, and all places
    above it are directories. -/
structure Reached (s : Storage) (place : List String) : Prop where
  names : ∀ name ∈ place, CanName name
  above : ∀ n < place.length, s.nodeAt? (place.take n) = some .directory

theorem reached_nil (s : Storage) : s.Reached [] := by
  constructor
  · intro name hname
    cases hname
  · intro n hn
    cases hn

theorem Reached.dropLast (h : s.Reached place) :
    s.Reached place.dropLast ∧ s.nodeAt? place.dropLast = some .directory := by
  rw [List.dropLast_eq_take]
  refine ⟨⟨fun name hname => h.names name (List.mem_of_mem_take hname), ?_⟩, ?_⟩
  · intro n hn
    rw [List.length_take] at hn
    rw [List.take_take, Nat.min_eq_left (by omega)]
    exact h.above n (by omega)
  · cases place with
    | nil => rfl
    | cons first rest => exact h.above _ (by simp)

theorem Reached.append_singleton (h : s.Reached place) (hplace : s.nodeAt? place = some .directory)
    (hname : CanName name) : s.Reached (place ++ [name]) := by
  constructor
  · intro other hother
    rcases List.mem_append.mp hother with hother | hother
    · exact h.names other hother
    · exact List.mem_singleton.mp hother ▸ hname
  · intro n hn
    rw [List.length_append, List.length_singleton] at hn
    rw [List.take_append_of_le_length (by omega)]
    rcases Nat.lt_or_eq_of_le (Nat.le_of_lt_succ hn) with hlt | rfl
    · exact h.above n hlt
    · rw [List.take_length]
      exact hplace

/-- **Names lead from a reached place to reached places.** -/
theorem reached_follow {names : List String} {last : List String} (h : s.Reached place)
    (hnames : ∀ name ∈ names, Path.IsName name) (hfollow : s.follow place names = .ok last) :
    s.Reached last := by
  induction names generalizing place with
  | nil => exact Except.ok.inj hfollow ▸ h
  | cons name names ih =>
    have hplace := directory_of_follow_cons hfollow
    rw [List.forall_mem_cons] at hnames
    rw [follow_cons hplace] at hfollow
    by_cases hhere : name = "."
    · rw [if_pos hhere] at hfollow
      exact ih h hnames.2 hfollow
    · rw [if_neg hhere] at hfollow
      by_cases habove : name = ".."
      · rw [if_pos habove] at hfollow
        exact ih h.dropLast.1 hnames.2 hfollow
      · rw [if_neg habove] at hfollow
        by_cases hlong : maxNameBytes < name.utf8ByteSize
        · rw [if_pos hlong] at hfollow
          cases hfollow
        · rw [if_neg hlong] at hfollow
          have hname : CanName name := ⟨hnames.1, hhere, habove, Nat.not_lt.mp hlong⟩
          exact ih (h.append_singleton hplace hname) hnames.2 hfollow

/-! ### Up and down -/

theorem follow_up (h : s.Reached place) (hplace : s.nodeAt? place = some .directory) (k : Nat) :
    s.follow place (List.replicate k "..") = .ok (place.take (place.length - k)) := by
  induction k generalizing place with
  | zero => rw [Nat.sub_zero, List.take_length]; rfl
  | succ k ih =>
    have hup := h.dropLast
    rw [List.replicate_succ, follow_cons hplace, if_neg (by decide), if_pos rfl,
      ih hup.1 hup.2, List.dropLast_eq_take, List.take_take, List.length_take]
    congr 2
    omega

theorem follow_down {names : List String} (h : s.Reached (place ++ names)) :
    s.follow place names = .ok (place ++ names) := by
  induction names generalizing place with
  | nil => rw [List.append_nil]; rfl
  | cons name names ih =>
    have hname := h.names name (by simp)
    have hplace := h.above place.length (by simp)
    rw [List.take_left] at hplace
    rw [follow_cons hplace, if_neg hname.notHere, if_neg hname.notAbove,
      if_neg (Nat.not_lt.mpr hname.short), ih (by simpa using h)]
    simp

/-- **The relative path between two places leads from the one to the other.** -/
theorem follow_relative (hbase : s.Reached base) (hdir : s.nodeAt? base = some .directory)
    (htarget : s.Reached target) (rest : List String) :
    s.follow base (Path.relative target base ++ rest) = s.follow target rest := by
  have hshared := Path.take_sharedLength target base
  have hle := Path.sharedLength_le target base
  have hway : s.follow base (Path.relative target base) = .ok target := by
    rw [Path.relative, follow_append, follow_up hbase hdir, Nat.sub_sub_self hle.2, ← hshared]
    have hdown : s.Reached (target.take (Path.sharedLength target base) ++
        target.drop (Path.sharedLength target base)) := by
      rwa [List.take_append_drop]
    exact (follow_down hdown).trans (congrArg Except.ok (List.take_append_drop _ _))
  rw [follow_append, hway]
  rfl

/-! ### Places of paths -/

/-- A tree with a working directory. -/
structure Rooted (s : Storage) : Prop where
  reached : s.Reached s.workDir
  directory : s.nodeAt? s.workDir = some .directory

theorem Rooted.reached_start (h : s.Rooted) (path : String) : s.Reached (s.start path) := by
  unfold start
  split
  · exact reached_nil s
  · exact h.reached

theorem place_eq_ok_iff : s.place path = .ok place ↔
    checkPath path = .ok () ∧ s.follow (s.start path) (Path.names path) = .ok place := by
  unfold Storage.place
  cases checkPath path with
  | error e => simp [bind, Except.bind]
  | ok u => simp [bind, Except.bind]

theorem Rooted.reached_place (h : s.Rooted) (hplace : s.place path = .ok place) :
    s.Reached place := by
  obtain ⟨_, hfollow⟩ := place_eq_ok_iff.mp hplace
  exact reached_follow (h.reached_start path) (fun _ => Path.isName_of_mem_names) hfollow

theorem ne_empty_of_checkPath (h : checkPath path = .ok ()) : path ≠ "" := by
  rintro rfl
  cases h

theorem nodeFor_eq_ok_iff {slashed : Bool} {node : Node} {found : List String} :
    s.nodeFor slashed place = .ok (found, node) ↔
      found = place ∧ s.nodeAt? place = some node ∧ (node = .directory ∨ slashed = false) := by
  unfold nodeFor
  cases hnode : s.nodeAt? place with
  | none => simp
  | some there =>
    cases there with
    | directory =>
      simp only [Except.ok.injEq, Prod.mk.injEq, Option.some.injEq]
      constructor
      · rintro ⟨rfl, rfl⟩
        exact ⟨rfl, rfl, Or.inl rfl⟩
      · rintro ⟨rfl, rfl, _⟩
        exact ⟨rfl, rfl⟩
    | file content executable =>
      cases slashed with
      | true =>
        simp only [if_true, reduceCtorEq, Option.some.injEq, or_false, false_iff, not_and]
        rintro _ rfl h
        cases h
      | false =>
        simp only [Bool.false_eq_true, if_false, Except.ok.injEq, Prod.mk.injEq,
          Option.some.injEq, or_true, and_true]
        rw [eq_comm (a := place)]

theorem find_eq_ok_iff {node : Node} : s.find path = .ok (place, node) ↔
    s.place path = .ok place ∧ s.nodeAt? place = some node ∧
      (node = .directory ∨ Path.endsInSlash path = false) := by
  unfold find
  cases hplace : s.place path with
  | error e => simp [bind, Except.bind]
  | ok there =>
    simp only [bind, Except.bind, Except.ok.injEq, nodeFor_eq_ok_iff]
    constructor
    · rintro ⟨rfl, h⟩
      exact ⟨rfl, h⟩
    · rintro ⟨rfl, h⟩
      exact ⟨rfl, h⟩

theorem isDirectory_iff : s.isDirectory path = true ↔
    ∃ place, s.place path = .ok place ∧ s.nodeAt? place = some .directory := by
  have hfound : s.isDirectory path = true ↔ ∃ place, s.find path = .ok (place, .directory) := by
    unfold isDirectory
    rcases s.find path with e | ⟨place, _ | _⟩ <;> simp
  simp [hfound, find_eq_ok_iff]

theorem isFile_iff : s.isFile path = true ↔ ∃ place content executable,
    s.place path = .ok place ∧ s.nodeAt? place = some (.file content executable) ∧
      Path.endsInSlash path = false := by
  have hfound : s.isFile path = true ↔
      ∃ place content executable, s.find path = .ok (place, .file content executable) := by
    unfold isFile
    rcases s.find path with e | ⟨place, _ | _⟩ <;> simp
  simp [hfound, find_eq_ok_iff]

theorem read_eq_ok_iff {content : ByteArray} : s.read path = .ok content ↔
    ∃ place executable, s.place path = .ok place ∧
      s.nodeAt? place = some (.file content executable) ∧ Path.endsInSlash path = false := by
  have hfound : s.read path = .ok content ↔
      ∃ place executable, s.find path = .ok (place, .file content executable) := by
    unfold Storage.read
    rcases s.find path with e | ⟨place, _ | _⟩ <;> simp [bind, Except.bind]
  simp [hfound, find_eq_ok_iff]

theorem resolve?_eq_some_iff : s.resolve? path = some place ↔
    path ≠ "" ∧ s.follow (s.start path) (Path.names path) = .ok place ∧
      ∃ node, s.nodeAt? place = some node ∧
        (node = .directory ∨ Path.endsInSlash path = false) := by
  unfold Storage.resolve?
  by_cases hempty : path = ""
  · simp [hempty]
  · rw [if_neg (by simpa using hempty)]
    cases hfollow : s.follow (s.start path) (Path.names path) with
    | error e => simp
    | ok there =>
      simp only [Except.ok.injEq]
      have hnode : ((s.nodeFor (Path.endsInSlash path) there).map (·.1)).toOption = some place ↔
          ∃ node, s.nodeFor (Path.endsInSlash path) there = .ok (place, node) := by
        rcases s.nodeFor (Path.endsInSlash path) there with e | ⟨found, node⟩ <;>
          simp [Except.map, Except.toOption]
      rw [hnode]
      simp only [nodeFor_eq_ok_iff]
      constructor
      · rintro ⟨node, rfl, hrest⟩
        exact ⟨hempty, rfl, node, hrest⟩
      · rintro ⟨-, rfl, node, hrest⟩
        exact ⟨node, rfl, hrest⟩

theorem resolve?_of_directory (hplace : s.place path = .ok place)
    (hnode : s.nodeAt? place = some .directory) : s.resolve? path = some place := by
  obtain ⟨hcheck, hfollow⟩ := place_eq_ok_iff.mp hplace
  exact resolve?_eq_some_iff.mpr
    ⟨ne_empty_of_checkPath hcheck, hfollow, .directory, hnode, Or.inl rfl⟩

theorem resolve?_ne_none_of_isDirectory (h : s.isDirectory path = true) :
    s.resolve? path ≠ none := by
  obtain ⟨place, hplace, hnode⟩ := isDirectory_iff.mp h
  rw [resolve?_of_directory hplace hnode]
  exact Option.some_ne_none place

theorem exists_resolve?_of_isFile (h : s.isFile path = true) :
    ∃ place, s.resolve? path = some place := by
  obtain ⟨place, content, executable, hplace, hnode, hslash⟩ := isFile_iff.mp h
  obtain ⟨hcheck, hfollow⟩ := place_eq_ok_iff.mp hplace
  exact ⟨place, resolve?_eq_some_iff.mpr
    ⟨ne_empty_of_checkPath hcheck, hfollow, _, hnode, Or.inr hslash⟩⟩

/-- What is asked of a place at the end of a path is the same for two paths that lead there and
    end alike. -/
theorem resolve?_congr {other : String} (hpath : path ≠ "") (hother : other ≠ "")
    (hfollow : s.follow (s.start path) (Path.names path) =
      s.follow (s.start other) (Path.names other))
    (hslash : Path.endsInSlash path = Path.endsInSlash other) :
    s.resolve? path = s.resolve? other := by
  simp only [resolve?, String.isEmpty_iff, hpath, hother, hfollow, hslash]

end TimedTrials.Storage
