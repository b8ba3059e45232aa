/-
  TimedTrials/Proofs/Storage/Paths.lean
  =====================================
  **Paths as the names along them.**

  What a path leads to depends on where it starts, on its names and on a slash at its end. Joining
  a directory and a relative path puts their names one behind the other (`names_join`), and so
  does the source of an image below its base (`names_imageSource`). Names with slashes between
  them are the names of the path again (`names_intercalate`).
-/
import Mathlib.Data.List.Basic
import TimedTrials.Page.Html
import TimedTrials.Storage.Path

namespace TimedTrials

/-! ### Parts between slashes -/

theorem not_mem_of_mem_splitOn {α : Type} [BEq α] [LawfulBEq α] {x : α} {xs part : List α}
    (h : part ∈ xs.splitOn x) : x ∉ part := by
  induction xs generalizing part with
  | nil =>
    obtain rfl := List.mem_singleton.mp (List.splitOn_nil x ▸ h)
    exact List.not_mem_nil
  | cons y ys ih =>
    rw [List.splitOn_cons_eq_if_modifyHead] at h
    split at h
    · rcases List.mem_cons.mp h with rfl | h
      · exact List.not_mem_nil
      · exact ih h
    · rename_i hne
      cases hparts : ys.splitOn x with
      | nil => exact absurd hparts (List.splitOn_ne_nil x ys)
      | cons first rest =>
        rw [hparts, List.modifyHead_cons] at h
        rcases List.mem_cons.mp h with rfl | h
        · rw [List.mem_cons, not_or]
          refine ⟨?_, ih (hparts ▸ List.mem_cons_self)⟩
          rintro rfl
          exact hne (beq_self_eq_true x)
        · exact ih (hparts ▸ List.mem_cons_of_mem first h)

namespace Path

/-- Whether a text is a name that a path can hold: there is something of it, and no slash. -/
def IsName (name : String) : Prop := name ≠ "" ∧ '/' ∉ name.toList

variable {a b dir path name : String} {ns : List String}

/-! ### Names -/

theorem names_eq (path : String) :
    names path = ((path.toList.splitOn '/').map String.ofList).filter fun p => !p.isEmpty := rfl

theorem isName_of_mem_names (h : name ∈ names path) : IsName name := by
  rw [names_eq, List.mem_filter, List.mem_map] at h
  obtain ⟨⟨part, hpart, rfl⟩, hsome⟩ := h
  refine ⟨by simpa using hsome, ?_⟩
  rw [String.toList_ofList]
  exact not_mem_of_mem_splitOn hpart

@[simp] theorem names_empty : names "" = [] := rfl

/-- A slash keeps the names on its two sides from each other. -/
theorem names_append_slash (a b : String) : names (a ++ "/" ++ b) = names a ++ names b := by
  have hchars : (a ++ "/" ++ b).toList = a.toList ++ '/' :: b.toList := by
    rw [String.toList_append, String.toList_append, List.append_assoc]
    rfl
  rw [names_eq, hchars, List.splitOn_append_cons_self, List.map_append, List.filter_append]
  rfl

theorem IsName.names_eq (h : IsName name) : names name = [name] := by
  rw [Path.names_eq, List.splitOn_eq_singleton h.2]
  simp [h.1]

theorem names_intercalate (h : ∀ name ∈ ns, IsName name) : names ("/".intercalate ns) = ns := by
  induction ns with
  | nil => rfl
  | cons name ns ih =>
    rw [List.forall_mem_cons] at h
    cases ns with
    | nil => exact h.1.names_eq
    | cons next ns =>
      rw [String.intercalate_cons_cons, names_append_slash, h.1.names_eq, ih h.2]
      rfl

/-! ### Where a path starts and how it ends -/

theorem isAbsolute_append (ha : a ≠ "") : isAbsolute (a ++ b) = isAbsolute a := by
  rw [isAbsolute, isAbsolute, String.toList_append, List.head?_append]
  cases hchars : a.toList with
  | nil => exact absurd (String.toList_eq_nil_iff.mp hchars) ha
  | cons c cs => rfl

theorem endsInSlash_append (hb : b ≠ "") : endsInSlash (a ++ b) = endsInSlash b := by
  rw [endsInSlash, endsInSlash, String.toList_append,
    List.getLast?_append_of_ne_nil _ (mt String.toList_eq_nil_iff.mp hb)]

theorem IsName.isAbsolute_eq_false (h : IsName name) : isAbsolute name = false := by
  rw [isAbsolute, beq_eq_false_iff_ne]
  intro hhead
  exact h.2 (List.mem_of_head? hhead)

theorem IsName.endsInSlash_eq_false (h : IsName name) : endsInSlash name = false := by
  rw [endsInSlash, beq_eq_false_iff_ne]
  intro hlast
  exact h.2 (List.mem_of_getLast? hlast)

/-- Names with slashes between them are a relative path without a slash at its end. -/
theorem slashes_intercalate (h : ∀ name ∈ ns, IsName name) :
    isAbsolute ("/".intercalate ns) = false ∧ endsInSlash ("/".intercalate ns) = false := by
  induction ns with
  | nil => exact ⟨rfl, rfl⟩
  | cons name ns ih =>
    rw [List.forall_mem_cons] at h
    cases ns with
    | nil => exact ⟨h.1.isAbsolute_eq_false, h.1.endsInSlash_eq_false⟩
    | cons next ns =>
      have hrest : "/".intercalate (next :: ns) ≠ "" := by
        intro hempty
        have hnames := names_intercalate h.2
        rw [hempty] at hnames
        cases hnames
      rw [String.intercalate_cons_cons]
      constructor
      · rw [String.append_assoc, isAbsolute_append h.1.1]
        exact h.1.isAbsolute_eq_false
      · rw [endsInSlash_append hrest]
        exact (ih h.2).2

theorem mem_intercalate {c : Char} (h : c ∈ ("/".intercalate ns).toList) :
    c = '/' ∨ ∃ name ∈ ns, c ∈ name.toList := by
  induction ns with
  | nil => cases h
  | cons name ns ih =>
    cases ns with
    | nil => exact Or.inr ⟨name, List.mem_singleton_self name, h⟩
    | cons next ns =>
      rw [String.intercalate_cons_cons, String.toList_append, String.toList_append,
        List.mem_append, List.mem_append] at h
      rcases h with (h | h) | h
      · exact Or.inr ⟨name, List.mem_cons_self, h⟩
      · exact Or.inl (List.mem_singleton.mp h)
      · rcases ih h with hslash | ⟨other, hother, hc⟩
        · exact Or.inl hslash
        · exact Or.inr ⟨other, List.mem_cons_of_mem name hother, hc⟩

/-! ### Joining -/

theorem exists_eq_append_slash (h : endsInSlash dir = true) : ∃ d, dir = d ++ "/" := by
  rw [endsInSlash, beq_iff_eq, List.getLast?_eq_some_iff] at h
  obtain ⟨front, hfront⟩ := h
  refine ⟨String.ofList front, ?_⟩
  rw [← String.toList_inj, String.toList_append, String.toList_ofList, hfront]
  rfl

theorem join_eq (hdir : dir ≠ "") (hpath : isAbsolute path = false) :
    join dir path = if endsInSlash dir then dir ++ path else dir ++ "/" ++ path := by
  have hsome : dir.isEmpty = false := by simpa using hdir
  rw [join, hpath, hsome, if_neg (by simp)]
  rfl

/-- **The names of a joined path** are those of the directory and, behind them, those of the path
    below it. -/
theorem names_join (hdir : dir ≠ "") (hpath : isAbsolute path = false) :
    names (join dir path) = names dir ++ names path := by
  rw [join_eq hdir hpath]
  split
  · rename_i hslash
    obtain ⟨d, rfl⟩ := exists_eq_append_slash hslash
    have hfront : names (d ++ "/") = names d := by
      have := names_append_slash d ""
      rwa [String.append_empty, names_empty, List.append_nil] at this
    rw [names_append_slash, hfront]
  · exact names_append_slash dir path

theorem isAbsolute_join (hdir : dir ≠ "") (hpath : isAbsolute path = false) :
    isAbsolute (join dir path) = isAbsolute dir := by
  rw [join_eq hdir hpath]
  split
  · exact isAbsolute_append hdir
  · rw [String.append_assoc]
    exact isAbsolute_append hdir

theorem endsInSlash_join (hdir : dir ≠ "") (hpath : isAbsolute path = false) (hsome : path ≠ "") :
    endsInSlash (join dir path) = endsInSlash path := by
  rw [join_eq hdir hpath]
  split <;> exact endsInSlash_append hsome

theorem join_ne_empty (hdir : dir ≠ "") (hpath : isAbsolute path = false) :
    join dir path ≠ "" := by
  rw [join_eq hdir hpath]
  split <;> simp [String.append_eq_empty_iff, hdir]

/-! ### From one place to another -/

/-- Two places agree as far as they are shared. -/
theorem take_sharedLength (target base : List String) :
    target.take (sharedLength target base) = base.take (sharedLength target base) := by
  fun_induction sharedLength target base with
  | case1 a as bs ih => rw [List.take_succ_cons, List.take_succ_cons, ih]
  | case2 a as b bs hne => rfl
  | case3 => rw [List.take_zero, List.take_zero]

theorem sharedLength_le (target base : List String) :
    sharedLength target base ≤ target.length ∧ sharedLength target base ≤ base.length := by
  fun_induction sharedLength target base with
  | case1 a as bs ih => simpa using ih
  | case2 a as b bs hne => simp
  | case3 => simp

theorem isName_of_mem_relative {target base : List String} (h : ∀ name ∈ target, IsName name)
    (hname : name ∈ relative target base) : IsName name := by
  rw [relative, List.mem_append] at hname
  rcases hname with hup | hdown
  · rw [List.eq_of_mem_replicate hup]
    exact ⟨by decide, by decide⟩
  · exact h name (List.mem_of_mem_drop hdown)

end Path

/-! ### Sources of images -/

namespace Page

variable {base : String} {image : ImageRef}

theorem withoutSlashes_of_not_endsInSlash (h : Path.endsInSlash base = false) :
    withoutSlashes base = base := by
  rw [← String.toList_inj, withoutSlashes, String.toList_ofList]
  rw [Path.endsInSlash, ← List.head?_reverse] at h
  cases hchars : base.toList.reverse with
  | nil => simpa using hchars
  | cons c cs =>
    rw [hchars, List.head?_cons, Option.some_beq_some] at h
    rw [List.dropWhile_cons_of_neg (by simpa using h), ← hchars, List.reverse_reverse]

theorem imageSource_eq (h : Path.endsInSlash base = false) :
    imageSource image base = if base = "" then image.file else base ++ "/" ++ image.file := by
  simp only [imageSource, withoutSlashes_of_not_endsInSlash h, String.isEmpty_iff]

/-- **The names of an image's source** are those of the base and, behind them, those of the
    image's file. -/
theorem names_imageSource (h : Path.endsInSlash base = false) :
    Path.names (imageSource image base) = Path.names base ++ Path.names image.file := by
  rw [imageSource_eq h]
  split
  · rename_i hempty
    rw [hempty, Path.names_empty, List.nil_append]
  · exact Path.names_append_slash base image.file

/-- A relative file below a relative base has a relative source, with the file's end. -/
theorem slashes_imageSource (h : Path.endsInSlash base = false)
    (hbase : Path.isAbsolute base = false) (hfile : Path.isAbsolute image.file = false)
    (hsome : image.file ≠ "") :
    Path.isAbsolute (imageSource image base) = false ∧
      Path.endsInSlash (imageSource image base) = Path.endsInSlash image.file ∧
      imageSource image base ≠ "" := by
  rw [imageSource_eq h]
  split
  · exact ⟨hfile, rfl, hsome⟩
  · rename_i hne
    refine ⟨?_, Path.endsInSlash_append hsome, ?_⟩
    · rw [String.append_assoc, Path.isAbsolute_append hne]
      exact hbase
    · simp [String.append_eq_empty_iff, hne]

end Page

end TimedTrials
