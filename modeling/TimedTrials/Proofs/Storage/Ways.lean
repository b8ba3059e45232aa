/-
  TimedTrials/Proofs/Storage/Ways.lean
  ====================================
  **The way from one place to another with the fewest climbs.**

  A way is walked name by name; two dots lead to the parent. What a way leaves of the place that it
  starts from is at least that place without one name for each climb (`take_prefix_walk`), so that
  a way to another place climbs at least as often as the two places have names that they do not
  share. A relative way climbs exactly so often, and goes down from what is shared
  (`isShortest_relative`).

  Of paths as texts this says that the relative path between two normalized absolute paths leads
  from the one to the other (`relative_between`).
-/
import Mathlib.Data.List.Induction
import TimedTrials.Proofs.Storage.Paths

namespace TimedTrials.Path

variable {base target ns : List String} {name path : String}

/-! ### Walking -/

/-- A name that leads down: neither of the two that stay or lead up. -/
structure IsOrdinary (name : String) : Prop where
  isName : IsName name
  notHere : name ≠ "."
  notAbove : name ≠ ".."

instance (name : String) : Decidable (IsOrdinary name) :=
  decidable_of_iff ((name ≠ "" ∧ '/' ∉ name.toList) ∧ name ≠ "." ∧ name ≠ "..")
    ⟨fun h => ⟨h.1, h.2.1, h.2.2⟩, fun h => ⟨h.isName, h.notHere, h.notAbove⟩⟩

/-- Where a name leads from a place. Nothing is above the root. -/
def step (place : List String) (name : String) : List String :=
  if name = "." then place else if name = ".." then place.dropLast else place ++ [name]

/-- Where a way leads from a place. -/
def walk (place way : List String) : List String := way.foldl step place

/-- How often a way climbs. -/
def climbs (way : List String) : Nat := way.count ".."

/-- Whenever a way climbs, it stands below the root. -/
def StaysInside (place way : List String) : Prop :=
  ∀ before after, way = before ++ ".." :: after → walk place before ≠ []

/-- A way from one place to another that stays inside, and no way between the two climbs less. -/
structure IsShortest (base target way : List String) : Prop where
  leads : walk base way = target
  inside : StaysInside base way
  fewest : ∀ other, walk base other = target → climbs way ≤ climbs other

theorem walk_append (place xs ys : List String) : walk place (xs ++ ys) = walk (walk place xs) ys :=
  List.foldl_append

theorem IsOrdinary.step_eq (h : IsOrdinary name) (place : List String) :
    step place name = place ++ [name] := by
  rw [step, if_neg h.notHere, if_neg h.notAbove]

theorem walk_down (h : ∀ name ∈ ns, IsOrdinary name) (place : List String) :
    walk place ns = place ++ ns := by
  induction ns generalizing place with
  | nil => exact (List.append_nil place).symm
  | cons name ns ih =>
    rw [List.forall_mem_cons] at h
    have hrest := ih h.2 (place ++ [name])
    rwa [List.append_assoc, List.singleton_append, ← h.1.step_eq] at hrest

theorem walk_up (place : List String) (k : Nat) :
    walk place (List.replicate k "..") = place.take (place.length - k) := by
  induction k generalizing place with
  | zero => exact List.take_length.symm
  | succ k ih =>
    have hup : step place ".." = place.dropLast := rfl
    rw [List.replicate_succ, walk, List.foldl_cons, hup, ← walk, ih, List.dropLast_eq_take,
      List.take_take, List.length_take]
    congr 1
    omega

/-! ### What a way leaves of the place it starts from -/

theorem take_prefix_dropLast {xs ys : List String} {k : Nat} (hk : k ≤ xs.length)
    (h : xs.take k <+: ys) : xs.take (k - 1) <+: ys.dropLast := by
  have hshorter : xs.take (k - 1) <+: ys :=
    (List.take_prefix_take_left (Nat.sub_le k 1)).trans h
  have hlength := h.length_le
  rw [List.length_take, Nat.min_eq_left hk] at hlength
  refine List.prefix_of_prefix_length_le hshorter (List.dropLast_prefix ys) ?_
  rw [List.length_take, List.length_dropLast]
  omega

/-- **Each climb costs at most one name.** -/
theorem take_prefix_walk (base way : List String) :
    base.take (base.length - climbs way) <+: walk base way := by
  induction way using List.reverseRecOn with
  | nil => exact List.take_prefix _ _
  | append_singleton way name ih =>
    have hwalk : walk base (way ++ [name]) = step (walk base way) name := walk_append base way [name]
    rw [hwalk, step, climbs, List.count_append, List.count_singleton, ← climbs]
    by_cases hhere : name = "."
    · subst hhere
      exact ih
    · rw [if_neg hhere]
      by_cases habove : name = ".."
      · subst habove
        exact take_prefix_dropLast (Nat.sub_le _ _) ih
      · rw [if_neg habove, if_neg (by simpa using habove)]
        exact ih.trans (List.prefix_append _ _)

/-! ### What two places share -/

/-- No more is shared than is counted. -/
theorem le_sharedLength {k : Nat} (htarget : k ≤ target.length) (h : base.take k = target.take k) :
    min k base.length ≤ sharedLength target base := by
  induction k generalizing target base with
  | zero => simp
  | succ k ih =>
    cases target with
    | nil => cases htarget
    | cons t target =>
      cases base with
      | nil => simp
      | cons b base =>
        rw [List.take_succ_cons, List.take_succ_cons] at h
        obtain ⟨rfl, hrest⟩ := List.cons.inj h
        have hshared := ih (Nat.le_of_succ_le_succ htarget) hrest
        simp only [sharedLength, if_true, List.length_cons]
        omega

theorem sharedLength_self (place : List String) : sharedLength place place = place.length := by
  induction place with
  | nil => rfl
  | cons name place ih => simp only [sharedLength, if_true, ih, List.length_cons]

/-! ### The relative way -/

theorem isOrdinary_of_mem_drop (h : ∀ name ∈ target, IsOrdinary name) (k : Nat) :
    ∀ name ∈ target.drop k, IsOrdinary name :=
  fun name hname => h name (List.mem_of_mem_drop hname)

theorem climbs_relative (h : ∀ name ∈ target, IsOrdinary name) (base : List String) :
    climbs (relative target base) = base.length - sharedLength target base := by
  have hdown : (target.drop (sharedLength target base)).count ".." = 0 :=
    List.count_eq_zero.mpr fun hmem => (isOrdinary_of_mem_drop h _ _ hmem).notAbove rfl
  rw [climbs, relative, List.count_append, List.count_replicate_self, hdown, Nat.add_zero]

/-- **The relative way leads from the one place to the other.** -/
theorem walk_relative (h : ∀ name ∈ target, IsOrdinary name) (base : List String) :
    walk base (relative target base) = target := by
  have hle := sharedLength_le target base
  rw [relative, walk_append, walk_up, walk_down (isOrdinary_of_mem_drop h _),
    Nat.sub_sub_self hle.2, ← take_sharedLength, List.take_append_drop]

theorem staysInside_relative (h : ∀ name ∈ target, IsOrdinary name) (base : List String) :
    StaysInside base (relative target base) := by
  intro before after hway
  have hdown : ".." ∉ target.drop (sharedLength target base) := fun hmem =>
    (isOrdinary_of_mem_drop h _ _ hmem).notAbove rfl
  -- all climbs stand in front, so that only climbs have gone before one of them
  obtain ⟨rest, hup, hrest⟩ | ⟨rest, _, hrest⟩ := List.append_eq_append_iff.mp hway.symm
  · have hbefore : before = List.replicate before.length ".." :=
      List.eq_replicate_of_mem fun name hname =>
        List.eq_of_mem_replicate (hup ▸ List.mem_append_left rest hname)
    have hlength := congrArg List.length hup
    rw [List.length_replicate, List.length_append] at hlength
    have hsome : rest ≠ [] := by
      rintro rfl
      rw [List.nil_append] at hrest
      exact hdown (hrest ▸ List.mem_cons_self)
    have hpos := List.length_pos_of_ne_nil hsome
    rw [hbefore, walk_up, ← List.length_pos_iff, List.length_take]
    omega
  · exact absurd (hrest ▸ List.mem_append_right rest List.mem_cons_self) hdown

/-- **The relative way has the fewest climbs** of all ways between the two places, also of those
    that climb at the root and stay there. -/
theorem isShortest_relative (h : ∀ name ∈ target, IsOrdinary name) (base : List String) :
    IsShortest base target (relative target base) := by
  constructor
  · exact walk_relative h base
  · exact staysInside_relative h base
  · intro other hother
    have hkept : base.take (base.length - climbs other) <+: target :=
      hother ▸ take_prefix_walk base other
    have hlength := hkept.length_le
    have hsame := List.prefix_iff_eq_take.mp hkept
    rw [List.length_take, Nat.min_eq_left (Nat.sub_le _ _)] at hlength hsame
    -- what the other way keeps of the start is shared, so that it climbs out of all the rest
    have hshared := le_sharedLength hlength hsame
    rw [climbs_relative h]
    omega

theorem relative_eq_nil_iff : relative target base = [] ↔ target = base := by
  constructor
  · intro hnil
    rw [relative, List.append_eq_nil_iff, List.replicate_eq_nil_iff, List.drop_eq_nil_iff] at hnil
    have hle := sharedLength_le target base
    have htake := take_sharedLength target base
    rwa [List.take_of_length_le hnil.2, List.take_of_length_le (by omega)] at htake
  · rintro rfl
    rw [relative, sharedLength_self, Nat.sub_self, List.drop_length]
    rfl

/-! ### Paths as texts -/

/-- The path from the root along names. -/
def absolute (names : List String) : String := "/" ++ "/".intercalate names

/-- A path from the root along ordinary names, written with nothing else. -/
def IsNormalized (path : String) : Prop :=
  ∃ names, (∀ name ∈ names, IsOrdinary name) ∧ path = absolute names

theorem components_eq_filter_names (path : String) :
    components path = (names path).filter (· ≠ ".") := by
  rw [components, names, List.filter_filter]
  refine List.filter_congr fun part _ => ?_
  by_cases hdot : part = "." <;> simp [hdot]

/-- Names with slashes between them are the components of the path, if none of them is a dot. -/
theorem components_intercalate (h : ∀ name ∈ ns, IsName name ∧ name ≠ ".") :
    components ("/".intercalate ns) = ns := by
  rw [components_eq_filter_names, names_intercalate fun name hname => (h name hname).1,
    List.filter_eq_self]
  intro name hname
  simpa using (h name hname).2

theorem components_absolute (h : ∀ name ∈ ns, IsOrdinary name) : components (absolute ns) = ns := by
  have hnames : names (absolute ns) = names ("/".intercalate ns) := by
    have happend := names_append_slash "" ("/".intercalate ns)
    rwa [String.empty_append, names_empty, List.nil_append] at happend
  rw [components_eq_filter_names, hnames, ← components_eq_filter_names]
  exact components_intercalate fun name hname => ⟨(h name hname).isName, (h name hname).notHere⟩

theorem IsNormalized.isOrdinary (h : IsNormalized path) :
    ∀ name ∈ components path, IsOrdinary name := by
  obtain ⟨ns, hns, rfl⟩ := h
  rwa [components_absolute hns]

theorem IsNormalized.absolute_components (h : IsNormalized path) :
    absolute (components path) = path := by
  obtain ⟨ns, hns, rfl⟩ := h
  rw [components_absolute hns]

theorem ordinary_or_up_of_mem_relative (h : ∀ name ∈ target, IsOrdinary name)
    (hname : name ∈ relative target base) : name = ".." ∨ IsOrdinary name := by
  rw [relative, List.mem_append] at hname
  exact hname.imp List.eq_of_mem_replicate (isOrdinary_of_mem_drop h _ name)

/-- The way from one path to another, by their components. -/
def between (target base : String) : List String := relative (components target) (components base)

/-- **The relative path between two normalized absolute paths** leads from the one to the other
    without leaving the root, with the fewest climbs of all ways, and it is empty just when the
    two are the same. Its text is a relative path with the names of the way as its components. -/
theorem relative_between {target base : String} (htarget : IsNormalized target)
    (hbase : IsNormalized base) :
    absolute (walk (components base) (between target base)) = target ∧
      IsShortest (components base) (components target) (between target base) ∧
      (between target base = [] ↔ target = base) ∧
      components ("/".intercalate (between target base)) = between target base ∧
      isAbsolute ("/".intercalate (between target base)) = false ∧
      ("/".intercalate (between target base) = "" ↔ target = base) := by
  have hordinary := htarget.isOrdinary
  have hshortest : IsShortest (components base) (components target) (between target base) :=
    isShortest_relative hordinary (components base)
  have hempty : between target base = [] ↔ target = base := by
    rw [between, relative_eq_nil_iff]
    constructor
    · intro hsame
      rw [← htarget.absolute_components, hsame, hbase.absolute_components]
    · exact congrArg components
  have hnames : ∀ name ∈ between target base, IsName name ∧ name ≠ "." := by
    intro name hname
    obtain rfl | hname := ordinary_or_up_of_mem_relative hordinary hname
    · exact ⟨⟨by decide, by decide⟩, by decide⟩
    · exact ⟨hname.isName, hname.notHere⟩
  have htext := components_intercalate hnames
  refine ⟨?_, hshortest, hempty, htext, ?_, ?_⟩
  · rw [hshortest.leads, htarget.absolute_components]
  · exact (slashes_intercalate fun name hname => (hnames name hname).1).1
  · rw [← hempty]
    constructor
    · intro hnone
      rw [← htext, hnone]
      rfl
    · intro hnil
      rw [hnil]
      rfl

/-- Out of two directories and down into two others. -/
theorem relative_between_siblings :
    IsNormalized "/lab/study/images" ∧ IsNormalized "/lab/out/page" ∧
      absolute (walk (components "/lab/out/page") (between "/lab/study/images" "/lab/out/page")) =
        "/lab/study/images" ∧
      "/".intercalate (between "/lab/study/images" "/lab/out/page") = "../../study/images" ∧
      ∀ other, walk (components "/lab/out/page") other = components "/lab/study/images" →
        2 ≤ climbs other := by
  have htarget : IsNormalized "/lab/study/images" :=
    ⟨["lab", "study", "images"], by decide, by decide⟩
  have hbase : IsNormalized "/lab/out/page" := ⟨["lab", "out", "page"], by decide, by decide⟩
  obtain ⟨hleads, hshortest, -⟩ := relative_between htarget hbase
  have hway : between "/lab/study/images" "/lab/out/page" = ["..", "..", "study", "images"] := by
    decide
  refine ⟨htarget, hbase, hleads, by rw [hway]; decide, ?_⟩
  intro other hother
  have hfewest := hshortest.fewest other hother
  rwa [hway] at hfewest

end TimedTrials.Path
