/-
  TimedTrials/Proofs/Json/Records.lean
  ====================================
  **Records that have been written are read field by field.**

  A record that is written has each of its names once, some of them perhaps left out. Reading it
  by these names gives for each its value or that it is missing (`record?_present`), whatever
  fields of other names stand among them (`record?_filter`). What stands in the fields is read
  back as soon as that holds of the parts: options, lists, and variants that are told by a tag.
-/
import TimedTrials.Stored.Trial

namespace TimedTrials.Json

variable {α : Type} {f : Json → Option α} {g : α → Json}

/-! ### Options and lists -/

theorem opt?_of_ne_null {v : Json} (h : v ≠ .null) : v.opt? f = (f v).map some := by
  cases v with
  | null => exact absurd rfl h
  | _ => rfl

/-- An option is read back when no value is written as `null`. -/
theorem maybe_opt {a : Option α} (hnull : ∀ a, g a ≠ .null) (h : ∀ x ∈ a, f (g x) = some x) :
    maybe f (some (opt g a)) = some a := by
  cases a with
  | none => rfl
  | some x =>
    simp only [maybe, opt, opt?_of_ne_null (hnull x), h x rfl, Option.map_some]

theorem list?_list {xs : List α} (h : ∀ x ∈ xs, f (g x) = some x) :
    (list g xs).list? f = some xs := by
  simp only [list, list?]
  induction xs with
  | nil => rfl
  | cons x xs ih =>
    obtain ⟨hx, hxs⟩ := List.forall_mem_cons.mp h
    rw [List.map_cons, List.mapM_cons, hx, ih hxs]
    rfl

/-! ### Fields by name -/

/-- The fields that are there, of names that may have a value. -/
def present (slots : List (String × Option Json)) : List (String × Json) :=
  slots.filterMap fun slot => slot.2.map fun v => (slot.1, v)

theorem present_cons_none (name : String) (slots : List (String × Option Json)) :
    present ((name, none) :: slots) = present slots := rfl

theorem present_cons_some (name : String) (v : Json) (slots : List (String × Option Json)) :
    present ((name, some v) :: slots) = (name, v) :: present slots := rfl

theorem filter_present (slots : List (String × Option Json)) (name : String) :
    (present slots).filter (·.1 == name) = present (slots.filter (·.1 == name)) := by
  induction slots with
  | nil => rfl
  | cons slot slots ih =>
    obtain ⟨other, value⟩ := slot
    cases value with
    | none =>
      rw [present_cons_none, ih, List.filter_cons]
      split
      · rw [present_cons_none]
      · rfl
    | some v =>
      rw [present_cons_some, List.filter_cons, List.filter_cons, ih]
      split
      · rw [present_cons_some]
      · rfl

theorem filter_eq_singleton {slots : List (String × Option Json)}
    (hnames : (slots.map (·.1)).Nodup) {slot : String × Option Json} (hslot : slot ∈ slots) :
    slots.filter (·.1 == slot.1) = [slot] := by
  induction slots with
  | nil => cases hslot
  | cons first slots ih =>
    obtain ⟨hnew, hrest⟩ := List.nodup_cons.mp hnames
    have hne : ∀ other ∈ slots, other.1 ≠ first.1 := by
      intro other hother heq
      exact hnew (List.mem_map.mpr ⟨other, hother, heq⟩)
    rcases List.mem_cons.mp hslot with rfl | hslot
    · have hnone : slots.filter (·.1 == slot.1) = [] := by
        rw [List.filter_eq_nil_iff]
        intro other hother heq
        exact hne other hother (beq_iff_eq.mp heq)
      simp only [List.filter_cons, beq_self_eq_true, if_true, hnone]
    · have hother : (first.1 == slot.1) = false := beq_false_of_ne (hne slot hslot).symm
      simp only [List.filter_cons, hother, Bool.false_eq_true, if_false, ih hrest hslot]

/-- A name is found just once, or not at all. -/
theorem only?_present {slots : List (String × Option Json)} (hnames : (slots.map (·.1)).Nodup)
    {slot : String × Option Json} (hslot : slot ∈ slots) :
    only? slot.1 (present slots) = some slot.2 := by
  rw [only?, filter_present, filter_eq_singleton hnames hslot]
  obtain ⟨name, value⟩ := slot
  cases value <;> rfl

/-- **A record is read as it was written**, fields that were left out being missing. -/
theorem record?_present {slots : List (String × Option Json)} {names : List String}
    {fields : List (String × Json)} (hnames : slots.map (·.1) = names) (hnodup : names.Nodup)
    (hfields : present slots = fields) :
    (Json.obj fields).record? names = some (slots.map (·.2)) := by
  subst hnames hfields
  have hall : ∀ slot ∈ slots, only? slot.1 (present slots) = some slot.2 :=
    fun slot hslot => only?_present hnodup hslot
  simp only [record?]
  -- the fields are looked up among all of them, while the names are gone through
  generalize present slots = fields at hall
  clear hnodup
  induction slots with
  | nil => rfl
  | cons slot slots ih =>
    obtain ⟨hfirst, hrest⟩ := List.forall_mem_cons.mp hall
    rw [List.map_cons, List.mapM_cons, hfirst, ih hrest]
    rfl

/-- A record that has all of its fields is read as it was written. -/
theorem record?_obj {fields : List (String × Json)} {names : List String}
    (hnames : fields.map (·.1) = names) (hnodup : names.Nodup) :
    (Json.obj fields).record? names = some (fields.map fun field => some field.2) := by
  have hslots : (fields.map fun field => (field.1, some field.2)).map (·.1) = names := by
    rw [List.map_map]
    exact hnames
  have hpresent : present (fields.map fun field => (field.1, some field.2)) = fields := by
    rw [present, List.filterMap_map]
    exact List.filterMap_some
  rw [record?_present hslots hnodup hpresent, List.map_map]
  rfl

/-- Fields of other names are passed over. -/
theorem record?_filter (names : List String) (fields : List (String × Json)) :
    (Json.obj fields).record? names =
      (Json.obj (fields.filter fun field => names.contains field.1)).record? names := by
  have hsame : ∀ name ∈ names, only? name fields =
      only? name (fields.filter fun field => names.contains field.1) := by
    intro name hname
    have hfilter : (fields.filter fun field => names.contains field.1).filter (·.1 == name) =
        fields.filter (·.1 == name) := by
      rw [List.filter_filter]
      apply List.filter_congr
      intro field _
      cases heq : field.1 == name with
      | false => rfl
      | true =>
        rw [beq_iff_eq.mp heq, Bool.true_and, List.contains_iff_mem]
        exact hname
    rw [only?, only?, hfilter]
  simp only [record?]
  generalize (fields.filter fun field => names.contains field.1) = others at hsame
  induction names with
  | nil => rfl
  | cons name names ih =>
    obtain ⟨hfirst, hrest⟩ := List.forall_mem_cons.mp hsame
    rw [List.mapM_cons, List.mapM_cons, hfirst, ih hrest]

/-! ### Values that are kept -/

theorem canKeepItems_of_forall {level : Nat} {items : List Json}
    (h : ∀ v ∈ items, v.canKeep level = true) : canKeepItems level items = true := by
  induction items with
  | nil => rfl
  | cons v items ih =>
    obtain ⟨hv, hitems⟩ := List.forall_mem_cons.mp h
    rw [canKeepItems, hv, ih hitems]
    rfl

theorem canKeepFields_of_forall {level : Nat} {fields : List (String × Json)}
    (h : ∀ field ∈ fields, field.2.canKeep level = true) : canKeepFields level fields = true := by
  induction fields with
  | nil => rfl
  | cons field fields ih =>
    obtain ⟨hfield, hfields⟩ := List.forall_mem_cons.mp h
    rw [canKeepFields, hfield, ih hfields]
    rfl

theorem canKeep_opt {level : Nat} {a : Option α} (h : ∀ x ∈ a, (g x).canKeep level = true) :
    (opt g a).canKeep level = true := by
  cases a with
  | none => rfl
  | some x => exact h x rfl

theorem canKeep_list {level : Nat} {xs : List α} (hlevel : level < maxLevel)
    (h : ∀ x ∈ xs, (g x).canKeep (level + 1) = true) : (list g xs).canKeep level = true := by
  simp only [list, canKeep, hlevel, decide_true, Bool.true_and]
  exact canKeepItems_of_forall (List.forall_mem_map.mpr h)

theorem canKeep_obj {level : Nat} {fields : List (String × Json)} (hlevel : level < maxLevel)
    (h : ∀ field ∈ fields, field.2.canKeep (level + 1) = true) :
    (Json.obj fields).canKeep level = true := by
  simp only [canKeep, hlevel, decide_true, Bool.true_and]
  exact canKeepFields_of_forall h

/-- A variant is told by the tag in front of its data. -/
theorem tagged?_cons {tag name : String} {data : List (String × Json)} {level : Nat}
    (htag : ∀ field ∈ data, field.1 ≠ tag) (hkeep : canKeepFields (level + 1) data = true) :
    (Json.obj ((tag, .str name) :: data)).tagged? tag level = some (name, .obj data) := by
  have honly : ((tag, Json.str name) :: data).filter (·.1 == tag) = [(tag, .str name)] := by
    have hnone : data.filter (·.1 == tag) = [] := by
      rw [List.filter_eq_nil_iff]
      intro field hfield heq
      exact htag field hfield (beq_iff_eq.mp heq)
    simp only [List.filter_cons, beq_self_eq_true, if_true, hnone]
  have hdata : ((tag, Json.str name) :: data).filter (·.1 != tag) = data := by
    have hall : data.filter (·.1 != tag) = data := by
      rw [List.filter_eq_self]
      exact fun field hfield => bne_iff_ne.mpr (htag field hfield)
    simp only [List.filter_cons, bne_self_eq_false, Bool.false_eq_true, if_false, hall]
  simp only [tagged?, only?, honly, hdata, hkeep, str?, Option.bind_eq_bind, Option.bind_some,
    if_true]
  rfl

end TimedTrials.Json
