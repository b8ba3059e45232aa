/-
  TimedTrials/Proofs/Json/Layout.lean
  ===================================
  **The laid-out form of a value is JSON, and denotes the value.**

  Line breaks and indents are blanks that the grammar allows around items and names. A list of
  items with each on a line of its own is the list of the same items with blanks around them
  (`framed`), so that the laid-out form of a value that can be written belongs to the grammar and
  denotes the value (`Writable.denotes_pretty`). In both forms the value is read back
  (`Writable.read?_compact`, `Writable.read?_pretty`).
-/
import TimedTrials.Proofs.Json.Reading
import TimedTrials.Proofs.Json.Writing

namespace TimedTrials.Json

/-! ### Blanks -/

theorem areSpaces_newline (level : Nat) : AreSpaces (newline level) := by
  intro c hc
  rcases List.mem_cons.mp hc with rfl | hc
  · rfl
  · rw [List.eq_of_mem_replicate hc]
    rfl

theorem Denotes.append_left {spaces cs : List Char} {v : Json} (hspaces : AreSpaces spaces)
    (h : Denotes cs v) : Denotes (spaces ++ cs) v := by
  induction spaces with
  | nil => exact h
  | cons c spaces ih =>
    obtain ⟨hc, hrest⟩ := List.forall_mem_cons.mp hspaces
    exact .lead hc (ih hrest)

theorem Denotes.append_right {spaces cs : List Char} {v : Json} (hspaces : AreSpaces spaces)
    (h : Denotes cs v) : Denotes (cs ++ spaces) v := by
  induction spaces generalizing cs with
  | nil =>
    rw [List.append_nil]
    exact h
  | cons c spaces ih =>
    obtain ⟨hc, hrest⟩ := List.forall_mem_cons.mp hspaces
    have hnext := ih hrest (h.tail hc)
    rwa [List.append_assoc, List.singleton_append] at hnext

theorem SpellsName.append_left {spaces cs : List Char} {name : String}
    (hspaces : AreSpaces spaces) (h : SpellsName cs name) : SpellsName (spaces ++ cs) name := by
  cases h with
  | quoted hlead hwritten htail =>
    rw [← List.append_assoc]
    exact .quoted (List.forall_mem_append.mpr ⟨hspaces, hlead⟩) hwritten htail

/-! ### Items on lines of their own -/

section Framed

variable {α β : Type} {lead tail : α → α} {xs : List α}

/-- All items changed in front, and the last one also at its end. -/
def framed (lead tail : α → α) : List α → List α
  | [] => []
  | [x] => [tail (lead x)]
  | x :: xs => lead x :: framed lead tail xs

theorem framed_cons (x : α) (hne : xs ≠ []) :
    framed lead tail (x :: xs) = lead x :: framed lead tail xs := by
  cases xs with
  | nil => exact absurd rfl hne
  | cons y ys => rfl

theorem framed_ne_nil (hne : xs ≠ []) : framed lead tail xs ≠ [] := by
  cases xs with
  | nil => exact absurd rfl hne
  | cons x xs => cases xs <;> exact List.cons_ne_nil _ _

theorem forall_mem_framed {P : α → Prop} (hlead : ∀ x, P x → P (lead x))
    (htail : ∀ x, P x → P (tail x)) (h : ∀ x ∈ xs, P x) : ∀ y ∈ framed lead tail xs, P y := by
  induction xs with
  | nil => exact List.forall_mem_nil _
  | cons x xs ih =>
    obtain ⟨hx, hxs⟩ := List.forall_mem_cons.mp h
    by_cases hne : xs = []
    · subst hne
      exact List.forall_mem_singleton.mpr (htail _ (hlead x hx))
    · rw [framed_cons x hne]
      exact List.forall_mem_cons.mpr ⟨hlead x hx, ih hxs⟩

/-- What no change touches is the same in all items. -/
theorem map_framed {value : α → β} (hlead : ∀ x, value (lead x) = value x)
    (htail : ∀ x, value (tail x) = value x) :
    (framed lead tail xs).map value = xs.map value := by
  induction xs with
  | nil => rfl
  | cons x xs ih =>
    by_cases hne : xs = []
    · subst hne
      simp only [framed, List.map_cons, List.map_nil, htail, hlead]
    · rw [framed_cons x hne, List.map_cons, List.map_cons, hlead, ih]

theorem separated_cons (sep x : List Char) {texts : List (List Char)} (hne : texts ≠ []) :
    separated sep (x :: texts) = x ++ sep ++ separated sep texts := by
  cases texts with
  | nil => exact absurd rfl hne
  | cons y ys => rfl

/-- Blanks behind the commas, in front of all items and behind them belong to the items. -/
theorem separated_framed {written : α → List Char} {before after : List Char}
    (hlead : ∀ x, written (lead x) = before ++ written x)
    (htail : ∀ x, written (tail x) = written x ++ after) (hne : xs ≠ []) :
    separated [','] ((framed lead tail xs).map written) =
      before ++ (separated (',' :: before) (xs.map written) ++ after) := by
  induction xs with
  | nil => exact absurd rfl hne
  | cons x xs ih =>
    by_cases hrest : xs = []
    · subst hrest
      simp only [framed, List.map_cons, List.map_nil, separated, htail, hlead, List.append_assoc]
    · rw [framed_cons x hrest, List.map_cons, List.map_cons,
        separated_cons _ _ (mt List.map_eq_nil_iff.mp (framed_ne_nil hrest)),
        separated_cons _ _ (mt List.map_eq_nil_iff.mp hrest), ih hrest, hlead]
      simp only [List.append_assoc, List.cons_append, List.nil_append]

/-- Brackets around items on lines of their own are brackets around items with blanks. -/
theorem bracketed_map {written : α → List Char} {level : Nat} (opening closing : Char)
    (hlead : ∀ x, written (lead x) = newline (level + 1) ++ written x)
    (htail : ∀ x, written (tail x) = written x ++ newline level) (hne : xs ≠ []) :
    bracketed opening closing level (xs.map written) =
      opening :: (separated [','] ((framed lead tail xs).map written) ++ [closing]) := by
  have hsome : (xs.map written).isEmpty = false := by
    rw [List.isEmpty_map, List.isEmpty_eq_false_iff]
    exact hne
  simp only [bracketed, hsome, Bool.false_eq_true, if_false, separated_framed hlead htail hne,
    List.append_assoc, List.cons_append]

end Framed

/-! ### Values -/

def Item.lead (spaces : List Char) (item : Item) : Item := { item with text := spaces ++ item.text }

def Item.tail (spaces : List Char) (item : Item) : Item := { item with text := item.text ++ spaces }

def Member.lead (spaces : List Char) (m : Member) : Member :=
  { m with nameText := spaces ++ m.nameText }

def Member.tail (spaces : List Char) (m : Member) : Member := { m with text := m.text ++ spaces }

/-- An item as it stands on its line, without the indent. -/
def Item.pretty (level : Nat) (v : Json) : Item := ⟨v.prettyChars level, v⟩

/-- A field as it stands on its line, with the blank behind its colon. -/
def Member.pretty (level : Nat) (f : String × Json) : Member :=
  ⟨quoted f.1, f.1, ' ' :: f.2.prettyChars level, f.2⟩

theorem prettyItems_eq (level : Nat) (items : List Json) :
    prettyItems level items = (items.map (Item.pretty level)).map (·.text) := by
  induction items with
  | nil => rfl
  | cons v items ih =>
    rw [prettyItems, ih]
    rfl

theorem prettyFields_eq (level : Nat) (fields : List (String × Json)) :
    prettyFields level fields = (fields.map (Member.pretty level)).map Member.written := by
  induction fields with
  | nil => rfl
  | cons f fields ih =>
    rw [prettyFields, ih, List.append_assoc]
    rfl

/-- A list laid out over several lines denotes the list of what its items denote. -/
theorem denotes_bracketed_items {level : Nat} {items : List Json} (hne : items ≠ [])
    (h : ∀ v ∈ items, Denotes (v.prettyChars (level + 1)) v) :
    Denotes (bracketed '[' ']' level (prettyItems (level + 1) items)) (.arr items) := by
  have hpretty : items.map (Item.pretty (level + 1)) ≠ [] := mt List.map_eq_nil_iff.mp hne
  have hitems : ∀ item ∈ framed (Item.lead (newline (level + 1))) (Item.tail (newline level))
      (items.map (Item.pretty (level + 1))), Denotes item.text item.value := by
    apply forall_mem_framed
    · exact fun item hitem => hitem.append_left (areSpaces_newline _)
    · exact fun item hitem => hitem.append_right (areSpaces_newline _)
    · intro item hitem
      obtain ⟨v, hv, rfl⟩ := List.mem_map.mp hitem
      exact h v hv
  have hvalues : ((framed (Item.lead (newline (level + 1))) (Item.tail (newline level))
      (items.map (Item.pretty (level + 1)))).map (·.value)) = items := by
    rw [map_framed, List.map_map]
    · exact List.map_id items
    · exact fun _ => rfl
    · exact fun _ => rfl
  have hlead : ∀ item : Item, (item.lead (newline (level + 1))).text =
      newline (level + 1) ++ item.text := fun _ => rfl
  have htail : ∀ item : Item, (item.tail (newline level)).text = item.text ++ newline level :=
    fun _ => rfl
  have harr := Denotes.arr (framed_ne_nil hpretty) hitems
  rwa [hvalues, ← bracketed_map '[' ']' hlead htail hpretty, ← prettyItems_eq] at harr

/-- So does an object, whose fields stand on lines of their own. -/
theorem denotes_bracketed_fields {level : Nat} {fields : List (String × Json)} (hne : fields ≠ [])
    (h : ∀ f ∈ fields, Denotes (f.2.prettyChars (level + 1)) f.2) :
    Denotes (bracketed '\x7b' '\x7d' level (prettyFields (level + 1) fields)) (.obj fields) := by
  have hpretty : fields.map (Member.pretty (level + 1)) ≠ [] := mt List.map_eq_nil_iff.mp hne
  have hmembers : ∀ m ∈ framed (Member.lead (newline (level + 1))) (Member.tail (newline level))
      (fields.map (Member.pretty (level + 1))),
      SpellsName m.nameText m.name ∧ Denotes m.text m.value := by
    apply forall_mem_framed
    · exact fun m hm => ⟨hm.1.append_left (areSpaces_newline _), hm.2⟩
    · exact fun m hm => ⟨hm.1, hm.2.append_right (areSpaces_newline _)⟩
    · intro m hm
      obtain ⟨f, hf, rfl⟩ := List.mem_map.mp hm
      exact ⟨spellsName_quoted f.1, .lead rfl (h f hf)⟩
  have hfields : ((framed (Member.lead (newline (level + 1))) (Member.tail (newline level))
      (fields.map (Member.pretty (level + 1)))).map fun m => (m.name, m.value)) = fields := by
    rw [map_framed, List.map_map]
    · exact List.map_id fields
    · exact fun _ => rfl
    · exact fun _ => rfl
  have hlead : ∀ m : Member, (m.lead (newline (level + 1))).written =
      newline (level + 1) ++ m.written := fun m => List.append_assoc _ _ _
  have htail : ∀ m : Member, (m.tail (newline level)).written = m.written ++ newline level := by
    intro m
    rw [Member.written, Member.written, List.append_assoc, List.cons_append]
    rfl
  have hobj := Denotes.obj (framed_ne_nil hpretty) (fun m hm => (hmembers m hm).1)
    (fun m hm => (hmembers m hm).2)
  rwa [hfields, ← bracketed_map '\x7b' '\x7d' hlead htail hpretty, ← prettyFields_eq] at hobj

/-- **The laid-out form of a value denotes the value**, at every level. -/
theorem Writable.denotes_pretty {v : Json} (h : Writable v) :
    ∀ level, Denotes (v.prettyChars level) v := by
  have hnone : AreSpaces [] := List.forall_mem_nil _
  induction h with
  | null => exact fun _ => .null
  | bool b =>
    intro level
    cases b with
    | true => exact .true
    | false => exact .false
  | num h => exact fun _ => .num h.spells
  | str s => exact fun _ => (Writable.str s).denotes
  | @arr items _ ih =>
    intro level
    by_cases hne : items = []
    · subst hne
      exact .emptyArr hnone
    · exact denotes_bracketed_items hne fun v hv => ih v hv (level + 1)
  | @obj fields _ ih =>
    intro level
    by_cases hne : fields = []
    · subst hne
      exact .emptyObj hnone
    · exact denotes_bracketed_fields hne fun f hf => ih f hf (level + 1)

/-! ### Reading back -/

theorem Writable.read?_compact {v : Json} (h : Writable v) : read? v.compact = some v :=
  h.denotes.read?_eq

theorem Writable.read?_pretty {v : Json} (h : Writable v) : read? v.pretty = some v :=
  (h.denotes_pretty 0).read?_eq

end TimedTrials.Json
