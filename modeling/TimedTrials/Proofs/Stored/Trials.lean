/-
  TimedTrials/Proofs/Stored/Trials.lean
  =====================================
  **Responses, feedback, specs and groupings are read back from their JSON form.**

  Every number of a trial is in the range of its field (`Fits`): counts have 32 or 64 bits, blocks
  and sections are signed 64-bit numbers. Such a value is read back from its own form, wherever it
  stands that its data can still be kept until its variant is known. The fields of a grouping are
  read by themselves and among those of an owner alike (`Grouping.ofVariant?_append`). All of these
  forms can be written (`Writable`).
-/
import TimedTrials.Proofs.Json.Numbers
import TimedTrials.Proofs.Json.Records

namespace TimedTrials

open Json (IsInt64 Writable need maybe writable_nat writable_int writable_opt writable_list)
open Number (max32 max64)

/-! ### Optional fields -/

namespace Json

theorem maybe_opt_str (a : Option String) : maybe str? (some (opt str a)) = some a :=
  maybe_opt (fun _ => Json.noConfusion) fun _ _ => rfl

theorem maybe_opt_nat32 {a : Option Nat} (h : ∀ n ∈ a, n ≤ max32) :
    maybe nat32? (some (opt nat a)) = some a :=
  maybe_opt (fun _ => Json.noConfusion) fun n hn => nat32?_nat (h n hn)

theorem maybe_opt_nat64 {a : Option Nat} (h : ∀ n ∈ a, n ≤ max64) :
    maybe nat64? (some (opt nat a)) = some a :=
  maybe_opt (fun _ => Json.noConfusion) fun n hn => nat64?_nat (h n hn)

theorem canKeep_nat32 {n : Nat} (h : n ≤ max32) (level : Nat) : (nat n).canKeep level = true :=
  canKeep_nat (Nat.le_trans h (by decide)) level

end Json

/-! ### Responses -/

namespace TextEntry

/-- The sizes are 32-bit counts. -/
structure Fits (o : TextEntry) : Prop where
  maxLength : ∀ n ∈ o.maxLength, n ≤ max32
  widthPx : ∀ n ∈ o.widthPx, n ≤ max32

theorem writable_fields (o : TextEntry) : ∀ f ∈ o.fields, Writable f.2 := by
  simp only [fields, List.forall_mem_cons]
  exact ⟨writable_opt .str _, writable_opt writable_nat _, writable_opt writable_nat _,
    List.forall_mem_nil _⟩

theorem Fits.canKeep {o : TextEntry} (h : o.Fits) {level : Nat} (hlevel : level < Json.maxLevel) :
    o.toJson.canKeep level = true := by
  refine Json.canKeep_obj hlevel ?_
  simp only [fields, List.forall_mem_cons]
  exact ⟨Json.canKeep_opt fun _ _ => rfl,
    Json.canKeep_opt fun n hn => Json.canKeep_nat32 (h.maxLength n hn) _,
    Json.canKeep_opt fun n hn => Json.canKeep_nat32 (h.widthPx n hn) _, List.forall_mem_nil _⟩

theorem Fits.ofJson?_toJson {o : TextEntry} (h : o.Fits) : ofJson? o.toJson = some o := by
  have hrecord : o.toJson.record? ["placeholder", "maxLength", "widthPx"] = some _ :=
    Json.record?_obj rfl (by decide)
  simp only [ofJson?, hrecord, fields, List.map_cons, List.map_nil, Json.maybe_opt_str,
    Json.maybe_opt_nat32 h.maxLength, Json.maybe_opt_nat32 h.widthPx, Option.bind_eq_bind,
    Option.bind_some, Option.pure_def]

end TextEntry

namespace Response

/-- The options of a text entry have sizes that fit. -/
def Fits : Response → Prop
  | .text options => options.Fits
  | _ => True

theorem writable (r : Response) : Writable r.toJson := by
  cases r with
  | none => exact .obj (List.forall_mem_singleton.mpr (.str _))
  | keys tokens =>
    refine .obj (List.forall_mem_cons.mpr ⟨.str _, List.forall_mem_singleton.mpr ?_⟩)
    exact writable_list fun token _ => .str token
  | text options =>
    refine .obj (List.forall_mem_cons.mpr ⟨.str _, List.forall_mem_singleton.mpr ?_⟩)
    exact .obj options.writable_fields

/-- The name of the variant. -/
def variant : Response → String
  | .none => "none"
  | .keys _ => "keys"
  | .text _ => "text"

/-- The data of the variant, which stand behind the name. -/
def data : Response → List (String × Json)
  | .none => []
  | .keys tokens => [("keys", Json.list Json.str tokens)]
  | .text options => [("options", options.toJson)]

theorem toJson_eq (r : Response) : r.toJson = .obj (("kind", .str r.variant) :: r.data) := by
  cases r <;> rfl

theorem name_of_mem_data {r : Response} : ∀ f ∈ r.data, f.1 ≠ "kind" := by
  cases r <;> simp [data]

theorem Fits.canKeep_data {r : Response} (h : r.Fits) {level : Nat}
    (hlevel : level < Json.maxLevel) : ∀ f ∈ r.data, f.2.canKeep level = true := by
  cases r with
  | none => exact List.forall_mem_nil _
  | keys tokens =>
    exact List.forall_mem_singleton.mpr (Json.canKeep_list hlevel fun _ _ => rfl)
  | text options => exact List.forall_mem_singleton.mpr (TextEntry.Fits.canKeep h hlevel)

/-- A response is read back where its data may stand in one more list or object. -/
theorem Fits.ofJson?_toJson {r : Response} (h : r.Fits) {level : Nat}
    (hlevel : level + 1 < Json.maxLevel) : ofJson? level r.toJson = some r := by
  have htagged : r.toJson.tagged? "kind" level = some (r.variant, .obj r.data) := by
    rw [toJson_eq]
    exact Json.tagged?_cons name_of_mem_data (Json.canKeepFields_of_forall (h.canKeep_data hlevel))
  rw [ofJson?, htagged]
  cases r with
  | none => rfl
  | keys tokens =>
    have hrecord : (Json.obj (data (.keys tokens))).record? ["keys"] =
        some [some (Json.list Json.str tokens)] :=
      Json.record?_obj rfl (by decide)
    have htokens : (Json.list Json.str tokens).list? Json.str? = some tokens :=
      Json.list?_list fun _ _ => rfl
    simp [variant, hrecord, need, htokens]
  | text options =>
    have hrecord : (Json.obj (data (.text options))).record? ["options"] =
        some [some options.toJson] :=
      Json.record?_obj rfl (by decide)
    have hoptions : TextEntry.ofJson? options.toJson = some options :=
      TextEntry.Fits.ofJson?_toJson h
    simp [variant, hrecord, need, hoptions]

end Response

/-! ### Feedback -/

theorem FeedbackRule.ofJson?_name (r : FeedbackRule) : ofJson? (.str r.name) = some r := by
  cases r <;> rfl

namespace Feedback

theorem writable (f : Feedback) : Writable f.toJson := by
  refine .obj ?_
  exact List.forall_mem_cons.mpr ⟨.str _, List.forall_mem_singleton.mpr (.str _)⟩

theorem ofJson?_toJson (f : Feedback) : ofJson? f.toJson = some f := by
  have hrecord : f.toJson.record? ["rule", "message"] = some _ :=
    Json.record?_obj rfl (by decide)
  simp only [ofJson?, hrecord, List.map_cons, List.map_nil, need, FeedbackRule.ofJson?_name,
    Json.str?, Option.bind_eq_bind, Option.bind_some, Option.pure_def]

end Feedback

/-! ### Specs -/

namespace TrialSpec

/-- The row and the times are 64-bit counts, and the block is a signed 64-bit number. -/
structure Fits (s : TrialSpec) : Prop where
  row : s.row ≤ max64
  block : IsInt64 s.block
  response : s.response.Fits
  latencyMs : ∀ n ∈ s.latencyMs, n ≤ max64
  feedbackDurationMs : ∀ n ∈ s.feedbackDurationMs, n ≤ max64

theorem writable (s : TrialSpec) : Writable s.toJson := by
  refine .obj ?_
  simp only [List.forall_mem_cons]
  exact ⟨writable_nat _, writable_int _, .str _, s.response.writable, writable_opt writable_nat _,
    writable_opt .str _, writable_opt Feedback.writable _, writable_opt writable_nat _, .str _,
    .str _, List.forall_mem_nil _⟩

theorem Fits.ofJson?_toJson {s : TrialSpec} (h : s.Fits) : ofJson? s.toJson = some s := by
  have hrecord : s.toJson.record? fieldNames = some _ := Json.record?_obj rfl (by decide)
  have hresponse : Response.ofJson? 1 s.response.toJson = some s.response :=
    h.response.ofJson?_toJson (by decide)
  have hfeedback : maybe Feedback.ofJson? (some (Json.opt Feedback.toJson s.feedback)) =
      some s.feedback :=
    Json.maybe_opt (fun _ => Json.noConfusion) fun f _ => f.ofJson?_toJson
  simp only [ofJson?, hrecord, List.map_cons, List.map_nil, need, Json.nat64?_nat h.row,
    Json.int64?_int h.block, hresponse, Json.maybe_opt_nat64 h.latencyMs, Json.maybe_opt_str,
    hfeedback, Json.maybe_opt_nat64 h.feedbackDurationMs, Json.str?, Option.bind_eq_bind,
    Option.bind_some, Option.pure_def]

end TrialSpec

/-! ### Groupings -/

namespace Grouping

/-- Sections are signed 64-bit numbers, and repetitions are 32-bit counts. -/
def Fits : Grouping → Prop
  | .fixed blockRepetition => blockRepetition ≤ max32
  | .sectioned sectionId sectionRepetition => IsInt64 sectionId ∧ sectionRepetition ≤ max32

/-- The name of the variant. -/
def variant : Grouping → String
  | .fixed _ => "fixed"
  | .sectioned _ _ => "sectioned"

/-- The data of the variant, which stand behind the name. -/
def data : Grouping → List (String × Json)
  | .fixed blockRepetition => [("blockRepetition", Json.nat blockRepetition)]
  | .sectioned sectionId sectionRepetition =>
    [("section", Json.int sectionId), ("sectionRepetition", Json.nat sectionRepetition)]

theorem fields_eq (g : Grouping) : g.fields = ("grouping", .str g.variant) :: g.data := by
  cases g <;> rfl

theorem writable_fields (g : Grouping) : ∀ f ∈ g.fields, Writable f.2 := by
  cases g with
  | fixed repetition =>
    exact List.forall_mem_cons.mpr ⟨.str _, List.forall_mem_singleton.mpr (writable_nat _)⟩
  | sectioned sectionId repetition =>
    exact List.forall_mem_cons.mpr ⟨.str _, List.forall_mem_cons.mpr
      ⟨writable_int _, List.forall_mem_singleton.mpr (writable_nat _)⟩⟩

theorem Fits.canKeep_data {g : Grouping} (h : g.Fits) (level : Nat) :
    ∀ f ∈ g.data, f.2.canKeep level = true := by
  cases g with
  | fixed repetition => exact List.forall_mem_singleton.mpr (Json.canKeep_nat32 h level)
  | sectioned sectionId repetition =>
    exact List.forall_mem_cons.mpr ⟨Json.canKeep_int h.1.natAbs_le level,
      List.forall_mem_singleton.mpr (Json.canKeep_nat32 h.2 level)⟩

theorem Fits.canKeep_fields {g : Grouping} (h : g.Fits) (level : Nat) :
    ∀ f ∈ g.fields, f.2.canKeep level = true := by
  rw [fields_eq]
  exact List.forall_mem_cons.mpr ⟨rfl, h.canKeep_data level⟩

theorem name_of_mem_data {g : Grouping} : ∀ f ∈ g.data, f.1 ≠ "grouping" := by
  cases g <;> simp [data]

/-- The variant is read from its data, whether or not its name stands among them. -/
theorem Fits.ofVariant?_append {g : Grouping} (h : g.Fits) {tags : List (String × Json)}
    (htags : ∀ f ∈ tags, f.1 = "grouping") :
    ofVariant? g.variant (.obj (tags ++ g.data)) = some g := by
  -- the names of the data do not include that of the tag
  have hpass : ∀ names : List String, "grouping" ∉ names →
      tags.filter (fun f => names.contains f.1) = [] := by
    intro names hnames
    rw [List.filter_eq_nil_iff]
    intro f hf
    rw [htags f hf, List.contains_iff_mem]
    exact hnames
  cases g with
  | fixed repetition =>
    have hrecord : (Json.obj (tags ++ data (.fixed repetition))).record? ["blockRepetition"] =
        some [some (Json.nat repetition)] := by
      rw [Json.record?_filter, List.filter_append, hpass _ (by decide)]
      exact Json.record?_obj rfl (by decide)
    simp [ofVariant?, variant, hrecord, need, Json.nat32?_nat h]
  | sectioned sectionId repetition =>
    have hrecord : (Json.obj (tags ++ data (.sectioned sectionId repetition))).record?
        ["section", "sectionRepetition"] =
          some [some (Json.int sectionId), some (Json.nat repetition)] := by
      rw [Json.record?_filter, List.filter_append, hpass _ (by decide)]
      exact Json.record?_obj rfl (by decide)
    simp [ofVariant?, variant, hrecord, need, Json.int64?_int h.1, Json.nat32?_nat h.2]

theorem Fits.ofJson?_toJson {g : Grouping} (h : g.Fits) : ofJson? g.toJson = some g := by
  have htagged : g.toJson.tagged? "grouping" 0 = some (g.variant, .obj g.data) := by
    rw [toJson, fields_eq]
    exact Json.tagged?_cons name_of_mem_data (Json.canKeepFields_of_forall (h.canKeep_data 1))
  rw [ofJson?, htagged]
  exact h.ofVariant?_append (List.forall_mem_nil _)

/-- A grouping is read from its own fields among those of an owner. -/
theorem Fits.ofFields?_fields {g : Grouping} (h : g.Fits) (level : Nat) :
    ofFields? level g.fields = some g := by
  have hkeep : Json.canKeepFields level g.fields = true :=
    Json.canKeepFields_of_forall (h.canKeep_fields level)
  have honly : Json.only? "grouping" g.fields = some (some (.str g.variant)) := by
    cases g <;> rfl
  have hvariant : ofVariant? g.variant (.obj g.fields) = some g := by
    rw [fields_eq]
    exact h.ofVariant?_append (List.forall_mem_singleton.mpr rfl)
  simp only [ofFields?, hkeep, honly, Bool.not_true, Bool.false_eq_true, if_false,
    Option.bind_eq_bind, Option.bind_some, flattenedName?]
  exact hvariant

end Grouping

end TimedTrials
