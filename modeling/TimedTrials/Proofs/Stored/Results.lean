/-
  TimedTrials/Proofs/Stored/Results.lean
  ======================================
  **Results, artifacts and configurations are read back from their JSON form.**

  The fields of a grouping stand among those of its result. None of them has the name of a field of
  the result itself (`TrialResult.name_of_mem_grouping`), so that the names tell them apart again: the
  result finds its own fields with the others passed over, and what is left are the fields of the
  grouping, in their order (`TrialResult.record?_fields`, `TrialResult.filter_fields`). A response
  time is read back when its digits are (`Faithful`). An artifact that does not know when its run
  was started leaves the field out, and is read back without it.
-/
import TimedTrials.Config
import TimedTrials.Proofs.Stored.Trials
import TimedTrials.Result.Artifact

namespace TimedTrials

open Json (IsInt64 Writable need maybe writable_nat writable_int writable_opt writable_list
  writable_float)
open Number (max32 max64)

/-! ### Response times -/

/-- A finite number whose written digits stand for it. -/
structure Faithful (x : Float) : Prop where
  isFinite : x.isFinite = true
  toFloat?_ofFloat : (Numeral.ofFloat x).toFloat? = some x

theorem Faithful.float?_float {x : Float} (h : Faithful x) : (Json.float x).float? = some x := by
  rw [Json.float, if_pos h.isFinite]
  exact h.toFloat?_ofFloat

/-- Half a second is written as `500.0`. -/
theorem faithful_half_second : Faithful 500.0 where
  isFinite := rfl
  toFloat?_ofFloat := by
    have hdigits : Numeral.ofFloat 500.0 = ⟨false, ['5', '0', '0'], some ['0'], none⟩ := by
      decide +kernel
    rw [hdigits]
    rfl

/-! ### Results -/

/-- Positions are 64-bit counts, blocks are signed 64-bit numbers, and repetitions are 32-bit
    counts. -/
structure Outcome.Fits (o : Outcome) : Prop where
  sequencePosition : o.sequencePosition ≤ max64
  block : IsInt64 o.block
  repetition : o.repetition ≤ max32
  grouping : o.grouping.Fits

namespace TrialResult

/-- The outcome fits, and the response time is read back as it was written. -/
structure Fits (r : TrialResult) : Prop where
  outcome : r.outcome.Fits
  responseTimeMs : Faithful r.responseTimeMs

theorem writable (r : TrialResult) : Writable r.toJson := by
  refine .obj (List.forall_mem_append.mpr ⟨List.forall_mem_append.mpr ⟨?_, ?_⟩, ?_⟩)
  · simp only [List.forall_mem_cons]
    exact ⟨writable_nat _, writable_int _, writable_nat _, List.forall_mem_nil _⟩
  · exact r.outcome.grouping.writable_fields
  · simp only [List.forall_mem_cons]
    exact ⟨.str _, writable_opt .str _, writable_opt .str _, writable_float _,
      writable_opt .bool _, .bool _, writable_opt .str _, .str _, List.forall_mem_nil _⟩

/-- **No field of a grouping has the name of a field of the result.** -/
theorem name_of_mem_grouping (g : Grouping) : ∀ f ∈ g.fields, f.1 ∉ fieldNames := by
  cases g <;> simp [Grouping.fields, fieldNames]

/-- The fields in front of those of the grouping. -/
def fieldsBefore (r : TrialResult) : List (String × Json) :=
  [("sequencePosition", Json.nat r.outcome.sequencePosition), ("block", Json.int r.outcome.block),
    ("repetition", Json.nat r.outcome.repetition)]

/-- The fields behind those of the grouping. -/
def fieldsAfter (r : TrialResult) (responseTime : Json) : List (String × Json) :=
  [("stimulus", .str r.outcome.stimulus),
    ("correctResponse", Json.opt Json.str r.outcome.correctResponse),
    ("actualResponse", Json.opt Json.str r.outcome.actualResponse),
    ("responseTimeMs", responseTime), ("isCorrect", Json.opt Json.bool r.outcome.isCorrect),
    ("timedOut", .bool r.outcome.timedOut),
    ("feedbackShown", Json.opt Json.str r.outcome.feedbackShown), ("timestamp", .str r.timestamp)]

theorem fields_eq (r : TrialResult) (responseTime : Json) : r.fields responseTime =
    r.fieldsBefore ++ r.outcome.grouping.fields ++ r.fieldsAfter responseTime := rfl

theorem contains_before (r : TrialResult) :
    ∀ f ∈ r.fieldsBefore, fieldNames.contains f.1 = true := by
  simp [fieldsBefore, fieldNames]

theorem contains_after (r : TrialResult) (responseTime : Json) :
    ∀ f ∈ r.fieldsAfter responseTime, fieldNames.contains f.1 = true := by
  simp [fieldsAfter, fieldNames]

theorem contains_grouping (g : Grouping) : ∀ f ∈ g.fields, fieldNames.contains f.1 = false := by
  intro f hf
  rw [← Bool.not_eq_true, List.contains_iff_mem]
  exact name_of_mem_grouping g f hf

/-- A result finds its own fields among those of its grouping. -/
theorem record?_fields (r : TrialResult) (responseTime : Json) :
    (Json.obj (r.fields responseTime)).record? fieldNames =
      some ((r.fieldsBefore ++ r.fieldsAfter responseTime).map fun f => some f.2) := by
  have hgrouping : r.outcome.grouping.fields.filter (fun f => fieldNames.contains f.1) = [] := by
    rw [List.filter_eq_nil_iff]
    intro f hf
    rw [contains_grouping _ f hf]
    exact Bool.false_ne_true
  rw [Json.record?_filter, fields_eq, List.filter_append, List.filter_append,
    List.filter_eq_self.mpr r.contains_before, hgrouping,
    List.filter_eq_self.mpr (r.contains_after responseTime), List.append_nil]
  exact Json.record?_obj rfl (by decide)

/-- What is left when a result has taken its own fields are those of its grouping. -/
theorem filter_fields (r : TrialResult) (responseTime : Json) :
    (r.fields responseTime).filter (fun f => !fieldNames.contains f.1) =
      r.outcome.grouping.fields := by
  have hown : ∀ fs : List (String × Json), (∀ f ∈ fs, fieldNames.contains f.1 = true) →
      fs.filter (fun f => !fieldNames.contains f.1) = [] := by
    intro fs hfs
    rw [List.filter_eq_nil_iff]
    intro f hf
    rw [hfs f hf]
    exact Bool.false_ne_true
  have hgrouping : r.outcome.grouping.fields.filter (fun f => !fieldNames.contains f.1) =
      r.outcome.grouping.fields := by
    rw [List.filter_eq_self]
    intro f hf
    rw [contains_grouping _ f hf, Bool.not_false]
  rw [fields_eq, List.filter_append, List.filter_append, hown _ r.contains_before,
    hown _ (r.contains_after responseTime), hgrouping, List.nil_append, List.append_nil]

theorem Fits.ofJson?_toJson {r : TrialResult} (h : r.Fits) (level : Nat) :
    ofJson? level r.toJson = some r := by
  have hright : maybe Json.bool? (some (Json.opt Json.bool r.outcome.isCorrect)) =
      some r.outcome.isCorrect :=
    Json.maybe_opt (fun _ => Json.noConfusion) fun _ _ => rfl
  simp only [toJson, ofJson?, record?_fields, fieldsBefore, fieldsAfter, filter_fields,
    List.cons_append, List.nil_append, List.map_cons, List.map_nil, need,
    Json.nat64?_nat h.outcome.sequencePosition, Json.int64?_int h.outcome.block,
    Json.nat32?_nat h.outcome.repetition, h.outcome.grouping.ofFields?_fields, Json.str?,
    Json.maybe_opt_str, h.responseTimeMs.float?_float, hright, Json.bool?, Option.bind_eq_bind,
    Option.bind_some, Option.pure_def]

end TrialResult

/-! ### Artifacts -/

namespace Artifact

/-- The count of repetitions has 32 bits, and all results fit. -/
structure Fits (a : Artifact) : Prop where
  repetitions : a.repetitions ≤ max32
  trials : ∀ r ∈ a.trials, r.Fits

/-- The fields by name, of which the start of the run may be left out. -/
def slots (a : Artifact) : List (String × Option Json) :=
  [("experimentId", some (.str a.experimentId)), ("timestamp", some (.str a.timestamp)),
    ("startedAt", a.startedAt.map Json.str), ("environmentInfo", some (.str a.environmentInfo)),
    ("randomized", some (.bool a.randomized)), ("repetitions", some (Json.nat a.repetitions)),
    ("trials", some (Json.list TrialResult.toJson a.trials))]

theorem toJson_eq (a : Artifact) : a.toJson = .obj (Json.present a.slots) := by
  simp only [toJson, toJsonWith, slots]
  cases a.startedAt <;> rfl

theorem writable (a : Artifact) : Writable a.toJson := by
  have hslots : ∀ slot ∈ a.slots, ∀ v ∈ slot.2, Writable v := by
    simp only [slots, List.forall_mem_cons, Option.mem_def, Option.some.injEq, forall_eq',
      Option.map_eq_some_iff]
    refine ⟨.str _, .str _, ?_, .str _, .bool _, writable_nat _,
      writable_list fun r _ => r.writable, List.forall_mem_nil _⟩
    rintro v ⟨s, -, rfl⟩
    exact .str s
  rw [toJson_eq]
  refine .obj fun f hf => ?_
  obtain ⟨slot, hslot, hvalue⟩ := List.mem_filterMap.mp hf
  obtain ⟨v, hv, rfl⟩ := Option.map_eq_some_iff.mp hvalue
  exact hslots slot hslot v hv

theorem Fits.ofJson?_toJson {a : Artifact} (h : a.Fits) : ofJson? a.toJson = some a := by
  have hrecord : a.toJson.record? ["experimentId", "timestamp", "startedAt", "environmentInfo",
      "randomized", "repetitions", "trials"] = some (a.slots.map (·.2)) := by
    rw [toJson_eq]
    exact Json.record?_present rfl (by decide) rfl
  have hstarted : maybe Json.str? (a.startedAt.map Json.str) = some a.startedAt := by
    cases a.startedAt <;> rfl
  have htrials : (Json.list TrialResult.toJson a.trials).list? (TrialResult.ofJson? 2) =
      some a.trials :=
    Json.list?_list fun r hr => (h.trials r hr).ofJson?_toJson 2
  simp only [ofJson?, hrecord, slots, List.map_cons, List.map_nil, need, Json.str?, hstarted,
    Json.bool?, Json.nat32?_nat h.repetitions, htrials, Option.bind_eq_bind, Option.bind_some,
    Option.pure_def]

end Artifact

/-! ### Configurations -/

namespace RunConfig

/-- The count of repetitions has 32 bits; the seed and the times have 64. -/
structure Fits (c : RunConfig) : Prop where
  repetitions : c.repetitions ≤ max32
  seed : ∀ n ∈ c.seed, n ≤ max64
  defaultFeedbackMs : c.defaultFeedbackMs ≤ max64
  keyGraceMs : ∀ n ∈ c.keyGraceMs, n ≤ max64

theorem writable (c : RunConfig) : Writable c.toJson := by
  refine .obj ?_
  simp only [List.forall_mem_cons]
  exact ⟨writable_nat _, .bool _, writable_opt writable_nat _, writable_nat _,
    writable_opt writable_nat _, .str _, List.forall_mem_nil _⟩

theorem Fits.ofJson?_toJson {c : RunConfig} (h : c.Fits) : ofJson? c.toJson = some c := by
  have hrecord : c.toJson.record? ["repetitions", "randomizeSections", "seed", "defaultFeedbackMs",
      "keyGraceMs", "imageDir"] = some _ := Json.record?_obj rfl (by decide)
  simp only [ofJson?, hrecord, List.map_cons, List.map_nil, need, Json.nat32?_nat h.repetitions,
    Json.bool?, Json.maybe_opt_nat64 h.seed, Json.nat64?_nat h.defaultFeedbackMs,
    Json.maybe_opt_nat64 h.keyGraceMs, Json.str?, Option.bind_eq_bind, Option.bind_some,
    Option.pure_def]

end RunConfig

end TimedTrials
