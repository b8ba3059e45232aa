/-
  TimedTrials/Proofs/Stored/Stimuli.lean
  ======================================
  **Stimuli are read back from their JSON form, without the tokens that were not understood.**

  Where an image asks for a size, its sides are 32-bit counts (`Fits`). A segment writes its kind in
  front of its value, so that its value never has to be kept. A stimulus that is read has no tokens
  that were not understood, since these are no part of its form (`Stimulus.Fits.ofJson?_toJson`).
-/
import TimedTrials.Proofs.Stored.Trials
import TimedTrials.Stored.Stimulus

namespace TimedTrials

open Json (Writable need writable_nat writable_opt writable_list)
open Number (max32)

/-! ### Positions -/

theorem Vertical.ofJson?_name (v : Vertical) : ofJson? (.str v.name) = some v := by
  cases v <;> rfl

theorem Horizontal.ofJson?_name (h : Horizontal) : ofJson? (.str h.name) = some h := by
  cases h <;> rfl

namespace Position

theorem writable (p : Position) : Writable p.toJson := by
  refine .obj ?_
  exact List.forall_mem_cons.mpr ⟨.str _, List.forall_mem_singleton.mpr (.str _)⟩

theorem ofJson?_toJson (p : Position) : ofJson? p.toJson = some p := by
  have hrecord : p.toJson.record? ["vertical", "horizontal"] = some _ :=
    Json.record?_obj rfl (by decide)
  simp only [ofJson?, hrecord, List.map_cons, List.map_nil, need, Vertical.ofJson?_name,
    Horizontal.ofJson?_name, Option.bind_eq_bind, Option.bind_some, Option.pure_def]

end Position

/-! ### Segments -/

namespace ImageRef

/-- The sides are 32-bit counts. -/
structure Fits (image : ImageRef) : Prop where
  width : ∀ n ∈ image.width, n ≤ max32
  height : ∀ n ∈ image.height, n ≤ max32

theorem writable (image : ImageRef) : Writable image.toJson := by
  refine .obj ?_
  simp only [List.forall_mem_cons]
  exact ⟨.str _, writable_opt writable_nat _, writable_opt writable_nat _, List.forall_mem_nil _⟩

theorem Fits.ofJson?_toJson {image : ImageRef} (h : image.Fits) :
    ofJson? image.toJson = some image := by
  have hrecord : image.toJson.record? ["file", "width", "height"] = some _ :=
    Json.record?_obj rfl (by decide)
  simp only [ofJson?, hrecord, List.map_cons, List.map_nil, need, Json.str?,
    Json.maybe_opt_nat32 h.width, Json.maybe_opt_nat32 h.height, Option.bind_eq_bind,
    Option.bind_some, Option.pure_def]

end ImageRef

namespace Segment

/-- An image has sides that fit. -/
def Fits : Segment → Prop
  | .markup _ => True
  | .image ref => ref.Fits

theorem writable (s : Segment) : Writable s.toJson := by
  cases s with
  | markup text =>
    exact .obj (List.forall_mem_cons.mpr ⟨.str _, List.forall_mem_singleton.mpr (.str _)⟩)
  | image ref =>
    exact .obj (List.forall_mem_cons.mpr ⟨.str _, List.forall_mem_singleton.mpr ref.writable⟩)

/-- The kind is known before the value is read. -/
theorem valueIsFirst_toJson (s : Segment) : valueIsFirst s.toJson = false := by
  cases s <;> rfl

theorem Fits.ofJson?_toJson {s : Segment} (h : s.Fits) (level : Nat) :
    ofJson? level s.toJson = some s := by
  have hfirst := valueIsFirst_toJson s
  cases s with
  | markup text =>
    have hrecord : (toJson (.markup text)).record? ["kind", "value"] = some _ :=
      Json.record?_obj rfl (by decide)
    simp [ofJson?, hrecord, hfirst, need, Json.name?, Json.str?]
  | image ref =>
    have hrecord : (toJson (.image ref)).record? ["kind", "value"] = some _ :=
      Json.record?_obj rfl (by decide)
    have href : ImageRef.ofJson? ref.toJson = some ref := ImageRef.Fits.ofJson?_toJson h
    simp [ofJson?, hrecord, hfirst, need, Json.name?, href]

end Segment

/-! ### Whole stimuli -/

namespace Stimulus

/-- All segments have sides that fit. -/
def Fits (s : Stimulus) : Prop := ∀ segment ∈ s.segments, segment.Fits

theorem writable (s : Stimulus) : Writable s.toJson := by
  refine .obj (List.forall_mem_cons.mpr ⟨?_, List.forall_mem_singleton.mpr s.position.writable⟩)
  exact writable_list fun segment _ => segment.writable

theorem Fits.ofJson?_toJson {s : Stimulus} (h : s.Fits) :
    ofJson? s.toJson = some { s with ignored := [] } := by
  have hrecord : s.toJson.record? ["segments", "position"] = some _ :=
    Json.record?_obj rfl (by decide)
  have hsegments : (Json.list Segment.toJson s.segments).list? (Segment.ofJson? 2) =
      some s.segments :=
    Json.list?_list fun segment hsegment => (h segment hsegment).ofJson?_toJson 2
  simp only [ofJson?, hrecord, List.map_cons, List.map_nil, need, hsegments,
    Position.ofJson?_toJson, Option.bind_eq_bind, Option.bind_some, Option.pure_def]

end Stimulus

end TimedTrials
