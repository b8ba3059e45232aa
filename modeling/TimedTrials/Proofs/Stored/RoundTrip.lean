/-
  TimedTrials/Proofs/Stored/RoundTrip.lean
  ========================================
  **What is stored is read back.**

  A value is stored as the text of its JSON form, compact or laid out over lines. Both texts denote
  the form, so that reading one and then the value in it gives what reading the form gives
  (`readBack_of_ofJson?`). Together with the round trips of the forms this covers every kind of
  value that is stored: all of them come back as they were, apart from the tokens of a stimulus that
  were not understood, which are not stored (`stored_values_read_back`).
-/
import TimedTrials.Proofs.Json.Layout
import TimedTrials.Proofs.Stored.Results
import TimedTrials.Proofs.Stored.Stimuli

namespace TimedTrials

open Json (IsInt64 Writable)
open Number (max64)

section ReadBack

variable {α : Type} {toJson : α → Json} {ofJson? : Json → Option α} {a b : α}

/-- Both texts of a value's JSON form are read, and as the given value. -/
structure ReadBack (toJson : α → Json) (ofJson? : Json → Option α) (a b : α) : Prop where
  compact : (Json.read? (toJson a).compact).bind ofJson? = some b
  pretty : (Json.read? (toJson a).pretty).bind ofJson? = some b

/-- The texts of a form that can be written are read as what is read from the form. -/
theorem readBack_of_ofJson? (hwrite : Writable (toJson a)) (hread : ofJson? (toJson a) = some b) :
    ReadBack toJson ofJson? a b where
  compact := by
    rw [hwrite.read?_compact]
    exact hread
  pretty := by
    rw [hwrite.read?_pretty]
    exact hread

end ReadBack

/-- **Every stored value is read back.** Specs, responses, feedback, groupings, positions,
    segments, results, configurations and artifacts whose numbers are in the range of their fields,
    and whose response times have digits that stand for them, are read back from both texts as the
    same value, so with nothing in the place of what was absent; a stimulus is read back without
    the tokens that were not understood. No field of a grouping has the name of a field of the
    result it stands in, and every number of 64 bits, without or with a sign, is read back. -/
theorem stored_values_read_back :
    (∀ s : TrialSpec, s.Fits → ReadBack TrialSpec.toJson TrialSpec.ofJson? s s) ∧
    (∀ r : Response, r.Fits → ReadBack Response.toJson (Response.ofJson? 0) r r) ∧
    (∀ f : Feedback, ReadBack Feedback.toJson Feedback.ofJson? f f) ∧
    (∀ g : Grouping, g.Fits → ReadBack Grouping.toJson Grouping.ofJson? g g) ∧
    (∀ p : Position, ReadBack Position.toJson Position.ofJson? p p) ∧
    (∀ s : Segment, s.Fits → ReadBack Segment.toJson (Segment.ofJson? 0) s s) ∧
    (∀ s : Stimulus, s.Fits →
      ReadBack Stimulus.toJson Stimulus.ofJson? s { s with ignored := [] }) ∧
    (∀ r : TrialResult, r.Fits → ReadBack TrialResult.toJson (TrialResult.ofJson? 0) r r) ∧
    (∀ c : RunConfig, c.Fits → ReadBack RunConfig.toJson RunConfig.ofJson? c c) ∧
    (∀ a : Artifact, a.Fits → ReadBack Artifact.toJson Artifact.ofJson? a a) ∧
    (∀ g : Grouping, ∀ f ∈ g.fields, f.1 ∉ TrialResult.fieldNames) ∧
    (∀ n ≤ max64, ReadBack Json.nat Json.nat64? n n) ∧
    (∀ n : Int, IsInt64 n → ReadBack Json.int Json.int64? n n) := by
  refine ⟨?spec, ?response, ?feedback, ?grouping, ?position, ?segment, ?stimulus, ?result, ?config,
    ?artifact, ?names, ?counts, ?numbers⟩
  case spec => exact fun s h => readBack_of_ofJson? s.writable h.ofJson?_toJson
  case response => exact fun r h => readBack_of_ofJson? r.writable (h.ofJson?_toJson (by decide))
  case feedback => exact fun f => readBack_of_ofJson? f.writable f.ofJson?_toJson
  case grouping => exact fun g h => readBack_of_ofJson? (.obj g.writable_fields) h.ofJson?_toJson
  case position => exact fun p => readBack_of_ofJson? p.writable p.ofJson?_toJson
  case segment => exact fun s h => readBack_of_ofJson? s.writable (h.ofJson?_toJson 0)
  case stimulus => exact fun s h => readBack_of_ofJson? s.writable h.ofJson?_toJson
  case result => exact fun r h => readBack_of_ofJson? r.writable (h.ofJson?_toJson 0)
  case config => exact fun c h => readBack_of_ofJson? c.writable h.ofJson?_toJson
  case artifact => exact fun a h => readBack_of_ofJson? a.writable h.ofJson?_toJson
  case names => exact TrialResult.name_of_mem_grouping
  case counts =>
    exact fun n h => readBack_of_ofJson? (Json.writable_nat n) (Json.nat64?_nat h)
  case numbers =>
    exact fun n h => readBack_of_ofJson? (Json.writable_int n) (Json.int64?_int h)

theorem stored_values_read_back_at_limits :
    let spec : TrialSpec :=
      { row := max64, block := Number.minSigned64, stimulus := "<b>?</b>"
        response := .text ⟨some "Name", some Number.max32, none⟩
        latencyMs := some max64, correctResponse := none, feedback := some ⟨.whenCorrect, "Right"⟩
        feedbackDurationMs := none, stimulusColor := "white", backgroundColor := "darkgrey" }
    let stimulus : Stimulus :=
      ⟨[.markup "Look: ", .image ⟨"dot.png", some Number.max32, none⟩], ⟨.top, .left⟩, ["blink"]⟩
    let config : RunConfig :=
      { repetitions := 3, randomizeSections := true, seed := some max64, defaultFeedbackMs := 1500
        keyGraceMs := none, imageDir := "images" }
    let result : TrialResult :=
      { outcome :=
          { sequencePosition := max64, block := Number.maxSigned64, repetition := 1
            grouping := .sectioned Number.minSigned64 Number.max32, stimulus := "go"
            correctResponse := none, actualResponse := some "f", isCorrect := none
            timedOut := false, feedbackShown := none }
        responseTimeMs := 500.0, timestamp := "2024-05-01T10:00:00.000Z" }
    let artifact : Artifact :=
      { experimentId := "exp_lx0a1b2c", timestamp := "2024-05-01T10:05:00.000Z", startedAt := none
        environmentInfo := "console", randomized := true, repetitions := 3, trials := [result] }
    ReadBack TrialSpec.toJson TrialSpec.ofJson? spec spec ∧
    ReadBack Response.toJson (Response.ofJson? 0) spec.response spec.response ∧
    ReadBack Grouping.toJson Grouping.ofJson? (.fixed 7) (.fixed 7) ∧
    ReadBack Segment.toJson (Segment.ofJson? 0) (.markup "Look: ") (.markup "Look: ") ∧
    ReadBack Stimulus.toJson Stimulus.ofJson? stimulus { stimulus with ignored := [] } ∧
    ReadBack TrialResult.toJson (TrialResult.ofJson? 0) result result ∧
    ReadBack RunConfig.toJson RunConfig.ofJson? config config ∧
    ReadBack Artifact.toJson Artifact.ofJson? artifact artifact ∧
    "grouping" ∉ TrialResult.fieldNames ∧
    ReadBack Json.nat Json.nat64? max64 max64 ∧
    ReadBack Json.int Json.int64? Number.minSigned64 Number.minSigned64 := by
  intro spec stimulus config result artifact
  obtain ⟨hspec, hresponse, -, hgrouping, -, hsegment, hstimulus, hresult, hconfig, hartifact, hnames,
    hcounts, hnumbers⟩ := stored_values_read_back
  have hoptions : Response.Fits spec.response := TextEntry.Fits.mk (by decide) (by decide)
  have hfits : result.Fits :=
    ⟨⟨by decide, by decide, by decide, ⟨by decide, by decide⟩⟩, faithful_half_second⟩
  have himages : stimulus.Fits :=
    List.forall_mem_cons.mpr ⟨trivial, List.forall_mem_singleton.mpr
      (ImageRef.Fits.mk (by decide) (by decide))⟩
  exact ⟨hspec spec ⟨by decide, by decide, hoptions, by decide, by decide⟩, hresponse _ hoptions,
    hgrouping (.fixed 7) (by decide : 7 ≤ Number.max32), hsegment (.markup "Look: ") trivial,
    hstimulus stimulus himages, hresult result hfits,
    hconfig config ⟨by decide, by decide, by decide, by decide⟩,
    hartifact artifact ⟨by decide, List.forall_mem_singleton.mpr hfits⟩,
    hnames (.fixed 7) ("grouping", .str "fixed") List.mem_cons_self,
    hcounts max64 (Nat.le_refl max64), hnumbers Number.minSigned64 (by decide)⟩

end TimedTrials
