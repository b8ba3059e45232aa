/-
  TimedTrials/Stored/Trial.lean
  =============================
  **The JSON form of trials**: responses, feedback, specs, groupings and instances.

  A choice between variants is tagged: the variant's name stands in a field of its own beside
  the variant's data. The fields of a grouping stand directly among those of its owner. Data
  is kept until the variant is known; `level` counts the lists and objects around a value.
-/
import TimedTrials.Json.Printer
import TimedTrials.Json.Record
import TimedTrials.Trial.Instance

namespace TimedTrials

/-! ### Tagged variants -/

namespace Json

/-- The variant's name and its data: an object with the tag among its fields, or a list that
    begins with the tag. -/
def tagged? (tag : String) (level : Nat) : Json → Option (String × Json)
  | .obj fields => do
    let name ← (← only? tag fields).bind str?
    let data := fields.filter (·.1 != tag)
    if canKeepFields (level + 1) data then pure (name, .obj data) else none
  | .arr (.str name :: rest) =>
    if canKeepItems (level + 1) rest then some (name, .arr rest) else none
  | _ => none

/-- A variant without data takes no further items, and any further fields. -/
def noData? : Json → Option Unit
  | .obj _ => some ()
  | .arr [] => some ()
  | _ => none

end Json

/-! ### Responses -/

namespace TextEntry

def fields (o : TextEntry) : List (String × Json) :=
  [("placeholder", Json.opt Json.str o.placeholder), ("maxLength", Json.opt Json.nat o.maxLength),
    ("widthPx", Json.opt Json.nat o.widthPx)]

def toJson (o : TextEntry) : Json := .obj o.fields

def ofJson? (v : Json) : Option TextEntry := do
  let [placeholder, maxLength, widthPx] ← v.record? ["placeholder", "maxLength", "widthPx"] | none
  pure ⟨← Json.maybe Json.str? placeholder, ← Json.maybe Json.nat32? maxLength,
    ← Json.maybe Json.nat32? widthPx⟩

end TextEntry

namespace Response

def toJson : Response → Json
  | .none => .obj [("kind", .str "none")]
  | .keys tokens => .obj [("kind", .str "keys"), ("keys", Json.list Json.str tokens)]
  | .text options => .obj [("kind", .str "text"), ("options", options.toJson)]

def ofJson? (level : Nat) (v : Json) : Option Response := do
  let (kind, data) ← v.tagged? "kind" level
  if kind = "none" then
    data.noData?
    pure .none
  else if kind = "keys" then
    let [tokens] ← data.record? ["keys"] | Option.none
    pure (.keys (← Json.need (Json.list? Json.str?) tokens))
  else if kind = "text" then
    let [options] ← data.record? ["options"] | Option.none
    pure (.text (← Json.need TextEntry.ofJson? options))
  else Option.none

end Response

/-! ### Feedback -/

namespace FeedbackRule

def name : FeedbackRule → String
  | .always => "always"
  | .whenCorrect => "whenCorrect"
  | .whenIncorrect => "whenIncorrect"
  | .unmarked => "unmarked"

def ofJson? (v : Json) : Option FeedbackRule := do
  let name ← v.name?
  [always, whenCorrect, whenIncorrect, unmarked].find? (·.name == name)

end FeedbackRule

namespace Feedback

def toJson (f : Feedback) : Json :=
  .obj [("rule", .str f.rule.name), ("message", .str f.message)]

def ofJson? (v : Json) : Option Feedback := do
  let [rule, message] ← v.record? ["rule", "message"] | none
  pure ⟨← Json.need FeedbackRule.ofJson? rule, ← Json.need Json.str? message⟩

end Feedback

/-! ### Specs -/

namespace TrialSpec

def toJson (s : TrialSpec) : Json :=
  .obj [("row", Json.nat s.row), ("block", Json.int s.block), ("stimulus", .str s.stimulus),
    ("response", s.response.toJson), ("latencyMs", Json.opt Json.nat s.latencyMs),
    ("correctResponse", Json.opt Json.str s.correctResponse),
    ("feedback", Json.opt Feedback.toJson s.feedback),
    ("feedbackDurationMs", Json.opt Json.nat s.feedbackDurationMs),
    ("stimulusColor", .str s.stimulusColor), ("backgroundColor", .str s.backgroundColor)]

def fieldNames : List String :=
  ["row", "block", "stimulus", "response", "latencyMs", "correctResponse", "feedback",
    "feedbackDurationMs", "stimulusColor", "backgroundColor"]

def ofJson? (v : Json) : Option TrialSpec := do
  let [row, block, stimulus, response, latency, correct, feedback, duration, color, background] ←
    v.record? fieldNames | none
  pure {
    row := ← Json.need Json.nat64? row
    block := ← Json.need Json.int64? block
    stimulus := ← Json.need Json.str? stimulus
    response := ← Json.need (Response.ofJson? 1) response
    latencyMs := ← Json.maybe Json.nat64? latency
    correctResponse := ← Json.maybe Json.str? correct
    feedback := ← Json.maybe Feedback.ofJson? feedback
    feedbackDurationMs := ← Json.maybe Json.nat64? duration
    stimulusColor := ← Json.need Json.str? color
    backgroundColor := ← Json.need Json.str? background }

end TrialSpec

/-! ### Groupings and instances -/

namespace Grouping

def fields : Grouping → List (String × Json)
  | .fixed blockRepetition =>
    [("grouping", .str "fixed"), ("blockRepetition", Json.nat blockRepetition)]
  | .sectioned sectionId sectionRepetition =>
    [("grouping", .str "sectioned"), ("section", Json.int sectionId),
      ("sectionRepetition", Json.nat sectionRepetition)]

def toJson (g : Grouping) : Json := .obj g.fields

/-- The grouping of a variant's name and data. -/
def ofVariant? (name : String) (data : Json) : Option Grouping := do
  if name = "fixed" then
    let [repetition] ← data.record? ["blockRepetition"] | none
    pure (.fixed (← Json.need Json.nat32? repetition))
  else if name = "sectioned" then
    let [sectionId, repetition] ← data.record? ["section", "sectionRepetition"] | none
    pure (.sectioned (← Json.need Json.int64? sectionId) (← Json.need Json.nat32? repetition))
  else none

def ofJson? (v : Json) : Option Grouping := do
  let (name, data) ← v.tagged? "grouping" 0
  ofVariant? name data

/-- The name of a variant among the fields of an owner, where it may also be given by its
    number in declaration order. -/
def flattenedName? : Json → Option String
  | .str name => some name
  | v => v.nat64?.bind (["fixed", "sectioned"][·]?)

/-- The grouping among those fields of an owner that are not the owner's own, at a level. -/
def ofFields? (level : Nat) (fields : List (String × Json)) : Option Grouping := do
  if !Json.canKeepFields level fields then none
  let name ← (← Json.only? "grouping" fields).bind flattenedName?
  ofVariant? name (.obj fields)

end Grouping

def TrialInstance.toJson (t : TrialInstance) : Json :=
  .obj ([("spec", t.spec.toJson), ("repetition", Json.nat t.repetition)] ++ t.grouping.fields
    ++ [("sequencePosition", Json.nat t.sequencePosition)])

end TimedTrials
