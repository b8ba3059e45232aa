/-
  TimedTrials/Trial/Response.lean
  ===============================
  **How a trial accepts a response**, read from a cell of the table.

  A cell is `NA` or empty (the trial only ends through its latency), a list of keys separated
  by commas, or a text entry: `[text]` or `[text(placeholder=…, maxlength=N, width=N)]`. The
  options stand between the first opening and the last closing parenthesis of the cell; an
  option that is not understood is reported and passed over.
-/
import TimedTrials.Number.Integer
import TimedTrials.Text.Search
import TimedTrials.Trial.Key

namespace TimedTrials

/-- What was read from a cell, with the tokens that were not understood. -/
structure Reading (α : Type) where
  value : α
  ignored : List String
deriving DecidableEq, Repr

structure TextEntry where
  placeholder : Option String
  maxLength : Option Nat
  widthPx : Option Nat
deriving DecidableEq, Repr

def TextEntry.plain : TextEntry := ⟨none, none, none⟩

/-- How a trial accepts a response. The keys are kept as they were authored. -/
inductive Response where
  | none
  | keys (tokens : List String)
  | text (options : TextEntry)
deriving DecidableEq, Repr

namespace TextEntry

def isQuote (c : Char) : Bool := c == '"' || c == '\''

/-- Takes one option: a known name with a usable value is set, anything else is reported. -/
def takeOption (state : Reading TextEntry) (token : List Char) : Reading TextEntry :=
  let report : Reading TextEntry := ⟨state.value, state.ignored ++ [String.ofList token]⟩
  match Text.cutAt? (· == '=') token with
  | none => report
  | some (name, _, value) =>
    let value := Text.stripEnds isQuote (Text.trimChars value)
    let name := String.ofList (Text.lowerChars (Text.trimChars name))
    if name = "placeholder" then
      ⟨{ state.value with placeholder := some (String.ofList value) }, state.ignored⟩
    else if name = "maxlength" then
      match Number.readNat? Number.max32 value with
      | some n => ⟨{ state.value with maxLength := some n }, state.ignored⟩
      | none => report
    else if name = "width" then
      match Number.readNat? Number.max32 value with
      | some n => ⟨{ state.value with widthPx := some n }, state.ignored⟩
      | none => report
    else report

def tokens (cs : List Char) : List (List Char) :=
  ((cs.splitOn ',').map Text.trimChars).filter (!·.isEmpty)

def read (cell : List Char) : Reading TextEntry :=
  match Text.cutAt? (· == '(') cell with
  | none => ⟨plain, []⟩
  | some (_, _, rest) =>
    match Text.cutLast? ')' rest with
    | none => ⟨plain, []⟩
    | some (options, _) => (tokens options).foldl takeOption ⟨plain, []⟩

end TextEntry

namespace Response

def textMark : List Char := "[text".toList

/-- The key list of a cell, which is no response at all when it names no key. -/
def ofKeys (tokens : List String) : Response :=
  if tokens.isEmpty then .none else .keys tokens

def read (raw : String) : Reading Response :=
  let cell := Text.trimChars raw.toList
  if cell.isEmpty || isNA raw then ⟨.none, []⟩
  else if (Text.dropHead? textMark cell).isSome then
    let entry := TextEntry.read cell
    ⟨.text entry.value, entry.ignored⟩
  else ⟨ofKeys ((TextEntry.tokens cell).map String.ofList), []⟩

def isNone : Response → Bool
  | .none => true
  | _ => false

def isText : Response → Bool
  | .text _ => true
  | _ => false

/-- The authored keys; none for a trial that takes no keys. -/
def keyOptions : Response → List String
  | .keys tokens => tokens
  | _ => []

def acceptsKey (r : Response) (key : String) : Bool := r.keyOptions.any (Key.same · key)

end Response

end TimedTrials
