/-
  TimedTrials/Json/Access.lean
  ============================
  **Looking into a document that need not be complete.**

  Whatever is missing or has another shape counts as its default: null, an empty text, an
  empty list, zero or false. Documents that have to be exact are read as records instead.
-/
import TimedTrials.Json.Record

namespace TimedTrials.Json

/-! ### The value itself -/

def asText (v : Json) : String := v.str?.getD ""

def asInt : Json → Int
  | .num n => n.toInt?.getD 0
  | _ => 0

def asNat (v : Json) : Nat := v.asInt.toNat

def asFloat (v : Json) : Float := v.float?.getD 0

def items : Json → List Json
  | .arr xs => xs
  | _ => []

def item (v : Json) (i : Nat) : Json := v.items.getD i .null

def isGiven : Json → Bool
  | .null => false
  | _ => true

/-! ### A field of an object -/

def get (v : Json) (name : String) : Json := (v.field? name).getD .null

/-- Whether the field is there and is not null. -/
def has (v : Json) (name : String) : Bool := (v.get name).isGiven

def text (v : Json) (name : String) : String := (v.get name).asText

def textOr (v : Json) (name other : String) : String := (v.get name).str?.getD other

def text? (v : Json) (name : String) : Option String := (v.get name).str?

def natOr (v : Json) (name : String) (other : Nat) : Nat :=
  if v.has name then (v.get name).asNat else other

def nat? (v : Json) (name : String) : Option Nat :=
  if v.has name then some (v.get name).asNat else none

def intOr (v : Json) (name : String) (other : Int) : Int :=
  if v.has name then (v.get name).asInt else other

def boolOr (v : Json) (name : String) (other : Bool) : Bool := (v.get name).bool?.getD other

def itemsOf (v : Json) (name : String) : List Json := (v.get name).items

def texts (v : Json) (name : String) : List String := (v.itemsOf name).map asText

end TimedTrials.Json
