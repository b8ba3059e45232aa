/-
  TimedTrials/Failure.lean
  ========================
  **What a user is told when something fails**: a message and the chain of its causes.
-/
import TimedTrials.Number.Integer

namespace TimedTrials

structure Failure where
  message : String
  causes : List String
deriving DecidableEq, Repr

namespace Failure

def plain (message : String) : Failure := ⟨message, []⟩

/-- What was being done when a failure happened. -/
def during (message : String) (f : Failure) : Failure := ⟨message, f.message :: f.causes⟩

def indented (first others text : String) : String :=
  match (text.toList.splitOn '\n').map String.ofList with
  | [] => first
  | line :: rest => first ++ line ++ String.join (rest.map fun l => "\n" ++ others ++ l)

/-- A cause among several, with its number at the right of five columns. -/
def numbered (n : Nat) (cause : String) : String :=
  let number := String.ofList (Number.natDigits n)
  indented ("".pushn ' ' (5 - number.length) ++ number ++ ": ") "       " cause

/-- The whole text: the message, and below it the causes, numbered when there are several. -/
def text (f : Failure) : String :=
  match f.causes with
  | [] => f.message
  | [cause] => f.message ++ "\n\nCaused by:\n" ++ indented "    " "    " cause
  | causes =>
    f.message ++ "\n\nCaused by:" ++ String.join ((causes.mapIdx numbered).map ("\n" ++ ·))

end Failure

end TimedTrials
