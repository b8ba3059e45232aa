/-
  TimedTrials/Endpoint/Host.lean
  ==============================
  **Who asks whom: the authority of an address.**

  User and password stand before the last `@`, and the socket number behind the first colon that
  is in no bracket. The host of a known scheme is a name or a number; in other schemes it is a
  text of its own.
-/
import TimedTrials.Domain.Name
import TimedTrials.Endpoint.Basic
import TimedTrials.Endpoint.Numeric
import TimedTrials.Endpoint.Path
import TimedTrials.Text.Percent

namespace TimedTrials.Endpoint

/-! ### Hosts -/

def knownHost? (cs : List Char) : Option String := do
  if cs.head? == some '[' then bracketedHost? cs
  else
    let name ← Domain.ascii? (← Text.percentText? cs)
    if name.isEmpty then none
    else if endsInNumber name.toList then dottedAddress? name.toList
    else some name

/-- Characters that the host of another scheme does not have. -/
def deniedInOther : List Char :=
  [Char.ofNat 0, ' ', '#', '/', ':', '<', '>', '?', '@', '[', '\\', ']', '^', '|']

def otherHost? (cs : List Char) : Option String :=
  if cs.head? == some '[' then bracketedHost? cs
  else if cs.any deniedInOther.contains then none
  else some (Text.percentEncode [] cs)

/-- The host of an address that names a file, which is empty for this machine. -/
def fileHost? (cs : List Char) : Option String := do
  if cs.isEmpty || isDrive cs then some ""
  else
    let host ← knownHost? cs
    some (if host = "localhost" then "" else host)

/-! ### Users -/

/-- What is encoded in a user and a password. -/
def userSet : List Char := pathSet ++ "/:;=@[\\]^|".toList

def asking (cs : List Char) : (String × Option String) × List Char :=
  match Text.cutLast? '@' cs with
  | none => (("", none), cs)
  | some (before, rest) =>
    match Text.cutAt? (· == ':') before with
    | none => ((Text.percentEncode userSet before, none), rest)
    | some (user, _, password) =>
      ((Text.percentEncode userSet user,
        if password.isEmpty then none else some (Text.percentEncode userSet password)), rest)

/-! ### Sockets -/

/-- The text up to the first colon outside of brackets, and what follows it. -/
def splitSocket : Bool → List Char → List Char × Option (List Char)
  | _, [] => ([], none)
  | inside, c :: rest =>
    if c = ':' ∧ inside = false then ([], some rest)
    else
      let (host, socket) := splitSocket (c == '[' || (inside && c != ']')) rest
      (c :: host, socket)

def maxSocket : Nat := 65535

/-- The socket at the head of a text, where the scheme's own one is left out, and what follows.
    Only a slash, or a backslash, may follow. -/
def socket? (scheme : String) (cs : List Char) : Option (Option Nat × List Char) :=
  let digits := cs.takeWhile Char.isDigit
  let rest := cs.drop digits.length
  if rest.isEmpty || rest.head? == some '\\' then
    if digits.isEmpty then some (none, rest)
    else do
      let n ← Number.ofDigits? digits
      if maxSocket < n then none
      else some (if defaultSocket? scheme = some n then none else some n, rest)
  else none

/-! ### Authorities -/

/-- The authority of an address with a host, from the text up to the path; `isLast` tells that
    nothing follows. What the text holds behind the socket belongs to the path. -/
def authority? (scheme : String) (isLast : Bool) (cs : List Char) :
    Option (Authority × List Char) := do
  let isOther := SchemeKind.of scheme == .other
  let ((user, password), rest) := asking cs
  let (hostText, socketText) := splitSocket false rest
  if cs == ['@'] && !isLast then none
  let host ← if isOther then otherHost? hostText else knownHost? hostText
  if host.isEmpty && (!user.isEmpty || password.isSome || socketText.isSome) then none
  let (socket, rest) ← match socketText with
    | some text => socket? scheme text
    | none => some (none, [])
  some (⟨user, password, host, socket⟩, rest)

end TimedTrials.Endpoint
