/-
  TimedTrials/Json/Reader.lean
  ============================
  **Reading JSON text.**

  The reader is strict: blanks are the space, the tab and the two line-break characters, a
  number has no leading zeros and digits on both sides of its point, a string holds no raw
  control characters, and nothing follows the value.

  Each nested value takes one unit of fuel more than the one around it, and a value is never
  longer than its text, so the length of the text is always fuel enough.
-/
import TimedTrials.Json.Basic

namespace TimedTrials.Json.Reader

/-! ### Tokens -/

def isSpace (c : Char) : Bool := c = ' ' || c = '\n' || c = '\t' || c = '\r'

def skip (cs : List Char) : List Char := cs.dropWhile isSpace

def hexValue? (c : Char) : Option Nat :=
  if '0' ≤ c ∧ c ≤ '9' then some (c.toNat - 48)
  else if 'a' ≤ c ∧ c ≤ 'f' then some (c.toNat - 87)
  else if 'A' ≤ c ∧ c ≤ 'F' then some (c.toNat - 55)
  else none

/-- The code unit of four hexadecimal digits. -/
def hex4? (a b c d : Char) : Option Nat := do
  let a ← hexValue? a
  let b ← hexValue? b
  let c ← hexValue? c
  let d ← hexValue? d
  pure (((a * 16 + b) * 16 + c) * 16 + d)

/-- The character of a code unit that is no surrogate. -/
def scalar? (n : Nat) : Option Char :=
  if 0xd800 ≤ n ∧ n ≤ 0xdfff then none else some (Char.ofNat n)

/-- The character of two surrogates. -/
def pair? (high low : Nat) : Option Char :=
  if 0xd800 ≤ high ∧ high ≤ 0xdbff ∧ 0xdc00 ≤ low ∧ low ≤ 0xdfff then
    some (Char.ofNat (0x10000 + (high - 0xd800) * 0x400 + (low - 0xdc00)))
  else none

/-- The character behind a backslash that has a short escape. -/
def shortEscape? (c : Char) : Option Char :=
  match c with
  | '"' => some '"'
  | '\\' => some '\\'
  | '/' => some '/'
  | 'b' => some (Char.ofNat 8)
  | 'f' => some (Char.ofNat 12)
  | 'n' => some '\n'
  | 'r' => some '\r'
  | 't' => some '\t'
  | _ => none

/-- The rest of a string behind its opening quote: its code points, where a half of a
    surrogate pair counts as one, and the text behind the closing quote. -/
def stringRest : List Char → Option (List Nat × List Char)
  | [] => none
  | '"' :: rest => some ([], rest)
  | '\\' :: 'u' :: a :: b :: c :: d :: rest =>
    match hex4? a b c d with
    | some n => (stringRest rest).map fun p => (n :: p.1, p.2)
    | none => none
  | '\\' :: c :: rest =>
    match shortEscape? c with
    | some x => (stringRest rest).map fun p => (x.toNat :: p.1, p.2)
    | none => none
  | c :: rest =>
    if c.toNat < 0x20 || c = '\\' then none
    else (stringRest rest).map fun p => (c.toNat :: p.1, p.2)

/-- The text of code points, if every half of a surrogate pair stands in one. -/
def textOf? : List Nat → Option (List Char)
  | [] => some []
  | [n] => (scalar? n).map ([·])
  | n :: m :: rest =>
    match pair? n m with
    | some c => (textOf? rest).map (c :: ·)
    | none => do
      let c ← scalar? n
      let cs ← textOf? (m :: rest)
      pure (c :: cs)

def text? (points : List Nat) : Option String := (textOf? points).map String.ofList

def string (points : List Nat) : Json := ((text? points).map Json.str).getD .unreadable

/-- The value of an object whose fields may have names without a text. -/
def object (fields : List (Option String × Json)) : Json :=
  match fields.mapM fun f => f.1.map fun name => (name, f.2) with
  | some fields => .obj fields
  | none => .unreadable

def digits (cs : List Char) : List Char × List Char :=
  (cs.takeWhile Char.isDigit, cs.dropWhile Char.isDigit)

def fraction? (cs : List Char) : Option (Option (List Char) × List Char) :=
  match cs with
  | '.' :: rest =>
    let (ds, rest) := digits rest
    if ds.isEmpty then none else some (some ds, rest)
  | cs => some (none, cs)

def exponent? (cs : List Char) : Option (Option (Bool × List Char) × List Char) :=
  let tail (negative : Bool) (cs : List Char) :=
    let (ds, rest) := digits cs
    if ds.isEmpty then none else some (some (negative, ds), rest)
  match cs with
  | c :: rest =>
    if c = 'e' || c = 'E' then
      match rest with
      | '+' :: rest => tail false rest
      | '-' :: rest => tail true rest
      | rest => tail false rest
    else some (none, cs)
  | [] => some (none, [])

def numeral? (cs : List Char) : Option (Numeral × List Char) := do
  let (negative, cs) := match cs with
    | '-' :: rest => (true, rest)
    | cs => (false, cs)
  let (whole, cs) := digits cs
  if whole.isEmpty || (whole.length > 1 && whole.head? = some '0') then none
  let (fraction, cs) ← fraction? cs
  let (exponent, cs) ← exponent? cs
  pure (⟨negative, whole, fraction, exponent⟩, cs)

def word? (w : String) (value : Json) (cs : List Char) : Option (Json × List Char) :=
  if cs.take w.length = w.toList then some (value, cs.drop w.length) else none

/-! ### Values -/

mutual

def value : Nat → List Char → Option (Json × List Char)
  | 0, _ => none
  | fuel + 1, cs =>
    match skip cs with
    | '"' :: rest => (stringRest rest).map fun p => (string p.1, p.2)
    | '[' :: rest =>
      match skip rest with
      | ']' :: rest => some (.arr [], rest)
      | rest => (items fuel rest).map fun p => (.arr p.1, p.2)
    | '\x7b' :: rest =>
      match skip rest with
      | '\x7d' :: rest => some (.obj [], rest)
      | rest => (fields fuel rest).map fun p => (object p.1, p.2)
    | 'n' :: rest => word? "ull" .null rest
    | 't' :: rest => word? "rue" (.bool true) rest
    | 'f' :: rest => word? "alse" (.bool false) rest
    | cs => (numeral? cs).map fun p => (.num p.1, p.2)

/-- The items of a list up to its closing bracket. -/
def items : Nat → List Char → Option (List Json × List Char)
  | 0, _ => none
  | fuel + 1, cs => do
    let (v, cs) ← value fuel cs
    match skip cs with
    | ',' :: rest => (items fuel rest).map fun p => (v :: p.1, p.2)
    | ']' :: rest => some ([v], rest)
    | _ => none

/-- The fields of an object up to its closing brace. -/
def fields : Nat → List Char → Option (List (Option String × Json) × List Char)
  | 0, _ => none
  | fuel + 1, cs => do
    match skip cs with
    | '"' :: rest =>
      let (k, rest) ← stringRest rest
      match skip rest with
      | ':' :: rest =>
        let (v, rest) ← value fuel rest
        match skip rest with
        | ',' :: rest => (fields fuel rest).map fun p => ((text? k, v) :: p.1, p.2)
        | '\x7d' :: rest => some ([(text? k, v)], rest)
        | _ => none
      | _ => none
    | _ => none

end

end TimedTrials.Json.Reader

namespace TimedTrials.Json

/-- The value of a JSON text, if the text is one value and nothing else. -/
def read? (s : String) : Option Json :=
  let cs := s.toList
  match Reader.value (cs.length + 1) cs with
  | some (v, rest) => if (Reader.skip rest).isEmpty then some v else none
  | none => none

end TimedTrials.Json
