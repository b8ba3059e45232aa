/-
  TimedTrials/Endpoint/Numeric.lean
  =================================
  **Hosts that are numbers.**

  A host whose last part is a number is an address of four bytes. The numbers may be decimal,
  octal or hexadecimal, and the last one fills the bytes that are left. A host in brackets is
  an address of eight groups, where a doubled colon stands for groups of zero. Both have one
  written form each.
-/
import TimedTrials.Json.Reader
import TimedTrials.Number.Integer
import TimedTrials.Text.Search

namespace TimedTrials.Endpoint

/-! ### Four bytes -/

/-- A number of a dotted address: decimal, octal with a leading zero, or hexadecimal. -/
def addressNumber? (cs : List Char) : Option Nat :=
  let digits (base : Nat) (cs : List Char) : Option Nat :=
    cs.foldlM (fun n c => do
      let d ← Json.Reader.hexValue? c
      if d < base then some (n * base + d) else none) 0
  match cs with
  | '0' :: 'x' :: rest => digits 16 rest
  | '0' :: rest => digits 8 rest
  | [] => none
  | cs => digits 10 cs

def dotted (host : List Char) : List (List Char) :=
  let parts := host.splitOn '.'
  if parts.length > 1 && parts.getLast? == some [] then parts.dropLast else parts

/-- Whether a host has to be read as a dotted address: its last part is a number. -/
def endsInNumber (host : List Char) : Bool :=
  match (dotted host).getLast? with
  | some last => (!last.isEmpty && last.all Char.isDigit)
      || ((Text.dropHead? ['0', 'x'] last).isSome && (addressNumber? last).isSome)
  | none => false

/-- A dotted address in its normal form. The last number fills the bytes that are left. -/
def dottedAddress? (host : List Char) : Option String := do
  let numbers ← (dotted host).mapM addressNumber?
  let last ← numbers.getLast?
  let init := numbers.dropLast
  let span := Nat.pow 256 (4 - init.length)
  if 3 < init.length || init.any (255 < ·) || span ≤ last then none
  else
    let value := init.foldl (256 * · + ·) 0 * span + last
    let byte (place : Nat) := toString (value / place % 256)
    some (byte 0x1000000 ++ "." ++ byte 0x10000 ++ "." ++ byte 0x100 ++ "." ++ byte 1)

/-! ### Eight groups -/

def group? (cs : List Char) : Option Nat := do
  let digits ← cs.mapM Json.Reader.hexValue?
  if digits.isEmpty || 4 < digits.length then none
  else some (digits.foldl (fun n d => n * 16 + d) 0)

/-- A byte of the four at the end of a bracketed address, without leading zeros. -/
def decimalByte? (cs : List Char) : Option Nat := do
  let n ← Number.ofDigits? cs
  if 255 < n || (1 < cs.length && cs.head? == some '0') then none else some n

/-- The last part of a bracketed address: a group, or four bytes that fill two groups. -/
def lastGroups? (cs : List Char) : Option (List Nat) :=
  if cs.contains '.' then
    match (cs.splitOn '.').mapM decimalByte? with
    | some [a, b, c, d] => some [a * 256 + b, c * 256 + d]
    | _ => none
  else (group? cs).map fun n => [n]

/-- The groups of a stretch of a bracketed address, which may be empty. Bytes may only stand at
    the end of the whole address. -/
def groups? (atEnd : Bool) (cs : List Char) : Option (List Nat) :=
  if cs.isEmpty then some []
  else do
    let parts := cs.splitOn ':'
    let last ← parts.getLast?
    let init ← parts.dropLast.mapM group?
    pure (init ++ (← if atEnd then lastGroups? last else (group? last).map fun n => [n]))

/-- The eight groups of a bracketed address. A doubled colon stands for the groups of zero that
    are missing. -/
def eightGroups? (cs : List Char) : Option (List Nat) := do
  match Text.cut? [':', ':'] cs with
  | none =>
    let groups ← groups? true cs
    if groups.length = 8 then some groups else none
  | some (before, after) =>
    let front ← groups? false before
    let back ← groups? true after
    let count := front.length + back.length
    if 8 ≤ count then none else some (front ++ List.replicate (8 - count) 0 ++ back)

/-- Where the longest run of zeros begins, the first of several, and how long it is. -/
def longestZeros (groups : List Nat) : Nat × Nat :=
  let runAt (i : Nat) : Nat := ((groups.drop i).takeWhile (· == 0)).length
  (List.range groups.length).foldl
    (fun best i => if best.2 < runAt i then (i, runAt i) else best) (0, 0)

def groupsText (groups : List Nat) : String :=
  ":".intercalate (groups.map fun n => String.ofList (Nat.toDigits 16 n))

/-- A bracketed address in its normal form: the longest run of at least two groups of zero is
    left out. -/
def bracketedHost? (cs : List Char) : Option String := do
  let inner ← Text.dropHead? ['['] cs
  if inner.getLast? != some ']' then none
  let groups ← eightGroups? inner.dropLast
  let (start, length) := longestZeros groups
  pure ("[" ++ (if length < 2 then groupsText groups
    else groupsText (groups.take start) ++ "::" ++ groupsText (groups.drop (start + length)))
    ++ "]")

end TimedTrials.Endpoint
