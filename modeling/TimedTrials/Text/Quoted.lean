/-
  TimedTrials/Text/Quoted.lean
  ============================
  **Quoting a value inside a message.**

  Messages show an authored value in double quotes, so that blanks and invisible characters
  can be seen: quotes, backslashes and the usual controls have short escapes, every other
  character without a visible form of its own is written `\u{…}` with its code point in
  hexadecimal.
-/
import TimedTrials.Text.Case
import TimedTrials.Text.PrintTable

namespace TimedTrials.Text

/-- A character that a message shows as itself. -/
def isVisible (c : Char) : Bool :=
  if c.toNat < 0x7f then decide (0x20 ≤ c.toNat)
  else !inRanges unprintableRanges c.toNat && !inRanges meltingRanges c.toNat

def hexDigits (n : Nat) : List Char := Nat.toDigits 16 n

def quoteChar (c : Char) : List Char :=
  if c = '"' then ['\\', '"']
  else if c = '\\' then ['\\', '\\']
  else if c = '\n' then ['\\', 'n']
  else if c = '\r' then ['\\', 'r']
  else if c = '\t' then ['\\', 't']
  else if c.toNat = 0 then ['\\', '0']
  else if isVisible c then [c]
  else ['\\', 'u', '\x7b'] ++ hexDigits c.toNat ++ ['\x7d']

/-- The text in double quotes, with every character that cannot be seen escaped. -/
def quote (s : String) : String :=
  String.ofList ('"' :: s.toList.flatMap quoteChar ++ ['"'])

/-- A path in double quotes. Here a single quote counts as one that could end the text, and is
    escaped as well. -/
def quotePath (s : String) : String :=
  String.ofList ('"' :: (s.toList.flatMap fun c => if c = '\'' then ['\\', '\''] else quoteChar c)
    ++ ['"'])

/-- A list of quoted texts in brackets. -/
def quoteList (xs : List String) : String :=
  "[" ++ String.intercalate ", " (xs.map quote) ++ "]"

end TimedTrials.Text
