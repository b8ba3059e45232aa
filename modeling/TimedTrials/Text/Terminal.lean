/-
  TimedTrials/Text/Terminal.lean
  ==============================
  **Text that was meant for a terminal, shown where there is none.**

  Control sequences are left out, and so are control characters that are no blanks. A blank in
  the middle of a sequence shows, and what follows it shows until the next control character,
  where the sequence goes on.
-/
namespace TimedTrials.Text.Terminal

inductive Mode where
  | text
  | escape
  | escapeMiddle
  | control
  | device
  | deviceParameter
  | deviceMiddle
  /-- Text for a device or a program, up to a terminator. -/
  | sealedText
  | systemCommand
deriving DecidableEq, Repr

/-- The control characters that end any sequence: cancel and substitute. -/
def endsSequence (n : Nat) : Bool := n == 0x18 || n == 0x1a

def escapeCode : Nat := 0x1b

def terminator : UInt8 := 0x9c

def Mode.afterEscape (n : Nat) : Mode :=
  if n < 0x30 then .escapeMiddle
  else if n = 0x5b then .control
  else if n = 0x5d then .systemCommand
  else if n = 0x50 then .device
  else if n = 0x58 ∨ n = 0x5e ∨ n = 0x5f then .sealedText
  else .text

/-- The mode behind a visible character of ASCII or a space. -/
def Mode.afterVisible (m : Mode) (n : Nat) : Mode :=
  match m with
  | .text => .text
  | .escape => .afterEscape n
  | .escapeMiddle => if n < 0x30 then .escapeMiddle else .text
  | .control => if n < 0x40 then .control else .text
  | .device =>
    if n < 0x30 then .deviceMiddle else if n < 0x40 then .deviceParameter else .sealedText
  | .deviceParameter =>
    if n < 0x30 then .deviceMiddle else if n < 0x3c then .deviceParameter else .sealedText
  | .deviceMiddle => if n < 0x30 then .deviceMiddle else .sealedText
  | .sealedText => .sealedText
  | .systemCommand => .systemCommand

def Mode.after (m : Mode) (c : Char) : Mode :=
  let n := c.toNat
  if endsSequence n then .text
  else if n = escapeCode then .escape
  else if n < 0x20 then if m = .systemCommand ∧ n = 0x07 then .text else m
  else if n < 0x7f then m.afterVisible n
  else if m = .sealedText ∧ (String.singleton c).toUTF8.toList.contains terminator then .text
  else m

/-- A control character that shows as a blank. -/
def isShownBlank (c : Char) : Bool :=
  c == '\t' || c == '\n' || c == '\r' || c.toNat == 0x0c

/-- Whether a character can show at all. -/
def canShow (c : Char) : Bool :=
  isShownBlank c || (decide (0x20 ≤ c.toNat) && c.toNat != 0x7f)

/-- The modes in which a blank shows. -/
def Mode.showsBlanks : Mode → Bool
  | .text | .escape | .escapeMiddle | .control => true
  | _ => false

def Mode.shows (m : Mode) (c : Char) : Bool :=
  canShow c && (m == .text || (m.showsBlanks && isShownBlank c))

/-- What shows of a text; `showing` tells that the last character did. Then all that can show
    does, and a character outside of ASCII ends a sequence that was interrupted. -/
def shown : Mode → Bool → List Char → List Char
  | _, _, [] => []
  | m, showing, c :: rest =>
    if canShow c ∧ (showing ∨ m.shows c) then
      c :: shown (if 0x80 ≤ c.toNat then .text else m) true rest
    else shown (m.after c) false rest

/-- A text without its control sequences. -/
def plain (s : String) : String := String.ofList (shown .text false s.toList)

end TimedTrials.Text.Terminal
