/-
  TimedTrials/Text/Percent.lean
  =============================
  **Percent-encoding**: a character that cannot stand for itself is written as its bytes, each
  one as a percent sign and two hexadecimal digits.
-/
import TimedTrials.Json.Reader

namespace TimedTrials.Text

def percentByte (b : UInt8) : List Char :=
  let digits := (Nat.toDigits 16 b.toNat).map Char.toUpper
  '%' :: List.replicate (2 - digits.length) '0' ++ digits

/-- A character as its bytes when it is a control, lies outside of ASCII, or is one of the given
    others. -/
def percentEncodeChar (others : List Char) (c : Char) : List Char :=
  if c.toNat < 0x20 || 0x7e < c.toNat || others.contains c then
    (String.singleton c).toUTF8.toList.flatMap percentByte
  else [c]

def percentEncode (others cs : List Char) : String :=
  String.ofList (cs.flatMap (percentEncodeChar others))

def percentDecode : List Char → List UInt8
  | '%' :: a :: b :: rest =>
    match Json.Reader.hexValue? a, Json.Reader.hexValue? b with
    | some x, some y => (x * 16 + y).toUInt8 :: percentDecode rest
    | _, _ => 0x25 :: percentDecode (a :: b :: rest)
  | c :: rest => (String.singleton c).toUTF8.toList ++ percentDecode rest
  | [] => []

/-- The text that the bytes of a percent-encoded text are, if they are one. -/
def percentText? (cs : List Char) : Option String := String.fromUTF8? ⟨(percentDecode cs).toArray⟩

end TimedTrials.Text
