/-
  TimedTrials/Table/Csv.lean
  ==========================
  **Comma-separated records**, as bytes.

  The reader is a machine that takes one byte at a time. Fields end at commas, records at a
  line feed, a carriage return or both; empty lines are passed over. A quote counts only at
  the start of a field: inside of quotes everything is literal and a doubled quote is one
  quote, text behind the closing quote is literal, and an open quote runs to the end.

  The writer puts quotes around a field that holds a comma, a quote or a line-break character,
  and around the only field of a record when it is empty.
-/
namespace TimedTrials.Csv

/-! ### Bytes with a meaning -/

def comma : UInt8 := 0x2c
def quote : UInt8 := 0x22
def lineFeed : UInt8 := 0x0a
def carriageReturn : UInt8 := 0x0d

/-- The bytes that end a record. -/
def endsRecord (b : UInt8) : Bool := b == lineFeed || b == carriageReturn

/-! ### Reading -/

inductive Mode where
  | recordStart
  | fieldStart
  | plain
  | quoted
  | quoteSeen
deriving DecidableEq, Repr

/-- A field, a record and a file, each in the making with its newest part first. -/
structure Reader where
  mode : Mode
  field : List UInt8
  fields : List (List UInt8)
  records : List (List (List UInt8))
deriving DecidableEq, Repr

namespace Reader

def start : Reader := ⟨.recordStart, [], [], []⟩

def take (r : Reader) (mode : Mode) (b : UInt8) : Reader :=
  { r with mode := mode, field := b :: r.field }

def endField (r : Reader) : Reader :=
  { r with mode := .fieldStart, field := [], fields := r.field.reverse :: r.fields }

def endRecord (r : Reader) : Reader :=
  ⟨.recordStart, [], [], (r.field.reverse :: r.fields).reverse :: r.records⟩

/-- Takes a byte outside of quotes. -/
def plainByte (r : Reader) (b : UInt8) : Reader :=
  if b = comma then r.endField
  else if endsRecord b then r.endRecord
  else r.take .plain b

def step (r : Reader) (b : UInt8) : Reader :=
  match r.mode with
  | .recordStart =>
    if endsRecord b then r
    else if b = quote then { r with mode := .quoted }
    else r.plainByte b
  | .fieldStart => if b = quote then { r with mode := .quoted } else r.plainByte b
  | .plain => r.plainByte b
  | .quoted => if b = quote then { r with mode := .quoteSeen } else r.take .quoted b
  | .quoteSeen => if b = quote then r.take .quoted b else r.plainByte b

def finish (r : Reader) : List (List (List UInt8)) :=
  match r.mode with
  | .recordStart => r.records.reverse
  | _ => r.endRecord.records.reverse

end Reader

/-- The bytes behind a byte order mark, if there is one. -/
def withoutMark : List UInt8 → List UInt8
  | 0xef :: 0xbb :: 0xbf :: rest => rest
  | bytes => bytes

def records (bytes : List UInt8) : List (List (List UInt8)) :=
  ((withoutMark bytes).foldl Reader.step Reader.start).finish

/-! ### Writing -/

def needsQuotes (field : List UInt8) : Bool :=
  field.any fun b => b == comma || b == quote || endsRecord b

/-- A field with every quote doubled. -/
def doubled (field : List UInt8) : List UInt8 :=
  field.flatMap fun b => if b = quote then [quote, quote] else [b]

def writeField (field : List UInt8) : List UInt8 :=
  if needsQuotes field then quote :: doubled field ++ [quote] else field

def separated : List (List UInt8) → List UInt8
  | [] => []
  | [x] => x
  | x :: xs => x ++ comma :: separated xs

/-- The written form of a record. A single empty field would be an empty line, and is quoted. -/
def writeRecord (fields : List (List UInt8)) : List UInt8 :=
  if fields = [[]] then [quote, quote, lineFeed]
  else separated (fields.map writeField) ++ [lineFeed]

def write (records : List (List (List UInt8))) : List UInt8 := records.flatMap writeRecord

/-! ### Text -/

def encode (s : String) : List UInt8 := s.toUTF8.toList

def decode? (bytes : List UInt8) : Option String := String.fromUTF8? ⟨bytes.toArray⟩

end TimedTrials.Csv
