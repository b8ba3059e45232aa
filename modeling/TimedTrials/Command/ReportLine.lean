/-
  TimedTrials/Command/ReportLine.lean
  ===================================
  **How reports are written as lines**: for a reader, or as JSON for a machine.
-/
import TimedTrials.Clock.Calendar
import TimedTrials.Command.Perform
import TimedTrials.Json.Printer

namespace TimedTrials

def LogValue.shown : LogValue → String
  | .number n => String.ofList (Numeral.ofInt n).chars
  | .time ns => String.ofList (Numeral.ofFloat (Duration.millis ns)).chars
  | .flag b => if b then "true" else "false"
  | .text s => s

def LogValue.toJson : LogValue → Json
  | .number n => .int n
  | .time ns => .float (Duration.millis ns)
  | .flag b => .bool b
  | .text s => .str s

namespace LogEntry

/-- An entry for a reader: the instant, the level in five columns, the message, and the
    fields. -/
def textLine (instant : Int) (e : LogEntry) : String :=
  let level := "".pushn ' ' (5 - e.level.name.length) ++ e.level.name
  " ".intercalate ([Calendar.iso instant, level, e.message]
    ++ e.fields.map fun (name, v) => name ++ "=" ++ v.shown)

/-- An entry as JSON, with the message as its first field. -/
def jsonLine (instant : Int) (e : LogEntry) : String :=
  (Json.obj [("timestamp", .str (Calendar.iso instant)), ("level", .str e.level.name),
    ("fields", .obj (("message", .str e.message)
      :: e.fields.map fun (name, v) => (name, v.toJson)))]).compact

end LogEntry

/-- A report in the form that was chosen; nothing for an entry that is not shown. -/
def Report.line? (choice : ReportChoice) (instant : Int) : Report → Option String
  | .line text => some text
  | .entry e =>
    if choice.shows e then
      some (if choice.json then e.jsonLine instant else e.textLine instant)
    else none

end TimedTrials
