/-
  TimedTrials/Main.lean
  =====================
  **The program.**

  It reads its arguments, looks at the paths on the disk that the command needs, lets the
  command work on the tree of files it has seen, and writes the files that have changed. A
  sequence that is presented in the terminal runs against the real clock, beside a reader that
  takes lines as they are typed.
-/
import Std.Time.DateTime.Timestamp
import TimedTrials.Command.Invocation
import TimedTrials.Command.Outlook
import TimedTrials.Command.ReportLine
import TimedTrials.Storage.Changes

namespace TimedTrials.Program

/-! ### The disk -/

/-- Adds what is at a path, and what is below it so many levels deep. -/
def look (content : Bool) : Nat → Storage → String → IO Storage
  | depth, s, path => do
    try
      let found ← IO.FS.realPath path
      if ← found.isDir then
        let s := s.mounted path .directory
        match depth with
        | 0 => pure s
        | depth + 1 =>
          let names := (← found.readDir).toList.map (·.fileName)
          names.foldlM (fun s name => look content depth s (Path.join path name)) s
      else
        let bytes ← if content then IO.FS.readBinFile path else pure ByteArray.empty
        pure (s.mounted path (.file bytes true))
    catch _ => pure s

def glance (s : Storage) (g : Glance) : IO Storage := do
  let s ← (Path.leading g.path).dropLast.foldlM (look false 0) s
  look g.content g.depth s g.path

/-- Adds what is looked at, and the interpreters of scripts there, so many times. -/
def glances : Nat → Storage → List Glance → IO Storage
  | 0, s, _ => pure s
  | rounds + 1, s, outlook => do
    let s ← outlook.foldlM glance s
    glances rounds s (Command.interpreterOutlook s outlook)

def snapshot (outlook : List Glance) : IO Storage := do
  let here := Path.components (← IO.currentDir).toString
  glances (Storage.maxScripts + 2) (Storage.empty here) outlook

/-- Writes the files that have changed, below directories that are made for them. -/
def writeChanges (before after : Storage) : IO Unit :=
  (before.changedSince after).forM fun (path, content) => do
    match (Path.leading path).dropLast.getLast? with
    | some dir => IO.FS.createDirAll dir
    | none => pure ()
    IO.FS.writeBinFile path content

/-! ### Surroundings -/

def startClock : IO (IO Clock) := do
  let epoch := (← Std.Time.Timestamp.now).toNanosecondsSinceUnixEpoch.val
  let origin ← IO.monoNanosNow
  pure do pure ⟨epoch, (← IO.monoNanosNow) - origin⟩

/-- A generator with a seed that nobody knows. -/
def freshGenerator : IO Random.Generator := do
  let bytes ← IO.getRandomBytes 8
  pure (Random.Generator.ofSeed (bytes.toList.foldl (fun n b => n * 256 + b.toNat) 0))

def environmentOf (names : List String) : IO Command.Environment := do
  let values ← names.mapM fun name => return (name, ← IO.getEnv name)
  pure fun name => (values.lookup name).join

/-- The first bytes of the font files that can be used. -/
def fontMarks : List (List UInt8) := [[0, 1, 0, 0], "OTTO".toUTF8.toList, "true".toUTF8.toList]

/-- A font by the mark of its file. Texts on a canvas are drawn with boxes. -/
def decodeFont (bytes : ByteArray) : Option Font :=
  if fontMarks.contains (bytes.toList.take 4) then some Font.boxes else none

/-- The number of the program's first thread, which commands run on. It is that of the process. -/
def threadNumber : IO Nat := do
  try
    let own ← IO.FS.realPath "/proc/self"
    pure ((own.fileName.bind (·.toNat?)).getD 0)
  catch _ => pure 0

/-! ### The terminal -/

def printLines (lines : List String) : IO Unit := do
  lines.forM IO.println
  (← IO.getStdout).flush

/-- What the reader of lines and the run share: whether a text is expected, and the channel. -/
structure Shared where
  expectsText : IO.Ref Bool
  channel : IO.Ref Channel

/-- Reads lines until the input ends. Each is judged by what is expected when it is read. -/
partial def readLines (shared : Shared) : IO Unit := do
  let line ← (← IO.getStdin).getLine
  if line.isEmpty then
    shared.channel.modify fun c => (c.send .closed).2.close
  else
    let input := Console.readLine (← shared.expectsText.get) line
    shared.channel.modify fun c => (c.send input).2
    readLines shared

/-- Waits for an input until a reading of the clock. -/
partial def awaitInput (clock : IO Clock) (shared : Shared) (limit : Option Nat) :
    IO (Option Input) := do
  let now ← clock
  let input ← shared.channel.modifyGet fun c =>
    let waited := Channel.wait c now none
    (waited.input, waited.source)
  match input with
  | some input => pure (some input)
  | none =>
    if limit.any (· ≤ now.now) then
      pure none
    else
      IO.sleep 1
      awaitInput clock shared limit

/-- Announces the changes of a run since an earlier state of its loop: what is expected is noted
    before the screen is printed. -/
def announce (shared : Shared) (changes : List Run.Change) : IO Unit :=
  changes.forM fun change => do
    shared.expectsText.set (Console.expectsText change.run)
    printLines (Console.screen change.run)

/-- Goes round until the run is over. -/
partial def rounds (clock : IO Clock) (shared : Shared) (d : Run.Driven Unit) :
    IO (Run.Ending × Run.Driven Unit) := do
  let observe : Unit → Run.Change → Unit := fun _ _ => ()
  let polled := { d with clock := ← clock }.poll observe
  announce shared (polled.changes.drop d.changes.length)
  match polled.next with
  | .done ending d => pure (ending, d)
  | .sleep deadline =>
    IO.sleep (((deadline - (← clock).now) / Calendar.perMilli + 1).toUInt32)
    rounds clock shared polled
  | .await =>
    match ← awaitInput clock shared polled.run.nextDeadline with
    | none => rounds clock shared polled
    | some input =>
      let told := { polled with clock := ← clock }.receive observe input
      announce shared (told.changes.drop polled.changes.length)
      rounds clock shared told

def present (clock : IO Clock) (s : Storage) (log : Log) (p : Presentation)
    (g : Random.Generator) : IO Performed := do
  let shared : Shared := ⟨← IO.mkRef false, ← IO.mkRef Channel.new⟩
  let _ ← IO.asTask (readLines shared) Task.Priority.dedicated
  let started := Run.started (fun _ _ => ()) p.newRun (← clock) ()
  announce shared started.changes
  let (ending, d) ← rounds clock shared started
  pure (Command.presented log (Console.finish p s g ending d))

/-! ### The program -/

def run (report : ReportChoice) (environment : Command.Environment) (command : Command) :
    IO UInt32 := do
  let storage ← snapshot (command.outlook environment)
  let clock ← startClock
  let around : Surroundings :=
    ⟨storage, environment, ← clock, ← freshGenerator, decodeFont, ← threadNumber⟩
  let performed ← match command.begin around with
    | .done p => pure p
    | .present log p g => present clock storage log p g
  writeChanges storage performed.storage
  printLines performed.printed
  let instant := (← clock).wall
  (performed.reports.filterMap (·.line? report instant)).forM IO.eprintln
  pure performed.exitCode.toUInt32

end TimedTrials.Program

open TimedTrials in
def main (args : List String) : IO UInt32 := do
  let environment ← Program.environmentOf Command.environmentNames
  match Command.Invocation.ofArguments environment args with
  | .print text =>
    IO.print text
    pure 0
  | .misuse =>
    IO.eprintln Command.Help.misuse
    pure 2
  | .perform report command => Program.run report environment command
