/-
  TimedTrials/Page/Document.lean
  ==============================
  **The page of an experiment as one document.**

  A template has three slots: the title, the payload and the script. They are filled one
  after the other, the title first and the payload last, each in the text that the earlier
  ones have left. The payload stands in a script element as JSON in which no character can
  end the element or begin another one.
-/
import TimedTrials.Log
import TimedTrials.Page.Payload
import TimedTrials.Page.Script
import TimedTrials.Storage.Tree

namespace TimedTrials.Page

/-! ### The template -/

def templateLines : List String := [
  "<!DOCTYPE html>",
  "<html>",
  "<head>",
  "    <meta charset=\"utf-8\">",
  "    <title>\x7b\x7bTITLE\x7d\x7d</title>",
  "    <style>",
  "        body \x7b background-color: darkgrey; color: white; font-family: Arial, sans-serif; height: 100vh; margin: 0; display: flex; justify-content: center; align-items: center; \x7d",
  "        #container \x7b text-align: center; max-width: 90%; \x7d",
  "        #feedback \x7b position: fixed; bottom: 20px; left: 50%; transform: translateX(-50%); padding: 8px 12px; background: rgba(0,0,0,0.6); border-radius: 6px; display: none; \x7d",
  "        #notice \x7b position: fixed; top: 20px; left: 50%; transform: translateX(-50%); padding: 8px 12px; background: rgba(120,0,0,0.8); border-radius: 6px; display: none; \x7d",
  "        input[type='text'] \x7b font-size: 24px; padding: 8px; \x7d",
  "        button \x7b font-size: 18px; padding: 8px 16px; margin-left: 8px; \x7d",
  "    </style>",
  "</head>",
  "<body>",
  "    <div id=\"container\"></div>",
  "    <div id=\"feedback\"></div>",
  "    <div id=\"notice\"></div>",
  "    <script id=\"peg-payload\" type=\"application/json\">\x7b\x7bPAYLOAD\x7d\x7d</script>",
  "    <script>",
  "\x7b\x7bRUNTIME\x7d\x7d",
  "    </script>",
  "</body>",
  "</html>"]

def template : String := String.join (templateLines.map (· ++ "\n"))

/-- A slot of the template by its name. -/
def slot (name : String) : String := "\x7b\x7b" ++ name ++ "\x7d\x7d"

/-! ### Filling it -/

/-- The written form of a character of the payload: what could end an element is escaped. -/
def escapeScriptChar (c : Char) : List Char :=
  if c = '<' then "\\u003c".toList
  else if c = '>' then "\\u003e".toList
  else if c = '&' then "\\u0026".toList
  else [c]

def payloadText (p : Payload) : String :=
  String.ofList (p.toJson.compactChars.flatMap escapeScriptChar)

def document (p : Payload) : String :=
  let titled := Text.replaceText (slot "TITLE") (escapeHtml p.settings.title) template
  let scripted := Text.replaceText (slot "RUNTIME") script titled
  Text.replaceText (slot "PAYLOAD") (payloadText p) scripted

/-! ### Writing it -/

def fileName : String := "experiment.html"

/-- Writes the page into a directory, which is made if it is missing. The path of the page
    comes back, and whether it could be written. -/
def write (s : Storage) (dir : String) (p : Payload) : String × Except StorageError Storage :=
  let path := Path.join dir fileName
  (path, (s.makeDirectories dir).bind fun s => s.write path (document p).toUTF8)

def writeLog (path : String) (p : Payload) : Log :=
  [⟨.info, "browser artifact written", [("path", .text path), ("trials", .ofNat p.trials.length),
    ("images", .ofNat p.preload.length)]⟩]

end TimedTrials.Page
