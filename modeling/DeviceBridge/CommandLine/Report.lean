import DeviceBridge.Session.Document

/-
  What the program prints: log lines, and the outcomes of a session, coloured for a terminal or as
  JSON.
-/

namespace DeviceBridge.CommandLine

/-! ## Colours -/

/-- A text between a control sequence and the one that undoes it. -/
def styled (on off : Nat) (text : String) : String :=
  "\x1b[" ++ toString on ++ "m" ++ text ++ "\x1b[" ++ toString off ++ "m"

def bold : String → String := styled 1 0

def dimmed : String → String := styled 2 0

def red : String → String := styled 31 39

def green : String → String := styled 32 39

def yellow : String → String := styled 33 39

def blue : String → String := styled 34 39

def cyan : String → String := styled 36 39

/-! ## Log -/

/-- How a character stands in a log line: those that a terminal acts on are written by their
code. -/
def shown (c : Char) : String :=
  if [0x07, 0x08, 0x0C, 0x1B, 0x7F].contains c.toNat then
    "\\x" ++ String.ofList [Nat.digitChar (c.toNat / 16), Nat.digitChar (c.toNat % 16)]
  else if 0x80 ≤ c.toNat && c.toNat < 0xA0 then "\\u\x7b" ++ Text.codeOf c ++ "\x7d"
  else c.toString

/-- A log line; the level takes up five places. -/
def logLine (line : LogLine) : String :=
  let level := line.level.label
  String.ofList (List.replicate (5 - level.length) ' ') ++ level ++ " "
    ++ String.join (line.text.toList.map shown) ++ "\n"

/-- The lines at or above a level. -/
def logText (least : LogLevel) (log : List LogLine) : String :=
  String.join ((log.filter fun line => least.severity ≤ line.level.severity).map logLine)

/-! ## Outcomes -/

def indented (text : String) : String := "  " ++ text ++ "\n"

def displayAll (separator : String) (values : List Value) : String :=
  separator.intercalate (values.map Value.display)

def resultText : Session.Result → String
  | .done => ""
  | .returned values => indented (green "ok" ++ " " ++ displayAll ", " values)
  | .failed e =>
    indented (red "error" ++ " " ++ e.message ++ " (level " ++ toString e.level.toNat ++ ")")
  | .waiting => indented (yellow "waiting")
  | .ticked tasks => indented (cyan "tick" ++ " " ++ toString tasks ++ " task(s)")
  | .events [] => indented (dimmed "no events")
  | .events all => String.join (all.map fun e => indented (blue "event" ++ " " ++ displayAll " " e))

def stepText (step : Session.Step) (result : Session.Result) : String :=
  dimmed "›" ++ " " ++ bold step.display ++ "\n" ++ resultText result

def resultsText (results : List (Session.Step × Session.Result)) : String :=
  String.join (results.map fun (step, result) => stepText step result)

/-- The outcomes as indented JSON, with the members of every object in order. -/
def resultsJson (results : List (Session.Step × Session.Result)) : String :=
  (Json.array (results.map fun (step, result) =>
    (Json.object [("step", step.toJson), ("outcome", result.toJson)]).sorted)).pretty ++ "\n"

end DeviceBridge.CommandLine
