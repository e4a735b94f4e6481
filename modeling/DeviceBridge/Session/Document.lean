import DeviceBridge.Config.Document
import DeviceBridge.Session.Basic

/-
  Sessions as RON and JSON documents, and the outcomes of their steps as JSON. In both notations a
  step is its name, with what it needs behind it.
-/

namespace DeviceBridge

namespace Literal

/-- The literal of a whole number. One that does not fit is a floating-point number. -/
def ofInt (i : Int) : Literal :=
  if Int64.minValue.toInt ≤ i ∧ i ≤ Int64.maxValue.toInt then int (Int64.ofInt i)
  else float (UInt64.ofNat i.toNat).toFloat

/-- A word alone counts as a string, and so do bytes that are UTF-8. The type that a number names
does not matter. -/
def ofRon? : Ron → Option Literal
  | .bool b => some (bool b)
  | .int i _ => some (ofInt i)
  | .float f => some (float f)
  | .minusNaN => some minusNaN
  | .string s => some (string s)
  | .bytes b => (String.fromUTF8? ⟨b.toArray⟩).map string
  | .word name => some (string name)
  | _ => none

def ofJson? : Json → Option Literal
  | .bool b => some (bool b)
  | .int i => some (ofInt i)
  | .float f => some (float f)
  | .string s => some (string s)
  | _ => none

def toRon : Literal → Ron
  | bool b => .bool b
  | int i => .int i.toInt none
  | float f => .float f
  | minusNaN => .minusNaN
  | string s => .string s

def toJson (l : Literal) : Json := l.toValue.toJson

end Literal

namespace Session

namespace Step

def ofRon? : Ron → Option Step
  | .word "Start" => some start
  | .word "Stop" => some stop
  | .word "Tick" => some tick
  | .word "Events" => some events
  | .group (some "Attach") [.string side, .string device] => some (attach side device)
  | .group (some "Detach") [.string side] => some (detach side)
  | .group (some "Call") [.string side, .string method, .list args] =>
    (args.mapM Literal.ofRon?).map (call side method)
  | _ => none

def toRon : Step → Ron
  | start => .word "Start"
  | stop => .word "Stop"
  | tick => .word "Tick"
  | events => .word "Events"
  | attach side device => .group (some "Attach") [.string side, .string device]
  | detach side => .group (some "Detach") [.string side]
  | call side method args =>
    .group (some "Call") [.string side, .string method, .list (args.map Literal.toRon)]

/-- A step that needs nothing may also be a member with nothing in it. -/
def ofMember? : String × Json → Option Step
  | ("Attach", .array [.string side, .string device]) => some (attach side device)
  | ("Detach", .string side) => some (detach side)
  | ("Call", .array [.string side, .string method, .array args]) =>
    (args.mapM Literal.ofJson?).map (call side method)
  | ("Start", .null) => some start
  | ("Stop", .null) => some stop
  | ("Tick", .null) => some tick
  | ("Events", .null) => some events
  | _ => none

def ofJson? : Json → Option Step
  | .string name => ofMember? (name, .null)
  | .object members =>
    match Entries.putAll [] members with
    | [member] => ofMember? member
    | _ => none
  | _ => none

def toJson : Step → Json
  | start => .string "Start"
  | stop => .string "Stop"
  | tick => .string "Tick"
  | events => .string "Events"
  | attach side device => .object [("Attach", .array [.string side, .string device])]
  | detach side => .object [("Detach", .string side)]
  | call side method args =>
    .object [("Call", .array [.string side, .string method, .array (args.map Literal.toJson)])]

end Step

/-! ## Sessions -/

def ofRon? (r : Ron) : Option (List Step) := do
  let fields ← r.fieldsOf "Session"
  match ← Ron.optionalField fields "steps" some with
  | some (.list steps) => steps.mapM Step.ofRon?
  | _ => none

def toRon (steps : List Step) : Ron := .record none [("steps", .list (steps.map Step.toRon))]

def ofJson? : Json → Option (List Step)
  | .array steps => steps.mapM Step.ofJson?
  | _ => none

def toJson (steps : List Step) : Json := .object [("steps", .array (steps.map Step.toJson))]

def parse? (text : String) : Option (List Step) := (Ron.parse? text).bind ofRon?

/-- The session that a file holds. -/
def load (contents : Option (List UInt8)) : Except DocumentError (List Step) :=
  match Ron.textOf contents with
  | .error e => .error e
  | .ok text =>
    match parse? text with
    | some steps => .ok steps
    | none => .error .malformed

/-! ## Outcomes -/

namespace Result

def ofKind (kind : String) (more : List (String × Json)) : Json :=
  .object (("kind", .string kind) :: more)

def valuesJson (values : List Value) : Json := .array (values.map Value.toJson)

def toJson : Result → Json
  | done => ofKind "done" []
  | returned values => ofKind "returned" [("values", valuesJson values)]
  | failed e => ofKind "failed" [("message", .string e.message), ("level", .int e.level.toNat)]
  | waiting => ofKind "waiting" []
  | ticked tasks => ofKind "ticked" [("tasks", .int tasks)]
  | events all => ofKind "events" [("events", .array (all.map valuesJson))]

end Result

/-! ## Files -/

/-- Why a session file could not be run to its end. -/
inductive FileFault where
  | document (error : DocumentError)
  /-- No computer could be set up. -/
  | setup (how : Escape)
  | step (fault : Fault)
deriving Repr, DecidableEq

/-- The words for a session file at a path that could not be run to its end. -/
def FileFault.message (path : String) : FileFault → String
  | document _ => "Failed to load session: " ++ path
  | setup how => how.describe
  | step _ => "Session failed: " ++ path

/-- Run a session file at a path on a fresh computer; the host is given back for its log. -/
def runFile (limits : Limits) (h : Host) (path : String) (contents : Option (List UInt8)) :
    Except FileFault (List (Step × Result)) × Host :=
  let h := h.write .debug ("Running session " ++ path)
  match load contents with
  | .error e => (.error (.document e), h)
  | .ok steps =>
    match runFresh limits h steps with
    | .error how => (.error (.setup how), h)
    | .ok report =>
      match report.fault with
      | some (_, fault) => (.error (.step fault), report.machine.host)
      | none => (.ok report.results, report.machine.host)

end Session

end DeviceBridge
