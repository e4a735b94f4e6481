import DeviceBridge.Decimal.Reading
import DeviceBridge.Machine.Basic

/-
  Sessions: scripted runs of one computer. Every step is run in order and leaves an outcome; the
  first step that cannot be run ends the session.
-/

namespace DeviceBridge

/-- An argument written down in a session. -/
inductive Literal where
  | bool (b : Bool)
  | int (i : Int64)
  | float (f : Float)
  /-- NaN that was written with a minus sign. -/
  | minusNaN
  | string (s : String)

def Literal.toValue : Literal → Value
  | bool b => .bool b
  | int i => .int i
  | float f => .float f
  | minusNaN => .float Decimal.notANumber
  | string s => .string s

namespace Session

inductive Step where
  /-- Install a fresh device of a type. -/
  | attach (side device : String)
  | detach (side : String)
  | start
  | stop
  /-- Call a device as a script does. -/
  | call (side method : String) (args : List Literal)
  /-- Run the main thread once. -/
  | tick
  /-- Take the queued events. -/
  | events

namespace Step

def display : Step → String
  | attach side device => "attach " ++ device ++ " to " ++ side
  | detach side => "detach " ++ side
  | start => "start"
  | stop => "stop"
  | call side method args =>
    "call " ++ side ++ "." ++ method ++ "("
      ++ ", ".intercalate (args.map fun a => a.toValue.display) ++ ")"
  | tick => "tick"
  | events => "events"

end Step

/-- What a step left. -/
inductive Result where
  | done
  | returned (values : List Value)
  | failed (error : ScriptError)
  | waiting
  | ticked (tasks : Nat)
  | events (events : List (List Value))

/-- Why a step could not be run. -/
inductive Fault where
  | unknownSide (name : String)
  | unknownDevice (name : String)
  | machine (error : MachineError)
  | escaped (how : Escape)
deriving Repr, DecidableEq

namespace Fault

def message : Fault → String
  | unknownSide name => "unknown side '" ++ name ++ "'"
  | unknownDevice name => "unknown device '" ++ name ++ "'"
  | machine error => error.message
  | escaped how => how.describe

end Fault

/-! ## Running -/

/-- How often a call that waits may tick before its step gives up. -/
def maxCallTicks : Nat := 16

/-- What comes of an operation that may leave in mid-air. -/
def outcome {α : Type} (result : α → Except Fault Result) (ran : Except Escape α × Machine) :
    Except Fault Result × Machine :=
  match ran with
  | (.ok a, m) => (result a, m)
  | (.error how, m) => (.error (.escaped how), m)

/-- Put something at a side given by name. -/
def place (m : Machine) (side : String) (device : Host → Except Fault (Option DeviceId × Host)) :
    Except Fault Result × Machine :=
  match Side.ofName? side with
  | none => (.error (.unknownSide side), m)
  | some s =>
    match device m.host with
    | .error fault => (.error fault, m)
    | .ok (id, h) =>
      let (ran, h) := h.setDeviceAt (Program.run m.limits.depth) s id
      outcome (fun _ => .ok .done) (ran, m.withHost h)

/-- A fresh device of a type. -/
def freshDevice (name : String) (h : Host) : Except Fault (Option DeviceId × Host) :=
  match Device.create? name with
  | none => .error (.unknownDevice name)
  | some d => let (id, h) := h.addDevice d; .ok (some id, h)

/-- The outcome of a call. -/
def callResult : Except MachineError (Option CallEnd) → Except Fault Result
  | .error e => .error (.machine e)
  | .ok none => .ok .waiting
  | .ok (some (.ok values)) => .ok (.returned values)
  | .ok (some (.error e)) => .ok (.failed e)

def runStep (step : Step) (m : Machine) : Except Fault Result × Machine :=
  let m := m.withHost (m.host.write .debug ("Session step: " ++ step.display))
  match step with
  | .attach side device => place m side (freshDevice device)
  | .detach side => place m side fun h => .ok (none, h)
  | .start => outcome (fun _ => .ok .done) m.startup
  | .stop => outcome (fun _ => .ok .done) m.shutdown
  | .call side method args =>
    outcome callResult (m.call "peripheral" "call"
      (.string side :: .string method :: args.map Literal.toValue) maxCallTicks)
  | .tick => outcome (fun tasks => .ok (.ticked tasks)) m.tick
  | .events =>
    let (events, h) := m.host.drainEvents
    (.ok (.events events), m.withHost h)

/-- What a session left: the outcomes of the steps that were run, and the step that could not be, if
one could not. -/
structure Report where
  results : List (Step × Result)
  fault : Option (Step × Fault)
  machine : Machine

def run (m : Machine) : List Step → Report
  | [] => ⟨[], none, m⟩
  | step :: rest =>
    match runStep step m with
    | (.error fault, m) => ⟨[], some (step, fault), m⟩
    | (.ok result, m) =>
      let report := run m rest
      { report with results := (step, result) :: report.results }

/-- Run steps on a fresh computer, if one can be set up. -/
def runFresh (limits : Limits) (h : Host) (steps : List Step) : Except Escape Report :=
  match h.tasks.obstacle? with
  | some how => .error how
  | none => .ok (run (Machine.computer limits h) steps)

end Session

end DeviceBridge
