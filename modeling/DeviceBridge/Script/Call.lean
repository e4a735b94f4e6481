import DeviceBridge.Host.Tasks

/-
  Calls as a script engine makes them. A bound method is a trampoline with the object and the
  context values it is invoked with. A call returns values, raises a script error, or yields and
  leaves a frame to be resumed. Panics of the method are caught and reported as host faults; the
  adjustment of a frame is carried on to what it yields again.
-/

namespace DeviceBridge

/-- The diagnostic name of a bound method: whose it is, where its object is, and its name. -/
structure Label where
  owner : String
  place : HostObject.Place
  name : String
deriving Repr, DecidableEq

namespace Label

/-- Places are not shown. -/
def text (l : Label) : String := l.owner ++ "@?." ++ l.name

end Label

structure BoundMethod where
  object : HostObject
  contexts : List HostObject
  method : Trampoline
  logsHostErrors : Bool

/-- A call that waits to be resumed. -/
structure Frame where
  label : Label
  next : Resumption
  /-- What is added to the levels of errors from here on. -/
  adjust : UInt32
  logsHostErrors : Bool

inductive Step where
  | returned (values : List Value)
  | yielded (values : List Value) (frame : Frame)

namespace Step

def isYield : Step → Bool
  | returned _ => false
  | yielded .. => true

end Step

/-- How a step of a call ends for the engine. -/
abbrev StepResult := Except ScriptError Step

/-- Turn an outcome into a step. `inherited` is the adjustment of the frame that was resumed. -/
def settle (label : Label) (logsHostErrors : Bool) (inherited : UInt32) :
    Outcome × Host → Except Escape StepResult × Host
  | (.done values, h) => (.ok (.ok (.returned values)), h)
  | (.pending yielded adjust next, h) =>
    match addLevels inherited adjust with
    | .ok adjust => (.ok (.ok (.yielded yielded ⟨label, next, adjust, logsHostErrors⟩)), h)
    | .error how => (.error how, h)
  | (.failed (.raised e), h) =>
    match ScriptError.ofMethodError e inherited with
    | .ok e => (.ok (.error e), h)
    | .error how => (.error how, h)
  | (.failed (.escaped (.panic payload)), h) =>
    let text := "Error calling " ++ label.text ++ ": " ++ payload.describe
    (.ok (.error (.ofPanic payload)), if logsHostErrors then h.write .error text else h)
  | (.failed (.escaped .exhausted), h) => (.error .exhausted, h)

namespace BoundMethod

def name (b : BoundMethod) : String := b.method.name

def label (b : BoundMethod) : Label := ⟨b.method.owner, b.object.place, b.method.name⟩

def invoke (b : BoundMethod) (depth : Nat) (args : Arguments) (h : Host) :
    Except Escape StepResult × Host :=
  settle b.label b.logsHostErrors 0 ((b.method.apply b.object b.contexts args).run depth h)

def diagnostic (b : BoundMethod) : String := "ResultInterpreterFn(" ++ b.label.text ++ ")"

end BoundMethod

namespace Frame

/-- Go on with what the script thread was resumed with. -/
def resume (f : Frame) (depth : Nat) (event : List Value) (h : Host) :
    Except Escape StepResult × Host :=
  settle f.label f.logsHostErrors f.adjust ((f.next.on event).run depth h)

def diagnostic (f : Frame) : String :=
  Text.openRecord "SuspendedFrame"
    [("label", Text.quoted f.label.text), ("error_adjust", toString f.adjust.toNat)]

end Frame

namespace Step

def diagnostic : Step → String
  | returned values => "Return(" ++ Value.diagnosticList values ++ ")"
  | yielded values frame =>
    Text.record "Yield" [("values", Value.diagnosticList values), ("frame", frame.diagnostic)]

end Step

end DeviceBridge
