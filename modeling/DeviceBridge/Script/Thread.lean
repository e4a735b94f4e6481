import DeviceBridge.Script.Call

/-
  Script threads. A thread is one call in flight: it is parked on a frame and waits for an event, or
  it is done with values or an error. It wakes for the event it waits for, for `terminate`, and for
  any event if what it yielded first is no string.
-/

namespace DeviceBridge

structure ThreadId where
  number : Nat
deriving Repr, DecidableEq

namespace ThreadId

def display (id : ThreadId) : String := "Thread(" ++ toString id.number ++ ")"

def diagnostic (id : ThreadId) : String := "ThreadId(" ++ toString id.number ++ ")"

end ThreadId

/-- How a call ended. -/
abbrev CallEnd := Except ScriptError (List Value)

inductive ThreadState where
  /-- Waiting for an event; no filter accepts any. -/
  | parked (filter : Option String) (frame : Frame)
  | done (result : CallEnd)

namespace ThreadState

def ofStep : StepResult → ThreadState
  | .ok (.returned values) => .done (.ok values)
  | .ok (.yielded values frame) => .parked (Value.headString? values) frame
  | .error e => .done (.error e)

/-- What a thread is left with if resuming it does not come back. -/
def dead : ThreadState := .done (.error ⟨"cannot resume dead coroutine", 0⟩)

def isDone : ThreadState → Bool
  | parked .. => false
  | done _ => true

def result? : ThreadState → Option CallEnd
  | parked .. => none
  | done result => some result

def diagnostic : ThreadState → String
  | parked filter _ => "Parked(" ++ Text.optional (filter.map Text.quoted) ++ ")"
  | done (.ok _) => "Finished"
  | done (.error _) => "Failed"

/-- Whether an event would wake the thread. -/
def accepts (event : List Value) : ThreadState → Bool
  | done _ => false
  | parked none _ => true
  | parked (some filter) _ =>
    Value.headString? event == some filter || Value.headString? event == some terminateEvent

end ThreadState

structure Thread where
  id : ThreadId
  /-- What the thread is running. -/
  label : String
  /-- How often it has been resumed. -/
  resumes : Nat
  state : ThreadState

namespace Thread

def diagnostic (t : Thread) : String :=
  Text.record "ScriptThread" [("id", t.id.diagnostic), ("label", Text.quoted t.label),
    ("status", t.state.diagnostic)]

/-- Resume a parked thread; one that is done stays as it is. -/
def resume (t : Thread) (depth : Nat) (event : List Value) (h : Host) :
    Except Escape Unit × Thread × Host :=
  match t.state with
  | .done _ => (.ok (), t, h)
  | .parked _ frame =>
    let t := { t with resumes := t.resumes + 1 }
    match frame.resume depth event h with
    | (.ok step, h) => (.ok (), { t with state := .ofStep step }, h)
    | (.error how, h) => (.error how, { t with state := .dead }, h)

/-- Give an event to every thread that accepts it, in order, and whether one did. -/
def deliver (depth : Nat) (event : List Value) (h : Host) : List Thread →
    Except Escape Bool × List Thread × Host
  | [] => (.ok false, [], h)
  | t :: rest =>
    if t.state.accepts event then
      match t.resume depth event h with
      | (.error how, t, h) => (.error how, t :: rest, h)
      | (.ok (), t, h) =>
        match deliver depth event h rest with
        | (.ok _, rest, h) => (.ok true, t :: rest, h)
        | (.error how, rest, h) => (.error how, t :: rest, h)
    else
      let (woke, rest, h) := deliver depth event h rest
      (woke, t :: rest, h)

end Thread

end DeviceBridge
