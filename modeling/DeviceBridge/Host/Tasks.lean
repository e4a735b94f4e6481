import DeviceBridge.Host.Run

/-
  The main thread: tasks are run in the order in which they were queued, a bounded number per tick,
  and what each leaves is given to its completion.
-/

namespace DeviceBridge

/-- What a task leaves: its values, or its error. A panic is a fault of the host, and a task that
would suspend fails. -/
def Outcome.settled : Outcome → Except Escape (Except MethodError (List Value))
  | .done values => .ok (.ok values)
  | .pending .. => .ok (.error (.ofText cannotSuspend))
  | .failed (.raised e) => .ok (.error e)
  | .failed (.escaped (.panic payload)) => .ok (.error (.ofPanic payload))
  | .failed (.escaped .exhausted) => .error .exhausted

namespace Host

/-- Whether a task left values. -/
def succeeded : Except MethodError (List Value) → Bool
  | .ok _ => true
  | .error _ => false

/-- Do what is to be done with what a task left. Nothing comes back from that, unless it escapes. -/
def complete (depth : Nat) (h : Host) (t : Task) (left : Except MethodError (List Value)) :
    Except Escape Unit × Host :=
  match (t.completion t.id left).run depth h with
  | (.failed (.escaped how), h) => (.error how, h)
  | (_, h) => (.ok (), h)

/-- Run one task, first its body and then its completion. Whether it left values. -/
def runTask (depth : Nat) (h : Host) (t : Task) : Except Escape Bool × Host :=
  let (outcome, h) := t.body.run depth h
  match outcome.settled with
  | .error how => (.error how, h)
  | .ok left =>
    match h.complete depth t left with
    | (.error how, h) => (.error how, h)
    | (.ok (), h) => (.ok (succeeded left), h)

/-- Take the task that has waited longest. -/
def nextTask? (h : Host) : Option (Task × Host) :=
  match h.tasks.next? with
  | none => none
  | some (t, tasks) => some (t, { h with tasks })

/-- Count a task that was run, and say so. -/
def recordRun (h : Host) (t : Task) (ok : Bool) : Host :=
  { h with tasks := h.tasks.record ok }.write .debug
    ("Main thread ran " ++ t.id.display ++ " (ok = " ++ boolText ok ++ ")")

/-- Run at most some number of tasks. -/
def runTasks (depth : Nat) (ran : Nat) (h : Host) : Nat → Except Escape Nat × Host
  | 0 => (.ok ran, h)
  | more + 1 =>
    match h.nextTask? with
    | none => (.ok ran, h)
    | some (t, h) =>
      match runTask depth h t with
      | (.error how, h) => (.error how, h)
      | (.ok ok, h) => runTasks depth (ran + 1) (h.recordRun t ok) more

/-- One turn of the main thread, and how many tasks it ran. -/
def tick (depth : Nat) (h : Host) : Except Escape Nat × Host := h.runTasks depth 0 h.tasks.perTick

end Host

end DeviceBridge
