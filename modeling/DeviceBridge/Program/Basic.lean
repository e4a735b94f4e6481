import DeviceBridge.Arguments
import DeviceBridge.Program.Request

/-
  Host code as data. `Code` is the body of a method, a hook, a task or the completion of a task: it
  may finish with values, fail, ask something of the host, queue a task for the main thread, call a
  device through the registry, or suspend until the script thread is resumed with an event. It may
  also wait for a task, as soon as that is queued (`Code.execute`) or later: a wait is kept until it
  is given back, and who has got one may give it back. What is left of a suspended call is a
  `Resumption`, and what that does with an event is a `Program`: more code, or the same wait again.
  What running leads to is an `Outcome`; how it runs is the matter of `Host/Run`.
-/

namespace DeviceBridge

/-- Why a task was not accepted. -/
inductive QueueError where
  | full
  | disconnected
deriving Repr, DecidableEq

namespace QueueError

def message : QueueError → String
  | full => "Too many tasks"
  | disconnected => "Main thread is not running"

def toMethodError (e : QueueError) : MethodError := .ofText e.message

end QueueError

/-- What code sees of other code that it ran to its first stop. -/
inductive Attempt where
  | done (values : List Value)
  | pending
  | raised (error : MethodError)

inductive Code where
  | done (values : List Value)
  | fail (failure : Failure)
  /-- Park the caller. The yielded values never reach it. -/
  | suspend (yielded : List Value) (adjust : UInt32) (next : List Value → Code)
  /-- Park the caller until a task has run. -/
  | await (task : TaskId)
  | ask (request : Request) (next : Except MethodError Value → Code)
  | command (command : Command) (next : Code)
  /-- Queue a task. When its body has ended, the completion is run with the number of the task and
  what it left. -/
  | enqueue (completion : TaskId → Except MethodError (List Value) → Code) (body : Code)
      (next : Except QueueError TaskId → Code)
  /-- Call a device by side and method name; the outcome is that of the call. -/
  | call (args : Arguments)
  /-- Run other code to its first stop. What it was waiting for is given up. -/
  | attempt (body : Code) (next : Attempt → Code)
  /-- Blame the errors that the code raises when it is resumed further up. -/
  | adjustWait (body : Code) (amount : UInt32)
  /-- Blame the error that the code raises further up. -/
  | adjustError (body : Code) (amount : UInt32)

/-- What is to be done with the outcome of a task: code that gets the number of the task and what
its body left, values or an error. -/
abbrev Completion := TaskId → Except MethodError (List Value) → Code

/-- What a suspended call does when it is resumed. -/
inductive Resumption where
  | code (next : List Value → Code)
  /-- It waits for a task. -/
  | task (id : TaskId)

/-- What a resumed call goes on with. -/
inductive Program where
  | code (body : Code)
  /-- Park the caller again until the task it waits for has run. -/
  | await (task : TaskId)

instance : Coe Code Program := ⟨.code⟩

inductive Outcome where
  | done (values : List Value)
  | pending (yielded : List Value) (adjust : UInt32) (next : Resumption)
  | failed (failure : Failure)

/-! ## Events -/

/-- The event that ends a wait. -/
def terminateEvent : String := "terminate"

/-- The event that reports a finished task. -/
def taskCompleteEvent : String := "task_complete"

namespace Code

/-- No values. -/
def unit : Code := .done []

def raise (e : MethodError) : Code := .fail (.raised e)

def raiseCause (cause : Cause) : Code := .fail (.ofCause cause)

def panic (payload : Payload) : Code := .fail (.escaped (.panic payload))

/-- Go on with what was read, or fail with it. -/
def bindRead {α : Type} (read : Except Failure α) (next : α → Code) : Code :=
  match read with
  | .ok a => next a
  | .error failure => .fail failure

/-- Code that may not suspend: where it would, it fails with the given words. -/
def withoutSuspending (refusal : String) (body : Code) : Code :=
  .attempt body fun
    | .done values => .done values
    | .pending => raise (.ofText refusal)
    | .raised e => raise e

/-! ## Waiting -/

/-- Yield values and go on when resumed. -/
def yieldValues (values : List Value) (next : List Value → Code) : Code :=
  .suspend values 0 next

/-- The values that a wait yields: the name it waits for, or nil for any event. -/
def filterValues (filter : Option String) : List Value :=
  [match filter with
    | some name => .string name
    | none => .nil]

/-- Wait for an event, `terminate` included. -/
def pullEventRaw (filter : Option String) (next : List Value → Code) : Code :=
  yieldValues (filterValues filter) next

/-- Whether an event ends every wait that does not ask to see it. -/
def terminates (event : List Value) : Bool := Value.headString? event = some terminateEvent

/-- How a wait ends that is not to go on. -/
def terminated : Code := raise (.ofText "Terminated")

/-- What a wait does with an event: `terminate` ends it. -/
def onEvent (next : List Value → Code) (event : List Value) : Code :=
  if terminates event then terminated else next event

/-- Wait for an event. -/
def pullEvent (filter : Option String) (next : List Value → Code) : Code :=
  pullEventRaw filter (onEvent next)

end Code

/-! ## Tasks of the main thread -/

namespace Completion

/-- What is told of a task: its number, whether it succeeded, and its values or message. -/
def account (id : TaskId) : Except MethodError (List Value) → List Value
  | .ok values => id.toValue :: .bool true :: values
  | .error e => [id.toValue, .bool false, .string e.message]

/-- Report a task to the scripts, by an event. -/
def report : Completion := fun id left =>
  .ask (.queueEvent taskCompleteEvent (account id left)) fun _ => Code.unit

/-- Enter a task into the ledger. -/
def ledger : Completion := fun id left => .ask (.enter id left) fun _ => Code.unit

end Completion

namespace Code

/-- Queue a task whose outcome becomes an event. -/
def issueTask (body : Code) (next : TaskId → Code) : Code :=
  .enqueue Completion.report body fun
    | .ok id => next id
    | .error e => raise e.toMethodError

/-- Queue a task, and park the caller until it has run. -/
def execute (body : Code) : Code := issueTask body .await

/-- Blame the errors of the code, now or on resuming, further up. -/
def adjusted (body : Code) (amount : UInt32) : Code := .adjustError (.adjustWait body amount) amount

end Code

namespace Program

/-- Call a device, outside of any code. -/
def call (args : Arguments) : Program := .code (.call args)

/-- Whether a value is the number of a task. -/
def isTask (id : TaskId) (v : Option Value) : Bool :=
  match v with
  | some v => v.same id.toValue
  | none => false

/-- The outcome of a task as its event reports it, behind the number of the task: whether it
succeeded, and then its values or a message. -/
def reported (event : List Value) : Code :=
  match (event[2]? : Option Value) with
  | some (.bool true) => .done (event.drop 3)
  | _ =>
    Code.raise (.ofText (((event[3]? : Option Value).bind Value.string?).getD "Unknown error"))

/-- What a wait for a task does with an event. -/
def onTaskComplete (id : TaskId) (event : List Value) : Program :=
  if Code.terminates event then Code.terminated
  else if isTask id (event[1]? : Option Value) then reported event
  else .await id

end Program

namespace Resumption

/-- The program to run on an event. -/
def on : Resumption → List Value → Program
  | code next, event => next event
  | task id, event => Program.onTaskComplete id event

end Resumption

/-! ## Outcomes -/

namespace Outcome

def isPending : Outcome → Bool
  | pending .. => true
  | _ => false

/-- Add to what a suspended call adds to its errors. -/
def adjustWait (outcome : Outcome) (amount : UInt32) : Outcome :=
  match outcome with
  | pending yielded adjust next =>
    match addLevels adjust amount with
    | .ok adjust => pending yielded adjust next
    | .error how => failed (.escaped how)
  | other => other

/-- Blame an error further up. -/
def adjustError (outcome : Outcome) (amount : UInt32) : Outcome :=
  match outcome with
  | failed (.raised e) =>
    match e.adjusted amount with
    | .ok e => failed (.raised e)
    | .error how => failed (.escaped how)
  | other => other

/-- Blame errors, now or on resuming, further up. -/
def adjusted (outcome : Outcome) (amount : UInt32) : Outcome :=
  (outcome.adjustWait amount).adjustError amount

/-- The outcome as seen by the code that ran it; an escape is not seen but passed on. -/
def toAttempt : Outcome → Except Escape Attempt
  | done values => .ok (.done values)
  | pending .. => .ok .pending
  | failed (.raised e) => .ok (.raised e)
  | failed (.escaped how) => .error how

def diagnostic : Outcome → Option String
  | done values => some ("Done(" ++ Value.diagnosticList values ++ ")")
  | pending yielded adjust _ =>
    some (Text.openRecord "Pending"
      [("yielded", Value.diagnosticList yielded), ("error_adjust", toString adjust.toNat)])
  | failed _ => none

end Outcome

/-- The values that a wait for a task yields. -/
def awaitValues : List Value := Code.filterValues (some taskCompleteEvent)

end DeviceBridge
