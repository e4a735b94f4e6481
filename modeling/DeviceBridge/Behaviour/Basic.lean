import DeviceBridge.Generator.Trampoline

/-
  Behaviours: host code written down rather than programmed. A behaviour is a tree of plain data,
  and `Behaviour.program` says what it does where it stands: what input it has, which access it
  works through, and which invocation it reads from. Devices and APIs that are made of behaviours
  are the matter of `Behaviour/Scripted`.
-/

namespace DeviceBridge

/-! ## Reading an invocation -/

inductive Accessor where
  | scalar (kind : Scalar) (optional : Bool)
  /-- The place of a constant in its choice. -/
  | constant (optional : Bool)
  | arguments
  /-- The number of the computer given as a context value. -/
  | computer
  /-- The side of the access given as a context value. -/
  | side
  /-- The content of a datum given as a context value. -/
  | datum (type : HostType)
  /-- The content of the receiver, if it is such a datum. -/
  | receiver (type : HostType)
  | receiverIs (type : HostType)
  /-- How many sounds the receiver has played, if it is a speaker. -/
  | soundCount
deriving Repr, DecidableEq

namespace HostObject

/-- What a datum holds; other objects hold nothing. -/
def content : HostObject → Value
  | datum _ v _ => v
  | _ => .nil

end HostObject

namespace Code

/-- Ask the host for a value; an error is passed on. -/
def askValue (request : Request) (next : Value → Code) : Code :=
  .ask request fun
    | .ok v => next v
    | .error e => raise e

end Code

namespace Accessor

def readScalar (inv : Invocation) (index : Nat) : Scalar → Except Failure Value
  | .string => (inv.string index).map .string
  | .number => (inv.number index).map .float
  | .int => (inv.int index).map .int
  | .bool => (inv.bool index).map .bool
  | .table => (inv.table index).map .table
  | .any => inv.any index

/-- A scalar that may be absent; what is absent reads as nil. -/
def readScalar? (inv : Invocation) (index : Nat) : Scalar → Except Failure Value
  | .string => (inv.string? index).map fun s => .ofOption (s.map .string)
  | .number => (inv.number? index).map fun f => .ofOption (f.map .float)
  | .int => (inv.int? index).map fun i => .ofOption (i.map .int)
  | .bool => (inv.bool? index).map fun b => .ofOption (b.map .bool)
  | .table => (inv.table? index).map fun t => .ofOption (t.map .table)
  | .any => (inv.any? index).map .ofOption

/-- Read from an invocation and go on with the value. -/
def read (inv : Invocation) (index : Nat) (a : Accessor) (next : Value → Code) : Code :=
  match a with
  | scalar kind false => Code.bindRead (readScalar inv index kind) next
  | scalar kind true => Code.bindRead (readScalar? inv index kind) next
  | constant false => Code.bindRead (inv.constant index) fun n => next (.ofNat n)
  | constant true =>
    Code.bindRead (inv.constant? index) fun n => next (.ofOption (n.map Value.ofNat))
  | arguments => Code.bindRead (inv.arguments index) fun args => next (.ofList args.toList)
  | computer => Code.bindRead (inv.objectOf index .context) fun _ =>
      Code.askValue .computerId next
  | side => Code.bindRead (inv.access index) fun id => next (.string id.side.name)
  | datum type => Code.bindRead (inv.objectOf index type) fun object => next object.content
  | receiver type => Code.bindRead (inv.receiverOf type) fun object => next object.content
  | receiverIs type => next (.bool (inv.receiver.type = type))
  | soundCount => Code.bindRead (inv.receiverDevice .speaker) fun id =>
      Code.askValue (.device id .soundCount) next

/-- Read several, each at its parameter, and finish with what was read. -/
def readAll (inv : Invocation) (got : List Value) : List (Accessor × Nat) → Code
  | [] => .done got
  | (a, index) :: rest => a.read inv index fun v => readAll inv (got ++ [v]) rest

end Accessor

/-! ## Behaviours -/

/-- Something that a behaviour wants of the host. -/
inductive Errand where
  | service (service : Service)
  | command (command : Command)

inductive Behaviour where
  | finish (values : List Value)
  /-- Finish with the input. -/
  | echo
  | fail (failure : Failure)
  | yield (values : List Value) (adjust : UInt32) (next : Behaviour)
  /-- Wait for an event; a raw wait is not ended by `terminate`. -/
  | pull (filter : Option String) (raw : Bool) (adjust : UInt32) (next : Behaviour)
  | adjusted (body : Behaviour) (amount : UInt32)
  /-- Read parameters of the invocation. -/
  | read (wanted : List (Accessor × Nat))
  /-- The text of the invocation. -/
  | describe
  /-- Write into the journal. -/
  | note (text : String)
  /-- One after the other, with the values of all. None may suspend. -/
  | sequence (parts : List Behaviour)
  /-- Finish with how the behaviour ended, whatever that is. -/
  | attempt (body : Behaviour)
  /-- Queue a task whose outcome becomes an event. -/
  | issue (task : Behaviour)
  /-- Queue a task and wait for its outcome. -/
  | execute (task : Behaviour) (adjust : UInt32)
  /-- Queue tasks that report to the ledger, and go on. -/
  | queue (tasks : List Behaviour) (next : Behaviour)
  | call (args : List Value)
  | serve (errands : List Errand)
deriving Inhabited

/-- Where a behaviour stands. -/
structure Surroundings where
  input : List Value
  /-- The access it works through, or why there is none. -/
  access : Except Failure AccessId
  invocation : Option Invocation

namespace Surroundings

/-- Outside of any device. -/
def bare : Surroundings := ⟨[], .error (Invocation.fault "no access"), none⟩

/-- In a device, as installed. -/
def installed (id : AccessId) (input : List Value) : Surroundings := ⟨input, .ok id, none⟩

/-- Later, with some other input. The invocation is over. -/
def later (around : Surroundings) (input : List Value) : Surroundings :=
  { around with input, invocation := none }

/-- In a method with declared parameters. The input is what its argument list holds. -/
def ofInvocation (params : List ParamType) (inv : Invocation) : Surroundings where
  input := match params.findIdx? (· = .arguments) with
    | some index => ((inv.arguments index).toOption.map Arguments.toList).getD []
    | none => []
  access := match params.findIdx? (· = .context .access) with
    | some index => inv.access index
    | none => bare.access
  invocation := some inv

end Surroundings

namespace Errand

/-- Run the errands in order, and finish with a value for each. -/
def runAll (around : Surroundings) (got : List Value) : List Errand → Code
  | [] => .done got
  | command c :: rest => .command c (runAll around (got ++ [.bool true]) rest)
  | service s :: rest =>
    Code.bindRead around.access fun id =>
    Code.askValue (.service id s) fun v => runAll around (got ++ [v]) rest

end Errand

namespace Behaviour

/-- How code ended, as values. -/
def report : Attempt → List Value
  | .done values => .bool true :: values
  | .pending => [.bool true, .string "pending"]
  | .raised e => [.bool false, .string e.cause.kind, .string e.message, .ofNat e.level.toNat]

/-- A task cannot suspend. -/
def asTask (body : Code) : Code := Code.withoutSuspending "pending in task" body

/-- Go on behind a part of a sequence that finished. -/
def afterPart (next : List Value → Code) : Attempt → Code
  | .done values => next values
  | .pending => Code.raise (.ofText "pending in all")
  | .raised e => Code.raise e

/-- Go on behind a task that was queued. -/
def afterQueued (next : Code) : Except QueueError TaskId → Code
  | .ok _ => next
  | .error e => Code.raise e.toMethodError

mutual

/-- What a behaviour does where it stands. -/
def program (around : Surroundings) : Behaviour → Code
  | finish values => .done values
  | echo => .done around.input
  | fail failure => .fail failure
  | yield values adjust next =>
    Code.adjusted (Code.yieldValues values fun input => program (around.later input) next) adjust
  | pull filter true adjust next =>
    Code.adjusted (Code.pullEventRaw filter fun input => program (around.later input) next) adjust
  | pull filter false adjust next =>
    Code.adjusted (Code.pullEvent filter fun input => program (around.later input) next) adjust
  | adjusted body amount => Code.adjusted (program around body) amount
  | read wanted =>
    match around.invocation with
    | some inv => Accessor.readAll inv [] wanted
    | none => Code.unit
  | describe =>
    match around.invocation with
    | some inv => .done [.string inv.diagnostic]
    | none => Code.unit
  | note text => .ask (.note text) fun _ => Code.unit
  | sequence parts => programAll around [] parts
  | attempt body => .attempt (program around body) fun ended => .done (report ended)
  | issue task =>
    Code.issueTask (asTask (program (around.later []) task)) fun id => .done [id.toValue]
  | execute task adjust =>
    Code.adjusted (Code.execute (asTask (program (around.later []) task))) adjust
  | queue tasks next => queueAll around (program around next) tasks
  | call args => .call (Arguments.ofList args)
  | serve errands => Errand.runAll around [] errands

def programAll (around : Surroundings) (got : List Value) : List Behaviour → Code
  | [] => .done got
  | part :: rest =>
    .attempt (program around part) (afterPart fun values => programAll around (got ++ values) rest)

def queueAll (around : Surroundings) (next : Code) : List Behaviour → Code
  | [] => next
  | task :: rest =>
    .enqueue Completion.ledger (asTask (program around task))
      (afterQueued (queueAll around next rest))

end

/-- The behaviour as a task. -/
def task (b : Behaviour) : Code := asTask (b.program .bare)

end Behaviour

end DeviceBridge
