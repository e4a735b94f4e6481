import DeviceBridge.Machine.Registry
import DeviceBridge.Script.Thread

/-
  The machine that scripts run on: a host, the installed APIs with the functions they export under
  global names, and the script threads. Events of the host are given to the threads that wait for
  them. An operation may leave in mid-air; what it did until then stays done.
-/

namespace DeviceBridge

/-- An API that scripts call under one or more global names. -/
structure Api where
  names : List String
  declaration : ClassDecl
  object : HostObject
  startup : Code
  shutdown : Code

/-- The functions under a global name. -/
abbrev Global := List (String × BoundMethod)

inductive MachineStatus where
  /-- Not started, or shut down. -/
  | stopped
  | running
deriving Repr, DecidableEq

namespace MachineStatus

def diagnostic : MachineStatus → String
  | stopped => "Stopped"
  | running => "Running"

end MachineStatus

/-- How deep calls may nest, and how many events may come up while others are delivered. -/
structure Limits where
  depth : Nat
  events : Nat
deriving Repr, DecidableEq

structure Machine where
  limits : Limits
  host : Host
  status : MachineStatus
  apis : List Api
  globals : List (String × Global)
  threads : List Thread
  nextThread : Nat

/-- Why a machine refused an operation. -/
inductive MachineError where
  | unknownGlobal (global : String)
  | unknownMethod (global method : String)
  | unknownThread (id : ThreadId)
  | notRunning
deriving Repr, DecidableEq

namespace MachineError

def message : MachineError → String
  | unknownGlobal global => "attempt to index global '" ++ global ++ "' (a nil value)"
  | unknownMethod global method =>
    "attempt to call field '" ++ method ++ "' of '" ++ global ++ "' (a nil value)"
  | unknownThread id => "no such thread: " ++ id.display
  | notRunning => "Computer is not running"

end MachineError

namespace Machine

/-- A machine on a host, with no API. -/
def ofHost (limits : Limits) (h : Host) : Machine := ⟨limits, h, .stopped, [], [], [], 1⟩

/-- Apply something to the host alone. -/
def withHost (m : Machine) (h : Host) : Machine := { m with host := h }

/-! ## APIs -/

/-- Run the hook of an API. Errors of a hook are its own matter; only an escape is passed on. -/
def runHook (m : Machine) (hook : Code) : Except Escape Unit × Machine :=
  match hook.run m.limits.depth m.host with
  | (.failed (.escaped how), h) => (.error how, m.withHost h)
  | (_, h) => (.ok (), m.withHost h)

def runHooks (m : Machine) : List Code → Except Escape Unit × Machine
  | [] => (.ok (), m)
  | hook :: rest =>
    match m.runHook hook with
    | (.ok (), m) => runHooks m rest
    | failed => failed

/-- Export functions under a name, in the stead of what was there. -/
def exportAs (global : Global) (m : Machine) (name : String) : Machine :=
  let h := m.host.write .debug
    ("Installing API " ++ name ++ " (" ++ toString global.length ++ " methods)")
  let h := if name ∈ Entries.keys m.globals
    then h.write .warn ("API " ++ name ++ " replaces an earlier one") else h
  { m with host := h, globals := Entries.put name global m.globals }

/-- Build the functions of an API, and export them under each of its names. -/
def exportApi (m : Machine) (api : Api) : Machine :=
  let h := m.host
  let built := h.scriptMethods.methodsOf h.sources api.declaration
  let h := { h.writeAll built.log with scriptMethods := built.generator }
  let global : Global := Entries.putAll [] (built.result.map fun method =>
    (method.name, ⟨api.object, [.context], method.method, h.logsHostErrors⟩))
  api.names.foldl (exportAs global) (m.withHost h)

/-- Install an API. It is started straight away on a running machine. -/
def addApi (m : Machine) (api : Api) : Except Escape Unit × Machine :=
  let m := m.exportApi api
  let (started, m) := if m.status = .running then m.runHook api.startup else (.ok (), m)
  match started with
  | .ok () => (.ok (), { m with apis := m.apis ++ [api] })
  | .error how => (.error how, m)

def methods (m : Machine) (global : String) : Except MachineError (List String) :=
  match Entries.get? global m.globals with
  | some g => .ok (Entries.keys g)
  | none => .error (.unknownGlobal global)

def function (m : Machine) (global method : String) : Except MachineError BoundMethod :=
  match Entries.get? global m.globals with
  | none => .error (.unknownGlobal global)
  | some g =>
    match Entries.get? method g with
    | some f => .ok f
    | none => .error (.unknownMethod global method)

/-! ## Life cycle -/

/-- Start every API. A machine that runs is left as it is. -/
def startup (m : Machine) : Except Escape Unit × Machine :=
  if m.status = .running then (.ok (), m)
  else
    let m := m.withHost (m.host.write .info
      ("Starting computer #" ++ toString m.host.computerId.toNat))
    match m.runHooks (m.apis.map (·.startup)) with
    | (.ok (), m) => (.ok (), { m with status := .running })
    | failed => failed

/-- Stop every API, the last one first, and drop threads and events. -/
def shutdown (m : Machine) : Except Escape Unit × Machine :=
  if m.status = .stopped then (.ok (), m)
  else
    let m := m.withHost (m.host.write .info
      ("Stopping computer #" ++ toString m.host.computerId.toNat))
    match m.runHooks (m.apis.reverse.map (·.shutdown)) with
    | (.ok (), m) =>
      (.ok (), { m with host := m.host.drainEvents.2, threads := [], status := .stopped })
    | failed => failed

/-! ## Threads -/

def thread? (m : Machine) (id : ThreadId) : Option Thread := m.threads.find? fun t => t.id = id

/-- Call a global function on a new thread, up to where it first finishes or yields. -/
def spawn (m : Machine) (global method : String) (args : List Value) :
    Except Escape (Except MachineError ThreadId) × Machine :=
  if m.status ≠ .running then (.ok (.error .notRunning), m)
  else match m.function global method with
    | .error e => (.ok (.error e), m)
    | .ok f =>
      let id : ThreadId := ⟨m.nextThread⟩
      let m := { m with nextThread := m.nextThread + 1 }
      match f.invoke m.limits.depth (Arguments.ofList args) m.host with
      | (.error how, h) => (.error how, m.withHost h)
      | (.ok step, h) =>
        let t : Thread := ⟨id, global ++ "." ++ method, 0, .ofStep step⟩
        (.ok (.ok id), { m with
          host := h.write .debug t.diagnostic, threads := m.threads ++ [t] })

/-- Remove a finished thread and give back how it ended; nothing while it is parked. -/
def takeResult (m : Machine) (id : ThreadId) : Except MachineError (Option CallEnd) × Machine :=
  match m.thread? id with
  | none => (.error (.unknownThread id), m)
  | some t =>
    match t.state with
    | .parked .. => (.ok none, m)
    | .done result =>
      (.ok (some result), { m with threads := m.threads.filter fun t => t.id ≠ id })

/-! ## Events -/

/-- Deliver queued events, the oldest first, each to every thread that accepts it. Events that
nobody waits for are lost. The answer counts the events that woke a thread. -/
def pumpUpTo (delivered : Nat) (m : Machine) : Nat → Except Escape Nat × Machine
  | 0 => (if m.host.events.isEmpty then .ok delivered else .error .exhausted, m)
  | more + 1 =>
    match m.host.popEvent with
    | none => (.ok delivered, m)
    | some (event, h) =>
      match Thread.deliver m.limits.depth event h m.threads with
      | (.error how, threads, h) => (.error how, { m with threads, host := h })
      | (.ok woke, threads, h) =>
        pumpUpTo (if woke then delivered + 1 else delivered) { m with threads, host := h } more

/-- Deliver the queued events, and those that come up meanwhile as far as the limit allows. -/
def pump (m : Machine) : Except Escape Nat × Machine :=
  m.pumpUpTo 0 (m.host.events.length + m.limits.events)

/-- Run the main thread once, without delivering events. -/
def mainTick (m : Machine) : Except Escape Nat × Machine :=
  let (ran, h) := m.host.tick m.limits.depth
  (ran, m.withHost h)

/-- Run the main thread once, then deliver the events. The answer counts the tasks that ran. -/
def tick (m : Machine) : Except Escape Nat × Machine :=
  match m.mainTick with
  | (.error how, m) => (.error how, m)
  | (.ok ran, m) =>
    match m.pump with
    | (.error how, m) => (.error how, m)
    | (.ok _, m) => (.ok ran, m)

/-- Tick until a thread is done, at most some number of times. -/
def tickUntilDone (id : ThreadId) (m : Machine) : Nat → Except Escape Unit × Machine
  | 0 => (.ok (), m)
  | more + 1 =>
    match m.thread? id with
    | none => (.ok (), m)
    | some t =>
      if t.state.isDone then (.ok (), m)
      else match m.tick with
        | (.error how, m) => (.error how, m)
        | (.ok _, m) => tickUntilDone id m more

/-- Call a global function and tick until it is done. Nothing comes back if it still waits. -/
def call (m : Machine) (global method : String) (args : List Value) (maxTicks : Nat) :
    Except Escape (Except MachineError (Option CallEnd)) × Machine :=
  match m.spawn global method args with
  | (.error how, m) => (.error how, m)
  | (.ok (.error e), m) => (.ok (.error e), m)
  | (.ok (.ok id), m) =>
    match m.tickUntilDone id maxTicks with
    | (.error how, m) => (.error how, m)
    | (.ok (), m) =>
      let (result, m) := m.takeResult id
      (.ok result, m)

def diagnostic (m : Machine) : String :=
  Text.record "VM"
    [("status", m.status.diagnostic),
      ("globals", Text.bracketed ((Entries.keys m.globals).map Text.quoted)),
      ("threads", toString m.threads.length)]

/-! ## Computers -/

/-- The registry as an API. It attaches devices while the machine runs. -/
def registryApi : Api where
  names := ["peripheral"]
  declaration := Registry.declaration
  object := .registry
  startup := .command .start Code.unit
  shutdown := .command .stop Code.unit

/-- A machine with the registry installed. -/
def computer (limits : Limits) (h : Host) : Machine := ((ofHost limits h).addApi registryApi).2

/-- A computer that is started. -/
def boot (limits : Limits) (h : Host) : Except Escape Unit × Machine :=
  (computer limits (h.write .debug
    ("Booting computer #" ++ toString h.computerId.toNat))).startup

def diagnosticComputer (m : Machine) : String :=
  Text.record "Computer" [("vm", m.diagnostic), ("peripherals", m.host.diagnosticRegistry)]

end Machine

end DeviceBridge
