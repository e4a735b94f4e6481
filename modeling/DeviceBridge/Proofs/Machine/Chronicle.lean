import DeviceBridge.Proofs.Host.Trace
import DeviceBridge.Proofs.Machine.Runs

/-
  What happens on a machine, in the order in which it happens. An `Incident` is one step in the life
  of a task, an event or a thread. The incidents of an operation are listed by the same recursion by
  which the operation runs, down to the single changes that code makes (`Operation.incidents`), and
  a run keeps the list of all of them (`Recorded`). The views at the end of a list that the theorems
  speak of are plain filters (`Chronicle`).
-/

namespace DeviceBridge

inductive Incident where
  /-- A task was queued. -/
  | accepted (t : Task)
  /-- A task found no place; its number is used up. -/
  | refused (t : Task) (e : QueueError)
  /-- An event was queued. -/
  | posted (event : List Value)
  | started (t : Task)
  /-- The body of a task came to its end, and what it left is passed to the completion. -/
  | finished (t : Task) (left : Except MethodError (List Value))
  /-- The completion of a task came to its end, and the task is counted. -/
  | counted (t : Task) (left : Except MethodError (List Value))
  /-- An event was taken out of the queue. -/
  | taken (event : List Value)
  /-- The code of a thread is run, from its start or with an event that the thread was given. -/
  | entered (thread : ThreadId) (event : Option (List Value))
  /-- The code has come to a stop and left the thread in a state. -/
  | moved (thread : ThreadId) (event : Option (List Value)) (state : ThreadState)

/-! ## Views -/

namespace Chronicle

/-- The tasks that were queued. -/
def accepted (log : List Incident) : List Task :=
  log.filterMap fun
    | .accepted t => some t
    | _ => none

/-- The numbers that were given out, to tasks that were queued and to those that were not. -/
def tickets (log : List Incident) : List TaskId :=
  log.filterMap fun
    | .accepted t => some t.id
    | .refused t _ => some t.id
    | _ => none

def started (log : List Incident) : List Task :=
  log.filterMap fun
    | .started t => some t
    | _ => none

/-- The tasks whose bodies came to their end, with what each passed to its completion. -/
def finished (log : List Incident) : List (Task × Except MethodError (List Value)) :=
  log.filterMap fun
    | .finished t left => some (t, left)
    | _ => none

/-- The tasks whose completions came to their end as well. -/
def counted (log : List Incident) : List (Task × Except MethodError (List Value)) :=
  log.filterMap fun
    | .counted t left => some (t, left)
    | _ => none

/-- The events that were queued. -/
def posted (log : List Incident) : List (List Value) :=
  log.filterMap fun
    | .posted event => some event
    | _ => none

/-- The events that were taken out of the queue. -/
def taken (log : List Incident) : List (List Value) :=
  log.filterMap fun
    | .taken event => some event
    | _ => none

/-- The states that a thread came to. -/
def states (thread : ThreadId) (log : List Incident) : List ThreadState :=
  log.filterMap fun
    | .moved other _ state => if other = thread then some state else none
    | _ => none

/-- How many tasks wait, by what happened so far. -/
def waiting (log : List Incident) : Nat := (accepted log).length - (started log).length

open Classical in
/-- What the tasks left that are to be reported by events, as they are reported. -/
noncomputable def reports (log : List Incident) : List (List Value) :=
  (finished log).filterMap fun r =>
    if r.1.completion = Completion.report then some (Host.report r.1.id r.2) else none

/-- What holds of each incident in view of those before it. -/
def Each (P : List Incident → Incident → Prop) (log : List Incident) : Prop :=
  ∀ before x after, log = before ++ x :: after → P before x

/-- If an event bears the name of reports, then it is the report of a task whose body has just come
to its end. -/
def Genuine (before : List Incident) : Incident → Prop
  | .posted event => Value.headString? event = some taskCompleteEvent → ∃ prior t left,
    before = prior ++ [.finished t left] ∧ t.completion = Completion.report ∧
    event = Host.report t.id left
  | _ => True

/-- Nothing passes for the report of a task but reports. -/
def Unforged (log : List Incident) : Prop := Each Genuine log

end Chronicle

/-! ## The incidents of a host -/

/-- What becomes of a task that is handed in. -/
def TaskQueue.handedIn (q : TaskQueue) (completion : Completion) (body : Code) : Incident :=
  match (q.enqueue completion body).1 with
  | .ok _ => .accepted ⟨⟨q.nextId⟩, completion, body⟩
  | .error e => .refused ⟨⟨q.nextId⟩, completion, body⟩ e

namespace Host

/-- The incidents of a single change: a task is handed in, or some events are queued. -/
def incident (h : Host) : Change → List Incident
  | .enqueue completion body => [h.tasks.handedIn completion body]
  | c => ((h.after c).events.drop h.events.length).map .posted

def incidents (h : Host) : List Change → List Incident
  | [] => []
  | c :: rest => h.incident c ++ (h.after c).incidents rest

/-- The incidents while a program runs. -/
def ranIncidents (depth : Nat) (h : Host) (p : Program) : List Incident :=
  h.incidents (p.changes depth h)

/-- The incidents of some turns of the main thread. -/
def tickIncidents (depth : Nat) (h : Host) : Nat → List Incident
  | 0 => []
  | more + 1 =>
    match h.nextTask? with
    | none => []
    | some (t, h) =>
      .started t :: (h.ranIncidents depth t.body ++
        match t.body.run depth h with
        | (outcome, h) =>
          match outcome.settled with
          | .error _ => []
          | .ok left => .finished t left :: (h.ranIncidents depth (t.completion t.id left) ++
            match h.complete depth t left with
            | (.error _, _) => []
            | (.ok (), h) =>
              .counted t left :: tickIncidents depth (h.recordRun t (succeeded left)) more))

end Host

/-! ## The incidents of threads -/

namespace Thread

/-- What the thread is left with, if its code comes back. -/
def stop (thread : ThreadId) (event : Option (List Value)) :
    Except Escape StepResult × Host → List Incident
  | (.ok step, _) => [.moved thread event (.ofStep step)]
  | (.error _, _) => []

def resumeIncidents (depth : Nat) (event : List Value) (h : Host) (t : Thread) : List Incident :=
  match t.state with
  | .done _ => []
  | .parked _ frame =>
    .entered t.id (some event) :: (h.ranIncidents depth (frame.next.on event) ++
      stop t.id (some event) (frame.resume depth event h))

def deliverIncidents (depth : Nat) (event : List Value) (h : Host) : List Thread → List Incident
  | [] => []
  | t :: rest =>
    if t.state.accepts event then
      t.resumeIncidents depth event h ++
        match t.resume depth event h with
        | (.error _, _, _) => []
        | (.ok (), _, h) => deliverIncidents depth event h rest
    else deliverIncidents depth event h rest

end Thread

/-! ## The incidents of operations -/

namespace Machine

def hookIncidents (m : Machine) (hook : Code) : List Incident :=
  m.host.ranIncidents m.limits.depth hook

def hooksIncidents (m : Machine) : List Code → List Incident
  | [] => []
  | hook :: rest =>
    m.hookIncidents hook ++
      match m.runHook hook with
      | (.ok (), m) => hooksIncidents m rest
      | (.error _, _) => []

/-- The machine has said that it starts, and nothing else yet. -/
def starting (m : Machine) : Machine :=
  m.withHost (m.host.write .info ("Starting computer #" ++ toString m.host.computerId.toNat))

def stopping (m : Machine) : Machine :=
  m.withHost (m.host.write .info ("Stopping computer #" ++ toString m.host.computerId.toNat))

def addApiIncidents (m : Machine) (api : Api) : List Incident :=
  if (m.exportApi api).status = .running then (m.exportApi api).hookIncidents api.startup else []

def startupIncidents (m : Machine) : List Incident :=
  if m.status = .running then [] else m.starting.hooksIncidents (m.apis.map (·.startup))

/-- The events that are left when the hooks have run are taken out. -/
def shutdownIncidents (m : Machine) : List Incident :=
  if m.status = .stopped then []
  else m.stopping.hooksIncidents (m.apis.reverse.map (·.shutdown)) ++
    (m.stopping.runHooks (m.apis.reverse.map (·.shutdown))).2.host.events.map .taken

def spawnIncidents (m : Machine) (global method : String) (args : List Value) : List Incident :=
  if m.status ≠ .running then []
  else match m.function global method with
    | .error _ => []
    | .ok f =>
      .entered ⟨m.nextThread⟩ none :: (m.host.ranIncidents m.limits.depth
          (f.method.apply f.object f.contexts (Arguments.ofList args)) ++
        Thread.stop ⟨m.nextThread⟩ none (f.invoke m.limits.depth (Arguments.ofList args) m.host))

def pumpIncidents (m : Machine) : Nat → List Incident
  | 0 => []
  | more + 1 =>
    match m.host.popEvent with
    | none => []
    | some (event, h) =>
      .taken event :: (Thread.deliverIncidents m.limits.depth event h m.threads ++
        match Thread.deliver m.limits.depth event h m.threads with
        | (.error _, _, _) => []
        | (.ok _, threads, h) => pumpIncidents { m with threads, host := h } more)

def mainTickIncidents (m : Machine) : List Incident :=
  m.host.tickIncidents m.limits.depth m.host.tasks.perTick

/-- The incidents while all events are delivered. -/
def allPumped (m : Machine) : List Incident :=
  m.pumpIncidents (m.host.events.length + m.limits.events)

def turnIncidents (m : Machine) : List Incident :=
  m.mainTickIncidents ++
    match m.mainTick with
    | (.error _, _) => []
    | (.ok _, m) => m.allPumped

def untilIncidents (id : ThreadId) (m : Machine) : Nat → List Incident
  | 0 => []
  | more + 1 =>
    match m.thread? id with
    | none => []
    | some t =>
      if t.state.isDone then []
      else m.turnIncidents ++
        match m.tick with
        | (.error _, _) => []
        | (.ok _, m) => untilIncidents id m more

def callIncidents (m : Machine) (global method : String) (args : List Value) (maxTicks : Nat) :
    List Incident :=
  m.spawnIncidents global method args ++
    match m.spawn global method args with
    | (.ok (.ok id), m) => m.untilIncidents id maxTicks
    | _ => []

/-- What happens in the course of an operation. -/
def Operation.incidents (m : Machine) : Operation → List Incident
  | addApi api => m.addApiIncidents api
  | startup => m.startupIncidents
  | shutdown => m.shutdownIncidents
  | spawn global method args => m.spawnIncidents global method args
  | call global method args maxTicks => m.callIncidents global method args maxTicks
  | queueEvent name args => [.posted (.string name :: args)]
  | pump => m.allPumped
  | tick => m.turnIncidents
  | mainTick => m.mainTickIncidents
  | takeResult _ => []
  | change command => m.host.incidents
      (m.host.performChanges (Program.run m.limits.depth) (Program.changes m.limits.depth) command)
  | addDevice _ => []
  | addSource _ => []
  | submit completion body => [m.host.tasks.handedIn completion body]

/-- The machines that operations lead to from a host with nothing in its queues, with all that
happened on the way. -/
inductive Recorded (limits : Limits) (limit perTick : Nat) : List Incident → Machine → Prop where
  | start {h : Host} (tasks : h.tasks = TaskQueue.new limit perTick) (events : h.events = []) :
    Recorded limits limit perTick [] (ofHost limits h)
  | step {log : List Incident} {m m' : Machine} (before : Recorded limits limit perTick log m)
      (op : Operation) (done : op.perform m = (.ok (), m')) :
      Recorded limits limit perTick (log ++ op.incidents m) m'

end Machine

end DeviceBridge
