import DeviceBridge.Program.Basic

/-
  The queue of the main thread. Tasks wait in the order in which they came; a bound on their number
  makes further ones be refused. A refused task uses up a number all the same. A bound beyond all
  memory keeps the queue from being set up (`TaskQueue.obstacle?`).
-/

namespace DeviceBridge

structure Task where
  id : TaskId
  completion : Completion
  body : Code

/-- The states of a task, as they are counted and stored. -/
inductive TaskState where
  | queued
  | running
  | finished
  | failed
deriving Repr, DecidableEq

namespace TaskState

/-- A number that stands for no state reads as queued. -/
def ofCode : Nat → TaskState
  | 1 => running
  | 2 => finished
  | 3 => failed
  | _ => queued

def code : TaskState → Nat
  | queued => 0
  | running => 1
  | finished => 2
  | failed => 3

theorem ofCode_code (s : TaskState) : ofCode s.code = s := by cases s <;> rfl

def diagnostic : TaskState → String
  | queued => "Queued"
  | running => "Running"
  | finished => "Finished"
  | failed => "Failed"

end TaskState

namespace Task

/-- A task waits until it is run. -/
def state (_ : Task) : TaskState := .queued

def diagnostic (t : Task) : String :=
  Text.openRecord "Task" [("id", t.id.diagnostic), ("state", t.state.diagnostic)]

end Task

structure TaskQueue where
  /-- The bound on waiting tasks as it was asked for. -/
  limit : Nat
  perTick : Nat
  nextId : Nat
  waiting : List Task
  submitted : Nat
  completed : Nat
  failed : Nat
  /-- The main thread still runs. -/
  connected : Bool

namespace TaskQueue

def new (maxPending perTick : Nat) : TaskQueue := ⟨maxPending, perTick, 1, [], 0, 0, 0, true⟩

/-- How many tasks may wait: there is always room for one. -/
def capacity (q : TaskQueue) : Nat := max 1 q.limit

/-- The bytes that one place in the queue takes up. -/
def placeSize : Nat := 56

/-- Why the places of a queue cannot be set aside, which happens before the first task comes: a
quarter of all words bounds their number, and half of all words the bytes that they take up. -/
def obstacle? (q : TaskQueue) : Option Escape :=
  if UInt64.size ≤ 4 * q.capacity then
    some (.panic (.text "bounded channel capacity is too large"))
  else if UInt64.size ≤ 2 * (placeSize * q.capacity) then some (.panic (.text "capacity overflow"))
  else none

def pending (q : TaskQueue) : Nat := q.waiting.length

def enqueue (q : TaskQueue) (completion : Completion) (body : Code) :
    Except QueueError TaskId × TaskQueue :=
  let id : TaskId := ⟨q.nextId⟩
  let q := { q with nextId := q.nextId + 1 }
  if !q.connected then (.error .disconnected, q)
  else if q.capacity ≤ q.waiting.length then (.error .full, q)
  else (.ok id, { q with
    waiting := q.waiting ++ [⟨id, completion, body⟩], submitted := q.submitted + 1 })

/-- Take the task that has waited longest. -/
def next? (q : TaskQueue) : Option (Task × TaskQueue) :=
  match q.waiting with
  | [] => none
  | t :: rest => some (t, { q with waiting := rest })

/-- Count a task that was run. -/
def record (q : TaskQueue) (ok : Bool) : TaskQueue :=
  if ok then { q with completed := q.completed + 1 } else { q with failed := q.failed + 1 }

/-- The main thread is gone, and with it what waited. -/
def disconnect (q : TaskQueue) : TaskQueue := { q with waiting := [], connected := false }

end TaskQueue

end DeviceBridge
