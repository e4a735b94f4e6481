import DeviceBridge.Machine.Basic
import DeviceBridge.Proofs.Host.Queues

/-
  What can be done with a machine from outside, as data (`Operation`). Script code, hooks and tasks
  run inside of the operations.
-/

namespace DeviceBridge.Machine

inductive Operation where
  | addApi (api : Api)
  | startup
  | shutdown
  | spawn (global method : String) (args : List Value)
  | call (global method : String) (args : List Value) (maxTicks : Nat)
  | queueEvent (name : String) (args : List Value)
  | pump
  | tick
  /-- A turn of the main thread alone. -/
  | mainTick
  | takeResult (id : ThreadId)
  /-- A change of the registry. -/
  | change (command : Command)
  | addDevice (d : Device)
  | addSource (s : GenericSource)
  /-- A task that no script issues. -/
  | submit (completion : Completion) (body : Code)

namespace Operation

/-- Only whether an operation came back. -/
def finished {α : Type} (left : Except Escape α × Machine) : Except Escape Unit × Machine :=
  (left.1.map fun _ => (), left.2)

def perform (m : Machine) : Operation → Except Escape Unit × Machine
  | addApi api => m.addApi api
  | startup => m.startup
  | shutdown => m.shutdown
  | spawn global method args => finished (m.spawn global method args)
  | call global method args maxTicks => finished (m.call global method args maxTicks)
  | queueEvent name args => (.ok (), m.withHost (m.host.queueEvent name args))
  | pump => finished m.pump
  | tick => finished m.tick
  | mainTick => finished m.mainTick
  | takeResult id => (.ok (), (m.takeResult id).2)
  | change command =>
    let (left, h) := m.host.perform (Program.run m.limits.depth) command
    (left, m.withHost h)
  | addDevice d => (.ok (), m.withHost (m.host.addDevice d).2)
  | addSource s => (.ok (), m.withHost (m.host.addSource s))
  | submit completion body => (.ok (), m.withHost (m.host.enqueue completion body).2)

theorem ofFinished {α : Type} {left : Except Escape α × Machine} {m' : Machine}
    (done : finished left = (.ok (), m')) : ∃ answer, left = (.ok answer, m') := by
  obtain ⟨answer, m⟩ := left
  cases answer with
  | ok answer =>
    cases done
    exact ⟨answer, rfl⟩
  | error how => cases done

end Operation

end DeviceBridge.Machine
