import DeviceBridge.Device.Catalogue
import DeviceBridge.Files.System
import DeviceBridge.Generator.Basic
import DeviceBridge.TaskQueue

/-
  The state of a host: the event queue, the tasks of the main thread, the file system, the slots and
  what is installed in them, the devices, the generators with what they built, and the log. Running
  code changes nothing else.
-/

namespace DeviceBridge

/-! ## Installed devices -/

inductive MethodEntry where
  | generated (t : Trampoline)
  /-- A method known at run time, by its index among the device's dynamic names. -/
  | dynamic (index : Nat)

/-- Exported methods by name, each name once. -/
abbrev MethodTable := List (String × MethodEntry)

namespace MethodTable

def find? (table : MethodTable) (name : String) : Option MethodEntry := Entries.get? name table

def names (table : MethodTable) : List String := Entries.keys table

/-- The dynamic names by index, then the generated methods. -/
def build (dynamic : List String) (generated : List NamedMethod) : MethodTable :=
  Entries.putAll [] (dynamic.zipIdx.map (fun (n, i) => (n, MethodEntry.dynamic i))
    ++ generated.map fun m => (m.name, MethodEntry.generated m.method))

end MethodTable

structure Access where
  id : AccessId
  device : DeviceId
  object : HostObject
  typeName : String
  methods : MethodTable
  /-- The slot table counts the device as attached. -/
  linked : Bool
  /-- The services are open. -/
  attached : Bool
  /-- The locations mounted through this access, in order. -/
  mounts : List String

namespace Access

def diagnostic (a : Access) : String :=
  Text.record "PeripheralAccess"
    [("side", a.id.side.diagnostic), ("type", Text.quoted a.typeName),
      ("attached", boolText a.attached),
      ("methods", Text.bracketed (a.methods.names.map Text.quoted))]

end Access

/-! ## The host -/

structure Host where
  computerId : UInt32
  logsHostErrors : Bool
  events : List (List Value)
  tasks : TaskQueue
  /-- What tasks left that were entered. -/
  ledger : List (TaskId × Except MethodError (List Value))
  files : FileSystem
  slots : Side → Option AccessId
  running : Bool
  accesses : List Access
  devices : List Device
  sources : GenericSources
  /-- The generator for methods that scripts call directly, and the one for devices. -/
  scriptMethods : Generator
  deviceMethods : Generator
  journal : List String
  log : List LogLine

namespace Host

/-! ## Log, journal and events -/

def write (h : Host) (level : LogLevel) (text : String) : Host :=
  { h with log := h.log ++ [⟨level, text⟩] }

def writeAll (h : Host) (lines : List LogLine) : Host := { h with log := h.log ++ lines }

def note (h : Host) (text : String) : Host := { h with journal := h.journal ++ [text] }

/-- Queue an event. Its name is its first value. -/
def queueEvent (h : Host) (name : String) (args : List Value) : Host :=
  { h with events := h.events ++ [.string name :: args] }

def popEvent (h : Host) : Option (List Value × Host) :=
  match h.events with
  | [] => none
  | event :: rest => some (event, { h with events := rest })

def drainEvents (h : Host) : List (List Value) × Host := (h.events, { h with events := [] })

/-! ## Tasks -/

/-- Enter what a task left into the ledger. -/
def enter (h : Host) (task : TaskId) (left : Except MethodError (List Value)) : Host :=
  { h with ledger := h.ledger ++ [(task, left)] }

def enqueue (h : Host) (completion : Completion) (body : Code) :
    Except QueueError TaskId × Host :=
  let (answer, tasks) := h.tasks.enqueue completion body
  (answer, { h with tasks })

/-! ## Devices and accesses -/

def addDevice (h : Host) (d : Device) : DeviceId × Host :=
  (⟨h.devices.length⟩, { h with devices := h.devices ++ [d] })

def device? (h : Host) (id : DeviceId) : Option Device := h.devices[id.number]?

def setDevice (h : Host) (id : DeviceId) (d : Device) : Host :=
  { h with devices := h.devices.set id.number d }

/-- Change the state of a device. -/
def setState (h : Host) (id : DeviceId) (state : DeviceState) : Host :=
  match h.device? id with
  | some d => h.setDevice id { d with state }
  | none => h

def state? (h : Host) (id : DeviceId) : Option DeviceState := (h.device? id).map (·.state)

def access? (h : Host) (id : AccessId) : Option Access := h.accesses.find? fun a => a.id = id

/-- Change one access. -/
def modifyAccess (h : Host) (id : AccessId) (f : Access → Access) : Host :=
  { h with accesses := h.accesses.map fun a => if a.id = id then f a else a }

def isAttached (h : Host) (id : AccessId) : Bool :=
  match h.access? id with
  | some a => a.attached
  | none => false

/-! ## Slots -/

def setSlot (h : Host) (side : Side) (id : Option AccessId) : Host :=
  { h with slots := fun s => if s = side then id else h.slots s }

/-- What is installed, in slot order. -/
def installed (h : Host) : List Access := (Side.all.filterMap h.slots).filterMap h.access?

/-- The access at a side given by name. -/
def accessAt (h : Host) (side : String) : Option Access :=
  ((Side.ofName? side).bind h.slots).bind h.access?

def addSource (h : Host) (s : GenericSource) : Host := { h with sources := h.sources ++ [s] }

end Host

end DeviceBridge
