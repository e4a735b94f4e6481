import DeviceBridge.Config.Basic
import DeviceBridge.Host.Tasks

/-
  The registry as a script API, and the host of a fresh computer. Scripts ask what is at a side and
  call its methods.
-/

namespace DeviceBridge

namespace Registry

/-- A method that asks about the side named by its only argument. -/
def asking (id : Nat) (name : String) (returns : Returns) (query : String → SlotQuery) :
    MethodDecl :=
  (MethodDecl.plain ⟨id⟩ name returns fun inv =>
    Code.bindRead (inv.receiverOf .registry) fun _ =>
    Code.bindRead (inv.string 0) fun side =>
    Code.relay (.slot (query side))).withParams [.string]

def declaration : ClassDecl := ClassDecl.plain .registry "PeripheralApi" [
  asking 1 "isPresent" .bool .isPresent,
  asking 2 "getType" .option .typeAt,
  asking 3 "getMethods" .option .methodsAt,
  (MethodDecl.plain ⟨4⟩ "call" .outcome fun inv =>
    Code.bindRead (inv.receiverOf .registry) fun _ =>
    Code.bindRead (inv.objectOf 0 .context) fun _ =>
    Code.bindRead (inv.arguments 1) fun args => .call args).withParams
      [.context .context, .arguments]]

end Registry

namespace Host

/-- The classes of this library. -/
def ownClasses : List ClassDecl :=
  [Registry.declaration, Speaker.declaration, Drive.declaration, Sensor.declaration,
    Chest.declaration]

/-- The host of a computer that has not started. -/
def new (config : Config) : Host where
  computerId := config.computerId
  logsHostErrors := config.logHostErrors
  events := []
  tasks := TaskQueue.new config.maxPendingTasks config.maxTasksPerTick
  ledger := []
  files := FileSystem.empty
  slots _ := none
  running := false
  accesses := []
  devices := []
  sources := [Chest.genericMethods]
  scriptMethods := Generator.new "lua" 1 [.context]
  deviceMethods := Generator.new "peripheral" 2 [.context, .access]
  journal := []
  log := []

/-- Let a generator build what it can of some classes, without keeping their method lists. -/
def prebuild (sources : GenericSources) (classes : List ClassDecl) (g : Generator) : Generator :=
  classes.foldl (fun g c => (g.collect (Generator.candidates sources c)).generator) g

/-- A host that has built the methods of this library beforehand. -/
def prebuilt (h : Host) : Host :=
  { h with
    scriptMethods := prebuild h.sources ownClasses h.scriptMethods
    deviceMethods := prebuild h.sources ownClasses h.deviceMethods }

/-! ## Texts -/

def diagnosticContext (h : Host) : String :=
  Text.record "LuaContext" [("computer_id", toString h.computerId.toNat)]

def diagnosticEnvironment (h : Host) : String :=
  Text.record "Environment"
    [("computer_id", toString h.computerId.toNat), ("pending_events", toString h.events.length),
      ("file_system", h.files.diagnostic)]

def diagnosticSlot (h : Host) (side : Side) : String :=
  Text.optional (((h.slots side).bind h.access?).map Access.diagnostic)

def diagnosticRegistry (h : Host) : String :=
  Text.record "PeripheralApi"
    [("running", boolText h.running), ("slots", Text.bracketed (Side.all.map h.diagnosticSlot))]

end Host

end DeviceBridge
