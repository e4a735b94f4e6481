import DeviceBridge.Device.Basic

/-
  The sensor reports the entities around it, on the main thread, and the devices attached beside it.
-/

namespace DeviceBridge.Sensor

/-- The attached devices but the one that asks, by attachment name. -/
def neighbours (own : Value) (available : Value) : Value :=
  .table (((available.table?).getD []).filter fun (k, _) => k ≠ .string ((own.string?).getD ""))

def declaration : ClassDecl := ClassDecl.plain .sensor "Sensor" [
  (MethodDecl.plain ⟨30⟩ "scan" .value fun inv =>
    Code.bindRead (inv.receiverDevice .sensor) fun d =>
    Code.relay (.device d .entities)).onMainThread,
  (MethodDecl.plain ⟨31⟩ "getNeighbours" .value fun inv =>
    Code.bindRead (inv.access 0) fun access =>
    .ask (.service access .attachmentName) fun
      | .error e => Code.raise e
      | .ok own =>
        .ask (.service access .available) fun
          | .error e => Code.raise e
          | .ok available => .done [neighbours own available]).withParams [.context .access]]

def new (entities : List String) : Device :=
  { Device.plain .sensor "sensor" declaration (.sensor entities) with
    attach := fun _ access =>
      Code.tell (.service access
        (.queueEvent "sensor_ready" [.string access.side.name])) }

end DeviceBridge.Sensor
