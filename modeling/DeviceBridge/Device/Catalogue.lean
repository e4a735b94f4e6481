import DeviceBridge.Device.Chest
import DeviceBridge.Device.Drive
import DeviceBridge.Device.Sensor
import DeviceBridge.Device.Speaker

/-
  The reference devices by type name.
-/

namespace DeviceBridge

def Device.typeNames : List String := ["speaker", "drive", "sensor", "chest"]

/-- A fresh device of a type name. -/
def Device.create? (name : String) : Option Device :=
  match name with
  | "speaker" => some Speaker.new
  | "drive" => some (Drive.new none)
  | "sensor" => some (Sensor.new ["minecraft:pig", "minecraft:cow"])
  | "chest" => some (Chest.new (List.replicate 27 none))
  | _ => none

end DeviceBridge
