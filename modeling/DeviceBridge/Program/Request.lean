import DeviceBridge.Failure
import DeviceBridge.Files.Volume
import DeviceBridge.Object

/-
  What running code may ask of the host. A request is answered with one value or an error; commands
  change the registry and may run other code in turn.
-/

namespace DeviceBridge

/-- Services that an installed device has on its computer. -/
inductive Service where
  /-- Mount a new volume with some files. -/
  | mount (writable : Bool) (location : String) (files : List (String × Bytes)) (drive : String)
  | unmount (location : String)
  | mounted
  | isAttached
  | computerId
  | queueEvent (name : String) (args : List Value)
  | attachmentName
  /-- Every attached device, and one of them by its attachment name. -/
  | available
  | availableAt (name : String)

/-- Questions about the slots, by the name of a side. -/
inductive SlotQuery where
  | isPresent (side : String)
  | typeAt (side : String)
  | methodsAt (side : String)

/-- Operations on the state of a device. -/
inductive DeviceRequest where
  | play (sound : String) (volume pitch : Option Float)
  | clearSounds
  | soundCount
  | entities
  | hasDisk
  | diskLabel
  | setDiskLabel (label : Option String)
  | diskId
  | mountPath
  | eject
  /-- The drive is attached through an access, or no longer. -/
  | connect (access : AccessId)
  | disconnect
  | isEmpty
  | slotCount
  | items
  /-- The stack in a slot, counted from 1. -/
  | itemAt (slot : Int64)

inductive Request where
  | note (text : String)
  /-- Queue an event for the scripts. -/
  | queueEvent (name : String) (args : List Value)
  /-- Enter what a task left into the ledger. -/
  | enter (task : TaskId) (left : Except MethodError (List Value))
  | computerId
  | service (access : AccessId) (service : Service)
  | slot (query : SlotQuery)
  | device (id : DeviceId) (request : DeviceRequest)

/-- Changes to the registry. -/
inductive Command where
  | set (side : Side) (device : Option DeviceId)
  | start
  | stop

end DeviceBridge
