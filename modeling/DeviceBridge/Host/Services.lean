import DeviceBridge.Host.Basic

/-
  What the host does when it is asked: the services of an access, which are open only while it is
  attached, and the operations of the reference devices. Nothing here runs other code.
-/

namespace DeviceBridge.Host

/-! ## Volumes -/

/-- A new volume with some files. Files that cannot be added are reported and left out. -/
def newVolume (h : Host) (files : List (String × Bytes)) : VolumeId × Host :=
  let (failed, v) := Volume.empty.addFiles files
  let h := h.writeAll (failed.map fun (path, e) =>
    ⟨.warn, "Cannot add " ++ path ++ " to memory mount: " ++ e.message⟩)
  let (id, files) := h.files.addVolume v
  (id, { h with files })

/-! ## Mounts of an access -/

def notAttached : MethodError := ⟨.notAttached, 0⟩

/-- Mount at a location for an attached device. The answer is the location, or none if it is
taken. -/
def mountFor (h : Host) (id : AccessId) (location : String) (backing : Backing) (drive : String) :
    Except MethodError (Option String) × Host :=
  if !h.isAttached id then (.error notAttached, h)
  else
    let location := Path.normalize location
    if h.files.has location then (.ok none, h)
    else match h.files.mountAt drive location backing with
      | (.error _, _) => (.ok none, h)
      | (.ok (), files) =>
        let h := { h with files }
        (.ok (some location), h.modifyAccess id fun a =>
          { a with mounts := if location ∈ a.mounts then a.mounts else a.mounts ++ [location] })

/-- Unmount a location that the device mounted. -/
def unmountFor (h : Host) (id : AccessId) (location : String) : Except MethodError Unit × Host :=
  if !h.isAttached id then (.error notAttached, h)
  else
    let location := Path.normalize location
    match h.access? id with
    | none => (.error notAttached, h)
    | some a =>
      if location ∈ a.mounts then
        let h := h.modifyAccess id fun a => { a with mounts := a.mounts.filter (· ≠ location) }
        (.ok (), { h with files := (h.files.unmount location).2 })
      else (.error (.ofText "You didn't mount this location"), h)

/-- Unmount everything that was mounted through an access. -/
def unmountAll (h : Host) (id : AccessId) : Host :=
  match h.access? id with
  | none => h
  | some a =>
    let h := { h with files := a.mounts.foldl (fun fs l => (fs.unmount l).2) h.files }
    h.modifyAccess id fun a => { a with mounts := [] }

/-! ## Services -/

/-- The devices that are attached, by side. -/
def attachedDevices (h : Host) : List (Side × Device) :=
  (h.installed.filter (·.attached)).filterMap fun a =>
    (h.device? a.device).map fun d => (a.id.side, d)

/-- An answer that only an attached device gets. -/
def whenAttached (h : Host) (id : AccessId) (answer : Value) : Except MethodError Value :=
  if h.isAttached id then .ok answer else .error notAttached

def optionalString : Option String → Value
  | none => .nil
  | some s => .string s

def serve (h : Host) (id : AccessId) : Service → Except MethodError Value × Host
  | .mount writable location files drive =>
    let (v, h) := h.newVolume files
    let backing := if writable then Backing.writable v else .readOnly (.volume v)
    match h.mountFor id location backing drive with
    | (.ok l, h) => (.ok (optionalString l), h)
    | (.error e, h) => (.error e, h)
  | .unmount location =>
    match h.unmountFor id location with
    | (.ok (), h) => (.ok (.bool true), h)
    | (.error e, h) => (.error e, h)
  | .mounted => (.ok (.ofList ((((h.access? id).map (·.mounts)).getD []).map .string)), h)
  | .isAttached => (.ok (.bool (h.isAttached id)), h)
  | .computerId => (h.whenAttached id (.ofNat h.computerId.toNat), h)
  | .queueEvent name args =>
    if h.isAttached id then (.ok (.bool true), h.queueEvent name args) else (.error notAttached, h)
  | .attachmentName => (h.whenAttached id (.string id.side.name), h)
  | .available =>
    (h.whenAttached id (.table (h.attachedDevices.map fun (side, d) =>
      (.string side.name, .string d.kind))), h)
  | .availableAt name =>
    (h.whenAttached id (optionalString
      ((h.attachedDevices.find? fun (side, _) => side.name == name).map fun (_, d) => d.kind)), h)

/-! ## The drive -/

def driveState? (h : Host) (id : DeviceId) : Option DriveState :=
  match h.state? id with
  | some (.drive s) => some s
  | _ => none

/-- Mount a disk at the first of some locations that is free. -/
def mountDisk (h : Host) (access : AccessId) (disk : Disk) : List String → Option String × Host
  | [] => (none, h)
  | location :: rest =>
    match h.mountFor access location (.writable disk.contents) "disk" with
    | (.ok (some path), h) =>
      (some path, h.write .debug ("Mounted disk " ++ toString disk.id.toNat ++ " at " ++ path))
    | (.ok none, h) => mountDisk h access disk rest
    | (.error _, h) => (none, h)

/-- Mount the disk of a drive, if there is one, and keep the location. -/
def mountDrive (h : Host) (id : DeviceId) (s : DriveState) (access : AccessId) : Host :=
  match s.disk with
  | none => h.setState id (.drive { s with mountPath := none })
  | some disk =>
    let (path, h) := h.mountDisk access disk Drive.locations
    h.setState id (.drive { s with mountPath := path })

/-- Queue an event about the drive, if the access through which it is attached still is. -/
def driveEvent (h : Host) (access : AccessId) (name : String) : Host :=
  (h.serve access (.queueEvent name [.string access.side.name])).2

/-- Take the disk out of a drive. -/
def ejectDisk (h : Host) (id : DeviceId) : Option Disk × Host :=
  match h.driveState? id with
  | none => (none, h)
  | some s =>
    match s.disk with
    | none => (none, h)
    | some disk =>
      match s.access with
      | none => (some disk, h.setState id (.drive { s with disk := none }))
      | some access =>
        let h := h.setState id (.drive { s with disk := none, mountPath := none })
        let h := match s.mountPath with
          | none => h
          | some path =>
            match h.unmountFor access path with
            | (.ok (), h) => h
            | (.error e, h) =>
              h.write .warn ("Cannot unmount disk at " ++ path ++ ": " ++ e.message)
        (some disk, h.driveEvent access "disk_eject")

/-- Put a disk into a drive, in the stead of the one that was there. -/
def insertDisk (h : Host) (id : DeviceId) (disk : Disk) : Option Disk × Host :=
  let (previous, h) := h.ejectDisk id
  match h.driveState? id with
  | none => (previous, h)
  | some s =>
    let s := { s with disk := some disk }
    match s.access with
    | none => (previous, h.setState id (.drive s))
    | some access => (previous, (h.mountDrive id s access).driveEvent access "disk")

/-! ## The chest -/

/-- The slots of a chest; other devices have none. -/
def chestSlots (h : Host) (id : DeviceId) : List (Option ItemStack) :=
  match h.state? id with
  | some (.chest slots) => slots
  | _ => []

/-- Put a stack into a slot of a chest and give back what was there. -/
def setChestSlot (h : Host) (id : DeviceId) (index : Nat) (stack : Option ItemStack) :
    Option ItemStack × Host :=
  match h.state? id with
  | some (.chest slots) =>
    let (old, slots) := Chest.setSlot slots index stack
    (old, h.setState id (.chest slots))
  | _ => (none, h)

/-! ## Requests -/

def driveRequest (h : Host) (id : DeviceId) (s : DriveState) : DeviceRequest →
    Except MethodError Value × Host
  | .hasDisk => (.ok (.bool s.disk.isSome), h)
  | .diskLabel => (.ok (optionalString (s.disk.bind (·.label))), h)
  | .setDiskLabel label =>
    let disk := s.disk.map fun d => { d with label }
    (.ok .nil, h.setState id (.drive { s with disk }))
  | .diskId => (.ok (.ofOption (s.disk.map fun d => .ofNat d.id.toNat)), h)
  | .mountPath => (.ok (optionalString s.mountPath), h)
  | .eject => (.ok .nil, (h.ejectDisk id).2)
  | .connect access => (.ok .nil, h.mountDrive id { s with access := some access } access)
  | .disconnect => (.ok .nil, h.setState id (.drive { s with access := none, mountPath := none }))
  | _ => (.ok .nil, h)

/-! ## The other devices -/

def speakerRequest (h : Host) (id : DeviceId) (played : List Sound) : DeviceRequest →
    Except MethodError Value × Host
  | .play name volume pitch =>
    (.ok (.bool true), h.setState id (.speaker (played ++ [Speaker.sound name volume pitch])))
  | .clearSounds => (.ok .nil, h.setState id (.speaker []))
  | .soundCount => (.ok (.ofNat played.length), h)
  | _ => (.ok .nil, h)

def sensorRequest (entities : List String) : DeviceRequest → Except MethodError Value
  | .entities => .ok (.ofList (entities.map .string))
  | _ => .ok .nil

def chestRequest (slots : List (Option ItemStack)) : DeviceRequest → Except MethodError Value
  | .isEmpty => .ok (.bool (Chest.isEmpty slots))
  | .slotCount => .ok (.ofNat slots.length)
  | .items => .ok (Chest.items slots)
  | .itemAt slot => Chest.itemAt slots slot
  | _ => .ok .nil

/-- An operation that the device does not have answers nil. -/
def deviceRequest (h : Host) (id : DeviceId) (request : DeviceRequest) :
    Except MethodError Value × Host :=
  match h.state? id with
  | some (.speaker played) => h.speakerRequest id played request
  | some (.drive s) => h.driveRequest id s request
  | some (.sensor entities) => (sensorRequest entities request, h)
  | some (.chest slots) => (chestRequest slots request, h)
  | _ => (.ok .nil, h)

/-! ## Requests -/

def slotQuery (h : Host) : SlotQuery → Value
  | .isPresent side => .bool (h.accessAt side).isSome
  | .typeAt side => optionalString ((h.accessAt side).map (·.typeName))
  | .methodsAt side => .ofOption ((h.accessAt side).map fun a =>
      .ofList (a.methods.names.map .string))

def answer (h : Host) : Request → Except MethodError Value × Host
  | .note text => (.ok .nil, h.note text)
  | .queueEvent name args => (.ok .nil, h.queueEvent name args)
  | .enter task left => (.ok .nil, h.enter task left)
  | .computerId => (.ok (.ofNat h.computerId.toNat), h)
  | .service id service => h.serve id service
  | .slot query => (.ok (h.slotQuery query), h)
  | .device id request => h.deviceRequest id request

end DeviceBridge.Host
