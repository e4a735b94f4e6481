import DeviceBridge.Device.Basic

/-
  The disk drive holds at most one disk. While it is attached the contents of the disk are mounted
  at the first free location of `disk`, `disk2`, … `disk64`.
-/

namespace DeviceBridge.Drive

def maxMounts : Nat := 64

/-- The locations at which a disk may be mounted, in order. -/
def locations : List String :=
  "disk" :: (List.range (maxMounts - 1)).map fun n => "disk" ++ toString (n + 2)

/-- A method without parameters that asks one thing of its drive. -/
def asking (id : Nat) (name : String) (returns : Returns) (request : DeviceRequest) : MethodDecl :=
  MethodDecl.plain ⟨id⟩ name returns fun inv =>
    Code.bindRead (inv.receiverDevice .drive) fun d => Code.relay (.device d request)

def declaration : ClassDecl := ClassDecl.plain .drive "DiskDrive" [
  asking 20 "isDiskPresent" .bool .hasDisk,
  asking 21 "getDiskLabel" .option .diskLabel,
  ((MethodDecl.plain ⟨22⟩ "setDiskLabel" .unit fun inv =>
    Code.bindRead (inv.string? 0) fun label =>
    Code.bindRead (inv.receiverDevice .drive) fun d =>
    Code.relay (.device d (.setDiskLabel label))).withParams [.optional .string]).onMainThread,
  MethodDecl.plain ⟨23⟩ "hasData" .bool fun inv =>
    Code.bindRead (inv.receiverDevice .drive) fun d =>
    .ask (.device d .mountPath) fun
      | .ok v => .done [.bool !v.isNil]
      | .error e => Code.raise e,
  asking 24 "getMountPath" .option .mountPath,
  asking 25 "getDiskID" .option .diskId,
  (asking 26 "ejectDisk" .unit .eject).onMainThread]

def new (disk : Option Disk) : Device :=
  { Device.plain .drive "drive" declaration (.drive ⟨disk, none, none⟩) with
    attach := fun id access => Code.tell (.device id (.connect access))
    detach := fun id _ => Code.tell (.device id .disconnect) }

end DeviceBridge.Drive
