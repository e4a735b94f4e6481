import DeviceBridge.Declaration.Basic
import DeviceBridge.Files.Mount

/-
  Devices: what can be attached to a side of a computer. A device has a declared class, perhaps
  methods that are only known by name at run time, and two hooks that run when it is attached and
  before it is detached. The state of the reference devices is data of the host (`DeviceState`).
-/

namespace DeviceBridge

/-! ## State -/

/-- Something a speaker played. -/
structure Sound where
  name : String
  volume : Float
  pitch : Float

structure Disk where
  id : UInt32
  label : Option String
  contents : VolumeId

structure DriveState where
  disk : Option Disk
  mountPath : Option String
  /-- The access through which the drive was last attached. -/
  access : Option AccessId

structure ItemStack where
  name : String
  count : UInt32
deriving Repr, DecidableEq

inductive DeviceState where
  | speaker (played : List Sound)
  | drive (state : DriveState)
  | sensor (entities : List String)
  | chest (slots : List (Option ItemStack))
  | stateless

/-! ## Devices -/

structure Device where
  /-- The type of the device as a host object. -/
  type : HostType
  /-- The type name that scripts see. -/
  kind : String
  declaration : ClassDecl
  dynamic : List String
  callDynamic : AccessId → Nat → Arguments → Code
  attach : DeviceId → AccessId → Code
  detach : DeviceId → AccessId → Code
  state : DeviceState

/-- No dynamic method answers unless a device says how. -/
def Device.noDynamic (_ : AccessId) (index : Nat) (_ : Arguments) : Code :=
  Code.raiseCause (.noSuchMethod ("#" ++ toString index))

/-- A device of one class, with no dynamic methods and no hooks. -/
def Device.plain (type : HostType) (kind : String) (declaration : ClassDecl) (state : DeviceState) :
    Device :=
  ⟨type, kind, declaration, [], Device.noDynamic, fun _ _ => Code.unit, fun _ _ => Code.unit,
    state⟩

/-- Ask the host and pass its answer on. -/
def Code.relay (request : Request) : Code :=
  .ask request fun
    | .ok v => .done [v]
    | .error e => Code.raise e

/-- Ask the host and finish without values whatever it answers. -/
def Code.tell (request : Request) : Code := .ask request fun _ => Code.unit

/-- A class named after its objects, public and without tags. -/
def ClassDecl.plain (type : HostType) (name : String) (methods : List MethodDecl) : ClassDecl :=
  ⟨type, name, true, [], methods⟩

/-- Method numbers below this one belong to the declarations of this library. -/
def MethodId.reserved : Nat := 100

end DeviceBridge
