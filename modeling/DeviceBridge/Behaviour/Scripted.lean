import DeviceBridge.Behaviour.Basic
import DeviceBridge.Machine.Basic

/-
  Methods, devices and APIs that are made of behaviours.
-/

namespace DeviceBridge

namespace Behaviour

/-- The body of a method with declared parameters. -/
def script (params : List ParamType) (b : Behaviour) (inv : Invocation) : Code :=
  b.program (.ofInvocation params inv)

/-- A hook: what it fails with is written into the journal. -/
def hook (name : String) (around : Surroundings) (b : Behaviour) : Code :=
  .attempt (b.program around) fun
    | .raised e => .ask (.note (name ++ " error: " ++ e.message)) fun _ => Code.unit
    | _ => Code.unit

end Behaviour

/-- A device of some class whose hooks and dynamic methods are behaviours. -/
def Device.scripted (kind : String) (declaration : ClassDecl) (dynamic : List (String × Behaviour))
    (attach detach : Behaviour) : Device :=
  { Device.plain (.named "scripted device") kind declaration .stateless with
    dynamic := dynamic.map (·.1)
    callDynamic := fun access index args =>
      match dynamic[index]? with
      | some (_, b) => b.program (.installed access args.toList)
      | none => Device.noDynamic access index args
    attach := fun _ access => attach.hook "attach" (.installed access [])
    detach := fun _ access => detach.hook "detach" (.installed access []) }

/-- A device that has names for dynamic methods and nothing behind them. -/
def Device.bare (kind : String) (declaration : ClassDecl) (dynamic : List String) : Device :=
  { Device.plain (.named "bare device") kind declaration .stateless with dynamic }

/-- An API whose hooks are behaviours. -/
def Api.scripted (names : List String) (declaration : ClassDecl) (startup shutdown : Behaviour) :
    Api :=
  ⟨names, declaration, .datum (.named "scripted api") .nil 0, startup.hook "startup" .bare,
    shutdown.hook "shutdown" .bare⟩

end DeviceBridge
