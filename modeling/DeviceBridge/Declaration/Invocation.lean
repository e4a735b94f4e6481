import DeviceBridge.Program.Basic

/-
  What the body of a method sees: its receiver and one bound argument per declared parameter. Each
  accessor reads the kind of argument it is named for; anything else there is a fault of the host.
-/

namespace DeviceBridge

inductive BoundArg where
  | receiver (object : HostObject)
  | context (object : HostObject)
  | arguments (args : Arguments)
  | string (s : String)
  | number (f : Float)
  | int (i : Int64)
  | bool (b : Bool)
  | table (entries : List (Key × Value))
  | any (v : Value)
  | constant (ordinal : Nat)
  /-- An optional parameter with nothing usable at its position. -/
  | absent

namespace BoundArg

def kind : BoundArg → String
  | receiver _ => "receiver"
  | context _ => "context"
  | arguments _ => "arguments"
  | string _ => "string"
  | number _ => "number"
  | int _ => "integer"
  | bool _ => "boolean"
  | table _ => "table"
  | any _ => "value"
  | constant _ => "enum"
  | absent => "absent"

end BoundArg

structure Invocation where
  receiver : HostObject
  params : List BoundArg

namespace Invocation

def fault (text : String) : Failure := .ofCause (.hostFault text)

def param (inv : Invocation) (index : Nat) : Except Failure BoundArg :=
  match inv.params[index]? with
  | some arg => .ok arg
  | none => .error (fault ("no parameter " ++ toString index))

def mismatch (index : Nat) (wanted : String) (got : BoundArg) : Failure :=
  fault ("parameter " ++ toString index ++ " is bound as " ++ got.kind ++ ", not " ++ wanted)

/-- Read a parameter by what it must be. -/
def read {α : Type} (inv : Invocation) (index : Nat) (wanted : String)
    (pick : BoundArg → Option α) : Except Failure α :=
  match inv.param index with
  | .error e => .error e
  | .ok arg =>
    match pick arg with
    | some a => .ok a
    | none => .error (mismatch index wanted arg)

/-- Read a parameter that may be absent. -/
def read? {α : Type} (inv : Invocation) (index : Nat) (wanted : String)
    (pick : BoundArg → Option α) : Except Failure (Option α) :=
  match inv.param index with
  | .error e => .error e
  | .ok .absent => .ok none
  | .ok arg =>
    match pick arg with
    | some a => .ok (some a)
    | none => .error (mismatch index wanted arg)

/-! ## Objects -/

/-- The receiver, if it has the type. -/
def receiverOf (inv : Invocation) (type : HostType) : Except Failure HostObject :=
  if inv.receiver.type = type then .ok inv.receiver
  else .error (fault ("receiver is not a " ++ type.name))

/-- The device that the method was called on, if it has the type. -/
def receiverDevice (inv : Invocation) (type : HostType) : Except Failure DeviceId :=
  match inv.receiver with
  | .device t id =>
    if t = type then .ok id else .error (fault ("receiver is not a " ++ type.name))
  | _ => .error (fault ("receiver is not a " ++ type.name))

/-- A context parameter, or the receiver as a parameter. -/
def object (inv : Invocation) (index : Nat) : Except Failure HostObject :=
  inv.read index "Context" fun
    | .context object => some object
    | .receiver object => some object
    | _ => none

def notA (index : Nat) (type : HostType) : Failure :=
  fault ("parameter " ++ toString index ++ " is not a " ++ type.name)

/-- A context parameter of some type. -/
def objectOf (inv : Invocation) (index : Nat) (type : HostType) : Except Failure HostObject :=
  match inv.object index with
  | .error e => .error e
  | .ok object => if object.type = type then .ok object else .error (notA index type)

def access (inv : Invocation) (index : Nat) : Except Failure AccessId :=
  match inv.object index with
  | .error e => .error e
  | .ok (.access id) => .ok id
  | .ok _ => .error (notA index .access)

def device (inv : Invocation) (index : Nat) (type : HostType) : Except Failure DeviceId :=
  match inv.object index with
  | .error e => .error e
  | .ok (.device t id) => if t = type then .ok id else .error (notA index type)
  | .ok _ => .error (notA index type)

/-! ## Script arguments -/

def arguments (inv : Invocation) (index : Nat) : Except Failure Arguments :=
  inv.read index "Arguments" fun
    | .arguments args => some args
    | _ => none

def pickString : BoundArg → Option String
  | .string s => some s
  | _ => none

def pickNumber : BoundArg → Option Float
  | .number f => some f
  | _ => none

def pickInt : BoundArg → Option Int64
  | .int i => some i
  | _ => none

def pickBool : BoundArg → Option Bool
  | .bool b => some b
  | _ => none

def pickTable : BoundArg → Option (List (Key × Value))
  | .table t => some t
  | _ => none

def pickAny : BoundArg → Option Value
  | .any v => some v
  | _ => none

def pickConstant : BoundArg → Option Nat
  | .constant n => some n
  | _ => none

def string (inv : Invocation) (index : Nat) := inv.read index "String" pickString

def string? (inv : Invocation) (index : Nat) := inv.read? index "String" pickString

def number (inv : Invocation) (index : Nat) := inv.read index "Number" pickNumber

def number? (inv : Invocation) (index : Nat) := inv.read? index "Number" pickNumber

def int (inv : Invocation) (index : Nat) := inv.read index "Int" pickInt

def int? (inv : Invocation) (index : Nat) := inv.read? index "Int" pickInt

def bool (inv : Invocation) (index : Nat) := inv.read index "Bool" pickBool

def bool? (inv : Invocation) (index : Nat) := inv.read? index "Bool" pickBool

def table (inv : Invocation) (index : Nat) := inv.read index "Table" pickTable

def table? (inv : Invocation) (index : Nat) := inv.read? index "Table" pickTable

def any (inv : Invocation) (index : Nat) := inv.read index "Any" pickAny

def any? (inv : Invocation) (index : Nat) := inv.read? index "Any" pickAny

def constant (inv : Invocation) (index : Nat) := inv.read index "Enum" pickConstant

def constant? (inv : Invocation) (index : Nat) := inv.read? index "Enum" pickConstant

/-- The receiver has no text of its own. -/
def diagnostic (inv : Invocation) : String :=
  Text.record "Invocation"
    [("receiver", "Any \x7b .. \x7d"), ("params", Text.bracketed (inv.params.map BoundArg.kind))]

end Invocation

end DeviceBridge
