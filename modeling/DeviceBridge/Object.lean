import DeviceBridge.Side
import DeviceBridge.Value.Basic

/-
  Objects of the host: what a method is called on and what it is given as context. Objects are
  handles; the state behind them is kept by the host. Every object has a type, and code that expects
  another type is told the name of the type it expected.
-/

namespace DeviceBridge

/-- A task of the main thread. Numbers count up from 1. -/
structure TaskId where
  number : Nat
deriving Repr, DecidableEq

namespace TaskId

def display (id : TaskId) : String := "Task(" ++ toString id.number ++ ")"

def diagnostic (id : TaskId) : String := "TaskId(" ++ toString id.number ++ ")"

def toValue (id : TaskId) : Value := .ofNat id.number

end TaskId

structure DeviceId where
  number : Nat
deriving Repr, DecidableEq

/-- One installation of a device at a side. Installing it again makes another. -/
structure AccessId where
  side : Side
  number : Nat
deriving Repr, DecidableEq

inductive HostType where
  | context
  | access
  | registry
  | speaker
  | drive
  | sensor
  | chest
  | text
  | named (name : String)
deriving Repr, DecidableEq

namespace HostType

def name : HostType → String
  | context => "periphery::apis::context::LuaContext"
  | access => "periphery::apis::peripheral::access::PeripheralAccess"
  | registry => "periphery::apis::peripheral::PeripheralApi"
  | speaker => "periphery::devices::speaker::Speaker"
  | drive => "periphery::devices::drive::DiskDrive"
  | sensor => "periphery::devices::sensor::Sensor"
  | chest => "periphery::devices::inventory::Chest"
  | text => "alloc::string::String"
  | named name => name

end HostType

inductive HostObject where
  /-- The computer that a script runs on. -/
  | context
  | access (id : AccessId)
  | registry
  | device (type : HostType) (id : DeviceId)
  /-- A datum of the host's own at an address. -/
  | datum (type : HostType) (content : Value) (address : Nat)

namespace HostObject

def type : HostObject → HostType
  | context => .context
  | access _ => .access
  | registry => .registry
  | device type _ => type
  | datum type _ _ => type

/-- Where the object is. Two objects at one place are one object. -/
inductive Place where
  | context
  | access (id : AccessId)
  | registry
  | device (id : DeviceId)
  | datum (address : Nat)
deriving Repr, DecidableEq

def place : HostObject → Place
  | context => .context
  | access id => .access id
  | registry => .registry
  | device _ id => .device id
  | datum _ _ address => .datum address

end HostObject

end DeviceBridge
