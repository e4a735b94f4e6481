import DeviceBridge.Config.Basic
import DeviceBridge.Ron.Reader

/-
  Configurations as RON documents. Every field may be left out, unknown fields are ignored, and a
  field may be given once.
-/

namespace DeviceBridge

/-- Why a file could not be used. -/
inductive DocumentError where
  /-- It is not there or is no text. -/
  | unreadable
  /-- Its text is not such a document. -/
  | malformed
deriving Repr, DecidableEq

namespace Ron

/-- The fields of a record that has the name or none. Empty parentheses are a record too. -/
def fieldsOf (name : String) : Ron → Option (List (String × Ron))
  | record given fields => if given.getD name = name then some fields else none
  | group given [] => if given.getD name = name then some [] else none
  | unit => some []
  | _ => none

/-- A field that may be left out, but not be given twice. -/
def optionalField {α : Type} (fields : List (String × Ron)) (name : String)
    (read : Ron → Option α) : Option (Option α) :=
  match fields.filter fun f => f.1 == name with
  | [] => some none
  | [(_, r)] => (read r).map some
  | _ => none

def bool? : Ron → Option Bool
  | bool b => some b
  | _ => none

def string? : Ron → Option String
  | string s => some s
  | _ => none

/-- A number of some type, which it names or not. -/
def whole? (type : WholeType) : Ron → Option Int
  | int i named => if named.getD type = type ∧ type.holds i then some i else none
  | _ => none

/-- A number of a type without negative numbers. -/
def nat? (type : WholeType) (r : Ron) : Option Nat := (r.whole? type).map Int.toNat

/-- A whole number that names no type. -/
def ofNat (n : Nat) : Ron := int n none

/-- The text of a file, which is UTF-8. -/
def textOf (contents : Option (List UInt8)) : Except DocumentError String :=
  match contents.bind fun bytes => String.fromUTF8? ⟨bytes.toArray⟩ with
  | some text => .ok text
  | none => .error .unreadable

end Ron

namespace Config

/-- The name that may stand in front of a configuration. -/
def documentName : String := "BridgeConfig"

def logLevel? (r : Ron) : Option LogLevel :=
  r.string?.bind fun name => (LogLevel.ofName name).toOption

def ofRon? (r : Ron) : Option Config := do
  let fields ← r.fieldsOf documentName
  let logLevel ← Ron.optionalField fields "log_level" logLevel?
  let logHostErrors ← Ron.optionalField fields "log_host_errors" Ron.bool?
  let computerId ← Ron.optionalField fields "computer_id" (Ron.nat? .u32)
  let maxPendingTasks ← Ron.optionalField fields "max_pending_tasks" (Ron.nat? .u64)
  let maxTasksPerTick ← Ron.optionalField fields "max_tasks_per_tick" (Ron.nat? .u64)
  return ⟨logLevel.getD default.logLevel, logHostErrors.getD default.logHostErrors,
    (computerId.map UInt32.ofNat).getD default.computerId,
    maxPendingTasks.getD default.maxPendingTasks, maxTasksPerTick.getD default.maxTasksPerTick⟩

def toRon (c : Config) : Ron :=
  .record none [("log_level", .string c.logLevel.name), ("log_host_errors", .bool c.logHostErrors),
    ("computer_id", .ofNat c.computerId.toNat), ("max_pending_tasks", .ofNat c.maxPendingTasks),
    ("max_tasks_per_tick", .ofNat c.maxTasksPerTick)]

def parse? (text : String) : Option Config := (Ron.parse? text).bind ofRon?

/-- The text that a configuration is saved as. -/
def save (c : Config) : String := c.toRon.pretty

/-- The configuration that a file holds. -/
def load (contents : Option (List UInt8)) : Except DocumentError Config :=
  match Ron.textOf contents with
  | .error e => .error e
  | .ok text =>
    match parse? text with
    | some c => .ok c
    | none => .error .malformed

/-- The configuration that a file holds, or the default if there is no file. -/
def loadOrDefault (contents : Option (List UInt8)) : Except DocumentError Config :=
  if contents.isNone then .ok default else load contents

end Config

end DeviceBridge
