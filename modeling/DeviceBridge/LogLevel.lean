import DeviceBridge.Text.Quoted

/-
  Levels of the log, and the lines it is made of. A logger prints the lines at or above its level.
-/

namespace DeviceBridge

inductive LogLevel where
  | debug
  | info
  | warn
  | error
deriving Repr, DecidableEq, Inhabited

namespace LogLevel

def name : LogLevel → String
  | debug => "debug"
  | info => "info"
  | warn => "warn"
  | error => "error"

/-- The name as it stands in front of a log line. -/
def label (level : LogLevel) : String := String.ofList (level.name.toList.map Char.toUpper)

def severity : LogLevel → Nat
  | debug => 0
  | info => 1
  | warn => 2
  | error => 3

/-- The level of a name in any case of its letters; `warning` is another name of `warn`. -/
def ofName (name : String) : Except String LogLevel :=
  let lower := Text.lower name
  if lower = "debug" then .ok debug
  else if lower = "info" then .ok info
  else if lower = "warn" ∨ lower = "warning" then .ok warn
  else if lower = "error" then .ok error
  else .error ("unknown log level \x60" ++ name ++ "\x60")

theorem ofName_name (level : LogLevel) : ofName level.name = .ok level := by
  cases level <;> rfl

end LogLevel

structure LogLine where
  level : LogLevel
  text : String
deriving Repr, DecidableEq

namespace LogLine

def render (line : LogLine) : String := line.level.label ++ " " ++ line.text

end LogLine

end DeviceBridge
