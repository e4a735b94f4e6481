/-
  How a host call fails. A method raises a `MethodError`, which is a cause and an attribution level;
  level 0 is unattributed and stays so. Code may also leave in mid-air (`Escape`): by a panic, or
  because the bound on nested work was reached. What the script finally sees is a `ScriptError`.
-/

namespace DeviceBridge

/-! ## Causes -/

inductive Cause where
  /-- Raised by a method in its own words. -/
  | message (text : String)
  /-- An argument of the wrong type, at a position counted from 1. -/
  | argumentType (position : Nat) (expected actual : String)
  /-- An argument of the right type with an unusable value. -/
  | badArgument (position : Nat) (text : String)
  | invalidArgument (text : String)
  | notAttached
  | noSuchCapability
  | noSuchMethod (name : String)
  /-- The host itself failed. -/
  | hostFault (text : String)
deriving Repr, DecidableEq

namespace Cause

def text : Cause → String
  | message words => words
  | argumentType position expected actual =>
    "bad argument #" ++ toString position ++ " (expected " ++ expected ++ ", got " ++ actual ++ ")"
  | badArgument position words => "bad argument #" ++ toString position ++ " (" ++ words ++ ")"
  | invalidArgument words => words
  | notAttached => "Peripheral is not attached"
  | noSuchCapability => "No peripheral attached"
  | noSuchMethod name => "No such method " ++ name
  | hostFault words => "Host exception thrown: " ++ words

/-- The word for the kind of a cause. -/
def kind : Cause → String
  | message _ => "Message"
  | argumentType .. => "ArgumentType"
  | badArgument .. => "BadArgument"
  | invalidArgument _ => "InvalidArgument"
  | notAttached => "NotAttached"
  | noSuchCapability => "NoSuchCapability"
  | noSuchMethod _ => "NoSuchMethod"
  | hostFault _ => "HostFault"

end Cause

structure MethodError where
  cause : Cause
  level : UInt32
deriving Repr, DecidableEq

/-- What a panic carries: a text, or something that has none. -/
inductive Payload where
  | text (s : String)
  | other
deriving Repr, DecidableEq

namespace Payload

def describe : Payload → String
  | text s => s
  | other => "unknown panic"

end Payload

/-- A way of leaving a call without an answer. -/
inductive Escape where
  | panic (payload : Payload)
  /-- The bound on nested calls or on delivered events was reached. -/
  | exhausted
deriving Repr, DecidableEq

def Escape.describe : Escape → String
  | panic payload => payload.describe
  | exhausted => "too deep"

inductive Failure where
  | raised (error : MethodError)
  | escaped (how : Escape)
deriving Repr, DecidableEq

/-! ## Attribution levels -/

/-- Arithmetic on words of a fixed width stops rather than wrap around. -/
def Escape.overflow : Escape := .panic (.text "attempt to add with overflow")

def addLevels (a b : UInt32) : Except Escape UInt32 :=
  if a.toNat + b.toNat < UInt32.size then .ok (a + b) else .error .overflow

theorem addLevels_of_fits {a b : UInt32} (h : a.toNat + b.toNat < UInt32.size) :
    addLevels a b = .ok (a + b) := if_pos h

theorem addLevels_zero (a : UInt32) : addLevels a 0 = .ok a := by
  have fits : a.toNat + (0 : UInt32).toNat < UInt32.size := a.toNat_lt
  rw [addLevels_of_fits fits, UInt32.add_zero]

namespace MethodError

/-- An unattributed error in a method's own words. -/
def ofText (text : String) : MethodError := ⟨.message text, 0⟩

def message (e : MethodError) : String := e.cause.text

/-- The fault that a caught panic is reported as. -/
def ofPanic (payload : Payload) : MethodError := ⟨.hostFault payload.describe, 0⟩

/-- Blame the error `amount` frames further up, unless it is unattributed. -/
def adjusted (e : MethodError) (amount : UInt32) : Except Escape MethodError :=
  if e.level = 0 then .ok e
  else match addLevels e.level amount with
    | .ok level => .ok { e with level }
    | .error how => .error how

end MethodError

namespace Failure

def ofCause (cause : Cause) : Failure := .raised ⟨cause, 0⟩

/-- The position of an argument, counted from 1. Indices are 64-bit words. -/
def position (index : Nat) : Except Escape Nat :=
  if index + 1 < UInt64.size then .ok (index + 1) else .error .overflow

def argumentType (index : Nat) (expected actual : String) : Failure :=
  match position index with
  | .ok p => ofCause (.argumentType p expected actual)
  | .error how => .escaped how

def badArgument (index : Nat) (text : String) : Failure :=
  match position index with
  | .ok p => ofCause (.badArgument p text)
  | .error how => .escaped how

theorem position_of_lt {index : Nat} (h : index + 1 < UInt64.size) :
    position index = .ok (index + 1) := if_pos h

end Failure

/-! ## The error a script sees -/

structure ScriptError where
  message : String
  level : UInt32
deriving Repr, DecidableEq

namespace ScriptError

/-- The error a script sees for one that a method raised, with the adjustment pending at that
point. -/
def ofMethodError (e : MethodError) (adjust : UInt32) : Except Escape ScriptError :=
  if e.level = 0 then .ok ⟨e.message, 0⟩
  else match addLevels e.level adjust with
    | .ok level => .ok ⟨e.message, level⟩
    | .error how => .error how

/-- A caught panic is reported unattributed. -/
def ofPanic (payload : Payload) : ScriptError := ⟨(MethodError.ofPanic payload).message, 0⟩

end ScriptError

end DeviceBridge
