import DeviceBridge.LogLevel

/-
  What a computer is set up with. Every setting has a default.
-/

namespace DeviceBridge

structure Config where
  /-- The least level that the logger prints. -/
  logLevel : LogLevel
  /-- Faults of the host that are caught in a call are logged. -/
  logHostErrors : Bool
  computerId : UInt32
  /-- The bound on waiting tasks, and how many run per tick. -/
  maxPendingTasks : Nat
  maxTasksPerTick : Nat
deriving Repr, DecidableEq

def Config.default : Config := ⟨.info, true, 0, 5000, 256⟩

end DeviceBridge
