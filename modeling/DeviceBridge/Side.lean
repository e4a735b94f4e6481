import DeviceBridge.Text.Quoted

/-
  The six sides of a computer at which a device can be attached, in slot order.
-/

namespace DeviceBridge

inductive Side where
  | bottom
  | top
  | back
  | front
  | right
  | left
deriving Repr, DecidableEq, Inhabited

namespace Side

def all : List Side := [bottom, top, back, front, right, left]

def index : Side → Nat
  | bottom => 0
  | top => 1
  | back => 2
  | front => 3
  | right => 4
  | left => 5

def name : Side → String
  | bottom => "bottom"
  | top => "top"
  | back => "back"
  | front => "front"
  | right => "right"
  | left => "left"

/-- The name as diagnostics show it. -/
def diagnostic : Side → String
  | bottom => "Bottom"
  | top => "Top"
  | back => "Back"
  | front => "Front"
  | right => "Right"
  | left => "Left"

/-- The side of a name, in any case of its letters. -/
def ofName? (name : String) : Option Side := all.find? fun side => Text.sameLetters side.name name

theorem ofName?_name (side : Side) : ofName? side.name = some side := by cases side <;> rfl

theorem mem_all (side : Side) : side ∈ all := by cases side <;> decide

end Side

end DeviceBridge
