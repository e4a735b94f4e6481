import DeviceBridge.Text.Quoted

/-
  A choice among named constants. Scripts name one in any case of its ASCII letters; the host gets
  its place in the list.
-/

namespace DeviceBridge

structure Choice where
  name : String
  variants : List String
deriving Repr, DecidableEq

namespace Choice

/-- The place of the first variant that the name stands for. -/
def ordinal? (choice : Choice) (name : String) : Option Nat :=
  choice.variants.findIdx? (Text.sameLetters name)

end Choice

end DeviceBridge
