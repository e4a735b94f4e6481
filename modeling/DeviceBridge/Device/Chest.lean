import DeviceBridge.Device.Basic

/-
  The chest is a row of slots, and the inventory methods are generic: every class tagged `inventory`
  receives them. Scripts count slots from 1.
-/

namespace DeviceBridge

namespace ItemStack

def toValue (stack : ItemStack) : Value :=
  .table [(.string "name", .string stack.name), (.string "count", .ofNat stack.count.toNat)]

end ItemStack

/-- The tag of inventories. -/
def inventoryTag : String := "inventory"

namespace Chest

/-! ## Slots -/

def slotAt (slots : List (Option ItemStack)) (index : Nat) : Option ItemStack :=
  (slots[index]?).join

/-- Put a stack into a slot and give back what was there. Beyond the chest nothing happens. -/
def setSlot (slots : List (Option ItemStack)) (index : Nat) (stack : Option ItemStack) :
    Option ItemStack × List (Option ItemStack) :=
  (slotAt slots index, slots.set index stack)

def isEmpty (slots : List (Option ItemStack)) : Bool := slots.all Option.isNone

/-- The stacks by slot number, counted up from some number. -/
def itemsFrom (n : Nat) : List (Option ItemStack) → List (Key × Value)
  | [] => []
  | none :: rest => itemsFrom (n + 1) rest
  | some stack :: rest => (.int (Int64.ofNat n), stack.toValue) :: itemsFrom (n + 1) rest

def items (slots : List (Option ItemStack)) : Value := .table (itemsFrom 1 slots)

/-- The stack in a slot counted from 1, nil if the slot is empty. -/
def itemAt (slots : List (Option ItemStack)) (slot : Int64) : Except MethodError Value :=
  if slot.toInt < 1 ∨ (slots.length : Int) < slot.toInt then
    .error ⟨.badArgument 1 ("Slot out of range (between 1 and " ++ toString slots.length ++ ")"), 0⟩
  else .ok (match slotAt slots (slot.toInt.toNat - 1) with
    | some stack => stack.toValue
    | none => .nil)

/-! ## Declarations -/

def declaration : ClassDecl :=
  { ClassDecl.plain .chest "Chest" [
      MethodDecl.plain ⟨40⟩ "isEmpty" .bool fun inv =>
        Code.bindRead (inv.receiverDevice .chest) fun d =>
        Code.relay (.device d .isEmpty)] with
    tags := [inventoryTag] }

/-- The methods of every inventory. Their receiver is their first parameter. -/
def genericMethods : GenericSource where
  name := "InventoryMethods"
  target := inventoryTag
  methods := [
    ((MethodDecl.plain ⟨50⟩ "size" .size fun inv =>
      Code.bindRead (inv.device 0 .chest) fun d =>
      Code.relay (.device d .slotCount)).withParams [.receiver]).static,
    ((MethodDecl.plain ⟨51⟩ "list" .value fun inv =>
      Code.bindRead (inv.device 0 .chest) fun d =>
      Code.relay (.device d .items)).withParams [.receiver]).static,
    ((MethodDecl.plain ⟨52⟩ "getItemDetail" .option fun inv =>
      Code.bindRead (inv.device 0 .chest) fun d =>
      Code.bindRead (inv.int 1) fun slot =>
      Code.relay (.device d (.itemAt slot))).withParams [.receiver, .int]).static]

def new (slots : List (Option ItemStack)) : Device :=
  Device.plain .chest "minecraft:chest" declaration (.chest slots)

end Chest

end DeviceBridge
