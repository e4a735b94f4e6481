import DeviceBridge.Machine.Registry
import DeviceBridge.Proofs.Chests.Slots
import DeviceBridge.Proofs.Drives.Mounts
import DeviceBridge.Proofs.Generator.Simplicity

/-
  The inventory methods as scripts see them. Each is built by every generator and asks the host for
  one thing about the chest (`Replies`), which changes nothing. Two of them number the slots, each
  in its own way: one counts them up, the other takes a number apart. `inventory_agrees`: they mean
  the same slots, whatever was put into the chest before.
-/

namespace DeviceBridge

namespace Chest

/-- The methods that a chest offers: its own, and those of every inventory. -/
def offered : List MethodDecl :=
  declaration.methods ++ (GenericSources.methodsFor [genericMethods] declaration).map (·.2)

def method? (name : String) : Option MethodDecl := offered.find? (·.name = name)

end Chest

namespace Host

variable {h : Host} {d : DeviceId} {slots : List (Option ItemStack)} {args : Arguments}

/-! ## Putting stacks in -/

/-- Put stacks into the slots of a chest, one after the other. -/
def stock (h : Host) (d : DeviceId) (puts : List (Nat × Option ItemStack)) : Host :=
  puts.foldl (fun h p => (h.setChestSlot d p.1 p.2).2) h

theorem setChestSlot_eq (known : h.state? d = some (.chest slots)) (index : Nat)
    (stack : Option ItemStack) : h.setChestSlot d index stack =
      (Chest.slotAt slots index, h.setState d (.chest (slots.set index stack))) := by
  unfold setChestSlot
  rw [known]
  rfl

/-- By induction on what is put in. -/
theorem state?_stock (puts : List (Nat × Option ItemStack)) : ∀ {h : Host}
    {slots : List (Option ItemStack)}, h.state? d = some (.chest slots) →
      (h.stock d puts).state? d = some (.chest (Chest.putAll slots puts)) := by
  induction puts with
  | nil => exact fun known => known
  | cons p rest ih =>
    intro h slots known
    have set : (h.setChestSlot d p.1 p.2).2.state? d = some (.chest (slots.set p.1 p.2)) := by
      rw [setChestSlot_eq known]
      exact state?_setState known _
    exact ih set

theorem setState_of_state? {state : DeviceState} (known : h.state? d = some state) :
    h.setState d state = h := by
  obtain ⟨x, found, rfl⟩ := Option.map_eq_some_iff.mp known
  obtain ⟨bound, here⟩ := List.getElem?_eq_some_iff.mp found
  have same : h.devices.set d.number x = h.devices := by
    rw [← here, List.set_getElem_self]
  unfold setState
  rw [found]
  show { h with devices := h.devices.set d.number x } = h
  rw [same]

/-- Beyond the chest nothing happens. -/
theorem setChestSlot_beyond (known : h.state? d = some (.chest slots)) {index : Nat}
    (beyond : slots.length ≤ index) (stack : Option ItemStack) :
    h.setChestSlot d index stack = (none, h) := by
  have nothing : Chest.slotAt slots index = none := by
    unfold Chest.slotAt
    rw [List.getElem?_eq_none beyond]
    rfl
  rw [setChestSlot_eq known, nothing, List.set_eq_of_length_le beyond, setState_of_state? known]

/-! ## Calls -/

/-- A call of a method of the chest comes to an outcome, by whichever generator the method was built
and whatever else comes with the call, and changes nothing. -/
def Replies (h : Host) (d : DeviceId) (name : String) (args : Arguments) (outcome : Outcome) :
    Prop :=
  ∃ m, Chest.method? name = some m ∧ ∀ (g : Generator) (owner : String), ∃ t,
    (g.build owner m).1 = some t ∧ ∀ (values : List HostObject) (depth : Nat),
      (t.apply (.device .chest d) values args).run depth h = (outcome, h)

/-- What it comes to that an answer is passed on. -/
def passedOn : Except MethodError Value → Outcome
  | .ok v => .done [v]
  | .error e => .failed (.raised e)

theorem run_relay (known : h.state? d = some (.chest slots)) (request : DeviceRequest)
    (depth : Nat) : (Code.relay (.device d request)).run depth h =
      (passedOn (chestRequest slots request), h) := by
  have answered : h.answer (.device d request) = (chestRequest slots request, h) := by
    show h.deviceRequest d request = _
    unfold deviceRequest
    rw [known]
  have relayed (nested : Nested) : (Code.relay (.device d request)).exec nested h =
      (passedOn (chestRequest slots request), h) := by
    unfold Code.relay
    rw [Code.exec, answered]
    cases chestRequest slots request <;> rfl
  cases depth <;> exact relayed _

/-- A method that asks for one thing replies with the answer, converted. -/
theorem replies_of_relay {name : String} {m : MethodDecl} {returns : Returns}
    {request : DeviceRequest} (known : h.state? d = some (.chest slots))
    (found : Chest.method? name = some m) (plain : returns.kind ≠ .outcome)
    (built : ∀ (g : Generator) (owner : String), ∃ t, (g.build owner m).1 = some t ∧
      ∀ values, t.apply (.device .chest d) values args =
        returns.wrap (Code.relay (.device d request))) :
    h.Replies d name args (returns.converted (passedOn (chestRequest slots request))) := by
  refine ⟨m, found, fun g owner => ?_⟩
  obtain ⟨t, here, applied⟩ := built g owner
  refine ⟨t, here, fun values depth => ?_⟩
  rw [applied, Returns.run_wrap plain, run_relay known]

theorem replies_isEmpty (known : h.state? d = some (.chest slots)) (args : Arguments) :
    h.Replies d "isEmpty" args (.done [.bool (Chest.isEmpty slots)]) := by
  show h.Replies d "isEmpty" args (Returns.bool.converted (passedOn (chestRequest slots .isEmpty)))
  exact replies_of_relay known rfl (by decide) fun _ _ => ⟨_, rfl, fun _ => rfl⟩

theorem replies_size (known : h.state? d = some (.chest slots)) (args : Arguments) :
    h.Replies d "size" args (.done [.ofNat slots.length]) := by
  show h.Replies d "size" args (Returns.size.converted (passedOn (chestRequest slots .slotCount)))
  exact replies_of_relay known rfl (by decide) fun _ _ => ⟨_, rfl, fun _ => rfl⟩

theorem replies_list (known : h.state? d = some (.chest slots)) (args : Arguments) :
    h.Replies d "list" args (.done [.table (Chest.itemsFrom 1 slots)]) := by
  show h.Replies d "list" args (Returns.value.converted (passedOn (chestRequest slots .items)))
  exact replies_of_relay known rfl (by decide) fun _ _ => ⟨_, rfl, fun _ => rfl⟩

theorem replies_itemAt (known : h.state? d = some (.chest slots)) {slot : Int64}
    (passed : args.int 0 = .ok slot) : h.Replies d "getItemDetail" args
      (Returns.option.converted (passedOn (Chest.itemAt slots slot))) := by
  show h.Replies d "getItemDetail" args
    (Returns.option.converted (passedOn (chestRequest slots (.itemAt slot))))
  refine replies_of_relay known rfl (by decide) fun _ _ => ⟨_, rfl, fun values => ?_⟩
  have bound : Binder.bindAll [.receiver, .strict 0 .int] (.device .chest d) values args =
      .ok [.receiver (.device .chest d), .int slot] := by
    unfold Binder.bindAll Binder.bindAll Binder.bindAll Binder.bind Scalar.strict
    simp only
    rw [passed]
    rfl
  show Code.bindRead
    (Binder.bindAll [.receiver, .strict 0 .int] (.device .chest d) values args) _ = _
  rw [bound]
  rfl

/-! ## The two numberings -/

/-- What the methods of a chest of some size agree on after stacks were put into it: `listed` is the
table that `list` gives. -/
structure InventoryAgrees (h : Host) (d : DeviceId) (size : Nat)
    (puts : List (Nat × Option ItemStack)) (listed : List (Key × Value)) : Prop where
  count : ∀ args, h.Replies d "size" args (.done [.ofNat size])
  list : ∀ args, h.Replies d "list" args (.done [.table listed])
  isEmpty : ∀ args, h.Replies d "isEmpty" args (.done [.bool listed.isEmpty])
  /-- The keys are slot numbers in increasing order. -/
  keys : ∃ numbers : List Int64, Entries.keys listed = numbers.map .int ∧
    numbers.Pairwise (fun m n => m.toInt < n.toInt) ∧
    ∀ n ∈ numbers, 1 ≤ n.toInt ∧ n.toInt ≤ size
  /-- A slot number that is passed gives what stands under that key, nil if nothing does, and what
  stands there is the stack put in last. -/
  detail : ∀ args (n : Int64), (args.get 0).int? = some n → 1 ≤ n.toInt → n.toInt ≤ size →
    ∃ v, h.Replies d "getItemDetail" args (.done [v]) ∧
      (v = .nil ↔ Entries.get? (.int n) listed = none) ∧
      (v ≠ .nil → Entries.get? (.int n) listed = some v) ∧
      Entries.get? (.int n) listed =
        (Chest.lastPut puts (n.toInt.toNat - 1)).map ItemStack.toValue
  /-- Every other integer is refused. -/
  refusal : ∀ args (n : Int64), (args.get 0).int? = some n → ¬(1 ≤ n.toInt ∧ n.toInt ≤ size) →
    h.Replies d "getItemDetail" args (.failed (.raised
      ⟨.badArgument 1 ("Slot out of range (between 1 and " ++ toString size ++ ")"), 0⟩))
  /-- Outside the chest nothing is put in. -/
  beyond : ∀ index stack, size ≤ index → h.setChestSlot d index stack = (none, h)

/-- An argument that is an integer, or a whole number that fits, is read as that integer. -/
theorem int_of_int? {index : Nat} {n : Int64} (whole : (args.get index).int? = some n) :
    args.int index = .ok n := by
  have numeric : (args.get index).type = .number := by
    revert whole
    cases args.get index with
    | int i => exact fun _ => rfl
    | float f => exact fun _ => rfl
    | nil | bool _ | string _ | table _ => nofun
  unfold Arguments.int
  rw [if_pos numeric, whole]

/-- A slot of the chest gives what is in it. -/
theorem replies_inside (known : h.state? d = some (.chest slots)) {n : Int64}
    (passed : args.int 0 = .ok n) (positive : 1 ≤ n.toInt) (inside : n.toInt ≤ slots.length) :
    h.Replies d "getItemDetail" args
      (.done [((Chest.slotAt slots (n.toInt.toNat - 1)).map ItemStack.toValue).getD .nil]) := by
  have within : ¬(n.toInt < 1 ∨ (slots.length : Int) < n.toInt) := by omega
  have replies := replies_itemAt known passed
  unfold Chest.itemAt at replies
  rw [if_neg within] at replies
  cases held : Chest.slotAt slots (n.toInt.toNat - 1) with
  | none => rwa [held] at replies
  | some stack => rwa [held] at replies

theorem replies_outside (known : h.state? d = some (.chest slots)) {n : Int64}
    (passed : args.int 0 = .ok n) (outside : ¬(1 ≤ n.toInt ∧ n.toInt ≤ slots.length)) :
    h.Replies d "getItemDetail" args (.failed (.raised ⟨.badArgument 1
      ("Slot out of range (between 1 and " ++ toString slots.length ++ ")"), 0⟩)) := by
  have beyond : n.toInt < 1 ∨ (slots.length : Int) < n.toInt := by omega
  have replies := replies_itemAt known passed
  unfold Chest.itemAt at replies
  rwa [if_pos beyond] at replies

/-- What a slot of the chest gives is what is listed under its number, nil if nothing is. -/
theorem replies_listed (known : h.state? d = some (.chest slots)) (word : slots.length < 2 ^ 63)
    {n : Int64} (passed : args.int 0 = .ok n) (positive : 1 ≤ n.toInt)
    (inside : n.toInt ≤ slots.length) :
    ∃ v, h.Replies d "getItemDetail" args (.done [v]) ∧
      (v = .nil ↔ Entries.get? (.int n) (Chest.itemsFrom 1 slots) = none) ∧
      (v ≠ .nil → Entries.get? (.int n) (Chest.itemsFrom 1 slots) = some v) ∧
      Entries.get? (.int n) (Chest.itemsFrom 1 slots) =
        (Chest.slotAt slots (n.toInt.toNat - 1)).map ItemStack.toValue := by
  have found := Chest.get?_itemsFrom slots (n := 1) (k := n.toInt.toNat - 1) (by omega) (by omega)
  rw [Chest.number_of_toInt positive] at found
  refine ⟨_, replies_inside known passed positive inside, ?_, ?_, found⟩
  · rw [found]
    cases Chest.slotAt slots (n.toInt.toNat - 1) with
    | none => exact iff_of_true rfl rfl
    | some stack => exact iff_of_false nofun nofun
  · rw [found]
    cases Chest.slotAt slots (n.toInt.toNat - 1) with
    | none => exact fun some => absurd rfl some
    | some stack => exact fun _ => rfl

/-- The keys of the list of stacks are slot numbers in increasing order. -/
theorem keys_items (word : slots.length < 2 ^ 63) : ∃ numbers : List Int64,
    Entries.keys (Chest.itemsFrom 1 slots) = numbers.map .int ∧
      numbers.Pairwise (fun m n => m.toInt < n.toInt) ∧
      ∀ n ∈ numbers, 1 ≤ n.toInt ∧ n.toInt ≤ slots.length := by
  have whole {i : Nat} (here : i ∈ Chest.taken 1 slots) : (Int64.ofNat i).toInt = i := by
    have := Chest.taken_bounds here
    exact Int64.toInt_ofNat_of_lt (by omega)
  refine ⟨(Chest.taken 1 slots).map Int64.ofNat, ?_, ?_, ?_⟩
  · rw [Chest.keys_itemsFrom, List.map_map]
    rfl
  · rw [List.pairwise_map]
    refine Chest.taken_increasing.imp_of_mem fun first second before => ?_
    rw [whole first, whole second]
    exact Int.ofNat_lt.mpr before
  · intro n here
    obtain ⟨i, taken, rfl⟩ := List.mem_map.mp here
    have := Chest.taken_bounds taken
    rw [whole taken]
    omega

/-- The inventory methods mean the same slots. Whatever stacks were put into a chest that was empty
at first, the slots that `list` numbers are those that `getItemDetail` finds under the same numbers,
and what they hold is what was put in last. A chest never has so many slots that their numbers would
run out. -/
theorem inventory_agrees {first : Host} {size : Nat}
    (fresh : first.state? d = some (.chest (List.replicate size none))) (word : size < 2 ^ 63)
    (puts : List (Nat × Option ItemStack)) :
    ∃ listed, (first.stock d puts).InventoryAgrees d size puts listed := by
  have known := state?_stock puts fresh
  generalize first.stock d puts = h at known
  -- From here on only the length and the contents of the slots matter.
  have length : (Chest.putAll (List.replicate size none) puts).length = size := by
    rw [Chest.length_putAll, List.length_replicate]
  have held {k : Nat} (inside : k < size) := Chest.slotAt_putAll inside puts
  generalize Chest.putAll (List.replicate size none) puts = slots at known length held
  subst length
  refine ⟨Chest.itemsFrom 1 slots, replies_size known, replies_list known, ?_, keys_items word, ?_,
    ?_, ?_⟩
  · intro args
    have same : (Chest.itemsFrom 1 slots).isEmpty = Chest.isEmpty slots := by
      rw [Bool.eq_iff_iff, List.isEmpty_iff, Chest.isEmpty_iff slots 1]
    rw [same]
    exact replies_isEmpty known args
  · intro args n whole positive inside
    rw [← held (k := n.toInt.toNat - 1) (by omega)]
    exact replies_listed known word (int_of_int? whole) positive inside
  · exact fun args n whole => replies_outside known (int_of_int? whole)
  · exact fun index stack outside => setChestSlot_beyond known outside stack

/-- A host with a chest of three slots. -/
def barrelHost : Host :=
  ((Host.new Config.default).addDevice (Chest.new (List.replicate 3 none))).2

/-- Stone goes in and is replaced, dirt goes in and is taken out, and coal does not fit. -/
def refills : List (Nat × Option ItemStack) :=
  [(2, some ⟨"stone", 1⟩), (0, some ⟨"dirt", 5⟩), (3, some ⟨"coal", 2⟩), (2, some ⟨"stone", 64⟩),
    (0, none)]

theorem inventory_agrees_refilled :
    barrelHost.state? ⟨0⟩ = some (.chest (List.replicate 3 none)) ∧ 3 < 2 ^ 63 ∧
      ∃ listed, InventoryAgrees (barrelHost.stock ⟨0⟩ refills) ⟨0⟩ 3 refills listed :=
  ⟨rfl, by decide, inventory_agrees rfl (by decide) refills⟩

end Host

end DeviceBridge
