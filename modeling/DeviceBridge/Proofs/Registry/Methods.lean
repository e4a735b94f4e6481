import DeviceBridge.Proofs.Registry.Making
import DeviceBridge.Proofs.Registry.Order
import DeviceBridge.Proofs.Registry.Routing

/-
  What the methods of an installed device are called, and what their names stand for. The table of
  an access is entered once, the dynamic names first and then the generated methods; a name that
  comes again keeps its place and stands for what came last. `MethodTable.Dispatches` says which
  that is, in terms of the two lists alone, and `MethodTable.find?_build` that the table agrees.
  `methods_resolved`: so does every call of an installed device, in whatever state.
-/

namespace DeviceBridge

/-! ## Tables -/

/-- Behind the last of some things that bear a name, none bears it. -/
theorem exists_last {α : Type} (name : α → String) {wanted : String} {things : List α}
    (borne : wanted ∈ things.map name) : ∃ before last after,
      things = before ++ last :: after ∧ name last = wanted ∧ wanted ∉ after.map name := by
  induction things with
  | nil => cases borne
  | cons first rest ih =>
    by_cases later : wanted ∈ rest.map name
    · obtain ⟨before, last, after, split, named, none⟩ := ih later
      exact ⟨first :: before, last, after, congrArg (first :: ·) split, named, none⟩
    · have named : name first = wanted := ((List.mem_cons.mp borne).resolve_right later).symm
      exact ⟨[], first, rest, rfl, named, later⟩

namespace MethodTable

/-- What a name stands for: the last generated method that is exported under it or, if there is
none, the last dynamic name, by its index. -/
inductive Dispatches (dynamic : List String) (generated : List NamedMethod) (name : String) :
    MethodEntry → Prop where
  | generated {before after : List NamedMethod} {n : NamedMethod}
      (split : generated = before ++ n :: after) (named : n.name = name)
      (last : name ∉ after.map (·.name)) : Dispatches dynamic generated name (.generated n.method)
  | dynamic {before after : List String} (split : dynamic = before ++ name :: after)
      (last : name ∉ after) (undeclared : name ∉ generated.map (·.name)) :
      Dispatches dynamic generated name (.dynamic before.length)

variable {dynamic : List String} {generated : List NamedMethod} {name : String}

theorem keys_dynamic (dynamic : List String) (first : Nat) :
    Entries.keys ((dynamic.zipIdx first).map fun (n, i) => (n, MethodEntry.dynamic i)) =
      dynamic := by
  unfold Entries.keys
  rw [List.map_map]
  exact List.zipIdx_map_fst first dynamic

theorem keys_generated (generated : List NamedMethod) :
    Entries.keys (generated.map fun n => (n.name, MethodEntry.generated n.method)) =
      generated.map (·.name) := by
  unfold Entries.keys
  rw [List.map_map]
  rfl

/-- Every name is listed where it first came. -/
theorem names_build (dynamic : List String) (generated : List NamedMethod) :
    (build dynamic generated).names = (dynamic ++ generated.map (·.name)).eraseDups := by
  have entered := Entries.keys_putAll ((dynamic.zipIdx.map fun (n, i) => (n, MethodEntry.dynamic i))
    ++ generated.map fun n => (n.name, MethodEntry.generated n.method))
  have split (xs ys : List (String × MethodEntry)) :
      Entries.keys (xs ++ ys) = Entries.keys xs ++ Entries.keys ys := List.map_append
  rwa [split, keys_dynamic, keys_generated] at entered

theorem nodup_names_build (dynamic : List String) (generated : List NamedMethod) :
    (build dynamic generated).names.Nodup :=
  Entries.nodup_keys_putAll _ (List.nodup_nil)

theorem mem_names_build :
    name ∈ (build dynamic generated).names ↔ name ∈ dynamic ∨ name ∈ generated.map (·.name) := by
  rw [names_build, List.mem_eraseDups, List.mem_append]

/-- A listed name stands for something. -/
theorem exists_dispatches (listed : name ∈ (build dynamic generated).names) :
    ∃ entry, Dispatches dynamic generated name entry := by
  by_cases declared : name ∈ generated.map (·.name)
  · obtain ⟨before, n, after, split, named, last⟩ := exists_last NamedMethod.name declared
    exact ⟨_, .generated split named last⟩
  · have known := (mem_names_build.mp listed).resolve_right declared
    obtain ⟨before, _, after, split, rfl, last⟩ := exists_last id (List.map_id dynamic ▸ known)
    rw [List.map_id] at last
    exact ⟨_, .dynamic split last declared⟩

/-- What came last under a name is what the table has for it. -/
theorem Dispatches.find? {entry : MethodEntry}
    (dispatches : Dispatches dynamic generated name entry) :
    (build dynamic generated).find? name = some entry := by
  unfold build MethodTable.find?
  cases dispatches with
  | @generated before after n split named last =>
    rw [split, ← named, List.map_append, List.map_cons, ← List.append_assoc]
    refine Entries.get?_putAll_last ?_ _ _ _
    rwa [keys_generated, named]
  | @dynamic before after split last undeclared =>
    rw [split, List.zipIdx_append, List.map_append, List.zipIdx_cons, List.map_cons,
      List.append_assoc, List.cons_append, Nat.zero_add]
    refine Entries.get?_putAll_last ?_ _ _ _
    intro again
    unfold Entries.keys at again
    rw [List.map_append, List.mem_append] at again
    rcases again with again | again
    · exact last (keys_dynamic after (before.length + 1) ▸ again)
    · exact undeclared (keys_generated generated ▸ again)

theorem find?_build {entry : MethodEntry} :
    (build dynamic generated).find? name = some entry ↔
      Dispatches dynamic generated name entry := by
  constructor
  · intro found
    have listed : name ∈ (build dynamic generated).names :=
      Entries.mem_keys_iff.mpr (Option.isSome_iff_exists.mpr ⟨entry, found⟩)
    obtain ⟨other, dispatches⟩ := exists_dispatches listed
    have same := dispatches.find?
    rw [found, Option.some.injEq] at same
    exact same ▸ dispatches
  · exact fun dispatches => dispatches.find?

theorem find?_eq_none {table : MethodTable} : table.find? name = none ↔ name ∉ table.names := by
  unfold MethodTable.find? MethodTable.names
  rw [Entries.mem_keys_iff, Option.not_isSome_iff_eq_none]

end MethodTable

namespace Host

/-! ## Installed devices -/

variable {h : Host}

/-- An access answers for a device: every name it lists once, where it first came, and a call of a
listed name, and of no other, reaches what the name stands for. -/
structure AnswersFor (h : Host) (a : Access) (d : Device) (generated : List NamedMethod) :
    Prop where
  names : a.methods.names = (d.dynamic ++ generated.map (·.name)).eraseDups
  once : a.methods.names.Nodup
  finds (method : String) (args : Arguments) :
    (h.methodCode a method args).isSome ↔ method ∈ a.methods.names
  missing {method : String} (unlisted : method ∉ a.methods.names) (run : Runner)
    (args : Arguments) :
    h.callMethod run a method args = (.failed (.raised ⟨.noSuchMethod method, 0⟩), h)
  reaches {method : String} (listed : method ∈ a.methods.names) :
    ∃ entry, MethodTable.Dispatches d.dynamic generated method entry ∧
      ∀ run args, h.callMethod run a method args = run (entry.invoke a d args) h

/-- The table of an access is the one that was worked out for its device, and the device does what
it did. -/
theorem AnswersFor.ofTable {a : Access} {d d' : Device} {generated : List NamedMethod}
    (table : a.methods = MethodTable.build d.dynamic generated)
    (device : h.device? a.device = some d') (same : d'.withoutState = d.withoutState) :
    h.AnswersFor a d generated := by
  have code {method : String} {entry : MethodEntry} (found : a.methods.find? method = some entry)
      (args : Arguments) : h.methodCode a method args = some (entry.invoke a d args) := by
    unfold methodCode
    rw [found, device]
    cases entry with
    | generated t => rfl
    | dynamic index =>
      have calls : d'.callDynamic = d.callDynamic := (congrArg Device.callDynamic same :)
      exact congrArg (fun call => some (call a.id index args)) calls
  have lacks {method : String} (unlisted : method ∉ a.methods.names) (args : Arguments) :
      h.methodCode a method args = none := by
    unfold methodCode
    rw [MethodTable.find?_eq_none.mpr unlisted]
  have listed_dispatches {method : String} (listed : method ∈ a.methods.names) :
      ∃ entry, MethodTable.Dispatches d.dynamic generated method entry ∧
        a.methods.find? method = some entry := by
    rw [table] at listed ⊢
    obtain ⟨entry, dispatches⟩ := MethodTable.exists_dispatches listed
    exact ⟨entry, dispatches, dispatches.find?⟩
  refine ⟨table ▸ MethodTable.names_build .., table ▸ MethodTable.nodup_names_build ..,
    fun method args => ⟨fun some => ?_, fun listed => ?_⟩, fun unlisted run args => ?_,
    fun listed => ?_⟩
  · by_contra unlisted
    rw [lacks unlisted args] at some
    cases some
  · obtain ⟨entry, -, found⟩ := listed_dispatches listed
    rw [code found args]
    rfl
  · unfold callMethod
    rw [lacks unlisted args]
    rfl
  · obtain ⟨entry, dispatches, found⟩ := listed_dispatches listed
    refine ⟨entry, dispatches, fun run args => ?_⟩
    unfold callMethod
    rw [code found args]

/-- An installed device has a new access, with the table that is worked out for it. -/
theorem Numbered.installed (numbered : h.Numbered) (side : Side) {device : DeviceId} {d : Device}
    (known : h.device? device = some d) : ∃ a, (h.install side device).1 = some a.id ∧
      (h.install side device).2.access? a.id = some a ∧ a.device = device ∧
      a.methods = MethodTable.build d.dynamic
        (h.deviceMethods.methodsOf h.sources d.declaration).result := by
  have next := numbered.next_not_known side
  unfold ids at next
  rw [List.length_map] at next
  have absent : h.accesses.find? (fun a => a.id = ⟨side, h.accesses.length⟩) = none := by
    rw [List.find?_eq_none]
    intro a here same
    exact next (List.mem_map.mpr ⟨a, here, of_decide_eq_true same⟩)
  unfold Host.install
  rw [known]
  refine ⟨⟨⟨side, h.accesses.length⟩, device, .device d.type device, d.kind, MethodTable.build
    d.dynamic (h.deviceMethods.methodsOf h.sources d.declaration).result, false, false, []⟩, rfl,
    ?_, rfl, rfl⟩
  unfold access? writeAll
  simp only
  rw [List.find?_append, absent, Option.none_or, List.find?_singleton, if_pos (decide_eq_true rfl)]

/-- Whatever a device lists as its dynamic names and whatever is generated for it, and whatever
happens once it is installed: its access answers for it. Each name is listed once, in the order in
which the names first came, dynamic ones before generated ones; a call finds a method if and only if
its name is listed; and it reaches the last method that was generated under this name or, if there
is none, the dynamic method with the last index of this name. -/
theorem methods_resolved (numbered : h.Numbered) (side : Side) {device : DeviceId} {d : Device}
    (known : h.device? device = some d) (changes : List Change) :
    ∃ a, (h.install side device).1 = some a.id ∧
      ((h.install side device).2.replay changes).access? a.id = some a ∧
      ((h.install side device).2.replay changes).AnswersFor a d
        (h.deviceMethods.methodsOf h.sources d.declaration).result := by
  obtain ⟨made, new, found, owner, table⟩ := numbered.installed side known
  have more := MakesMore.kept.replay changes (h.install side device).2
  obtain ⟨a, later, same⟩ := more.access? found
  have installed : SameDevices h (h.install side device).2 :=
    congrArg (List.map Device.withoutState) (Rearranged.install h side device).devices
  have devices := installed.trans (SameDevices.kept.replay changes _)
  have id : a.id = made.id := (congrArg Access.id same :)
  have device' : a.device = made.device := (congrArg Access.device same :)
  have methods : a.methods = made.methods := (congrArg Access.methods same :)
  have there := devices.device? device
  rw [known, Option.map_some] at there
  obtain ⟨d', now, alike⟩ := Option.map_eq_some_iff.mp there
  refine ⟨a, id ▸ new, id ▸ later, .ofTable (methods.trans table) ?_ alike⟩
  rw [device', owner]
  exact now

/-! ## Names that collide -/

/-- A method of a console that answers with its own name. -/
def consoleMethod (number : Nat) (name : String) (aliases : List String) : MethodDecl :=
  { MethodDecl.plain ⟨number⟩ name .string fun _ => .done [.string name] with aliases }

/-- A name is there twice as a dynamic one, another as a dynamic and a declared one, and a third as
a further name of two declared methods. -/
def console : Device :=
  { Device.plain (.named "Console") "console" (ClassDecl.plain (.named "Console") "Console"
      [consoleMethod 701 "read" ["get"], consoleMethod 702 "write" ["get"]]) .stateless with
    dynamic := ["list", "read", "list"]
    callDynamic := fun _ index _ => .done [.ofNat index] }

def consoleStart : Host := ((Host.new Config.default).addDevice console).2

def consoleMethods : List NamedMethod :=
  (consoleStart.deviceMethods.methodsOf consoleStart.sources console.declaration).result

theorem methods_resolved_console : ∃ a,
    let h := (consoleStart.install .top ⟨0⟩).2.replay [.linkAll]
    a.methods.names = ["list", "read", "get", "write"] ∧
      (h.callMethod (Program.run 0) a "list" (.ofList [])).1 = .done [.ofNat 2] ∧
      (h.callMethod (Program.run 0) a "read" (.ofList [])).1 = .done [.string "read"] ∧
      (h.callMethod (Program.run 0) a "get" (.ofList [])).1 = .done [.string "write"] ∧
      (h.callMethod (Program.run 0) a "open" (.ofList [])).1 =
        .failed (.raised ⟨.noSuchMethod "open", 0⟩) := by
  have fresh : consoleStart.Fresh := ⟨rfl, rfl, rfl⟩
  obtain ⟨a, -, -, answers⟩ := methods_resolved (Orderly.fresh fresh).numbered .top
    (show consoleStart.device? ⟨0⟩ = some console from rfl) [.linkAll]
  have names : a.methods.names = ["list", "read", "get", "write"] := answers.names.trans (by decide)
  have called {method : String} {entry : MethodEntry} (listed : method ∈ a.methods.names)
      (last : (MethodTable.build console.dynamic consoleMethods).find? method = some entry) :
      (((consoleStart.install .top ⟨0⟩).2.replay [.linkAll]).callMethod (Program.run 0) a method
        (.ofList [])).1 = (Program.run 0 (entry.invoke a console (.ofList []))
          ((consoleStart.install .top ⟨0⟩).2.replay [.linkAll])).1 := by
    obtain ⟨other, dispatches, reached⟩ := answers.reaches listed
    have same : some entry = some other :=
      last.symm.trans (show _ from MethodTable.find?_build.mpr dispatches)
    rw [reached, Option.some.inj same]
  rw [names] at called
  refine ⟨a, names, ?_, ?_, ?_, ?_⟩
  · rw [called (by decide) rfl]
    rfl
  · rw [called (by decide) rfl]
    rfl
  · rw [called (by decide) rfl]
    rfl
  · rw [answers.missing (by rw [names]; decide)]

end Host

end DeviceBridge
