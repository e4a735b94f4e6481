import DeviceBridge.Proofs.Generator.Accessors
import DeviceBridge.Proofs.Host.Trace
import DeviceBridge.Proofs.Machine.Keeping

/-
  No generated method lacks what it is bound to. Whatever a generator has built, and whatever stands
  in the method table of a device or among the functions of a machine, was built for the context
  values that its calls come with: the computer for functions of scripts, the computer and the
  access for methods of devices (`Equipped`). Every change of running code and every operation keeps
  this (`perform_equipped`), so that it holds of every machine that can come about, also in the
  middle of an operation and after one that did not come back (`Reached`). `binding_sound` puts it
  together with the binding of a call.
-/

namespace DeviceBridge

/-- The trampoline was built of a method for some context types. -/
def Trampoline.MadeFor (contexts : List HostType) (t : Trampoline) : Prop :=
  ∃ d : MethodDecl, d.adapter? contexts = some t.adapter

/-! ## Generators -/

/-- All that a generator keeps was built for some context types. -/
structure Generator.MakesFor (contexts : List HostType) (g : Generator) : Prop where
  types : g.contexts = contexts
  tried : Entries.All (fun tried : Option Trampoline => ∀ t ∈ tried, t.MadeFor contexts) g.methods
  listed : Entries.All (fun kept : CachedClass => ∀ n ∈ kept.methods, n.method.MadeFor contexts)
    g.classes

namespace Generator.MakesFor

variable {contexts : List HostType} {g : Generator}

theorem new (name : String) (tag : Nat) (contexts : List HostType) :
    MakesFor contexts (Generator.new name tag contexts) :=
  ⟨rfl, .nil, .nil⟩

theorem trampoline (makes : MakesFor contexts g) (owner : String) (m : MethodDecl) :
    MakesFor contexts (g.trampoline owner m).generator ∧
      ∀ t ∈ (g.trampoline owner m).result, t.MadeFor contexts := by
  unfold Generator.trampoline
  cases cached : g.cached? m.id with
  | some kept => exact ⟨makes, makes.tried m.id kept cached⟩
  | none =>
    have built : ∀ t ∈ (g.build owner m).1, t.MadeFor contexts := by
      intro t made
      rw [build_eq, makes.types] at made
      obtain ⟨a, adapted, rfl⟩ := Option.map_eq_some_iff.mp made
      exact ⟨m, adapted⟩
    exact ⟨⟨makes.types, makes.tried.put built, makes.listed⟩, built⟩

/-- By induction on what is found. -/
theorem collect (found : List Candidate) : ∀ {g : Generator}, MakesFor contexts g →
    MakesFor contexts (g.collect found).generator ∧
      ∀ n ∈ (g.collect found).result, n.method.MadeFor contexts := by
  induction found with
  | nil => exact fun makes => ⟨makes, List.forall_mem_nil _⟩
  | cons candidate rest ih =>
    intro g makes
    cases candidate with
    | refused line => exact ih makes
    | method owner m =>
      obtain ⟨first, built⟩ := makes.trampoline owner m
      obtain ⟨others, listed⟩ := ih first
      refine ⟨others, fun n inside => ?_⟩
      rcases List.mem_append.mp inside with own | later
      · unfold named at own
        split at own
        · exact absurd own List.not_mem_nil
        · next t here =>
          obtain ⟨name, -, rfl⟩ := List.mem_map.mp own
          exact built t here
      · exact listed n later

theorem methodsOf (makes : MakesFor contexts g) (sources : GenericSources) (c : ClassDecl) :
    MakesFor contexts (g.methodsOf sources c).generator ∧
      ∀ n ∈ (g.methodsOf sources c).result, n.method.MadeFor contexts := by
  unfold Generator.methodsOf
  cases current : g.current? sources c with
  | some methods =>
    refine ⟨makes, ?_⟩
    unfold current? at current
    split at current
    · next kept found =>
      split at current
      · cases current
        exact makes.listed c.type kept found
      · cases current
    · cases current
  | none =>
    obtain ⟨built, made⟩ := collect (candidates sources c) makes
    exact ⟨⟨built.types, built.tried, built.listed.put made⟩, made⟩

/-- By induction on the classes. -/
theorem prebuild (sources : GenericSources) (classes : List ClassDecl) :
    ∀ {g : Generator}, MakesFor contexts g →
      MakesFor contexts (Host.prebuild sources classes g) := by
  induction classes with
  | nil => exact id
  | cons c rest ih => exact fun makes => ih (collect (candidates sources c) makes).1

end Generator.MakesFor

/-! ## Hosts -/

/-- The generated methods in the table of a device were built for the computer and an access. -/
def MethodTable.Equipped (table : MethodTable) : Prop :=
  Entries.All (fun entry => ∀ t, entry = .generated t → t.MadeFor [.context, .access]) table

theorem MethodTable.equipped_build (dynamic : List String) {generated : List NamedMethod}
    (made : ∀ n ∈ generated, n.method.MadeFor [.context, .access]) :
    (MethodTable.build dynamic generated).Equipped := by
  refine Entries.All.nil.putAll fun entry inside => ?_
  rcases List.mem_append.mp inside with runtime | declared
  · obtain ⟨named, -, rfl⟩ := List.mem_map.mp runtime
    rintro t ⟨⟩
  · obtain ⟨n, here, rfl⟩ := List.mem_map.mp declared
    rintro t ⟨⟩
    exact made n here

namespace Host

/-- Both generators build for what their methods are called with, and so did they for every device
that was ever installed. -/
structure Equipped (h : Host) : Prop where
  script : h.scriptMethods.MakesFor [.context]
  device : h.deviceMethods.MakesFor [.context, .access]
  tables : ∀ table ∈ h.accesses.map Access.methods, table.Equipped

/-- The generators and the method tables are those that were there. -/
structure SameMethods (h h' : Host) : Prop where
  script : h'.scriptMethods = h.scriptMethods
  device : h'.deviceMethods = h.deviceMethods
  tables : h'.accesses.map Access.methods = h.accesses.map Access.methods

namespace SameMethods

theorem refl (h : Host) : SameMethods h h := ⟨rfl, rfl, rfl⟩

theorem trans {a b c : Host} (ab : SameMethods a b) (bc : SameMethods b c) : SameMethods a c :=
  ⟨bc.script.trans ab.script, bc.device.trans ab.device, bc.tables.trans ab.tables⟩

theorem ofServed {h h' : Host} (served : Served h h') : SameMethods h h' := by
  refine ⟨served.scriptMethods, served.deviceMethods, ?_⟩
  have same := congrArg (List.map Access.methods) served.accesses
  rwa [List.map_map, List.map_map] at same

theorem setSlot (h : Host) (side : Side) (id : Option AccessId) :
    SameMethods h (h.setSlot side id) := ⟨rfl, rfl, rfl⟩

theorem setRunning (h : Host) (running : Bool) : SameMethods h { h with running } :=
  ⟨rfl, rfl, rfl⟩

theorem modifyAccess (h : Host) (id : AccessId) {f : Access → Access}
    (keeps : ∀ a, (f a).methods = a.methods) : SameMethods h (h.modifyAccess id f) := by
  refine ⟨rfl, rfl, ?_⟩
  unfold Host.modifyAccess
  simp only
  rw [List.map_map]
  refine List.map_congr_left fun a _ => ?_
  show (if a.id = id then f a else a).methods = a.methods
  split
  · exact keeps a
  · rfl

theorem link (h : Host) (id : AccessId) : SameMethods h (h.link id).2 := by
  unfold Host.link
  split
  · exact refl h
  · split
    · exact refl h
    · exact modifyAccess h id fun _ => rfl

theorem unlink (h : Host) (id : AccessId) : SameMethods h (h.unlink id).2 := by
  unfold Host.unlink
  split
  · exact refl h
  · split
    · exact modifyAccess h id fun _ => rfl
    · exact refl h

theorem claim {transition : Host → AccessId → Bool × Host}
    (each : ∀ h id, SameMethods h (transition h id).2) (ids : List AccessId) :
    ∀ h : Host, SameMethods h (h.claim transition ids).2 := by
  induction ids with
  | nil => exact refl
  | cons id rest ih => exact fun h => (each h id).trans (ih _)

theorem replace (h : Host) (side : Side) (new : Option AccessId) :
    SameMethods h (h.replace side new).2.2 := by
  have detached := claim unlink (h.slots side).toList h
  have changed := detached.trans (setSlot _ side new)
  unfold Host.replace
  simp only
  split
  · exact changed.trans (claim link new.toList _)
  · exact changed

theorem linkAll (h : Host) : SameMethods h h.linkAll.2 :=
  (setRunning h true).trans (claim link _ _)

theorem unlinkAll (h : Host) : SameMethods h h.unlinkAll.2 :=
  (setRunning h false).trans (claim unlink _ _)

theorem close (h : Host) (id : AccessId) : SameMethods h (h.close id) :=
  (ofServed (unmountAll_served h id)).trans (modifyAccess _ id fun _ => rfl)

end SameMethods

namespace Equipped

variable {h h' : Host}

theorem new (config : Config) : (Host.new config).Equipped :=
  ⟨.new "lua" 1 [.context], .new "peripheral" 2 [.context, .access], List.forall_mem_nil _⟩

theorem prebuilt (equipped : h.Equipped) : h.prebuilt.Equipped :=
  ⟨equipped.script.prebuild h.sources ownClasses, equipped.device.prebuild h.sources ownClasses,
    equipped.tables⟩

theorem same (equipped : h.Equipped) (left : SameMethods h h') : h'.Equipped := by
  refine ⟨?_, ?_, ?_⟩
  · rw [left.script]
    exact equipped.script
  · rw [left.device]
    exact equipped.device
  · rw [left.tables]
    exact equipped.tables

/-- The table of a new access is made of what the generator for devices builds. -/
theorem install (equipped : h.Equipped) (side : Side) (id : DeviceId) :
    (h.install side id).2.Equipped := by
  unfold Host.install
  split
  · exact equipped
  · next d _ =>
    obtain ⟨makes, made⟩ := equipped.device.methodsOf h.sources d.declaration
    refine ⟨equipped.script, makes, fun table inside => ?_⟩
    simp only at inside
    rw [List.map_append] at inside
    rcases List.mem_append.mp inside with old | new
    · exact equipped.tables table old
    · rw [List.mem_singleton.mp new]
      exact MethodTable.equipped_build d.dynamic made

/-- Whatever code changes, and whatever becomes of the queues. -/
theorem lasting : Lasting fun h h' => h.Equipped → h'.Equipped where
  kept :=
    { trans := fun ab bc equipped => bc (ab equipped)
      served := fun served equipped => equipped.same (.ofServed served)
      enqueue := fun _ _ _ equipped => equipped.same ⟨rfl, rfl, rfl⟩
      exchange := fun h side device equipped => by
        cases device with
        | none => exact equipped.same (.replace h side none)
        | some id => exact (equipped.install side id).same (.replace _ side _)
      linkAll := fun h equipped => equipped.same (.linkAll h)
      unlinkAll := fun h equipped => equipped.same (.unlinkAll h)
      close := fun h id equipped => equipped.same (.close h id) }
  queues := fun _ _ _ _ equipped => equipped.same ⟨rfl, rfl, rfl⟩

end Equipped

end Host

/-! ## Machines -/

/-- The function comes with the computer alone, and was built for that. -/
def BoundMethod.Equipped (f : BoundMethod) : Prop :=
  f.contexts = [.context] ∧ f.method.MadeFor [.context]

namespace Machine

/-- The host is equipped, and so is every function. -/
structure Equipped (m : Machine) : Prop where
  host : m.host.Equipped
  globals : Entries.All (Entries.All BoundMethod.Equipped) m.globals

namespace Equipped

variable {m : Machine}

theorem stays {m' : Machine} (equipped : m.Equipped)
    (stays : Stays (fun h h' => h.Equipped → h'.Equipped) m m') : m'.Equipped := by
  refine ⟨stays.host equipped.host, ?_⟩
  rw [stays.globals]
  exact equipped.globals

theorem function {global name : String} {f : BoundMethod} (equipped : m.Equipped)
    (found : m.function global name = .ok f) : f.Equipped := by
  unfold Machine.function at found
  split at found
  · cases found
  · next functions exported =>
    split at found
    · next named =>
      cases found
      exact equipped.globals global functions exported name f named
    · cases found

theorem exportAs (equipped : m.Equipped) {global : Global}
    (functions : Entries.All BoundMethod.Equipped global) (name : String) :
    (Machine.exportAs global m name).Equipped := by
  refine ⟨?_, equipped.globals.put functions⟩
  unfold Machine.exportAs
  simp only
  split <;> exact equipped.host.same ⟨rfl, rfl, rfl⟩

/-- By induction on the names. -/
theorem exportAll {global : Global} (functions : Entries.All BoundMethod.Equipped global)
    (names : List String) : ∀ {m : Machine}, m.Equipped →
      (names.foldl (Machine.exportAs global) m).Equipped := by
  induction names with
  | nil => exact id
  | cons name rest ih => exact fun equipped => ih (equipped.exportAs functions name)

theorem exportApi (equipped : m.Equipped) (api : Api) : (m.exportApi api).Equipped := by
  obtain ⟨makes, made⟩ := equipped.host.script.methodsOf m.host.sources api.declaration
  unfold Machine.exportApi
  refine exportAll ?_ api.names ⟨⟨makes, equipped.host.device, equipped.host.tables⟩,
    equipped.globals⟩
  refine Entries.All.nil.putAll fun entry inside => ?_
  obtain ⟨n, here, rfl⟩ := List.mem_map.mp inside
  exact ⟨rfl, made n here⟩

theorem addApi (equipped : m.Equipped) (api : Api) : (m.addApi api).2.Equipped := by
  have exported := equipped.exportApi api
  have started : (if (m.exportApi api).status = .running
      then (m.exportApi api).runHook api.startup else (.ok (), m.exportApi api)).2.Equipped := by
    split
    · exact exported.stays (runHook_stays Host.Equipped.lasting _ api.startup)
    · exact exported
  unfold Machine.addApi
  simp only
  split
  · exact ⟨started.host, started.globals⟩
  · exact started

end Equipped

/-- Whatever is done with a machine, and whether it comes back or not. -/
theorem perform_equipped {m : Machine} (equipped : m.Equipped) (op : Operation) :
    (op.perform m).2.Equipped := by
  by_cases installs : op.Installs
  · cases op with
    | addApi api => exact equipped.addApi api
    | addDevice d => exact ⟨equipped.host.same ⟨rfl, rfl, rfl⟩, equipped.globals⟩
    | addSource s => exact ⟨equipped.host.same ⟨rfl, rfl, rfl⟩, equipped.globals⟩
    | _ => exact installs.elim
  · exact equipped.stays (perform_stays Host.Equipped.lasting installs m)

/-- The machines that can come about, from a fresh computer on: by operations, whether they come
back or not, by changes from outside to files and to the states of devices, and on the way within an
operation, where running code changes the host and where the main thread and the threads of scripts
take from the queues. -/
inductive Reached : Machine → Prop where
  | fresh (limits : Limits) (config : Config) : Reached (ofHost limits (Host.new config))
  | prebuilt (limits : Limits) (config : Config) :
      Reached (ofHost limits (Host.new config).prebuilt)
  | operation {m : Machine} (before : Reached m) (op : Operation) : Reached (op.perform m).2
  | served {m : Machine} {h : Host} (before : Reached m) (served : Host.Served m.host h) :
      Reached (m.withHost h)
  | change {m : Machine} (before : Reached m) (c : Change) :
      Reached (m.withHost (m.host.after c))
  | queues {m : Machine} (before : Reached m) (events : List (List Value)) (tasks : TaskQueue)
      (ledger : List (TaskId × Except MethodError (List Value))) :
      Reached (m.withHost { m.host with events, tasks, ledger })

/-- By induction on how the machine came about. -/
theorem Reached.equipped {m : Machine} (reached : Reached m) : m.Equipped := by
  induction reached with
  | fresh limits config => exact ⟨.new config, .nil⟩
  | prebuilt limits config => exact ⟨(Host.Equipped.new config).prebuilt, .nil⟩
  | operation _ op ih => exact perform_equipped ih op
  | served _ served ih => exact ⟨ih.host.same (.ofServed served), ih.globals⟩
  | @change m _ c ih =>
    exact ⟨Host.Equipped.lasting.kept.after m.host c ih.host, ih.globals⟩
  | queues _ _ _ _ ih => exact ⟨ih.host.same ⟨rfl, rfl, rfl⟩, ih.globals⟩

/-! ## Calls -/

theorem fitting_script : ContextValues [.context] [.context] := ⟨rfl, by simp⟩

theorem fitting_device (id : AccessId) :
    ContextValues [.context, .access] [.context, .access id] :=
  ⟨rfl, by simp [HostObject.type]⟩

/-- Binding is sound. A method that is built, by whatever generator, is called with context values
of the generator's types, and then either an argument is refused, which is no fault of the host, or
every parameter of the method is bound as what the accessor for it reads. Whatever machine comes
about, the methods of its devices and the functions of its scripts were built for, and are called
with, just such context values: the computer, and for a device the access through which it is
called. -/
theorem binding_sound :
    (∀ (g : Generator) (owner : String) (d : MethodDecl) (t : Trampoline),
      (g.build owner d).1 = some t → ∀ (object : HostObject) (values : List HostObject)
        (args : Arguments), ContextValues g.contexts values → Supplied d t object values args) ∧
    ∀ m : Machine, Reached m →
      (∀ a ∈ m.host.accesses, ∀ (name : String) (t : Trampoline),
        a.methods.find? name = some (.generated t) →
        t.MadeFor [.context, .access] ∧ ∀ args : Arguments,
          m.host.methodCode a name args = some (t.apply a.object [.context, .access a.id] args) ∧
          ∀ d : MethodDecl, d.adapter? [.context, .access] = some t.adapter →
            Supplied d t a.object [.context, .access a.id] args) ∧
      ∀ (global name : String) (f : BoundMethod), m.function global name = .ok f →
        f.method.MadeFor [.context] ∧ ∀ args : Arguments,
          (∀ (depth : Nat) (h : Host), f.invoke depth args h = settle f.label f.logsHostErrors 0
            ((f.method.apply f.object [.context] args).run depth h)) ∧
          ∀ d : MethodDecl, d.adapter? [.context] = some f.method.adapter →
            Supplied d f.method f.object [.context] args := by
  refine ⟨fun g owner d t built object values args fitting => ?_, fun m reached =>
    ⟨fun a inside name t mapped => ⟨?_, fun args => ⟨?_, fun d adapted => ?_⟩⟩,
      fun global name f found => ?_⟩⟩
  · rw [Generator.build_eq] at built
    obtain ⟨adapter, adapted, rfl⟩ := Option.map_eq_some_iff.mp built
    exact supplied adapted fitting object args
  · exact reached.equipped.host.tables a.methods (List.mem_map_of_mem inside) name _ mapped t rfl
  · unfold Host.methodCode
    rw [mapped]
  · exact supplied adapted (fitting_device a.id) a.object args
  · obtain ⟨contexts, made⟩ := reached.equipped.function found
    refine ⟨made, fun args => ⟨fun depth h => ?_, fun d adapted => ?_⟩⟩
    · unfold BoundMethod.invoke
      rw [contexts]
    · exact supplied adapted fitting_script f.object args

/-- A machine with the registry and a sensor. -/
def sensorMachine : Machine :=
  [Operation.addApi registryApi, .addDevice (Sensor.new []), .change (.set .left (some ⟨0⟩))].foldl
    (fun m op => (op.perform m).2) (ofHost ⟨1, 1⟩ (Host.new Config.default))

/-- A call of a single method reads the string that it is given, and the sensor is called with the
access through which it is attached. -/
theorem binding_sound_sensor :
    (∃ t params, ((Generator.new "lua" 1 [.context]).build "Courier" courier).1 = some t ∧
      Binder.bindAll t.binders .registry [.context] (.ofList [.nil, .string "parcel"]) =
        .ok params ∧
      t.direct .registry [.context] (.ofList [.nil, .string "parcel"]) =
        courier.body ⟨.registry, params⟩ ∧ ∃ s, Invocation.string ⟨.registry, params⟩ 4 = .ok s) ∧
    (∃ a ∈ sensorMachine.host.accesses, ∃ t d,
      a.methods.find? "getNeighbours" = some (.generated t) ∧
      Supplied d t a.object [.context, .access ⟨.left, 0⟩] .empty) ∧
    ∃ f d, sensorMachine.function "peripheral" "call" = .ok f ∧
      Supplied d f.method f.object [.context] .empty := by
  obtain ⟨builds, machines⟩ := binding_sound
  have reached : Reached sensorMachine :=
    (((Reached.fresh ⟨1, 1⟩ Config.default).operation (.addApi registryApi)).operation
      (.addDevice (Sensor.new []))).operation (.change (.set .left (some ⟨0⟩)))
  obtain ⟨devices, functions⟩ := machines sensorMachine reached
  refine ⟨?_, ?_, ?_⟩
  · obtain ⟨t, built, params, bound⟩ : ∃ t,
        ((Generator.new "lua" 1 [.context]).build "Courier" courier).1 = some t ∧ ∃ params,
          Binder.bindAll t.binders .registry [.context] (.ofList [.nil, .string "parcel"]) =
            .ok params := ⟨_, rfl, _, rfl⟩
    have supplied := builds (Generator.new "lua" 1 [.context]) "Courier" courier t built .registry
      [.context] (.ofList [.nil, .string "parcel"]) fitting_script
    obtain ⟨ran, -, reads⟩ := supplied.bound params bound
    exact ⟨t, params, built, bound, ran, reads 4 .string rfl⟩
  · obtain ⟨a, here, t, mapped, left⟩ : ∃ a ∈ sensorMachine.host.accesses, ∃ t,
        a.methods.find? "getNeighbours" = some (.generated t) ∧ a.id = ⟨.left, 0⟩ :=
      ⟨_, List.mem_singleton_self _, _, rfl, rfl⟩
    obtain ⟨⟨d, adapted⟩, called⟩ := devices a here "getNeighbours" t mapped
    have supplied := (called .empty).2 d adapted
    rw [left] at supplied
    exact ⟨a, here, t, d, mapped, supplied⟩
  · obtain ⟨f, found⟩ : ∃ f, sensorMachine.function "peripheral" "call" = .ok f := ⟨_, rfl⟩
    obtain ⟨⟨d, adapted⟩, called⟩ := functions "peripheral" "call" f found
    exact ⟨f, d, found, (called .empty).2 d adapted⟩

end Machine

end DeviceBridge
