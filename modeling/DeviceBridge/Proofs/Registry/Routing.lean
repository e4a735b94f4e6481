import DeviceBridge.Proofs.Registry.Stranding

/-
  Calls through the registry are transparent. `Leads` says where a call goes: it is refused for the
  first thing that is wrong with it, or it reaches a method of an attached device. A refusal comes
  at level 0 and before anything runs; otherwise the outcome is that of the method invoked directly
  with the arguments from the third on, and only blame moves up by a frame (`Lifted`).
  `call_transparent`: every call leads somewhere, and is answered as that says.
-/

namespace DeviceBridge

/-! ## Sides by name -/

namespace Side

/-- No two sides have the same letters. -/
theorem sameLetters_inj {side other : Side} (same : Text.lower side.name = Text.lower other.name) :
    side = other := by
  revert same
  cases side <;> cases other <;> decide

theorem ofName?_eq_some_iff {name : String} {side : Side} :
    ofName? name = some side ↔ Text.sameLetters side.name name = true := by
  have letters {side : Side} (found : ofName? name = some side) :
      Text.sameLetters side.name name = true := by
    have chosen := List.find?_some found
    exact chosen
  constructor
  · exact letters
  · intro same
    have some : (ofName? name).isSome :=
      List.find?_isSome.mpr ⟨side, mem_all side, same⟩
    obtain ⟨other, found⟩ := Option.isSome_iff_exists.mp some
    rw [found]
    refine congrArg Option.some (sameLetters_inj ?_)
    rw [beq_iff_eq.mp (letters found), beq_iff_eq.mp same]

end Side

/-! ## Arguments -/

namespace Arguments

theorem string_eq_ok_iff {args : Arguments} {index : Nat} {s : String} :
    args.string index = .ok s ↔ args.get index = .string s := by
  unfold string
  cases args.get index <;> simp [Value.string?]

theorem string_refused {args : Arguments} {index : Nat} (small : index + 1 < UInt64.size)
    (other : ∀ s, args.get index ≠ .string s) : args.string index =
      .error (.ofCause (.argumentType (index + 1) "string" (args.get index).typeName)) := by
  have none : (args.get index).string? = none := by
    cases found : args.get index with
    | string s => exact absurd found (other s)
    | _ => rfl
  unfold string
  rw [none]
  simp only
  unfold Failure.argumentType
  rw [Failure.position_of_lt small]

/-- What is left behind some arguments shows the others, counted from there. -/
theorem get_drop {args rest : Arguments} {k : Nat} (dropped : args.drop k = .ok rest)
    (index : Nat) : rest.get index = args.get (index + k) := by
  unfold get
  rw [toList_drop dropped, List.getElem?_drop, Int.toNat_natCast, Nat.add_comm]

end Arguments

/-! ## Outcomes -/

/-- The outcome of a call, from that of the method that it reached: values stay, a wait yields and
resumes as it did and adds one more to the levels of later errors, and an error that has a level is
blamed one frame further up. Sums are 32-bit words, and one that does not fit is a panic. -/
inductive Lifted : Outcome → Outcome → Prop where
  | done (values : List Value) : Lifted (.done values) (.done values)
  | pending {yielded : List Value} {adjust : UInt32} {next : Resumption}
      (fits : adjust.toNat + 1 < UInt32.size) :
      Lifted (.pending yielded adjust next) (.pending yielded (adjust + 1) next)
  | pendingOverflow {yielded : List Value} {adjust : UInt32} {next : Resumption}
      (full : adjust.toNat + 1 = UInt32.size) :
      Lifted (.pending yielded adjust next) (.failed (.escaped .overflow))
  | unattributed (cause : Cause) :
      Lifted (.failed (.raised ⟨cause, 0⟩)) (.failed (.raised ⟨cause, 0⟩))
  | attributed {cause : Cause} {level : UInt32} (some : level ≠ 0)
      (fits : level.toNat + 1 < UInt32.size) :
      Lifted (.failed (.raised ⟨cause, level⟩)) (.failed (.raised ⟨cause, level + 1⟩))
  | attributedOverflow {cause : Cause} {level : UInt32} (full : level.toNat + 1 = UInt32.size) :
      Lifted (.failed (.raised ⟨cause, level⟩)) (.failed (.escaped .overflow))
  | escaped (how : Escape) : Lifted (.failed (.escaped how)) (.failed (.escaped how))

theorem Lifted.of_attributed {cause : Cause} {level : UInt32} {outcome : Outcome}
    (lifted : Lifted (.failed (.raised ⟨cause, level⟩)) outcome) (some : level ≠ 0)
    (fits : level.toNat + 1 < UInt32.size) : outcome = .failed (.raised ⟨cause, level + 1⟩) := by
  cases lifted with
  | unattributed => exact absurd rfl some
  | attributed => rfl
  | attributedOverflow full => omega

theorem addLevels_one (level : UInt32) :
    level.toNat + 1 < UInt32.size ∧ addLevels level 1 = .ok (level + 1) ∨
      level.toNat + 1 = UInt32.size ∧ addLevels level 1 = .error .overflow := by
  have small : level.toNat < UInt32.size := level.toNat_lt
  unfold addLevels
  split
  · next fits => exact .inl ⟨fits, rfl⟩
  · next full =>
    have full : ¬level.toNat + 1 < UInt32.size := full
    exact .inr ⟨by omega, rfl⟩

theorem Outcome.lifted_adjusted (outcome : Outcome) : Lifted outcome (outcome.adjusted 1) := by
  unfold adjusted adjustWait
  cases outcome with
  | done values => exact .done values
  | pending yielded adjust next =>
    simp only
    rcases addLevels_one adjust with ⟨fits, sum⟩ | ⟨full, sum⟩
    · rw [sum]
      exact .pending fits
    · rw [sum]
      exact .pendingOverflow full
  | failed failure =>
    cases failure with
    | escaped how => exact .escaped how
    | raised e =>
      obtain ⟨cause, level⟩ := e
      unfold adjustError MethodError.adjusted
      simp only
      by_cases none : level = 0
      · rw [if_pos none, none]
        exact .unattributed cause
      · rw [if_neg none]
        rcases addLevels_one level with ⟨fits, sum⟩ | ⟨full, sum⟩
        · rw [sum]
          exact .attributed none fits
        · rw [sum]
          exact .attributedOverflow full

/-! ## Devices behind accesses -/

namespace Host

/-- A device stands behind every access. -/
def Provided (h : Host) : Prop := ∀ a ∈ h.accesses, (h.device? a.device).isSome

/-- Every access was made before, for the device that it has now. -/
def KeepsDevices (h h' : Host) : Prop :=
  ∀ a ∈ h'.accesses, ∃ b ∈ h.accesses, b.device = a.device

namespace KeepsDevices

theorem refl (h : Host) : KeepsDevices h h := fun a here => ⟨a, here, rfl⟩

theorem trans {a b c : Host} (ab : KeepsDevices a b) (bc : KeepsDevices b c) :
    KeepsDevices a c := by
  intro x here
  obtain ⟨y, there, same⟩ := bc x here
  obtain ⟨z, first, same'⟩ := ab y there
  exact ⟨z, first, same'.trans same⟩

theorem congr {h h' : Host}
    (accesses : h'.accesses.map Access.withoutMounts = h.accesses.map Access.withoutMounts) :
    KeepsDevices h h' := by
  intro a here
  have moved : a.withoutMounts ∈ h'.accesses.map Access.withoutMounts := List.mem_map_of_mem here
  rw [accesses] at moved
  obtain ⟨b, there, same⟩ := List.mem_map.mp moved
  have devices : b.withoutMounts.device = a.withoutMounts.device := congrArg Access.device same
  exact ⟨b, there, devices⟩

theorem modifyAccess (h : Host) (id : AccessId) (f : Access → Access)
    (same : ∀ a, (f a).device = a.device) : KeepsDevices h (h.modifyAccess id f) := by
  intro a here
  obtain ⟨b, there, rfl⟩ := List.mem_map.mp here
  refine ⟨b, there, ?_⟩
  split
  · exact (same b).symm
  · rfl

theorem link (h : Host) (id : AccessId) : KeepsDevices h (h.link id).2 := by
  unfold Host.link
  split
  · exact refl h
  · split
    · exact refl h
    · exact modifyAccess h id _ fun _ => rfl

theorem unlink (h : Host) (id : AccessId) : KeepsDevices h (h.unlink id).2 := by
  unfold Host.unlink
  split
  · exact refl h
  · split
    · exact modifyAccess h id _ fun _ => rfl
    · exact refl h

theorem claim {transition : Host → AccessId → Bool × Host}
    (each : ∀ h id, KeepsDevices h (transition h id).2) (ids : List AccessId) :
    ∀ h : Host, KeepsDevices h (h.claim transition ids).2 := by
  induction ids with
  | nil => exact refl
  | cons id rest ih => exact fun h => (each h id).trans (ih _)

theorem replace (h : Host) (side : Side) (new : Option AccessId) :
    KeepsDevices h (h.replace side new).2.2 := by
  have detached := claim unlink (h.slots side).toList h
  unfold Host.replace
  simp only
  split
  · exact detached.trans (claim link new.toList _)
  · exact detached

end KeepsDevices

namespace Provided

variable {h h' : Host}

theorem fresh (fresh : h.Fresh) : h.Provided := by
  intro a here
  rw [fresh.accesses] at here
  exact absurd here List.not_mem_nil

theorem kept (provided : h.Provided) (devices : SameDevices h h') (keeps : KeepsDevices h h') :
    h'.Provided := by
  intro a here
  obtain ⟨b, there, same⟩ := keeps a here
  exact same ▸ devices.device (provided b there)

theorem install (provided : h.Provided) (side : Side) (device : DeviceId) :
    (h.install side device).2.Provided := by
  unfold Host.install
  cases found : h.device? device with
  | none => exact provided
  | some d =>
    intro a here
    rcases List.mem_append.mp here with old | new
    · exact provided a old
    · rw [List.mem_singleton.mp new]
      exact Option.isSome_iff_exists.mpr ⟨d, found⟩

/-- A step lemma: no change takes a device away, or makes an access for one that is not there. -/
theorem after (provided : h.Provided) (c : Change) : (h.after c).Provided := by
  have devices := SameDevices.kept.after h c
  cases c with
  | ask request => exact provided.kept devices (.congr (answer_served h request).accesses)
  | enqueue | write | queueEvent => exact provided.kept devices (.refl h)
  | exchange side device =>
    cases device with
    | none => exact provided.kept devices (.replace h side none)
    | some device =>
      have same := congrArg (List.map Device.withoutState)
        (Rearranged.replace (h.install side device).2 side (h.install side device).1).devices
      exact (provided.install side device).kept same (.replace _ side _)
  | linkAll => exact provided.kept devices (KeepsDevices.claim .link h.occupants _)
  | unlinkAll => exact provided.kept devices (KeepsDevices.claim .unlink h.occupants _)
  | close id =>
    refine provided.kept devices ?_
    have unmounted := KeepsDevices.congr (unmountAll_served h id).accesses
    exact unmounted.trans (.modifyAccess _ id _ fun _ => rfl)

theorem replay (changes : List Change) :
    ∀ {h : Host}, h.Provided → (h.replay changes).Provided := by
  induction changes with
  | nil => exact fun provided => provided
  | cons c rest ih => exact fun provided => ih (provided.after c)

end Provided

end Host

/-! ## Routes -/

/-- The mapped method, invoked directly on the instance of the provider. -/
def MethodEntry.invoke (entry : MethodEntry) (a : Access) (d : Device) (args : Arguments) : Code :=
  match entry with
  | generated t => t.apply a.object [.context, .access a.id] args
  | dynamic index => d.callDynamic a.id index args

namespace Host

/-- Where a call leads: the cause for which it is refused, or the code that it reaches. A side is
named in any case of its letters. -/
inductive Leads (h : Host) (args : Arguments) : Except Cause Code → Prop where
  | noSide (other : ∀ s, args.get 0 ≠ .string s) :
      Leads h args (.error (.argumentType 1 "string" (args.get 0).typeName))
  | noMethod {name : String} (first : args.get 0 = .string name)
      (other : ∀ s, args.get 1 ≠ .string s) :
      Leads h args (.error (.argumentType 2 "string" (args.get 1).typeName))
  | empty {name method : String} (first : args.get 0 = .string name)
      (second : args.get 1 = .string method)
      (nobody : ∀ side : Side, Text.sameLetters side.name name = true → h.slots side = none) :
      Leads h args (.error .noSuchCapability)
  | closed {name method : String} {side : Side} {id : AccessId} (first : args.get 0 = .string name)
      (second : args.get 1 = .string method) (named : Text.sameLetters side.name name = true)
      (sits : h.slots side = some id) (shut : h.isAttached id = false) :
      Leads h args (.error .notAttached)
  | unknown {name method : String} {side : Side} {a : Access} (first : args.get 0 = .string name)
      (second : args.get 1 = .string method) (named : Text.sameLetters side.name name = true)
      (sits : h.slots side = some a.id) (found : h.access? a.id = some a)
      (attached : a.attached = true) (lacks : a.methods.find? method = none) :
      Leads h args (.error (.noSuchMethod method))
  | reached {name method : String} {side : Side} {a : Access} {d : Device} {entry : MethodEntry}
      {rest : Arguments} (first : args.get 0 = .string name) (second : args.get 1 = .string method)
      (named : Text.sameLetters side.name name = true) (sits : h.slots side = some a.id)
      (found : h.access? a.id = some a) (attached : a.attached = true)
      (device : h.device? a.device = some d) (mapped : a.methods.find? method = some entry)
      (dropped : args.drop 2 = .ok rest) : Leads h args (.ok (entry.invoke a d rest))

/-- What a call answers, given where it leads: it is refused at level 0 and nothing has happened, or
its outcome is that of the code, lifted. -/
def Answers (run : Runner) (h : Host) (args : Arguments) : Except Cause Code → Prop
  | .error cause => h.callDevice run args = (.failed (.raised ⟨cause, 0⟩), h)
  | .ok body => Lifted (run body h).1 (h.callDevice run args).1 ∧
      (h.callDevice run args).2 = (run body h).2

section

variable {h : Host} {args : Arguments}

theorem route_nobody {name method : String} {rest : Arguments} (first : args.get 0 = .string name)
    (second : args.get 1 = .string method) (dropped : args.drop 2 = .ok rest)
    (nobody : h.accessAt name = none) : h.route args = .error (.ofCause .noSuchCapability) := by
  unfold route
  rw [Arguments.string_eq_ok_iff.mpr first, Arguments.string_eq_ok_iff.mpr second, dropped]
  simp only
  rw [nobody]

/-- A call whose first two arguments are texts goes to whoever is at the side. -/
theorem route_somebody {name method : String} {rest : Arguments} {a : Access}
    (first : args.get 0 = .string name) (second : args.get 1 = .string method)
    (dropped : args.drop 2 = .ok rest) (there : h.accessAt name = some a) : h.route args =
      if a.attached then .ok (a, method, rest) else .error (.ofCause .notAttached) := by
  unfold route
  rw [Arguments.string_eq_ok_iff.mpr first, Arguments.string_eq_ok_iff.mpr second, dropped]
  simp only
  rw [there]

theorem accessAt_eq {name : String} {side : Side} {id : AccessId} {a : Access}
    (named : Text.sameLetters side.name name = true) (sits : h.slots side = some id)
    (found : h.access? id = some a) : h.accessAt name = some a := by
  unfold accessAt
  rw [Side.ofName?_eq_some_iff.mpr named, Option.bind_some, sits, Option.bind_some, found]

theorem callDevice_refused {run : Runner} {failure : Failure}
    (refused : h.route args = .error failure) : h.callDevice run args = (.failed failure, h) := by
  unfold callDevice
  rw [refused]

theorem callDevice_routed {run : Runner} {a : Access} {method : String} {rest : Arguments}
    (routed : h.route args = .ok (a, method, rest)) : h.callDevice run args =
      (((h.callMethod run a method rest).1.adjusted 1), (h.callMethod run a method rest).2) := by
  unfold callDevice
  rw [routed]

/-- The call of a method that is mapped. -/
theorem callMethod_mapped {run : Runner} {a : Access} {d : Device} {method : String}
    {entry : MethodEntry} (device : h.device? a.device = some d)
    (mapped : a.methods.find? method = some entry) (rest : Arguments) :
    h.callMethod run a method rest = run (entry.invoke a d rest) h := by
  unfold callMethod methodCode
  rw [mapped]
  cases entry with
  | generated t => rfl
  | dynamic index =>
    simp only
    rw [device]
    rfl

/-- Every call leads somewhere. -/
theorem exists_leads (seated : h.Seated) (provided : h.Provided) (args : Arguments) :
    ∃ target, h.Leads args target := by
  by_cases first : ∃ name, args.get 0 = .string name
  swap
  · exact ⟨_, .noSide fun s same => first ⟨s, same⟩⟩
  by_cases second : ∃ method, args.get 1 = .string method
  swap
  · obtain ⟨name, first⟩ := first
    exact ⟨_, .noMethod first fun s same => second ⟨s, same⟩⟩
  obtain ⟨name, first⟩ := first
  obtain ⟨method, second⟩ := second
  by_cases somebody : ∃ side id, Text.sameLetters side.name name = true ∧ h.slots side = some id
  swap
  · refine ⟨_, .empty first second fun side named => ?_⟩
    exact Option.eq_none_iff_forall_ne_some.mpr fun id sits => somebody ⟨side, id, named, sits⟩
  obtain ⟨side, id, named, sits⟩ := somebody
  obtain ⟨a, found⟩ :=
    Option.isSome_iff_exists.mp (access?_isSome.mpr (seated.here side id sits).2)
  obtain rfl := access?_id found
  cases attached : a.attached with
  | false =>
    refine ⟨_, .closed first second named sits ?_⟩
    unfold isAttached
    rw [found]
    exact attached
  | true =>
    obtain ⟨d, device⟩ :=
      Option.isSome_iff_exists.mp (provided a (List.mem_of_find?_eq_some found))
    obtain ⟨rest, dropped, -⟩ := Arguments.drop_natCast args 2
    cases mapped : a.methods.find? method with
    | none => exact ⟨_, .unknown first second named sits found attached mapped⟩
    | some entry =>
      exact ⟨_, .reached first second named sits found attached device mapped dropped⟩

/-- A call is answered as the place says to which it leads. -/
theorem Leads.answers {target : Except Cause Code} (leads : h.Leads args target)
    (seated : h.Seated) (run : Runner) : h.Answers run args target := by
  obtain ⟨rest, dropped, -⟩ := Arguments.drop_natCast args 2
  have dropped : args.drop 2 = .ok rest := dropped
  cases leads with
  | noSide other =>
    refine callDevice_refused ?_
    unfold route
    rw [Arguments.string_refused (by decide) other]
    rfl
  | noMethod first other =>
    refine callDevice_refused ?_
    unfold route
    rw [Arguments.string_eq_ok_iff.mpr first, Arguments.string_refused (by decide) other]
    rfl
  | @empty name method first second nobody =>
    have none : h.accessAt name = none := by
      unfold accessAt
      cases named : Side.ofName? name with
      | none => rfl
      | some side =>
        rw [Option.bind_some, nobody side (Side.ofName?_eq_some_iff.mp named)]
        rfl
    exact callDevice_refused (route_nobody first second dropped none)
  | @closed name method side id first second named sits shut =>
    obtain ⟨a, found⟩ :=
      Option.isSome_iff_exists.mp (access?_isSome.mpr (seated.here side id sits).2)
    unfold isAttached at shut
    rw [found] at shut
    refine callDevice_refused ?_
    rw [route_somebody first second dropped (accessAt_eq named sits found)]
    exact if_neg (Bool.eq_false_iff.mp shut)
  | @unknown name method side a first second named sits found attached lacks =>
    have routed : h.route args = .ok (a, method, rest) := by
      rw [route_somebody first second dropped (accessAt_eq named sits found)]
      exact if_pos attached
    have missed : h.callMethod run a method rest =
        (.failed (.ofCause (.noSuchMethod method)), h) := by
      unfold callMethod methodCode
      rw [lacks]
    show h.callDevice run args = _
    rw [callDevice_routed routed, missed]
    rfl
  | @reached name method side a d entry rest' first second named sits found attached device mapped
      dropped' =>
    have routed : h.route args = .ok (a, method, rest') := by
      rw [route_somebody first second dropped' (accessAt_eq named sits found)]
      exact if_pos attached
    show Lifted _ (h.callDevice run args).1 ∧ (h.callDevice run args).2 = _
    rw [callDevice_routed routed, callMethod_mapped device mapped]
    exact ⟨Outcome.lifted_adjusted _, rfl⟩

end

/-- Every call through the registry leads somewhere, and is answered as that says, whatever runs the
code: what is wrong with it first is its error, at level 0, and nothing has run; or the outcome is
that of the method invoked directly, with just the arguments from the third on, so that positions
count from there, and only blame moves up by one frame, as long as the sum is one of 32 bits. What
is asked of the registry holds in every state that changes lead to. -/
theorem call_transparent {h : Host} (seated : h.Seated) (provided : h.Provided)
    (args : Arguments) :
    (∃ target, h.Leads args target) ∧
    (∀ target, h.Leads args target → ∀ run, h.Answers run args target) ∧
    (∀ rest, args.drop 2 = .ok rest → rest.toList = args.toList.drop 2 ∧
      ∀ index, rest.get index = args.get (index + 2)) ∧
    ∀ changes, (h.replay changes).Seated ∧ (h.replay changes).Provided :=
  ⟨exists_leads seated provided args, fun _ leads => leads.answers seated,
    fun _ dropped => ⟨Arguments.toList_drop dropped, Arguments.get_drop dropped⟩,
    fun changes => ⟨seated.replay changes, provided.replay changes⟩⟩

/-! ## A call that fails -/

/-- A device whose one method fails with its first argument, blamed two frames up. -/
def herald : Device :=
  { Device.plain .speaker "herald" (ClassDecl.plain .speaker "Herald" []) .stateless with
    dynamic := ["ping"]
    callDynamic := fun _ _ args =>
      Code.bindRead (args.string 0) fun text => Code.raise ⟨.message text, 2⟩ }

def heraldStart : Host := ((Host.new Config.default).addDevice herald).2

def heraldHost : Host := heraldStart.replay [.exchange .left (some ⟨0⟩), .linkAll]

/-- Called through the registry it fails one frame further up. -/
theorem call_transparent_herald : heraldHost.callDevice (Program.run 0)
      (.ofList [.string "LEFT", .string "ping", .string "busy"]) =
    (.failed (.raised ⟨.message "busy", 3⟩), heraldHost) := by
  have fresh : heraldStart.Fresh := ⟨rfl, rfl, rfl⟩
  have seated : heraldHost.Seated := fresh.seated.replay _
  have provided : heraldHost.Provided := (Provided.fresh fresh).replay _
  obtain ⟨-, answered, -⟩ := call_transparent seated provided
    (.ofList [.string "LEFT", .string "ping", .string "busy"])
  obtain ⟨a, rest, found, sits, attached, device, mapped, dropped⟩ :
      ∃ a rest, heraldHost.access? ⟨.left, 0⟩ = some a ∧ heraldHost.slots .left = some a.id ∧
        a.attached = true ∧ heraldHost.device? a.device = some herald ∧
        a.methods.find? "ping" = some (.dynamic 0) ∧
        (Arguments.ofList [.string "LEFT", .string "ping", .string "busy"]).drop 2 = .ok rest :=
    ⟨_, _, rfl, rfl, rfl, rfl, rfl, rfl⟩
  have named : Text.sameLetters Side.left.name "LEFT" = true := by decide
  obtain ⟨lifted, same⟩ := answered _
    (.reached rfl rfl named sits (access?_id found ▸ found) attached device mapped dropped)
    (Program.run 0)
  have first : rest.string 0 = .ok "busy" :=
    Arguments.string_eq_ok_iff.mpr ((Arguments.get_drop dropped 0).trans rfl)
  have direct : Program.run 0 (MethodEntry.invoke (.dynamic 0) a herald rest) heraldHost =
      (.failed (.raised ⟨.message "busy", 2⟩), heraldHost) := by
    show Program.run 0 (Code.bindRead (rest.string 0) _) heraldHost = _
    rw [first]
    rfl
  rw [direct] at lifted same
  exact Prod.ext (lifted.of_attributed (by decide) (by decide)) same

end Host

end DeviceBridge
