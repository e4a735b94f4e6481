import DeviceBridge.Proofs.Drives.Changes

/-
  Commands as a drive sees them. The drive has the hooks of a drive, and the hooks of the other
  devices keep to their own device and access; they may change the registry, so that hooks nest
  (`Housed`). Then every single change of a command minds the drive, and a run of the drive goes on
  over all commands, inserts and ejects (`Keeping.perform`).
-/

namespace DeviceBridge

/-- A request of a device that mounts, unmounts and connects only through its own access. -/
def Request.KeepsTo (device : DeviceId) (access : AccessId) : Request → Prop
  | .service id (.mount ..) => id = access
  | .service id (.unmount _) => id = access
  | .device other (.connect id) => other = device ∧ id = access
  | _ => True

/-- Code that makes only such requests. It may change the registry, but makes no calls. -/
def Code.KeepsTo (device : DeviceId) (access : AccessId) : Code → Prop
  | .done _ => True
  | .fail _ => True
  | .suspend .. => True
  | .await _ => True
  | .ask request next => request.KeepsTo device access ∧
    ∀ answer, (next answer).KeepsTo device access
  | .command _ next => next.KeepsTo device access
  | .enqueue _ _ next => ∀ answer, (next answer).KeepsTo device access
  | .call _ => False
  | .attempt body next => body.KeepsTo device access ∧
    ∀ seen, (next seen).KeepsTo device access
  | .adjustWait body _ => body.KeepsTo device access
  | .adjustError body _ => body.KeepsTo device access

namespace Host

variable {d : DeviceId} {h h' : Host}

/-- The drive has the hooks of a drive, and the other devices keep to their own. -/
structure Housed (d : DeviceId) (h : Host) : Prop where
  attach : ∀ x, h.device? d = some x → x.attach = (Drive.new none).attach
  detach : ∀ x, h.device? d = some x → x.detach = (Drive.new none).detach
  others : ∀ other x, other ≠ d → h.device? other = some x → ∀ (t : Transition) access,
    (t.hook x other access).KeepsTo other access

theorem Housed.same (housed : Housed d h) (same : SameDevices h h') : Housed d h' := by
  refine ⟨fun x found => ?_, fun x found => ?_, fun other x differs found t access => ?_⟩
  · obtain ⟨x₀, there, alike⟩ := same.found found
    exact (congrArg Device.attach alike).symm.trans (housed.attach x₀ there)
  · obtain ⟨x₀, there, alike⟩ := same.found found
    exact (congrArg Device.detach alike).symm.trans (housed.detach x₀ there)
  · obtain ⟨x₀, there, alike⟩ := same.found found
    have keeps := housed.others other x₀ differs there t access
    have hook : t.hook x = t.hook x₀ := by
      cases t with
      | attach => exact (congrArg Device.attach alike).symm
      | detach => exact (congrArg Device.detach alike).symm
    rwa [hook]

/-- A host on which a run of the drive goes on, whatever is done next. -/
structure Keeping (d : DeviceId) (h : Host) : Prop where
  tends : Tends d h
  wired : h.Wired
  housed : Housed d h

/-- It still does, and whose an access is has not changed. -/
structure Keeps (d : DeviceId) (h h' : Host) : Prop where
  keeping : Keeping d h'
  owners : SameOwners h h'

theorem Keeping.refl (keeping : Keeping d h) : Keeps d h h := ⟨keeping, .ofEq fun _ => rfl⟩

theorem Keeps.trans {a b c : Host} (ab : Keeps d a b) (bc : Keeps d b c) : Keeps d a c :=
  ⟨bc.keeping, ab.owners.trans bc.owners⟩

theorem Keeping.after (keeping : Keeping d h) {c : Change} (minding : Minding d h c) :
    Keeps d h (h.after c) := by
  obtain ⟨tends, wired, housed⟩ := keeping
  obtain ⟨leases, records⟩ := tends.records
  exact ⟨⟨tends.after wired minding, wired.after records minding,
    housed.same (SameDevices.kept.after h c)⟩, SameOwners.kept.after h c⟩

/-! ## Code -/

theorem minding_of_keepsTo {request : Request} {device : DeviceId} {access : AccessId}
    (known : h.deviceOf access = some device) (differs : device ≠ d)
    (keeps : request.KeepsTo device access) : Minding d h (.ask request) := by
  have others : h.deviceOf access ≠ some d := by
    rw [known]
    exact fun same => differs (Option.some.inj same)
  cases request with
  | service id service =>
    cases service with
    | mount | unmount =>
      cases keeps
      exact others
    | _ => trivial
  | device other request =>
    cases request with
    | connect id =>
      obtain ⟨rfl, rfl⟩ := keeps
      exact known
    | _ => trivial
  | _ => trivial

/-- By induction on the code. -/
theorem exec_keeps {nested : Nested}
    (command : ∀ c h, Keeping d h → Keeps d h (nested.command c h).2) {device : DeviceId}
    {access : AccessId} (differs : device ≠ d) (body : Code) : ∀ h : Host, Keeping d h →
      h.deviceOf access = some device → body.KeepsTo device access →
        Keeps d h (body.exec nested h).2 := by
  induction body with
  | done | fail | suspend | await => exact fun h keeping _ _ => keeping.refl
  | ask request next ih =>
    intro h keeping known keeps
    have asked := keeping.after (minding_of_keepsTo known differs keeps.1)
    exact asked.trans (ih _ _ asked.keeping (asked.owners access device known) (keeps.2 _))
  | command c next ih =>
    intro h keeping known keeps
    have performed := command c h keeping
    unfold Code.exec
    split <;> rename_i came <;> rw [came] at performed
    · exact performed.trans
        (ih _ performed.keeping (performed.owners access device known) keeps)
    · exact performed
  | enqueue completion body next _ _ ih =>
    intro h keeping known keeps
    have queued : Keeps d h (h.enqueue completion body).2 :=
      keeping.after (c := .enqueue completion body) trivial
    exact queued.trans (ih _ _ queued.keeping (queued.owners access device known) (keeps _))
  | call => exact fun h _ _ keeps => keeps.elim
  | attempt body next ihBody ihNext =>
    intro h keeping known keeps
    have first := ihBody h keeping known keeps.1
    unfold Code.exec
    simp only
    split
    · exact first.trans
        (ihNext _ _ first.keeping (first.owners access device known) (keeps.2 _))
    · exact first
  | adjustWait body _ ih | adjustError body _ ih => exact ih

/-! ## Hooks -/

theorem afterHook_keeps (t : Transition) (a : Access) {ran : Outcome × Host}
    (kept : Keeps d h ran.2) : Keeps d h (afterHook t a ran).2 := by
  unfold afterHook
  split
  · exact kept.trans (kept.keeping.after (c := .write .error _) trivial)
  · exact kept
  · exact kept

/-- What a drive asks for in its hooks. -/
def askedIn : Transition → AccessId → DeviceRequest
  | .attach, id => .connect id
  | .detach, _ => .disconnect

theorem hook_of_drive {x : Device} (attach : x.attach = (Drive.new none).attach)
    (detach : x.detach = (Drive.new none).detach) (t : Transition) (id : AccessId) :
    t.hook x d id = Code.tell (.device d (askedIn t id)) := by
  cases t with
  | attach => exact congrFun (congrFun attach d) id
  | detach => exact congrFun (congrFun detach d) id

theorem Housed.hook (housed : Housed d h) {x : Device} (found : h.device? d = some x)
    (t : Transition) (id : AccessId) :
    t.hook x d id = Code.tell (.device d (askedIn t id)) :=
  hook_of_drive (housed.attach x found) (housed.detach x found) t id

/-- After a detach the drive is not connected. -/
theorem record?_disconnected {r : DriveRecord}
    (found : (h.after (.ask (.device d .disconnect))).record? d = some r) : r.access = none := by
  cases there : h.driveState? d with
  | none =>
    have same : h.after (.ask (.device d .disconnect)) = h :=
      (deviceRequest_absent there ⟨.top, 0⟩).2
    rw [same, record?, there] at found
    cases found
  | some s =>
    rw [after_disconnect there, record?_of_driveState? (driveState?_setState there _)] at found
    cases found
    rfl

section Runner

variable {run : Runner}

/-- What a runner does with code that keeps to its own, and with code that asks one thing. -/
structure Runs (d : DeviceId) (run : Runner) : Prop where
  keeps : ∀ (body : Code) device access h, device ≠ d → Keeping d h →
    h.deviceOf access = some device → body.KeepsTo device access → Keeps d h (run body h).2
  tells : ∀ request h, run (Code.tell request) h = (.done [], (h.answer request).2)

variable (runs : Runs d run)
include runs

/-- The hook of the drive is a request to it. -/
theorem runHook_own {t : Transition} {a : Access} (own : a.device = d) {x : Device}
    (found : h.device? d = some x)
    (hook : t.hook x d a.id = Code.tell (.device d (askedIn t a.id))) :
    h.runHook run t a = (.ok (), h.after (.ask (.device d (askedIn t a.id)))) := by
  unfold runHook
  rw [own, found]
  simp only
  rw [hook, runs.tells]
  rfl

theorem runHook_keeps (t : Transition) (keeping : Keeping d h) {a : Access}
    (known : h.deviceOf a.id = some a.device) : Keeps d h (h.runHook run t a).2 := by
  cases found : h.device? a.device with
  | none =>
    unfold runHook
    rw [found]
    exact keeping.refl
  | some x =>
    by_cases own : a.device = d
    · rw [own] at found known
      rw [runHook_own runs own found (keeping.housed.hook found t a.id)]
      show Keeps d h (h.after (.ask (.device d (askedIn t a.id))))
      refine keeping.after ?_
      cases t with
      | attach => exact known
      | detach => trivial
    · unfold runHook
      rw [found]
      exact afterHook_keeps t a (runs.keeps _ a.device a.id h own keeping known
        (keeping.housed.others a.device x own found t a.id))

/-- When the hook of a detach has returned, the drive is not connected through the access. -/
theorem runHook_unconnected (keeping : Keeping d h) {a : Access}
    (known : h.deviceOf a.id = some a.device) (ran : h.runHook run .detach a = (.ok (), h')) :
    Minding d h' (.close a.id) := by
  have kept := runHook_keeps runs .detach keeping known
  rw [ran] at kept
  intro r there connected
  have mine := kept.keeping.wired d r a.id there connected
  rw [kept.owners a.id a.device known] at mine
  have own : a.device = d := Option.some.inj mine
  cases found : h.device? d with
  | none =>
    have same : h' = h := by
      unfold runHook at ran
      rw [own, found] at ran
      cases ran
      rfl
    rw [same, record?, driveState?, state?, found] at there
    cases there
  | some x =>
    rw [runHook_own runs own found (keeping.housed.hook found .detach a.id)] at ran
    cases ran
    rw [record?_disconnected there] at connected
    cases connected

theorem pass_keeps (t : Transition) (keeping : Keeping d h) {a : Access}
    (known : h.deviceOf a.id = some a.device) : Keeps d h (h.pass run t a).2 := by
  have hooked := runHook_keeps runs t keeping known
  unfold pass
  cases ran : h.runHook run t a with
  | mk left after =>
    rw [ran] at hooked
    cases left with
    | error how => exact hooked
    | ok =>
      cases t with
      | attach => exact hooked
      | detach =>
        exact hooked.trans (hooked.keeping.after (runHook_unconnected runs keeping known ran))

theorem announce_keeps (t : Transition) (keeping : Keeping d h) {a : Access}
    (known : h.deviceOf a.id = some a.device) : Keeps d h (h.announce run t a).2 := by
  have wrote : Keeps d h (h.write .debug (t.announcement a)) :=
    keeping.after (c := .write .debug _) trivial
  have passed := wrote.trans (pass_keeps runs t wrote.keeping (wrote.owners a.id a.device known))
  unfold announce
  cases came : (h.write .debug (t.announcement a)).pass run t a with
  | mk left after =>
    rw [came] at passed
    cases left with
    | error how => exact passed
    | ok => exact passed.trans (passed.keeping.after (c := .queueEvent _ _) trivial)

omit runs in
/-- By induction on the accesses. -/
theorem forEach_keeps {step : Host → Access → Except Escape Unit × Host}
    (each : ∀ {h : Host} {a : Access}, Keeping d h → h.deviceOf a.id = some a.device →
      Keeps d h (step h a).2) (ids : List AccessId) :
    ∀ {h : Host}, Keeping d h → Keeps d h (h.forEach step ids).2 := by
  induction ids with
  | nil => exact fun keeping => keeping.refl
  | cons id rest ih =>
    intro h keeping
    unfold forEach
    cases found : h.access? id with
    | none => exact ih keeping
    | some a =>
      have known : h.deviceOf a.id = some a.device := by
        rw [deviceOf, access?_id found, found]
        rfl
      have stepped := each keeping known
      simp only
      cases came : step h a with
      | mk left after =>
        rw [came] at stepped
        cases left with
        | error how => exact stepped
        | ok => exact stepped.trans (ih stepped.keeping)

/-! ## Commands -/

theorem setDeviceAt_keeps (keeping : Keeping d h) (side : Side) (device : Option DeviceId) :
    Keeps d h (h.setDeviceAt run side device).2 := by
  have changed : Keeps d h (h.exchange side device).2.2 :=
    keeping.after (c := .exchange side device) trivial
  have detached := changed.trans (forEach_keeps
    (fun keeping known => announce_keeps runs .detach keeping known) (h.exchange side device).1
    changed.keeping)
  unfold setDeviceAt
  simp only
  cases came : (h.exchange side device).2.2.forEach (announce run .detach)
      (h.exchange side device).1 with
  | mk left after =>
    rw [came] at detached
    cases left with
    | error how => exact detached
    | ok =>
      exact detached.trans (forEach_keeps
        (fun keeping known => announce_keeps runs .attach keeping known) _ detached.keeping)

theorem perform_keeps (command : Command) (keeping : Keeping d h) :
    Keeps d h (h.perform run command).2 := by
  cases command with
  | set side device => exact setDeviceAt_keeps runs keeping side device
  | start =>
    have linked : Keeps d h h.linkAll.2 := keeping.after (c := .linkAll) trivial
    exact linked.trans
      (forEach_keeps (fun keeping known => pass_keeps runs .attach keeping known) _ linked.keeping)
  | stop =>
    have unlinked : Keeps d h h.unlinkAll.2 := keeping.after (c := .unlinkAll) trivial
    exact unlinked.trans (forEach_keeps
      (fun keeping known => pass_keeps runs .detach keeping known) _ unlinked.keeping)

end Runner

/-- By induction on the bound on nested runs. -/
theorem run_keeps (d : DeviceId) (depth : Nat) : Runs d (Program.run depth) := by
  induction depth with
  | zero =>
    refine ⟨fun body device access h differs keeping known keeps => ?_, fun _ _ => rfl⟩
    show Keeps d h (body.exec Nested.none h).2
    exact exec_keeps (fun _ _ keeping => keeping.refl) differs body h keeping known keeps
  | succ n ih =>
    refine ⟨fun body device access h differs keeping known keeps => ?_, fun _ _ => rfl⟩
    show Keeps d h (body.exec (Nested.of (Program.run n)) h).2
    exact exec_keeps (fun c _ keeping => perform_keeps ih c keeping) differs body h keeping known
      keeps

namespace Keeping

/-- Before anything is installed. -/
theorem start (fresh : h.Fresh) (empty : h.files.mounts = [])
    (idle : ∀ d r, h.record? d = some r → r.access = none ∧ r.path = none)
    (housed : Housed d h) : Keeping d h := by
  have unused (id : AccessId) : h.deviceOf id = none := by
    unfold deviceOf access?
    rw [fresh.accesses]
    rfl
  refine ⟨⟨Past.none, .start (Records.fresh fresh empty) (fun id same => ?_) (idle d)⟩,
    fun d r id found connected => ?_, housed⟩
  · rw [unused] at same
    cases same
  · rw [(idle d r found).1] at connected
    cases connected

theorem perform (keeping : Keeping d h) (depth : Nat) (command : Command) :
    Keeping d (h.perform (Program.run depth) command).2 :=
  (perform_keeps (run_keeps d depth) command keeping).keeping

theorem ejectDisk (keeping : Keeping d h) (other : DeviceId) :
    Keeping d (h.ejectDisk other).2 := by
  rw [← deviceRequest_eject]
  exact (keeping.after (c := .ask (.device other .eject)) trivial).keeping

/-- A disk is put into the drive, or into another one. -/
theorem insertDisk (keeping : Keeping d h) (other : DeviceId) (disk : Disk) :
    Keeping d (h.insertDisk other disk).2 := by
  obtain ⟨tends, wired, housed⟩ := keeping
  obtain ⟨leases, records⟩ := tends.records
  refine ⟨?_, wired.insertDisk records disk, housed.same (insertDisk_served h other disk).devices⟩
  by_cases mine : other = d
  · subst mine
    obtain ⟨past, tended⟩ := tends
    exact ⟨_, tended.insert disk⟩
  · exact tends.aside (.insertDisk wired records mine disk)

end Keeping

end Host

end DeviceBridge
