import DeviceBridge.Proofs.Drives.Runs
import DeviceBridge.Proofs.Generator.Redirection
import DeviceBridge.Proofs.Generator.Simplicity
import DeviceBridge.Proofs.Host.Queues
import DeviceBridge.Proofs.Registry.Reseating
import DeviceBridge.Proofs.Registry.Restraint

/-
  A drive that nothing is hidden from. It is connected through a known access, that access has
  mounted nothing but what the drive keeps, and no other access of the drive has mounted anything
  (`Poised`). As long as the hooks of all devices and the tasks that wait keep to their own, this
  lasts over all that is done elsewhere, one change after the other (`Poised.stays`), also over
  hooks and tasks (`Poised.foreignHook`, `Poised.errand`).
-/

namespace DeviceBridge

/-- A request that concerns only the device itself and its own access, as far as it mounts,
unmounts, connects or disconnects anything. -/
def Request.Discreet (device : DeviceId) (access : AccessId) (request : Request) : Prop :=
  request.KeepsTo device access ∧ ∀ other, request = .device other .disconnect → other = device

namespace Drive

/-- The method by which scripts have a disk ejected. -/
def ejectMethod : MethodDecl := (asking 26 "ejectDisk" .unit .eject).onMainThread

end Drive

namespace Host

variable {d other : DeviceId} {h h' : Host} {body : Code}

/-! ## Tasks and hooks -/

/-- What the main thread may have to do: a call of the method that ejects a disk, of any drive, the
report of a task, or code of another device. -/
inductive Errand (d : DeviceId) (h : Host) : Code → Prop where
  | eject (other : DeviceId) {contexts : List HostType} {t : Trampoline}
      (adapted : Drive.ejectMethod.adapter? contexts = some t.adapter) (values : List HostObject)
      (args : Arguments) : Errand d h
        (Code.withoutSuspending cannotSuspend (t.direct (.device .drive other) values args))
  | report (id : TaskId) (left : Except MethodError (List Value)) :
    Errand d h (Completion.report id left)
  | foreign {device : DeviceId} {access : AccessId} {body : Code} (differs : device ≠ d)
      (known : h.deviceOf access = some device) (asks : body.Asks (·.Discreet device access)) :
      Errand d h body

theorem Errand.later (errand : Errand d h body) (owners : SameOwners h h') :
    Errand d h' body := by
  cases errand with
  | eject other adapted values args => exact .eject other adapted values args
  | report id left => exact .report id left
  | foreign differs known asks => exact .foreign differs (owners _ _ known) asks

/-- What may wait for the main thread: all that comes of a task is an errand. -/
structure Errands (d : DeviceId) (h : Host) (completion : Completion) (body : Code) : Prop where
  body : Errand d h body
  completion : ∀ id left, Errand d h (completion id left)

theorem Errands.later {completion : Completion} (errands : Errands d h completion body)
    (owners : SameOwners h h') : Errands d h' completion body :=
  ⟨errands.body.later owners, fun id left => (errands.completion id left).later owners⟩

/-- The task of a call does nothing but eject the disk. -/
theorem run_eject {contexts : List HostType} {t : Trampoline}
    (adapted : Drive.ejectMethod.adapter? contexts = some t.adapter) (values : List HostObject)
    (args : Arguments) (depth : Nat) (h : Host) :
    ((Code.withoutSuspending cannotSuspend
      (t.direct (.device .drive other) values args)).run depth h).2 = (h.ejectDisk other).2 := by
  obtain ⟨binders, route, bound, -, same⟩ := MethodDecl.adapter?_eq_some adapted
  have none : t.binders = [] := by
    cases bound
    exact congrArg Adapter.binders same
  have direct : t.direct (.device .drive other) values args =
      Drive.ejectMethod.body ⟨.device .drive other, []⟩ := by
    unfold Trampoline.direct
    rw [none, show t.body = Drive.ejectMethod.body from congrArg Adapter.body same]
    rfl
  have wrapped : Drive.ejectMethod.body ⟨.device .drive other, []⟩ =
      Returns.unit.wrap (Code.relay (.device other .eject)) := rfl
  have plain : Returns.unit.kind ≠ .outcome := nofun
  rw [Code.run_withoutSuspending, direct, wrapped, Returns.run_wrap plain, ← deviceRequest_eject]
  have relayed (nested : Nested) : ((Code.relay (.device other .eject)).exec nested h).2 =
      (h.deviceRequest other .eject).2 := by
    unfold Code.relay Code.exec
    simp only
    split <;> rfl
  cases depth <;> exact relayed _

/-- The drive has the hooks of a drive, and all devices keep to their own in their hooks. -/
structure Hosted (d : DeviceId) (h : Host) : Prop where
  attach : ∀ x, h.device? d = some x → x.attach = (Drive.new none).attach
  detach : ∀ x, h.device? d = some x → x.detach = (Drive.new none).detach
  discreet : ∀ x ∈ h.devices, ∀ (t : Transition) device access,
    (t.hook x device access).Asks (·.Discreet device access)

namespace Hosted

theorem same (hosted : Hosted d h) (same : SameDevices h h') : Hosted d h' := by
  refine ⟨fun x found => ?_, fun x found => ?_, fun x inside t device access => ?_⟩
  · obtain ⟨x₀, there, alike⟩ := same.found found
    exact (congrArg Device.attach alike).symm.trans (hosted.attach x₀ there)
  · obtain ⟨x₀, there, alike⟩ := same.found found
    exact (congrArg Device.detach alike).symm.trans (hosted.detach x₀ there)
  · obtain ⟨x₀, there, hooks⟩ := same.hook inside
    rw [hooks t]
    exact hosted.discreet x₀ there t device access

theorem quiet (hosted : Hosted d h) (depth : Nat) : QuietHooks depth h :=
  modest_quiet depth fun x inside t device access =>
    (hosted.discreet x inside t device access).modest

theorem hook (hosted : Hosted d h) {x : Device} (found : h.device? d = some x) (t : Transition)
    (id : AccessId) : t.hook x d id = Code.tell (.device d (askedIn t id)) :=
  hook_of_drive (hosted.attach x found) (hosted.detach x found) t id

end Hosted

/-- Only one kind of change makes tasks wait. -/
theorem waiting_after {c : Change} {t : Task} (waits : t ∈ (h.after c).tasks.waiting) :
    t ∈ h.tasks.waiting ∨ c = .enqueue t.completion t.body := by
  have same (tasks : (h.after c).tasks = h.tasks) : t ∈ h.tasks.waiting := by rwa [tasks] at waits
  cases c with
  | ask request => exact .inl (same (answer_served h request).tasks)
  | write | queueEvent => exact .inl waits
  | exchange side device => exact .inl (same (Rearranged.exchange h side device).tasks)
  | linkAll => exact .inl (same (Rearranged.linkAll h).tasks)
  | unlinkAll => exact .inl (same (Rearranged.unlinkAll h).tasks)
  | close id => exact .inl (same (unmountAll_served h id).tasks)
  | enqueue completion body =>
    have waits : t ∈ (h.tasks.enqueue completion body).2.waiting := waits
    rcases h.tasks.enqueue_cases completion body with ⟨e, refused, -⟩ | ⟨-, queued⟩
    · rw [refused] at waits
      exact .inl waits
    · rw [queued] at waits
      rcases List.mem_append.mp waits with old | new
      · exact .inl old
      · rw [List.mem_singleton.mp new]
        exact .inr rfl

/-- The tasks that wait are errands still, if a new one is. -/
theorem errands_after (errands : ∀ t ∈ h.tasks.waiting, Errands d h t.completion t.body)
    {c : Change}
    (queues : ∀ completion body, c = .enqueue completion body → Errands d h completion body) :
    ∀ t ∈ (h.after c).tasks.waiting, Errands d (h.after c) t.completion t.body := by
  intro t waits
  have owners := SameOwners.kept.after h c
  rcases waiting_after waits with old | rfl
  · exact (errands t old).later owners
  · exact (queues t.completion t.body rfl).later owners

/-! ## A drive without secrets -/

/-- All locations of a disk were taken on a host. -/
def Crowded (host : Option Host) : Prop :=
  ∃ h, host = some h ∧ ∀ location ∈ Drive.locations, h.Taken location

/-- A drive is connected through an access, or through none; all that its accesses have mounted is
what it keeps; and if its disk was refused, then on the host `seen` on which it was last to be
mounted all locations were taken. -/
structure Poised (d : DeviceId) (seat : Option AccessId) (seen : Option Host) (h : Host) :
    Prop where
  tended : ∃ past, Tended d past h ∧ past.connected = seat ∧ (∀ id m, ¬past.overlooked id m) ∧
    (past.refused → Crowded seen)
  own : ∀ id, seat = some id → h.deviceOf id = some d
  wired : h.Wired
  hosted : Hosted d h
  errands : ∀ t ∈ h.tasks.waiting, Errands d h t.completion t.body

namespace Poised

variable {seat seat' : Option AccessId} {seen : Option Host} (poised : Poised d seat seen h)
include poised

theorem records : ∃ leases, Records h leases := by
  obtain ⟨past, tended, -⟩ := poised.tended
  exact tended.minds.leased

/-- Something goes on aside of the drive that makes no tasks wait. -/
theorem aside (aside : Aside d h h') (wired : h'.Wired) (devices : SameDevices h h')
    (waiting : ∀ t ∈ h'.tasks.waiting, t ∈ h.tasks.waiting) : Poised d seat seen h' := by
  obtain ⟨past, tended, connected, known, refused⟩ := poised.tended
  exact ⟨⟨_, tended.aside aside, connected, fun id m lost => known id m lost.1, refused⟩,
    fun id mine => aside.owners id d (poised.own id mine), wired, poised.hosted.same devices,
    fun t waits => (poised.errands t (waiting t waits)).later aside.owners⟩

/-- A change that does not concern the drive. -/
theorem stays {c : Change} (minding : Minding d h c) (stays : ¬Turning d c)
    (queues : ∀ completion body, c = .enqueue completion body → Errands d h completion body) :
    Poised d seat seen (h.after c) := by
  obtain ⟨past, tended, connected, known, refused⟩ := poised.tended
  obtain ⟨leases, records⟩ := poised.records
  exact ⟨⟨_, tended.stays poised.wired minding stays, connected,
    fun id m lost => known id m lost.1, refused⟩,
    fun id mine => SameOwners.kept.after h c id d (poised.own id mine),
    poised.wired.after records minding, poised.hosted.same (SameDevices.kept.after h c),
    errands_after poised.errands queues⟩

end Poised

/-! ## Code of other devices -/

/-- A change that another device makes in keeping to its own. -/
theorem Poised.foreignChange {seat : Option AccessId} {seen : Option Host}
    (poised : Poised d seat seen h) {device : DeviceId} {access : AccessId} (differs : device ≠ d)
    (known : h.deviceOf access = some device) {c : Change}
    (fits : c.Fits (·.Discreet device access)) : Poised d seat seen (h.after c) := by
  refine poised.stays ?_ ?_ fun completion body same => ?_
  · cases c with
    | ask request => exact minding_of_keepsTo known differs fits.1
    | close id => exact fits.elim
    | _ => trivial
  · intro turning
    unfold Turning at turning
    split at turning
    · subst turning
      exact differs fits.1.1.symm
    · subst turning
      exact differs (fits.2 _ rfl).symm
    · exact turning
  · subst same
    exact ⟨.foreign differs known fits.2, fun id left => .foreign differs known (fits.1 id left)⟩

/-- By induction on the changes. -/
theorem Poised.foreignReplay {seat : Option AccessId} {seen : Option Host} {device : DeviceId}
    {access : AccessId} (differs : device ≠ d) (changes : List Change) : ∀ {h : Host},
    Poised d seat seen h → h.deviceOf access = some device →
      (∀ c ∈ changes, c.Fits (·.Discreet device access)) →
        Poised d seat seen (h.replay changes) := by
  induction changes with
  | nil => exact fun poised _ _ => poised
  | cons c rest ih =>
    intro h poised known fits
    obtain ⟨here, later⟩ := List.forall_mem_cons.mp fits
    exact ih (poised.foreignChange differs known here)
      (SameOwners.kept.after h c access device known) later

namespace Poised

variable {seat seat' : Option AccessId} {seen : Option Host} (poised : Poised d seat seen h)
include poised

theorem foreignRun {device : DeviceId} {access : AccessId} (differs : device ≠ d)
    (known : h.deviceOf access = some device) (asks : body.Asks (·.Discreet device access))
    (depth : Nat) : Poised d seat seen (body.run depth h).2 := by
  have ran : (body.run depth h).2 = h.replay (Program.changes depth body h) :=
    Program.replay_changes depth body h
  rw [ran]
  exact foreignReplay differs _ poised known (Program.changes_fit depth asks h)

theorem eject (other : DeviceId) : Poised d seat seen (h.ejectDisk other).2 := by
  rw [← deviceRequest_eject]
  exact poised.stays (c := .ask (.device other .eject)) trivial id nofun

/-- The hook of another device. -/
theorem foreignHook {t : Transition} {a : Access} (known : h.deviceOf a.id = some a.device)
    (differs : a.device ≠ d) (depth : Nat) :
    Poised d seat seen (h.runHook (Program.run depth) t a).2 := by
  unfold runHook
  cases found : h.device? a.device with
  | none => exact poised
  | some x =>
    have asks := poised.hosted.discreet x (List.mem_of_getElem? found) t a.device a.id
    have ran : Poised d seat seen (Program.run depth (t.hook x a.device a.id) h).2 :=
      poised.foreignRun differs known asks depth
    simp only
    unfold afterHook
    split <;> rename_i came <;> rw [came] at ran
    · exact ran.stays (c := .write .error _) trivial id nofun
    · exact ran
    · exact ran

theorem errand (errand : Errand d h body) (depth : Nat) :
    Poised d seat seen (body.run depth h).2 := by
  cases errand with
  | eject other adapted values args =>
    rw [run_eject adapted]
    exact poised.eject other
  | report number left =>
    have told : Poised d seat seen (h.after (.ask (.queueEvent taskCompleteEvent
        (Completion.account number left)))) := poised.stays trivial id nofun
    cases depth <;> exact told
  | foreign differs known asks => exact poised.foreignRun differs known asks depth

/-! ## What the accesses carry -/

/-- What is mounted through the accesses of a drive is mounted through the one that it keeps. -/
theorem carried {id : AccessId} (own : h.deviceOf id = some d) {m : MountPoint}
    (carries : h.Carries id m) : seat = some id ∧ h.Recorded d id m.location := by
  obtain ⟨past, tended, connected, known, -⟩ := poised.tended
  have recorded : h.Recorded d id m.location := by
    by_contra unkept
    exact known id m ((tended.minds.overlooked id m).mpr ⟨own, carries, unkept⟩)
  refine ⟨?_, recorded⟩
  obtain ⟨r, there, mine, -⟩ := recorded
  exact connected.symm.trans ((tended.minds.connected r there).symm.trans mine)

/-- The drive is connected through the access that it keeps. -/
theorem access {r : DriveRecord} (there : h.record? d = some r) : r.access = seat := by
  obtain ⟨past, tended, connected, -⟩ := poised.tended
  exact (tended.minds.connected r there).trans connected

end Poised

end DeviceBridge.Host
