import DeviceBridge.Host.Services

/-
  What answering a request leaves alone. Services and device operations may queue events, write into
  the log, the journal and the ledger, change the file system, the mounts that an access holds and
  the states of devices. `answer_served`: the task queue, the slots and the links, what devices are
  and what they run, and the generators stay as they were, and no event is taken out of the queue.
-/

namespace DeviceBridge

/-- An access without what it has mounted. -/
def Access.withoutMounts (a : Access) : Access := { a with mounts := [] }

/-- A device without its state. -/
def Device.withoutState (d : Device) : Device := { d with state := .stateless }

namespace Host

/-- What may come of a host by answering requests. -/
structure Served (h h' : Host) : Prop where
  computerId : h'.computerId = h.computerId
  logsHostErrors : h'.logsHostErrors = h.logsHostErrors
  events : h.events <+: h'.events
  tasks : h'.tasks = h.tasks
  slots : h'.slots = h.slots
  running : h'.running = h.running
  accesses : h'.accesses.map Access.withoutMounts = h.accesses.map Access.withoutMounts
  devices : h'.devices.map Device.withoutState = h.devices.map Device.withoutState
  sources : h'.sources = h.sources
  scriptMethods : h'.scriptMethods = h.scriptMethods
  deviceMethods : h'.deviceMethods = h.deviceMethods

namespace Served

theorem refl (h : Host) : Served h h :=
  ⟨rfl, rfl, List.prefix_rfl, rfl, rfl, rfl, rfl, rfl, rfl, rfl, rfl⟩

theorem trans {a b c : Host} (ab : Served a b) (bc : Served b c) : Served a c :=
  ⟨bc.computerId.trans ab.computerId, bc.logsHostErrors.trans ab.logsHostErrors,
    ab.events.trans bc.events, bc.tasks.trans ab.tasks, bc.slots.trans ab.slots,
    bc.running.trans ab.running, bc.accesses.trans ab.accesses, bc.devices.trans ab.devices,
    bc.sources.trans ab.sources, bc.scriptMethods.trans ab.scriptMethods,
    bc.deviceMethods.trans ab.deviceMethods⟩

/-! ## The small changes -/

theorem write (h : Host) (level : LogLevel) (text : String) : Served h (h.write level text) :=
  ⟨rfl, rfl, List.prefix_rfl, rfl, rfl, rfl, rfl, rfl, rfl, rfl, rfl⟩

theorem writeAll (h : Host) (lines : List LogLine) : Served h (h.writeAll lines) :=
  ⟨rfl, rfl, List.prefix_rfl, rfl, rfl, rfl, rfl, rfl, rfl, rfl, rfl⟩

theorem note (h : Host) (text : String) : Served h (h.note text) :=
  ⟨rfl, rfl, List.prefix_rfl, rfl, rfl, rfl, rfl, rfl, rfl, rfl, rfl⟩

theorem queueEvent (h : Host) (name : String) (args : List Value) :
    Served h (h.queueEvent name args) :=
  ⟨rfl, rfl, List.prefix_append _ _, rfl, rfl, rfl, rfl, rfl, rfl, rfl, rfl⟩

theorem enter (h : Host) (task : TaskId) (left : Except MethodError (List Value)) :
    Served h (h.enter task left) :=
  ⟨rfl, rfl, List.prefix_rfl, rfl, rfl, rfl, rfl, rfl, rfl, rfl, rfl⟩

theorem setFiles (h : Host) (files : FileSystem) : Served h { h with files } :=
  ⟨rfl, rfl, List.prefix_rfl, rfl, rfl, rfl, rfl, rfl, rfl, rfl, rfl⟩

/-- A change of an access that touches only its mounts. -/
theorem modifyAccess (h : Host) (id : AccessId) (f : Access → Access)
    (keeps : ∀ a, (f a).withoutMounts = a.withoutMounts) : Served h (h.modifyAccess id f) := by
  refine ⟨rfl, rfl, List.prefix_rfl, rfl, rfl, rfl, ?_, rfl, rfl, rfl, rfl⟩
  simp only [Host.modifyAccess, List.map_map]
  refine List.map_congr_left fun a _ => ?_
  by_cases found : a.id = id
  · simp [found, keeps]
  · simp [found]

theorem setState (h : Host) (id : DeviceId) (state : DeviceState) :
    Served h (h.setState id state) := by
  simp only [Host.setState]
  split
  · next d found =>
      refine ⟨rfl, rfl, List.prefix_rfl, rfl, rfl, rfl, rfl, ?_, rfl, rfl, rfl⟩
      obtain ⟨inside, rfl⟩ := List.getElem?_eq_some_iff.mp found
      have inside : id.number < (h.devices.map Device.withoutState).length := by simpa
      have same : Device.withoutState { h.devices[id.number] with state } =
          (h.devices.map Device.withoutState)[id.number] := by simp [Device.withoutState]
      rw [setDevice, List.map_set, same, List.set_getElem_self]
  · exact refl h

end Served

/-! ## Mounts -/

theorem newVolume_served (h : Host) (files : List (String × Bytes)) :
    Served h (h.newVolume files).2 :=
  (Served.writeAll h _).trans (Served.setFiles _ _)

theorem mountFor_served (h : Host) (id : AccessId) (location : String) (backing : Backing)
    (drive : String) : Served h (h.mountFor id location backing drive).2 := by
  simp only [mountFor]
  split
  · exact Served.refl h
  · split
    · exact Served.refl h
    · split
      · exact Served.refl h
      · exact (Served.setFiles h _).trans (Served.modifyAccess _ _ _ fun _ => rfl)

theorem unmountFor_served (h : Host) (id : AccessId) (location : String) :
    Served h (h.unmountFor id location).2 := by
  simp only [unmountFor]
  split
  · exact Served.refl h
  · split
    · exact Served.refl h
    · split
      · refine Served.trans ?_ (Served.setFiles _ _)
        exact Served.modifyAccess h id _ fun _ => rfl
      · exact Served.refl h

theorem unmountAll_served (h : Host) (id : AccessId) : Served h (h.unmountAll id) := by
  simp only [unmountAll]
  split
  · exact Served.refl h
  · exact (Served.setFiles h _).trans (Served.modifyAccess _ _ _ fun _ => rfl)

/-! ## Services -/

theorem serve_served (h : Host) (id : AccessId) (service : Service) :
    Served h (h.serve id service).2 := by
  cases service with
  | mount writable location files drive =>
    have mounted := (newVolume_served h files).trans (mountFor_served _ id location
      (if writable then .writable (h.newVolume files).1
        else .readOnly (.volume (h.newVolume files).1)) drive)
    simp only [serve]
    split <;> simp_all
  | unmount location =>
    have unmounted := unmountFor_served h id location
    simp only [serve]
    split <;> simp_all
  | queueEvent name args =>
    simp only [serve]
    split
    · exact Served.queueEvent h name args
    · exact Served.refl h
  | mounted | isAttached | computerId | attachmentName | available | availableAt _ =>
    exact Served.refl h

/-! ## Devices -/

theorem mountDisk_served (access : AccessId) (disk : Disk) (locations : List String) :
    ∀ h : Host, Served h (h.mountDisk access disk locations).2 := by
  induction locations with
  | nil => exact Served.refl
  | cons location rest ih =>
    intro h
    have mounted := mountFor_served h access location (.writable disk.contents) "disk"
    simp only [mountDisk]
    split <;> rename_i found <;> rw [found] at mounted
    · exact mounted.trans (Served.write _ _ _)
    · exact mounted.trans (ih _)
    · exact mounted

theorem mountDrive_served (h : Host) (id : DeviceId) (s : DriveState) (access : AccessId) :
    Served h (h.mountDrive id s access) := by
  simp only [mountDrive]
  split
  · exact Served.setState h id _
  · exact (mountDisk_served access _ Drive.locations h).trans (Served.setState _ id _)

theorem driveEvent_served (h : Host) (access : AccessId) (name : String) :
    Served h (h.driveEvent access name) := serve_served h access _

theorem ejectDisk_served (h : Host) (id : DeviceId) : Served h (h.ejectDisk id).2 := by
  simp only [ejectDisk]
  split
  · exact Served.refl h
  · next s _ =>
    split
    · exact Served.refl h
    · split
      · exact Served.setState h id _
      · next access _ =>
        refine Served.trans ?_ (driveEvent_served _ access _)
        have emptied := Served.setState h id (.drive { s with disk := none, mountPath := none })
        generalize h.setState id _ = h₁ at emptied ⊢
        split
        · exact emptied
        · next path _ =>
          have unmounted := unmountFor_served h₁ access path
          split <;> rename_i found <;> rw [found] at unmounted
          · exact emptied.trans unmounted
          · exact (emptied.trans unmounted).trans (Served.write _ _ _)

/-- A request changes the speaker or the drive that it goes to, or nothing. -/
theorem deviceRequest_cases (h : Host) (id : DeviceId) (request : DeviceRequest) :
    (h.deviceRequest id request).2 = h ∨
    (∃ played more, h.state? id = some (.speaker played) ∧
      (h.deviceRequest id request).2 = h.setState id (.speaker more)) ∨
    ∃ s, h.state? id = some (.drive s) ∧
      ((∃ label, request = .setDiskLabel label ∧ (h.deviceRequest id request).2 =
        h.setState id (.drive { s with disk := s.disk.map fun disk => { disk with label } })) ∨
      (request = .disconnect ∧ (h.deviceRequest id request).2 =
        h.setState id (.drive { s with access := none, mountPath := none })) ∨
      (request = .eject ∧ (h.deviceRequest id request).2 = (h.ejectDisk id).2) ∨
      ∃ access, request = .connect access ∧ (h.deviceRequest id request).2 =
        h.mountDrive id { s with access := some access } access) := by
  unfold deviceRequest
  split
  · next played found =>
    cases request with
    | play | clearSounds => exact .inr (.inl ⟨played, _, found, rfl⟩)
    | _ => exact .inl rfl
  · next s found =>
    cases request with
    | setDiskLabel label => exact .inr (.inr ⟨s, found, .inl ⟨label, rfl, rfl⟩⟩)
    | disconnect => exact .inr (.inr ⟨s, found, .inr (.inl ⟨rfl, rfl⟩)⟩)
    | eject => exact .inr (.inr ⟨s, found, .inr (.inr (.inl ⟨rfl, rfl⟩))⟩)
    | connect access => exact .inr (.inr ⟨s, found, .inr (.inr (.inr ⟨access, rfl, rfl⟩))⟩)
    | _ => exact .inl rfl
  · exact .inl rfl
  · exact .inl rfl
  · exact .inl rfl

theorem deviceRequest_served (h : Host) (id : DeviceId) (request : DeviceRequest) :
    Served h (h.deviceRequest id request).2 := by
  rcases deviceRequest_cases h id request with same | ⟨_, _, -, same⟩ |
    ⟨s, -, ⟨_, -, same⟩ | ⟨-, same⟩ | ⟨-, same⟩ | ⟨access, -, same⟩⟩ <;> rw [same]
  · exact Served.refl h
  · exact Served.setState h id _
  · exact Served.setState h id _
  · exact Served.setState h id _
  · exact ejectDisk_served h id
  · exact mountDrive_served h id _ access

theorem answer_served (h : Host) (request : Request) : Served h (h.answer request).2 := by
  cases request with
  | note text => exact Served.note h text
  | queueEvent name args => exact Served.queueEvent h name args
  | enter task left => exact Served.enter h task left
  | computerId | slot _ => exact Served.refl h
  | service id service => exact serve_served h id service
  | device id request => exact deviceRequest_served h id request

end Host

end DeviceBridge
