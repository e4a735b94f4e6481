import DeviceBridge.Proofs.Host.Run

/-
  What a change of the slot table leaves alone. Claims, installs and closings touch the slots, the
  running flag, the accesses, the generator for devices and the log, and nothing else
  (`Rearranged`). `Kept.ofRearranged`: a relation that a run is to keep need only be checked for
  services, for new tasks and for such changes.
-/

namespace DeviceBridge.Host

/-- What is found under an identity has it. -/
theorem access?_id {h : Host} {id : AccessId} {a : Access} (found : h.access? id = some a) :
    a.id = id := by
  have chosen := List.find?_some found
  exact of_decide_eq_true chosen

/-- What may come of a host by changing its slot table. -/
structure Rearranged (h h' : Host) : Prop where
  computerId : h'.computerId = h.computerId
  logsHostErrors : h'.logsHostErrors = h.logsHostErrors
  events : h'.events = h.events
  tasks : h'.tasks = h.tasks
  ledger : h'.ledger = h.ledger
  files : h'.files = h.files
  devices : h'.devices = h.devices
  sources : h'.sources = h.sources
  scriptMethods : h'.scriptMethods = h.scriptMethods
  journal : h'.journal = h.journal

namespace Rearranged

theorem refl (h : Host) : Rearranged h h := ⟨rfl, rfl, rfl, rfl, rfl, rfl, rfl, rfl, rfl, rfl⟩

theorem trans {a b c : Host} (ab : Rearranged a b) (bc : Rearranged b c) : Rearranged a c :=
  ⟨bc.computerId.trans ab.computerId, bc.logsHostErrors.trans ab.logsHostErrors,
    bc.events.trans ab.events, bc.tasks.trans ab.tasks, bc.ledger.trans ab.ledger,
    bc.files.trans ab.files, bc.devices.trans ab.devices, bc.sources.trans ab.sources,
    bc.scriptMethods.trans ab.scriptMethods, bc.journal.trans ab.journal⟩

theorem setSlot (h : Host) (side : Side) (id : Option AccessId) :
    Rearranged h (h.setSlot side id) :=
  ⟨rfl, rfl, rfl, rfl, rfl, rfl, rfl, rfl, rfl, rfl⟩

theorem setRunning (h : Host) (running : Bool) : Rearranged h { h with running } :=
  ⟨rfl, rfl, rfl, rfl, rfl, rfl, rfl, rfl, rfl, rfl⟩

theorem modifyAccess (h : Host) (id : AccessId) (f : Access → Access) :
    Rearranged h (h.modifyAccess id f) :=
  ⟨rfl, rfl, rfl, rfl, rfl, rfl, rfl, rfl, rfl, rfl⟩

/-! ## Claims -/

theorem link (h : Host) (id : AccessId) : Rearranged h (h.link id).2 := by
  unfold Host.link
  split
  · exact refl h
  · split
    · exact refl h
    · exact modifyAccess h id _

theorem unlink (h : Host) (id : AccessId) : Rearranged h (h.unlink id).2 := by
  unfold Host.unlink
  split
  · exact refl h
  · split
    · exact modifyAccess h id _
    · exact refl h

theorem claim {transition : Host → AccessId → Bool × Host}
    (each : ∀ h id, Rearranged h (transition h id).2) (ids : List AccessId) :
    ∀ h : Host, Rearranged h (h.claim transition ids).2 := by
  induction ids with
  | nil => exact refl
  | cons id rest ih =>
    intro h
    exact (each h id).trans (ih _)

theorem linkAll (h : Host) : Rearranged h h.linkAll.2 :=
  (setRunning h true).trans (claim link _ _)

theorem unlinkAll (h : Host) : Rearranged h h.unlinkAll.2 :=
  (setRunning h false).trans (claim unlink _ _)

/-! ## Exchanges -/

theorem install (h : Host) (side : Side) (id : DeviceId) :
    Rearranged h (h.install side id).2 := by
  unfold Host.install
  split
  · exact refl h
  · exact ⟨rfl, rfl, rfl, rfl, rfl, rfl, rfl, rfl, rfl, rfl⟩

theorem replace (h : Host) (side : Side) (new : Option AccessId) :
    Rearranged h (h.replace side new).2.2 := by
  have detached := claim unlink (h.slots side).toList h
  have changed := detached.trans (setSlot _ side new)
  unfold Host.replace
  simp only
  split
  · exact changed.trans (claim link new.toList _)
  · exact changed

theorem exchange (h : Host) (side : Side) (device : Option DeviceId) :
    Rearranged h (h.exchange side device).2.2 := by
  cases device with
  | none => exact replace h side none
  | some id => exact (install h side id).trans (replace _ side _)

end Rearranged

/-- A relation that allows any change of the slot table is kept if services and new tasks keep
it. -/
theorem Kept.ofRearranged {R : Host → Host → Prop}
    (trans : ∀ {a b c : Host}, R a b → R b c → R a c)
    (served : ∀ {a b : Host}, Served a b → R a b)
    (enqueue : ∀ (h : Host) (completion : Completion) (body : Code),
      R h (h.enqueue completion body).2)
    (rearranged : ∀ {a b : Host}, Rearranged a b → R a b) : Kept R where
  trans := trans
  served := served
  enqueue := enqueue
  exchange h side device := rearranged (Rearranged.exchange h side device)
  linkAll h := rearranged (Rearranged.linkAll h)
  unlinkAll h := rearranged (Rearranged.unlinkAll h)
  close h id := by
    have unmounted := served (unmountAll_served h id)
    exact trans unmounted (rearranged (Rearranged.modifyAccess _ id _))

end DeviceBridge.Host
