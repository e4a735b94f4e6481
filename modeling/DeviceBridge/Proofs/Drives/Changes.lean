import DeviceBridge.Proofs.Drives.Memory

/-
  Single changes as a drive sees them. A change is either one of its own, attach, detach or eject,
  or goes on aside of it, as long as nobody mounts or unmounts through its accesses, drives are
  connected through accesses of their own, and no access is closed while the drive is connected
  through it (`Minding`). Then a run of the drive goes on over every change (`Tends.after`); nothing
  is lost sight of but by changes that attach or detach the drive (`Tended.stays`).
-/

namespace DeviceBridge.Host

variable {d other : DeviceId} {h h' : Host} {s : DriveState}

/-- Drives are connected through accesses of their own. -/
def Wired (h : Host) : Prop :=
  ∀ d r id, h.record? d = some r → r.access = some id → h.deviceOf id = some d

/-- What a change has to mind for the sake of a drive. -/
def Minding (d : DeviceId) (h : Host) : Change → Prop
  | .ask (.service id (.mount ..)) => h.deviceOf id ≠ some d
  | .ask (.service id (.unmount _)) => h.deviceOf id ≠ some d
  | .ask (.device other (.connect id)) => h.deviceOf id = some other
  | .close id => ∀ r, h.record? d = some r → r.access ≠ some id
  | _ => True

/-- A change attaches or detaches a drive. -/
def Turning (d : DeviceId) : Change → Prop
  | .ask (.device other (.connect _)) => other = d
  | .ask (.device other .disconnect) => other = d
  | _ => False

/-! ## Changes aside of a drive -/

theorem serve_mount (h : Host) (id : AccessId) (writable : Bool) (location : String)
    (files : List (String × Bytes)) (drive : String) :
    (h.serve id (.mount writable location files drive)).2 =
      ((h.newVolume files).2.mountFor id location (if writable then .writable (h.newVolume files).1
        else .readOnly (.volume (h.newVolume files).1)) drive).2 := by
  unfold serve
  simp only
  split <;> rename_i came <;> rw [came]

theorem serve_unmount (h : Host) (id : AccessId) (location : String) :
    (h.serve id (.unmount location)).2 = (h.unmountFor id location).2 := by
  unfold serve
  simp only
  split <;> rename_i came <;> rw [came]

theorem close_devices (h : Host) (id : AccessId) : (h.close id).devices = h.devices := by
  show (h.unmountAll id).devices = _
  unfold unmountAll
  split <;> rfl

namespace Aside

theorem trans {a b c : Host} (ab : Aside d a b) (bc : Aside d b c) : Aside d a c := by
  refine ⟨ab.follows.trans bc.follows, bc.record.trans ab.record, ab.owners.trans bc.owners,
    fun id m mine carries => ?_, fun id m recorded carries => ?_⟩
  · have before := bc.fewer id m mine carries
    obtain ⟨e, known⟩ := before.known
    have owner := bc.owners id e known
    rw [mine] at owner
    cases owner
    exact ab.fewer id m known before
  · exact bc.kept id m ((Minds.recorded_congr ab.record id m.location).mpr recorded)
      (ab.kept id m recorded carries)

/-- What the accesses of the drive carry is the same. -/
theorem ofCarries (wired : h.Wired) (follows : Follows h h') (record : h'.record? d = h.record? d)
    (owners : ∀ id, h'.deviceOf id = h.deviceOf id)
    (same : ∀ id m, h.deviceOf id = some d → (h'.Carries id m ↔ h.Carries id m)) :
    Aside d h h' := by
  refine ⟨follows, record, .ofEq owners, fun id m mine => ?_, fun id m recorded => ?_⟩
  · rw [owners] at mine
    exact (same id m mine).mp
  · obtain ⟨r, found, connected, -⟩ := recorded
    exact (same id m (wired d r id found connected)).mpr

theorem mountFor (wired : h.Wired) {leases : List Lease} (records : Records h leases)
    {id : AccessId} (others : h.deviceOf id ≠ some d) (location drive : String)
    (backing : Backing) : Aside d h (h.mountFor id location backing drive).2 := by
  refine .ofCarries wired (Follows.mountFor h id location backing drive)
    (record?_congr (mountFor_devices h id location drive backing) d)
    (deviceOf_served (mountFor_served h id location backing drive)) fun id' m mine => ?_
  rw [records.carries_mountFor]
  refine or_iff_left ?_
  rintro ⟨rfl, -⟩
  exact others mine

theorem unmountFor (wired : h.Wired) {leases : List Lease} (records : Records h leases)
    {id : AccessId} (others : h.deviceOf id ≠ some d) (location : String) :
    Aside d h (h.unmountFor id location).2 := by
  refine .ofCarries wired (Follows.unmountFor h id location)
    (record?_congr (unmountFor_devices h id location) d)
    (deviceOf_served (unmountFor_served h id location)) fun id' m mine => ?_
  rw [records.carries_unmountFor]
  refine and_iff_left ?_
  rintro ⟨rfl, -⟩
  exact others mine

/-- Another drive is filled or connected. -/
theorem mountDrive (wired : h.Wired) {leases : List Lease} (records : Records h leases)
    {id : AccessId} (own : h.deviceOf id = some other) (differs : other ≠ d) (s' : DriveState) :
    Aside d h (h.mountDrive other s' id) := by
  refine .ofCarries wired (Follows.mountDrive h other s' id) ?_
    (deviceOf_served (mountDrive_served h other s' id)) fun id' m mine => ?_
  · unfold record?
    rw [driveState?_mountDrive_other h s' id differs.symm]
  · rw [records.carries_mountDrive]
    refine or_iff_left ?_
    rintro ⟨rfl, -⟩
    rw [own] at mine
    exact differs (Option.some.inj mine)

theorem ejectDisk (wired : h.Wired) {leases : List Lease} (records : Records h leases)
    (differs : other ≠ d) : Aside d h (h.ejectDisk other).2 := by
  cases found : h.driveState? other with
  | none =>
    rw [ejectDisk_absent found]
    exact elsewhere rfl rfl rfl
  | some s =>
    obtain ⟨-, -, states, carries⟩ := records.ejectDisk found
    refine .ofCarries wired (Follows.ejectDisk h other) ?_
      (deviceOf_served (ejectDisk_served h other)) fun id m mine => ?_
    · unfold record?
      rw [states d differs.symm]
    · rw [carries]
      refine and_iff_left ?_
      rintro ⟨-, connected, -⟩
      have own := wired other _ id (record?_of_driveState? found) connected
      rw [mine] at own
      exact differs (Option.some.inj own).symm

theorem setState (differs : other ≠ d) (state : DeviceState) :
    Aside d h (h.setState other state) := by
  refine elsewhere (setState_same h other state).1 (setState_same h other state).2 ?_
  unfold record?
  rw [driveState?_setState_other h state differs.symm]

/-- The host mounts something where nothing is. -/
theorem hostMount (wired : h.Wired) {leases : List Lease} (records : Records h leases)
    {label location : String} {backing : Backing} {files : FileSystem}
    (done : h.files.mountAt label location backing = (.ok (), files)) :
    Aside d h { h with files } := by
  have after := records.move (.hostMount done)
  have steps : Follows h { h with files } := .step fun leases => .hostMount done
  refine .ofCarries wired steps rfl (fun _ => rfl) fun id m _ => ?_
  rw [after.carries_iff, records.carries_iff, List.mem_append, List.mem_singleton]
  refine or_iff_left ?_
  rintro ⟨⟩

/-- A change of the slot table. -/
theorem rearranged (follows : Follows h h') (changed : Rearranged h h')
    (owners : SameOwners h h') (kept : ∀ id, h'.mounted id = h.mounted id) : Aside d h h' := by
  have same (id : AccessId) (m : MountPoint) : h'.Carries id m ↔ h.Carries id m :=
    carries_congr (congrArg FileSystem.mounts changed.files) kept
  exact ⟨follows, record?_congr changed.devices d, owners, fun id m _ => (same id m).mp,
    fun id m _ => (same id m).mpr⟩

theorem close {leases : List Lease} (records : Records h leases) {id : AccessId}
    (unconnected : ∀ r, h.record? d = some r → r.access ≠ some id) : Aside d h (h.close id) := by
  refine ⟨Follows.after h (.close id), record?_congr (close_devices h id) d,
    SameOwners.kept.close h id,
    fun id' m _ carries => ((records.carries_close id).mp carries).1, fun id' m recorded carries =>
      (records.carries_close id).mpr ⟨carries, ?_⟩⟩
  obtain ⟨r, found, connected, -⟩ := recorded
  rintro rfl
  exact unconnected r found connected

theorem serve (wired : h.Wired) {leases : List Lease} (records : Records h leases)
    {id : AccessId} {service : Service} (minding : Minding d h (.ask (.service id service))) :
    Aside d h (h.serve id service).2 := by
  have follows := Follows.serve h id service
  have record := record?_congr (serve_devices h id service) d
  have owners := deviceOf_served (serve_served h id service)
  cases service with
  | mount writable location files drive =>
    have new : Records (h.newVolume files).2 leases := records.elsewhere rfl rfl
    refine .ofCarries wired follows record owners fun id' m mine => ?_
    rw [serve_mount, new.carries_mountFor]
    refine (or_iff_left ?_).trans (carries_elsewhere rfl rfl)
    rintro ⟨rfl, -⟩
    exact minding mine
  | unmount location =>
    refine .ofCarries wired follows record owners fun id' m mine => ?_
    rw [serve_unmount, records.carries_unmountFor]
    refine and_iff_left ?_
    rintro ⟨rfl, -⟩
    exact minding mine
  | queueEvent name args =>
    obtain ⟨mounts, accesses, -⟩ := serve_queueEvent h id name args
    exact elsewhere mounts accesses record
  | mounted | isAttached | computerId | attachmentName | available | availableAt _ =>
    exact elsewhere rfl rfl rfl

/-- A request to another device. -/
theorem deviceRequest (wired : h.Wired) {leases : List Lease} (records : Records h leases)
    {request : DeviceRequest} (differs : other ≠ d)
    (minding : Minding d h (.ask (.device other request))) :
    Aside d h (h.deviceRequest other request).2 := by
  rcases deviceRequest_cases h other request with same | ⟨_, _, -, same⟩ |
    ⟨s, -, ⟨_, -, same⟩ | ⟨-, same⟩ | ⟨-, same⟩ | ⟨access, rfl, same⟩⟩ <;> rw [same]
  · exact elsewhere rfl rfl rfl
  · exact setState differs _
  · exact setState differs _
  · exact setState differs _
  · exact ejectDisk wired records differs
  · exact mountDrive wired records minding differs _

/-- A request to the drive itself that neither connects nor empties it. -/
theorem ownRequest {request : DeviceRequest} (connects : ∀ id, request ≠ .connect id)
    (disconnects : request ≠ .disconnect) (ejects : request ≠ .eject) :
    Aside d h (h.deviceRequest d request).2 := by
  have setOwn {state : DeviceState} (same : (h.setState d state).record? d = h.record? d) :
      Aside d h (h.setState d state) :=
    elsewhere (setState_same h d state).1 (setState_same h d state).2 same
  rcases deviceRequest_cases h d request with same | ⟨played, more, known, same⟩ |
    ⟨s, known, ⟨label, -, same⟩ | ⟨rfl, -⟩ | ⟨rfl, -⟩ | ⟨access, rfl, -⟩⟩
  · rw [same]
    exact elsewhere rfl rfl rfl
  · rw [same]
    refine setOwn ?_
    unfold record? driveState?
    rw [state?_setState known, known]
  · have found := driveState?_of_state? known
    rw [same]
    refine setOwn ?_
    rw [record?_of_driveState? found, record?_of_driveState? (driveState?_setState found _)]
    cases inside : s.disk <;>
      simp only [DriveState.record, inside, Option.map_none, Option.map_some]
  · exact absurd rfl disconnects
  · exact absurd rfl ejects
  · exact absurd rfl (connects access)

end Aside

/-! ## Steps -/

/-- Only a drive has a disk to eject. -/
theorem deviceRequest_eject (h : Host) (d : DeviceId) :
    (h.deviceRequest d .eject).2 = (h.ejectDisk d).2 := by
  cases found : h.driveState? d with
  | some s =>
    unfold deviceRequest
    rw [state?_of_driveState? found]
    rfl
  | none =>
    rw [ejectDisk_absent found]
    unfold driveState? at found
    unfold deviceRequest
    split
    · rfl
    · next here =>
      rw [here] at found
      cases found
    · rfl
    · rfl
    · rfl

/-- A drive to which nothing else has happened. -/
def Tends (d : DeviceId) (h : Host) : Prop := ∃ past, Tended d past h

/-- One case for each kind of change. -/
theorem Tended.stays {past : Past} (tended : Tended d past h) (wired : h.Wired) {c : Change}
    (minding : Minding d h c) (stays : ¬Turning d c) :
    Tended d (past.still (h.after c)) (h.after c) := by
  obtain ⟨leases, records⟩ := tended.minds.leased
  cases c with
  | ask request =>
    cases request with
    | note | queueEvent | enter | computerId | slot => exact tended.aside (.elsewhere rfl rfl rfl)
    | service id service => exact tended.aside (.serve wired records minding)
    | device other request =>
      by_cases mine : other = d
      · subst mine
        cases request with
        | connect id => exact absurd rfl stays
        | disconnect => exact absurd rfl stays
        | eject =>
          have same : h.after (.ask (.device other .eject)) = (h.ejectDisk other).2 :=
            deviceRequest_eject h other
          rw [same]
          exact tended.eject
        | _ => exact tended.aside (.ownRequest nofun nofun nofun)
      · exact tended.aside (.deviceRequest wired records mine minding)
  | enqueue | write | queueEvent => exact tended.aside (.elsewhere rfl rfl rfl)
  | exchange side device =>
    exact tended.aside (.rearranged (Follows.after h (.exchange side device))
      (Rearranged.exchange h side device) (SameOwners.kept.exchange h side device)
      (mounted_exchange h side device))
  | linkAll =>
    exact tended.aside (.rearranged (Follows.after h .linkAll) (Rearranged.linkAll h)
      (SameOwners.kept.linkAll h) (mounted_linkAll h))
  | unlinkAll =>
    exact tended.aside (.rearranged (Follows.after h .unlinkAll) (Rearranged.unlinkAll h)
      (SameOwners.kept.unlinkAll h) (mounted_unlinkAll h))
  | close id => exact tended.aside (.close records minding)

namespace Tends

theorem aside (tends : Tends d h) (aside : Aside d h h') : Tends d h' := by
  obtain ⟨past, tended⟩ := tends
  exact ⟨_, tended.aside aside⟩

theorem records (tends : Tends d h) : ∃ leases, Records h leases := by
  obtain ⟨past, tended⟩ := tends
  exact tended.minds.leased

theorem after (tends : Tends d h) (wired : h.Wired) {c : Change} (minding : Minding d h c) :
    Tends d (h.after c) := by
  obtain ⟨past, tended⟩ := tends
  by_cases turns : Turning d c
  · unfold Turning at turns
    split at turns
    · subst turns
      exact ⟨_, tended.connect _ minding⟩
    · subst turns
      exact ⟨_, tended.disconnect⟩
    · exact turns.elim
  · exact ⟨_, tended.stays wired minding turns⟩

end Tends

/-! ## The wires -/

namespace Wired

theorem ofSame (wired : h.Wired) (record : ∀ d, h'.record? d = h.record? d)
    (owners : SameOwners h h') : h'.Wired := by
  intro d r id found connected
  rw [record] at found
  exact owners id d (wired d r id found connected)

theorem setState (wired : h.Wired) {d : DeviceId} {state : DeviceState}
    (fits : ∀ s id, state = .drive s → s.access = some id → h.deviceOf id = some d) :
    (h.setState d state).Wired := by
  have owners := deviceOf_elsewhere (setState_same h d state).2
  intro other r id found connected
  rw [owners]
  by_cases mine : other = d
  · subst mine
    cases known : h.state? other with
    | none =>
      have same : h.setState other state = h := by
        unfold Host.setState
        rw [Option.map_eq_none_iff.mp known]
      rw [same] at found
      exact wired other r id found connected
    | some old =>
      unfold record? driveState? at found
      rw [state?_setState known] at found
      cases state with
      | drive s =>
        cases found
        exact fits s id rfl connected
      | _ => cases found
  · refine wired other r id ?_ connected
    unfold record? at found ⊢
    rwa [driveState?_setState_other h state mine] at found

theorem mountDrive (wired : h.Wired) {s' : DriveState}
    (fits : ∀ id, s'.access = some id → h.deviceOf id = some d) (access : AccessId) :
    (h.mountDrive d s' access).Wired := by
  cases inside : s'.disk with
  | none =>
    rw [mountDrive_none inside]
    refine wired.setState fun s id same connected => ?_
    cases same
    exact fits id connected
  | some disk =>
    rw [mountDrive_some inside]
    have owners := deviceOf_served (mountDisk_served access disk Drive.locations h)
    have same := wired.ofSame
      (record?_congr (mountDisk_devices h access disk Drive.locations)) (.ofEq owners)
    refine same.setState fun s id this connected => ?_
    cases this
    exact (owners id).trans (fits id connected)

theorem ejectDisk (wired : h.Wired) {leases : List Lease} (records : Records h leases) :
    (h.ejectDisk d).2.Wired := by
  cases found : h.driveState? d with
  | none =>
    rw [ejectDisk_absent found]
    exact wired
  | some s =>
    obtain ⟨-, record, states, -⟩ := records.ejectDisk found
    have owners := deviceOf_served (ejectDisk_served h d)
    intro other r id there connected
    rw [owners]
    by_cases mine : other = d
    · subst mine
      rw [record] at there
      cases there
      exact wired other _ id (record?_of_driveState? found) connected
    · refine wired other r id ?_ connected
      unfold record? at there ⊢
      rwa [states other mine] at there

theorem insertDisk (wired : h.Wired) {leases : List Lease} (records : Records h leases)
    (disk : Disk) : (h.insertDisk d disk).2.Wired := by
  have emptied : (h.ejectDisk d).2.Wired := wired.ejectDisk records
  rcases insertDisk_cases h d disk with
    ⟨-, same⟩ | ⟨s, found, ⟨-, same⟩ | ⟨access, -, same⟩⟩ <;> rw [same]
  · exact emptied
  · refine emptied.setState fun s' id same mine => ?_
    cases same
    exact emptied d _ id (record?_of_driveState? found) mine
  · obtain ⟨-, accesses, states⟩ := driveEvent_same
      ((h.ejectDisk d).2.mountDrive d { s with disk := some disk } access) access "disk"
    have fits : ∀ id, DriveState.access { s with disk := some disk } = some id →
        (h.ejectDisk d).2.deviceOf id = some d :=
      fun id mine => emptied d _ id (record?_of_driveState? found) mine
    exact (emptied.mountDrive fits access).ofSame (record?_congr states)
      (.ofEq (deviceOf_elsewhere accesses))

theorem deviceRequest (wired : h.Wired) {leases : List Lease} (records : Records h leases)
    {request : DeviceRequest} (minding : Minding d h (.ask (.device other request))) :
    (h.deviceRequest other request).2.Wired := by
  rcases deviceRequest_cases h other request with same | ⟨_, _, -, same⟩ |
    ⟨s, known, ⟨_, -, same⟩ | ⟨-, same⟩ | ⟨-, same⟩ | ⟨access, rfl, same⟩⟩ <;> rw [same]
  · exact wired
  · exact wired.setState nofun
  · have there := record?_of_driveState? (driveState?_of_state? known)
    refine wired.setState fun s' id this connected => ?_
    cases this
    exact wired other _ id there connected
  · refine wired.setState fun s' id this connected => ?_
    cases this
    cases connected
  · exact wired.ejectDisk records
  · refine wired.mountDrive (fun id connected => ?_) access
    cases connected
    exact minding

/-- One case for each kind of change. -/
theorem after (wired : h.Wired) {leases : List Lease} (records : Records h leases) {c : Change}
    (minding : Minding d h c) : (h.after c).Wired := by
  have owners := SameOwners.kept.after h c
  cases c with
  | ask request =>
    cases request with
    | note | queueEvent | enter | computerId | slot => exact wired.ofSame (fun _ => rfl) owners
    | service id service => exact wired.ofSame (record?_congr (serve_devices h id service)) owners
    | device other request => exact wired.deviceRequest records minding
  | enqueue | write | queueEvent => exact wired.ofSame (fun _ => rfl) owners
  | exchange side device =>
    exact wired.ofSame (record?_congr (Rearranged.exchange h side device).devices) owners
  | linkAll => exact wired.ofSame (record?_congr (Rearranged.linkAll h).devices) owners
  | unlinkAll => exact wired.ofSame (record?_congr (Rearranged.unlinkAll h).devices) owners
  | close id => exact wired.ofSame (record?_congr (close_devices h id)) owners

end Wired

/-! ## Other drives -/

theorem insertDisk_served (h : Host) (d : DeviceId) (disk : Disk) :
    Served h (h.insertDisk d disk).2 := by
  have ejected := ejectDisk_served h d
  rcases insertDisk_cases h d disk with
    ⟨-, same⟩ | ⟨s, -, ⟨-, same⟩ | ⟨access, -, same⟩⟩ <;> rw [same]
  · exact ejected
  · exact ejected.trans (Served.setState _ d _)
  · exact (ejected.trans (mountDrive_served _ d _ access)).trans (driveEvent_served _ access _)

/-- A disk is put into another drive. -/
theorem Aside.insertDisk (wired : h.Wired) {leases : List Lease} (records : Records h leases)
    (differs : other ≠ d) (disk : Disk) : Aside d h (h.insertDisk other disk).2 := by
  have ejected : Aside d h (h.ejectDisk other).2 := .ejectDisk wired records differs
  have emptied : (h.ejectDisk other).2.Wired := wired.ejectDisk records
  obtain ⟨leases', steps⟩ := ejected.follows leases
  have records' := records.moves steps
  rcases insertDisk_cases h other disk with
    ⟨-, same⟩ | ⟨s, found, ⟨-, same⟩ | ⟨access, connected, same⟩⟩ <;> rw [same]
  · exact ejected
  · exact ejected.trans (.setState differs _)
  · obtain ⟨mounts, accesses, states⟩ := driveEvent_same
      ((h.ejectDisk other).2.mountDrive other { s with disk := some disk } access) access "disk"
    have own := emptied other _ access (record?_of_driveState? found) connected
    have mounted := ejected.trans (.mountDrive emptied records' own differs
      { s with disk := some disk })
    exact mounted.trans (.elsewhere mounts accesses (record?_congr states d))

end DeviceBridge.Host
