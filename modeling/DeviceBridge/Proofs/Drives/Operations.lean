import DeviceBridge.Proofs.Drives.Offers
import DeviceBridge.Proofs.Generator.Marshalling

/-
  A drive when nothing is under way. It is poised then, and connected through the access through
  which it is attached, if it is attached at all (`Coherent`). Here is one lemma for each operation:
  a command turns the drive in good order (`Coherent.command`), the others leave the registry alone
  (`Coherent.elsewhere`).
-/

namespace DeviceBridge.Host

variable {d : DeviceId} {h h' : Host} {seat : Option AccessId} {seen seen' : Option Host}
  {depth : Nat} {s : Lifecycle} {id : AccessId}

/-! ## Rest -/

/-- A drive sits at one side at most. -/
def Alone (h : Host) (d : DeviceId) : Prop :=
  ∀ {side other id access}, h.slots side = some id → h.slots other = some access →
    h.deviceOf id = some d → h.deviceOf access = some d → side = other

theorem Simulates.isAttached_iff (sim : h.Simulates s) (id : AccessId) :
    h.isAttached id = true ↔ s.Attached id := by
  have tells {a : Access} (found : h.access? id = some a) :
      h.isAttached id = true ↔ s.Attached id := by
    have told := sim.attached a (List.mem_of_find?_eq_some found)
    rw [access?_id found] at told
    unfold isAttached
    rw [found]
    exact told
  constructor
  · intro attached
    obtain ⟨a, found⟩ := access?_of_isAttached attached
    exact (tells found).mp attached
  · intro attached
    obtain ⟨a, found, -⟩ := sim.access (s.seated attached.2).2
    exact (tells found).mpr attached

/-- Nothing is under way: the drive is poised, and it is connected through the access through which
it is attached. -/
structure Coherent (d : DeviceId) (seen : Option Host) (h : Host) : Prop where
  table : ∃ s, h.Simulates s ∧ h.Backed s.installed
  alone : h.Alone d
  poised : ∃ seat, Poised d seat seen h ∧
    ∀ id, seat = some id ↔ h.deviceOf id = some d ∧ h.isAttached id = true

namespace Coherent

variable (coherent : Coherent d seen h)
include coherent

theorem ready (sim : h.Simulates s) (depth : Nat) : Ready depth h s := by
  obtain ⟨s₀, sim₀, backed⟩ := coherent.table
  obtain ⟨seat, poised, -⟩ := coherent.poised
  refine ⟨poised.hosted.quiet depth, ?_, sim⟩
  rwa [← sim.installed, sim₀.installed]

/-- The registry is left alone, and the drive stays poised. -/
theorem elsewhere (same : Undisturbed h h') (devices : SameDevices h h')
    (poised : ∀ seat, Poised d seat seen h → (∀ id, seat = some id → h.isAttached id = true) →
      Poised d seat seen' h') : Coherent d seen' h' := by
  obtain ⟨seat, before, sits⟩ := coherent.poised
  obtain ⟨s, sim, backed⟩ := coherent.table
  have owners := deviceOf_congr (makes_congr same.accesses)
  refine ⟨⟨s, sim.ofSame same.running same.slots same.accesses, backed.same devices⟩, ?_,
    seat, poised seat before fun id seated => ((sits id).mp seated).2, fun id => ?_⟩
  · intro side other id access
    rw [same.slots, owners, owners]
    exact coherent.alone
  · rw [owners, isAttached_eq, flags_congr same.accesses, ← isAttached_eq]
    exact sits id

/-! ## Commands -/

/-- A command turns the drive in good order. -/
theorem command {c : Command} (sim : h.Simulates s) (has : h.Has c)
    (alone : (h.perform (Program.run depth) c).2.Alone d) :
    Coherent d (h.offered depth d seen (s.step c).1) (h.perform (Program.run depth) c).2 := by
  obtain ⟨h', performed, played, -, ready⟩ := perform_plays (coherent.ready sim depth) c has
  obtain ⟨seat, poised, sits⟩ := coherent.poised
  rw [performed] at alone ⊢
  have sim' := ready.simulates
  have owners : SameOwners h h' := SameOwners.kept.playAll _ played
  have installed {id : AccessId} (attached : s.Attached id) (own : h'.deviceOf id = some d) :
      h.deviceOf id = some d := by
    obtain ⟨a, found⟩ := access?_of_isAttached ((sim.isAttached_iff id).mpr attached)
    have known : h.deviceOf id = some a.device := congrArg (Option.map Access.device) found
    exact known.trans ((owners id _ known).symm.trans own)
  have sole : s.Sole (fun id => h'.deviceOf id = some d) seat := by
    intro id
    rw [sits, sim.isAttached_iff]
    exact and_congr_left fun attached => ⟨owners id d, installed attached⟩
  have alone' : (s.step c).2.Alone fun id => h'.deviceOf id = some d := by
    intro a b ours too sitsA sitsB
    rw [← sim'.slots] at sitsA sitsB
    have side := alone sitsA sitsB ours too
    rw [side, sitsB] at sitsA
    exact (Option.some.inj sitsA).symm
  refine ⟨⟨_, sim', ready.backed⟩, alone, ?_⟩
  rcases Lifecycle.step_reseats sole c alone' with idle | ⟨rest, seat', acts, reseats, ends⟩
  · rw [idle] at played sim' ⊢
    cases played
    refine ⟨seat, poised, fun id => (sits id)⟩
  · refine ⟨seat', ?_, fun id => (ends id).trans (and_congr_right fun _ =>
      (sim'.isAttached_iff id).symm)⟩
    have attached (access : AccessId) (here : .hook .attach access ∈ rest) :
        h'.isAttached access = true := by
      rw [sim'.isAttached_iff]
      exact Lifecycle.attached_of_hook (acts ▸ List.mem_cons_of_mem _ here)
    rw [acts] at played ⊢
    obtain ⟨next, first, later⟩ := playAll_cons played
    rw [offered_cons first]
    exact (poised.play first nofun nofun).playAll reseats later attached

/-! ## Inserts and ejects -/

theorem eject (other : DeviceId) : Coherent d seen (h.ejectDisk other).2 := by
  have served := ejectDisk_served h other
  exact coherent.elsewhere (.ofServed served) served.devices fun _ poised _ => poised.eject other

/-- The disk of a drive is mounted when the one that was there has been taken out. -/
theorem insert (disk : Disk) :
    Coherent d (some (h.ejectDisk d).2) (h.insertDisk d disk).2 := by
  have served := insertDisk_served h d disk
  refine coherent.elsewhere (.ofServed served) served.devices fun seat poised attached => ?_
  obtain ⟨past, tended, connected, known, -⟩ := poised.tended
  obtain ⟨leases, records⟩ := poised.records
  have owners := deviceOf_served served
  refine ⟨⟨_, tended.insert disk, connected, fun id m lost => known id m lost.1, ?_⟩,
    fun id mine => (owners id).trans (poised.own id mine), poised.wired.insertDisk records disk,
    poised.hosted.same served.devices, fun t waits => ?_⟩
  · rintro ⟨r, id, there, mine, shut | taken⟩
    · rw [(poised.eject d).access there] at mine
      have opened := attached id mine
      rw [isAttached_eq, ← flags_served (ejectDisk_served h d), ← isAttached_eq, shut] at opened
      cases opened
    · exact ⟨_, rfl, taken⟩
  · rw [served.tasks] at waits
    exact (poised.errands t waits).later (.ofEq owners)

theorem insertOther {other : DeviceId} (differs : other ≠ d) (disk : Disk) :
    Coherent d seen (h.insertDisk other disk).2 := by
  have served := insertDisk_served h other disk
  refine coherent.elsewhere (.ofServed served) served.devices fun seat poised _ => ?_
  obtain ⟨leases, records⟩ := poised.records
  exact poised.aside (.insertDisk poised.wired records differs disk)
    (poised.wired.insertDisk records disk) served.devices fun t waits => served.tasks ▸ waits

/-- The host mounts something of its own. -/
theorem mount {label location : String} {backing : Backing} {files : FileSystem}
    (done : h.files.mountAt label location backing = (.ok (), files)) :
    Coherent d seen { h with files } := by
  refine coherent.elsewhere ⟨rfl, rfl, rfl⟩ rfl fun seat poised _ => ?_
  obtain ⟨leases, records⟩ := poised.records
  exact poised.aside (.hostMount poised.wired records done)
    (poised.wired.ofSame (fun _ => rfl) (.ofEq fun _ => rfl)) rfl fun _ => id

/-! ## Tasks -/

/-- The task queue changes, but no task comes to it; or something is told or written. -/
theorem bookkeeping (same : Undisturbed h h') (devices : h'.devices = h.devices)
    (mounts : h'.files.mounts = h.files.mounts) (accesses : h'.accesses = h.accesses)
    (waiting : ∀ t ∈ h'.tasks.waiting, t ∈ h.tasks.waiting) : Coherent d seen h' := by
  have states : SameDevices h h' := congrArg (List.map Device.withoutState) devices
  refine coherent.elsewhere same states fun seat poised _ => ?_
  have aside : Aside d h h' := .elsewhere mounts accesses (record?_congr devices d)
  exact poised.aside aside (poised.wired.ofSame (record?_congr devices) aside.owners) states waiting

/-- A call of the method that ejects a disk makes a task wait. -/
theorem call (other : DeviceId) {contexts : List HostType} {t : Trampoline}
    (adapted : Drive.ejectMethod.adapter? contexts = some t.adapter) {values : List HostObject}
    (fitting : ContextValues contexts values) (args : Arguments) (depth : Nat) :
    Coherent d seen ((t.apply (.device .drive other) values args).run depth h).2 := by
  have queued : Coherent d seen (h.enqueue Completion.report
      (Code.withoutSuspending cannotSuspend (t.direct (.device .drive other) values args))).2 := by
    refine coherent.elsewhere (.enqueue h _ _) rfl fun seat poised _ => ?_
    refine poised.stays (c := .enqueue Completion.report _) trivial id ?_
    rintro completion body ⟨⟩
    exact ⟨.eject other adapted values args, .report⟩
  have redirected : Drive.ejectMethod.mainThread = true := rfl
  rw [apply_adapted adapted _ fitting, if_pos redirected]
  cases came : h.enqueue Completion.report
      (Code.withoutSuspending cannotSuspend (t.direct (.device .drive other) values args)) with
  | mk answer h' =>
    rw [came] at queued
    cases answer with
    | ok id =>
      rw [(Code.handsOver came).executed]
      exact queued
    | error e =>
      rw [Code.execute, Code.issueTask_refused came]
      exact queued

/-- The main thread does what it has to do. -/
theorem errand {body : Code} (errand : Errand d h body) (depth : Nat) :
    Coherent d seen (body.run depth h).2 := by
  refine coherent.elsewhere ?_ (SameDevices.kept.run depth body h)
    fun seat poised _ => poised.errand errand depth
  cases errand with
  | eject other adapted values args =>
    rw [run_eject adapted]
    exact .ofServed (ejectDisk_served h other)
  | report => cases depth <;> exact ⟨rfl, rfl, rfl⟩
  | foreign _ _ asks => cases depth <;> exact (asks.modest.exec _ h).2

/-- A task is run, its body and then its completion. -/
theorem runTask {t : Task} (errands : Errands d h t.completion t.body) (depth : Nat) :
    Coherent d seen (h.runTask depth t).2 := by
  have ran : Coherent d seen (t.body.run depth h).2 := coherent.errand errands.body depth
  cases settled : (t.body.run depth h).1.settled with
  | error how =>
    rw [runTask_error settled]
    exact ran
  | ok left =>
    have later := errands.later (SameOwners.kept.run depth t.body h)
    have completed := ran.errand (later.completion t.id left) depth
    rw [← complete_snd] at completed
    cases came : (t.body.run depth h).2.complete depth t left with
    | mk answer after =>
      rw [came] at completed
      cases answer with
      | ok =>
        rw [runTask_ok settled came]
        exact completed
      | error how =>
        rw [runTask_escaped settled came]
        exact completed

omit coherent in
/-- By induction on the number of tasks. -/
theorem runTasks (depth : Nat) (turns : Nat) : ∀ {ran : Nat} {h : Host}, Coherent d seen h →
    Coherent d seen (h.runTasks depth ran turns).2 := by
  induction turns with
  | zero => exact fun coherent => coherent
  | succ more ih =>
    intro ran h coherent
    unfold Host.runTasks
    cases found : h.nextTask? with
    | none => exact coherent
    | some taken =>
      obtain ⟨t, rest⟩ := taken
      have waited : t ∈ h.tasks.waiting ∧ Coherent d seen rest ∧ SameOwners h rest := by
        unfold nextTask? TaskQueue.next? at found
        cases waiting : h.tasks.waiting with
        | nil => simp [waiting] at found
        | cons first others =>
          simp only [waiting, Option.some.injEq, Prod.mk.injEq] at found
          obtain ⟨rfl, rfl⟩ := found
          refine ⟨.head _, coherent.bookkeeping ⟨rfl, rfl, rfl⟩ rfl rfl rfl fun t here => ?_,
            .ofEq fun _ => rfl⟩
          rw [waiting]
          exact .tail _ here
      obtain ⟨waits, left, owners⟩ := waited
      obtain ⟨seat, poised, -⟩ := coherent.poised
      have ran := left.runTask ((poised.errands t waits).later owners) depth
      simp only
      split <;> rename_i came <;> rw [came] at ran
      · exact ran
      · refine ih (ran.bookkeeping ⟨rfl, rfl, rfl⟩ rfl rfl rfl fun t here => ?_)
        unfold recordRun TaskQueue.record at here
        split at here <;> exact here

end Coherent

end DeviceBridge.Host
