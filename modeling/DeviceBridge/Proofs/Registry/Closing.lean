import DeviceBridge.Proofs.Registry.Order

/-
  Who is detached is closed, for good. The services of an access close only when its detach hook has
  returned, and hooks may change the registry meanwhile, so an open access need not be linked while
  something runs. It is owed a closing then (`Settles.closes`). Between operations nothing is owed,
  and whoever is attached is linked, sits in its slot, and the registry runs (`AtRest.attached`).
  Numbers are never given twice, so an access that has left its slot never comes back to it
  (`Gone.later`), and only an occupant of a slot can be linked. From these `detached_for_good`.
-/

namespace DeviceBridge.Host

variable {h h' : Host} {id : AccessId}

/-! ## Between operations -/

/-- What is open but not linked is to be closed, and when all that is owed is closed, whatever is
open is linked. By induction on the stack discipline. -/
theorem Settles.closes {owed : List AccessId} {changes : List Change}
    (settles : Settles owed h changes)
    (due : (h.flags id).2 = true → (h.flags id).1 = true ∨ id ∈ owed) :
    ((h.replay changes).flags id).2 = true → ((h.replay changes).flags id).1 = true := by
  induction settles with
  | done => exact fun opened => (due opened).resolve_right List.not_mem_nil
  | @change owed h c rest opens _ ih =>
    refine ih fun opened => ?_
    rw [flags_after, turnsAt, closing_of_open opens, List.append_nil, Turn.follow_append,
      Turn.follow_count, Turn.follow_count] at opened ⊢
    by_cases came : id ∈ h.coming c
    · rw [if_pos came]
      exact .inl rfl
    · rw [if_neg came] at opened ⊢
      by_cases left : id ∈ h.leaving c
      · exact .inr (List.mem_append_left owed left)
      · rw [if_neg left] at opened ⊢
        exact (due opened).imp_right (List.mem_append_right _)
  | @close other owed h rest _ ih =>
    have flags := flags_after h id (.close other)
    have flags : (h.close other).flags id =
      Turn.follow (if other = id then [.close] else []) (h.flags id) := flags
    refine ih fun opened => ?_
    rw [flags] at opened ⊢
    split at opened
    · cases opened
    · next differs =>
      rw [if_neg differs]
      refine (due opened).imp_right fun here => ?_
      exact (List.mem_cons.mp here).resolve_left (Ne.symm differs)

/-- States in which no operation is under way: a fresh registry, what a command or any other run
leaves behind unless it is given up, and whatever is changed elsewhere. -/
inductive AtRest : Host → Prop where
  | fresh {h : Host} (fresh : h.Fresh) : AtRest h
  | command {h h' : Host} {depth : Nat} {c : Command} (before : AtRest h)
      (performed : h.perform (Program.run depth) c = (.ok (), h')) : AtRest h'
  | run {h h' : Host} {depth : Nat} {p : Program} {outcome : Outcome} (before : AtRest h)
      (ran : p.run depth h = (outcome, h'))
      (ended : outcome ≠ .failed (.escaped .exhausted)) : AtRest h'
  | elsewhere {h h' : Host} (before : AtRest h) (same : Undisturbed h h') : AtRest h'

/-- What a rest holds, changes that settle keep. -/
theorem rest_replay {changes : List Change} (settles : Settles [] h changes)
    (before : h.Orderly ∧ ∀ id, (h.flags id).2 = true → (h.flags id).1 = true) :
    (h.replay changes).Orderly ∧
      ∀ id, ((h.replay changes).flags id).2 = true → ((h.replay changes).flags id).1 = true :=
  ⟨before.1.replay changes, fun id => settles.closes fun opened => .inl (before.2 id opened)⟩

/-- By induction on the commands. -/
theorem AtRest.performAll {depth : Nat} (commands : List Command) : ∀ {h h' : Host}, AtRest h →
    h.performAll (Program.run depth) commands = (.ok (), h') → AtRest h' := by
  induction commands with
  | nil =>
    intro h h' rest performed
    cases performed
    exact rest
  | cons c others ih =>
    intro h h' rest performed
    unfold Host.performAll at performed
    cases first : h.perform (Program.run depth) c with
    | mk result h₁ =>
      rw [first] at performed
      cases result with
      | error how => cases performed
      | ok => exact ih (rest.command first) performed

/-- By induction on the operations. -/
theorem AtRest.linked (rest : AtRest h) :
    h.Orderly ∧ ∀ id, (h.flags id).2 = true → (h.flags id).1 = true := by
  induction rest with
  | fresh fresh =>
    refine ⟨.fresh fresh, fun id opened => ?_⟩
    rw [fresh.flags] at opened
    cases opened
  | @command h h' depth c _ performed ih =>
    have replayed := perform_replay (Program.replay_changes depth) c h
    have came := perform_comes (Program.replay_changes depth) (Program.changes_settle depth) c h
    rw [performed] at replayed came
    rcases came with given | ⟨-, settles⟩
    · cases given
    · have after := rest_replay settles ih
      rwa [← replayed] at after
  | @run h h' depth p outcome _ ran ended ih =>
    have replayed := Program.replay_changes depth p h
    have came := Program.changes_settle depth p h
    rw [ran] at replayed came
    rcases came with given | settles
    · exact absurd given ended
    · have after := rest_replay settles ih
      rwa [← replayed] at after
  | elsewhere _ same ih =>
    refine ⟨ih.1.elsewhere same, fun id => ?_⟩
    rw [flags_congr same.accesses]
    exact ih.2 id

/-- Between operations whoever is attached sits in its slot, and the registry runs. -/
theorem AtRest.attached (rest : AtRest h) (attached : h.isAttached id = true) :
    h.slots id.side = some id ∧ h.running = true := by
  rw [isAttached_eq] at attached
  exact rest.linked.1.seats id (rest.linked.2 id attached)

/-! ## Later -/

/-- Any later state, also one in the middle of an operation. -/
inductive Later (allowed : Change → Prop) (h : Host) : Host → Prop where
  | refl : Later allowed h h
  | change {h' : Host} (later : Later allowed h h') {c : Change} (fits : allowed c) :
      Later allowed h (h'.after c)
  | elsewhere {h' h'' : Host} (later : Later allowed h h') (same : Undisturbed h' h'') :
      Later allowed h h''

theorem Later.replay {allowed : Change → Prop} (changes : List Change) : ∀ {h' : Host},
    Later allowed h h' → (∀ c ∈ changes, allowed c) → Later allowed h (h'.replay changes) := by
  induction changes with
  | nil => exact fun later _ => later
  | cons c rest ih =>
    exact fun later fits => ih (later.change (fits c (.head _))) fun c here => fits c (.tail _ here)

theorem Later.orderly {allowed : Change → Prop} (later : Later allowed h h')
    (orderly : h.Orderly) : h'.Orderly := by
  induction later with
  | refl => exact orderly
  | change _ _ ih => exact ih.after _
  | elsewhere _ same ih => exact ih.elsewhere same

/-- Who is not linked by a change is open after it only if it was before. -/
theorem opened_before {c : Change} (stays : id ∉ h.coming c) :
    ((h.after c).flags id).2 = true → (h.flags id).2 = true := by
  have none : (h.coming c).count id = 0 := List.count_eq_zero.mpr stays
  rw [flags_after, turnsAt, none, List.replicate_zero, List.append_nil, Turn.follow_append,
    Turn.follow_count]
  have shuts (f : Bool × Bool) : (Turn.follow (closing id c) f).2 = true → f.2 = true := by
    cases c with
    | close other =>
      obtain ⟨linked, attached⟩ := f
      show (Turn.follow (if other = id then [.close] else []) _).2 = true → _
      split
      · intro opened
        cases opened
      · exact fun opened => opened
    | _ => exact fun opened => opened
  intro opened
  have opened := shuts _ opened
  split at opened <;> exact opened

/-! ### Out of the slot -/

/-- An access that was made, and is not in its slot. -/
structure Gone (h : Host) (id : AccessId) : Prop where
  known : id ∈ h.ids
  out : h.slots id.side ≠ some id

namespace Gone

theorem not_next (gone : h.Gone id) (orderly : h.Orderly) (side : Side) :
    id ≠ ⟨side, h.ids.length⟩ := by
  rintro rfl
  exact orderly.numbered.next_not_known side gone.known

theorem not_coming (gone : h.Gone id) (orderly : h.Orderly) (c : Change) : id ∉ h.coming c := by
  intro came
  cases c with
  | exchange side device =>
    obtain ⟨new, next, -, -, linked⟩ := exchange_table h side device
    exact gone.not_next orderly side (next id (linked id came).1)
  | linkAll =>
    obtain ⟨side, -, sits⟩ := List.mem_filterMap.mp (claim_subset link _ _ came)
    obtain ⟨mine, -⟩ := orderly.seated.here side id sits
    rw [← mine] at sits
    exact gone.out sits
  | _ => exact absurd came List.not_mem_nil

/-- A step lemma: no change brings it back. -/
theorem after (gone : h.Gone id) (orderly : h.Orderly) (c : Change) : (h.after c).Gone id := by
  refine ⟨(Lengthens.kept.after h c).mem gone.known, ?_⟩
  have still {h' : Host} (same : h'.slots = h.slots) : h'.slots id.side ≠ some id :=
    same ▸ gone.out
  cases c with
  | ask request => exact still (answer_served h request).slots
  | enqueue | write | queueEvent => exact gone.out
  | exchange side device =>
    obtain ⟨new, next, slots, -, -⟩ := exchange_table h side device
    show (h.exchange side device).2.2.slots id.side ≠ some id
    rw [slots]
    unfold setSlot
    simp only
    split
    · exact fun sits => gone.not_next orderly side (next id sits)
    · exact gone.out
  | linkAll => exact still (slots_claim slots_link h.occupants { h with running := true }).1
  | unlinkAll => exact still (slots_claim slots_unlink h.occupants { h with running := false }).1
  | close other => exact still (unmountAll_served h other).slots

/-- By induction on what comes later: it stays out, and is never opened again. -/
theorem later {allowed : Change → Prop} (gone : h.Gone id) (orderly : h.Orderly)
    (later : Later allowed h h') :
    h'.Gone id ∧ (h'.isAttached id = true → h.isAttached id = true) := by
  induction later with
  | refl => exact ⟨gone, fun opened => opened⟩
  | @change h' before c _ ih =>
    obtain ⟨gone', opened⟩ := ih
    have orderly' := before.orderly orderly
    refine ⟨gone'.after orderly' c, fun attached => opened ?_⟩
    rw [isAttached_eq] at attached ⊢
    exact opened_before (gone'.not_coming orderly' c) attached
  | elsewhere _ same ih =>
    obtain ⟨gone', opened⟩ := ih
    refine ⟨⟨ids_congr same.accesses ▸ gone'.known, same.slots ▸ gone'.out⟩, ?_⟩
    rw [isAttached_eq, flags_congr same.accesses, ← isAttached_eq]
    exact opened

end Gone

/-! ### While the registry rests -/

/-- The registry does not run, and nobody is attached. -/
structure Stopped (h : Host) : Prop where
  running : h.running = false
  closed : ∀ id, h.isAttached id = false

namespace Stopped

theorem after (stopped : h.Stopped) {c : Change} (rests : c ≠ .linkAll) : (h.after c).Stopped := by
  have nobody (id : AccessId) : id ∉ h.coming c := by
    intro came
    cases c with
    | exchange side device =>
      obtain ⟨new, -, -, -, linked⟩ := exchange_table h side device
      have runs := (linked id came).2
      rw [stopped.running] at runs
      cases runs
    | linkAll => exact rests rfl
    | _ => exact absurd came List.not_mem_nil
  refine ⟨?_, fun id => Bool.eq_false_iff.mpr fun attached => ?_⟩
  · cases c with
    | ask request => exact (answer_served h request).running.trans stopped.running
    | enqueue | write | queueEvent => exact stopped.running
    | exchange side device =>
      obtain ⟨-, -, -, same, -⟩ := exchange_table h side device
      exact same.trans stopped.running
    | linkAll => exact absurd rfl rests
    | unlinkAll => exact (slots_claim slots_unlink h.occupants { h with running := false }).2
    | close id => exact (unmountAll_served h id).running.trans stopped.running
  · rw [isAttached_eq] at attached
    have before := opened_before (nobody id) attached
    rw [← isAttached_eq, stopped.closed] at before
    cases before

theorem later (stopped : h.Stopped) (later : Later (· ≠ .linkAll) h h') : h'.Stopped := by
  induction later with
  | refl => exact stopped
  | change _ rests ih => exact ih.after rests
  | elsewhere _ same ih =>
    refine ⟨same.running.trans ih.running, fun id => ?_⟩
    rw [isAttached_eq, flags_congr same.accesses, ← isAttached_eq]
    exact ih.closed id

end Stopped

theorem AtRest.stopped (rest : AtRest h) (stops : h.running = false) : h.Stopped := by
  refine ⟨stops, fun id => Bool.eq_false_iff.mpr fun attached => ?_⟩
  have runs := (rest.attached attached).2
  rw [stops] at runs
  cases runs

/-! ## Services of a closed access -/

/-- The services that only attached devices have. The others tell of the access itself. -/
def Guarded : Service → Prop
  | .mounted | .isAttached => False
  | _ => True

/-- Every service fails, and neither queues an event nor mounts or unmounts anything. -/
structure Shut (h : Host) (id : AccessId) : Prop where
  mount : ∀ location backing drive,
    h.mountFor id location backing drive = (.error notAttached, h)
  unmount : ∀ location, h.unmountFor id location = (.error notAttached, h)
  serve : ∀ service, Guarded service → ∃ h', h.serve id service = (.error notAttached, h') ∧
    h'.events = h.events ∧ h'.files.mounts = h.files.mounts ∧ h'.accesses = h.accesses

theorem mountFor_closed (closed : h.isAttached id = false) (location : String) (backing : Backing)
    (drive : String) : h.mountFor id location backing drive = (.error notAttached, h) := by
  unfold mountFor
  rw [closed]
  rfl

theorem shut_of_closed (closed : h.isAttached id = false) : h.Shut id := by
  have unmount (location : String) : h.unmountFor id location = (.error notAttached, h) := by
    unfold unmountFor
    rw [closed]
    rfl
  have refuses (answer : Value) : h.whenAttached id answer = .error notAttached := by
    unfold whenAttached
    rw [closed]
    rfl
  refine ⟨mountFor_closed closed, unmount, fun service guarded => ?_⟩
  cases service with
  | mount writable location files drive =>
    have closed' : (h.newVolume files).2.isAttached id = false := closed
    refine ⟨(h.newVolume files).2, ?_, rfl, rfl, rfl⟩
    unfold serve
    simp only
    rw [mountFor_closed closed']
  | unmount location =>
    refine ⟨h, ?_, rfl, rfl, rfl⟩
    unfold serve
    simp only
    rw [unmount]
  | mounted | isAttached => exact guarded.elim
  | queueEvent name args =>
    refine ⟨h, ?_, rfl, rfl, rfl⟩
    unfold serve
    rw [closed]
    rfl
  | computerId | attachmentName | available | availableAt =>
    exact ⟨h, congrArg (·, h) (refuses _), rfl, rfl, rfl⟩

/-- Between operations, whatever hooks did in them, an access that is attached sits in its slot, and
the registry runs. So when an access is out of its slot, all of its services are shut in this and in
every later state, also in the middle of an operation; and when the registry rests, the services of
every access are shut until it is started again. An access that is out of its slot, also in the
middle of an operation, stays out, and is never attached again. All that runs and commands do is to
make changes, one after the other, and each of these leads to a later state. -/
theorem detached_for_good (rest : AtRest h) :
    (∀ id, h.isAttached id = true → h.slots id.side = some id ∧ h.running = true) ∧
    (∀ id h', h.Gone id → Later (fun _ => True) h h' → h'.Shut id) ∧
    (h.running = false → ∀ id h', Later (· ≠ .linkAll) h h' → h'.Shut id) ∧
    (∀ id h₁ h₂, Later (fun _ => True) h h₁ → h₁.Gone id → Later (fun _ => True) h₁ h₂ →
      h₂.Gone id ∧ (h₂.isAttached id = true → h₁.isAttached id = true)) ∧
    (∀ changes, Later (fun _ => True) h (h.replay changes)) ∧
    ∀ depth, (∀ p : Program, (p.run depth h).2 = h.replay (p.changes depth h)) ∧
      ∀ c, (h.perform (Program.run depth) c).2 =
        h.replay (h.performChanges (Program.run depth) (Program.changes depth) c) := by
  have orderly := rest.linked.1
  refine ⟨fun id => rest.attached, fun id h' gone later => shut_of_closed ?_,
    fun stops id h' later => shut_of_closed (((rest.stopped stops).later later).closed id),
    fun id h₁ h₂ before gone later => gone.later (before.orderly orderly) later,
    fun changes => Later.refl.replay changes fun _ _ => trivial,
    fun depth => ⟨fun p => Program.replay_changes depth p h,
      fun c => perform_replay (Program.replay_changes depth) c h⟩⟩
  refine Bool.eq_false_iff.mpr fun attached => ?_
  exact gone.out (rest.attached ((gone.later orderly later).2 attached)).1

/-! ## A device that restarts the registry and panics -/

/-- A device that starts the registry when it is detached, and panics then. -/
def relapser : Device :=
  { Device.plain .speaker "relapser" (ClassDecl.plain .speaker "Relapser" []) .stateless with
    detach := fun _ _ => .command .start (.fail (.escaped (.panic (.text "lost")))) }

def relapserHost : Host := ((Host.new Config.default).addDevice relapser).2

def relapserCommands : List Command := [.set .left (some ⟨0⟩), .start, .set .left none]

/-- It is gone, while the registry runs, and stays shut whatever else is installed or started. -/
theorem detached_for_good_relapser : ∃ h',
    relapserHost.performAll (Program.run 1) relapserCommands = (.ok (), h') ∧
      h'.running = true ∧ h'.Gone ⟨.left, 0⟩ ∧
      ∀ changes, (h'.replay changes).Shut ⟨.left, 0⟩ := by
  obtain ⟨h', performed, runs, ids, slot⟩ : ∃ h',
      relapserHost.performAll (Program.run 1) relapserCommands = (.ok (), h') ∧
        h'.running = true ∧ h'.ids = [⟨.left, 0⟩] ∧ h'.slots .left = none :=
    ⟨_, rfl, rfl, rfl, rfl⟩
  have rest : AtRest h' := .performAll relapserCommands (.fresh ⟨rfl, rfl, rfl⟩) performed
  have gone : h'.Gone ⟨.left, 0⟩ := by
    refine ⟨ids ▸ .head _, ?_⟩
    rw [slot]
    exact nofun
  obtain ⟨-, shut, -, -, later, -⟩ := detached_for_good rest
  exact ⟨h', performed, runs, gone, fun changes => shut _ _ gone (later changes)⟩

end DeviceBridge.Host
