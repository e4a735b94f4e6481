import DeviceBridge.Machine.Registry
import DeviceBridge.Proofs.Registry.Changes
import DeviceBridge.Proofs.Registry.Frame

/-
  The registry refines its life cycle. What a state of the life cycle says is to be done can be
  played on a host, one thing at a time (`playAll`); as long as hooks leave the registry alone, a
  command does just what its step says, in that order, and the host simulates the next state
  (`perform_plays`). Over a run of commands this is an induction (`performAll_plays`).
-/

namespace DeviceBridge.Host

/-! ## Playing -/

/-- What a command does to the slot table at once. -/
def retable (h : Host) : Command → Host
  | .set side device => (h.exchange side device).2.2
  | .start => h.linkAll.2
  | .stop => h.unlinkAll.2

/-- The code that a device runs at a transition. -/
def hookCode (d : Device) (device : DeviceId) (access : AccessId) : Transition → Code
  | .attach => d.attach device access
  | .detach => d.detach device access

/-- Do a single thing. Where there is no access for it, or no device behind the access, there is
nothing that could be done, and so it is if a hook is given up. -/
def play (depth : Nat) (h : Host) : Act → Option Host
  | .table c => some (h.retable c)
  | .log t id => (h.access? id).map fun a => h.write .debug (t.announcement a)
  | .hook t id =>
    match h.access? id with
    | none => none
    | some a =>
      match h.device? a.device with
      | none => none
      | some d =>
        match afterHook t a ((hookCode d a.device id t).run depth h) with
        | (.ok (), h) => some h
        | (.error _, _) => none
  | .close id => some (h.close id)
  | .event name side => some (h.queueEvent name [.string side.name])

def playAll (depth : Nat) (h : Host) : List Act → Option Host
  | [] => some h
  | act :: rest =>
    match h.play depth act with
    | none => none
    | some h => h.playAll depth rest

/-- Commands one after the other, up to the first that is given up. -/
def performAll (run : Runner) (h : Host) : List Command → Except Escape Unit × Host
  | [] => (.ok (), h)
  | c :: rest =>
    match h.perform run c with
    | (.ok (), h) => h.performAll run rest
    | failed => failed

theorem playAll_single (depth : Nat) (h : Host) (act : Act) :
    h.playAll depth [act] = h.play depth act := by
  show (match h.play depth act with
    | none => none
    | some h => some h) = _
  cases h.play depth act <;> rfl

theorem play_log (depth : Nat) {h : Host} (t : Transition) {id : AccessId} {a : Access}
    (found : h.access? id = some a) :
    h.play depth (.log t id) = some (h.write .debug (t.announcement a)) := by
  simp only [play]
  rw [found]
  rfl

theorem play_hook {depth : Nat} {h h' : Host} {t : Transition} {id : AccessId} {a : Access}
    {d : Device} (found : h.access? id = some a) (behind : h.device? a.device = some d)
    (ran : h.runHook (Program.run depth) t a = (.ok (), h')) :
    h.play depth (.hook t id) = some h' := by
  have named := access?_id found
  have code : t.hook d a.device id = hookCode d a.device id t := by cases t <;> rfl
  unfold runHook at ran
  rw [behind, named] at ran
  simp only [code] at ran
  simp only [play]
  rw [found]
  simp only
  rw [behind]
  simp only
  unfold Code.run
  rw [ran]

theorem playAll_append {depth : Nat} (first second : List Act) : ∀ {h h' : Host},
    h.playAll depth first = some h' →
      h.playAll depth (first ++ second) = h'.playAll depth second := by
  induction first with
  | nil =>
    rintro h h' ⟨⟩
    rfl
  | cons act rest ih =>
    intro h h' played
    unfold playAll at played
    show (match h.play depth act with
      | none => none
      | some h => h.playAll depth (rest ++ second)) = _
    cases found : h.play depth act with
    | none =>
      rw [found] at played
      cases played
    | some next =>
      rw [found] at played
      exact ih played

/-! ## Hooks -/

/-- A device stands behind every access. -/
def Backed (h : Host) (installed : List (AccessId × DeviceId)) : Prop :=
  ∀ entry ∈ installed, (h.device? entry.2).isSome

theorem Backed.same {h h' : Host} {installed : List (AccessId × DeviceId)}
    (backed : h.Backed installed) (same : SameDevices h h') : h'.Backed installed :=
  fun entry inside => same.device (backed entry inside)

/-- Who still is attached when hooks have run. -/
def stillAttached (t : Transition) (ids : List AccessId) (attached : AccessId → Prop)
    (id : AccessId) : Prop :=
  match t with
  | .attach => attached id
  | .detach => id ∉ ids ∧ attached id

/-- A step that comes to its end for every access, and plays some acts for it. -/
def Plays (depth : Nat) (t : Transition) (step : Host → Access → Except Escape Unit × Host)
    (acts : AccessId → List Act) : Prop :=
  ∀ {h : Host} {running : Bool} {occupant : Side → Option AccessId}
    {installed : List (AccessId × DeviceId)} {linked attached : AccessId → Prop} {id : AccessId}
    {a : Access}, QuietHooks depth h → h.Backed installed →
    h.Holds running occupant installed linked attached → h.access? id = some a →
    ∃ h', step h a = (.ok (), h') ∧ h.playAll depth (acts id) = some h' ∧
      SameDevices h h' ∧
      h'.Holds running occupant installed linked (stillAttached t [id] attached)

/-- A hook runs to its end whatever it does, and services are closed behind the device that
leaves. -/
theorem pass_plays (depth : Nat) (t : Transition) :
    Plays depth t (pass (Program.run depth) t) (Lifecycle.turned t) := by
  intro h running occupant installed linked attached id a quiet backed holds found
  have named := access?_id found
  have entry : (a.id, a.device) ∈ installed := by
    rw [← holds.installed]
    exact List.mem_map_of_mem (List.mem_of_find?_eq_some found)
  obtain ⟨d, behind⟩ := Option.isSome_iff_exists.mp (backed _ entry)
  obtain ⟨h', ran, left, -⟩ := quiet.runHook t a
  have after := holds.ofSame left.running left.slots left.accesses
  have hooked := play_hook found behind ran
  have passed : ∃ h'', h.pass (Program.run depth) t a = (.ok (), h'') ∧
      h.playAll depth (Lifecycle.turned t id) = some h'' ∧
      h''.Holds running occupant installed linked (stillAttached t [id] attached) := by
    unfold pass
    rw [ran]
    cases t with
    | attach =>
      refine ⟨h', rfl, ?_, after⟩
      exact (playAll_single depth h _).trans hooked
    | detach =>
      have closed := after.close id
      refine ⟨h'.close id, ?_, ?_, closed.congr (fun _ _ => Iff.rfl) fun other _ => ?_⟩
      · rw [named]
      · show h.playAll depth ([.hook .detach id] ++ [.close id]) = _
        rw [playAll_append _ _ ((playAll_single depth h _).trans hooked)]
        rfl
      · unfold stillAttached
        rw [List.mem_singleton]
  obtain ⟨h'', passed, played, still⟩ := passed
  have same := SameDevices.kept.pass (SameDevices.kept.run depth) t h a
  rw [passed] at same
  exact ⟨h'', passed, played, same, still⟩

/-- So it does with a line of the log before it and an event behind it. -/
theorem announce_plays (depth : Nat) (t : Transition) :
    Plays depth t (announce (Program.run depth) t) (Lifecycle.announced t) := by
  intro h running occupant installed linked attached id a quiet backed holds found
  have named := access?_id found
  have told : (h.write .debug (t.announcement a)).Holds running occupant installed linked
      attached := holds.ofSame rfl rfl rfl
  have here : (h.write .debug (t.announcement a)).access? id = some a := found
  have written : SameDevices h (h.write .debug (t.announcement a)) := .refl h
  obtain ⟨h', passed, played, same, after⟩ :=
    pass_plays depth t (quiet.same written) (backed.same written) told here
  refine ⟨h'.queueEvent t.event [.string id.side.name], ?_, ?_, same, after.ofSame rfl rfl rfl⟩
  · unfold announce
    rw [passed, named]
  · have logged : h.playAll depth [.log t id] = some (h.write .debug (t.announcement a)) := by
      rw [playAll_single]
      exact play_log depth t found
    have acts : Lifecycle.announced t id =
        [.log t id] ++ (Lifecycle.turned t id ++ [.event t.event id.side]) := by
      cases t <;> rfl
    rw [acts, playAll_append _ _ logged, playAll_append _ _ played]
    rfl

/-- By induction on the accesses. -/
theorem forEach_plays {depth : Nat} {t : Transition}
    {step : Host → Access → Except Escape Unit × Host} {acts : AccessId → List Act}
    (each : Plays depth t step acts) {running : Bool} {occupant : Side → Option AccessId}
    {installed : List (AccessId × DeviceId)} {linked : AccessId → Prop} (ids : List AccessId) :
    ∀ {h : Host} {attached : AccessId → Prop}, QuietHooks depth h → h.Backed installed →
      h.Holds running occupant installed linked attached →
      (∀ id ∈ ids, id ∈ installed.map Prod.fst) →
      ∃ h', h.forEach step ids = (.ok (), h') ∧
        h.playAll depth (ids.flatMap acts) = some h' ∧ SameDevices h h' ∧
        h'.Holds running occupant installed linked (stillAttached t ids attached) := by
  induction ids with
  | nil =>
    intro h attached _ _ holds _
    refine ⟨h, rfl, rfl, .refl h, holds.congr (fun _ _ => Iff.rfl) fun id _ => ?_⟩
    cases t with
    | attach => exact Iff.rfl
    | detach => exact ⟨fun here => ⟨List.not_mem_nil, here⟩, And.right⟩
  | cons id rest ih =>
    intro h attached quiet backed holds inside
    obtain ⟨a, found, -⟩ := holds.access (inside id List.mem_cons_self)
    obtain ⟨h₁, stepped, played, same, after⟩ := each quiet backed holds found
    have others : ∀ other ∈ rest, other ∈ installed.map Prod.fst :=
      fun other here => inside other (List.mem_cons_of_mem _ here)
    obtain ⟨h₂, all, rest_played, rest_same, left⟩ :=
      ih (quiet.same same) (backed.same same) after others
    refine ⟨h₂, ?_, ?_, same.trans rest_same, left.congr (fun _ _ => Iff.rfl) fun other _ => ?_⟩
    · unfold forEach
      rw [found]
      simp only
      rw [stepped]
      exact all
    · rw [List.flatMap_cons, playAll_append _ _ played]
      exact rest_played
    · cases t with
      | attach => exact Iff.rfl
      | detach =>
        unfold stillAttached
        simp only
        rw [List.mem_singleton, List.mem_cons, not_or, and_assoc, and_left_comm]

/-! ## Commands -/

theorem Has.same {h h' : Host} {c : Command} (has : h.Has c) (same : SameDevices h h') :
    h'.Has c := by
  unfold Has at has ⊢
  split
  · exact same.device has
  · trivial

/-- A host on which the life cycle can go on from a state. -/
structure Ready (depth : Nat) (h : Host) (s : Lifecycle) : Prop where
  quiet : QuietHooks depth h
  backed : h.Backed s.installed
  simulates : h.Simulates s

/-- Whoever is attached before or after a slot changes is installed after it. -/
theorem installed_exchange {s : Lifecycle} {side : Side} {device : Option DeviceId}
    {id : AccessId} (inside : id ∈ s.leaving side ∨ id ∈ s.coming side device) :
    id ∈ (s.exchange side device).installed.map Prod.fst := by
  have old (here : id ∈ s.installed.map Prod.fst) :
      id ∈ (s.exchange side device).installed.map Prod.fst := by
    cases device with
    | none => exact here
    | some device =>
      show id ∈ (s.installed ++ [(s.next side, device)]).map Prod.fst
      rw [List.map_append]
      exact List.mem_append_left _ here
  rcases inside with leaves | comes
  · exact old (s.seated (Lifecycle.mem_leaving.mp leaves).1.2).2
  · unfold Lifecycle.coming at comes
    split at comes
    · cases device with
      | none => exact (List.not_mem_nil comes).elim
      | some device =>
        rw [List.mem_singleton.mp comes]
        show s.next side ∈ (s.installed ++ [(s.next side, device)]).map Prod.fst
        rw [List.map_append]
        exact List.mem_append_right _ (List.mem_singleton_self _)
    · exact (List.not_mem_nil comes).elim

theorem backed_exchange {h : Host} {s : Lifecycle} {side : Side} {device : Option DeviceId}
    (backed : h.Backed s.installed) (has : h.Has (.set side device)) :
    h.Backed (s.exchange side device).installed := by
  cases device with
  | none => exact backed
  | some device =>
    intro entry inside
    rcases List.mem_append.mp inside with old | new
    · exact backed entry old
    · rw [List.mem_singleton.mp new]
      exact has

section Commands

variable {depth : Nat} {h : Host} {s : Lifecycle} (ready : Ready depth h s)
include ready

theorem set_plays (side : Side) (device : Option DeviceId) (has : h.Has (.set side device)) :
    ∃ h', h.perform (Program.run depth) (.set side device) = (.ok (), h') ∧
      h.playAll depth (s.step (.set side device)).1 = some h' ∧
      SameDevices h h' ∧ Ready depth h' (s.exchange side device) := by
  obtain ⟨left, came, between⟩ := exchange_claims ready.simulates side has
  have same : SameDevices h (h.exchange side device).2.2 := SameDevices.kept.exchange h side device
  have backed := backed_exchange ready.backed has
  -- Those that leave are detached, and then whoever comes is attached.
  obtain ⟨h₁, detached, detach_played, same₁, after₁⟩ :=
    forEach_plays (announce_plays depth .detach) (s.leaving side) (ready.quiet.same same)
      (backed.same same) between fun id inside => installed_exchange (.inl inside)
  have far := same.trans same₁
  obtain ⟨h₂, attached, attach_played, same₂, after₂⟩ :=
    forEach_plays (announce_plays depth .attach) (s.coming side device) (ready.quiet.same far)
      (backed.same far) after₁ fun id inside => installed_exchange (.inr inside)
  have farther := far.trans same₂
  refine ⟨h₂, ?_, ?_, farther, ready.quiet.same farther, backed.same farther, ?_⟩
  · show h.setDeviceAt (Program.run depth) side device = _
    unfold setDeviceAt
    simp only
    rw [left, came, detached]
    exact attached
  · show (h.exchange side device).2.2.playAll depth _ = _
    rw [playAll_append _ _ detach_played]
    exact attach_played
  · refine after₂.congr (fun _ _ => Iff.rfl) fun id _ => ?_
    show id ∉ s.leaving side ∧ (s.Attached id ∨ _) ↔ _
    rw [and_comm, Lifecycle.attached_exchange]

/-- Once the running flag has changed, the hooks of all occupants run. -/
theorem turnAll_plays (t : Transition) {s' : Lifecycle} {h₁ : Host} (same : SameDevices h h₁)
    (between : h₁.Between s s') (kept : s'.installed = s.installed)
    (still : ∀ id, stillAttached t s.occupants (fun id => s.Attached id ∨ s'.Attached id) id ↔
      s'.Attached id) :
    ∃ h', h₁.forEach (pass (Program.run depth) t) s.occupants = (.ok (), h') ∧
      h₁.playAll depth (s.occupants.flatMap (Lifecycle.turned t)) = some h' ∧
      SameDevices h h' ∧ Ready depth h' s' := by
  have backed : h₁.Backed s'.installed := by
    rw [kept]
    exact ready.backed.same same
  have inside : ∀ id ∈ s.occupants, id ∈ s'.installed.map Prod.fst := by
    intro id sits
    rw [kept]
    exact (s.seated (Lifecycle.mem_occupants.mp sits)).2
  obtain ⟨h', passed, played, same', after⟩ :=
    forEach_plays (pass_plays depth t) s.occupants (ready.quiet.same same) backed between inside
  have far := same.trans same'
  refine ⟨h', passed, played, far, ready.quiet.same far, backed.same same', ?_⟩
  exact after.congr (fun _ _ => Iff.rfl) fun id _ => still id

theorem start_plays : ∃ h', h.perform (Program.run depth) .start = (.ok (), h') ∧
    h.playAll depth (s.step .start).1 = some h' ∧ SameDevices h h' ∧
    Ready depth h' (s.step .start).2 := by
  unfold perform startDevices Lifecycle.step
  cases runs : s.running with
  | true =>
    rw [linkAll_running ready.simulates runs]
    exact ⟨h, rfl, rfl, .refl h, ready⟩
  | false =>
    obtain ⟨claimed, between⟩ := linkAll_claims ready.simulates runs
    obtain ⟨h', passed, played, same, after⟩ :=
      turnAll_plays ready .attach (SameDevices.kept.linkAll h) between rfl
        fun id => or_iff_right (Lifecycle.not_attached_of_rests runs id)
    simp only [Bool.false_eq_true, if_false]
    rw [claimed]
    exact ⟨h', passed, played, same, after⟩

theorem stop_plays : ∃ h', h.perform (Program.run depth) .stop = (.ok (), h') ∧
    h.playAll depth (s.step .stop).1 = some h' ∧ SameDevices h h' ∧
    Ready depth h' (s.step .stop).2 := by
  unfold perform stopDevices Lifecycle.step
  cases runs : s.running with
  | false =>
    rw [unlinkAll_resting ready.simulates runs]
    exact ⟨h, rfl, rfl, .refl h, ready⟩
  | true =>
    obtain ⟨claimed, between⟩ := unlinkAll_claims ready.simulates runs
    have nobody := Lifecycle.not_attached_of_rests (s := s.setRunning false) rfl
    have gone (id : AccessId) : stillAttached .detach s.occupants
        (fun id => s.Attached id ∨ (s.setRunning false).Attached id) id ↔
          (s.setRunning false).Attached id := by
      constructor
      · rintro ⟨stays, ⟨-, sits⟩ | after⟩
        · exact (stays (Lifecycle.mem_occupants.mpr sits)).elim
        · exact after
      · intro after
        exact (nobody id after).elim
    obtain ⟨h', passed, played, same, after⟩ :=
      turnAll_plays ready .detach (SameDevices.kept.unlinkAll h) between rfl gone
    simp only [if_true]
    rw [claimed]
    exact ⟨h', passed, played, same, after⟩

/-- A command does what the step of the life cycle says. -/
theorem perform_plays (c : Command) (has : h.Has c) :
    ∃ h', h.perform (Program.run depth) c = (.ok (), h') ∧
      h.playAll depth (s.step c).1 = some h' ∧ SameDevices h h' ∧
      Ready depth h' (s.step c).2 := by
  cases c with
  | set side device => exact set_plays ready side device has
  | start => exact start_plays ready
  | stop => exact stop_plays ready

end Commands

/-- By induction on the commands. -/
theorem performAll_plays {depth : Nat} (commands : List Command) : ∀ {h : Host} {s : Lifecycle},
    Ready depth h s → (∀ c ∈ commands, h.Has c) →
      ∃ h', h.performAll (Program.run depth) commands = (.ok (), h') ∧
        h.playAll depth (s.run commands).1 = some h' ∧ SameDevices h h' ∧
        Ready depth h' (s.run commands).2 := by
  induction commands with
  | nil =>
    intro h s ready _
    exact ⟨h, rfl, rfl, .refl h, ready⟩
  | cons c rest ih =>
    intro h s ready has
    obtain ⟨h₁, performed, played, same, next⟩ := perform_plays ready c (has c List.mem_cons_self)
    have others : ∀ other ∈ rest, h₁.Has other :=
      fun other inside => (has other (List.mem_cons_of_mem _ inside)).same same
    obtain ⟨h₂, all, rest_played, rest_same, last⟩ := ih next others
    refine ⟨h₂, ?_, ?_, same.trans rest_same, last⟩
    · unfold performAll
      rw [performed]
      exact all
    · show h.playAll depth ((s.step c).1 ++ ((s.step c).2.run rest).1) = _
      rw [playAll_append _ _ played]
      exact rest_played

/-! ## Runs from the start -/

/-- Nothing was ever installed, and the registry does not run. -/
structure Fresh (h : Host) : Prop where
  running : h.running = false
  slots : h.slots = fun _ => none
  accesses : h.accesses = []

theorem Fresh.ready {depth : Nat} {h : Host} (fresh : h.Fresh) (quiet : QuietHooks depth h) :
    Ready depth h .fresh := by
  have nobody : ∀ a, a ∉ h.accesses := by
    rw [fresh.accesses]
    exact fun _ => List.not_mem_nil
  refine ⟨quiet, nofun, fresh.running, fresh.slots, ?_, ?_, ?_⟩
  · rw [fresh.accesses]
    rfl
  · exact fun a here => (nobody a here).elim
  · exact fun a here => (nobody a here).elim

/-- To change a slot leaves the other slots alone. -/
theorem set_untouched {depth : Nat} {h : Host} {s : Lifecycle} (ready : Ready depth h s)
    (side : Side) (device : Option DeviceId) (has : h.Has (.set side device)) :
    Untouched side h (h.perform (Program.run depth) (.set side device)).2 := by
  obtain ⟨left, came, -⟩ := exchange_claims ready.simulates side has
  have old : ∀ id ∈ h.slots side, id.side = side := by
    rw [ready.simulates.slots]
    exact fun id sits => (s.seated sits).1
  have changed := Untouched.exchange h device old
  have same : SameDevices h (h.exchange side device).2.2 := SameDevices.kept.exchange h side device
  have leavers : ∀ id ∈ s.leaving side, id.side = side :=
    fun id inside => (Lifecycle.mem_leaving.mp inside).2
  have comers : ∀ id ∈ s.coming side device, id.side = side := by
    intro id inside
    unfold Lifecycle.coming at inside
    split at inside
    · obtain ⟨_, -, rfl⟩ := List.mem_map.mp inside
      rfl
    · exact (List.not_mem_nil inside).elim
  have keeps := SameDevices.kept.announce (SameDevices.kept.run depth)
  have quiet := ready.quiet.same same
  have detached := Untouched.forEach (fun quiet here => .announce quiet .detach here)
    (keeps .detach) (s.leaving side) quiet leavers
  have same₁ := SameDevices.kept.forEach (keeps .detach) (s.leaving side)
    (h.exchange side device).2.2
  show Untouched side h (h.setDeviceAt (Program.run depth) side device).2
  unfold setDeviceAt
  simp only
  rw [left, came]
  split
  · next ended =>
    rw [ended] at detached same₁
    have attached := Untouched.forEach (fun quiet here => .announce quiet .attach here)
      (keeps .attach) (s.coming side device) (quiet.same same₁) comers
    exact (changed.trans detached).trans attached
  · exact changed.trans detached

/-- Over every run of commands with quiet hooks, a fresh registry does just what the life cycle
says, and ends up holding what it says. Each access sees attach and detach in turn, whoever occupies
a slot is attached just if the registry runs, and to change a slot leaves the others alone. -/
theorem registry_refines_lifecycle (depth : Nat) {h : Host} (fresh : h.Fresh)
    (quiet : QuietHooks depth h) (commands : List Command) (has : ∀ c ∈ commands, h.Has c) :
    ∃ h', h.performAll (Program.run depth) commands = (.ok (), h') ∧
      h.playAll depth (Lifecycle.fresh.run commands).1 = some h' ∧
      h'.Simulates (Lifecycle.fresh.run commands).2 ∧
      (∀ id, Lifecycle.Alternates .attach
        (Lifecycle.hooksOf id (Lifecycle.fresh.run commands).1)) ∧
      (∀ side id, h'.slots side = some id → h'.isAttached id = h'.running) ∧
      ∀ side device, h'.Has (.set side device) →
        Untouched side h' (h'.perform (Program.run depth) (.set side device)).2 := by
  obtain ⟨h', performed, played, -, ready⟩ := performAll_plays commands (fresh.ready quiet) has
  have sim := ready.simulates
  refine ⟨h', performed, played, sim, fun id => ?_, fun side id sits => ?_, set_untouched ready⟩
  · have unborn : ¬Lifecycle.fresh.Attached id := Lifecycle.not_attached_of_rests rfl id
    have alternates := Lifecycle.run_alternates id commands .fresh
    rwa [if_neg unborn] at alternates
  · rw [sim.slots] at sits
    obtain ⟨here, inside⟩ := (Lifecycle.fresh.run commands).2.seated sits
    obtain ⟨a, found, -, -, attached⟩ := sim.access inside
    rw [here.symm] at sits
    have opens : a.attached = true ↔ h'.running = true := by
      rw [attached, sim.running]
      exact ⟨And.left, fun runs => ⟨runs, sits⟩⟩
    unfold isAttached
    rw [found]
    exact Bool.eq_iff_iff.mpr opens

/-- A device that makes itself heard and then panics. -/
def alarm : Device :=
  { Device.plain .speaker "alarm" (ClassDecl.plain .speaker "Alarm" []) .stateless with
    attach := fun _ access =>
      .ask (.service access (.queueEvent "alarm" [])) fun _ => Code.panic (.text "too loud") }

/-- A host with an alarm, and commands that put it at two sides. -/
def alarmHost : Host := ((Host.new Config.default).addDevice alarm).2

def alarmCommands : List Command :=
  [.set .left (some ⟨0⟩), .start, .set .left (some ⟨0⟩), .set .top (some ⟨0⟩), .stop]

theorem registry_refines_lifecycle_alarm : ∃ h',
    alarmHost.performAll (Program.run 1) alarmCommands = (.ok (), h') ∧
      alarmHost.playAll 1 (Lifecycle.fresh.run alarmCommands).1 = some h' ∧ h'.running = false ∧
      Lifecycle.hooksOf ⟨.left, 0⟩ (Lifecycle.fresh.run alarmCommands).1 = [.attach, .detach] := by
  have modest : ∀ d ∈ alarmHost.devices, ∀ (t : Transition) (device : DeviceId)
      (access : AccessId), (t.hook d device access).Modest := by
    intro d inside t device access
    rw [List.mem_singleton.mp inside]
    cases t with
    | attach => exact fun _ => nofun
    | detach => trivial
  have has : ∀ c ∈ alarmCommands, alarmHost.Has c := by
    unfold alarmCommands
    simp only [List.forall_mem_cons]
    exact ⟨rfl, trivial, rfl, rfl, trivial, fun _ => nofun⟩
  obtain ⟨h', performed, played, sim, -⟩ :=
    registry_refines_lifecycle 1 ⟨rfl, rfl, rfl⟩ (modest_quiet 1 modest) alarmCommands has
  exact ⟨h', performed, played, sim.running, rfl⟩

end DeviceBridge.Host
