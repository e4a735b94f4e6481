import DeviceBridge.Proofs.Host.Links

/-
  What a run changes, one change after the other. Running code touches its host by a few kinds of
  change only (`Change`); `Program.changes` lists those of a run, by recursion on the code like the
  run itself. `Program.replay_changes`: to make just these changes, in this order and without
  running anything, leads to the same host. So what holds of every list of changes holds of every
  run, and of every host on the way.
-/

namespace DeviceBridge

/-- A single change that running code makes to its host. -/
inductive Change where
  | ask (request : Request)
  | enqueue (completion : Completion) (body : Code)
  | write (level : LogLevel) (text : String)
  | queueEvent (name : String) (args : List Value)
  | exchange (side : Side) (device : Option DeviceId)
  | linkAll
  | unlinkAll
  | close (id : AccessId)

namespace Host

def after (h : Host) : Change → Host
  | .ask request => (h.answer request).2
  | .enqueue completion body => (h.enqueue completion body).2
  | .write level text => h.write level text
  | .queueEvent name args => h.queueEvent name args
  | .exchange side device => (h.exchange side device).2.2
  | .linkAll => h.linkAll.2
  | .unlinkAll => h.unlinkAll.2
  | .close id => h.close id

/-- Make some changes, one after the other. -/
def replay (h : Host) : List Change → Host
  | [] => h
  | c :: rest => (h.after c).replay rest

theorem replay_append (changes more : List Change) :
    ∀ h : Host, h.replay (changes ++ more) = (h.replay changes).replay more := by
  induction changes with
  | nil => exact fun _ => rfl
  | cons c rest ih => exact fun h => ih (h.after c)

/-- What every single change keeps, all of them keep. -/
theorem Kept.after {R : Host → Host → Prop} (kept : Kept R) (h : Host) (c : Change) :
    R h (h.after c) := by
  cases c with
  | ask request => exact kept.served (answer_served h request)
  | enqueue completion body => exact kept.enqueue h completion body
  | write level text => exact kept.served (Served.write h level text)
  | queueEvent name args => exact kept.served (Served.queueEvent h name args)
  | exchange side device => exact kept.exchange h side device
  | linkAll => exact kept.linkAll h
  | unlinkAll => exact kept.unlinkAll h
  | close id => exact kept.close h id

theorem Kept.replay {R : Host → Host → Prop} (kept : Kept R) (changes : List Change) :
    ∀ h : Host, R h (h.replay changes) := by
  induction changes with
  | nil => exact kept.refl
  | cons c rest ih => exact fun h => kept.trans (kept.after h c) (ih _)

end Host

/-! ## The changes of a run -/

/-- What a program changes when it is run. -/
abbrev Tracer := Program → Host → List Change

/-- What code changes by way of other code. -/
structure NestedChanges where
  call : Arguments → Host → List Change
  command : Command → Host → List Change

namespace Code

def changes (nested : Nested) (traced : NestedChanges) : Code → Host → List Change
  | .done _, _ => []
  | .fail _, _ => []
  | .suspend .., _ => []
  | .await _, _ => []
  | .ask request next, h =>
    .ask request :: (next (h.answer request).1).changes nested traced (h.answer request).2
  | .command c next, h =>
    traced.command c h ++ match nested.command c h with
      | (.ok (), h) => next.changes nested traced h
      | (.error _, _) => []
  | .enqueue completion body next, h =>
    .enqueue completion body ::
      (next (h.enqueue completion body).1).changes nested traced (h.enqueue completion body).2
  | .call args, h => traced.call args h
  | .attempt body next, h =>
    body.changes nested traced h ++ match (body.exec nested h).1.toAttempt with
      | .ok seen => (next seen).changes nested traced (body.exec nested h).2
      | .error _ => []
  | .adjustWait body _, h => body.changes nested traced h
  | .adjustError body _, h => body.changes nested traced h

end Code

namespace Host

/-- What is logged of a hook that came to an end. -/
def hookChanges (t : Transition) (a : Access) : Outcome → List Change
  | .failed (.escaped (.panic payload)) =>
    [.write .error ("Peripheral " ++ a.typeName ++ " on " ++ a.id.side.name
      ++ " panicked in " ++ t.name ++ ": " ++ payload.describe)]
  | _ => []

def runHookChanges (run : Runner) (trace : Tracer) (t : Transition) (h : Host) (a : Access) :
    List Change :=
  match h.device? a.device with
  | none => []
  | some d =>
    trace (t.hook d a.device a.id) h ++ hookChanges t a (run (t.hook d a.device a.id) h).1

/-- A device that was detached is closed once its hook has returned. -/
def passChanges (run : Runner) (trace : Tracer) (t : Transition) (h : Host) (a : Access) :
    List Change :=
  h.runHookChanges run trace t a ++ match t, (h.runHook run t a).1 with
    | .detach, .ok () => [.close a.id]
    | _, _ => []

def announceChanges (run : Runner) (trace : Tracer) (t : Transition) (h : Host) (a : Access) :
    List Change :=
  .write .debug (t.announcement a) ::
    ((h.write .debug (t.announcement a)).passChanges run trace t a ++
      match ((h.write .debug (t.announcement a)).pass run t a).1 with
      | .ok () => [.queueEvent t.event [.string a.id.side.name]]
      | .error _ => [])

def forEachChanges (step : Host → Access → Except Escape Unit × Host)
    (trace : Host → Access → List Change) (h : Host) : List AccessId → List Change
  | [] => []
  | id :: rest =>
    match h.access? id with
    | none => h.forEachChanges step trace rest
    | some a =>
      trace h a ++ match step h a with
        | (.ok (), h) => h.forEachChanges step trace rest
        | (.error _, _) => []

def setChanges (run : Runner) (trace : Tracer) (h : Host) (side : Side)
    (device : Option DeviceId) : List Change :=
  let (detached, attached, changed) := h.exchange side device
  .exchange side device ::
    (changed.forEachChanges (announce run .detach) (announceChanges run trace .detach) detached ++
      match changed.forEach (announce run .detach) detached with
      | (.ok (), h) =>
        h.forEachChanges (announce run .attach) (announceChanges run trace .attach) attached
      | (.error _, _) => [])

def performChanges (run : Runner) (trace : Tracer) (command : Command) (h : Host) : List Change :=
  match command with
  | .set side device => h.setChanges run trace side device
  | .start => .linkAll ::
    h.linkAll.2.forEachChanges (pass run .attach) (passChanges run trace .attach) h.linkAll.1
  | .stop => .unlinkAll ::
    h.unlinkAll.2.forEachChanges (pass run .detach) (passChanges run trace .detach) h.unlinkAll.1

def callChanges (trace : Tracer) (args : Arguments) (h : Host) : List Change :=
  match h.route args with
  | .error _ => []
  | .ok (a, method, rest) =>
    match h.methodCode a method rest with
    | none => []
    | some code => trace code h

end Host

namespace NestedChanges

def none : NestedChanges where
  call _ _ := []
  command _ _ := []

def of (run : Runner) (trace : Tracer) : NestedChanges where
  call := Host.callChanges trace
  command := Host.performChanges run trace

end NestedChanges

namespace Program

def changesOf (nested : Nested) (traced : NestedChanges) : Program → Host → List Change
  | .code body, h => body.changes nested traced h
  | .await _, _ => []

/-- What a run changes. -/
def changes (depth : Nat) : Program → Host → List Change :=
  match depth with
  | 0 => changesOf Nested.none NestedChanges.none
  | n + 1 => changesOf (Nested.of (run n)) (NestedChanges.of (run n) (changes n))

end Program

/-! ## Replaying a run -/

namespace Host

theorem afterHook_replay (t : Transition) (a : Access) (outcome : Outcome) (h : Host) :
    (afterHook t a (outcome, h)).2 = h.replay (hookChanges t a outcome) := by
  cases outcome with
  | done | pending => rfl
  | failed failure =>
    cases failure with
    | raised => rfl
    | escaped how => cases how <;> rfl

section Runner

variable {run : Runner} {trace : Tracer} (replays : ∀ p h, (run p h).2 = h.replay (trace p h))
include replays

theorem runHook_replay (t : Transition) (h : Host) (a : Access) :
    (h.runHook run t a).2 = h.replay (h.runHookChanges run trace t a) := by
  unfold runHook runHookChanges
  cases h.device? a.device with
  | none => rfl
  | some d =>
    simp only
    rw [replay_append, ← replays]
    exact afterHook_replay ..

theorem pass_replay (t : Transition) (h : Host) (a : Access) :
    (h.pass run t a).2 = h.replay (h.passChanges run trace t a) := by
  have ran := runHook_replay replays t h a
  unfold pass passChanges
  rw [replay_append, ← ran]
  generalize h.runHook run t a = came
  obtain ⟨result, h'⟩ := came
  cases result with
  | error => cases t <;> rfl
  | ok => cases t <;> rfl

theorem announce_replay (t : Transition) (h : Host) (a : Access) :
    (h.announce run t a).2 = h.replay (h.announceChanges run trace t a) := by
  have passed := pass_replay replays t (h.write .debug (t.announcement a)) a
  unfold announce announceChanges
  show _ = (h.write .debug (t.announcement a)).replay _
  rw [replay_append, ← passed]
  generalize (h.write .debug (t.announcement a)).pass run t a = came
  obtain ⟨result, h'⟩ := came
  cases result <;> rfl

omit replays in
/-- By induction on the accesses. -/
theorem forEach_replay {step : Host → Access → Except Escape Unit × Host}
    {trace : Host → Access → List Change} (each : ∀ h a, (step h a).2 = h.replay (trace h a))
    (ids : List AccessId) : ∀ h : Host,
      (h.forEach step ids).2 = h.replay (h.forEachChanges step trace ids) := by
  induction ids with
  | nil => exact fun _ => rfl
  | cons id rest ih =>
    intro h
    unfold forEach forEachChanges
    cases h.access? id with
    | none => exact ih h
    | some a =>
      simp only
      rw [replay_append, ← each]
      generalize step h a = came
      obtain ⟨result, h'⟩ := came
      cases result with
      | ok => exact ih h'
      | error => rfl

theorem setDeviceAt_replay (h : Host) (side : Side) (device : Option DeviceId) :
    (h.setDeviceAt run side device).2 = h.replay (h.setChanges run trace side device) := by
  have detached := forEach_replay (announce_replay replays .detach) (h.exchange side device).1
    (h.exchange side device).2.2
  unfold setDeviceAt setChanges
  simp only
  show _ = (h.exchange side device).2.2.replay _
  rw [replay_append, ← detached]
  generalize (h.exchange side device).2.2.forEach (announce run .detach)
    (h.exchange side device).1 = came
  obtain ⟨result, h'⟩ := came
  cases result with
  | ok => exact forEach_replay (announce_replay replays .attach) _ h'
  | error => rfl

theorem perform_replay (command : Command) (h : Host) :
    (h.perform run command).2 = h.replay (h.performChanges run trace command) := by
  cases command with
  | set side device => exact setDeviceAt_replay replays h side device
  | start => exact forEach_replay (pass_replay replays .attach) _ h.linkAll.2
  | stop => exact forEach_replay (pass_replay replays .detach) _ h.unlinkAll.2

theorem callDevice_replay (args : Arguments) (h : Host) :
    (h.callDevice run args).2 = h.replay (h.callChanges trace args) := by
  unfold callDevice callChanges
  cases h.route args with
  | error => rfl
  | ok target =>
    obtain ⟨a, method, rest⟩ := target
    unfold callMethod
    simp only
    cases h.methodCode a method rest with
    | none => rfl
    | some code => exact replays code h

end Runner

end Host

/-- By induction on the code. -/
theorem Code.exec_replay {nested : Nested} {traced : NestedChanges}
    (call : ∀ args h, (nested.call args h).2 = h.replay (traced.call args h))
    (command : ∀ c h, (nested.command c h).2 = h.replay (traced.command c h)) (body : Code) :
    ∀ h : Host, (body.exec nested h).2 = h.replay (body.changes nested traced h) := by
  induction body with
  | done | fail | suspend | await => exact fun _ => rfl
  | ask request next ih => exact fun h => ih _ _
  | command c next ih =>
    intro h
    have performed := command c h
    unfold exec changes
    rw [Host.replay_append, ← performed]
    generalize nested.command c h = came
    obtain ⟨result, h'⟩ := came
    cases result with
    | ok => exact ih h'
    | error => rfl
  | enqueue completion body next _ _ ih => exact fun h => ih _ _
  | call args => exact call args
  | attempt body next ihBody ihNext =>
    intro h
    unfold exec changes
    rw [Host.replay_append, ← ihBody]
    generalize body.exec nested h = came
    obtain ⟨outcome, h'⟩ := came
    simp only
    cases outcome.toAttempt with
    | ok seen => exact ihNext seen h'
    | error => rfl
  | adjustWait body _ ih | adjustError body _ ih => exact ih

/-- A run does what its changes do, by induction on the bound on nested runs. -/
theorem Program.replay_changes (depth : Nat) :
    ∀ (p : Program) (h : Host), (p.run depth h).2 = h.replay (p.changes depth h) := by
  have program {nested : Nested} {traced : NestedChanges}
      (call : ∀ args h, (nested.call args h).2 = h.replay (traced.call args h))
      (command : ∀ c h, (nested.command c h).2 = h.replay (traced.command c h)) (p : Program)
      (h : Host) : (p.exec nested h).2 = h.replay (p.changesOf nested traced h) := by
    cases p with
    | code body => exact body.exec_replay call command h
    | await => rfl
  induction depth with
  | zero => exact program (fun _ _ => rfl) (fun _ _ => rfl)
  | succ n ih => exact program (Host.callDevice_replay ih) (Host.perform_replay ih)

end DeviceBridge
