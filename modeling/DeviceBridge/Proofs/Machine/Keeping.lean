import DeviceBridge.Proofs.Host.Run
import DeviceBridge.Proofs.Machine.Runs

/-
  What is left as it is whatever a machine does. A relation between hosts that every single change
  keeps, and to which the queues do not matter (`Lasting`), holds across every operation, whether it
  comes back or not: on the host by way of calls and frames, tasks and threads, and then on the
  machine operation by operation. Only three operations bring in something from outside, and are
  left to whoever uses `perform_stays`: those that install an API, a device or a generic source. No
  other operation touches the functions of the machine.
-/

namespace DeviceBridge

namespace Host

/-- A relation that every change of running code keeps, and to which the queues do not matter. -/
structure Lasting (R : Host → Host → Prop) : Prop where
  kept : Kept R
  queues (h : Host) (events : List (List Value)) (tasks : TaskQueue)
    (ledger : List (TaskId × Except MethodError (List Value))) :
    R h { h with events, tasks, ledger }

namespace Lasting

variable {R : Host → Host → Prop} (lasting : Lasting R)
include lasting

theorem written (h : Host) (level : LogLevel) (text : String) : R h (h.write level text) :=
  lasting.kept.served (Served.write h level text)

theorem ran (depth : Nat) (p : Program) (h : Host) : R h (p.run depth h).2 :=
  lasting.kept.run depth p h

/-! ## Calls -/

theorem settle {h : Host} {label : Label} {logs : Bool} {inherited : UInt32}
    {ran : Outcome × Host} (before : R h ran.2) :
    R h (DeviceBridge.settle label logs inherited ran).2 := by
  unfold DeviceBridge.settle
  split
  · exact before
  · split <;> exact before
  · split <;> exact before
  · split
    · exact lasting.kept.trans before (lasting.written _ _ _)
    · exact before
  · exact before

theorem invoke (f : BoundMethod) (depth : Nat) (args : Arguments) (h : Host) :
    R h (f.invoke depth args h).2 :=
  lasting.settle (lasting.ran depth (f.method.apply f.object f.contexts args) h)

theorem resume (t : Thread) (depth : Nat) (event : List Value) (h : Host) :
    R h (t.resume depth event h).2.2 := by
  unfold Thread.resume
  cases t.state with
  | done => exact lasting.kept.refl h
  | parked filter frame =>
    have resumed : R h (frame.resume depth event h).2 :=
      lasting.settle (lasting.ran depth (frame.next.on event) h)
    simp only
    split <;> rename_i found <;> rw [found] at resumed <;> exact resumed

/-- By induction on the threads. -/
theorem deliver (depth : Nat) (event : List Value) (threads : List Thread) :
    ∀ h : Host, R h (Thread.deliver depth event h threads).2.2 := by
  induction threads with
  | nil => exact lasting.kept.refl
  | cons t rest ih =>
    intro h
    unfold Thread.deliver
    split
    · have resumed := lasting.resume t depth event h
      split
      · next found =>
        rw [found] at resumed
        exact resumed
      · next t' h' found =>
        rw [found] at resumed
        have others := ih h'
        split <;> rename_i given <;> rw [given] at others <;>
          exact lasting.kept.trans resumed others
    · exact ih h

/-! ## The main thread -/

theorem complete (depth : Nat) (h : Host) (t : Task) (left : Except MethodError (List Value)) :
    R h (h.complete depth t left).2 := by
  rw [Host.complete_snd]
  exact lasting.ran depth (t.completion t.id left) h

theorem runTask (depth : Nat) (h : Host) (t : Task) : R h (h.runTask depth t).2 := by
  have ran : R h (t.body.run depth h).2 := lasting.ran depth t.body h
  unfold Host.runTask
  simp only
  split
  · exact ran
  · next left _ =>
    have completed := lasting.kept.trans ran (lasting.complete depth _ t left)
    split <;> rename_i found <;> rw [found] at completed <;> exact completed

theorem recordRun (h : Host) (t : Task) (ok : Bool) : R h (h.recordRun t ok) :=
  lasting.kept.trans (lasting.queues h h.events (h.tasks.record ok) h.ledger)
    (lasting.written _ _ _)

/-- By induction on the turns. -/
theorem runTasks (depth : Nat) (turns : Nat) : ∀ (ran : Nat) (h : Host),
    R h (h.runTasks depth ran turns).2 := by
  induction turns with
  | zero => exact fun _ h => lasting.kept.refl h
  | succ more ih =>
    intro ran h
    unfold Host.runTasks
    cases found : h.nextTask? with
    | none => exact lasting.kept.refl h
    | some next =>
      obtain ⟨t, rest⟩ := next
      have taken : R h rest := by
        unfold Host.nextTask? at found
        split at found
        · cases found
        · next tasks _ =>
          cases found
          exact lasting.queues h h.events tasks h.ledger
      have done := lasting.kept.trans taken (lasting.runTask depth rest t)
      simp only
      split
      · next left =>
        rw [left] at done
        exact done
      · next ok after left =>
        rw [left] at done
        have recorded := lasting.kept.trans done (lasting.recordRun after t ok)
        exact lasting.kept.trans recorded (ih (ran + 1) _)

end Lasting

end Host

namespace Machine

open Host (Lasting)

/-! ## Operations -/

/-- The host has gone on, and the functions are those that were there. -/
structure Stays (R : Host → Host → Prop) (m m' : Machine) : Prop where
  host : R m.host m'.host
  globals : m'.globals = m.globals

/-- Something is installed from outside. -/
def Operation.Installs : Operation → Prop
  | addApi _ | addDevice _ | addSource _ => True
  | _ => False

section Stays

variable {R : Host → Host → Prop} (lasting : Lasting R)
include lasting

theorem Stays.refl (m : Machine) : Stays R m m := ⟨lasting.kept.refl m.host, rfl⟩

theorem Stays.trans {a b c : Machine} (ab : Stays R a b) (bc : Stays R b c) : Stays R a c :=
  ⟨lasting.kept.trans ab.host bc.host, bc.globals.trans ab.globals⟩

theorem runHook_stays (m : Machine) (hook : Code) : Stays R m (m.runHook hook).2 := by
  have ran := lasting.ran m.limits.depth hook m.host
  unfold runHook Code.run
  split <;> rename_i found <;> rw [found] at ran <;> exact ⟨ran, rfl⟩

/-- By induction on the hooks. -/
theorem runHooks_stays (hooks : List Code) : ∀ m : Machine, Stays R m (m.runHooks hooks).2 := by
  induction hooks with
  | nil => exact Stays.refl lasting
  | cons hook rest ih =>
    intro m
    have first := runHook_stays lasting m hook
    unfold runHooks
    split
    · next found =>
      rw [found] at first
      exact first.trans lasting (ih _)
    · exact first

/-- A line of the log, and then hooks. -/
theorem announced_stays (m : Machine) (text : String) (hooks : List Code) :
    Stays R m ((m.withHost (m.host.write .info text)).runHooks hooks).2 := by
  refine Stays.trans lasting ?_ (runHooks_stays lasting hooks _)
  exact ⟨lasting.written m.host .info text, rfl⟩

theorem startup_stays (m : Machine) : Stays R m m.startup.2 := by
  unfold startup
  split
  · exact Stays.refl lasting m
  · have hooks := announced_stays lasting m
      ("Starting computer #" ++ toString m.host.computerId.toNat) (m.apis.map (·.startup))
    simp only [withHost] at hooks ⊢
    split
    · next found =>
      rw [found] at hooks
      exact ⟨hooks.host, hooks.globals⟩
    · exact hooks

theorem shutdown_stays (m : Machine) : Stays R m m.shutdown.2 := by
  unfold shutdown
  split
  · exact Stays.refl lasting m
  · have hooks := announced_stays lasting m
      ("Stopping computer #" ++ toString m.host.computerId.toNat)
      (m.apis.reverse.map (·.shutdown))
    simp only [withHost] at hooks ⊢
    split
    · next m' found =>
      rw [found] at hooks
      have drained := lasting.queues m'.host [] m'.host.tasks m'.host.ledger
      exact ⟨lasting.kept.trans hooks.host drained, hooks.globals⟩
    · exact hooks

theorem spawn_stays (m : Machine) (global method : String) (args : List Value) :
    Stays R m (m.spawn global method args).2 := by
  unfold spawn
  split
  · exact Stays.refl lasting m
  · split
    · exact Stays.refl lasting m
    · next f _ =>
      have called := lasting.invoke f m.limits.depth (Arguments.ofList args) m.host
      simp only
      split
      · next found =>
        rw [found] at called
        exact ⟨called, rfl⟩
      · next found =>
        rw [found] at called
        exact ⟨lasting.kept.trans called (lasting.written _ _ _), rfl⟩

theorem takeResult_stays (m : Machine) (id : ThreadId) : Stays R m (m.takeResult id).2 := by
  have same := Stays.refl lasting m
  unfold takeResult
  split
  · exact same
  · split
    · exact same
    · exact ⟨same.host, same.globals⟩

/-- By induction on the events that may still be delivered. -/
theorem pumpUpTo_stays (more : Nat) : ∀ (delivered : Nat) (m : Machine),
    Stays R m (m.pumpUpTo delivered more).2 := by
  induction more with
  | zero => exact fun _ m => Stays.refl lasting m
  | succ more ih =>
    intro delivered m
    unfold pumpUpTo
    cases popped : m.host.popEvent with
    | none => exact Stays.refl lasting m
    | some next =>
      obtain ⟨event, h⟩ := next
      have taken : R m.host h := by
        unfold Host.popEvent at popped
        split at popped
        · cases popped
        · next rest _ =>
          cases popped
          exact lasting.queues m.host rest m.host.tasks m.host.ledger
      have given := lasting.kept.trans taken
        (lasting.deliver m.limits.depth event m.threads h)
      simp only
      split
      · next found =>
        rw [found] at given
        exact ⟨given, rfl⟩
      · next found =>
        rw [found] at given
        refine Stays.trans lasting ?_ (ih _ _)
        exact ⟨given, rfl⟩

theorem pump_stays (m : Machine) : Stays R m m.pump.2 := pumpUpTo_stays lasting _ 0 m

theorem mainTick_stays (m : Machine) : Stays R m m.mainTick.2 :=
  ⟨lasting.runTasks m.limits.depth m.host.tasks.perTick 0 m.host, rfl⟩

theorem tick_stays (m : Machine) : Stays R m m.tick.2 := by
  have ran := mainTick_stays lasting m
  unfold tick
  split
  · next found =>
    rw [found] at ran
    exact ran
  · next n m' found =>
    rw [found] at ran
    have pumped := ran.trans lasting (pump_stays lasting m')
    split <;> rename_i left <;> rw [left] at pumped <;> exact pumped

/-- By induction on the ticks that are left. -/
theorem tickUntilDone_stays (id : ThreadId) (more : Nat) : ∀ m : Machine,
    Stays R m (m.tickUntilDone id more).2 := by
  induction more with
  | zero => exact Stays.refl lasting
  | succ more ih =>
    intro m
    unfold tickUntilDone
    split
    · exact Stays.refl lasting m
    · split
      · exact Stays.refl lasting m
      · have ticked := tick_stays lasting m
        split
        · next found =>
          rw [found] at ticked
          exact ticked
        · next found =>
          rw [found] at ticked
          exact ticked.trans lasting (ih _)

theorem call_stays (m : Machine) (global method : String) (args : List Value) (maxTicks : Nat) :
    Stays R m (m.call global method args maxTicks).2 := by
  have spawned := spawn_stays lasting m global method args
  unfold call
  split
  · next found =>
    rw [found] at spawned
    exact spawned
  · next found =>
    rw [found] at spawned
    exact spawned
  · next id m' found =>
    rw [found] at spawned
    have ticked := spawned.trans lasting (tickUntilDone_stays lasting id maxTicks m')
    split
    · next left =>
      rw [left] at ticked
      exact ticked
    · next left =>
      rw [left] at ticked
      exact ticked.trans lasting (takeResult_stays lasting _ id)

/-- One case for each operation that installs nothing. -/
theorem perform_stays {op : Operation} (plain : ¬op.Installs) (m : Machine) :
    Stays R m (op.perform m).2 := by
  cases op with
  | addApi | addDevice | addSource => exact absurd trivial plain
  | startup => exact startup_stays lasting m
  | shutdown => exact shutdown_stays lasting m
  | spawn global method args => exact spawn_stays lasting m global method args
  | call global method args maxTicks => exact call_stays lasting m global method args maxTicks
  | queueEvent name args => exact ⟨lasting.kept.served (Host.Served.queueEvent _ name args), rfl⟩
  | pump => exact pump_stays lasting m
  | tick => exact tick_stays lasting m
  | mainTick => exact mainTick_stays lasting m
  | takeResult id => exact takeResult_stays lasting m id
  | change command =>
    exact ⟨lasting.kept.perform (lasting.ran m.limits.depth) command m.host, rfl⟩
  | submit completion body => exact ⟨lasting.kept.enqueue m.host completion body, rfl⟩

end Stays

end Machine

end DeviceBridge
