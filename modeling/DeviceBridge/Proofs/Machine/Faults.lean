import DeviceBridge.Proofs.Machine.Chronicle
import DeviceBridge.Proofs.Script.Faults

/-
  When a machine is left by a panic of script calls. Starting a call never does it; delivering
  events does it just if a thread trips when it is resumed (`pump_panics_iff`), and that thread is
  lost (`pump_lost`). `crashes_iff_overflow` puts this together with what calls, frames and threads
  do, and `trapMachine` is a machine that crashes.
-/

namespace DeviceBridge.Machine

/-! ## Spawning -/

theorem spawn_panics (m : Machine) (global method : String) (args : List Value)
    (payload : Payload) : (m.spawn global method args).1 ≠ .error (.panic payload) := by
  intro panicked
  unfold spawn at panicked
  split at panicked
  · cases panicked
  · split at panicked
    · cases panicked
    · next f _ =>
      have steady := f.invoke_panics m.limits.depth (Arguments.ofList args) m.host payload
      simp only at panicked
      split at panicked
      · next failed =>
        rw [failed] at steady
        cases panicked
        exact steady rfl
      · cases panicked

/-! ## Delivering -/

/-- A thread trips while the events are delivered one by one. -/
inductive Trips : Machine → Nat → Prop where
  | now {m : Machine} {more : Nat} {event : List Value} {h : Host}
      (popped : m.host.popEvent = some (event, h))
      (trips : Thread.AnyTrips m.limits.depth event h m.threads) : Trips m (more + 1)
  | later {m : Machine} {more : Nat} {event : List Value} {h h₁ : Host} {woke : Bool}
      {threads : List Thread} (popped : m.host.popEvent = some (event, h))
      (delivered : Thread.deliver m.limits.depth event h m.threads = (.ok woke, threads, h₁))
      (later : Trips { m with threads, host := h₁ } more) : Trips m (more + 1)

/-- By induction on the events that may be delivered. -/
theorem pumpUpTo_panics_iff (payload : Payload) (more : Nat) : ∀ (delivered : Nat) (m : Machine),
    (m.pumpUpTo delivered more).1 = .error (.panic payload) ↔
      m.Trips more ∧ Escape.panic payload = .overflow := by
  induction more with
  | zero =>
    intro delivered m
    constructor
    · intro panicked
      unfold pumpUpTo at panicked
      split at panicked <;> cases panicked
    · rintro ⟨trips, -⟩
      cases trips
  | succ more ih =>
    intro delivered m
    unfold pumpUpTo
    cases popped : m.host.popEvent with
    | none =>
      constructor
      · intro panicked
        cases panicked
      · rintro ⟨trips, -⟩
        cases trips with
        | now found _ | later found _ _ =>
          rw [popped] at found
          cases found
    | some next =>
      obtain ⟨event, h⟩ := next
      have panics := Thread.deliver_panics_iff m.limits.depth event payload m.threads h
      simp only
      cases done : Thread.deliver m.limits.depth event h m.threads with
      | mk answer left =>
        obtain ⟨threads, h₁⟩ := left
        rw [done] at panics
        cases answer with
        | error how =>
          constructor
          · intro panicked
            cases panicked
            obtain ⟨trips, same⟩ := panics.mp rfl
            exact ⟨.now popped trips, same⟩
          · rintro ⟨trips, same⟩
            cases trips with
            | now found trips =>
              rw [popped] at found
              cases found
              have failed := panics.mpr ⟨trips, same⟩
              cases failed
              rfl
            | later found delivered _ =>
              rw [popped] at found
              cases found
              rw [done] at delivered
              cases delivered
        | ok woke =>
          constructor
          · intro panicked
            obtain ⟨trips, same⟩ := (ih _ _).mp panicked
            exact ⟨.later popped done trips, same⟩
          · rintro ⟨trips, same⟩
            cases trips with
            | now found trips =>
              rw [popped] at found
              cases found
              have failed := panics.mpr ⟨trips, same⟩
              cases failed
            | later found delivered later =>
              rw [popped] at found
              cases found
              rw [done] at delivered
              cases delivered
              exact (ih _ _).mpr ⟨later, same⟩

/-- The bound on the events of one delivery. -/
def pumpBound (m : Machine) : Nat := m.host.events.length + m.limits.events

theorem pump_panics_iff (m : Machine) (payload : Payload) :
    m.pump.1 = .error (.panic payload) ↔ m.Trips m.pumpBound ∧ Escape.panic payload = .overflow :=
  pumpUpTo_panics_iff payload m.pumpBound 0 m

/-- By induction on the events that may be delivered. -/
theorem pumpUpTo_lost {payload : Payload} (more : Nat) : ∀ {delivered : Nat} {m m' : Machine},
    m.pumpUpTo delivered more = (.error (.panic payload), m') →
      ∃ t ∈ m'.threads, t.state = .dead := by
  induction more with
  | zero =>
    intro delivered m m' failed
    unfold pumpUpTo at failed
    split at failed <;> cases failed
  | succ more ih =>
    intro delivered m m' failed
    unfold pumpUpTo at failed
    split at failed
    · cases failed
    · split at failed
      · next found =>
        cases failed
        exact Thread.deliver_lost _ _ _ found
      · exact ih failed

theorem pump_lost {m : Machine} {payload : Payload}
    (failed : m.pump.1 = .error (.panic payload)) : ∃ t ∈ m.pump.2.threads, t.state = .dead := by
  have whole : m.pumpUpTo 0 m.pumpBound = (.error (.panic payload), m.pump.2) :=
    Prod.ext failed rfl
  exact pumpUpTo_lost m.pumpBound whole

/-! ## Crashes -/

/-- When the engine is left by a panic, and when a thread is. Unless the bound on nested runs is
reached:
- a call comes back with a step that says what the method did;
- a resume does so just if the level that the frame inherits leaves room for what comes on top;
- the error that is raised behind some crossings is delivered just if its level has room for them;
- a thread is lost just if it trips;
- spawning never panics;
- delivering events panics just if a thread trips, and then that thread is lost. -/
theorem crashes_iff_overflow (b : BoundMethod) (f : Frame) (m : Machine) (n : Nat)
    (args : Arguments) (event : List Value) (h : Host) :
    (((b.method.apply b.object b.contexts args).run n h).1 = .exhausted ∨
      ∃ step, (b.invoke n args h).1 = .ok step ∧
        ((b.method.apply b.object b.contexts args).run n h).1.Told step) ∧
    ((f.ran n event h).1 = .exhausted ∨
      ((∃ step, (f.resume n event h).1 = .ok step ∧ (f.ran n event h).1.Told step) ↔
        (f.ran n event h).1.Fits f.adjust)) ∧
    (∀ crossed e h', (f.next.on event).Path n h crossed (.raised e) h' →
      (f.resume n event h).1 = raisedStep e crossed f.adjust) ∧
    (∀ t : Thread, (∃ filter, t.state = .parked filter f) →
      ((f.ran n event h).1 = .exhausted ∨ t.Trips n event h ∨
        ∃ step, (t.resume n event h).2.1.state = .ofStep step ∧ (f.ran n event h).1.Told step) ∧
      (t.Trips n event h → (t.resume n event h).1 = .error .overflow ∧
        (t.resume n event h).2.1.state = .dead)) ∧
    (∀ global method values payload,
      (m.spawn global method values).1 ≠ .error (.panic payload)) ∧
    (∀ payload, (m.pump.1 = .error (.panic payload) ↔
        m.Trips m.pumpBound ∧ Escape.panic payload = .overflow) ∧
      (m.pump.1 = .error (.panic payload) → ∃ t ∈ m.pump.2.threads, t.state = .dead)) := by
  refine ⟨?_, ?_, fun crossed e h' path => f.resume_raised path, fun t parked => ?_,
    fun global method values payload => spawn_panics m global method values payload,
    fun payload => ⟨pump_panics_iff m payload, pump_lost⟩⟩
  · by_cases lost : ((b.method.apply b.object b.contexts args).run n h).1 = .exhausted
    · exact .inl lost
    · exact .inr (b.invoke_told n args h lost)
  · by_cases lost : (f.ran n event h).1 = .exhausted
    · exact .inl lost
    · exact .inr (f.resume_iff n event h lost)
  · obtain ⟨filter, parked⟩ := parked
    refine ⟨?_, fun trips => ⟨?_, Thread.resume_lost n event h trips⟩⟩
    · by_cases lost : (f.ran n event h).1 = .exhausted
      · exact .inl lost
      · by_cases trips : t.Trips n event h
        · exact .inr (.inl trips)
        · exact .inr (.inr (Thread.resume_told n event h parked trips lost))
    · exact (Thread.resume_panics_iff n event h t _).mpr ⟨trips, rfl⟩

/-- An API with one method, which yields with an adjustment and then raises an error of the greatest
level. -/
def trapApi : Api where
  names := ["trap"]
  declaration := ⟨.registry, "Trap", true, [],
    [MethodDecl.plain ⟨1⟩ "spring" .outcome fun _ =>
      .suspend [] 1 fun _ => Code.raise ⟨.message "sprung", 4294967295⟩]⟩
  object := .registry
  startup := Code.unit
  shutdown := Code.unit

/-- A machine with a thread that has called the method, and an event to resume it. -/
def trapMachine : Machine :=
  [Operation.addApi trapApi, .startup, .spawn "trap" "spring" [], .queueEvent "go" []].foldl
    (fun m op => (op.perform m).2) (ofHost ⟨1, 1⟩ (Host.new Config.default))

theorem trapMachine_crashes : (∃ log, Recorded ⟨1, 1⟩ 5000 256 log trapMachine) ∧
    trapMachine.pump.1 = .error (.panic (.text "attempt to add with overflow")) ∧
    ∃ t ∈ trapMachine.pump.2.threads, t.state = .dead := by
  have fresh : Recorded ⟨1, 1⟩ 5000 256 [] (ofHost ⟨1, 1⟩ (Host.new Config.default)) :=
    .start rfl rfl
  have installed := Recorded.step fresh (.addApi trapApi) rfl
  have started := Recorded.step installed .startup rfl
  have spawned := Recorded.step started (.spawn "trap" "spring" []) rfl
  have queued : Recorded ⟨1, 1⟩ 5000 256 _ trapMachine :=
    Recorded.step spawned (.queueEvent "go" []) rfl
  have panicked : trapMachine.pump.1 = .error (.panic (.text "attempt to add with overflow")) := rfl
  exact ⟨⟨_, queued⟩, panicked, pump_lost panicked⟩

end DeviceBridge.Machine
