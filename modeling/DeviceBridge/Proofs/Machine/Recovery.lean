import DeviceBridge.Proofs.Machine.Notices

/-
  Starts and stops that are left in mid-air. A start or a stop calls the hooks of the APIs one after
  the other and changes the status behind the last one, so that one that does not come back has
  called the first hooks of its order under a status that knows nothing of it (`Attempt.course`).
  `recovery` says what becomes of these hooks, whatever starts and stops are tried afterwards: the
  next stop reaches an API only if one of the starts before it came back, and an API that is started
  again has been stopped meanwhile just if the start before came back. So what was half started is
  forgotten (`half_started_forgotten`).
-/

namespace DeviceBridge.Machine

/-! ## Attempts -/

namespace HookCall

def operation : HookCall → Operation
  | startup => .startup
  | shutdown => .shutdown

/-- The status that a machine is brought to. -/
def goal : HookCall → MachineStatus
  | startup => .running
  | shutdown => .stopped

/-- The calls of so many APIs: the last one is stopped first. -/
def order (count : Nat) : HookCall → List Notice
  | startup => callEach .startup count
  | shutdown => (callEach .shutdown count).reverse

theorem mem_order {call other : HookCall} {place count : Nat} :
    .called place other ∈ call.order count ↔ other = call ∧ place < count := by
  have each (call : HookCall) :
      .called place other ∈ callEach call count ↔ other = call ∧ place < count := by
    unfold callEach
    rw [List.mem_map]
    constructor
    · rintro ⟨p, inside, same⟩
      cases same
      exact ⟨rfl, List.mem_range.mp inside⟩
    · rintro ⟨rfl, inside⟩
      exact ⟨place, List.mem_range.mpr inside, rfl⟩
  cases call with
  | startup => exact each .startup
  | shutdown => exact List.mem_reverse.trans (each .shutdown)

end HookCall

/-- The hooks that come back, up to one that does not. -/
def hooksCompleted (m : Machine) : List (Notice × Code) → List Notice
  | [] => []
  | (notice, hook) :: rest => match m.runHook hook with
    | (.ok (), m) => notice :: m.hooksCompleted rest
    | (.error _, _) => []

/-- A start or a stop that is tried, and the machine that it is asked of. -/
structure Attempt where
  call : HookCall
  before : Machine

namespace Attempt

/-- It is not left in mid-air. -/
def CameBack (a : Attempt) : Prop := (a.call.operation.perform a.before).1 = .ok ()

/-- What the machine has become, also if it was left in mid-air. -/
def after (a : Attempt) : Machine := (a.call.operation.perform a.before).2

def called (a : Attempt) : List Notice := a.call.operation.notices a.before

def completed (a : Attempt) : List Notice :=
  match a.call with
  | .startup => if a.before.status = .running then [] else
    a.before.starting.hooksCompleted (a.before.hooks .startup (·.startup))
  | .shutdown => if a.before.status = .stopped then [] else
    a.before.stopping.hooksCompleted (a.before.hooks .shutdown (·.shutdown)).reverse

/-- The hook of an API is called. -/
def Reaches (a : Attempt) (place : Nat) : Prop := .called place a.call ∈ a.called

/-- The hook of an API is called and comes back. -/
def Completes (a : Attempt) (place : Nat) : Prop := .called place a.call ∈ a.completed

end Attempt

/-- Starts and stops that are tried one after the other. -/
def attempts (m : Machine) : List HookCall → List Attempt
  | [] => []
  | call :: rest => ⟨call, m⟩ :: (Attempt.after ⟨call, m⟩).attempts rest

/-- What is left of the attempts behind one of them was tried on what became of the machine. By
induction on the attempts before. -/
theorem attempts_behind {a : Attempt} {more : List Attempt} (first : List Attempt) :
    ∀ {m : Machine} {calls : List HookCall}, m.attempts calls = first ++ a :: more →
      ∃ rest, more = a.after.attempts rest := by
  induction first with
  | nil =>
    rintro m (_ | ⟨call, rest⟩) tried
    · cases tried
    · cases tried
      exact ⟨rest, rfl⟩
  | cons b others ih =>
    rintro m (_ | ⟨call, rest⟩) tried
    · cases tried
    · exact ih (List.cons.inj tried).2

/-! ## What an attempt does -/

/-- All hooks are called and come back, or one of them does not and is the last one that is called.
By induction on the hooks. -/
theorem runHooks_cases (cs : List (Notice × Code)) : ∀ m : Machine,
    ((m.runHooks (cs.map Prod.snd)).1 = .ok () ∧ m.hooksCalled cs = cs.map Prod.fst ∧
      m.hooksCompleted cs = cs.map Prod.fst) ∨
    ((m.runHooks (cs.map Prod.snd)).1 ≠ .ok () ∧ ∃ k < cs.length,
      m.hooksCalled cs = (cs.map Prod.fst).take (k + 1) ∧
      m.hooksCompleted cs = (cs.map Prod.fst).take k) := by
  induction cs with
  | nil => exact fun m => .inl ⟨rfl, rfl, rfl⟩
  | cons c rest ih =>
    intro m
    unfold hooksCalled hooksCompleted
    rw [List.map_cons, runHooks]
    cases ran : m.runHook c.2 with
    | mk left m₁ =>
      cases left with
      | error how =>
        refine .inr ⟨?_, 0, Nat.succ_pos _, rfl, rfl⟩
        intro back
        cases back
      | ok =>
        refine (ih m₁).imp ?_ ?_
        · rintro ⟨back, called, completed⟩
          exact ⟨back, congrArg (c.1 :: ·) called, congrArg (c.1 :: ·) completed⟩
        · rintro ⟨lost, k, inside, called, completed⟩
          exact ⟨lost, k + 1, Nat.succ_lt_succ inside, congrArg (c.1 :: ·) called,
            congrArg (c.1 :: ·) completed⟩

/-- What an attempt does: nothing if the machine is there already, or all that there is to do, or
the beginning of it, and then the status stays as it was. -/
inductive Attempt.Course (a : Attempt) : Prop where
  | idle (there : a.before.status = a.call.goal) (back : a.CameBack) (called : a.called = [])
      (completed : a.completed = []) (same : a.after = a.before)
  | whole (away : a.before.status ≠ a.call.goal) (back : a.CameBack)
      (called : a.called = a.call.order a.before.apis.length)
      (completed : a.completed = a.call.order a.before.apis.length)
      (status : a.after.status = a.call.goal) (apis : a.after.apis = a.before.apis)
  | broken (k : Nat) (away : a.before.status ≠ a.call.goal) (lost : ¬a.CameBack)
      (inside : k < a.before.apis.length)
      (called : a.called = (a.call.order a.before.apis.length).take (k + 1))
      (completed : a.completed = (a.call.order a.before.apis.length).take k)
      (status : a.after.status = a.before.status) (apis : a.after.apis = a.before.apis)

/-- What is done behind the hooks, if they all come back. -/
def finishing (finish : Machine → Machine) :
    Except Escape Unit × Machine → Except Escape Unit × Machine
  | (.ok (), m) => (.ok (), finish m)
  | (.error how, m) => (.error how, m)

theorem startup_finishing {m : Machine} (stopped : m.status ≠ .running) :
    m.startup = finishing (fun m => { m with status := .running })
      (m.starting.runHooks ((m.hooks .startup (·.startup)).map Prod.snd)) := by
  rw [startup_stopped stopped, hooks_snd]
  cases m.starting.runHooks (m.apis.map (·.startup)) with
  | mk left m₁ => cases left <;> rfl

theorem shutdown_finishing {m : Machine} (running : m.status ≠ .stopped) :
    m.shutdown = finishing (fun m => { m with
        host := m.host.drainEvents.2, threads := [], status := .stopped })
      (m.stopping.runHooks ((m.hooks .shutdown (·.shutdown)).reverse.map Prod.snd)) := by
  rw [shutdown_running running, List.map_reverse, List.map_reverse, hooks_snd]
  cases m.stopping.runHooks (m.apis.map (·.shutdown)).reverse with
  | mk left m₁ => cases left <;> rfl

namespace Attempt

variable {a : Attempt}

/-- Hooks that are called in order, and what is done behind them. -/
theorem Course.ofHooks {m : Machine} {cs : List (Notice × Code)} {finish : Machine → Machine}
    (away : a.before.status ≠ a.call.goal)
    (order : cs.map Prod.fst = a.call.order a.before.apis.length)
    (called : a.called = m.hooksCalled cs) (completed : a.completed = m.hooksCompleted cs)
    (still : Still a.before m)
    (performed : a.call.operation.perform a.before =
      finishing finish (m.runHooks (cs.map Prod.snd)))
    (status : ∀ m, (finish m).status = a.call.goal) (apis : ∀ m, (finish m).apis = m.apis) :
    a.Course := by
  have ran := still.trans (Still.runHooks (cs.map Prod.snd) m)
  have hooks := runHooks_cases cs m
  have count : cs.length = a.before.apis.length := by
    have same := congrArg List.length order
    rw [List.length_map] at same
    rw [same]
    cases a.call <;> simp [HookCall.order, callEach]
  rw [order, count] at hooks
  cases hooked : m.runHooks (cs.map Prod.snd) with
  | mk left m₁ =>
    rw [hooked] at ran performed hooks
    rcases hooks with ⟨back, all, each⟩ | ⟨lost, k, inside, some, fewer⟩
    · cases back
      have after : a.after = finish m₁ := congrArg Prod.snd performed
      refine .whole away (congrArg Prod.fst performed) (called.trans all) (completed.trans each)
        ?_ ?_
      · rw [after, status]
      · rw [after, apis, ran.apis]
    · cases left with
      | ok => exact absurd rfl lost
      | error how =>
        have after : a.after = m₁ := congrArg Prod.snd performed
        refine .broken k away ?_ inside (called.trans some) (completed.trans fewer) ?_ ?_
        · intro back
          cases back.symm.trans (congrArg Prod.fst performed)
        · rw [after, ran.status]
        · rw [after, ran.apis]

/-- An attempt does nothing, or all that it is meant to do, or the beginning of it. -/
theorem course : ∀ a : Attempt, a.Course := by
  rintro ⟨call, m⟩
  cases call with
  | startup =>
    by_cases running : m.status = .running
    · have nothing : m.startup = (.ok (), m) := if_pos running
      exact .idle running (congrArg Prod.fst nothing) (if_pos running) (if_pos running)
        (congrArg Prod.snd nothing)
    · exact .ofHooks running (m.hooks_fst .startup _) (if_neg running) (if_neg running)
        (.withHost m _) (startup_finishing running) (fun _ => rfl) fun _ => rfl
  | shutdown =>
    by_cases stopped : m.status = .stopped
    · have nothing : m.shutdown = (.ok (), m) := if_pos stopped
      exact .idle stopped (congrArg Prod.fst nothing) (if_pos stopped) (if_pos stopped)
        (congrArg Prod.snd nothing)
    · have order : (m.hooks .shutdown (·.shutdown)).reverse.map Prod.fst =
          (callEach .shutdown m.apis.length).reverse := by
        rw [List.map_reverse, hooks_fst]
      exact .ofHooks stopped order (if_neg stopped) (if_neg stopped) (.withHost m _)
        (shutdown_finishing stopped) (fun _ => rfl) fun _ => rfl

variable {place : Nat}

theorem after_apis (a : Attempt) : a.after.apis = a.before.apis := by
  cases a.course with
  | idle _ _ _ _ same => rw [same]
  | whole _ _ _ _ _ apis => exact apis
  | broken _ _ _ _ _ _ _ apis => exact apis

/-- Whoever is reached is an API, and the machine was not yet where it is brought to. -/
theorem Reaches.away (reaches : a.Reaches place) :
    a.before.status ≠ a.call.goal ∧ place < a.before.apis.length := by
  unfold Reaches at reaches
  cases a.course with
  | idle _ _ called =>
    rw [called] at reaches
    exact absurd reaches List.not_mem_nil
  | whole away _ called =>
    rw [called] at reaches
    exact ⟨away, (HookCall.mem_order.mp reaches).2⟩
  | broken _ away _ _ called =>
    rw [called] at reaches
    exact ⟨away, (HookCall.mem_order.mp (List.mem_of_mem_take reaches)).2⟩

theorem Completes.reaches (completes : a.Completes place) : a.Reaches place := by
  unfold Completes at completes
  unfold Reaches
  cases a.course with
  | idle _ _ _ completed =>
    rw [completed] at completes
    exact absurd completes List.not_mem_nil
  | whole _ _ called completed => rwa [called, ← completed]
  | broken k _ _ _ called completed =>
    rw [completed] at completes
    rw [called]
    exact (List.take_prefix_take_left (Nat.le_succ k)).subset completes

/-- What comes back leaves the machine where it was to be brought. -/
theorem CameBack.settled (back : a.CameBack) : a.after.status = a.call.goal := by
  cases a.course with
  | idle there _ _ _ same => rw [same, there]
  | whole _ _ _ _ status => exact status
  | broken _ _ lost => exact absurd back lost

theorem CameBack.reaches (back : a.CameBack) (away : a.before.status ≠ a.call.goal)
    (inside : place < a.before.apis.length) : a.Reaches place := by
  cases a.course with
  | idle there => exact absurd there away
  | whole _ _ called =>
    unfold Reaches
    rw [called]
    exact HookCall.mem_order.mpr ⟨rfl, inside⟩
  | broken _ _ lost => exact absurd back lost

/-- What is left in mid-air leaves the machine where it was. -/
theorem unsettled (lost : ¬a.CameBack) :
    a.before.status ≠ a.call.goal ∧ a.after.status = a.before.status := by
  cases a.course with
  | idle _ back => exact absurd back lost
  | whole _ back => exact absurd back lost
  | broken _ away _ _ _ _ status => exact ⟨away, status⟩

theorem settled_iff : a.after.status = a.call.goal ↔ a.CameBack := by
  refine ⟨fun settled => Classical.byContradiction fun lost => ?_, CameBack.settled⟩
  obtain ⟨away, same⟩ := unsettled lost
  exact away (same.symm.trans settled)

end Attempt

/-! ## What becomes of an API -/

theorem stopped_iff {m : Machine} : m.status = .stopped ↔ m.status ≠ .running := by
  cases m.status <;> decide

section Attempts

variable {m : Machine} {calls : List HookCall} {place : Nat} {between more : List Attempt}
  {b : Attempt}

/-- All attempts have the same APIs, by induction on them. -/
theorem attempts_apis (first : List Attempt) : ∀ {m : Machine} {calls : List HookCall},
    m.attempts calls = first ++ b :: more → b.before.apis = m.apis := by
  induction first with
  | nil =>
    rintro m (_ | ⟨call, rest⟩) tried <;> cases tried
    rfl
  | cons a others ih =>
    rintro m (_ | ⟨call, rest⟩) tried
    · cases tried
    · exact (ih (List.cons.inj tried).2).trans (Attempt.after_apis ⟨call, m⟩)

/-- After some starts the machine runs if it ran before or one of them came back. By induction on
the starts. -/
theorem running_iff (starts : List Attempt) : ∀ {m : Machine} {calls : List HookCall},
    m.attempts calls = starts ++ b :: more → (∀ a ∈ starts, a.call = .startup) →
      (b.before.status = .running ↔ m.status = .running ∨ ∃ a ∈ starts, a.CameBack) := by
  induction starts with
  | nil =>
    rintro m (_ | ⟨call, rest⟩) tried - <;> cases tried
    simp
  | cons a others ih =>
    rintro m (_ | ⟨call, rest⟩) tried start
    · cases tried
    · obtain ⟨same, later⟩ := List.cons.inj tried
      obtain ⟨first, further⟩ := List.forall_mem_cons.mp start
      subst same
      cases first
      have settled : (Attempt.after ⟨.startup, m⟩).status = .running ↔
          Attempt.CameBack ⟨.startup, m⟩ := Attempt.settled_iff
      have already (running : m.status = .running) : Attempt.CameBack ⟨.startup, m⟩ :=
        Classical.byContradiction fun lost => (Attempt.unsettled lost).1 running
      rw [ih later further, settled]
      constructor
      · rintro (back | ⟨a, here, back⟩)
        · exact .inr ⟨_, .head _, back⟩
        · exact .inr ⟨a, .tail _ here, back⟩
      · rintro (running | ⟨a, here, back⟩)
        · exact .inl (already running)
        · rcases List.mem_cons.mp here with rfl | there
          · exact .inl back
          · exact .inr ⟨a, there, back⟩

/-- On the way from a machine that runs to one that does not all APIs are stopped. By induction on
the attempts between. -/
theorem shut_between (between : List Attempt) : ∀ {m : Machine} {calls : List HookCall},
    m.attempts calls = between ++ b :: more → place < m.apis.length → m.status = .running →
      b.before.status ≠ .running → ∃ c ∈ between, c.call = .shutdown ∧ c.Reaches place := by
  induction between with
  | nil =>
    rintro m (_ | ⟨call, rest⟩) tried _ running stopped <;> cases tried
    exact absurd running stopped
  | cons c others ih =>
    rintro m (_ | ⟨call, rest⟩) tried inside running stopped
    · cases tried
    · obtain ⟨same, later⟩ := List.cons.inj tried
      subst same
      have inside' : place < (Attempt.after ⟨call, m⟩).apis.length := by
        rwa [Attempt.after_apis]
      have further (still : (Attempt.after ⟨call, m⟩).status = .running) :
          ∃ c ∈ ⟨call, m⟩ :: others, c.call = .shutdown ∧ c.Reaches place := by
        obtain ⟨c, here, shut⟩ := ih later inside' still stopped
        exact ⟨c, .tail _ here, shut⟩
      by_cases back : Attempt.CameBack ⟨call, m⟩
      · cases call with
        | startup => exact further back.settled
        | shutdown =>
          refine ⟨_, .head _, rfl, back.reaches ?_ inside⟩
          intro resting
          cases running.symm.trans resting
      · exact further ((Attempt.unsettled back).2.trans running)

/-- As long as no start reaches an API on a machine that rests, no stop does. By induction on the
attempts between. -/
theorem unshut_between (between : List Attempt) : ∀ {m : Machine} {calls : List HookCall},
    m.attempts calls = between ++ b :: more → place < m.apis.length → m.status = .stopped →
      (∀ c ∈ between, c.call = .startup → ¬c.Reaches place) →
      ∀ c ∈ between, c.call = .shutdown → ¬c.Reaches place := by
  induction between with
  | nil => exact fun _ _ _ _ c here => absurd here List.not_mem_nil
  | cons c others ih =>
    rintro m (_ | ⟨call, rest⟩) tried inside resting unreached
    · cases tried
    · obtain ⟨same, later⟩ := List.cons.inj tried
      subst same
      obtain ⟨first, rest⟩ := List.forall_mem_cons.mp unreached
      have inside' : place < (Attempt.after ⟨call, m⟩).apis.length := by
        rwa [Attempt.after_apis]
      have still : (Attempt.after ⟨call, m⟩).status = .stopped := by
        by_cases back : Attempt.CameBack ⟨call, m⟩
        · cases call with
          | startup =>
            have away : m.status ≠ .running := stopped_iff.mp resting
            exact absurd (back.reaches away inside) (first rfl)
          | shutdown => exact back.settled
        · exact (Attempt.unsettled back).2.trans resting
      refine List.forall_mem_cons.mpr ⟨fun shut reaches => ?_, ih later inside' still rest⟩
      cases shut
      exact reaches.away.1 resting

/-- What a start has completed is stopped next if the machine runs by then. -/
theorem started_reached {first starts : List Attempt} {a stop : Attempt}
    (tried : m.attempts calls = first ++ a :: (starts ++ stop :: more)) (start : a.call = .startup)
    (others : ∀ b ∈ starts, b.call = .startup) (shut : stop.call = .shutdown)
    (completes : a.Completes place) :
    (stop.Reaches place → ∃ b ∈ a :: starts, b.CameBack) ∧
      (stop.CameBack → (∃ b ∈ a :: starts, b.CameBack) → stop.Reaches place) := by
  obtain ⟨rest, behind⟩ := attempts_behind first tried
  have inside := completes.reaches.away.2
  have settled : a.after.status = .running ↔ a.CameBack := by
    rw [← a.settled_iff, start]
    rfl
  have running := running_iff starts behind.symm others
  rw [settled] at running
  have either : stop.before.status = .running ↔ ∃ b ∈ a :: starts, b.CameBack := by
    rw [running]
    simp
  have goal : stop.call.goal = .stopped := by rw [shut]; rfl
  refine ⟨fun reaches => ?_, fun back some => ?_⟩
  · have away := reaches.away.1
    rw [goal] at away
    exact either.mp (Classical.byContradiction fun resting => away (stopped_iff.mpr resting))
  · refine back.reaches ?_ ?_
    · rw [goal, either.mpr some]
      intro same
      cases same
    · rwa [attempts_apis starts behind.symm, a.after_apis]

/-- Between two starts in a row an API is stopped if the first of them came back. -/
theorem stopped_between_iff {first : List Attempt} {a : Attempt}
    (tried : m.attempts calls = first ++ a :: (between ++ b :: more)) (start : a.call = .startup)
    (again : b.call = .startup) (reached : a.Reaches place) (reaches : b.Reaches place)
    (unreached : ∀ c ∈ between, c.call = .startup → ¬c.Reaches place) :
    (∃ c ∈ between, c.call = .shutdown ∧ c.Reaches place) ↔ a.CameBack := by
  obtain ⟨rest, behind⟩ := attempts_behind first tried
  obtain ⟨away, inside⟩ := reached.away
  rw [← a.after_apis] at inside
  constructor
  · rintro ⟨c, here, shut, reaches⟩
    refine Classical.byContradiction fun lost => ?_
    obtain ⟨away, same⟩ := Attempt.unsettled lost
    rw [start] at away
    have resting : a.after.status = .stopped := same.trans (stopped_iff.mpr away)
    exact unshut_between between behind.symm inside resting unreached c here shut reaches
  · intro back
    have running := back.settled
    have stopped := reaches.away.1
    rw [start] at running
    rw [again] at stopped
    exact shut_between between behind.symm inside running stopped

end Attempts

/-- Whatever starts and stops are tried on a machine, and left in mid-air or not. Each does nothing,
or all that it is meant to do, or calls the first hooks of its order and leaves the status as it
was. If a start completes the hook of an API, the next stop reaches the API, as far as the hooks of
the stop come back, if and only if that start or one that was tried before the stop came back. And
if the hook of an API is called by two starts in a row, then it was stopped meanwhile if and only if
the first of them came back. -/
theorem recovery (m : Machine) (calls : List HookCall) :
    (∀ a ∈ m.attempts calls, a.Course) ∧
    (∀ first a starts stop more place, m.attempts calls = first ++ a :: (starts ++ stop :: more) →
      a.call = .startup → (∀ b ∈ starts, b.call = .startup) → stop.call = .shutdown →
      a.Completes place →
        (stop.Reaches place → ∃ b ∈ a :: starts, b.CameBack) ∧
        (stop.CameBack → (∃ b ∈ a :: starts, b.CameBack) → stop.Reaches place)) ∧
    (∀ first a between b more place, m.attempts calls = first ++ a :: (between ++ b :: more) →
      a.call = .startup → b.call = .startup → a.Reaches place → b.Reaches place →
      (∀ c ∈ between, c.call = .startup → ¬c.Reaches place) →
        ((∃ c ∈ between, c.call = .shutdown ∧ c.Reaches place) ↔ a.CameBack)) := by
  refine ⟨fun a _ => a.course, ?_, ?_⟩
  · intro first a starts stop more place tried start others shut completes
    exact started_reached tried start others shut completes
  · intro first a between b more place tried start again reached reaches unreached
    exact stopped_between_iff tried start again reached reaches unreached

/-! ## A start that is left in mid-air -/

def lampApi : Api where
  names := ["lamp"]
  declaration := ⟨.named "Lamp", "Lamp", true, [], []⟩
  object := .registry
  startup := .ask (.note "lamp on") fun _ => Code.unit
  shutdown := .ask (.note "lamp off") fun _ => Code.unit

def fuseApi : Api where
  names := ["fuse"]
  declaration := ⟨.named "Fuse", "Fuse", true, [], []⟩
  object := .registry
  startup := Code.panic (.text "fuse blown")
  shutdown := Code.unit

/-- A machine whose second API cannot be started. -/
def wiring : Machine :=
  [Operation.addApi lampApi, .addApi fuseApi].foldl (fun m op => (op.perform m).2)
    (ofHost ⟨1, 1⟩ (Host.new Config.default))

def firstStart : Attempt := ⟨.startup, wiring⟩

def idleStop : Attempt := ⟨.shutdown, firstStart.after⟩

def secondStart : Attempt := ⟨.startup, idleStop.after⟩

theorem wiring_attempts : wiring.attempts [.startup, .shutdown, .startup] =
    [firstStart, idleStop, secondStart] := rfl

theorem firstStart_lost : ¬firstStart.CameBack := by
  intro back
  have lost : (wiring.startup).1 = .error (.panic (.text "fuse blown")) := rfl
  cases lost.symm.trans back

theorem firstStart_completes : firstStart.Completes 0 := .head _

theorem secondStart_reaches : secondStart.Reaches 0 := .head _

/-- The first API is started twice, and the stop in between does not reach it. -/
theorem recovery_wiring : ¬idleStop.Reaches 0 ∧ secondStart.Reaches 0 ∧
    (¬∃ c ∈ [idleStop], c.call = .shutdown ∧ c.Reaches 0) ∧
    secondStart.after.host.journal = ["lamp on", "lamp on"] := by
  obtain ⟨-, reached, paired⟩ := recovery wiring [.startup, .shutdown, .startup]
  obtain ⟨some, -⟩ := reached [] firstStart [] idleStop [secondStart] 0 wiring_attempts rfl
    (List.forall_mem_nil _) rfl firstStart_completes
  have stopped := paired [] firstStart [idleStop] secondStart [] 0 wiring_attempts rfl rfl
    firstStart_completes.reaches secondStart_reaches fun c here start => by
      rw [List.mem_singleton.mp here] at start
      cases start
  refine ⟨fun reaches => ?_, secondStart_reaches, mt stopped.mp firstStart_lost, rfl⟩
  obtain ⟨b, here, back⟩ := some reaches
  rw [List.mem_singleton.mp here] at back
  exact firstStart_lost back

/-- Every API whose hook a start completed is reached by the next stop that comes back. -/
def StopsStarted (tried : List Attempt) : Prop :=
  ∀ first a starts stop more place, tried = first ++ a :: (starts ++ stop :: more) →
    a.call = .startup → (∀ b ∈ starts, b.call = .startup) → stop.call = .shutdown →
    stop.CameBack → a.Completes place → stop.Reaches place

/-- Between two starts that call the hook of an API it is stopped. -/
def StartsOnce (tried : List Attempt) : Prop :=
  ∀ first a between b more place, tried = first ++ a :: (between ++ b :: more) →
    a.call = .startup → b.call = .startup → a.Reaches place → b.Reaches place →
    ∃ c ∈ between, c.call = .shutdown ∧ c.Reaches place

/-- What was started before a hook that does not come back is forgotten. -/
theorem half_started_forgotten :
    ¬StopsStarted (wiring.attempts [.startup, .shutdown, .startup]) ∧
      ¬StartsOnce (wiring.attempts [.startup, .shutdown, .startup]) := by
  have unreached : ¬idleStop.Reaches 0 := List.not_mem_nil
  constructor
  · intro stops
    exact unreached (stops [] firstStart [] idleStop [secondStart] 0 wiring_attempts rfl
      (List.forall_mem_nil _) rfl rfl firstStart_completes)
  · intro once
    obtain ⟨c, here, -, reaches⟩ := once [] firstStart [idleStop] secondStart [] 0 wiring_attempts
      rfl rfl firstStart_completes.reaches secondStart_reaches
    rw [List.mem_singleton.mp here] at reaches
    exact unreached reaches

end DeviceBridge.Machine
