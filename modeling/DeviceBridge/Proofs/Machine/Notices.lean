import DeviceBridge.Proofs.Machine.Recording

/-
  What happens to the APIs and the threads of a machine, noted in a log. A run keeps it (`Lived`),
  and `Operation.notices` works it out next to the operations. APIs go by their place in the order
  of installation, and keep it whatever becomes of their global names.

  Most operations call no API and add no thread (`Still`). Of the others, `startup_came` and
  `shutdown_came` say in which order the APIs are called, and `spawn_cases` when a thread comes.
-/

namespace DeviceBridge.Machine

/-! ## The log -/

/-- The two calls that an API gets. -/
inductive HookCall where
  | startup
  | shutdown
deriving Repr, DecidableEq

/-- The hook that a call runs. -/
def HookCall.hook : HookCall → Api → Code
  | startup, api => api.startup
  | shutdown, api => api.shutdown

inductive Notice where
  | installed (api : Api)
  /-- An API is called, by its place in the order of installation. -/
  | called (place : Nat) (call : HookCall)
  | spawned (id : ThreadId)

/-- The installed APIs, in order. -/
def installs (log : List Notice) : List Api :=
  log.filterMap fun
    | .installed api => some api
    | _ => none

/-- The calls of one API. -/
def calls (place : Nat) (log : List Notice) : List HookCall :=
  log.filterMap fun
    | .called other call => if other = place then some call else none
    | _ => none

/-- The threads that came. -/
def spawns (log : List Notice) : List ThreadId :=
  log.filterMap fun
    | .spawned id => some id
    | _ => none

theorem installs_append (log more : List Notice) :
    installs (log ++ more) = installs log ++ installs more := List.filterMap_append

theorem calls_append (place : Nat) (log more : List Notice) :
    calls place (log ++ more) = calls place log ++ calls place more := List.filterMap_append

theorem spawns_append (log more : List Notice) :
    spawns (log ++ more) = spawns log ++ spawns more := List.filterMap_append

/-- The hooks that are called, up to one that does not come back. -/
def hooksCalled (m : Machine) : List (Notice × Code) → List Notice
  | [] => []
  | (notice, hook) :: rest => notice :: match m.runHook hook with
    | (.ok (), m) => m.hooksCalled rest
    | (.error _, _) => []

/-- A hook of every API, each with its notice. -/
def hooks (m : Machine) (call : HookCall) (hook : Api → Code) : List (Notice × Code) :=
  m.apis.zipIdx.map fun (api, place) => (.called place call, hook api)

/-- The hooks that a log has called, of APIs that are there. -/
def hooksIn (apis : List Api) (log : List Notice) : List Code :=
  log.filterMap fun
    | .called place call => apis[place]?.map call.hook
    | _ => none

/-- An API that comes while the machine runs is called at once. -/
def startedLate (m : Machine) : List Notice :=
  if m.status = .running then [.called m.apis.length .startup] else []

def spawnNotices (m : Machine) (global method : String) (args : List Value) : List Notice :=
  match m.spawn global method args with
  | (.ok (.ok id), _) => [.spawned id]
  | _ => []

namespace Operation

/-- What is noted of an operation; of one that installs an API, if it comes back. -/
def notices (m : Machine) : Operation → List Notice
  | addApi api => m.startedLate ++ [.installed api]
  | startup => if m.status = .running then [] else
    m.starting.hooksCalled (m.hooks .startup (·.startup))
  | shutdown => if m.status = .stopped then [] else
    m.stopping.hooksCalled (m.hooks .shutdown (·.shutdown)).reverse
  | spawn global method args | call global method args _ => m.spawnNotices global method args
  | _ => []

/-- The operation calls hooks of APIs. -/
def CallsHooks : Operation → Prop
  | addApi _ | startup | shutdown => True
  | _ => False

end Operation

/-- The machines that operations lead to, with what was noted on the way. The hooks of APIs come
back; other operations may be left in mid-air. -/
inductive Lived (limits : Limits) : List Notice → Machine → Prop where
  | start (h : Host) : Lived limits [] (ofHost limits h)
  | step {log : List Notice} {m : Machine} (before : Lived limits log m) (op : Operation)
      (hooks : op.CallsHooks → (op.perform m).1 = .ok ()) :
      Lived limits (log ++ op.notices m) (op.perform m).2

/-! ## Nothing to note -/

/-- No API was called or came, and no thread came. -/
structure Still (m m' : Machine) : Prop where
  status : m'.status = m.status
  apis : m'.apis = m.apis
  nextThread : m.nextThread ≤ m'.nextThread
  threads : (m'.threads.map Thread.id).Sublist (m.threads.map Thread.id)

variable {m m' : Machine}

namespace Still

theorem refl (m : Machine) : Still m m := ⟨rfl, rfl, Nat.le_refl _, .refl _⟩

theorem trans {a b c : Machine} (ab : Still a b) (bc : Still b c) : Still a c :=
  ⟨bc.status.trans ab.status, bc.apis.trans ab.apis, Nat.le_trans ab.nextThread bc.nextThread,
    bc.threads.trans ab.threads⟩

theorem withHost (m : Machine) (h : Host) : Still m (m.withHost h) :=
  ⟨rfl, rfl, Nat.le_refl _, .refl _⟩

theorem takeResult (m : Machine) (id : ThreadId) : Still m (m.takeResult id).2 := by
  unfold Machine.takeResult
  split
  · exact refl m
  · split
    · exact refl m
    · exact ⟨rfl, rfl, Nat.le_refl _, List.filter_sublist.map _⟩

/-! ### Events -/

/-- A thread that is resumed keeps its number. -/
theorem resume_id (t : Thread) (depth : Nat) (event : List Value) (h : Host) :
    (t.resume depth event h).2.1.id = t.id := by
  unfold Thread.resume
  split
  · rfl
  · split <;> rfl

/-- By induction on the threads. -/
theorem deliver_ids (depth : Nat) (event : List Value) (threads : List Thread) : ∀ h : Host,
    (Thread.deliver depth event h threads).2.1.map Thread.id = threads.map Thread.id := by
  induction threads with
  | nil => exact fun _ => rfl
  | cons t rest ih =>
    intro h
    have first := resume_id t depth event h
    unfold Thread.deliver
    split
    · split
      · next resumed =>
        rw [resumed] at first
        exact congrArg (· :: _) first
      · next t' h' resumed =>
        rw [resumed] at first
        have others := ih h'
        split <;> next delivered =>
          rw [delivered] at others
          rw [List.map_cons, List.map_cons, first]
          exact congrArg (t.id :: ·) others
    · exact congrArg (t.id :: ·) (ih h)

/-- By induction on the events that may be delivered. -/
theorem pumpUpTo (more : Nat) : ∀ (delivered : Nat) (m : Machine),
    Still m (m.pumpUpTo delivered more).2 := by
  induction more with
  | zero => exact fun _ => refl
  | succ more ih =>
    intro delivered m
    unfold Machine.pumpUpTo
    cases m.host.popEvent with
    | none => exact refl m
    | some next =>
      obtain ⟨event, h⟩ := next
      simp only
      have ids := deliver_ids m.limits.depth event m.threads h
      cases given : Thread.deliver m.limits.depth event h m.threads with
      | mk woke left =>
        obtain ⟨threads, h₁⟩ := left
        rw [given] at ids
        have delivered : Still m { m with threads, host := h₁ } :=
          ⟨rfl, rfl, Nat.le_refl _, ids ▸ .refl _⟩
        cases woke with
        | error how => exact delivered
        | ok woke => exact delivered.trans (ih _ _)

theorem pump (m : Machine) : Still m m.pump.2 := pumpUpTo _ 0 m

theorem mainTick (m : Machine) : Still m m.mainTick.2 := withHost m _

theorem tick (m : Machine) : Still m m.tick.2 := by
  have ran := mainTick m
  unfold Machine.tick
  split
  · next ticked =>
    rw [ticked] at ran
    exact ran
  · next m₁ ticked =>
    rw [ticked] at ran
    have pumped := ran.trans (pump m₁)
    split <;> next came =>
      rw [came] at pumped
      exact pumped

/-- By induction on the ticks that are left. -/
theorem tickUntilDone (id : ThreadId) (more : Nat) : ∀ m : Machine,
    Still m (m.tickUntilDone id more).2 := by
  induction more with
  | zero => exact refl
  | succ more ih =>
    intro m
    have ticked := tick m
    unfold Machine.tickUntilDone
    split
    · exact refl m
    · split
      · exact refl m
      · split <;> next came =>
          rw [came] at ticked
          first
          | exact ticked
          | exact ticked.trans (ih _)

/-! ### Hooks and names -/

theorem runHook (m : Machine) (hook : Code) : Still m (m.runHook hook).2 := by
  rw [runHook_eq]
  exact withHost m _

/-- By induction on the hooks. -/
theorem runHooks (hooks : List Code) : ∀ m : Machine, Still m (m.runHooks hooks).2 := by
  induction hooks with
  | nil => exact refl
  | cons hook rest ih =>
    intro m
    have first := runHook m hook
    unfold Machine.runHooks
    split
    · next ran =>
      rw [ran] at first
      exact first.trans (ih _)
    · exact first

/-- What a name stood for before does not matter. By induction on the names. -/
theorem exportAll (global : Global) (names : List String) : ∀ m : Machine,
    Still m (names.foldl (exportAs global) m) := by
  induction names with
  | nil => exact refl
  | cons name rest ih =>
    intro m
    have first : Still m (exportAs global m name) := ⟨rfl, rfl, Nat.le_refl _, .refl _⟩
    exact first.trans (ih _)

theorem exportApi (m : Machine) (api : Api) : Still m (m.exportApi api) :=
  (withHost m _).trans (exportAll _ api.names _)

end Still

/-! ## Nothing called -/

/-- The same machine with other APIs. -/
def withApis (m : Machine) (apis : List Api) : Machine := { m with apis }

section Heedless

variable (apis : List Api)

theorem spawn_withApis (m : Machine) (global method : String) (args : List Value) :
    (m.withApis apis).spawn global method args =
      ((m.spawn global method args).1, (m.spawn global method args).2.withApis apis) := by
  unfold spawn
  by_cases stopped : m.status ≠ .running
  · rw [if_pos stopped, if_pos (show (m.withApis apis).status ≠ .running from stopped)]
  · rw [if_neg stopped, if_neg (show ¬(m.withApis apis).status ≠ .running from stopped)]
    have same : (m.withApis apis).function global method = m.function global method := rfl
    rw [same]
    cases m.function global method with
    | error e => rfl
    | ok f =>
      cases ran : f.invoke m.limits.depth (Arguments.ofList args) m.host with
      | mk left h => cases left <;> simp only [withApis, withHost, ran]

/-- By induction on the events that may be delivered. -/
theorem pumpUpTo_withApis (more : Nat) : ∀ (delivered : Nat) (m : Machine),
    (m.withApis apis).pumpUpTo delivered more =
      ((m.pumpUpTo delivered more).1, (m.pumpUpTo delivered more).2.withApis apis) := by
  induction more with
  | zero => exact fun _ _ => rfl
  | succ more ih =>
    intro delivered m
    unfold pumpUpTo
    cases popped : m.host.popEvent with
    | none => simp only [withApis, popped]
    | some next =>
      obtain ⟨event, h⟩ := next
      cases given : Thread.deliver m.limits.depth event h m.threads with
      | mk woke left =>
        obtain ⟨threads, h₁⟩ := left
        cases woke with
        | error how => simp only [withApis, popped, given]
        | ok woke =>
          have later := ih (if woke then delivered + 1 else delivered)
            { m with threads, host := h₁ }
          simp only [withApis] at later
          simp only [withApis, popped, given, later]

theorem tick_withApis (m : Machine) :
    (m.withApis apis).tick = (m.tick.1, m.tick.2.withApis apis) := by
  have ran : (m.withApis apis).mainTick = (m.mainTick.1, m.mainTick.2.withApis apis) := rfl
  unfold tick
  rw [ran]
  cases m.mainTick with
  | mk ran m₁ =>
    cases ran with
    | error how => rfl
    | ok ran =>
      have pumped : (m₁.withApis apis).pump = (m₁.pump.1, m₁.pump.2.withApis apis) :=
        pumpUpTo_withApis apis _ 0 m₁
      simp only [pumped]
      cases m₁.pump with
      | mk woke m₂ => cases woke <;> rfl

/-- By induction on the ticks that are left. -/
theorem tickUntilDone_withApis (id : ThreadId) (more : Nat) : ∀ m : Machine,
    (m.withApis apis).tickUntilDone id more =
      ((m.tickUntilDone id more).1, (m.tickUntilDone id more).2.withApis apis) := by
  induction more with
  | zero => exact fun _ => rfl
  | succ more ih =>
    intro m
    unfold tickUntilDone
    have same : (m.withApis apis).thread? id = m.thread? id := rfl
    rw [same, tick_withApis]
    cases m.thread? id with
    | none => rfl
    | some t =>
      by_cases done : t.state.isDone = true
      · simp only [if_pos done]
      · simp only [if_neg done]
        cases m.tick with
        | mk ran m₁ =>
          cases ran with
          | error how => rfl
          | ok ran => exact ih m₁

theorem takeResult_withApis (m : Machine) (id : ThreadId) :
    (m.withApis apis).takeResult id =
      ((m.takeResult id).1, (m.takeResult id).2.withApis apis) := by
  unfold takeResult
  have same : (m.withApis apis).thread? id = m.thread? id := rfl
  rw [same]
  cases m.thread? id with
  | none => rfl
  | some t =>
    cases state : t.state with
    | parked => simp only [state]
    | done result =>
      simp only [state]
      rfl

theorem call_withApis (m : Machine) (global method : String) (args : List Value)
    (maxTicks : Nat) : (m.withApis apis).call global method args maxTicks =
      ((m.call global method args maxTicks).1,
        (m.call global method args maxTicks).2.withApis apis) := by
  unfold call
  rw [spawn_withApis]
  cases m.spawn global method args with
  | mk left m₁ =>
    cases left with
    | error how => rfl
    | ok spawned =>
      cases spawned with
      | error e => rfl
      | ok id =>
        simp only [tickUntilDone_withApis]
        cases m₁.tickUntilDone id maxTicks with
        | mk left m₂ =>
          cases left with
          | error how => rfl
          | ok => simp only [takeResult_withApis]

/-- An operation that calls no hooks does the same whatever the APIs and their hooks are. -/
theorem perform_withApis (op : Operation) (plain : ¬op.CallsHooks) (m : Machine) :
    op.perform (m.withApis apis) = ((op.perform m).1, (op.perform m).2.withApis apis) := by
  cases op with
  | addApi api => exact absurd trivial plain
  | startup => exact absurd trivial plain
  | shutdown => exact absurd trivial plain
  | spawn global method args =>
    exact congrArg Operation.finished (spawn_withApis apis m global method args)
  | call global method args maxTicks =>
    exact congrArg Operation.finished (call_withApis apis m global method args maxTicks)
  | pump => exact congrArg Operation.finished (pumpUpTo_withApis apis _ 0 m)
  | tick => exact congrArg Operation.finished (tick_withApis apis m)
  | takeResult id =>
    have taken := congrArg Prod.snd (takeResult_withApis apis m id)
    exact congrArg (Prod.mk _) taken
  | mainTick | queueEvent | change | addDevice | addSource | submit => rfl

end Heedless

/-! ## Something to note -/

/-- When all hooks come back, all have been called. By induction on the hooks. -/
theorem hooksCalled_eq (cs : List (Notice × Code)) : ∀ {m m' : Machine},
    m.runHooks (cs.map Prod.snd) = (.ok (), m') → m.hooksCalled cs = cs.map Prod.fst := by
  induction cs with
  | nil => exact fun _ => rfl
  | cons c rest ih =>
    intro m m' ran
    unfold runHooks at ran
    unfold hooksCalled
    simp only [List.map_cons] at ran ⊢
    cases first : m.runHook c.2 with
    | mk left m₁ =>
      rw [first] at ran
      cases left with
      | error how => cases ran
      | ok => exact congrArg (c.1 :: ·) (ih ran)

/-- A call of each of the first APIs. -/
def callEach (call : HookCall) (count : Nat) : List Notice :=
  (List.range count).map (.called · call)

/-- By induction on the number of APIs. -/
theorem calls_callEach (place : Nat) (call : HookCall) (count : Nat) :
    calls place (callEach call count) = if place < count then [call] else [] := by
  induction count with
  | zero => rfl
  | succ count ih =>
    unfold callEach at ih ⊢
    rw [List.range_succ, List.map_append, calls_append, ih]
    rcases Nat.lt_trichotomy place count with before | last | beyond
    · simp [calls, before, Nat.lt_succ_of_lt before, Nat.ne_of_gt before]
    · simp [calls, last]
    · simp [calls, Nat.not_lt_of_gt beyond, Nat.not_lt.mpr (Nat.succ_le_of_lt beyond),
        Nat.ne_of_lt beyond]

theorem hooks_snd (m : Machine) (call : HookCall) (hook : Api → Code) :
    (m.hooks call hook).map Prod.snd = m.apis.map hook := by
  have apis := congrArg (List.map hook) (List.zipIdx_map_fst 0 m.apis)
  rw [List.map_map] at apis
  unfold hooks
  rw [List.map_map]
  exact apis

theorem hooks_fst (m : Machine) (call : HookCall) (hook : Api → Code) :
    (m.hooks call hook).map Prod.fst = callEach call m.apis.length := by
  have places := congrArg (List.map (Notice.called · call)) (List.zipIdx_map_snd 0 m.apis)
  rw [List.map_map, ← List.range_eq_range'] at places
  unfold hooks callEach
  rw [List.map_map]
  exact places

/-- By induction on the APIs. -/
theorem hooksIn_callEach (call : HookCall) (apis : List Api) :
    hooksIn apis (callEach call apis.length) = apis.map call.hook := by
  unfold hooksIn callEach
  rw [List.filterMap_map]
  induction apis with
  | nil => rfl
  | cons api rest ih =>
    rw [List.length_cons, List.range_succ_eq_map, List.filterMap_cons, List.filterMap_map]
    exact congrArg (call.hook api :: ·) ih

theorem installs_callEach (call : HookCall) (count : Nat) : installs (callEach call count) = [] :=
  List.filterMap_eq_nil_iff.mpr fun notice here => by
    obtain ⟨place, -, rfl⟩ := List.mem_map.mp here
    rfl

theorem spawns_callEach (call : HookCall) (count : Nat) : spawns (callEach call count) = [] :=
  List.filterMap_eq_nil_iff.mpr fun notice here => by
    obtain ⟨place, -, rfl⟩ := List.mem_map.mp here
    rfl

/-- A start calls the APIs in the order of installation, and then the machine runs. -/
theorem startup_came (stopped : m.status ≠ .running) (came : m.startup = (.ok (), m')) :
    Operation.startup.notices m = callEach .startup m.apis.length ∧
      ∃ m₁, Still m m₁ ∧ m' = { m₁ with status := .running } := by
  rw [startup_stopped stopped, ← m.hooks_snd .startup] at came
  cases ran : m.starting.runHooks ((m.hooks .startup (·.startup)).map Prod.snd) with
  | mk left m₁ =>
    rw [ran] at came
    cases left with
    | error how => cases came
    | ok =>
      cases came
      have still := Still.runHooks ((m.hooks .startup (·.startup)).map Prod.snd) m.starting
      rw [ran] at still
      refine ⟨?_, m₁, (Still.withHost m _).trans still, rfl⟩
      unfold Operation.notices
      rw [if_neg stopped, hooksCalled_eq _ ran, hooks_fst]

/-- A stop calls the APIs in the reverse order, and then nothing is left. -/
theorem shutdown_came (running : m.status ≠ .stopped) (came : m.shutdown = (.ok (), m')) :
    Operation.shutdown.notices m = (callEach .shutdown m.apis.length).reverse ∧
      ∃ m₁, Still m m₁ ∧ m' = { m₁ with
        host := m₁.host.drainEvents.2, threads := [], status := .stopped } := by
  have reversed : m.apis.reverse.map (·.shutdown) =
      (m.hooks .shutdown (·.shutdown)).reverse.map Prod.snd := by
    rw [List.map_reverse, List.map_reverse, hooks_snd]
  rw [shutdown_running running, reversed] at came
  cases ran : m.stopping.runHooks ((m.hooks .shutdown (·.shutdown)).reverse.map Prod.snd) with
  | mk left m₁ =>
    rw [ran] at came
    cases left with
    | error how => cases came
    | ok =>
      cases came
      have still :=
        Still.runHooks ((m.hooks .shutdown (·.shutdown)).reverse.map Prod.snd) m.stopping
      rw [ran] at still
      refine ⟨?_, m₁, (Still.withHost m _).trans still, rfl⟩
      unfold Operation.notices
      rw [if_neg running, hooksCalled_eq _ ran, List.map_reverse, hooks_fst]

/-- A call on a new thread is refused and changes nothing, or it does not come back, or the thread
comes with the next number. -/
theorem spawn_cases (m : Machine) (global method : String) (args : List Value) :
    (∃ e, m.spawn global method args = (.ok (.error e), m)) ∨
    (∃ how m', m.spawn global method args = (.error how, m') ∧ Still m m') ∨
    m.status = .running ∧ ∃ t h, t.id = ⟨m.nextThread⟩ ∧
      m.spawn global method args = (.ok (.ok t.id),
        { m with host := h, nextThread := m.nextThread + 1, threads := m.threads ++ [t] }) := by
  unfold spawn
  by_cases stopped : m.status ≠ .running
  · exact .inl ⟨.notRunning, if_pos stopped⟩
  · rw [if_neg stopped]
    cases m.function global method with
    | error e => exact .inl ⟨e, rfl⟩
    | ok f =>
      simp only
      cases f.invoke m.limits.depth (Arguments.ofList args) m.host with
      | mk left h =>
        cases left with
        | error how => exact .inr (.inl ⟨how, _, rfl, rfl, rfl, Nat.le_succ _, .refl _⟩)
        | ok step =>
          exact .inr (.inr ⟨Decidable.not_not.mp stopped,
            ⟨⟨m.nextThread⟩, global ++ "." ++ method, 0, .ofStep step⟩, _, rfl, rfl⟩)

/-- Behind the call on a new thread no other thread comes. -/
theorem call_still (m : Machine) (global method : String) (args : List Value) (maxTicks : Nat) :
    Still (m.spawn global method args).2 (m.call global method args maxTicks).2 := by
  unfold call
  split
  · next spawned =>
    rw [spawned]
    exact .refl _
  · next spawned =>
    rw [spawned]
    exact .refl _
  · next id m₁ spawned =>
    rw [spawned]
    have ticked := Still.tickUntilDone id maxTicks m₁
    split
    · next came =>
      rw [came] at ticked
      exact ticked
    · next came =>
      rw [came] at ticked
      exact ticked.trans (Still.takeResult _ id)

end DeviceBridge.Machine
