import DeviceBridge.Proofs.Machine.Notices
import Mathlib.Data.List.Chain

/-
  The life of a machine. `Lives` is what every run keeps: how its log hangs together with what the
  machine holds. `Lives.calling` is the step lemma for whatever calls APIs, `Lives.install` and
  `Lives.spawn` are those for what comes new. `lifecycle`: starts and stops take turns, the last API
  that came is the first to be stopped, numbers of threads are given once, and a machine that rests
  holds no thread. The log is tied to what is run by `Enacts`.
-/

namespace DeviceBridge.Machine

/-! ## Turns -/

/-- Starts and stops take turns, the first call is a start, and the last one is as well if and only
if the machine runs. -/
structure Alternates (calls : List HookCall) (status : MachineStatus) : Prop where
  first : calls.head? ≠ some .shutdown
  turns : calls.IsChain (· ≠ ·)
  last : calls.getLast? = some .startup ↔ status = .running

namespace Alternates

theorem nil : Alternates [] .stopped := ⟨nofun, .nil, by decide⟩

variable {calls : List HookCall}

theorem startup (alternates : Alternates calls .stopped) :
    Alternates (calls ++ [.startup]) .running := by
  obtain ⟨first, turns, last⟩ := alternates
  refine ⟨?_, ?_, by simp⟩
  · cases calls with
    | nil => nofun
    | cons call rest => exact first
  · refine List.isChain_append.mpr ⟨turns, .singleton _, ?_⟩
    rintro call ended _ ⟨⟩ rfl
    exact absurd (last.mp ended) nofun

theorem shutdown (alternates : Alternates calls .running) :
    Alternates (calls ++ [.shutdown]) .stopped := by
  obtain ⟨first, turns, last⟩ := alternates
  have ended := last.mpr rfl
  refine ⟨?_, ?_, by simp⟩
  · cases calls with
    | nil => cases ended
    | cons call rest => exact first
  · refine List.isChain_append.mpr ⟨turns, .singleton _, ?_⟩
    rintro call here _ ⟨⟩ rfl
    rw [ended] at here
    cases here

end Alternates

/-! ## What every run keeps -/

/-- The numbers rise. -/
def Rising (ids : List ThreadId) : Prop := ids.Pairwise fun id id' => id.number < id'.number

/-- The log agrees with the machine. -/
structure Lives (log : List Notice) (m : Machine) : Prop where
  installed : m.apis = installs log
  alternate : ∀ place < m.apis.length, Alternates (calls place log) m.status
  uncalled : ∀ place, m.apis.length ≤ place → calls place log = []
  idle : m.status = .stopped → m.threads = []
  ordered : Rising (m.threads.map Thread.id)
  increasing : Rising (spawns log)
  below : ∀ id ∈ spawns log, id.number < m.nextThread
  spawned : ∀ t ∈ m.threads, t.id ∈ spawns log

variable {log : List Notice} {m m' : Machine}

namespace Lives

theorem start (limits : Limits) (h : Host) : Lives [] (ofHost limits h) :=
  ⟨rfl, fun _ inside => absurd inside (Nat.not_lt_zero _), fun _ _ => rfl, fun _ => rfl, .nil,
    .nil, fun _ here => absurd here List.not_mem_nil, fun _ here => absurd here List.not_mem_nil⟩

/-- Something was noted that is neither an installation nor a thread. -/
theorem calling (lives : Lives log m) {more : List Notice} (installs : installs more = [])
    (spawns : spawns more = []) (apis : m'.apis = m.apis) (next : m.nextThread ≤ m'.nextThread)
    (threads : (m'.threads.map Thread.id).Sublist (m.threads.map Thread.id))
    (idle : m'.status = .stopped → m'.threads = [])
    (alternate : ∀ place < m.apis.length,
      Alternates (calls place log ++ calls place more) m'.status)
    (uncalled : ∀ place, m.apis.length ≤ place → calls place more = []) :
    Lives (log ++ more) m' := by
  have same : Machine.spawns (log ++ more) = Machine.spawns log := by
    rw [spawns_append, spawns, List.append_nil]
  refine ⟨?_, ?_, ?_, idle, lives.ordered.sublist threads, ?_, ?_, ?_⟩
  · rw [installs_append, installs, List.append_nil, apis]
    exact lives.installed
  · rw [apis]
    exact fun place inside => calls_append .. ▸ alternate place inside
  · rw [apis]
    intro place beyond
    rw [calls_append, lives.uncalled place beyond, uncalled place beyond]
    rfl
  · exact same ▸ lives.increasing
  · exact fun id here => Nat.lt_of_lt_of_le (lives.below id (same ▸ here)) next
  · intro t here
    obtain ⟨t', there, numbered⟩ := List.mem_map.mp (threads.subset (List.mem_map_of_mem here))
    rw [same, ← numbered]
    exact lives.spawned t' there

theorem still (lives : Lives log m) (still : Still m m') : Lives log m' := by
  obtain ⟨status, apis, next, threads⟩ := still
  rw [← List.append_nil log]
  refine lives.calling rfl rfl apis next threads (fun stopped => ?_) (fun place inside => ?_)
    fun _ _ => rfl
  · rw [lives.idle (status ▸ stopped)] at threads
    exact List.map_eq_nil_iff.mp (List.sublist_nil.mp threads)
  · rw [status]
    exact (List.append_nil (calls place log)).symm ▸ lives.alternate place inside

/-- Every API is called once. -/
theorem turn (lives : Lives log m) {more : List Notice} {call : HookCall}
    (installs : installs more = []) (spawns : spawns more = [])
    (each : ∀ place, calls place more = if place < m.apis.length then [call] else [])
    (apis : m'.apis = m.apis) (next : m.nextThread ≤ m'.nextThread)
    (threads : (m'.threads.map Thread.id).Sublist (m.threads.map Thread.id))
    (idle : m'.status = .stopped → m'.threads = [])
    (turned : ∀ calls, Alternates calls m.status → Alternates (calls ++ [call]) m'.status) :
    Lives (log ++ more) m' := by
  refine lives.calling installs spawns apis next threads idle (fun place inside => ?_)
    fun place beyond => ?_
  · rw [each, if_pos inside]
    exact turned _ (lives.alternate place inside)
  · rw [each, if_neg (Nat.not_lt.mpr beyond)]

/-- An API comes last, and is started if the machine runs. -/
theorem install (lives : Lives log m) (api : Api) :
    Lives (log ++ (m.startedLate ++ [.installed api])) { m with apis := m.apis ++ [api] } := by
  have spawns : Machine.spawns (m.startedLate ++ [.installed api]) = [] := by
    unfold startedLate
    split <;> rfl
  have installs : Machine.installs (m.startedLate ++ [.installed api]) = [api] := by
    unfold startedLate
    split <;> rfl
  have calls (place : Nat) : Machine.calls place (m.startedLate ++ [.installed api]) =
      if m.status = .running ∧ m.apis.length = place then [.startup] else [] := by
    unfold startedLate
    by_cases running : m.status = .running
    · by_cases last : m.apis.length = place <;> simp [Machine.calls, running, last]
    · simp [Machine.calls, running]
  refine ⟨?_, fun place inside => ?_, fun place beyond => ?_, lives.idle, lives.ordered, ?_, ?_, ?_⟩
  · rw [installs_append, installs, ← lives.installed]
  · show Alternates _ m.status
    rw [calls_append, calls]
    have inside : place < m.apis.length + 1 := by
      rwa [List.length_append, List.length_singleton] at inside
    rcases Nat.lt_succ_iff_lt_or_eq.mp inside with before | last
    · rw [if_neg fun here => Nat.ne_of_gt before here.2, List.append_nil]
      exact lives.alternate place before
    · rw [lives.uncalled place (Nat.le_of_eq last.symm), List.nil_append]
      cases status : m.status with
      | stopped => exact .nil
      | running =>
        rw [if_pos ⟨rfl, last.symm⟩]
        exact Alternates.nil.startup
  · have beyond : m.apis.length + 1 ≤ place := by
      rwa [List.length_append, List.length_singleton] at beyond
    rw [calls_append, calls, lives.uncalled place (Nat.le_of_succ_le beyond),
      if_neg fun here => Nat.ne_of_lt beyond here.2]
    rfl
  · rw [spawns_append, spawns, List.append_nil]
    exact lives.increasing
  · rw [spawns_append, spawns, List.append_nil]
    exact lives.below
  · rw [spawns_append, spawns, List.append_nil]
    exact lives.spawned

/-- A thread comes, and bears the next number. -/
theorem spawn (lives : Lives log m) (running : m.status = .running) {t : Thread} {h : Host}
    (numbered : t.id = ⟨m.nextThread⟩) :
    Lives (log ++ [.spawned t.id])
      { m with host := h, nextThread := m.nextThread + 1, threads := m.threads ++ [t] } := by
  have spawns : Machine.spawns (log ++ [.spawned t.id]) = Machine.spawns log ++ [t.id] :=
    spawns_append ..
  have last {ids : List ThreadId} (rising : Rising ids)
      (among : ∀ id ∈ ids, id ∈ Machine.spawns log) : Rising (ids ++ [t.id]) := by
    refine List.pairwise_append.mpr ⟨rising, List.pairwise_singleton _ _, ?_⟩
    intro id here _ there
    rw [List.mem_singleton.mp there, numbered]
    exact lives.below id (among id here)
  refine ⟨?_, fun place inside => ?_, fun place beyond => ?_, fun stopped => ?_, ?_, ?_, ?_, ?_⟩
  · rw [installs_append]
    exact (List.append_nil (installs log)).symm ▸ lives.installed
  · rw [calls_append]
    exact (List.append_nil (calls place log)).symm ▸ lives.alternate place inside
  · rw [calls_append, lives.uncalled place beyond]
    rfl
  · exact absurd (running.symm.trans stopped) nofun
  · rw [List.map_append]
    refine last lives.ordered fun id here => ?_
    obtain ⟨t', there, rfl⟩ := List.mem_map.mp here
    exact lives.spawned t' there
  · rw [spawns]
    exact last lives.increasing fun _ here => here
  · intro id here
    rw [spawns] at here
    rcases List.mem_append.mp here with before | new
    · exact Nat.lt_succ_of_lt (lives.below id before)
    · rw [List.mem_singleton.mp new, numbered]
      exact Nat.lt_succ_self _
  · intro t' here
    rw [spawns]
    rcases List.mem_append.mp here with before | new
    · exact List.mem_append_left _ (lives.spawned t' before)
    · rw [List.mem_singleton.mp new]
      exact List.mem_append_right _ (List.mem_singleton_self _)

end Lives

namespace Lives

theorem addApi (lives : Lives log m) (api : Api) (came : (m.addApi api).1 = .ok ()) :
    Lives (log ++ (Operation.addApi api).notices m) (m.addApi api).2 := by
  have exported := Still.exportApi m api
  have hooked := exported.trans (Still.runHook (m.exportApi api) api.startup)
  have late {m₁ : Machine} (still : Still m m₁) : Lives (log ++ (Operation.addApi api).notices m)
      { m₁ with apis := m₁.apis ++ [api] } := by
    have noted : m₁.startedLate = m.startedLate := by
      unfold startedLate
      rw [still.status, still.apis]
    have installed := (lives.still still).install api
    rwa [noted] at installed
  unfold Machine.addApi at came ⊢
  simp only at came ⊢
  by_cases running : (m.exportApi api).status = .running
  · rw [if_pos running] at came ⊢
    generalize (m.exportApi api).runHook api.startup = ran at came hooked ⊢
    obtain ⟨left, m₁⟩ := ran
    cases left with
    | error how => cases came
    | ok => exact late hooked
  · rw [if_neg running]
    exact late exported

theorem startup (lives : Lives log m) (came : m.startup.1 = .ok ()) :
    Lives (log ++ Operation.startup.notices m) m.startup.2 := by
  by_cases running : m.status = .running
  · unfold Machine.startup Operation.notices
    rw [if_pos running, if_pos running, List.append_nil]
    exact lives
  · have stopped : m.status = .stopped := by
      cases status : m.status with
      | stopped => rfl
      | running => exact absurd status running
    have whole : m.startup = (.ok (), m.startup.2) := Prod.ext came rfl
    obtain ⟨notices, m₁, ⟨-, apis, next, threads⟩, after⟩ := startup_came running whole
    rw [notices, after]
    refine lives.turn (installs_callEach ..) (spawns_callEach ..) (calls_callEach · ..) apis next
      threads nofun fun calls alternates => ?_
    exact (stopped ▸ alternates).startup

theorem shutdown (lives : Lives log m) (came : m.shutdown.1 = .ok ()) :
    Lives (log ++ Operation.shutdown.notices m) m.shutdown.2 := by
  by_cases stopped : m.status = .stopped
  · unfold Machine.shutdown Operation.notices
    rw [if_pos stopped, if_pos stopped, List.append_nil]
    exact lives
  · have running : m.status = .running := by
      cases status : m.status with
      | running => rfl
      | stopped => exact absurd status stopped
    have whole : m.shutdown = (.ok (), m.shutdown.2) := Prod.ext came rfl
    obtain ⟨notices, m₁, ⟨-, apis, next, -⟩, after⟩ := shutdown_came stopped whole
    have reversed {α : Type} (f : Notice → Option α) (cs : List Notice) :
        cs.reverse.filterMap f = (cs.filterMap f).reverse := List.filterMap_reverse
    have each (place : Nat) : calls place (callEach .shutdown m.apis.length).reverse =
        if place < m.apis.length then [.shutdown] else [] := by
      refine (reversed _ _).trans ((congrArg List.reverse (calls_callEach ..)).trans ?_)
      split <;> rfl
    rw [notices, after]
    refine lives.turn ?_ ?_ each apis next (List.nil_sublist _) (fun _ => rfl)
      fun calls alternates => (running ▸ alternates).shutdown
    · exact (reversed _ _).trans (congrArg List.reverse (installs_callEach ..))
    · exact (reversed _ _).trans (congrArg List.reverse (spawns_callEach ..))

/-- A call on a new thread, whatever comes of it. -/
theorem spawning (lives : Lives log m) (global method : String) (args : List Value) :
    Lives (log ++ m.spawnNotices global method args) (m.spawn global method args).2 := by
  unfold spawnNotices
  rcases m.spawn_cases global method args with
    ⟨e, refused⟩ | ⟨how, m', lost, still⟩ | ⟨running, t, h, numbered, spawned⟩
  · rw [refused, List.append_nil]
    exact lives
  · rw [lost, List.append_nil]
    exact lives.still still
  · rw [spawned]
    exact lives.spawn running numbered

/-- One case for each operation. -/
theorem perform (lives : Lives log m) (op : Operation)
    (hooks : op.CallsHooks → (op.perform m).1 = .ok ()) :
    Lives (log ++ op.notices m) (op.perform m).2 := by
  have quiet {m' : Machine} (still : Still m m') : Lives (log ++ []) m' :=
    (List.append_nil log).symm ▸ lives.still still
  cases op with
  | addApi api => exact lives.addApi api (hooks trivial)
  | startup => exact lives.startup (hooks trivial)
  | shutdown => exact lives.shutdown (hooks trivial)
  | spawn global method args => exact lives.spawning global method args
  | call global method args maxTicks =>
    exact (lives.spawning global method args).still (m.call_still global method args maxTicks)
  | pump => exact quiet (.pump m)
  | tick => exact quiet (.tick m)
  | mainTick => exact quiet (.mainTick m)
  | takeResult id => exact quiet (.takeResult m id)
  | queueEvent | change | addDevice | addSource | submit => exact quiet (.withHost m _)

end Lives

/-! ## Runs -/

/-- By induction on the run. -/
theorem Lived.lives {limits : Limits} (lived : Lived limits log m) : Lives log m := by
  induction lived with
  | start h => exact .start limits h
  | step _ op hooks ih => exact ih.perform op hooks

/-- A call is refused before anything is changed, if the machine does not run or there is no such
function; and whenever it is refused, nothing is changed. -/
structure Refuses (m : Machine) : Prop where
  stopped (stopped : m.status ≠ .running) (global method : String) (args : List Value) :
    m.spawn global method args = (.ok (.error .notRunning), m)
  unknown (running : m.status = .running) {global method : String} {e : MachineError}
    (unknown : m.function global method = .error e) (args : List Value) :
    m.spawn global method args = (.ok (.error e), m)
  unchanged {global method : String} {args : List Value} {e : MachineError} {m' : Machine}
    (refused : m.spawn global method args = (.ok (.error e), m')) : m' = m

theorem refuses (m : Machine) : Refuses m := by
  refine ⟨fun stopped global method args => if_pos stopped, ?_, ?_⟩
  · intro running global method e unknown args
    unfold spawn
    rw [if_neg (not_not_intro running), unknown]
  · intro global method args e m' refused
    rcases m.spawn_cases global method args with
      ⟨e, same⟩ | ⟨how, m', lost, -⟩ | ⟨-, t, h, -, spawned⟩
    · rw [same] at refused
      cases refused
      rfl
    · rw [lost] at refused
      cases refused
    · rw [spawned] at refused
      cases refused

/-- The log says what is run. An operation that calls APIs runs the hooks that it notes, in the
order in which they stand there, and no other: a start or a stop that comes back, an installation
while the machine runs. One that is repeated notes nothing and changes nothing. Whatever else is
done does not depend on the hooks, so it runs none. -/
structure Enacts (m : Machine) : Prop where
  starts {m' : Machine} (stopped : m.status = .stopped) (came : m.startup = (.ok (), m')) :
    Operation.startup.notices m = callEach .startup m.apis.length ∧
    m' = { (m.starting.runHooks (hooksIn m.apis (Operation.startup.notices m))).2 with
      status := .running }
  restarts (running : m.status = .running) :
    Operation.startup.notices m = [] ∧ m.startup = (.ok (), m)
  stops {m' : Machine} (running : m.status = .running) (came : m.shutdown = (.ok (), m')) :
    Operation.shutdown.notices m = (callEach .shutdown m.apis.length).reverse ∧
    ∃ m₁, m₁ = (m.stopping.runHooks (hooksIn m.apis (Operation.shutdown.notices m))).2 ∧
      m' = { m₁ with host := m₁.host.drainEvents.2, threads := [], status := .stopped }
  rests (stopped : m.status = .stopped) :
    Operation.shutdown.notices m = [] ∧ m.shutdown = (.ok (), m)
  installs {api : Api} {m' : Machine} (came : m.addApi api = (.ok (), m')) :
    m'.apis = m.apis ++ [api] ∧
    m'.withApis m.apis = ((m.exportApi api).runHooks
      (hooksIn m'.apis ((Operation.addApi api).notices m))).2
  heeds (op : Operation) (plain : ¬op.CallsHooks) (apis : List Api) :
    op.perform (m.withApis apis) = ((op.perform m).1, (op.perform m).2.withApis apis)

/-- A start that comes back runs the hooks that it notes. -/
theorem starts_noted (stopped : m.status = .stopped) (came : m.startup = (.ok (), m')) :
    Operation.startup.notices m = callEach .startup m.apis.length ∧
    m' = { (m.starting.runHooks (hooksIn m.apis (Operation.startup.notices m))).2 with
      status := .running } := by
  have resting : m.status ≠ .running := fun running => nomatch stopped.symm.trans running
  have noted := (startup_came resting came).1
  refine ⟨noted, ?_⟩
  rw [noted, hooksIn_callEach]
  rw [startup_stopped resting] at came
  split at came
  · next m₁ ran =>
    cases came
    exact congrArg (fun m₁ : Machine => { m₁ with status := MachineStatus.running })
      (congrArg Prod.snd ran).symm
  · next failed => exact absurd came (failed _)

/-- A stop that comes back runs the hooks that it notes. -/
theorem stops_noted (running : m.status = .running) (came : m.shutdown = (.ok (), m')) :
    Operation.shutdown.notices m = (callEach .shutdown m.apis.length).reverse ∧
    ∃ m₁, m₁ = (m.stopping.runHooks (hooksIn m.apis (Operation.shutdown.notices m))).2 ∧
      m' = { m₁ with host := m₁.host.drainEvents.2, threads := [], status := .stopped } := by
  have moving : m.status ≠ .stopped := fun stopped => nomatch running.symm.trans stopped
  have noted := (shutdown_came moving came).1
  have hooks : hooksIn m.apis (Operation.shutdown.notices m) =
      m.apis.reverse.map (·.shutdown) := by
    rw [noted, List.map_reverse]
    exact List.filterMap_reverse.trans (congrArg List.reverse (hooksIn_callEach .shutdown m.apis))
  refine ⟨noted, _, rfl, ?_⟩
  rw [hooks]
  rw [shutdown_running moving] at came
  split at came
  · next m₁ ran =>
    cases came
    rw [ran]
  · next failed => exact absurd came (failed _)

/-- An API that comes is called if the machine runs, and then the last of all. -/
theorem hooksIn_late (m : Machine) (api : Api) :
    hooksIn (m.apis ++ [api]) ((Operation.addApi api).notices m) =
      if m.status = .running then [api.startup] else [] := by
  show hooksIn (m.apis ++ [api]) (m.startedLate ++ [.installed api]) = _
  unfold startedLate
  by_cases running : m.status = .running
  · have last : (m.apis ++ [api])[m.apis.length]? = some api := List.getElem?_concat_length
    rw [if_pos running, if_pos running]
    simp only [hooksIn, List.cons_append, List.nil_append, List.filterMap_cons, last,
      Option.map_some, HookCall.hook, List.filterMap_nil]
  · rw [if_neg running, if_neg running]
    rfl

/-- An installation runs the hook that it notes, if any. -/
theorem installs_noted {api : Api} (came : m.addApi api = (.ok (), m')) :
    m'.apis = m.apis ++ [api] ∧
    m'.withApis m.apis = ((m.exportApi api).runHooks
      (hooksIn m'.apis ((Operation.addApi api).notices m))).2 := by
  have still := Still.exportApi m api
  unfold addApi at came
  simp only at came
  by_cases running : (m.exportApi api).status = .running
  · have hooked := Still.runHook (m.exportApi api) api.startup
    rw [if_pos running] at came
    cases ran : (m.exportApi api).runHook api.startup with
    | mk left m₁ =>
      rw [ran] at came hooked
      cases left with
      | error how => cases came
      | ok =>
        cases came
        have apis : m₁.apis = m.apis := hooked.apis.trans still.apis
        have whole : m₁.withApis m.apis = m₁ := apis ▸ rfl
        have ending : ((m.exportApi api).runHooks [api.startup]).2 = m₁ := by
          simp only [runHooks, ran]
        refine ⟨congrArg (· ++ [api]) apis, whole.trans ?_⟩
        simp only [apis]
        rw [hooksIn_late, if_pos (still.status ▸ running), ending]
  · rw [if_neg running] at came
    cases came
    have whole : (m.exportApi api).withApis m.apis = m.exportApi api := still.apis ▸ rfl
    refine ⟨congrArg (· ++ [api]) still.apis, whole.trans ?_⟩
    simp only [still.apis]
    rw [hooksIn_late, if_neg (still.status ▸ running)]
    rfl

theorem enacts (m : Machine) : Enacts m where
  starts := starts_noted
  restarts running := ⟨if_pos running, if_pos running⟩
  stops := stops_noted
  rests stopped := ⟨if_pos stopped, if_pos stopped⟩
  installs := installs_noted
  heeds op plain apis := perform_withApis apis op plain m

/-- A stop, if the machine runs: the APIs are called one after the other, the last one that came
first, and then no thread is left and no event, not even one that came from their hooks. -/
structure Stops (m m' : Machine) : Prop where
  order : Operation.shutdown.notices m =
    ((List.range m.apis.length).map (.called · .shutdown)).reverse
  status : m'.status = .stopped
  threads : m'.threads = []
  events : m'.host.events = []

/-- The life of a machine, whatever is done with it, as long as the hooks of its APIs come back.
Every API that was installed, whether before a start or late and whatever became of its names, is
started and stopped in turns, a start first, and it is started just while the machine runs; what the
log says of this is what was run. A stop calls the APIs in the reverse order of installation and
leaves neither threads nor events. A machine that rests holds no thread, numbers of threads rise and
are given once, and a call that is refused changes nothing. -/
theorem lifecycle {limits : Limits} (lived : Lived limits log m) :
    Lives log m ∧ Enacts m ∧ Refuses m ∧
      ∀ m', m.status = .running → m.shutdown = (.ok (), m') → Stops m m' := by
  refine ⟨lived.lives, m.enacts, m.refuses, fun m' running came => ?_⟩
  have moving : m.status ≠ .stopped := fun stopped => nomatch running.symm.trans stopped
  obtain ⟨threads, events, status⟩ := shutdown_leaves running came
  exact ⟨(shutdown_came moving came).1, status, threads, events⟩

/-! ## Two APIs under one name -/

/-- An API that notes its calls, and leaves an event behind when it is stopped. -/
def diaryApi (label : String) : Api where
  names := ["diary"]
  declaration := ⟨.named label, label, true, [],
    [MethodDecl.plain ⟨3⟩ "read" .outcome fun _ => Code.pullEventRaw none Code.done]⟩
  object := .registry
  startup := .ask (.note (label ++ " opened")) fun _ => .command .start Code.unit
  shutdown := .ask (.note (label ++ " closed")) fun _ => .command (.set .top (some ⟨0⟩)) Code.unit

/-- The second API comes while the machine runs, and takes the name of the first one. -/
def diaryMachine : Machine :=
  [Operation.addDevice (Device.plain .speaker "stand" (ClassDecl.plain .speaker "Stand" [])
      .stateless),
    .addApi (diaryApi "first"), .startup, .addApi (diaryApi "second"),
    .spawn "diary" "read" []].foldl (fun m op => (op.perform m).2)
    (ofHost ⟨2, 0⟩ (Host.new Config.default))

def diaryShut : Machine := (Operation.shutdown.perform diaryMachine).2

/-- A later session. -/
def diaryLater : Machine :=
  [Operation.startup, .spawn "diary" "read" []].foldl (fun m op => (op.perform m).2) diaryShut

/-- Both are started and stopped, the second one first, and no event is left of those that their
hooks queued; and the later thread bears another number. -/
theorem lifecycle_diary : Stops diaryMachine diaryShut ∧
    (∃ log, Lived ⟨2, 0⟩ log diaryLater ∧ Alternates (calls 0 log) .running ∧
      Alternates (calls 1 log) .running ∧ spawns log = [⟨1⟩, ⟨2⟩]) ∧
    (diaryMachine.stopping.runHooks (diaryMachine.apis.reverse.map (·.shutdown))).2.host.events ≠
      [] ∧
    diaryLater.threads.map Thread.id = [⟨2⟩] ∧
    diaryLater.host.journal = ["first opened", "second opened", "second closed", "first closed",
      "first opened", "second opened"] := by
  obtain ⟨log, opened, spawned⟩ : ∃ log, Lived ⟨2, 0⟩ log diaryMachine ∧ spawns log = [⟨1⟩] := by
    have device := (Lived.start (Host.new Config.default) : Lived ⟨2, 0⟩ [] _).step
      (.addDevice (Device.plain .speaker "stand" (ClassDecl.plain .speaker "Stand" []) .stateless))
      nofun
    have first := device.step (.addApi (diaryApi "first")) fun _ => rfl
    have second := (first.step .startup fun _ => rfl).step (.addApi (diaryApi "second"))
      fun _ => rfl
    exact ⟨_, second.step (.spawn "diary" "read" []) nofun, rfl⟩
  have shut := opened.step .shutdown fun _ => rfl
  have later := (shut.step .startup fun _ => rfl).step (.spawn "diary" "read" []) nofun
  obtain ⟨-, -, -, stops⟩ := lifecycle opened
  obtain ⟨lives, -⟩ := lifecycle later
  refine ⟨stops diaryShut rfl rfl, ⟨_, later, lives.alternate 0 (by decide),
    lives.alternate 1 (by decide), ?_⟩, List.cons_ne_nil _ _, rfl, rfl⟩
  rw [spawns_append, spawns_append, spawns_append, spawned]
  rfl

end DeviceBridge.Machine
