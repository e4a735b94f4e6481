import DeviceBridge.Proofs.Machine.Answers

/-
  What outlives a shutdown. A shutdown drops the threads and takes out all events, but the tasks
  that wait for the main thread stay (`Machine.shutdown_leaves`). `Onward` is what is done with a
  machine after some point, with what happens from there on. Tasks are run in the order in which
  they wait, and threads are given events that were queued since (`Onward.accounts`,
  `Onward.handed`); so the tasks that were left over are all that an earlier session can still do
  in a later one (`apart_iff_no_task_left`).
-/

namespace DeviceBridge

open Chronicle

/-! ## What threads are given -/

/-- An event that a thread is given was taken out before. -/
def Handed (before : List Incident) : Incident → Prop
  | .entered _ (some event) => event ∈ taken before
  | _ => True

namespace Incident

/-- No thread is given an event, unless it is this one. -/
def Gives (event : Option (List Value)) : Incident → Prop
  | entered _ cause => cause = none ∨ cause = event
  | _ => True

theorem Plain.gives {x : Incident} (plain : x.Plain) (event : Option (List Value)) :
    x.Gives event := by
  cases x <;> trivial

theorem Gives.handed {x : Incident} {event : List Value} (gives : x.Gives (some event))
    {before : List Incident} (out : event ∈ Chronicle.taken before) : Handed before x := by
  cases x with
  | entered thread cause =>
    rcases gives with rfl | rfl
    · trivial
    · exact out
  | _ => trivial

theorem Gives.quiet {x : Incident} (gives : x.Gives none) (before : List Incident) :
    Handed before x := by
  cases x with
  | entered thread cause =>
    rcases gives with rfl | rfl <;> trivial
  | _ => trivial

end Incident

theorem Handed.longer {before : List Incident} {x : Incident} (handed : Handed before x)
    (log : List Incident) : Handed (log ++ before) x := by
  cases x with
  | entered thread cause =>
    cases cause with
    | none => trivial
    | some event =>
      show event ∈ taken (log ++ before)
      rw [taken_append]
      exact List.mem_append_right _ handed
  | _ => trivial

theorem handed_append {log more : List Incident} (first : Each Handed log)
    (second : Each Handed more) : Each Handed (log ++ more) :=
  first.append fun before x after same => (second before x after same).longer log

theorem handed_plain {log : List Incident} (plain : ∀ x ∈ log, x.Plain) : Each Handed log :=
  each_of_forall fun x inside before => ((plain x inside).gives none).quiet before

namespace Thread

theorem stop_gives (thread : ThreadId) (cause event : Option (List Value))
    (left : Except Escape StepResult × Host) : ∀ x ∈ stop thread cause left, x.Gives event := by
  intro x inside
  unfold stop at inside
  split at inside
  · rw [List.mem_singleton.mp inside]
    trivial
  · exact absurd inside List.not_mem_nil

theorem resumeIncidents_gives (depth : Nat) (event : List Value) (h : Host) (t : Thread) :
    ∀ x ∈ t.resumeIncidents depth event h, x.Gives (some event) := by
  intro x inside
  unfold resumeIncidents at inside
  split at inside
  · exact absurd inside List.not_mem_nil
  · rcases List.mem_cons.mp inside with rfl | inside
    · exact .inr rfl
    · rcases List.mem_append.mp inside with ran | ended
      · exact (Host.ranIncidents_plain _ _ _ x ran).gives _
      · exact stop_gives _ _ _ _ x ended

/-- By induction on the threads. -/
theorem deliverIncidents_gives (depth : Nat) (event : List Value) (threads : List Thread) :
    ∀ h : Host, ∀ x ∈ deliverIncidents depth event h threads, x.Gives (some event) := by
  induction threads with
  | nil =>
    intro h x inside
    exact absurd inside List.not_mem_nil
  | cons t rest ih =>
    intro h x inside
    unfold deliverIncidents at inside
    split at inside
    · rcases List.mem_append.mp inside with own | later
      · exact resumeIncidents_gives depth event h t x own
      · split at later
        · exact absurd later List.not_mem_nil
        · exact ih _ x later
    · exact ih h x inside

end Thread

/-! ## The main thread from some point on -/

section MainThread

variable {depth limit perTick : Nat} {phase : Phase} {log more : List Incident}

namespace TasksAccounted

variable {q q' : TaskQueue} (before : TasksAccounted depth limit perTick .idle log q)
  (after : TasksAccounted depth limit perTick phase (log ++ more) q')
include before after

/-- The tasks that waited and those that were queued since are those that were started since and
those that wait. -/
theorem since : q.waiting ++ accepted more = started more ++ q'.waiting := by
  have order := after.inOrder
  rw [accepted_append, started_append, before.inOrder, List.append_assoc,
    List.append_assoc] at order
  exact List.append_cancel_left order

/-- A task from before that is started is one of those that waited: none is queued twice. -/
theorem started_before {t : Task} (ran : t ∈ started more) :
    t ∈ accepted log ↔ t ∈ q.waiting := by
  constructor
  · intro early
    have here : t ∈ q.waiting ++ accepted more := by
      rw [before.since after]
      exact List.mem_append_left _ ran
    refine (List.mem_append.mp here).resolve_right fun late => ?_
    have growing := after.increasing
    rw [accepted_append, List.pairwise_append] at growing
    exact Nat.lt_irrefl _ (growing.2.2 t early t late)
  · exact before.accepted_of_waiting

end TasksAccounted

/-- The accounts of a turn of the main thread, also if it does not come back. By induction on the
tasks that it may run. -/
theorem Accounted.turns (turns : Nat) : ∀ {log : List Incident} {h : Host},
    Accounted depth limit perTick .idle log h → ∃ phase h',
      Accounted depth limit perTick phase (log ++ h.tickIncidents depth turns) h' := by
  induction turns with
  | zero =>
    intro log h accounts
    refine ⟨.idle, h, ?_⟩
    rwa [Host.tickIncidents, List.append_nil]
  | succ more ih =>
    intro log h accounts
    cases found : h.nextTask? with
    | none =>
      refine ⟨.idle, h, ?_⟩
      rwa [Host.tickIncidents_none found, List.append_nil]
    | some next =>
      obtain ⟨t, rest⟩ := next
      cases settled : (t.body.run depth rest).1.settled with
      | error how =>
        refine ⟨.running t, (t.body.run depth rest).2, ?_⟩
        unfold Host.tickIncidents
        rw [found]
        simpa only [settled, List.append_nil] using accounts.body found
      | ok left =>
        cases completed : (t.body.run depth rest).2.complete depth t left with
        | mk answer after =>
          cases answer with
          | error how =>
            refine ⟨.ending t left, after, ?_⟩
            unfold Host.tickIncidents
            rw [found]
            simpa only [settled, completed, List.append_nil] using
              accounts.completion found settled completed
          | ok =>
            obtain ⟨phase, h', later⟩ := ih (accounts.turn found settled completed)
            refine ⟨phase, h', ?_⟩
            rw [Host.tickIncidents_some found settled completed]
            simpa only [List.append_assoc, List.cons_append, List.nil_append] using later

/-- A turn of the main thread starts the task that has waited longest. -/
theorem Host.started_tick {h : Host} {t : Task} {rest : List Task}
    (waits : h.tasks.waiting = t :: rest) (depth more : Nat) :
    t ∈ started (h.tickIncidents depth (more + 1)) := by
  unfold tickIncidents nextTask? TaskQueue.next?
  rw [waits]
  exact List.mem_cons_self

end MainThread

namespace Machine

theorem spawnIncidents_handed (m : Machine) (global method : String) (args : List Value) :
    Each Handed (m.spawnIncidents global method args) := by
  refine each_of_forall fun x inside before => Incident.Gives.quiet ?_ before
  unfold spawnIncidents at inside
  split at inside
  · exact absurd inside List.not_mem_nil
  · split at inside
    · exact absurd inside List.not_mem_nil
    · rcases List.mem_cons.mp inside with rfl | inside
      · exact .inl rfl
      · rcases List.mem_append.mp inside with ran | ended
        · exact (Host.ranIncidents_plain _ _ _ x ran).gives _
        · exact Thread.stop_gives _ _ _ _ x ended

/-- By induction on the events that may be delivered: each is taken out before the threads are
given it. -/
theorem pumpIncidents_handed (more : Nat) : ∀ m : Machine, Each Handed (m.pumpIncidents more) := by
  induction more with
  | zero => exact fun _ => each_nil
  | succ more ih =>
    intro m
    unfold pumpIncidents
    split
    · exact each_nil
    · next event h popped =>
      have out : Each Handed [.taken event] := each_single trivial
      have given : Each Handed
          ([.taken event] ++ Thread.deliverIncidents m.limits.depth event h m.threads) := by
        refine out.append (each_of_forall fun x inside before => ?_)
        exact (Thread.deliverIncidents_gives _ event m.threads h x inside).handed
          List.mem_cons_self
      rw [← List.singleton_append, ← List.append_assoc]
      refine handed_append given ?_
      split
      · exact each_nil
      · exact ih _

theorem turnIncidents_handed (m : Machine) : Each Handed m.turnIncidents := by
  unfold turnIncidents
  refine handed_append (handed_plain (Host.tickIncidents_plain _ _ m.host)) ?_
  split
  · exact each_nil
  · exact pumpIncidents_handed _ _

/-- By induction on the ticks that are left. -/
theorem untilIncidents_handed (id : ThreadId) (more : Nat) :
    ∀ m : Machine, Each Handed (m.untilIncidents id more) := by
  induction more with
  | zero => exact fun _ => each_nil
  | succ more ih =>
    intro m
    unfold untilIncidents
    split
    · exact each_nil
    · split
      · exact each_nil
      · refine handed_append (turnIncidents_handed m) ?_
        split
        · exact each_nil
        · exact ih _

theorem callIncidents_handed (m : Machine) (global method : String) (args : List Value)
    (maxTicks : Nat) : Each Handed (m.callIncidents global method args maxTicks) := by
  unfold callIncidents
  refine handed_append (spawnIncidents_handed m global method args) ?_
  split
  · exact untilIncidents_handed _ _ _
  · exact each_nil

/-- One case for each operation. -/
theorem Operation.incidents_handed (m : Machine) (op : Operation) :
    Each Handed (op.incidents m) := by
  cases op with
  | addApi api =>
    show Each Handed (m.addApiIncidents api)
    unfold addApiIncidents
    split
    · exact handed_plain (Host.ranIncidents_plain _ _ _)
    · exact each_nil
  | startup =>
    show Each Handed m.startupIncidents
    unfold startupIncidents
    split
    · exact each_nil
    · exact handed_plain (hooksIncidents_plain _ _)
  | shutdown =>
    show Each Handed m.shutdownIncidents
    unfold shutdownIncidents
    split
    · exact each_nil
    · refine handed_append (handed_plain (hooksIncidents_plain _ _)) ?_
      refine each_of_forall fun x inside before => ?_
      obtain ⟨event, -, rfl⟩ := List.mem_map.mp inside
      trivial
  | spawn global method args => exact spawnIncidents_handed m global method args
  | call global method args maxTicks => exact callIncidents_handed m global method args maxTicks
  | queueEvent name args => exact each_single trivial
  | pump => exact pumpIncidents_handed _ m
  | tick => exact turnIncidents_handed m
  | mainTick => exact handed_plain (Host.tickIncidents_plain _ _ m.host)
  | takeResult | addDevice | addSource => exact each_nil
  | change command => exact handed_plain fun x inside => (Host.incidents_ofCode _ _ x inside).plain
  | submit completion body =>
    refine handed_plain (List.forall_mem_singleton.mpr ?_)
    exact (Host.handedIn_ofCode _ completion body).plain

/-! ## What is done after some point -/

/-- What is done with a machine from some point on, with what happens in the course of it. -/
inductive Onward (m : Machine) : List Incident → Machine → Prop where
  | here : Onward m [] m
  | step {more : List Incident} {m₁ m₂ : Machine} (before : Onward m more m₁) (op : Operation)
      (done : op.perform m₁ = (.ok (), m₂)) : Onward m (more ++ op.incidents m₁) m₂

namespace Onward

variable {limits : Limits} {limit perTick : Nat} {log more : List Incident} {m m' : Machine}

theorem next (onward : Onward m more m') (op : Operation) (done : (op.perform m').1 = .ok ()) :
    Onward m (more ++ op.incidents m') (op.perform m').2 :=
  .step onward op (Prod.ext done rfl)

theorem recorded (onward : Onward m more m') (recorded : Recorded limits limit perTick log m) :
    Recorded limits limit perTick (log ++ more) m' := by
  induction onward with
  | here => rwa [List.append_nil]
  | step _ op done ih =>
    rw [← List.append_assoc]
    exact .step ih op done

theorem handed (onward : Onward m more m') : Each Handed more := by
  induction onward with
  | here => exact each_nil
  | @step _ m₁ _ _ op _ ih => exact handed_append ih (op.incidents_handed m₁)

/-- From some point on: tasks are run in the order of those that waited then and those that were
queued since, each to its end, and events are taken out in the order of those that were queued then
and since. -/
theorem accounts (onward : Onward m more m') (start : Recorded limits limit perTick log m) :
    m.host.tasks.waiting ++ accepted more = started more ++ m'.host.tasks.waiting ∧
    (finished more).map Prod.fst = started more ∧
    m.host.events ++ posted more = taken more ++ m'.host.events := by
  obtain ⟨-, ⟨before, -⟩, -, -⟩ := recorded_chronicled start
  obtain ⟨-, ⟨after, -⟩, -, -⟩ := recorded_chronicled (onward.recorded start)
  have ended := after.tasks.all_ended
  have events := after.events
  rw [started_append, finished_append, List.map_append, before.tasks.all_ended] at ended
  rw [posted_append, taken_append, before.events, List.append_assoc, List.append_assoc] at events
  exact ⟨before.tasks.since after.tasks, (List.append_cancel_left ended).symm,
    List.append_cancel_left events⟩

/-- The same of the tasks that a further turn of the main thread starts, even if it does not come
back. -/
theorem started_before (onward : Onward m more m') (start : Recorded limits limit perTick log m)
    {t : Task} (ran : t ∈ started (more ++ m'.mainTickIncidents)) :
    t ∈ accepted log ↔ t ∈ m.host.tasks.waiting := by
  obtain ⟨-, ⟨before, -⟩, -, -⟩ := recorded_chronicled start
  obtain ⟨rfl, ⟨after, -⟩, -, -⟩ := recorded_chronicled (onward.recorded start)
  obtain ⟨phase, h, further⟩ := after.turns m'.host.tasks.perTick
  rw [List.append_assoc] at further
  exact before.tasks.started_before further.tasks ran

/-- The task that waited longest has been run after the next turn of the main thread. -/
theorem first_started (onward : Onward m more m') (start : Recorded limits limit perTick log m)
    (turns : 0 < perTick) {t : Task} {rest : List Task} (waits : m.host.tasks.waiting = t :: rest) :
    t ∈ started (more ++ m'.mainTickIncidents) := by
  obtain ⟨-, ⟨after, -⟩, -, -⟩ := recorded_chronicled (onward.recorded start)
  obtain ⟨order, -⟩ := onward.accounts start
  rw [waits, List.cons_append] at order
  rw [started_append]
  cases ran : started more with
  | nil =>
    rw [ran, List.nil_append] at order
    obtain ⟨n, some⟩ := Nat.exists_eq_add_one.mpr turns
    refine List.mem_append_right _ ?_
    show t ∈ started (m'.host.tickIncidents m'.limits.depth m'.host.tasks.perTick)
    rw [after.tasks.rated, some]
    exact Host.started_tick order.symm _ n
  | cons first others =>
    rw [ran, List.cons_append] at order
    rw [(List.cons.inj order).1]
    exact List.mem_append_left _ List.mem_cons_self

end Onward

/-! ## Sessions -/

/-- What was done up to some point has no effect from there on: no task that was queued before is
run, not even in a turn of the main thread that does not come back, and none comes to its end, which
its completion would report; and a thread is given an event only if it was queued since. -/
structure Apart (log : List Incident) (m : Machine) : Prop where
  tasks : ∀ more m', Onward m more m' → ∀ t ∈ started (more ++ m'.mainTickIncidents),
    t ∉ accepted log
  completions : ∀ more m', Onward m more m' → ∀ t left, (t, left) ∈ finished more → t ∉ accepted log
  events : ∀ more m', Onward m more m' → ∀ thread event, .entered thread (some event) ∈ more →
    event ∈ posted more

variable {limits : Limits} {limit perTick : Nat} {log : List Incident} {m m' : Machine}

/-- Where no task and no event is left over, what follows stands apart. -/
theorem apart_of_nothing_left (start : Recorded limits limit perTick log m)
    (idle : m.host.tasks.waiting = []) (drained : m.host.events = []) : Apart log m := by
  have tasks : ∀ more m', Onward m more m' → ∀ t ∈ started (more ++ m'.mainTickIncidents),
      t ∉ accepted log := by
    intro more m' onward t ran early
    have waits := (onward.started_before start ran).mp early
    rw [idle] at waits
    exact List.not_mem_nil waits
  refine ⟨tasks, fun more m' onward t left inside => ?_,
    fun more m' onward thread event given => ?_⟩
  · obtain ⟨-, ended, -⟩ := onward.accounts start
    refine tasks more m' onward t ?_
    rw [started_append, ← ended]
    exact List.mem_append_left _ (List.mem_map_of_mem inside)
  · obtain ⟨-, -, events⟩ := onward.accounts start
    rw [drained, List.nil_append] at events
    obtain ⟨before, after, same⟩ := List.append_of_mem given
    have out : event ∈ taken before := onward.handed before _ after same
    rw [events, same, taken_append]
    exact List.mem_append_left _ (List.mem_append_left _ out)

/-- What a shutdown keeps apart. It leaves no thread and no event. Whatever is done from then on,
tasks are run in the order of those that were left over and those that were queued since, each to
its end; events are taken out in the order in which they were queued since, and threads are given
no others. A task from before that is run is one of those that were left over, and the first of
these is run by the end of the next turn of the main thread. So the shutdown keeps sessions apart
just if no task is left over. -/
theorem apart_iff_no_task_left (recorded : Recorded limits limit perTick log m)
    (running : m.status = .running) (shut : m.shutdown = (.ok (), m')) :
    (m'.threads = [] ∧ m'.host.events = [] ∧ m'.status = .stopped) ∧
    (∀ more m'', Onward m' more m'' →
      m'.host.tasks.waiting ++ accepted more = started more ++ m''.host.tasks.waiting ∧
      (finished more).map Prod.fst = started more ∧
      posted more = taken more ++ m''.host.events ∧
      Each Handed more ∧
      (∀ t ∈ started (more ++ m''.mainTickIncidents),
        t ∈ accepted (log ++ m.shutdownIncidents) ↔ t ∈ m'.host.tasks.waiting) ∧
      (0 < perTick → ∀ t rest, m'.host.tasks.waiting = t :: rest →
        t ∈ started (more ++ m''.mainTickIncidents))) ∧
    (m'.host.tasks.waiting = [] → Apart (log ++ m.shutdownIncidents) m') ∧
    (0 < perTick → Apart (log ++ m.shutdownIncidents) m' → m'.host.tasks.waiting = []) := by
  have start : Recorded limits limit perTick (log ++ m.shutdownIncidents) m' :=
    .step recorded .shutdown shut
  have left := shutdown_leaves running shut
  refine ⟨left, fun more m'' onward => ?_, fun idle => apart_of_nothing_left start idle left.2.1,
    fun turns apart => ?_⟩
  · obtain ⟨order, ended, events⟩ := onward.accounts start
    rw [left.2.1, List.nil_append] at events
    exact ⟨order, ended, events, onward.handed, fun t ran => onward.started_before start ran,
      fun turns t rest waits => onward.first_started start turns waits⟩
  · cases waits : m'.host.tasks.waiting with
    | nil => rfl
    | cons t rest =>
      have ran := Onward.here.first_started start turns waits
      refine absurd ?_ (apart.tasks [] m' .here t ran)
      rw [Onward.here.started_before start ran, waits]
      exact List.mem_cons_self

/-! ## A task of an earlier session -/

/-- One method queues a task and goes on without it, and the other one waits for any event. -/
def officeApi : Api where
  names := ["office"]
  declaration := ⟨.registry, "Office", true, [],
    [MethodDecl.plain ⟨1⟩ "errand" .outcome fun _ =>
      Code.issueTask (.ask (.note "late") fun _ => Code.unit) fun _ => Code.unit,
    MethodDecl.plain ⟨2⟩ "listen" .outcome fun _ => Code.pullEventRaw none Code.done]⟩
  object := .registry
  startup := Code.unit
  shutdown := Code.unit

/-- A machine on which a script has queued a task. -/
def officeMachine : Machine :=
  [Operation.addApi officeApi, .startup, .spawn "office" "errand" []].foldl
    (fun m op => (op.perform m).2) (ofHost ⟨1, 1⟩ (Host.new Config.default))

def officeShut : Machine := (Operation.shutdown.perform officeMachine).2

/-- A later session, with a script that waits for any event. -/
def officeLater : Machine :=
  [Operation.startup, .spawn "office" "listen" [], .tick].foldl
    (fun m op => (op.perform m).2) officeShut

theorem officeMachine_recorded : ∃ log, Recorded ⟨1, 1⟩ 5000 256 log officeMachine ∧
    accepted log = officeMachine.host.tasks.waiting := by
  have fresh : Recorded ⟨1, 1⟩ 5000 256 [] (ofHost ⟨1, 1⟩ (Host.new Config.default)) :=
    .start rfl rfl
  have installed := fresh.next (.addApi officeApi) rfl
  have started := installed.next .startup rfl
  exact ⟨_, started.next (.spawn "office" "errand" []) rfl, rfl⟩

/-- The task is still there, and the next turn of the main thread runs it. -/
theorem apart_iff_no_task_left_office : officeShut.threads = [] ∧ ∃ t,
    officeShut.host.tasks.waiting = [t] ∧ ∀ more m, Onward officeShut more m →
      t ∈ started (more ++ m.mainTickIncidents) := by
  obtain ⟨log, recorded, -⟩ := officeMachine_recorded
  have shut : officeMachine.shutdown = (.ok (), officeShut) := rfl
  obtain ⟨⟨threads, -⟩, later, -⟩ := apart_iff_no_task_left recorded rfl shut
  obtain ⟨t, waits⟩ : ∃ t, officeShut.host.tasks.waiting = [t] := ⟨_, rfl⟩
  exact ⟨threads, t, waits, fun more m onward =>
    (later more m onward).2.2.2.2.2 (by decide) t [] waits⟩

/-- It leaves its note in the later session, and its report wakes the script there. -/
theorem shutdown_keeps_errand : ∃ log more, Recorded ⟨1, 1⟩ 5000 256 log officeMachine ∧
    officeMachine.status = .running ∧ officeMachine.shutdown = (.ok (), officeShut) ∧
    Onward officeShut more officeLater ∧ officeLater.status = .running ∧
    (∃ t, t ∈ accepted log ∧ t ∈ started more) ∧ officeLater.host.journal = ["late"] ∧
    officeLater.threads.map (·.state.result?) =
      [some (.ok [.string taskCompleteEvent, .int 1, .bool true])] ∧
    ¬Apart (log ++ officeMachine.shutdownIncidents) officeShut := by
  obtain ⟨log, recorded, queued⟩ := officeMachine_recorded
  have started : Onward officeShut _ _ := Onward.here.next .startup rfl
  have waiting := started.next (.spawn "office" "listen" []) rfl
  have onward : Onward officeShut _ officeLater := waiting.next .tick rfl
  obtain ⟨t, waits⟩ : ∃ t, officeMachine.host.tasks.waiting = [t] := ⟨_, rfl⟩
  have early : t ∈ accepted log := by
    rw [queued, waits]
    exact List.mem_singleton_self t
  revert onward
  generalize whole : (_ : List Incident) ++ Operation.tick.incidents _ = more
  intro onward
  have ran : t ∈ Chronicle.started more := by
    have same : Chronicle.started more = officeMachine.host.tasks.waiting := by
      rw [← whole]
      rfl
    rw [same, waits]
    exact List.mem_singleton_self t
  refine ⟨log, more, recorded, rfl, rfl, onward, rfl, ⟨t, early, ran⟩, rfl, rfl, fun apart => ?_⟩
  refine apart.tasks more officeLater onward t ?_ ?_
  · rw [started_append]
    exact List.mem_append_left _ ran
  · rw [accepted_append]
    exact List.mem_append_left _ early

end Machine

end DeviceBridge
