import DeviceBridge.Proofs.Machine.Chronicle

/-
  The accounts of the main thread. What a host has in its queues and its counters is worked out from
  what happened to it (`Accounted`): the tasks that were queued are those that were started and
  those that wait, in one order; the events that were queued are those that were taken and those
  that wait; and a task passes to its completion what its own body left. Code only hands in tasks
  and queues events (`Accounted.ran`), and the main thread starts a task, lets its body run, lets
  its completion run, and counts it (`Accounted.ticks`); so a task is in one of a few phases
  (`Phase`) while code runs.
-/

namespace DeviceBridge

/-! ## Views of longer lists -/

namespace Chronicle

variable (log more : List Incident)

theorem accepted_append : accepted (log ++ more) = accepted log ++ accepted more :=
  List.filterMap_append

theorem tickets_append : tickets (log ++ more) = tickets log ++ tickets more :=
  List.filterMap_append

theorem started_append : started (log ++ more) = started log ++ started more :=
  List.filterMap_append

theorem finished_append : finished (log ++ more) = finished log ++ finished more :=
  List.filterMap_append

theorem posted_append : posted (log ++ more) = posted log ++ posted more :=
  List.filterMap_append

theorem taken_append : taken (log ++ more) = taken log ++ taken more :=
  List.filterMap_append

theorem states_append (thread : ThreadId) :
    states thread (log ++ more) = states thread log ++ states thread more :=
  List.filterMap_append

/-- Events that are queued one after the other. -/
theorem views_posted (events : List (List Value)) :
    posted (events.map .posted) = events ∧ taken (events.map .posted) = [] := by
  unfold posted taken
  rw [List.filterMap_map, List.filterMap_map]
  exact ⟨List.filterMap_some, List.filterMap_eq_nil_iff.mpr fun _ _ => rfl⟩

/-- Events that are taken out one after the other. -/
theorem views_taken (events : List (List Value)) :
    posted (events.map .taken) = [] ∧ taken (events.map .taken) = events := by
  unfold posted taken
  rw [List.filterMap_map, List.filterMap_map]
  exact ⟨List.filterMap_eq_nil_iff.mpr fun _ _ => rfl, List.filterMap_some⟩

variable {log more} {P : List Incident → Incident → Prop}

theorem each_nil : Each P [] := by
  intro before x after same
  cases before <;> cases same

theorem each_single {x : Incident} (here : P [] x) : Each P [x] := by
  intro before y after same
  cases before with
  | nil =>
    cases same
    exact here
  | cons _ rest => cases rest <;> cases same

theorem Each.cons {x : Incident} (here : P [] x) (rest : Each (fun before => P (x :: before)) log) :
    Each P (x :: log) := by
  intro before y after same
  cases before with
  | nil =>
    cases same
    exact here
  | cons _ before =>
    cases same
    exact rest before y after rfl

/-- What holds of each incident of a list, and then of each of a further one in view of the first,
holds of each of both. -/
theorem Each.append (first : Each P log)
    (second : Each (fun before x => P (log ++ before) x) more) : Each P (log ++ more) := by
  intro before x after same
  rcases List.append_eq_append_iff.mp same with ⟨early, rfl, later⟩ | ⟨late, rfl, later⟩
  · exact second early x after later
  · cases late with
    | nil =>
      have here := second [] x after later.symm
      rwa [List.append_nil, List.append_nil] at here
    | cons y late =>
      cases later
      exact first before x late rfl

theorem Each.snoc {x : Incident} (first : Each P log) (here : P log x) : Each P (log ++ [x]) := by
  refine first.append (each_single ?_)
  rwa [List.append_nil]

theorem Each.part (whole : Each P (log ++ more)) : Each P log := by
  intro before x after same
  refine whole before x (after ++ more) ?_
  rw [same, List.append_assoc, List.cons_append]

/-- What holds of an incident whatever was before. -/
theorem each_of_forall (always : ∀ x ∈ log, ∀ before, P before x) : Each P log := by
  intro before x after same
  refine always x ?_ before
  rw [same]
  exact List.mem_append_right before List.mem_cons_self

end Chronicle

/-! ## Accounts of the tasks -/

namespace Incident

/-- The incident is not about a task. -/
def Idle : Incident → Prop
  | posted _ | taken _ | entered .. | moved .. => True
  | _ => False

end Incident

open Chronicle

/-- A task is queued where there is room, and refused where there is none; and of those that wait it
is the first that is started. -/
def Admits (capacity : Nat) (before : List Incident) : Incident → Prop
  | .accepted _ => waiting before < capacity
  | .refused _ e => e = .full ∧ capacity ≤ waiting before
  | .started t => ∃ later, accepted before = started before ++ t :: later
  | _ => True

/-- A task comes to its end with what its own body left, which has been run once since the task was
started; and it is counted when its completion has been run once, with the number of the task and
what the body left. Nothing else has happened meanwhile. -/
def Owns (depth : Nat) (before : List Incident) : Incident → Prop
  | .finished t left => ∃ prior h, before = prior ++ .started t :: h.ranIncidents depth t.body ∧
    (t.body.run depth h).1.settled = .ok left
  | .counted t left => ∃ prior h, before = prior ++ .started t :: (h.ranIncidents depth t.body ++
      .finished t left :: (t.body.run depth h).2.ranIncidents depth (t.completion t.id left)) ∧
    (t.body.run depth h).1.settled = .ok left ∧
    ((t.body.run depth h).2.complete depth t left).1 = .ok ()
  | _ => True

/-- How far the main thread has got with a task. -/
inductive Phase where
  | idle
  /-- The body of a task runs. -/
  | running (t : Task)
  /-- The completion of a task runs. -/
  | ending (t : Task) (left : Except MethodError (List Value))

namespace Phase

/-- The task whose body runs. -/
def begun : Phase → List Task
  | running t => [t]
  | _ => []

/-- The task whose completion runs. -/
def ended : Phase → List (Task × Except MethodError (List Value))
  | ending t left => [(t, left)]
  | _ => []

end Phase

/-- What a task queue holds is what the incidents so far have come to. One task at most is in the
middle of its run. -/
structure TasksAccounted (depth limit perTick : Nat) (phase : Phase) (log : List Incident)
    (q : TaskQueue) : Prop where
  live : q.connected = true
  limited : q.limit = limit
  rated : q.perTick = perTick
  numbers : (tickets log).map TaskId.number = List.range' 1 (tickets log).length
  next : q.nextId = (tickets log).length + 1
  inOrder : accepted log = started log ++ q.waiting
  begun : started log = (finished log).map Prod.fst ++ phase.begun
  ended : finished log = counted log ++ phase.ended
  admitted : Each (Admits (max 1 limit)) log
  own : Each (Owns depth) log
  submitted : q.submitted = (accepted log).length
  completed : q.completed = (counted log).countP fun r => Host.succeeded r.2
  failed : q.failed = (counted log).countP fun r => !Host.succeeded r.2

/-! ## What a further incident adds to the views -/

section Views

variable (log : List Incident)

theorem views_accepted (t : Task) :
    accepted (log ++ [.accepted t]) = accepted log ++ [t] ∧
    tickets (log ++ [.accepted t]) = tickets log ++ [t.id] ∧
    started (log ++ [.accepted t]) = started log ∧
    finished (log ++ [.accepted t]) = finished log ∧
    counted (log ++ [.accepted t]) = counted log := by
  simp [accepted, tickets, started, finished, counted]

theorem views_refused (t : Task) (e : QueueError) :
    accepted (log ++ [.refused t e]) = accepted log ∧
    tickets (log ++ [.refused t e]) = tickets log ++ [t.id] ∧
    started (log ++ [.refused t e]) = started log ∧
    finished (log ++ [.refused t e]) = finished log ∧
    counted (log ++ [.refused t e]) = counted log := by
  simp [accepted, tickets, started, finished, counted]

theorem views_started (t : Task) :
    accepted (log ++ [.started t]) = accepted log ∧
    tickets (log ++ [.started t]) = tickets log ∧
    started (log ++ [.started t]) = started log ++ [t] ∧
    finished (log ++ [.started t]) = finished log ∧
    counted (log ++ [.started t]) = counted log := by
  simp [accepted, tickets, started, finished, counted]

theorem views_finished (t : Task) (left : Except MethodError (List Value)) :
    accepted (log ++ [.finished t left]) = accepted log ∧
    tickets (log ++ [.finished t left]) = tickets log ∧
    started (log ++ [.finished t left]) = started log ∧
    finished (log ++ [.finished t left]) = finished log ++ [(t, left)] ∧
    counted (log ++ [.finished t left]) = counted log := by
  simp [accepted, tickets, started, finished, counted]

theorem views_counted (t : Task) (left : Except MethodError (List Value)) :
    accepted (log ++ [.counted t left]) = accepted log ∧
    tickets (log ++ [.counted t left]) = tickets log ∧
    started (log ++ [.counted t left]) = started log ∧
    finished (log ++ [.counted t left]) = finished log ∧
    counted (log ++ [.counted t left]) = counted log ++ [(t, left)] := by
  simp [accepted, tickets, started, finished, counted]

theorem views_idle {more : List Incident} (idle : ∀ x ∈ more, x.Idle) :
    accepted (log ++ more) = accepted log ∧ tickets (log ++ more) = tickets log ∧
    started (log ++ more) = started log ∧ finished (log ++ more) = finished log ∧
    counted (log ++ more) = counted log := by
  have nothing {α : Type} (view : Incident → Option α) (none : ∀ x : Incident, x.Idle →
      view x = Option.none) : (log ++ more).filterMap view = log.filterMap view := by
    rw [List.filterMap_append, List.filterMap_eq_nil_iff.mpr fun x inside => none x (idle x inside),
      List.append_nil]
  refine ⟨nothing _ ?_, nothing _ ?_, nothing _ ?_, nothing _ ?_, nothing _ ?_⟩ <;>
  · intro x here
    cases x <;> first | rfl | exact here.elim

end Views

namespace TasksAccounted

variable {depth limit perTick : Nat} {phase : Phase} {log : List Incident} {q : TaskQueue}

theorem new (depth limit perTick : Nat) :
    TasksAccounted depth limit perTick .idle [] (TaskQueue.new limit perTick) :=
  ⟨rfl, rfl, rfl, rfl, rfl, rfl, rfl, rfl, each_nil, each_nil, rfl, rfl, rfl⟩

theorem idle (accounts : TasksAccounted depth limit perTick phase log q)
    {more : List Incident} (idle : ∀ x ∈ more, x.Idle) :
    TasksAccounted depth limit perTick phase (log ++ more) q := by
  obtain ⟨sameAccepted, sameTickets, sameStarted, sameFinished, sameCounted⟩ := views_idle log idle
  have admits : Each (fun before x => Admits (max 1 limit) (log ++ before) x) more :=
    each_of_forall fun x inside before => by
      have here := idle x inside
      cases x <;> trivial
  have owned : Each (fun before x => Owns depth (log ++ before) x) more :=
    each_of_forall fun x inside before => by
      have here := idle x inside
      cases x <;> trivial
  obtain ⟨live, limited, rated, numbers, next, inOrder, begun, ended, admitted, own, submitted,
    completed, failed⟩ := accounts
  rw [← sameTickets] at numbers next
  rw [← sameAccepted] at inOrder submitted
  rw [← sameStarted] at inOrder begun
  rw [← sameFinished] at begun ended
  rw [← sameCounted] at ended completed failed
  exact ⟨live, limited, rated, numbers, next, inOrder, begun, ended, admitted.append admits,
    own.append owned, submitted, completed, failed⟩

/-- As many tasks wait as the incidents say. -/
theorem waiting_eq (accounts : TasksAccounted depth limit perTick phase log q) :
    waiting log = q.waiting.length := by
  unfold waiting
  rw [accounts.inOrder, List.length_append, Nat.add_sub_cancel_left]

/-- A task that is handed in is queued behind the others if there is room, and uses up a number
anyway. -/
theorem handedIn (accounts : TasksAccounted depth limit perTick phase log q)
    (completion : Completion) (body : Code) : TasksAccounted depth limit perTick phase
      (log ++ [q.handedIn completion body]) (q.enqueue completion body).2 := by
  have waits := accounts.waiting_eq
  obtain ⟨live, limited, rated, numbers, next, inOrder, begun, ended, admitted, own, submitted,
    completed, failed⟩ := accounts
  have room : q.capacity = max 1 limit := by rw [← limited]; rfl
  let id : TaskId := ⟨q.nextId⟩
  have numbered : (tickets log ++ [id]).map TaskId.number =
        List.range' 1 (tickets log ++ [id]).length ∧
      q.nextId + 1 = (tickets log ++ [id]).length + 1 := by
    have number : [id].map TaskId.number = [1 + 1 * (tickets log).length] := by
      rw [Nat.one_mul, Nat.add_comm 1, ← next]
      rfl
    rw [List.map_append, numbers, List.length_append, List.length_singleton, List.range'_concat,
      number, next]
    exact ⟨rfl, rfl⟩
  unfold TaskQueue.handedIn
  rcases q.enqueue_cases completion body with ⟨e, refused, why⟩ | ⟨free, queued⟩
  · obtain ⟨rfl, full⟩ := why live
    rw [refused]
    have admits : Admits (max 1 limit) log (.refused ⟨⟨q.nextId⟩, completion, body⟩ .full) := by
      refine ⟨rfl, ?_⟩
      rwa [waits, ← room]
    obtain ⟨sameAccepted, moreTickets, sameStarted, sameFinished, sameCounted⟩ :=
      views_refused log ⟨⟨q.nextId⟩, completion, body⟩ .full
    rw [← moreTickets] at numbered
    rw [← sameAccepted] at inOrder submitted
    rw [← sameStarted] at inOrder begun
    rw [← sameFinished] at begun ended
    rw [← sameCounted] at ended completed failed
    exact ⟨live, limited, rated, numbered.1, numbered.2, inOrder, begun, ended,
      admitted.snoc admits, own.snoc trivial, submitted, completed, failed⟩
  · rw [queued]
    have admits : Admits (max 1 limit) log (.accepted ⟨⟨q.nextId⟩, completion, body⟩) := by
      show waiting log < max 1 limit
      rwa [waits, ← room]
    obtain ⟨moreAccepted, moreTickets, sameStarted, sameFinished, sameCounted⟩ :=
      views_accepted log ⟨⟨q.nextId⟩, completion, body⟩
    rw [← moreTickets] at numbered
    rw [← sameStarted] at inOrder begun
    rw [← sameFinished] at begun ended
    rw [← sameCounted] at ended completed failed
    refine ⟨live, limited, rated, numbered.1, numbered.2, ?_, begun, ended, admitted.snoc admits,
      own.snoc trivial, ?_, completed, failed⟩
    · rw [moreAccepted, inOrder, List.append_assoc]
    · rw [moreAccepted, List.length_append, ← submitted]
      rfl

/-- The task that has waited longest is started. -/
theorem start (accounts : TasksAccounted depth limit perTick .idle log q) {t : Task}
    {rest : TaskQueue} (found : q.next? = some (t, rest)) :
    TasksAccounted depth limit perTick (.running t) (log ++ [.started t]) rest := by
  obtain ⟨live, limited, rated, numbers, next, inOrder, begun, ended, admitted, own, submitted,
    completed, failed⟩ := accounts
  obtain ⟨sameAccepted, sameTickets, moreStarted, sameFinished, sameCounted⟩ := views_started log t
  unfold TaskQueue.next? at found
  split at found
  · cases found
  · next behind waits =>
    cases found
    have first : Admits (max 1 limit) log (.started t) := ⟨behind, by rw [inOrder, waits]⟩
    rw [← sameTickets] at numbers next
    rw [← sameAccepted] at inOrder submitted
    rw [← sameFinished] at begun ended
    rw [← sameCounted] at ended completed failed
    refine ⟨live, limited, rated, numbers, next, ?_, ?_, ended, admitted.snoc first,
      own.snoc trivial, submitted, completed, failed⟩
    · rw [inOrder, waits, moreStarted, List.append_assoc, List.singleton_append]
    · rw [moreStarted, begun]
      exact congrArg (· ++ [t]) (List.append_nil _)

/-- The body of the task that runs comes to its end. -/
theorem finish {t : Task} (accounts : TasksAccounted depth limit perTick (.running t) log q)
    {left : Except MethodError (List Value)} (owns : Owns depth log (.finished t left)) :
    TasksAccounted depth limit perTick (.ending t left) (log ++ [.finished t left]) q := by
  obtain ⟨live, limited, rated, numbers, next, inOrder, begun, ended, admitted, own, submitted,
    completed, failed⟩ := accounts
  obtain ⟨sameAccepted, sameTickets, sameStarted, moreFinished, sameCounted⟩ :=
    views_finished log t left
  rw [← sameTickets] at numbers next
  rw [← sameAccepted] at inOrder submitted
  rw [← sameStarted] at inOrder begun
  rw [← sameCounted] at ended completed failed
  refine ⟨live, limited, rated, numbers, next, inOrder, ?_, ?_, admitted.snoc trivial,
    own.snoc owns, submitted, completed, failed⟩
  · rw [moreFinished, List.map_append, begun]
    exact (List.append_nil _).symm
  · rw [moreFinished, ended]
    exact congrArg (· ++ [(t, left)]) (List.append_nil _)

/-- The completion of the task that has ended comes to its end, and the task is counted. -/
theorem count {t : Task} {left : Except MethodError (List Value)}
    (accounts : TasksAccounted depth limit perTick (.ending t left) log q)
    (owns : Owns depth log (.counted t left)) :
    TasksAccounted depth limit perTick .idle (log ++ [.counted t left])
      (q.record (Host.succeeded left)) := by
  obtain ⟨live, limited, rated, numbers, next, inOrder, begun, ended, admitted, own, submitted,
    completed, failed⟩ := accounts
  obtain ⟨sameAccepted, sameTickets, sameStarted, sameFinished, moreCounted⟩ :=
    views_counted log t left
  rw [← sameTickets] at numbers next
  rw [← sameAccepted] at inOrder submitted
  rw [← sameStarted] at inOrder begun
  rw [← sameFinished] at begun ended
  have closed : finished (log ++ [.counted t left]) =
      counted (log ++ [.counted t left]) ++ Phase.idle.ended := by
    rw [moreCounted, ended]
    exact (List.append_nil _).symm
  unfold TaskQueue.record
  cases good : Host.succeeded left <;>
  · refine ⟨live, limited, rated, numbers, next, inOrder, begun, closed, admitted.snoc trivial,
      own.snoc owns, submitted, ?_, ?_⟩
    · rw [moreCounted, List.countP_append, List.countP_singleton, good, ← completed]
      rfl
    · rw [moreCounted, List.countP_append, List.countP_singleton, good, ← failed]
      rfl

end TasksAccounted

/-! ## Accounts of a host -/

namespace Host

variable {depth more : Nat} {h rest after : Host} {t : Task}

theorem tickIncidents_none (none : h.nextTask? = none) : h.tickIncidents depth (more + 1) = [] := by
  unfold tickIncidents
  rw [none]

theorem tickIncidents_some {left : Except MethodError (List Value)}
    (found : h.nextTask? = some (t, rest))
    (settled : (t.body.run depth rest).1.settled = .ok left)
    (completed : (t.body.run depth rest).2.complete depth t left = (.ok (), after)) :
    h.tickIncidents depth (more + 1) = .started t :: (rest.ranIncidents depth t.body ++
      .finished t left ::
        ((t.body.run depth rest).2.ranIncidents depth (t.completion t.id left) ++
          .counted t left :: (after.recordRun t (succeeded left)).tickIncidents depth more)) := by
  rw [tickIncidents, found]
  simp only [settled, completed]

end Host

/-- What a host has in its queues is what the incidents so far have come to. -/
structure Accounted (depth limit perTick : Nat) (phase : Phase) (log : List Incident)
    (h : Host) : Prop where
  tasks : TasksAccounted depth limit perTick phase log h.tasks
  events : posted log = taken log ++ h.events

/-- Nothing but the event queue has changed, and that has only grown. -/
structure Posts (h h' : Host) : Prop where
  tasks : h'.tasks = h.tasks
  events : h.events <+: h'.events

namespace Posts

variable {h h' : Host}

theorem ofServed (served : Host.Served h h') : Posts h h' := ⟨served.tasks, served.events⟩

theorem ofRearranged (changed : Host.Rearranged h h') : Posts h h' :=
  ⟨changed.tasks, changed.events ▸ List.prefix_rfl⟩

end Posts

namespace Accounted

variable {depth limit perTick : Nat} {phase : Phase} {log : List Incident} {h h' : Host}

/-- Events come and go, and threads move. -/
theorem idle (accounts : Accounted depth limit perTick phase log h) {more : List Incident}
    (idle : ∀ x ∈ more, x.Idle) (tasks : h'.tasks = h.tasks)
    (events : h.events ++ posted more = taken more ++ h'.events) :
    Accounted depth limit perTick phase (log ++ more) h' := by
  refine ⟨?_, ?_⟩
  · rw [tasks]
    exact accounts.tasks.idle idle
  · rw [posted_append, taken_append, accounts.events, List.append_assoc, events,
      List.append_assoc]

/-- Events are queued. -/
theorem post (accounts : Accounted depth limit perTick phase log h) (posts : Posts h h') :
    Accounted depth limit perTick phase
      (log ++ (h'.events.drop h.events.length).map .posted) h' := by
  obtain ⟨more, events⟩ := posts.events
  have rest : h'.events.drop h.events.length = more := by rw [← events, List.drop_left]
  obtain ⟨allPosted, noneTaken⟩ := views_posted more
  rw [rest]
  refine accounts.idle ?_ posts.tasks ?_
  · intro x inside
    obtain ⟨event, -, rfl⟩ := List.mem_map.mp inside
    trivial
  · rw [allPosted, noneTaken, events, List.nil_append]

/-- The oldest event is taken out. -/
theorem take (accounts : Accounted depth limit perTick phase log h) {event : List Value}
    (popped : h.popEvent = some (event, h')) :
    Accounted depth limit perTick phase (log ++ [.taken event]) h' := by
  unfold Host.popEvent at popped
  split at popped
  · cases popped
  · next rest waits =>
    cases popped
    refine accounts.idle (List.forall_mem_singleton.mpr trivial) rfl ?_
    simp [posted, Chronicle.taken, waits]

/-- All events are taken out. -/
theorem drain (accounts : Accounted depth limit perTick phase log h) :
    Accounted depth limit perTick phase (log ++ h.events.map .taken) h.drainEvents.2 := by
  obtain ⟨nonePosted, allTaken⟩ := views_taken h.events
  refine accounts.idle ?_ rfl ?_
  · intro x inside
    obtain ⟨event, -, rfl⟩ := List.mem_map.mp inside
    trivial
  · rw [nonePosted, allTaken]
    rfl

theorem moved (accounts : Accounted depth limit perTick phase log h) (thread : ThreadId)
    (event : Option (List Value)) (state : ThreadState) :
    Accounted depth limit perTick phase (log ++ [.moved thread event state]) h :=
  accounts.idle (List.forall_mem_singleton.mpr trivial) rfl (List.append_nil _)

/-- A change of anything but the queues. -/
theorem same (accounts : Accounted depth limit perTick phase log h) (tasks : h'.tasks = h.tasks)
    (events : h'.events = h.events) : Accounted depth limit perTick phase log h' := by
  refine ⟨tasks ▸ accounts.tasks, ?_⟩
  rw [events]
  exact accounts.events

/-! ## Code -/

theorem handedIn (accounts : Accounted depth limit perTick phase log h)
    (completion : Completion) (body : Code) :
    Accounted depth limit perTick phase (log ++ [h.tasks.handedIn completion body])
      (h.enqueue completion body).2 := by
  refine ⟨accounts.tasks.handedIn completion body, ?_⟩
  rw [posted_append, taken_append, accounts.events, List.append_assoc]
  unfold TaskQueue.handedIn
  split <;> simp [posted, taken, Host.enqueue]

/-- One case for each kind of change. -/
theorem change (accounts : Accounted depth limit perTick phase log h) (c : Change) :
    Accounted depth limit perTick phase (log ++ h.incident c) (h.after c) := by
  cases c with
  | ask request => exact accounts.post (.ofServed (Host.answer_served h request))
  | enqueue completion body => exact accounts.handedIn completion body
  | write level text => exact accounts.post (.ofServed (Host.Served.write h level text))
  | queueEvent name args => exact accounts.post (.ofServed (Host.Served.queueEvent h name args))
  | exchange side device =>
    exact accounts.post (.ofRearranged (Host.Rearranged.exchange h side device))
  | linkAll => exact accounts.post (.ofRearranged (Host.Rearranged.linkAll h))
  | unlinkAll => exact accounts.post (.ofRearranged (Host.Rearranged.unlinkAll h))
  | close id =>
    have unmounted := Host.unmountAll_served h id
    have closed := Host.Rearranged.modifyAccess (h.unmountAll id) id
      fun a => { a with attached := false }
    exact accounts.post ⟨closed.tasks.trans unmounted.tasks, closed.events ▸ unmounted.events⟩

/-- By induction on the changes. -/
theorem changes (cs : List Change) : ∀ {log : List Incident} {h : Host},
    Accounted depth limit perTick phase log h →
      Accounted depth limit perTick phase (log ++ h.incidents cs) (h.replay cs) := by
  induction cs with
  | nil =>
    intro log h accounts
    rwa [Host.incidents, List.append_nil]
  | cons c rest ih =>
    intro log h accounts
    have later := ih (accounts.change c)
    rwa [List.append_assoc] at later

/-- Whatever code does, the accounts stay right. -/
theorem ran (accounts : Accounted depth limit perTick phase log h) (n : Nat) (p : Program) :
    Accounted depth limit perTick phase (log ++ h.ranIncidents n p) (p.run n h).2 := by
  rw [Program.replay_changes]
  exact changes (p.changes n h) accounts

/-! ## The main thread -/

/-- A task is started. -/
theorem start (accounts : Accounted depth limit perTick .idle log h) {t : Task}
    (found : h.nextTask? = some (t, h')) :
    Accounted depth limit perTick (.running t) (log ++ [.started t]) h' := by
  unfold Host.nextTask? at found
  split at found
  · cases found
  · next taken =>
    cases found
    refine ⟨accounts.tasks.start taken, ?_⟩
    rw [posted_append, taken_append, accounts.events]
    simp [posted, Chronicle.taken]

/-- The body of a task has come to its end. -/
theorem finish {t : Task} (accounts : Accounted depth limit perTick (.running t) log h)
    {left : Except MethodError (List Value)} (owns : Owns depth log (.finished t left)) :
    Accounted depth limit perTick (.ending t left) (log ++ [.finished t left]) h := by
  refine ⟨accounts.tasks.finish owns, ?_⟩
  rw [posted_append, taken_append, accounts.events]
  simp [posted, Chronicle.taken]

/-- A task is counted. -/
theorem count {t : Task} {left : Except MethodError (List Value)}
    (accounts : Accounted depth limit perTick (.ending t left) log h)
    (owns : Owns depth log (.counted t left)) :
    Accounted depth limit perTick .idle (log ++ [.counted t left])
      (h.recordRun t (Host.succeeded left)) := by
  refine ⟨accounts.tasks.count owns, ?_⟩
  rw [posted_append, taken_append, accounts.events]
  simp [posted, Chronicle.taken, Host.recordRun, Host.write]

/-- The body of the next task is run. -/
theorem body (accounts : Accounted depth limit perTick .idle log h) {t : Task}
    (found : h.nextTask? = some (t, h')) : Accounted depth limit perTick (.running t)
      (log ++ .started t :: h'.ranIncidents depth t.body) (t.body.run depth h').2 := by
  have ran : Accounted depth limit perTick (.running t)
      (log ++ [.started t] ++ h'.ranIncidents depth t.body) (t.body.run depth h').2 :=
    (accounts.start found).ran depth t.body
  rwa [List.append_assoc, List.singleton_append] at ran

section Turn

variable {t : Task} {rest after : Host} {left : Except MethodError (List Value)}
  {answer : Except Escape Unit}

/-- The body of the next task is run and has left something, and with that its completion is run. -/
theorem completion (accounts : Accounted depth limit perTick .idle log h)
    (found : h.nextTask? = some (t, rest))
    (settled : (t.body.run depth rest).1.settled = .ok left)
    (completed : (t.body.run depth rest).2.complete depth t left = (answer, after)) :
    Accounted depth limit perTick (.ending t left)
      (log ++ .started t :: (rest.ranIncidents depth t.body ++ .finished t left ::
        (t.body.run depth rest).2.ranIncidents depth (t.completion t.id left))) after := by
  have ended := (accounts.body found).finish ⟨log, rest, rfl, settled⟩
  have ran : Accounted depth limit perTick (.ending t left) _
      ((t.completion t.id left).run depth (t.body.run depth rest).2).2 :=
    ended.ran depth (t.completion t.id left)
  rw [← Host.complete_snd, completed] at ran
  simpa only [List.append_assoc, List.cons_append, List.nil_append] using ran

/-- The next task is run and counted. -/
theorem turn (accounts : Accounted depth limit perTick .idle log h)
    (found : h.nextTask? = some (t, rest))
    (settled : (t.body.run depth rest).1.settled = .ok left)
    (completed : (t.body.run depth rest).2.complete depth t left = (.ok (), after)) :
    Accounted depth limit perTick .idle
      (log ++ .started t :: (rest.ranIncidents depth t.body ++ .finished t left ::
        ((t.body.run depth rest).2.ranIncidents depth (t.completion t.id left) ++
          [.counted t left]))) (after.recordRun t (Host.succeeded left)) := by
  have passed := accounts.completion found settled completed
  have counted := passed.count ⟨log, rest, rfl, settled, by rw [completed]⟩
  simpa only [List.append_assoc, List.cons_append, List.nil_append] using counted

end Turn

/-- By induction on the turns of the main thread that are left. -/
theorem ticks (turns : Nat) : ∀ {log : List Incident} {h h' : Host} {before n : Nat},
    Accounted depth limit perTick .idle log h → h.runTasks depth before turns = (.ok n, h') →
      Accounted depth limit perTick .idle (log ++ h.tickIncidents depth turns) h' := by
  induction turns with
  | zero =>
    intro log h h' before n accounts done
    cases done
    rwa [Host.tickIncidents, List.append_nil]
  | succ more ih =>
    intro log h h' before n accounts done
    rcases Host.runTasks_succ done with
      ⟨none, -, rfl⟩ | ⟨t, rest, left, after, found, settled, completed, later⟩
    · rwa [Host.tickIncidents_none none, List.append_nil]
    · rw [Host.tickIncidents_some found settled completed]
      have all := ih (accounts.turn found settled completed) later
      simpa only [List.append_assoc, List.cons_append, List.nil_append] using all

end Accounted

end DeviceBridge
