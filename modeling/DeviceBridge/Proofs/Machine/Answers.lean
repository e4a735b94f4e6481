import DeviceBridge.Proofs.Machine.ExactlyOnce
import DeviceBridge.Proofs.Script.Attribution
import DeviceBridge.Proofs.Script.Waits
import Mathlib.Data.List.Induction

/-
  Every waiting thread gets the outcome of its own task (`answered_by_own_task`). A wait lasts until
  the thread is done (`waits_last`), and then the thread stays as it is (`done_stays`). What ends it
  is the report of a task, unless it is `terminate`; the report bears the number of the task, and
  numbers are given out once. So it does not matter which other threads wait, in which order tasks
  run, what else is delivered meanwhile, and for how long the wait was kept before the thread began
  to wait.
-/

namespace DeviceBridge

open Chronicle

/-! ## What a wait is answered with -/

/-- What a report tells the thread that waits for it: the values, or the message. -/
def replyOf : Except MethodError (List Value) → CallEnd
  | .ok values => .ok values
  | .error e => .error ⟨e.message, 0⟩

/-- How a wait for a task ends, by what the body of the task comes to: with its values, or with its
message, which blames nobody. -/
def Outcome.answer : Outcome → Option CallEnd
  | done values => some (.ok values)
  | pending .. => some (.error ⟨cannotSuspend, 0⟩)
  | failed (.raised e) => some (.error ⟨e.message, 0⟩)
  | failed (.escaped (.panic payload)) =>
    some (.error ⟨"Host exception thrown: " ++ payload.describe, 0⟩)
  | failed (.escaped .exhausted) => none

section Settling

variable {label : Label} {logs : Bool} {inherited : UInt32} {ran : Outcome × Host}
  {step : StepResult} {id : TaskId}

/-- A call waits for a task if its code does. -/
theorem settle_awaits (settled : (settle label logs inherited ran).1 = .ok step)
    (awaits : (ThreadState.ofStep step).Awaits id) : ∃ yielded adjust frame,
      ran.1 = .pending yielded adjust (.task id) ∧
      ThreadState.ofStep step = .parked (Value.headString? yielded) frame := by
  obtain ⟨outcome, h⟩ := ran
  obtain ⟨filter, frame, parked, waits⟩ := awaits
  unfold settle at settled
  split at settled
  · cases settled
    cases parked
  · next same =>
    cases same
    split at settled
    · cases settled
      cases parked
      simp only at waits
      subst waits
      exact ⟨_, _, _, rfl, rfl⟩
    · cases settled
  · split at settled
    · cases settled
      cases parked
    · cases settled
  · cases settled
    cases parked
  · cases settled

/-- What a call that has waited for a task is left with when its task is reported. -/
theorem settle_report {depth : Nat} {h : Host} {left : Except MethodError (List Value)}
    (settled : (settle label logs inherited
      ((Program.onTaskComplete id (Host.report id left)).run depth h)).1 = .ok step) :
    ThreadState.ofStep step = .done (replyOf left) := by
  rw [Program.onTaskComplete_report] at settled
  cases left with
  | ok values =>
    have ran : Program.run depth (.code (.done values)) h = (.done values, h) := by
      cases depth <;> rfl
    rw [ran] at settled
    cases settled
    rfl
  | error e =>
    have ran : Program.run depth (.code (.fail (.raised (.ofText e.message)))) h =
        (.failed (.raised (.ofText e.message)), h) := by
      cases depth <;> rfl
    rw [ran] at settled
    cases settled
    rfl

end Settling

/-! ## Moves of a thread that waits -/

section Waits

variable {depth : Nat} {log before : List Incident} {thread : ThreadId}
  {cause : Option (List Value)} {label : Label} {logs : Bool} {inherited : UInt32}
  {state : ThreadState} {id : TaskId}

/-- A thread that is left waiting for a task is woken by reports. -/
theorem Played.filter {p : Program}
    (played : Played depth before thread cause p label logs inherited state)
    (awaits : state.Awaits id) : ∃ frame, state = .parked (some taskCompleteEvent) frame := by
  obtain ⟨prior, h, step, rfl, settled, rfl⟩ := played
  obtain ⟨yielded, adjust, frame, waits, parked⟩ := settle_awaits settled awaits
  refine ⟨frame, parked.trans ?_⟩
  cases p with
  | code body =>
    cases Host.run_parks depth body h _ _ _ waits
    rfl
  | await other =>
    rw [Program.run_await] at waits
    cases waits
    rfl

/-- A thread is done when its code has not suspended. -/
theorem Played.isDone {p : Program}
    (played : Played depth before thread cause p label logs inherited state)
    (ends : ∀ h, (p.run depth h).1.isPending = false) : state.isDone = true := by
  obtain ⟨prior, h, step, -, settled, rfl⟩ := played
  have here := ends h
  generalize p.run depth h = ran at settled here
  unfold settle at settled
  split at settled
  · cases settled
    rfl
  · cases here
  · split at settled <;> cases settled
    rfl
  · cases settled
    rfl
  · cases settled

/-- What a thread that waits for a task does with an event: it ends, or it goes on waiting for that
task. -/
theorem Played.lasts {event : List Value} (played : Played depth before thread cause
      (Program.onTaskComplete id event) label logs inherited state) :
    state.isDone = true ∨ Program.onTaskComplete id event = .await id := by
  unfold Program.onTaskComplete at played ⊢
  split at played
  · refine .inl (played.isDone fun h => ?_)
    cases depth <;> rfl
  · split at played
    · refine .inl (played.isDone fun h => ?_)
      unfold Program.reported
      split <;> cases depth <;> rfl
    · next running other => exact .inr (by rw [if_neg running, if_neg other])

/-- A thread that goes on waiting waits for the same task. -/
theorem Played.await {other : TaskId}
    (played : Played depth before thread cause (.await other) label logs inherited state) :
    ∀ id, state.Awaits id ↔ id = other := by
  obtain ⟨prior, h, step, -, settled, rfl⟩ := played
  rw [Program.run_await] at settled
  unfold settle at settled
  simp only [addLevels_zero] at settled
  cases settled
  intro id
  constructor
  · rintro ⟨filter, frame, parked, waits⟩
    cases parked
    cases waits
    rfl
  · rintro rfl
    exact ⟨_, _, rfl, rfl⟩

/-- A wait that a report has ended is over because the report bears the number of the task. -/
theorem Played.numbered {of : TaskId} {left : Except MethodError (List Value)} {result : CallEnd}
    (played : Played depth before thread cause (Program.onTaskComplete id (Host.report of left))
      label logs inherited (.done result)) :
    Program.isTask id (some of.toValue) = true := by
  by_contra other
  have again : Program.onTaskComplete id (Host.report of left) = .await id := by
    have bears : ((Host.report of left)[1]? : Option Value) = some of.toValue := by
      cases left <;> rfl
    have lasts : ¬Code.terminates (Host.report of left) = true := by
      cases left <;> exact of_decide_eq_false rfl
    unfold Program.onTaskComplete
    rw [if_neg lasts, bears, if_neg other]
  rw [again] at played
  obtain ⟨_, _, parked, -⟩ := (played.await id).mpr rfl
  cases parked

end Waits

/-! ## The course of a wait -/

section Course

variable {depth : Nat} {log : List Incident} {thread : ThreadId} {s : ThreadState} {id : TaskId}

theorem states_mem (came : s ∈ states thread log) : ∃ before cause after,
    log = before ++ .moved thread cause s :: after := by
  obtain ⟨before, x, after, rfl, seen⟩ := view_mem came
  cases x with
  | moved other cause state =>
    simp only [Option.ite_none_right_eq_some, Option.some.injEq] at seen
    obtain ⟨rfl, rfl⟩ := seen
    exact ⟨before, cause, after, rfl⟩
  | _ => cases seen

theorem moved_of_single {x : Incident} (came : s ∈ states thread [x]) :
    ∃ cause, x = .moved thread cause s := by
  obtain ⟨before, cause, after, same⟩ := states_mem came
  cases before with
  | nil =>
    cases same
    exact ⟨cause, rfl⟩
  | cons y rest => cases rest <;> cases same

theorem waits_filter (linked : Each (Link depth) log) (came : s ∈ states thread log)
    (awaits : s.Awaits id) : ∃ frame, s = .parked (some taskCompleteEvent) frame := by
  obtain ⟨before, cause, after, same⟩ := states_mem came
  have link := linked before _ after same
  cases cause with
  | none =>
    obtain ⟨-, f, args, played⟩ := link
    exact played.filter awaits
  | some event =>
    obtain ⟨-, filter, frame, -, -, played⟩ := link
    exact played.filter awaits

/-- By induction on what happened: a wait lasts until the thread is done. -/
theorem waits_last (log : List Incident) : Each (Link depth) log → ∀ s ∈ states thread log,
    s.Awaits id → ∃ last, (states thread log).getLast? = some last ∧
      (last.Awaits id ∨ last.isDone = true) := by
  induction log using List.reverseRecOn with
  | nil => exact fun _ s came => absurd came List.not_mem_nil
  | append_singleton log x ih =>
    intro linked s came awaits
    have earlier := ih linked.part
    rw [states_append] at came ⊢
    by_cases still : states thread [x] = []
    · rw [still, List.append_nil] at came ⊢
      exact earlier s came awaits
    · obtain ⟨state, moved⟩ := List.exists_mem_of_ne_nil _ still
      obtain ⟨cause, rfl⟩ := moved_of_single moved
      have alone : states thread [.moved thread cause state] = [state] := by simp [states]
      rw [alone] at came ⊢
      refine ⟨state, List.getLast?_concat, ?_⟩
      have link := linked log _ [] rfl
      rcases List.mem_append.mp came with before | now
      · obtain ⟨last, found, lasting⟩ := earlier s before awaits
        cases cause with
        | none =>
          rw [link.1] at found
          cases found
        | some event =>
          obtain ⟨-, filter, frame, same, -, played⟩ := link
          cases same.symm.trans found
          rcases lasting with ⟨filter', frame', same, waits⟩ | done
          · cases same
            rw [waits] at played
            rcases Played.lasts played with done | goesOn
            · exact .inr done
            · rw [show (Resumption.task id).on event = .await id from goesOn] at played
              exact .inl ((played.await id).mpr rfl)
          · cases done
      · rw [List.mem_singleton.mp now] at awaits
        exact .inl awaits

/-- A thread that is done does not move any more. By induction on what happened since. -/
theorem done_stays {before after : List Incident} {cause : Option (List Value)} {result : CallEnd}
    (linked : Each (Link depth) (before ++ .moved thread cause (.done result) :: after)) :
    states thread after = [] := by
  induction after using List.reverseRecOn with
  | nil => rfl
  | append_singleton after x ih =>
    rw [← List.cons_append, ← List.append_assoc] at linked
    have still := ih linked.part
    rw [states_append, still, List.nil_append]
    refine List.eq_nil_iff_forall_not_mem.mpr fun state moved => ?_
    obtain ⟨again, rfl⟩ := moved_of_single moved
    have last : (states thread (before ++ .moved thread cause (.done result) :: after)).getLast? =
        some (.done result) := by
      have here : states thread (.moved thread cause (.done result) :: after) =
          .done result :: states thread after := by
        simp [states]
      rw [states_append, here, still, List.getLast?_concat]
    have link := linked _ _ [] rfl
    cases again with
    | none =>
      rw [link.1] at last
      cases last
    | some event =>
      obtain ⟨-, filter, frame, same, -⟩ := link
      cases last.symm.trans same

end Course

/-! ## Reports -/

/-- An event that bears the name of reports is one, unless it was forged. -/
theorem taken_report {depth : Nat} {log : List Incident} (linked : Each (Link depth) log)
    (unforged : Unforged log) {event : List Value} (out : event ∈ taken log)
    (bears : Value.headString? event = some taskCompleteEvent) :
    ∃ t left, (t, left) ∈ finished log ∧ t.completion = Completion.report ∧
      event = Host.report t.id left := by
  obtain ⟨before, x, after, rfl, seen⟩ := view_mem out
  cases x with
  | taken event =>
    cases seen
    obtain ⟨later, queue⟩ := linked before _ after rfl
    have inside : event ∈ posted before := by
      rw [queue]
      exact List.mem_append_right _ List.mem_cons_self
    obtain ⟨early, y, late, rfl, put⟩ := view_mem inside
    cases y with
    | posted event =>
      cases put
      obtain ⟨prior, t, left, rfl, reported, same⟩ := unforged early _ _
        (List.append_assoc early _ _) bears
      refine ⟨t, left, ?_, reported, same⟩
      rw [List.append_assoc, List.append_assoc]
      exact mem_finished
    | _ => cases put
  | _ => cases seen

/-- Numbers are told apart as words until these run out. -/
theorem TaskId.of_isTask {a b : TaskId} {n : Nat} (few : n ≤ UInt64.size)
    (first : 1 ≤ a.number ∧ a.number ≤ n) (second : 1 ≤ b.number ∧ b.number ≤ n)
    (same : Program.isTask a (some b.toValue) = true) : a = b := by
  have words : Int64.ofNat b.number = Int64.ofNat a.number := by
    simpa [Program.isTask, TaskId.toValue, Value.ofNat, Value.same] using same
  -- equal up to a multiple of the number of words, and closer to each other than that
  have residues := congrArg (fun w => w.toUInt64.toNat) words
  simp only [Int64.toUInt64_ofNat', UInt64.toNat_ofNat'] at residues
  have numbers : a.number = b.number := by
    have size : UInt64.size = 2 ^ 64 := rfl
    omega
  cases a
  cases b
  exact congrArg TaskId.mk numbers

namespace TasksAccounted

variable {depth limit perTick : Nat} {phase : Phase} {log : List Incident} {q : TaskQueue}

/-- Numbers are given out from 1 on. -/
theorem number_le (accounts : TasksAccounted depth limit perTick phase log q) {t : Task}
    (queued : t ∈ accepted log) : 1 ≤ t.id.number ∧ t.id.number ≤ (tickets log).length := by
  have given := (accepted_tickets log).subset (List.mem_map_of_mem queued)
  have number : t.id.number ∈ (tickets log).map TaskId.number := List.mem_map_of_mem given
  rw [accounts.numbers, List.mem_range'_1] at number
  omega

/-- A task that was queued is known by the number that its report bears. -/
theorem same_task (accounts : TasksAccounted depth limit perTick phase log q)
    (few : (tickets log).length ≤ UInt64.size) {t u : Task} (own : t ∈ accepted log)
    (queued : u ∈ accepted log) (numbered : Program.isTask t.id (some u.id.toValue) = true) :
    u = t := by
  have number : t.id = u.id :=
    TaskId.of_isTask few (accounts.number_le own) (accounts.number_le queued) numbered
  exact accounts.unique queued own number.symm

end TasksAccounted

/-- What a wait is answered with when the body of its task has ended. -/
theorem Outcome.answer_settled {outcome : Outcome} {left : Except MethodError (List Value)}
    (settled : outcome.settled = .ok left) : outcome.answer = some (replyOf left) := by
  unfold Outcome.settled at settled
  split at settled <;> cases settled <;> rfl

/-! ## Answers -/

namespace Machine

variable {limits : Limits} {limit perTick : Nat} {log : List Incident} {m : Machine}

/-- A thread that has ended is on the machine as it ended. -/
theorem Chronicled.ended (chronicled : Chronicled limits limit perTick log m)
    {before after : List Incident} {thread : ThreadId} {cause : Option (List Value)}
    {result : CallEnd} (ended : log = before ++ .moved thread cause (.done result) :: after) :
    ∀ t ∈ m.threads, t.id = thread → t.state = .done result := by
  intro t there numbered
  have last := chronicled.stand.last t there
  have linked := chronicled.recounts.linked
  rw [ended] at linked
  have moved : states thread (.moved thread cause (.done result) :: after) =
      .done result :: states thread after := by
    simp [states]
  rw [numbered, ended, states_append, moved, done_stays linked, List.getLast?_concat,
    Option.some.injEq] at last
  exact last.symm

/-- Whoever queues a task is handed the wait for just that task. A thread that waits for a task, and
that later ends with an event other than `terminate`, ends with the outcome of that task and stays
so. The task is the only one under its number. It is one that is reported; it was run once, in one
piece, and its body had come to its end before; and the event is its report. Events that bear the
name of reports must not be queued but as reports, and numbers must not run out of the words in
which reports carry them. -/
theorem answered_by_own_task (recorded : Recorded limits limit perTick log m)
    (unforged : Unforged log) (few : (tickets log).length ≤ UInt64.size)
    {before after : List Incident} {thread : ThreadId} {event : List Value} {result : CallEnd}
    (ended : log = before ++ .moved thread (some event) (.done result) :: after)
    (goesOn : Code.terminates event = false) {t : Task} (queued : t ∈ accepted log)
    {s : ThreadState} (came : s ∈ states thread before) (waits : s.Awaits t.id) :
    (∀ (h h' : Host) (body : Code) (id : TaskId),
      h.enqueue Completion.report body = (.ok id, h') → HandsOver body id h h') ∧
    (∀ u ∈ accepted log, u.id = t.id → u = t) ∧ t.completion = Completion.report ∧
    ∃ left h, Ran limits.depth log t left h ∧ (t, left) ∈ finished before ∧
      (∀ r ∈ finished log, r.1.id = t.id → r = (t, left)) ∧ event = Host.report t.id left ∧
      (t.body.run limits.depth h).1.answer = some result ∧
      ∀ u ∈ m.threads, u.id = thread → u.state = .done result := by
  have chronicled := recorded_chronicled recorded
  obtain ⟨accounts, linked⟩ := chronicled.recounts
  have tasks := accounts.tasks
  have past : Each (Link limits.depth) before := by
    rw [ended] at linked
    exact linked.part
  have honest : Unforged before := by
    rw [ended] at unforged
    exact unforged.part
  obtain ⟨last, held, lasting⟩ := waits_last before past s came waits
  obtain ⟨out, filter, frame, same, accepts, played⟩ := linked before _ after ended
  cases same.symm.trans held
  rcases lasting with ⟨filter', frame', parked, awaits⟩ | done
  · cases parked
    rw [awaits] at played
    -- the thread is woken by reports, so the event is one
    obtain ⟨_, woken⟩ := waits_filter past (List.mem_of_getLast? held) ⟨filter, frame, rfl, awaits⟩
    cases woken
    have bears : Value.headString? event = some taskCompleteEvent := by
      have other : Value.headString? event ≠ some terminateEvent := of_decide_eq_false goesOn
      rcases (Bool.or_eq_true _ _).mp accepts with own | terminate
      · exact eq_of_beq own
      · exact absurd (eq_of_beq terminate) other
    obtain ⟨u, left, reported, telling, rfl⟩ := taken_report past honest out bears
    have ran : (u, left) ∈ finished log := by
      rw [ended, finished_append]
      exact List.mem_append_left _ reported
    have inside : u ∈ accepted log := tasks.accepted_of_started (tasks.started_of_finished ran)
    obtain rfl : u = t := tasks.same_task few queued inside played.numbered
    obtain ⟨h, prior, later, turn, settled, completed⟩ := tasks.ran_of_finished ran
    refine ⟨fun _ _ _ _ => Code.handsOver,
      fun v there number => tasks.unique there queued number, telling, left, h,
      ⟨prior, later, turn, settled, completed⟩, reported,
      fun r there number => tasks.ended_once there ran number, rfl, ?_, chronicled.ended ended⟩
    obtain ⟨_, _, step, _, replied, done⟩ := played
    rw [Outcome.answer_settled settled]
    cases done.trans (settle_report replied)
    rfl
  · cases done

/-- An API with one method, which answers from the main thread. -/
def answerApi : Api where
  names := ["host"]
  declaration := ⟨.registry, "Answers", true, [],
    [(MethodDecl.plain ⟨1⟩ "ask" .values
      fun _ => .done [.int 3, .string "task_complete"]).onMainThread]⟩
  object := .registry
  startup := Code.unit
  shutdown := Code.unit

/-- A machine with a thread that has called the method. -/
def askedMachine : Machine :=
  [Operation.addApi answerApi, .startup, .spawn "host" "ask" []].foldl
    (fun m op => (op.perform m).2) (ofHost ⟨1, 1⟩ (Host.new Config.default))

/-- What the method answers is the outcome of its task, although it looks like an event. The task is
the one that the code of the thread has queued. -/
theorem answered_by_own_task_ask : ∃ log t s more event, ∃ left : Except MethodError (List Value),
    Recorded ⟨1, 1⟩ 5000 256 log (Operation.tick.perform askedMachine).2 ∧
    log = .entered ⟨1⟩ none :: .accepted t :: .moved ⟨1⟩ none s :: more ∧ s.Awaits t.id ∧
    .moved ⟨1⟩ (some event) (.done (.ok [.int 3, .string "task_complete"])) ∈ more ∧
    event = Host.report t.id left ∧ ∃ h, Ran 1 log t left h ∧
      (t.body.run 1 h).1.answer = some (.ok [.int 3, .string "task_complete"]) := by
  have fresh : Recorded ⟨1, 1⟩ 5000 256 [] (ofHost ⟨1, 1⟩ (Host.new Config.default)) :=
    .start rfl rfl
  have installed := fresh.next (.addApi answerApi) rfl
  have started := installed.next .startup rfl
  have asked : Recorded ⟨1, 1⟩ 5000 256 _ askedMachine := started.next (.spawn "host" "ask" []) rfl
  have recorded := asked.next .tick rfl
  revert recorded
  generalize whole : (_ : List Incident) ++ Operation.tick.incidents askedMachine = log
  intro recorded
  let event := Host.report ⟨1⟩ (.ok [.int 3, .string "task_complete"])
  obtain ⟨t, s, happened, number, reported, waits⟩ : ∃ t s, log = [.entered ⟨1⟩ none, .accepted t,
      .moved ⟨1⟩ none s, .started t, .finished t (.ok [.int 3, .string "task_complete"]),
      .posted event, .counted t (.ok [.int 3, .string "task_complete"]), .taken event,
      .entered ⟨1⟩ (some event),
      .moved ⟨1⟩ (some event) (.done (.ok [.int 3, .string "task_complete"]))] ∧
      t.id = ⟨1⟩ ∧ t.completion = Completion.report ∧ s.Awaits ⟨1⟩ :=
    ⟨_, _, whole.symm, rfl, rfl, _, _, rfl, rfl⟩
  have unforged : Unforged log := by
    have genuine (_ : Value.headString? event = some taskCompleteEvent) :
        event = Host.report t.id (.ok [.int 3, .string "task_complete"]) := by rw [number]
    rw [happened]
    refine .cons trivial (.cons trivial (.cons trivial (.cons trivial (.cons trivial (.cons ?_
      (.cons trivial (.cons trivial (.cons trivial (.cons trivial each_nil)))))))))
    exact fun bears => ⟨_, t, _, (List.append_cons [_, _, _] _ [_]), reported, genuine bears⟩
  have few : (tickets log).length ≤ UInt64.size := by
    have one : (tickets log).length = 1 := by
      rw [happened]
      rfl
    rw [one]
    decide
  have queued : t ∈ accepted log := by
    rw [happened]
    exact List.mem_singleton_self t
  have ended : log = log.dropLast ++
      .moved ⟨1⟩ (some event) (.done (.ok [.int 3, .string "task_complete"])) :: [] := by
    rw [happened]
    rfl
  have came : s ∈ states ⟨1⟩ log.dropLast := by
    rw [happened]
    exact List.mem_singleton_self s
  rw [← number] at waits
  obtain ⟨-, -, -, left, h, ran, -, -, same, answered, -⟩ :=
    answered_by_own_task recorded unforged few ended (by decide) queued came waits
  refine ⟨log, t, s, _, event, left, recorded, happened, waits, ?_, same, h, ran, answered⟩
  simp

end Machine

end DeviceBridge
