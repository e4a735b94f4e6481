import DeviceBridge.Host.Tasks
import DeviceBridge.Proofs.Host.Links

/-
  The two queues of a host. A task that is handed in is queued behind the others or refused
  (`TaskQueue.enqueue_cases`), and a turn of the main thread takes the first one, runs its body and
  then its completion, and counts it (`runTasks_succ`). A task that is to be reported is attended to
  while it waits in the one queue, or its report waits in the other. Whatever parks its caller in a
  wait for a task makes it listen for reports (`run_parks`).
-/

namespace DeviceBridge

namespace TaskQueue

/-- A task that is handed in uses up a number. It is refused, for lack of room unless the queue is
closed, or it is queued behind the others. -/
theorem enqueue_cases (q : TaskQueue) (completion : Completion) (body : Code) :
    (∃ e, q.enqueue completion body = (.error e, { q with nextId := q.nextId + 1 }) ∧
      (q.connected = true → e = .full ∧ q.capacity ≤ q.waiting.length)) ∨
    (q.waiting.length < q.capacity ∧
      q.enqueue completion body = (.ok ⟨q.nextId⟩, { q with
        nextId := q.nextId + 1
        waiting := q.waiting ++ [⟨⟨q.nextId⟩, completion, body⟩]
        submitted := q.submitted + 1 })) := by
  unfold enqueue
  cases live : q.connected with
  | false => exact .inl ⟨.disconnected, rfl, fun closed => absurd closed Bool.false_ne_true⟩
  | true =>
    simp only [Bool.not_true, Bool.false_eq_true, if_false]
    by_cases full : q.capacity ≤ q.waiting.length
    · exact .inl ⟨.full, if_pos full, fun _ => ⟨rfl, full⟩⟩
    · exact .inr ⟨Nat.lt_of_not_le full, if_neg full⟩

end TaskQueue

namespace Host

/-! ## Tasks on their way -/

/-- A task that is to be reported by an event waits in the queue. -/
def Queued (h : Host) (id : TaskId) : Prop :=
  ∃ t ∈ h.tasks.waiting, t.id = id ∧ t.completion = Completion.report

/-- The event that reports a task. -/
def report (id : TaskId) (left : Except MethodError (List Value)) : List Value :=
  .string taskCompleteEvent :: Completion.account id left

/-- The report of a task waits in the queue. -/
def Reported (h : Host) (id : TaskId) : Prop := ∃ left, report id left ∈ h.events

def Attended (h : Host) (id : TaskId) : Prop := h.Queued id ∨ h.Reported id

theorem enqueue_accepted {h h' : Host} {completion : Completion} {body : Code} {id : TaskId}
    (accepted : h.enqueue completion body = (.ok id, h')) :
    h'.tasks.waiting = h.tasks.waiting ++ [⟨id, completion, body⟩] := by
  unfold enqueue at accepted
  rcases h.tasks.enqueue_cases completion body with ⟨e, refused, -⟩ | ⟨-, queued⟩
  · rw [refused] at accepted
    cases accepted
  · rw [queued] at accepted
    cases accepted
    rfl

theorem enqueue_refused {h h' : Host} {completion : Completion} {body : Code} {e : QueueError}
    (refused : h.enqueue completion body = (.error e, h')) :
    h'.tasks.waiting = h.tasks.waiting := by
  unfold enqueue at refused
  rcases h.tasks.enqueue_cases completion body with ⟨how, refusal, -⟩ | ⟨-, queued⟩
  · rw [refusal] at refused
    cases refused
    rfl
  · rw [queued] at refused
    cases refused

/-! ## Waits -/

/-- If a run parks its caller in a wait for a task, then the caller listens for reports. -/
def Parks (outcome : Outcome) : Prop :=
  ∀ yielded adjust id, outcome = .pending yielded adjust (.task id) → yielded = awaitValues

/-- An adjustment does not change what a caller waits for. -/
theorem parks_adjustWait {outcome : Outcome} (parks : Parks outcome) (amount : UInt32) :
    Parks (outcome.adjustWait amount) := by
  intro yielded adjust id waits
  cases outcome with
  | done _ | failed _ => cases waits
  | pending before level next =>
    unfold Outcome.adjustWait at waits
    simp only at waits
    split at waits
    · cases waits
      exact parks _ _ _ rfl
    · cases waits

theorem parks_adjustError {outcome : Outcome} (parks : Parks outcome) (amount : UInt32) :
    Parks (outcome.adjustError amount) := by
  intro yielded adjust id waits
  unfold Outcome.adjustError at waits
  split at waits
  · split at waits <;> cases waits
  · exact parks _ _ _ waits

/-- By induction on the code. -/
theorem exec_parks {nested : Nested} (call : ∀ args h, Parks (nested.call args h).1)
    (body : Code) : ∀ h : Host, Parks (body.exec nested h).1 := by
  induction body with
  | done | fail | suspend =>
    intro h _ _ _ waits
    cases waits
  | await id =>
    intro h _ _ _ waits
    cases waits
    rfl
  | ask request next ih =>
    intro h
    exact ih _ _
  | command c next ih =>
    intro h
    unfold Code.exec
    split
    · exact ih _
    · intro _ _ _ waits
      cases waits
  | enqueue completion body next _ _ ih =>
    intro h
    exact ih _ _
  | call args => exact call args
  | attempt body next _ ih =>
    intro h
    unfold Code.exec
    simp only
    split
    · exact ih _ _
    · intro _ _ _ waits
      cases waits
  | adjustWait body amount ih =>
    intro h
    exact parks_adjustWait (ih h) amount
  | adjustError body amount ih =>
    intro h
    exact parks_adjustError (ih h) amount

/-- By induction on the bound on nested runs. -/
theorem run_parks (depth : Nat) : ∀ (body : Code) (h : Host), Parks (body.run depth h).1 := by
  induction depth with
  | zero =>
    intro body
    refine exec_parks (fun args h => ?_) body
    intro _ _ _ waits
    cases waits
  | succ n ih =>
    intro body
    refine exec_parks (fun args h => ?_) body
    show Parks (h.callDevice (Program.run n) args).1
    unfold callDevice
    split
    · intro _ _ _ waits
      cases waits
    · next a method rest _ =>
      have called : Parks (h.callMethod (Program.run n) a method rest).1 := by
        unfold callMethod
        split
        · intro _ _ _ waits
          cases waits
        · exact ih _ h
      exact parks_adjustError (parks_adjustWait called 1) 1

/-! ## The main thread -/

section MainThread

variable {depth : Nat} {h h' : Host} {t : Task} {left : Except MethodError (List Value)}
  {how : Escape}

/-- What a completion does is what its code does. -/
theorem complete_snd (depth : Nat) (h : Host) (t : Task) (left : Except MethodError (List Value)) :
    (h.complete depth t left).2 = ((t.completion t.id left).run depth h).2 := by
  unfold complete
  split <;> rename_i ran <;> rw [ran]

theorem complete_error_iff : (h.complete depth t left).1 = .error how ↔
    ((t.completion t.id left).run depth h).1 = .failed (.escaped how) := by
  unfold complete
  split
  · next came =>
    rw [came]
    constructor
    · rintro ⟨⟩
      rfl
    · rintro ⟨⟩
      rfl
  · next ended came =>
    rw [came]
    constructor
    · rintro ⟨⟩
    · exact fun escaped => absurd escaped (ended how)

theorem runTask_ok (settled : (t.body.run depth h).1.settled = .ok left)
    (completed : (t.body.run depth h).2.complete depth t left = (.ok (), h')) :
    h.runTask depth t = (.ok (succeeded left), h') := by
  unfold runTask
  simp only [settled, completed]

theorem runTask_error (settled : (t.body.run depth h).1.settled = .error how) :
    h.runTask depth t = (.error how, (t.body.run depth h).2) := by
  unfold runTask
  simp only [settled]

theorem runTask_escaped (settled : (t.body.run depth h).1.settled = .ok left)
    (escaped : (t.body.run depth h).2.complete depth t left = (.error how, h')) :
    h.runTask depth t = (.error how, h') := by
  unfold runTask
  simp only [settled, escaped]

/-- A turn of the main thread that comes back found no task, or it has run one and goes on. -/
theorem runTasks_succ {more before n : Nat}
    (done : h.runTasks depth before (more + 1) = (.ok n, h')) :
    (h.nextTask? = none ∧ n = before ∧ h' = h) ∨
    ∃ t rest left after, h.nextTask? = some (t, rest) ∧
      (t.body.run depth rest).1.settled = .ok left ∧
      (t.body.run depth rest).2.complete depth t left = (.ok (), after) ∧
      (after.recordRun t (succeeded left)).runTasks depth (before + 1) more = (.ok n, h') := by
  unfold runTasks at done
  cases found : h.nextTask? with
  | none =>
    rw [found] at done
    cases done
    exact .inl ⟨rfl, rfl, rfl⟩
  | some taken =>
    obtain ⟨t, rest⟩ := taken
    rw [found] at done
    cases settled : (t.body.run depth rest).1.settled with
    | error how =>
      simp only [runTask_error settled] at done
      cases done
    | ok left =>
      cases completed : (t.body.run depth rest).2.complete depth t left with
      | mk answer after =>
        cases answer with
        | error how =>
          simp only [runTask_escaped settled completed] at done
          cases done
        | ok =>
          simp only [runTask_ok settled completed] at done
          exact .inr ⟨t, rest, left, after, rfl, settled, completed, done⟩

end MainThread

end Host

end DeviceBridge
