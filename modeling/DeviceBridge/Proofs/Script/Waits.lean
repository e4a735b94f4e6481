import DeviceBridge.Proofs.Host.Queues
import DeviceBridge.Script.Thread

/-
  Waits for tasks. Whoever queues a task that is to be reported is handed the wait for it, and may
  be parked on that at once or later (`HandsOver`). A thread waits for a task if it is parked on
  the wait for it (`ThreadState.Awaits`), and the report of the task ends that wait
  (`Program.onTaskComplete_report`).
-/

namespace DeviceBridge

open Host (report)

/-! ## Waits that are handed out -/

/-- The body has been queued as a task that is to be reported. What its caller goes on with is given
the number of just this task, and to execute the body is to be parked on the wait for it. -/
structure HandsOver (body : Code) (id : TaskId) (h h' : Host) : Prop where
  queued : h'.tasks.waiting = h.tasks.waiting ++ [⟨id, Completion.report, body⟩]
  handed : ∀ (n : Nat) (next : TaskId → Code),
    (Code.issueTask body next).run n h = (next id).run n h'
  executed : ∀ n : Nat, (Code.execute body).run n h = (.pending awaitValues 0 (.task id), h')

namespace Code

variable {body : Code} {h h' : Host}

theorem issueTask_accepted {id : TaskId}
    (accepted : h.enqueue Completion.report body = (.ok id, h')) (n : Nat)
    (next : TaskId → Code) : (issueTask body next).run n h = (next id).run n h' := by
  have issued (nested : Nested) :
      (issueTask body next).exec nested h = (next id).exec nested h' := by
    unfold issueTask
    rw [exec]
    simp only [accepted]
  cases n <;> exact issued _

theorem issueTask_refused {e : QueueError}
    (refused : h.enqueue Completion.report body = (.error e, h')) (n : Nat) (next : TaskId → Code) :
    (issueTask body next).run n h = (.failed (.raised e.toMethodError), h') := by
  have issued (nested : Nested) :
      (issueTask body next).exec nested h = (.failed (.raised e.toMethodError), h') := by
    unfold issueTask
    rw [exec]
    simp only [refused]
    rfl
  cases n <;> exact issued _

theorem handsOver {id : TaskId} (accepted : h.enqueue Completion.report body = (.ok id, h')) :
    HandsOver body id h h' := by
  refine ⟨Host.enqueue_accepted accepted, issueTask_accepted accepted, fun n => ?_⟩
  rw [execute, issueTask_accepted accepted]
  cases n <;> rfl

end Code

/-! ## Reports -/

namespace Program

theorem isTask_toValue (id : TaskId) : isTask id (some id.toValue) = true := by
  unfold isTask TaskId.toValue Value.ofNat Value.same
  exact beq_self_eq_true _

/-- A report bears the number of its task. -/
theorem isTask_report (id : TaskId) (left : Except MethodError (List Value)) :
    isTask id ((report id left)[1]? : Option Value) = true := by
  cases left <;> exact isTask_toValue id

/-- What a wait goes on with when its task is reported: the values, or the message of the error. -/
theorem onTaskComplete_report (id : TaskId) (left : Except MethodError (List Value)) :
    onTaskComplete id (report id left) = match left with
      | .ok values => .code (.done values)
      | .error e => .code (.fail (.raised (.ofText e.message))) := by
  have goesOn : Code.terminates (report id left) = false := by
    show decide (some taskCompleteEvent = some terminateEvent) = false
    decide
  unfold onTaskComplete
  rw [goesOn, isTask_report]
  cases left <;> rfl

end Program

/-! ## Threads -/

/-- The thread is parked in a wait for a task. -/
def ThreadState.Awaits (s : ThreadState) (id : TaskId) : Prop :=
  ∃ filter frame, s = .parked filter frame ∧ frame.next = .task id

end DeviceBridge
