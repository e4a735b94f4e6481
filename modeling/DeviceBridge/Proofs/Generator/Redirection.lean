import DeviceBridge.Machine.Registry
import DeviceBridge.Proofs.Generator.Building
import DeviceBridge.Proofs.Host.Trace
import DeviceBridge.Proofs.Script.Waits

/-
  Methods of the main thread. A call of one does nothing but queue a task and wait for it; the task
  does what a call of the same method would do that is not redirected; and what the caller gets from
  the report of the task is what that call would have come to, but for what cannot cross
  (`redirection_refines`).
-/

namespace DeviceBridge

open Host (report)

/-! ## Outcomes -/

/-- What is left of an outcome when it has crossed from the main thread: values as they are, and
errors by their message alone. A method that would suspend fails, and so does one that panicked. -/
def Outcome.crossed : Outcome → Outcome
  | done values => done values
  | pending .. => failed (.raised (.ofText cannotSuspend))
  | failed (.raised e) => failed (.raised (.ofText e.message))
  | failed (.escaped (.panic payload)) =>
    failed (.raised (.ofText ("Host exception thrown: " ++ payload.describe)))
  | failed (.escaped .exhausted) => failed (.escaped .exhausted)

/-- The text of the fault that a panic is reported as is not the one that refuses to suspend. -/
theorem MethodError.ofPanic_message_ne (payload : Payload) :
    (ofPanic payload).message ≠ cannotSuspend := by
  intro same
  have first := congrArg (fun text => text.toList.head?) same
  rw [show (ofPanic payload).message = "Host exception thrown: " ++ payload.describe from rfl,
    String.toList_append] at first
  cases first

/-- What the caller gets and what the direct call comes to can be told from each other. Values come
from the same values. An error comes from an error of the same message, from a call that would
suspend, or from a panic; the first may say just what the refusal or a fault says, and otherwise the
text tells the cause. -/
structure Crosses (came left : Outcome) : Prop where
  returns : (∃ values, left = .done values) ∨ ∃ text, left = .failed (.raised (.ofText text))
  done : ∀ values, left = .done values ↔ came = .done values
  error : ∀ text, left = .failed (.raised (.ofText text)) ↔
    (∃ e, came = .failed (.raised e) ∧ e.message = text) ∨
    (came.isPending = true ∧ cannotSuspend = text) ∨
    ∃ payload, came = .failed (.escaped (.panic payload)) ∧
      (MethodError.ofPanic payload).message = text
  refusal : left = .failed (.raised (.ofText cannotSuspend)) ↔
    came.isPending = true ∨ ∃ e, came = .failed (.raised e) ∧ e.message = cannotSuspend
  fault : ∀ payload, left = .failed (.raised (.ofText (MethodError.ofPanic payload).message)) ↔
    (∃ thrown, came = .failed (.escaped (.panic thrown)) ∧
      (MethodError.ofPanic thrown).message = (MethodError.ofPanic payload).message) ∨
    ∃ e, came = .failed (.raised e) ∧ e.message = (MethodError.ofPanic payload).message

namespace Outcome

/-- Errors in their own words are told apart by them. -/
theorem raised_ofText_iff {text words : String} :
    failed (.raised (.ofText text)) = failed (.raised (.ofText words)) ↔ text = words := by
  constructor
  · intro same
    cases same
    rfl
  · rintro rfl
    rfl

theorem crossed_done_iff (outcome : Outcome) (values : List Value) :
    outcome.crossed = done values ↔ outcome = done values := by
  constructor
  · intro same
    unfold crossed at same
    split at same <;> cases same
    rfl
  · rintro rfl
    rfl

theorem crossed_error_iff {outcome : Outcome} (ends : outcome ≠ failed (.escaped .exhausted))
    (text : String) : outcome.crossed = failed (.raised (.ofText text)) ↔
      (∃ e, outcome = failed (.raised e) ∧ e.message = text) ∨
      (outcome.isPending = true ∧ cannotSuspend = text) ∨
      ∃ payload, outcome = failed (.escaped (.panic payload)) ∧
        (MethodError.ofPanic payload).message = text := by
  constructor
  · intro same
    unfold crossed at same
    split at same
    · cases same
    · exact .inr (.inl ⟨rfl, raised_ofText_iff.mp same⟩)
    · next e => exact .inl ⟨e, rfl, raised_ofText_iff.mp same⟩
    · next payload => exact .inr (.inr ⟨payload, rfl, raised_ofText_iff.mp same⟩)
    · exact absurd rfl ends
  · rintro (⟨e, rfl, rfl⟩ | ⟨waits, rfl⟩ | ⟨payload, rfl, rfl⟩)
    · rfl
    · cases outcome with
      | pending yielded adjust next => rfl
      | done | failed => cases waits
    · rfl

/-- Whatever comes back at all crosses. -/
theorem crosses {outcome : Outcome} (ends : outcome ≠ failed (.escaped .exhausted)) :
    Crosses outcome outcome.crossed := by
  refine ⟨?_, outcome.crossed_done_iff, crossed_error_iff ends, ?_, fun payload => ?_⟩
  · unfold crossed
    split
    · exact .inl ⟨_, rfl⟩
    · exact .inr ⟨_, rfl⟩
    · exact .inr ⟨_, rfl⟩
    · exact .inr ⟨_, rfl⟩
    · exact absurd rfl ends
  · rw [crossed_error_iff ends]
    constructor
    · rintro (raised | ⟨waits, -⟩ | ⟨payload, -, same⟩)
      · exact .inr raised
      · exact .inl waits
      · exact absurd same (MethodError.ofPanic_message_ne payload)
    · rintro (waits | raised)
      · exact .inr (.inl ⟨waits, rfl⟩)
      · exact .inl raised
  · rw [crossed_error_iff ends]
    constructor
    · rintro (raised | ⟨-, same⟩ | panicked)
      · exact .inr raised
      · exact absurd same.symm (MethodError.ofPanic_message_ne payload)
      · exact .inl panicked
    · rintro (panicked | raised)
      · exact .inr (.inr panicked)
      · exact .inl raised

/-- What code comes to that may not suspend. -/
def unsuspended (refusal : String) : Outcome → Outcome
  | pending .. => failed (.raised (.ofText refusal))
  | other => other

end Outcome

namespace Code

/-- Code that may not suspend does what it would do anyway, up to its first stop. -/
theorem exec_withoutSuspending (nested : Nested) (refusal : String) (body : Code) (h : Host) :
    (withoutSuspending refusal body).exec nested h =
      ((body.exec nested h).1.unsuspended refusal, (body.exec nested h).2) := by
  unfold withoutSuspending
  rw [exec]
  cases body.exec nested h with
  | mk outcome h₁ =>
    cases outcome with
    | done values => rfl
    | pending yielded adjust next => rfl
    | failed failure => cases failure <;> rfl

theorem run_withoutSuspending (depth : Nat) (refusal : String) (body : Code) (h : Host) :
    (withoutSuspending refusal body).run depth h =
      ((body.run depth h).1.unsuspended refusal, (body.run depth h).2) := by
  cases depth <;> exact exec_withoutSuspending _ refusal body h

end Code

/-! ## Tasks -/

/-- A call that is to be run on the main thread changes nothing but the queue. -/
theorem Code.changes_execute (n : Nat) (body : Code) (h : Host) :
    Program.changes n (Code.execute body) h = [.enqueue Completion.report body] := by
  have queued (nested : Nested) (traced : NestedChanges) :
      (Code.execute body).changes nested traced h = [.enqueue Completion.report body] := by
    unfold Code.execute Code.issueTask Code.changes
    cases (h.enqueue Completion.report body).1 <;> rfl
  cases n <;> exact queued _ _

/-- A task that is to be reported is, when its body has come to something. -/
theorem Host.complete_report (n : Nat) (h : Host) (id : TaskId) (body : Code)
    (left : Except MethodError (List Value)) :
    h.complete n ⟨id, Completion.report, body⟩ left =
      (.ok (), { h with events := h.events ++ [report id left] }) := by
  cases n <;> rfl

/-- What a task reports when its body, which may not suspend, has come to something, and how a wait
ends on that. -/
theorem reported_crossed {outcome : Outcome} (ends : outcome ≠ .failed (.escaped .exhausted)) :
    ∃ left, (outcome.unsuspended cannotSuspend).settled = .ok left ∧
      ∀ id n h, (Program.onTaskComplete id (report id left)).run n h = (outcome.crossed, h) := by
  simp only [Program.onTaskComplete_report]
  cases outcome with
  | done values =>
    refine ⟨.ok values, rfl, fun id n h => ?_⟩
    cases n <;> rfl
  | pending yielded adjust next =>
    refine ⟨.error (.ofText cannotSuspend), rfl, fun id n h => ?_⟩
    cases n <;> rfl
  | failed failure =>
    cases failure with
    | raised e =>
      refine ⟨.error e, rfl, fun id n h => ?_⟩
      cases n <;> rfl
    | escaped how =>
      cases how with
      | panic payload =>
        refine ⟨.error (.ofPanic payload), rfl, fun id n h => ?_⟩
        cases n <;> rfl
      | exhausted => exact absurd rfl ends

/-! ## Methods -/

/-- The same method, run by its caller. -/
def MethodDecl.onCallerThread (m : MethodDecl) : MethodDecl := { m with mainThread := false }

namespace Generator

/-- A method of the main thread is built just as one that is not, but for where calls go. -/
theorem build_redirected {g : Generator} {owner : String} {m : MethodDecl} {t : Trampoline}
    (built : (g.build owner m).1 = some t) (onMain : m.mainThread = true) : ∃ slot,
    g.contextSlot .context = some slot ∧ t.redirect = some slot ∧
    (g.build owner m.onCallerThread).1 = some { t with redirect := none } := by
  rw [build_eq] at built
  obtain ⟨a, adapted, rfl⟩ := Option.map_eq_some_iff.mp built
  have exposed : (m.isPublic && m.throws.isAllowed) = true := by
    unfold MethodDecl.adapter? at adapted
    split at adapted
    · next both => exact both
    · cases adapted
  obtain ⟨binders, route, bound, routed, rfl⟩ := MethodDecl.adapter?_eq_some adapted
  unfold MethodDecl.route? at routed
  rw [if_pos onMain] at routed
  obtain ⟨slot, found, rfl⟩ := Option.map_eq_some_iff.mp routed
  refine ⟨slot, found, rfl, ?_⟩
  have direct : m.onCallerThread.adapter? g.contexts =
      some ⟨m.id, m.name, binders, m.body, none⟩ := by
    unfold MethodDecl.adapter? MethodDecl.route? MethodDecl.onCallerThread
    rw [if_pos exposed]
    simp only [bound]
    rfl
  rw [build_eq, direct]
  rfl

end Generator

namespace Trampoline

variable {t : Trampoline} {slot : Nat} {values : List HostObject}

theorem apply_redirected (redirected : t.redirect = some slot)
    (given : values[slot]? = some .context) (object : HostObject) (args : Arguments) :
    t.apply object values args =
      Code.execute (Code.withoutSuspending cannotSuspend (t.direct object values args)) := by
  unfold apply
  rw [redirected]
  simp only [given]

theorem apply_stranded (redirected : t.redirect = some slot)
    (missing : values[slot]? ≠ some .context) (object : HostObject) (args : Arguments) :
    t.apply object values args = .fail (Invocation.fault "no lua context") := by
  unfold apply
  rw [redirected]
  cases held : values[slot]? with
  | none => simp only [held]
  | some value =>
    cases value with
    | context => exact absurd held missing
    | _ => simp only [held]

end Trampoline

/-- A method that is built for the main thread, next to the same method run by its caller. Where the
computer is among the context values, a call of the first does nothing but queue a task. If there is
a place for that, the caller is parked until the task is reported, and else the call fails at once
and nothing waits to be run. When the task is run, it does what a call of the second method does up
to its first stop, and is reported; and the caller goes on with what that call has come to, values
and messages alike, from which in turn that can be told (`Crosses`). Without the computer among the
context values nothing is queued. -/
theorem redirection_refines {g : Generator} {owner : String} {m : MethodDecl} {t : Trampoline}
    (built : (g.build owner m).1 = some t) (onMain : m.mainThread = true) :
    ∃ slot u, g.contextSlot .context = some slot ∧
      (g.build owner m.onCallerThread).1 = some u ∧
      ∀ (object : HostObject) (values : List HostObject) (args : Arguments),
        (values[slot]? = some .context → ∃ task : Code,
          (∀ n h, Program.changes n (t.apply object values args) h =
            [.enqueue Completion.report task]) ∧
          (∀ n h id h', h.enqueue Completion.report task = (.ok id, h') →
            (t.apply object values args).run n h = (.pending awaitValues 0 (.task id), h') ∧
            h'.tasks.waiting = h.tasks.waiting ++ [⟨id, Completion.report, task⟩]) ∧
          (∀ n h e h', h.enqueue Completion.report task = (.error e, h') →
            (t.apply object values args).run n h = (.failed (.raised e.toMethodError), h') ∧
            h'.tasks.waiting = h.tasks.waiting) ∧
          ∀ n h id came h', (u.apply object values args).run n h = (came, h') →
            came ≠ .failed (.escaped .exhausted) → ∃ ok event,
              h.runTask n ⟨id, Completion.report, task⟩ =
                (.ok ok, { h' with events := h'.events ++ [event] }) ∧
              (∀ n' h'', ((Resumption.task id).on event).run n' h'' = (came.crossed, h'')) ∧
              Crosses came came.crossed) ∧
        (values[slot]? ≠ some .context → ∀ n h, (t.apply object values args).run n h =
          (.failed (Invocation.fault "no lua context"), h)) := by
  obtain ⟨slot, found, redirected, direct⟩ := Generator.build_redirected built onMain
  refine ⟨slot, _, found, direct, fun object values args =>
    ⟨fun given => ⟨Code.withoutSuspending cannotSuspend (t.direct object values args), ?_⟩, ?_⟩⟩
  · rw [Trampoline.apply_redirected redirected given]
    refine ⟨?_, ?_, ?_, ?_⟩
    · exact fun n h => Code.changes_execute n _ h
    · intro n h id h' accepted
      have handed := Code.handsOver accepted
      exact ⟨handed.executed n, handed.queued⟩
    · intro n h e h' refused
      exact ⟨Code.issueTask_refused refused n .await, Host.enqueue_refused refused⟩
    · intro n h id came h' ran ends
      have direct : (t.direct object values args).run n h = (came, h') := ran
      obtain ⟨left, settled, crossed⟩ := reported_crossed ends
      have task := Code.run_withoutSuspending n cannotSuspend (t.direct object values args) h
      rw [direct] at task
      refine ⟨Host.succeeded left, report id left, ?_, crossed id, Outcome.crosses ends⟩
      have counted : ((Code.withoutSuspending cannotSuspend (t.direct object values args)).run
          n h).1.settled = .ok left := by rw [task]; exact settled
      have told := Host.complete_report n h' id
        (Code.withoutSuspending cannotSuspend (t.direct object values args)) left
      refine Host.runTask_ok counted ?_
      rw [task]
      exact told
  · intro missing n h
    rw [Trampoline.apply_stranded redirected missing]
    cases n <;> rfl

/-- A method of the main thread that would wait for an event. -/
def lingerer : MethodDecl :=
  (MethodDecl.plain ⟨501⟩ "linger" .outcome fun _ => .suspend [] 0 fun _ => .done []).onMainThread

/-- Its caller gets an error from the report, on whatever host it is resumed. -/
theorem redirection_refines_lingerer : ∃ t task event,
    ((Generator.new "lua" 1 [.context]).build "Desk" lingerer).1 = some t ∧
    (∀ n h, Program.changes n (t.apply .registry [.context] .empty) h =
      [.enqueue Completion.report task]) ∧
    ∀ n h, ((Resumption.task ⟨1⟩).on event).run n h =
      (.failed (.raised (.ofText cannotSuspend)), h) := by
  obtain ⟨slot, u, found, direct, calls⟩ :=
    redirection_refines (g := Generator.new "lua" 1 [.context]) (m := lingerer) rfl rfl
  cases found
  cases direct
  obtain ⟨task, queues, -, -, runs⟩ := (calls .registry [.context] .empty).1 rfl
  have stops : Outcome.pending [] 0 (.code fun _ => .done []) ≠ .failed (.escaped .exhausted) := by
    intro same
    cases same
  obtain ⟨ok, event, -, resumed, -⟩ := runs 0 (Host.new Config.default) ⟨1⟩ _ _ rfl stops
  exact ⟨_, task, event, rfl, queues, resumed⟩

end DeviceBridge
