import DeviceBridge.Proofs.Machine.Reports

/-
  The main thread runs what it accepted, once each and in order (`tasks_run_once`). The tasks that
  find a place are started in the order of their numbers; each is run in one piece, with its own
  completion (`Ran`), and what that gets and what a report tells depends on the kind of outcome
  alone (`Settles`). A tick runs tasks up to its bound or until none waits, whatever the tasks hand
  in meanwhile.
-/

namespace DeviceBridge

open Chronicle

/-! ## Outcomes -/

/-- What a body leaves, and what the report of its task tells, by what the body comes to: its
values; the error that it raised; that it may not suspend; or the panic as a fault of the host. -/
structure Settles (outcome : Outcome) (id : TaskId) (left : Except MethodError (List Value))
    (told : List Value) : Prop where
  values : ∀ values, outcome = .done values → left = .ok values ∧
    told = .string taskCompleteEvent :: id.toValue :: .bool true :: values
  error : ∀ e, outcome = .failed (.raised e) → left = .error e ∧
    told = [.string taskCompleteEvent, id.toValue, .bool false, .string e.message]
  suspended : outcome.isPending = true → left = .error (.ofText cannotSuspend) ∧
    told = [.string taskCompleteEvent, id.toValue, .bool false, .string cannotSuspend]
  panicked : ∀ payload, outcome = .failed (.escaped (.panic payload)) →
    left = .error (.ofPanic payload) ∧ told = [.string taskCompleteEvent, id.toValue, .bool false,
      .string ("Host exception thrown: " ++ payload.describe)]

theorem Outcome.settles {outcome : Outcome} {left : Except MethodError (List Value)}
    (settled : outcome.settled = .ok left) (id : TaskId) :
    Settles outcome id left (Host.report id left) := by
  refine ⟨?_, ?_, fun waits => ?_, ?_⟩
  · rintro values rfl
    cases settled
    exact ⟨rfl, rfl⟩
  · rintro e rfl
    cases settled
    exact ⟨rfl, rfl⟩
  · cases outcome with
    | pending yielded adjust next =>
      cases settled
      exact ⟨rfl, rfl⟩
    | done | failed => cases waits
  · rintro payload rfl
    cases settled
    exact ⟨rfl, rfl⟩

/-! ## Turns of the main thread -/

theorem Outcome.settled_error {outcome : Outcome} {how : Escape}
    (settled : outcome.settled = .error how) :
    how = .exhausted ∧ outcome = .failed (.escaped .exhausted) := by
  unfold Outcome.settled at settled
  split at settled <;> cases settled
  exact ⟨rfl, rfl⟩

theorem started_ofCode {more : List Incident} (code : ∀ x ∈ more, x.OfCode) :
    started more = [] := by
  refine List.filterMap_eq_nil_iff.mpr fun x inside => ?_
  have here := code x inside
  cases x <;> first | rfl | exact here.elim

theorem started_turn {own passed : List Incident} (code : ∀ x ∈ own, x.OfCode)
    (completion : ∀ x ∈ passed, x.OfCode) (t : Task) (left : Except MethodError (List Value))
    (later : List Incident) : started (.started t :: (own ++ .finished t left ::
      (passed ++ .counted t left :: later))) = t :: started later := by
  have ended : started (passed ++ .counted t left :: later) = started later := by
    rw [started_append, started_ofCode completion]
    rfl
  have begun : started (own ++ .finished t left :: (passed ++ .counted t left :: later)) =
      started (passed ++ .counted t left :: later) := by
    rw [started_append, started_ofCode code]
    rfl
  exact congrArg (t :: ·) (begun.trans ended)

namespace Host

theorem waiting_of_nextTask {h : Host} (none : h.nextTask? = none) : h.tasks.waiting = [] := by
  unfold nextTask? TaskQueue.next? at none
  cases waits : h.tasks.waiting with
  | nil => rfl
  | cons t rest =>
    rw [waits] at none
    cases none

/-- By induction on the turns: each runs one task, unless none waits. -/
theorem runTasks_counts (depth turns : Nat) : ∀ {before n : Nat} {h h' : Host},
    h.runTasks depth before turns = (.ok n, h') →
      n = before + (started (h.tickIncidents depth turns)).length ∧
      n ≤ before + turns ∧ (n = before + turns ∨ h'.tasks.waiting = []) := by
  induction turns with
  | zero =>
    intro before n h h' done
    cases done
    exact ⟨rfl, Nat.le_refl _, .inl rfl⟩
  | succ more ih =>
    intro before n h h' done
    rcases runTasks_succ done with
      ⟨none, rfl, rfl⟩ | ⟨t, rest, left, after, found, settled, completed, later⟩
    · rw [tickIncidents_none none]
      exact ⟨rfl, Nat.le_add_right _ _, .inr (waiting_of_nextTask none)⟩
    · obtain ⟨counted, bounded, ended⟩ := ih later
      rw [tickIncidents_some found settled completed, started_turn
        (ranIncidents_ofCode depth rest t.body) (ranIncidents_ofCode depth _ _), List.length_cons]
      refine ⟨?_, ?_, ended.imp (fun all => ?_) id⟩ <;> omega

/-- A task keeps its turn from coming back: its body has used up the bound on nested runs, or its
completion has left in mid-air. -/
def Stalls (depth : Nat) (h : Host) (t : Task) (how : Escape) : Prop :=
  (how = .exhausted ∧ (t.body.run depth h).1 = .failed (.escaped .exhausted)) ∨
  ∃ left, (t.body.run depth h).1.settled = .ok left ∧
    ((t.completion t.id left).run depth (t.body.run depth h).2).1 = .failed (.escaped how)

section Stalling

variable {depth more : Nat} {how : Escape} {h h' rest : Host} {t : Task}

/-- A turn that does not come back has started a task, which stalls, or it is a later one that does
not. -/
theorem runTasks_escaped {before : Nat}
    (done : h.runTasks depth before (more + 1) = (.error how, h')) :
    ∃ t rest, h.nextTask? = some (t, rest) ∧ (Stalls depth rest t how ∨
      ∃ left after, (t.body.run depth rest).1.settled = .ok left ∧
        (t.body.run depth rest).2.complete depth t left = (.ok (), after) ∧
        (after.recordRun t (succeeded left)).runTasks depth (before + 1) more =
          (.error how, h')) := by
  unfold runTasks at done
  cases found : h.nextTask? with
  | none =>
    rw [found] at done
    cases done
  | some next =>
    obtain ⟨t, rest⟩ := next
    refine ⟨t, rest, rfl, ?_⟩
    rw [found] at done
    simp only at done
    cases settled : (t.body.run depth rest).1.settled with
    | error escape =>
      rw [runTask_error settled] at done
      cases done
      exact .inl (.inl (Outcome.settled_error settled))
    | ok left =>
      cases completed : (t.body.run depth rest).2.complete depth t left with
      | mk answer after =>
        cases answer with
        | error escape =>
          rw [runTask_escaped settled completed] at done
          cases done
          exact .inl (.inr ⟨left, settled, complete_error_iff.mp (congrArg Prod.fst completed)⟩)
        | ok =>
          rw [runTask_ok settled completed] at done
          exact .inr ⟨left, after, rfl, completed, done⟩

/-- Of the tasks, a turn that stalls has started the one alone. -/
theorem started_stalled (found : h.nextTask? = some (t, rest)) (stalls : Stalls depth rest t how) :
    started (h.tickIncidents depth (more + 1)) = [t] := by
  have begun := started_ofCode (ranIncidents_ofCode depth rest t.body)
  rw [tickIncidents, found]
  rcases stalls with ⟨-, exhausted⟩ | ⟨left, settled, escaped⟩
  · have unsettled : (t.body.run depth rest).1.settled = .error .exhausted := by
      rw [exhausted]
      rfl
    simp only [unsettled, List.append_nil]
    exact congrArg (t :: ·) begun
  · have lost := complete_error_iff.mpr escaped
    have passed := started_ofCode (ranIncidents_ofCode depth (t.body.run depth rest).2
      (t.completion t.id left))
    cases completed : (t.body.run depth rest).2.complete depth t left with
    | mk answer after =>
      rw [completed] at lost
      cases lost
      simp only [settled, completed, List.append_nil]
      have all := started_append (rest.ranIncidents depth t.body) (.finished t left ::
        (t.body.run depth rest).2.ranIncidents depth (t.completion t.id left))
      rw [begun] at all
      exact congrArg (t :: ·) (all.trans passed)

end Stalling

/-- A tick that does not come back was kept from it by the task that it has started last. By
induction on the turns. -/
theorem runTasks_error (depth turns : Nat) : ∀ {before : Nat} {how : Escape} {h h' : Host},
    h.runTasks depth before turns = (.error how, h') → ∃ t g, Stalls depth g t how ∧
      (started (h.tickIncidents depth turns)).getLast? = some t := by
  induction turns with
  | zero =>
    intro before how h h' done
    cases done
  | succ more ih =>
    intro before how h h' done
    obtain ⟨t, rest, found, stalls | ⟨left, after, settled, completed, later⟩⟩ :=
      runTasks_escaped done
    · exact ⟨t, rest, stalls, by rw [started_stalled found stalls]; rfl⟩
    · obtain ⟨u, g, stalls, last⟩ := ih later
      refine ⟨u, g, stalls, ?_⟩
      rw [tickIncidents_some found settled completed, started_turn
        (ranIncidents_ofCode depth rest t.body) (ranIncidents_ofCode depth _ _),
        List.getLast?_cons, last]
      rfl

end Host

/-! ## Runs -/

namespace Machine

variable {limits : Limits} {limit perTick : Nat} {log : List Incident} {m : Machine}

/-- Exactly-once accounting of the main thread, in every machine that a run leads to.
Whether a task finds a place depends on nothing but how many wait, at every point of the run and
now. Tasks that found one bear growing numbers and are started in their order; those that were
started have come to their end and are counted, each after one run of its body and one of its
completion, which was given what the body left. So the reports are queued one for one and in that
order, and if nothing is forged then nothing else bears their name. A task that found no place is
never started. A tick runs tasks until its bound is reached or none waits; only a body that exhausts
the bound on nested runs, or a completion that leaves in mid-air, keeps it from coming back. -/
theorem tasks_run_once (recorded : Recorded limits limit perTick log m) :
    Each (Admits (max 1 limit)) log ∧
    (∀ completion body, (m.host.enqueue completion body).1 =
      if m.host.tasks.pending < max 1 limit then .ok ⟨m.host.tasks.nextId⟩ else .error .full) ∧
    ((accepted log).Pairwise fun t u => t.id.number < u.id.number) ∧
    accepted log = started log ++ m.host.tasks.waiting ∧
    started log = (finished log).map Prod.fst ∧ finished log = counted log ∧
    (∀ t left, (t, left) ∈ finished log → ∃ h, Ran limits.depth log t left h ∧
      Settles (t.body.run limits.depth h).1 t.id left (Host.report t.id left)) ∧
    posted log = taken log ++ m.host.events ∧
    (reports log).Sublist (posted log) ∧
    (Unforged log → (posted log).filter named = reports log) ∧
    (∀ t e, .refused t e ∈ log → ∀ u ∈ started log, u.id ≠ t.id) ∧
    m.host.tasks.submitted =
      m.host.tasks.completed + m.host.tasks.failed + m.host.tasks.pending ∧
    (∀ n m', m.mainTick = (.ok n, m') → n = (started m.mainTickIncidents).length ∧ n ≤ perTick ∧
      (n = perTick ∨ m'.host.tasks.pending = 0)) ∧
    ∀ how m', m.mainTick = (.error how, m') → ∃ t h, Host.Stalls limits.depth h t how ∧
      (started m.mainTickIncidents).getLast? = some t := by
  obtain ⟨rfl, ⟨accounts, -⟩, -, -⟩ := recorded_chronicled recorded
  have tasks := accounts.tasks
  obtain ⟨queued, alone⟩ := tasks.reports_posted
  refine ⟨tasks.admitted, tasks.answer, tasks.increasing, tasks.inOrder, tasks.all_ended,
    tasks.all_counted, ?_, accounts.events, queued, alone, ?_, tasks.balanced, ?_, ?_⟩
  · intro t left ended
    obtain ⟨h, prior, later, turn, settled, completed⟩ := tasks.ran_of_finished ended
    exact ⟨h, ⟨prior, later, turn, settled, completed⟩, Outcome.settles settled t.id⟩
  · intro t e refused u ran
    exact tasks.refused_apart refused (tasks.accepted_of_started ran)
  · intro n m' ticked
    unfold mainTick at ticked
    cases turned : m.host.tick m.limits.depth with
    | mk answer h =>
      rw [turned] at ticked
      cases ticked
      obtain ⟨counted, bounded, ended⟩ :=
        Host.runTasks_counts m.limits.depth m.host.tasks.perTick turned
      rw [Nat.zero_add] at counted bounded ended
      rw [tasks.rated] at bounded ended
      exact ⟨counted, bounded, ended.imp_right (congrArg List.length)⟩
  · intro how m' ticked
    unfold mainTick at ticked
    cases turned : m.host.tick m.limits.depth with
    | mk answer h =>
      rw [turned] at ticked
      cases ticked
      exact Host.runTasks_error m.limits.depth m.host.tasks.perTick turned

/-- What is done with the outcome of a task: hand in another one. -/
def relay : Completion := fun _ _ => .enqueue Completion.ledger Code.unit fun _ => Code.unit

/-- A machine whose main thread takes one task at a time. The task that ran has handed in one, and
so has its completion when there was no place left; and one that came too early was refused. -/
def relayMachine : Machine :=
  [Operation.submit relay (.enqueue Completion.report Code.unit fun _ => .done [.int 7]),
    .submit relay Code.unit, .mainTick].foldl (fun m op => (op.perform m).2)
      (ofHost ⟨1, 1⟩ (Host.new { Config.default with maxPendingTasks := 1, maxTasksPerTick := 1 }))

theorem tasks_run_once_relay : ∃ log t left h, Recorded ⟨1, 1⟩ 1 1 log relayMachine ∧
    accepted log = started log ++ relayMachine.host.tasks.waiting ∧
    relayMachine.host.tasks.pending = 1 ∧ relayMachine.host.tasks.submitted = 2 ∧
    (t, left) ∈ finished log ∧ t.completion = relay ∧ Ran 1 log t left h ∧
    Settles (t.body.run 1 h).1 t.id left (Host.report t.id left) := by
  let h : Host := Host.new { Config.default with maxPendingTasks := 1, maxTasksPerTick := 1 }
  have fresh : Recorded ⟨1, 1⟩ 1 1 [] (ofHost ⟨1, 1⟩ h) := .start rfl rfl
  have queued := fresh.next
    (.submit relay (.enqueue Completion.report Code.unit fun _ => .done [.int 7])) rfl
  have refused := queued.next (.submit relay Code.unit) rfl
  have recorded : Recorded ⟨1, 1⟩ 1 1 _ relayMachine := refused.next .mainTick rfl
  obtain ⟨-, -, -, inOrder, -, -, ran, -⟩ := tasks_run_once recorded
  obtain ⟨g, once, settles⟩ := ran ⟨⟨1⟩, relay, _⟩ (.ok [.int 7]) List.mem_cons_self
  exact ⟨_, _, _, g, recorded, inOrder, rfl, rfl, List.mem_cons_self, rfl, once, settles⟩

end Machine

end DeviceBridge
