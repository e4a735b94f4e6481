import DeviceBridge.Proofs.Machine.Recording

/-
  What becomes of a task, from its number to its report. The numbers that are given out go up by
  one, whether the task finds a place or not; so the tasks that are queued bear growing numbers, and
  a task that was refused shares its number with none that runs. A task that has come to its end was
  run in one piece, its body once and its completion once (`Ran`). If it is to be reported by an
  event, then that event is the first thing to happen after its end
  (`TasksAccounted.reported_next`), so that the reports are queued one for one, in the order of the
  tasks (`reports_posted`).
-/

namespace DeviceBridge

open Chronicle

/-! ## Places in a list of incidents -/

/-- Members of a list on which a number grows are told apart by it. -/
theorem eq_of_same_key {α : Type} {key : α → Nat} {l : List α}
    (growing : l.Pairwise fun a b => key a < key b) {a b : α} (first : a ∈ l) (second : b ∈ l)
    (same : key a = key b) : a = b := by
  obtain ⟨i, inside, rfl⟩ := List.getElem_of_mem first
  obtain ⟨j, within, rfl⟩ := List.getElem_of_mem second
  have grows := List.pairwise_iff_getElem.mp growing
  rcases Nat.lt_trichotomy i j with before | rfl | after
  · exact absurd same (Nat.ne_of_lt (grows i j inside within before))
  · rfl
  · exact absurd same.symm (Nat.ne_of_lt (grows j i within inside after))

section Places

variable {α : Type} {view : Incident → Option α} {a : α} {log : List Incident}

/-- What a view shows has a place in the list. -/
theorem view_mem (shown : a ∈ log.filterMap view) : ∃ before x after,
    log = before ++ x :: after ∧ view x = some a := by
  obtain ⟨x, inside, seen⟩ := List.mem_filterMap.mp shown
  obtain ⟨before, after, same⟩ := List.append_of_mem inside
  exact ⟨before, x, after, same, seen⟩

/-- What a view shows behind some others has a place in the list behind theirs. -/
theorem view_getElem? {i : Nat} (shown : (log.filterMap view)[i]? = some a) : ∃ before x after,
    log = before ++ x :: after ∧ view x = some a ∧ (before.filterMap view).length = i := by
  induction log generalizing i with
  | nil => cases shown
  | cons y rest ih =>
    cases seen : view y with
    | none =>
      rw [List.filterMap_cons_none seen] at shown
      obtain ⟨before, x, after, rfl, here, length⟩ := ih shown
      refine ⟨y :: before, x, after, rfl, here, ?_⟩
      rw [List.filterMap_cons_none seen, length]
    | some b =>
      rw [List.filterMap_cons_some seen] at shown
      cases i with
      | zero =>
        cases shown
        exact ⟨[], y, rest, rfl, seen, rfl⟩
      | succ i =>
        obtain ⟨before, x, after, rfl, here, length⟩ := ih shown
        refine ⟨y :: before, x, after, rfl, here, ?_⟩
        rw [List.filterMap_cons_some seen, List.length_cons, length]

/-- What a view shows once has one place. -/
theorem place_unique (once : (log.filterMap view).Nodup) {x : Incident} (seen : view x = some a)
    {before after early late : List Incident} (here : log = before ++ x :: after)
    (there : log = early ++ x :: late) : before = early ∧ after = late := by
  subst here
  -- between two places the view would show the same thing twice
  have apart {first mid rest : List Incident}
      (nodup : ((first ++ x :: (mid ++ x :: rest)).filterMap view).Nodup) : False := by
    simp only [List.filterMap_append, List.filterMap_cons, seen] at nodup
    have tail := (List.nodup_append.mp nodup).2.1
    exact (List.nodup_cons.mp tail).1 (List.mem_append_right _ List.mem_cons_self)
  rcases List.append_eq_append_iff.mp there with ⟨mid, rfl, split⟩ | ⟨mid, rfl, split⟩
  · cases mid with
    | nil =>
      cases split
      exact ⟨(List.append_nil _).symm, rfl⟩
    | cons y mid =>
      cases split
      exact (apart once).elim
  · cases mid with
    | nil =>
      cases split
      exact ⟨List.append_nil _, rfl⟩
    | cons y mid =>
      cases split
      rw [List.append_assoc] at once
      exact (apart once).elim

end Places

theorem finished_mem {log : List Incident} {t : Task} {left : Except MethodError (List Value)}
    (inside : (t, left) ∈ finished log) :
    ∃ before after, log = before ++ .finished t left :: after := by
  obtain ⟨before, x, after, rfl, seen⟩ := view_mem inside
  cases x with
  | finished u back =>
    cases seen
    exact ⟨before, after, rfl⟩
  | _ => cases seen

theorem mem_finished {before after : List Incident} {t : Task}
    {left : Except MethodError (List Value)} :
    (t, left) ∈ finished (before ++ .finished t left :: after) := by
  rw [finished_append]
  exact List.mem_append_right _ List.mem_cons_self

theorem counted_mem {log : List Incident} {t : Task} {left : Except MethodError (List Value)}
    (inside : (t, left) ∈ counted log) :
    ∃ before after, log = before ++ .counted t left :: after := by
  obtain ⟨before, x, after, rfl, seen⟩ := view_mem inside
  cases x with
  | counted u back =>
    cases seen
    exact ⟨before, after, rfl⟩
  | _ => cases seen

/-! ## Numbers -/

theorem Chronicle.accepted_tickets (log : List Incident) :
    ((accepted log).map Task.id).Sublist (tickets log) := by
  induction log with
  | nil => exact List.Sublist.refl []
  | cons x rest ih =>
    cases x with
    | accepted t => exact ih.cons_cons t.id
    | refused t e => exact ih.cons t.id
    | _ => exact ih

namespace TasksAccounted

section Numbers

variable {depth limit perTick : Nat} {phase : Phase} {log : List Incident} {q : TaskQueue}
  (accounts : TasksAccounted depth limit perTick phase log q)
include accounts

theorem growing : (tickets log).Pairwise fun a b => a.number < b.number := by
  have growing : ((tickets log).map TaskId.number).Pairwise (· < ·) := by
    rw [accounts.numbers]
    exact List.pairwise_lt_range'
  exact List.pairwise_map.mp growing

theorem increasing : (accepted log).Pairwise fun t u => t.id.number < u.id.number :=
  List.Pairwise.of_map Task.id (fun _ _ grows => grows)
    (accounts.growing.sublist (accepted_tickets log))

/-- Whether a task finds a place depends on nothing but how many wait. -/
theorem answer (completion : Completion) (body : Code) : (q.enqueue completion body).1 =
    if q.pending < max 1 limit then .ok ⟨q.nextId⟩ else .error .full := by
  have room : q.capacity = max 1 limit := by
    rw [← accounts.limited]
    rfl
  rw [← room]
  rcases q.enqueue_cases completion body with ⟨e, refused, why⟩ | ⟨free, queued⟩
  · obtain ⟨rfl, full⟩ := why accounts.live
    rw [refused]
    exact (if_neg (Nat.not_lt.mpr full)).symm
  · rw [queued]
    exact (if_pos free).symm

/-- Tasks that were queued are told apart by their numbers. -/
theorem unique {t u : Task} (first : t ∈ accepted log) (second : u ∈ accepted log)
    (same : t.id = u.id) : t = u :=
  eq_of_same_key accounts.increasing first second (congrArg TaskId.number same)

theorem accepted_of_started {t : Task} (ran : t ∈ started log) : t ∈ accepted log := by
  rw [accounts.inOrder]
  exact List.mem_append_left _ ran

theorem accepted_of_waiting {t : Task} (waits : t ∈ q.waiting) : t ∈ accepted log := by
  rw [accounts.inOrder]
  exact List.mem_append_right _ waits

theorem started_increasing : (started log).Pairwise fun t u => t.id.number < u.id.number := by
  have early : (started log).Sublist (accepted log) := by
    rw [accounts.inOrder]
    exact List.sublist_append_left _ _
  exact accounts.increasing.sublist early

/-- A task that was refused shares its number with none that was queued. -/
theorem refused_apart {t u : Task} {e : QueueError} (refused : .refused t e ∈ log)
    (queued : u ∈ accepted log) : u.id ≠ t.id := by
  obtain ⟨before, after, rfl⟩ := List.append_of_mem refused
  have growing := accounts.growing
  rw [show tickets (before ++ .refused t e :: after) = tickets before ++ t.id :: tickets after from
    tickets_append _ _] at growing
  obtain ⟨-, later, apart⟩ := List.pairwise_append.mp growing
  rw [show accepted (before ++ .refused t e :: after) = accepted before ++ accepted after from
    accepted_append _ _] at queued
  intro same
  rcases List.mem_append.mp queued with early | late
  · have given := (accepted_tickets before).subset (List.mem_map_of_mem early)
    rw [same] at given
    exact Nat.lt_irrefl _ (apart t.id given t.id List.mem_cons_self)
  · have given := (accepted_tickets after).subset (List.mem_map_of_mem late)
    rw [same] at given
    exact Nat.lt_irrefl _ ((List.pairwise_cons.mp later).1 t.id given)

end Numbers

/-! ## Tasks that have ended -/

section AtRest

variable {depth limit perTick : Nat} {log : List Incident} {q : TaskQueue}
  (accounts : TasksAccounted depth limit perTick .idle log q)
include accounts

theorem all_ended : started log = (finished log).map Prod.fst :=
  accounts.begun.trans (List.append_nil _)

theorem started_of_finished {r : Task × Except MethodError (List Value)}
    (ended : r ∈ finished log) : r.1 ∈ started log := by
  rw [accounts.all_ended]
  exact List.mem_map_of_mem ended

theorem all_counted : finished log = counted log := accounts.ended.trans (List.append_nil _)

/-- The counters balance while no task is in the middle of its run. -/
theorem balanced : q.submitted = q.completed + q.failed + q.pending := by
  have parted : (counted log).length = q.completed + q.failed := by
    rw [accounts.completed, accounts.failed,
      List.length_eq_countP_add_countP (p := fun r => Host.succeeded r.2) (l := counted log)]
    simp only [Bool.not_eq_true, Bool.decide_eq_false]
  rw [accounts.submitted, accounts.inOrder, accounts.all_ended, accounts.all_counted,
    List.length_append, List.length_map, parted]
  rfl

theorem finished_increasing :
    (finished log).Pairwise fun r r' => r.1.id.number < r'.1.id.number := by
  have growing := accounts.started_increasing
  rw [accounts.all_ended] at growing
  exact List.Pairwise.of_map Prod.fst (fun _ _ grows => grows) growing

/-- A task comes to its end once. -/
theorem ended_once {r r' : Task × Except MethodError (List Value)} (first : r ∈ finished log)
    (second : r' ∈ finished log) (same : r.1.id = r'.1.id) : r = r' :=
  eq_of_same_key accounts.finished_increasing first second (congrArg TaskId.number same)

theorem finished_nodup : (finished log).Nodup := by
  refine accounts.finished_increasing.imp fun grows same => ?_
  rw [same] at grows
  exact Nat.lt_irrefl _ grows

end AtRest

end TasksAccounted

/-- A task has been run in one piece, from a host on: it was started, its body was run and left
something, and with that its completion was run; then it was counted. -/
def Ran (depth : Nat) (log : List Incident) (t : Task) (left : Except MethodError (List Value))
    (h : Host) : Prop :=
  ∃ prior later, log = prior ++ .started t :: (h.ranIncidents depth t.body ++
      .finished t left :: ((t.body.run depth h).2.ranIncidents depth (t.completion t.id left) ++
        .counted t left :: later)) ∧
    (t.body.run depth h).1.settled = .ok left ∧
    ((t.body.run depth h).2.complete depth t left).1 = .ok ()

/-- The report of a task is all that comes of its completion. -/
theorem Host.ranIncidents_report (depth : Nat) (h : Host) (id : TaskId)
    (left : Except MethodError (List Value)) :
    h.ranIncidents depth (Completion.report id left) = [.posted (Host.report id left)] := by
  have told : h.incidents [.ask (.queueEvent taskCompleteEvent (Completion.account id left))] =
      [.posted (Host.report id left)] := by
    simp [incidents, incident, after, answer, queueEvent, report]
  cases depth <;> exact told

namespace TasksAccounted

variable {depth limit perTick : Nat} {log : List Incident} {q : TaskQueue} {t : Task}
  {left : Except MethodError (List Value)}
  (accounts : TasksAccounted depth limit perTick .idle log q)
include accounts

theorem ran_of_finished (ended : (t, left) ∈ finished log) : ∃ h, Ran depth log t left h := by
  rw [accounts.all_counted] at ended
  obtain ⟨before, after, split⟩ := counted_mem ended
  obtain ⟨prior, h, turn, settled, completed⟩ := accounts.own before _ after split
  refine ⟨h, prior, after, ?_, settled, completed⟩
  rw [split, turn]
  simp only [List.append_assoc, List.cons_append]

/-- The report of a task is queued at once when its body has come to its end. -/
theorem reported_next {before after : List Incident}
    (split : log = before ++ .finished t left :: after)
    (reported : t.completion = Completion.report) :
    ∃ rest, after = .posted (Host.report t.id left) :: rest := by
  obtain ⟨h, prior, later, turn, -, -⟩ := accounts.ran_of_finished (split ▸ mem_finished)
  rw [reported, Host.ranIncidents_report, ← List.cons_append, ← List.append_assoc] at turn
  obtain ⟨-, rfl⟩ := place_unique accounts.finished_nodup rfl split turn
  exact ⟨_, rfl⟩

end TasksAccounted

/-! ## Reports -/

/-- Whether an event bears the name of reports. -/
def Chronicle.named (event : List Value) : Bool := Value.headString? event == some taskCompleteEvent

theorem named_report (id : TaskId) (left : Except MethodError (List Value)) :
    named (Host.report id left) = true := rfl

section Reports

variable {x : Incident} {t : Task} {left : Except MethodError (List Value)}
  {rest : List Incident}

theorem reports_cons_reported (reported : t.completion = Completion.report) :
    reports (.finished t left :: rest) = Host.report t.id left :: reports rest := by
  unfold reports finished
  simp [reported]

theorem reports_cons_silent (silent : t.completion ≠ Completion.report) :
    reports (.finished t left :: rest) = reports rest := by
  unfold reports finished
  simp [silent]

theorem reports_cons_other (other : ∀ t left, x ≠ .finished t left) :
    reports (x :: rest) = reports rest := by
  cases x with
  | finished t left => exact absurd rfl (other t left)
  | _ => rfl

/-- By induction on the length of what is left of the incidents. -/
theorem reports_behind {whole : List Incident}
    (next : ∀ before t left after, whole = before ++ .finished t left :: after →
      t.completion = Completion.report → ∃ rest, after = .posted (Host.report t.id left) :: rest)
    (n : Nat) : ∀ {rest prior : List Incident}, rest.length ≤ n → whole = prior ++ rest →
      (∀ early t left, prior = early ++ [.finished t left] → t.completion ≠ Completion.report) →
      (reports rest).Sublist (posted rest) ∧
      (Unforged whole → (posted rest).filter named = reports rest) := by
  induction n with
  | zero =>
    intro rest prior short _ _
    rw [List.eq_nil_of_length_eq_zero (Nat.le_zero.mp short)]
    exact ⟨List.Sublist.refl [], fun _ => rfl⟩
  | succ n ih =>
    intro rest prior short split behind
    cases rest with
    | nil => exact ⟨List.Sublist.refl [], fun _ => rfl⟩
    | cons x rest =>
      have further : whole = (prior ++ [x]) ++ rest := by
        rw [split, List.append_assoc]
        rfl
      have shorter : rest.length ≤ n := Nat.le_of_succ_le_succ short
      have other (unlike : ∀ t left, x ≠ .finished t left) :
          (reports (x :: rest)).Sublist (posted rest) ∧
          (Unforged whole → (posted rest).filter named = reports (x :: rest)) := by
        rw [reports_cons_other unlike]
        refine ih shorter further fun early t left same => ?_
        exact absurd (List.append_inj_right' same rfl) (by simp [unlike])
      cases x with
      | posted event =>
        obtain ⟨inside, equal⟩ := other fun _ _ same => by cases same
        refine ⟨inside.cons event, fun unforged => ?_⟩
        have unnamed : named event = false := by
          refine beq_eq_false_iff_ne.mpr fun bears => ?_
          obtain ⟨early, t, left, same, reported, -⟩ := unforged prior _ rest split bears
          exact behind early t left same reported
        exact (List.filter_cons_of_neg (ne_true_of_eq_false unnamed)).trans (equal unforged)
      | finished t left =>
        by_cases reported : t.completion = Completion.report
        · obtain ⟨later, rfl⟩ := next prior t left rest split reported
          have beyond : whole =
              (prior ++ [.finished t left] ++ [.posted (Host.report t.id left)]) ++ later := by
            simp [split]
          obtain ⟨inside, equal⟩ := ih (Nat.le_of_succ_le shorter) beyond
            fun early u back same => by cases List.append_inj_right' same rfl
          rw [reports_cons_reported reported, reports_cons_other fun _ _ same => by cases same]
          refine ⟨inside.cons_cons _, fun unforged => ?_⟩
          rw [← equal unforged]
          exact List.filter_cons_of_pos (named_report t.id left)
        · rw [reports_cons_silent reported]
          refine ih shorter further fun early u back same => ?_
          cases List.append_inj_right' same rfl
          exact reported
      | _ => exact other fun _ _ same => by cases same

/-- The tasks that are to be reported are, one for one and in the order in which they have ended;
and nothing else bears the name of reports if nothing was forged. -/
theorem TasksAccounted.reports_posted {depth limit perTick : Nat} {log : List Incident}
    {q : TaskQueue} (accounts : TasksAccounted depth limit perTick .idle log q) :
    (reports log).Sublist (posted log) ∧
    (Unforged log → (posted log).filter named = reports log) :=
  reports_behind (fun _ _ _ _ split reported => accounts.reported_next split reported) log.length
    (Nat.le_refl _) (List.nil_append log).symm fun early t left same => by
      cases early <;> cases same

end Reports

end DeviceBridge
