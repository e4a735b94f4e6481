import DeviceBridge.Proofs.Machine.Answers
import DeviceBridge.Proofs.Machine.Pulls

/-
  Which waits for tasks are attended to. Once a thread has begun to wait for a task, it does not let
  the report of that task pass (`unheard_since`), and reports are taken out in the order in which
  they were queued. So what counts is whether the report was still to come when the wait began
  (`attended_iff_in_time`). A wait that begins in the turn that queues the task is in time. But the
  wait is handed out when the task is queued, and whoever keeps it and gives it back later listens
  only from then on; if the report has been taken out by then, nothing is left to wake the thread
  (`kept_wait_unattended`).
-/

namespace DeviceBridge

open Chronicle

/-! ## The order of events and tasks -/

section Order

variable {depth : Nat} {log : List Incident}

/-- Events are taken out in the order in which they were queued. By induction on what happened. -/
theorem taken_prefix (log : List Incident) : Each (Link depth) log →
    ∃ later, posted log = taken log ++ later := by
  induction log using List.reverseRecOn with
  | nil => exact fun _ => ⟨[], rfl⟩
  | append_singleton log x ih =>
    intro linked
    obtain ⟨later, queue⟩ := ih linked.part
    rw [posted_append, taken_append]
    cases x with
    | taken event =>
      obtain ⟨later, queue⟩ := linked log _ [] rfl
      refine ⟨later, ?_⟩
      rw [queue]
      simp [posted, taken]
    | posted event =>
      refine ⟨later ++ [event], ?_⟩
      rw [queue]
      simp [posted, taken]
    | _ =>
      refine ⟨later, ?_⟩
      rw [queue]
      simp [posted, taken]

theorem posted_place {i : Nat} {event : List Value} (there : (posted log)[i]? = some event) :
    ∃ before after, log = before ++ .posted event :: after ∧ (posted before).length = i := by
  obtain ⟨before, x, after, rfl, shown, length⟩ := view_getElem? there
  cases x with
  | posted event =>
    cases shown
    exact ⟨before, after, rfl, length⟩
  | _ => cases shown

end Order

namespace TasksAccounted

variable {depth limit perTick : Nat} {log : List Incident} {q : TaskQueue} {u : Task}
  {left : Except MethodError (List Value)}
  (accounts : TasksAccounted depth limit perTick .idle log q)
include accounts

/-- A task that waits has not been started. -/
theorem unstarted (waits : u ∈ q.waiting) : u ∉ started log := by
  intro ran
  have growing := accounts.increasing
  rw [accounts.inOrder, List.pairwise_append] at growing
  exact Nat.lt_irrefl _ (growing.2.2 u ran u waits)

/-- A task is queued once, and started and brought to its end behind that. -/
theorem begun_behind {before after early late : List Incident}
    (ended : log = before ++ .finished u left :: after)
    (queued : log = early ++ .accepted u :: late) : ∃ mid code,
      before = early ++ .accepted u :: (mid ++ .started u :: code) := by
  obtain ⟨prior, h, turn, -⟩ := accounts.own before _ after ended
  have begun : log = prior ++ .started u :: (h.ranIncidents depth u.body ++
      .finished u left :: after) := by
    rw [ended, turn, List.append_assoc]
    rfl
  obtain ⟨later, queue⟩ := accounts.admitted prior _ _ begun
  have inside : u ∈ accepted prior := by
    rw [queue]
    exact List.mem_append_right _ List.mem_cons_self
  obtain ⟨first, x, mid, rfl, shown⟩ := view_mem inside
  cases x with
  | accepted v =>
    cases shown
    have once : (accepted log).Nodup := accounts.increasing.imp fun grows same => by
      rw [same] at grows
      exact Nat.lt_irrefl _ grows
    rw [List.append_assoc] at begun
    obtain ⟨rfl, -⟩ := place_unique once rfl queued begun
    refine ⟨mid, h.ranIncidents depth u.body, turn.trans ?_⟩
    rw [List.append_assoc]
    rfl
  | _ => cases shown

/-- The report of a task is queued behind those events that were queued before its body came to its
end. -/
theorem report_place (ended : (u, left) ∈ finished log)
    (told : u.completion = Completion.report) : ∃ before after,
      log = before ++ .finished u left :: after ∧
      (posted log)[(posted before).length]? = some (Host.report u.id left) := by
  obtain ⟨before, after, split⟩ := finished_mem ended
  obtain ⟨rest, rfl⟩ := accounts.reported_next split told
  refine ⟨before, _, split, ?_⟩
  have next : posted (.finished u left :: .posted (Host.report u.id left) :: rest) =
      Host.report u.id left :: posted rest := rfl
  rw [split, posted_append, next]
  simp

/-- What passes for the report of a task was queued when its body had come to its end. -/
theorem report_behind (unforged : Unforged log) (few : (tickets log).length ≤ UInt64.size)
    (queued : u ∈ accepted log) {i : Nat}
    (there : (posted log)[i]? = some (Host.report u.id left)) : ∃ before after back,
      log = before ++ .finished u back :: after ∧ (posted before).length = i := by
  obtain ⟨before, after, split, length⟩ := posted_place there
  obtain ⟨prior, v, back, rfl, -, same⟩ := unforged before _ after split rfl
  rw [List.append_assoc] at split
  have ended : v ∈ started log := accounts.started_of_finished (split ▸ mem_finished)
  have numbered : Program.isTask u.id (some v.id.toValue) = true := by
    have bears : ((Host.report v.id back)[1]? : Option Value) = some v.id.toValue := by
      cases back <;> rfl
    rw [← bears, ← same]
    exact Program.isTask_report u.id left
  obtain rfl := accounts.same_task few queued (accounts.accepted_of_started ended) numbered
  refine ⟨prior, _, back, split, ?_⟩
  rw [← length, posted_append]
  exact congrArg List.length (List.append_nil _).symm

/-- The report of a task is queued once. -/
theorem report_once (unforged : Unforged log) (few : (tickets log).length ≤ UInt64.size)
    (queued : u ∈ accepted log) {i j : Nat} {left' : Except MethodError (List Value)}
    (first : (posted log)[i]? = some (Host.report u.id left))
    (second : (posted log)[j]? = some (Host.report u.id left')) : i = j := by
  obtain ⟨before, after, back, here, rfl⟩ := accounts.report_behind unforged few queued first
  obtain ⟨early, late, back', there, rfl⟩ := accounts.report_behind unforged few queued second
  have ended : (u, back) ∈ finished log := here ▸ mem_finished
  have again : (u, back') ∈ finished log := there ▸ mem_finished
  cases accounts.ended_once ended again rfl
  obtain ⟨rfl, -⟩ := place_unique accounts.finished_nodup rfl here there
  rfl

end TasksAccounted

namespace Machine

variable {limits : Limits} {limit perTick : Nat} {log before after : List Incident} {m : Machine}
  {t : Thread} {u : Task} {id : TaskId} {s : ThreadState} {cause : Option (List Value)}

/-! ## Waits that go on -/

/-- A thread that is parked in a wait for a task is woken by its report. -/
theorem accepts_report (frame : Frame) (left : Except MethodError (List Value)) :
    (ThreadState.parked (some taskCompleteEvent) frame).accepts (Host.report id left) = true := by
  cases left <;> exact of_decide_eq_true rfl

/-- A thread that waits for a task has ended with the next event that it is given, or that was not
the report of the task and the thread came to wait for it again. -/
theorem waits_or_ends {depth : Nat} {thread : ThreadId} {mid : List Incident}
    {event : List Value} {next : ThreadState} (awaits : s.Awaits id)
    (still : states thread mid = [])
    (link : Link depth (before ++ .moved thread cause s :: mid) (.moved thread (some event) next)) :
    next.isDone = true ∨ next.Awaits id ∧ ∀ left, event ≠ Host.report id left := by
  obtain ⟨-, filter, frame, last, -, played⟩ := link
  have moved : states thread (.moved thread cause s :: mid) = s :: states thread mid := by
    simp [states]
  rw [states_append, moved, still, List.getLast?_concat] at last
  cases last
  obtain ⟨_, _, same, wait⟩ := awaits
  cases same
  rw [wait] at played
  refine (Played.lasts played).imp_right fun again => ⟨?_, ?_⟩
  · rw [show (Resumption.task id).on event = .await id from again] at played
    exact (played.await id).mpr rfl
  · rintro left rfl
    rw [Program.onTaskComplete_report] at again
    cases left <;> cases again

/-- A thread waits for a task, from some point on up to the end. Then it was given no event since,
or one that is not the report of the task, and came to wait for it again. -/
theorem waits_again (recorded : Recorded limits limit perTick log m) (there : t ∈ m.threads)
    (waits : t.state.Awaits id) (began : log = before ++ .moved t.id cause s :: after)
    (awaits : s.Awaits id) :
    (∀ left, Host.report id left ∉ taken after) ∨
    ∃ mid event next later, after = mid ++ .moved t.id (some event) next :: later ∧
      next.Awaits id ∧ ∀ left, Host.report id left ∉ taken mid := by
  have chronicled := recorded_chronicled recorded
  have linked := chronicled.recounts.linked
  have came : s ∈ states t.id log := by
    rw [began, states_append]
    simp [states]
  have split : lifeline t.id log = lifeline t.id before ++
      .moved t.id cause s :: lifeline t.id after := by
    rw [began, lifeline_append]
    simp [lifeline]
  obtain ⟨quiet, tail, line, refused, fate⟩ := (recorded.populated.here t there).behind split
  have passed (left : Except MethodError (List Value)) : Host.report id left ∉ quiet := by
    obtain ⟨frame, rfl⟩ := waits_filter linked came awaits
    intro inside
    exact Bool.false_ne_true ((refused _ inside).symm.trans (accepts_report frame left))
  generalize t.state = now at fate
  cases fate with
  | waits =>
    refine .inl fun left out => passed left ?_
    rwa [← taken_lifeline t.id, line, List.append_nil, (views_taken quiet).2] at out
  | @hears _ event next rest =>
    right
    have shows : lifeline t.id after = (quiet.map .taken ++ [.taken event,
        .entered t.id (some event)]) ++ .moved t.id (some event) next :: rest := by
      rw [line, List.append_assoc]
      rfl
    obtain ⟨mid, later, rfl, seen⟩ := lifeline_place shows
    have inner : log = (before ++ .moved t.id cause s :: mid) ++
        .moved t.id (some event) next :: later := by
      rw [began, List.append_assoc]
      rfl
    have still : states t.id mid = [] := by
      rw [← states_lifeline, seen, states_append, states_taken]
      rfl
    rcases waits_or_ends awaits still (linked _ _ _ inner) with done | ⟨again, other⟩
    · -- a thread that has ended waits for nothing
      cases next with
      | parked => cases done
      | done result =>
        obtain ⟨_, _, same, -⟩ := waits
        rw [chronicled.ended inner t there rfl] at same
        cases same
    · refine ⟨mid, event, next, later, rfl, again, fun left out => ?_⟩
      rw [← taken_lifeline t.id, seen, taken_append, (views_taken quiet).2] at out
      rcases List.mem_append.mp out with early | now
      · exact passed left early
      · exact other left (List.mem_singleton.mp now).symm

/-- A thread that goes on waiting for a task has not been given its report since it began to. By
induction on the length of what happened since. -/
theorem unheard_since (recorded : Recorded limits limit perTick log m) (there : t ∈ m.threads)
    (waits : t.state.Awaits id) (n : Nat) : ∀ {before after : List Incident} {s : ThreadState}
    {cause : Option (List Value)}, after.length ≤ n →
      log = before ++ .moved t.id cause s :: after → s.Awaits id →
      ∀ left, Host.report id left ∉ taken after := by
  induction n with
  | zero =>
    intro before after s cause short _ _ left
    rw [List.eq_nil_of_length_eq_zero (Nat.le_zero.mp short)]
    exact List.not_mem_nil
  | succ n ih =>
    intro before after s cause short began awaits left
    rcases waits_again recorded there waits began awaits with
      never | ⟨mid, event, next, later, rfl, again, quiet⟩
    · exact never left
    · have inner : log = (before ++ .moved t.id cause s :: mid) ++
          .moved t.id (some event) next :: later := by
        rw [began, List.append_assoc]
        rfl
      have shorter : later.length ≤ n := by
        rw [List.length_append, List.length_cons] at short
        omega
      have behind := ih shorter inner again left
      intro out
      rw [taken_append] at out
      exact (List.mem_append.mp out).elim (quiet left) behind

/-! ## Waits and their reports -/

/-- A thread began to wait for a task, with this before. -/
def BeganWait (log : List Incident) (thread : ThreadId) (id : TaskId) (before : List Incident) :
    Prop :=
  ∃ cause s after, log = before ++ .moved thread cause s :: after ∧ s.Awaits id

/-- The thread queued the task in the turn that comes to its end. -/
def InOneTurn (thread : ThreadId) (u : Task) (before : List Incident) : Prop :=
  ∃ prior cause own, before = prior ++ .entered thread cause :: own ∧ (∀ x ∈ own, x.OfCode) ∧
    .accepted u ∈ own

/-- A report that was still to come when a thread began to wait for it still waits in the queue. -/
theorem reported_of_to_come (recorded : Recorded limits limit perTick log m)
    (there : t ∈ m.threads) (waits : t.state.Awaits id) (began : BeganWait log t.id id before)
    {i : Nat} {left : Except MethodError (List Value)}
    (queued : (posted log)[i]? = some (Host.report id left))
    (toCome : (taken before).length ≤ i) : m.host.Reported id := by
  obtain ⟨cause, s, after, split, awaits⟩ := began
  have unheard := unheard_since recorded there waits _ (Nat.le_refl _) split awaits left
  have events := (recorded_chronicled recorded).recounts.accounts.events
  have out : taken log = taken before ++ taken after := by
    rw [split, taken_append]
    rfl
  rw [events, out, List.append_assoc, List.getElem?_append_right toCome] at queued
  exact ⟨left, (List.mem_append.mp (List.mem_of_getElem? queued)).resolve_left unheard⟩

section InTime

variable (recorded : Recorded limits limit perTick log m) (there : t ∈ m.threads)
  (queued : u ∈ accepted log) (told : u.completion = Completion.report)
  (waits : t.state.Awaits u.id) (began : BeganWait log t.id u.id before)
include recorded there queued told waits began

/-- A thread that waits for a task is attended to if the report of the task, wherever that is
queued, was still to come when the wait began. -/
theorem attended_of_to_come
    (toCome : ∀ early left late, log = early ++ .finished u left :: late →
      (posted log)[(posted early).length]? = some (Host.report u.id left) →
      (taken before).length ≤ (posted early).length) : m.host.Attended u.id := by
  have tasks := (recorded_chronicled recorded).recounts.accounts.tasks
  rw [tasks.inOrder] at queued
  rcases List.mem_append.mp queued with ran | waiting
  · rw [tasks.all_ended] at ran
    obtain ⟨⟨_, left⟩, ended, rfl⟩ := List.mem_map.mp ran
    obtain ⟨early, late, split, placed⟩ := tasks.report_place ended told
    exact .inr (reported_of_to_come recorded there waits began placed
      (toCome early left late split placed))
  · exact .inl ⟨u, waiting, rfl, told⟩

/-- The wait began before the body of the task had come to its end. -/
theorem attended_of_unfinished (ahead : ∀ left, (u, left) ∉ finished before) :
    m.host.Attended u.id := by
  refine attended_of_to_come recorded there queued told waits began ?_
  intro early left late ended _
  obtain ⟨cause, s, after, split, -⟩ := began
  have linked := (recorded_chronicled recorded).recounts.linked
  rw [split] at linked
  obtain ⟨later, queue⟩ := taken_prefix before linked.part
  rcases split_append (split.symm.trans ended) with ⟨mid, rfl, -⟩ | ⟨mid, rfl, -⟩
  · exact absurd mem_finished (ahead left)
  · rw [posted_append, queue, List.append_assoc, List.length_append]
    exact Nat.le_add_right _ _

/-- The wait began before a report of the task was taken out. -/
theorem attended_of_untaken (ahead : ∀ left, Host.report u.id left ∉ taken before) :
    m.host.Attended u.id := by
  refine attended_of_to_come recorded there queued told waits began ?_
  intro early left _ _ placed
  obtain ⟨cause, s, after, split, -⟩ := began
  have linked := (recorded_chronicled recorded).recounts.linked
  rw [split] at linked
  obtain ⟨later, queue⟩ := taken_prefix before linked.part
  refine Nat.le_of_not_lt fun earlier => ahead left ?_
  rw [split, posted_append, queue, List.append_assoc, List.getElem?_append_left earlier] at placed
  exact List.mem_of_getElem? placed

end InTime

/-- A wait that begins in the turn that queues its task begins before the task is run. -/
theorem unfinished_of_one_turn (recorded : Recorded limits limit perTick log m)
    (split : log = before ++ after) {thread : ThreadId} (turn : InOneTurn thread u before)
    (left : Except MethodError (List Value)) : (u, left) ∉ finished before := by
  intro ended
  obtain ⟨prior, cause, own, rfl, code, here⟩ := turn
  obtain ⟨early, late, divided⟩ := finished_mem ended
  obtain ⟨mid, rest, rfl⟩ := List.append_of_mem here
  have tasks := (recorded_chronicled recorded).recounts.accounts.tasks
  have placed : log =
      (prior ++ .entered thread cause :: mid) ++ .accepted u :: (rest ++ after) := by
    rw [split]
    simp
  have whole : log = early ++ .finished u left :: (late ++ after) := by
    rw [split, divided, List.append_assoc]
    rfl
  obtain ⟨between, body, rfl⟩ := tasks.begun_behind whole placed
  -- the task would have been started in the same turn, and code starts no tasks
  have same : rest = between ++ .started u :: (body ++ .finished u left :: late) := by
    simpa using divided
  have begun : Incident.started u ∈ mid ++ .accepted u :: rest := by
    rw [same]
    simp
  exact (code _ begun).elim

/-- Once the report of a task is taken out, neither the task nor its report is left. -/
theorem unattended_of_taken (recorded : Recorded limits limit perTick log m)
    (unforged : Unforged log) (few : (tickets log).length ≤ UInt64.size) (queued : u ∈ accepted log)
    {left : Except MethodError (List Value)} (out : Host.report u.id left ∈ taken log) :
    ¬m.host.Attended u.id := by
  obtain ⟨tasks, events⟩ := (recorded_chronicled recorded).recounts.accounts
  obtain ⟨i, within, shown⟩ := List.getElem_of_mem out
  have first : (posted log)[i]? = some (Host.report u.id left) := by
    rw [events, List.getElem?_append_left within, List.getElem?_eq_getElem within, shown]
  rintro (⟨v, waiting, same, -⟩ | ⟨left', waits⟩)
  · obtain rfl := tasks.unique (tasks.accepted_of_waiting waiting) queued same
    obtain ⟨before, after, back, split, -⟩ := tasks.report_behind unforged few queued first
    have ended : (v, back) ∈ finished log := split ▸ mem_finished
    exact tasks.unstarted waiting (tasks.started_of_finished ended)
  · obtain ⟨j, inside, there⟩ := List.getElem_of_mem waits
    have second : (posted log)[(taken log).length + j]? = some (Host.report u.id left') := by
      rw [events, List.getElem?_append_right (Nat.le_add_right _ _), Nat.add_sub_cancel_left,
        List.getElem?_eq_getElem inside, there]
    have same := tasks.report_once unforged few queued first second
    omega

/-! ## Ticks -/

/-- When the queued events have been delivered, none is left. By induction on the bound. -/
theorem pumpUpTo_drains (more : Nat) : ∀ {m m' : Machine} {delivered n : Nat},
    m.pumpUpTo delivered more = (.ok n, m') → m'.host.events = [] := by
  induction more with
  | zero =>
    intro m m' delivered n pumped
    unfold pumpUpTo at pumped
    by_cases empty : m.host.events.isEmpty
    · rw [if_pos empty] at pumped
      cases pumped
      exact List.isEmpty_iff.mp empty
    · rw [if_neg empty] at pumped
      cases pumped
  | succ more ih =>
    intro m m' delivered n pumped
    unfold pumpUpTo at pumped
    split at pumped
    · next none =>
      cases pumped
      unfold Host.popEvent at none
      split at none
      · next empty => exact empty
      · cases none
    · split at pumped
      · cases pumped
      · exact ih pumped

theorem tick_drains {m₀ : Machine} {n : Nat} (ticked : m₀.tick = (.ok n, m)) :
    m.host.events = [] := by
  unfold tick at ticked
  split at ticked
  · cases ticked
  · split at ticked
    · cases ticked
    · next pumped =>
      cases ticked
      exact pumpUpTo_drains _ pumped

/-- Where no event is left, a task is attended to if it has not been started. -/
theorem attended_iff_unstarted (recorded : Recorded limits limit perTick log m)
    (empty : m.host.events = []) (queued : u ∈ accepted log)
    (told : u.completion = Completion.report) : m.host.Attended u.id ↔ u ∉ started log := by
  have tasks := (recorded_chronicled recorded).recounts.accounts.tasks
  constructor
  · rintro (⟨v, waiting, same, -⟩ | ⟨left, waits⟩)
    · obtain rfl := tasks.unique (tasks.accepted_of_waiting waiting) queued same
      exact tasks.unstarted waiting
    · rw [empty] at waits
      exact absurd waits List.not_mem_nil
  · intro unstarted
    rw [tasks.inOrder] at queued
    exact .inl ⟨u, (List.mem_append.mp queued).resolve_left unstarted, rfl, told⟩

/-! ## Wake-ups -/

/-- Whoever queues a task is handed the wait for just that task. A thread that waits for a task has
begun to at some point, and it depends on whether the report was still to come then. If the task had
not come to its end by then, or if no report of it had been taken out, then the task is still queued
or its report is; so it is if the wait began in the turn that queued the task. If nothing is forged
and numbers have not run out of words, then there is no other way: where a report was taken out
before, neither the task nor a report of it is left. When the machine has ticked, to be attended to
means that the task has not been run. -/
theorem attended_iff_in_time (recorded : Recorded limits limit perTick log m)
    (there : t ∈ m.threads) (queued : u ∈ accepted log) (told : u.completion = Completion.report)
    (waits : t.state.Awaits u.id) :
    (∀ (h h' : Host) (body : Code) (id : TaskId),
      h.enqueue Completion.report body = (.ok id, h') → HandsOver body id h h') ∧
    (∃ before, BeganWait log t.id u.id before) ∧
    (∀ before, BeganWait log t.id u.id before →
      ((∀ left, (u, left) ∉ finished before) → m.host.Attended u.id) ∧
      ((∀ left, Host.report u.id left ∉ taken before) → m.host.Attended u.id) ∧
      (InOneTurn t.id u before → m.host.Attended u.id) ∧
      (Unforged log → (tickets log).length ≤ UInt64.size →
        (m.host.Attended u.id ↔ ∀ left, Host.report u.id left ∉ taken before))) ∧
    ∀ (m₀ : Machine) (n : Nat), m₀.tick = (.ok n, m) →
      (m.host.Attended u.id ↔ u ∉ started log) := by
  refine ⟨fun _ _ _ _ => Code.handsOver, ?_, fun before began => ?_, fun m₀ n ticked =>
    attended_iff_unstarted recorded (tick_drains ticked) queued told⟩
  · have last := (recorded_chronicled recorded).stand.last t there
    obtain ⟨before, cause, after, split⟩ := states_mem (List.mem_of_getLast? last)
    exact ⟨before, cause, t.state, after, split, waits⟩
  have ⟨cause, s, after, split, _⟩ := began
  have unfinished := attended_of_unfinished recorded there queued told waits began
  have untaken := attended_of_untaken recorded there queued told waits began
  refine ⟨unfinished, untaken, fun turn =>
    unfinished (unfinished_of_one_turn recorded split turn), fun unforged few =>
      ⟨fun attended left out => ?_, untaken⟩⟩
  have gone : Host.report u.id left ∈ taken log := by
    rw [split, taken_append]
    exact List.mem_append_left _ out
  exact unattended_of_taken recorded unforged few queued gone attended

/-- An API with one method, which runs on the main thread. -/
def errandApi : Api where
  names := ["host"]
  declaration := ⟨.registry, "Errands", true, [],
    [(MethodDecl.plain ⟨1⟩ "run" .unit fun _ => Code.unit).onMainThread]⟩
  object := .registry
  startup := Code.unit
  shutdown := Code.unit

/-- A machine with a thread that has called the method. -/
def errandMachine : Machine :=
  [Operation.addApi errandApi, .startup, .spawn "host" "run" []].foldl
    (fun m op => (op.perform m).2) (ofHost ⟨1, 1⟩ (Host.new Config.default))

theorem attended_iff_in_time_errand : ∃ log, Recorded ⟨1, 1⟩ 5000 256 log errandMachine ∧
    ∃ t ∈ errandMachine.threads, ∃ u ∈ accepted log, ∃ before,
      t.state.Awaits u.id ∧ u.completion = Completion.report ∧ BeganWait log t.id u.id before ∧
      InOneTurn t.id u before ∧ errandMachine.host.Attended u.id := by
  have fresh : Recorded ⟨1, 1⟩ 5000 256 [] (ofHost ⟨1, 1⟩ (Host.new Config.default)) :=
    .start rfl rfl
  have installed := fresh.next (.addApi errandApi) rfl
  have started := installed.next .startup rfl
  have recorded : Recorded ⟨1, 1⟩ 5000 256 _ errandMachine :=
    started.next (.spawn "host" "run" []) rfl
  revert recorded
  generalize whole : (_ : List Incident) ++ (Operation.spawn "host" "run" []).incidents _ = log
  intro recorded
  obtain ⟨t, u, alone, happened, number, told, waits⟩ : ∃ t u, errandMachine.threads = [t] ∧
      log = [.entered ⟨1⟩ none, .accepted u, .moved ⟨1⟩ none t.state] ∧ t.id = ⟨1⟩ ∧
      u.completion = Completion.report ∧ t.state.Awaits u.id :=
    ⟨_, _, rfl, whole.symm, rfl, rfl, _, _, rfl, rfl⟩
  have there : t ∈ errandMachine.threads := by
    rw [alone]
    exact List.mem_singleton_self t
  have queued : u ∈ accepted log := by
    rw [happened]
    exact List.mem_singleton_self u
  have began : BeganWait log t.id u.id [.entered ⟨1⟩ none, .accepted u] := by
    rw [happened, number]
    exact ⟨none, t.state, [], rfl, waits⟩
  have turn : InOneTurn t.id u [.entered ⟨1⟩ none, .accepted u] := by
    rw [number]
    exact ⟨[], none, [.accepted u], rfl, List.forall_mem_singleton.mpr trivial,
      List.mem_singleton_self _⟩
  obtain ⟨-, -, each, -⟩ := attended_iff_in_time recorded there queued told waits
  obtain ⟨-, -, prompt, -⟩ := each _ began
  exact ⟨log, recorded, t, there, u, queued, _, waits, told, began, turn, prompt turn⟩

/-- An API with one method, which queues a task and gives the wait for it back after the next
event. -/
def keeperApi : Api where
  names := ["host"]
  declaration := ⟨.registry, "Keeper", true, [],
    [MethodDecl.plain ⟨1⟩ "run" .outcome fun _ =>
      Code.issueTask Code.unit fun id => Code.yieldValues [] fun _ => .await id]⟩
  object := .registry
  startup := Code.unit
  shutdown := Code.unit

/-- A machine that has ticked since a thread has called the method. -/
def keeperMachine : Machine :=
  [Operation.addApi keeperApi, .startup, .spawn "host" "run" [], .tick].foldl
    (fun m op => (op.perform m).2) (ofHost ⟨1, 1⟩ (Host.new Config.default))

/-- The report of the task is the next event. Then the thread waits for the task, which has been
run, and no event is left. -/
theorem kept_wait_unattended : ∃ log, Recorded ⟨1, 1⟩ 5000 256 log keeperMachine ∧
    ∃ t ∈ keeperMachine.threads, ∃ u ∈ accepted log, u.completion = Completion.report ∧
      t.state.Awaits u.id ∧ (u, .ok []) ∈ finished log ∧ ¬keeperMachine.host.Attended u.id := by
  have fresh : Recorded ⟨1, 1⟩ 5000 256 [] (ofHost ⟨1, 1⟩ (Host.new Config.default)) :=
    .start rfl rfl
  have installed := fresh.next (.addApi keeperApi) rfl
  have started := installed.next .startup rfl
  have spawned := started.next (.spawn "host" "run" []) rfl
  have recorded : Recorded ⟨1, 1⟩ 5000 256 _ keeperMachine := spawned.next .tick rfl
  revert recorded
  generalize whole : (_ : List Incident) ++ Operation.tick.incidents _ = log
  intro recorded
  let event := Host.report ⟨1⟩ (.ok [])
  obtain ⟨t, u, s, alone, happened, told, waits⟩ : ∃ t u s, keeperMachine.threads = [t] ∧
      log = [.entered ⟨1⟩ none, .accepted u, .moved ⟨1⟩ none s, .started u, .finished u (.ok []),
        .posted event, .counted u (.ok []), .taken event, .entered ⟨1⟩ (some event),
        .moved ⟨1⟩ (some event) t.state] ∧
      u.completion = Completion.report ∧ t.state.Awaits u.id :=
    ⟨_, _, _, rfl, whole.symm, rfl, _, _, rfl, rfl⟩
  refine ⟨log, recorded, t, ?_, u, ?_, told, waits, ?_, ?_⟩
  · rw [alone]
    exact List.mem_singleton_self t
  · rw [happened]
    exact List.mem_singleton_self u
  · rw [happened]
    exact List.mem_singleton_self _
  · rintro (⟨v, waiting, -⟩ | ⟨left, reported⟩)
    · exact absurd waiting List.not_mem_nil
    · exact absurd reported List.not_mem_nil

end Machine

end DeviceBridge
