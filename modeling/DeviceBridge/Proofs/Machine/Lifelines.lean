import DeviceBridge.Proofs.Machine.Strides

/-
  What one thread lives through. Of all that happens on a machine a thread notices the events that
  are taken out of the queue, and it is entered and moves itself (`lifeline`). A thread that is
  there notices every event: either it does not accept it, or it is entered with it at once and
  moves (`Lifeline`). So what follows on a state in a run is laid down up to the next state
  (`Lifeline.behind`): the thread passes over events, until it is entered with the first that it
  accepts, or is dropped by a stop, or the run ends (`Fate`).
-/

namespace DeviceBridge

open Chronicle

/-! ## The view of a thread -/

namespace Chronicle

/-- The events that are taken out, and what one thread does. -/
def lifeline (thread : ThreadId) (log : List Incident) : List Incident :=
  log.filter fun
    | .taken _ => true
    | .entered other _ => other = thread
    | .moved other _ _ => other = thread
    | _ => false

variable {thread : ThreadId} {log more : List Incident}

theorem lifeline_append (thread : ThreadId) (log more : List Incident) :
    lifeline thread (log ++ more) = lifeline thread log ++ lifeline thread more :=
  List.filter_append ..

theorem lifeline_plain (plain : ∀ x ∈ more, x.Plain) (thread : ThreadId) :
    lifeline thread more = [] := by
  refine List.filter_eq_nil_iff.mpr fun x inside => ?_
  have here := plain x inside
  cases x <;> first | exact Bool.false_ne_true | exact here.elim

theorem lifeline_taken (thread : ThreadId) (events : List (List Value)) :
    lifeline thread (events.map .taken) = events.map .taken := by
  refine List.filter_eq_self.mpr fun x inside => ?_
  obtain ⟨event, -, rfl⟩ := List.mem_map.mp inside
  rfl

theorem states_taken (thread : ThreadId) (events : List (List Value)) :
    states thread (events.map .taken) = [] := by
  unfold states
  rw [List.filterMap_map]
  exact List.filterMap_eq_nil_iff.mpr fun _ _ => rfl

/-- While the code of a thread is run, no other thread notices anything. -/
theorem lifeline_played (thread other : ThreadId) (cause : Option (List Value))
    (state : ThreadState) {code : List Incident} (plain : ∀ x ∈ code, x.Plain) :
    lifeline other (.entered thread cause :: (code ++ [.moved thread cause state])) =
      if thread = other then [.entered thread cause, .moved thread cause state] else [] := by
  have split : lifeline other (.entered thread cause :: (code ++ [.moved thread cause state])) =
      lifeline other [.entered thread cause] ++
        (lifeline other code ++ lifeline other [.moved thread cause state]) := by
    rw [← lifeline_append, ← lifeline_append]
    rfl
  rw [split, lifeline_plain plain]
  by_cases same : thread = other
  · simp [lifeline, same]
  · simp [lifeline, same]

theorem states_lifeline (thread : ThreadId) (log : List Incident) :
    states thread (lifeline thread log) = states thread log := by
  unfold states lifeline
  rw [List.filterMap_filter]
  refine congrArg (List.filterMap · log) (funext fun x => ?_)
  cases x with
  | moved other cause state => by_cases same : other = thread <;> simp [same]
  | _ => simp

theorem taken_lifeline (thread : ThreadId) (log : List Incident) :
    taken (lifeline thread log) = taken log := by
  unfold taken lifeline
  rw [List.filterMap_filter]
  refine congrArg (List.filterMap · log) (funext fun x => ?_)
  cases x <;> simp

end Chronicle

/-! ## Lives -/

/-- Where a thread is: yet to come, on the machine in some state, or no longer there. -/
inductive Whereabouts where
  | unborn
  | here (state : ThreadState)
  | gone

namespace Whereabouts

/-- Only a thread that is there accepts events. -/
def accepts (event : List Value) : Whereabouts → Bool
  | here state => state.accepts event
  | _ => false

def Away : Whereabouts → Prop
  | here _ => False
  | _ => True

theorem Away.deaf {place : Whereabouts} (away : place.Away) (event : List Value) :
    place.accepts event = false := by
  cases place with
  | here => exact away.elim
  | unborn | gone => rfl

end Whereabouts

/-- What a thread has noticed, and where it has come to. -/
inductive Lifeline (thread : ThreadId) : List Incident → Whereabouts → Prop where
  | unborn : Lifeline thread [] .unborn
  /-- An event is not for the thread. -/
  | passed {line : List Incident} {place : Whereabouts} {event : List Value}
      (before : Lifeline thread line place) (deaf : place.accepts event = false) :
      Lifeline thread (line ++ [.taken event]) place
  | born {line : List Incident} {state : ThreadState} (before : Lifeline thread line .unborn) :
      Lifeline thread (line ++ [.entered thread none, .moved thread none state]) (.here state)
  /-- An event is for the thread, which is entered with it before anything else is taken out. -/
  | heard {line : List Incident} {event : List Value} {state next : ThreadState}
      (before : Lifeline thread line (.here state)) (accepts : state.accepts event = true) :
      Lifeline thread (line ++ [.taken event, .entered thread (some event),
        .moved thread (some event) next]) (.here next)
  | left {line : List Incident} {state : ThreadState}
      (before : Lifeline thread line (.here state)) : Lifeline thread line .gone

/-- What follows on a state, behind the events that a thread passes over: nothing yet, or the thread
is no longer there, or it is entered once with the first event that it accepts. -/
inductive Fate (thread : ThreadId) (state : ThreadState) : Whereabouts → List Incident → Prop where
  | waits : Fate thread state (.here state) []
  | dropped (lost : List (List Value)) : Fate thread state .gone (lost.map .taken)
  | hears {place : Whereabouts} {event : List Value} {next : ThreadState} {rest : List Incident}
      (accepts : state.accepts event = true) :
      Fate thread state place (.taken event :: .entered thread (some event) ::
        .moved thread (some event) next :: rest)

theorem split_append {α : Type} {x : α} {line more before after : List α}
    (same : line ++ more = before ++ x :: after) :
    (∃ mid, line = before ++ x :: mid ∧ after = mid ++ more) ∨
      ∃ mid, before = line ++ mid ∧ more = mid ++ x :: after := by
  rcases List.append_eq_append_iff.mp same with ⟨mid, early, late⟩ | ⟨mid, early, late⟩
  · exact .inr ⟨mid, early, late⟩
  · cases mid with
    | nil =>
      rw [List.append_nil] at early
      exact .inr ⟨[], by rw [early, List.append_nil], late.symm⟩
    | cons y mid =>
      cases late
      exact .inl ⟨mid, early, rfl⟩

namespace Lifeline

variable {thread : ThreadId} {line : List Incident} {place : Whereabouts} {state : ThreadState}

/-- A thread that is away lets all events pass, by induction on them. -/
theorem passed_all (away : place.Away) (events : List (List Value)) : ∀ {line : List Incident},
    Lifeline thread line place → Lifeline thread (line ++ events.map .taken) place := by
  induction events with
  | nil =>
    intro line life
    rwa [List.map_nil, List.append_nil]
  | cons event rest ih =>
    intro line life
    have later := ih (life.passed (away.deaf event))
    rwa [List.append_assoc] at later

/-- A thread that is there is in the state that it last came to. -/
theorem last (life : Lifeline thread line place) (there : place = .here state) :
    (states thread line).getLast? = some state := by
  induction life with
  | unborn => cases there
  | passed _ _ ih =>
    rw [states_append]
    exact (congrArg List.getLast? (List.append_nil _)).trans (ih there)
  | born =>
    cases there
    simp [states]
  | heard =>
    cases there
    simp [states]
  | left => cases there

/-- Before it comes a thread does nothing. -/
theorem unborn_taken (life : Lifeline thread line place) (unborn : place = .unborn) :
    ∀ x ∈ line, ∃ event, x = .taken event := by
  induction life with
  | unborn => exact List.forall_mem_nil _
  | @passed line place event _ _ ih =>
    exact List.forall_mem_append.mpr ⟨ih unborn, List.forall_mem_singleton.mpr ⟨event, rfl⟩⟩
  | born => cases unborn
  | heard => cases unborn
  | left => cases unborn

/-- Behind a state there is its fate. By induction on the life of the thread. -/
theorem behind (life : Lifeline thread line place) :
    ∀ {before after : List Incident} {cause : Option (List Value)} {state : ThreadState},
      line = before ++ .moved thread cause state :: after →
      ∃ (quiet : List (List Value)) (tail : List Incident), after = quiet.map .taken ++ tail ∧
        (∀ event ∈ quiet, state.accepts event = false) ∧ Fate thread state place tail := by
  induction life with
  | unborn =>
    intro before after cause state same
    cases before <;> cases same
  | @passed line place event _ deaf ih =>
    intro before after cause state same
    rcases split_append same with ⟨mid, earlier, rfl⟩ | ⟨mid, -, ends⟩
    · obtain ⟨quiet, tail, rfl, refused, fate⟩ := ih earlier
      cases fate with
      | waits =>
        refine ⟨quiet ++ [event], [], by simp, ?_, .waits⟩
        exact List.forall_mem_append.mpr ⟨refused, List.forall_mem_singleton.mpr deaf⟩
      | dropped lost =>
        have longer : Fate thread state .gone ((lost ++ [event]).map .taken) := .dropped _
        exact ⟨quiet, _, by simp, refused, longer⟩
      | hears accepts => exact ⟨quiet, _, List.append_assoc .., refused, .hears accepts⟩
    · rcases mid with _ | ⟨x, mid⟩
      · cases ends
      · cases mid <;> cases ends
  | @born line next before' ih =>
    intro before after cause state same
    rcases split_append same with ⟨mid, earlier, rfl⟩ | ⟨mid, -, ends⟩
    · obtain ⟨event, other⟩ :=
        before'.unborn_taken rfl (.moved thread cause state) (by simp [earlier])
      cases other
    · rcases mid with _ | ⟨x, _ | ⟨y, mid⟩⟩
      · cases ends
      · cases ends
        exact ⟨[], [], rfl, List.forall_mem_nil _, .waits⟩
      · cases mid <;> cases ends
  | @heard line event held next _ accepts ih =>
    intro before after cause state same
    rcases split_append same with ⟨mid, earlier, rfl⟩ | ⟨mid, -, ends⟩
    · obtain ⟨quiet, tail, rfl, refused, fate⟩ := ih earlier
      cases fate with
      | waits => exact ⟨quiet, _, List.append_assoc .., refused, .hears accepts⟩
      | hears accepts => exact ⟨quiet, _, List.append_assoc .., refused, .hears accepts⟩
    · rcases mid with _ | ⟨x, _ | ⟨y, _ | ⟨z, mid⟩⟩⟩
      · cases ends
      · cases ends
      · cases ends
        exact ⟨[], [], rfl, List.forall_mem_nil _, .waits⟩
      · cases mid <;> cases ends
  | left _ ih =>
    intro before after cause state same
    obtain ⟨quiet, tail, rfl, refused, fate⟩ := ih same
    cases fate with
    | waits => exact ⟨quiet, [], rfl, refused, .dropped []⟩
    | hears accepts => exact ⟨quiet, _, rfl, refused, .hears accepts⟩

end Lifeline

/-! ## Events that are given to threads -/

theorem Thread.resume_incidents {t t' : Thread} {depth : Nat} {event : List Value} {h h' : Host}
    (accepts : t.state.accepts event = true)
    (resumed : t.resume depth event h = (.ok (), t', h')) : t'.id = t.id ∧
      ∃ code, (∀ x ∈ code, x.Plain) ∧ t.resumeIncidents depth event h =
        .entered t.id (some event) :: (code ++ [.moved t.id (some event) t'.state]) := by
  unfold Thread.resume at resumed
  unfold Thread.resumeIncidents
  cases held : t.state with
  | done result =>
    rw [held] at accepts
    cases accepts
  | parked filter frame =>
    rw [held] at resumed
    simp only at resumed ⊢
    cases went : frame.resume depth event h with
    | mk left h₁ =>
      rw [went] at resumed
      cases left with
      | error how => cases resumed
      | ok step =>
        cases resumed
        exact ⟨rfl, _, Host.ranIncidents_plain depth h (frame.next.on event), rfl⟩

/-- The first of the threads either does not accept an event, or is entered with it and moves before
the event is given to the others. -/
theorem Thread.deliver_cons {t : Thread} {rest threads' : List Thread} {depth : Nat}
    {event : List Value} {h h' : Host} {woke : Bool}
    (delivered : Thread.deliver depth event h (t :: rest) = (.ok woke, threads', h')) :
    ∃ t' rest' h₁ woke' own, threads' = t' :: rest' ∧ t'.id = t.id ∧
      Thread.deliver depth event h₁ rest = (.ok woke', rest', h') ∧
      Thread.deliverIncidents depth event h (t :: rest) =
        own ++ Thread.deliverIncidents depth event h₁ rest ∧
      (t.state.accepts event = false ∧ t'.state = t.state ∧ own = [] ∨
        t.state.accepts event = true ∧ ∃ code, (∀ x ∈ code, x.Plain) ∧
          own = .entered t.id (some event) :: (code ++ [.moved t.id (some event) t'.state])) := by
  unfold Thread.deliver at delivered
  simp only [Thread.deliverIncidents]
  by_cases accepts : t.state.accepts event = true
  · rw [if_pos accepts] at delivered
    simp only [if_pos accepts]
    cases resumed : t.resume depth event h with
    | mk left after =>
      obtain ⟨t', h₁⟩ := after
      rw [resumed] at delivered
      cases left with
      | error how => cases delivered
      | ok =>
        simp only at delivered ⊢
        obtain ⟨same, code, plain, incidents⟩ := Thread.resume_incidents accepts resumed
        cases later : Thread.deliver depth event h₁ rest with
        | mk answer left =>
          obtain ⟨rest', h₂⟩ := left
          rw [later] at delivered
          cases answer with
          | error how => cases delivered
          | ok woke =>
            cases delivered
            exact ⟨t', rest', h₁, woke, _, rfl, same, later, rfl,
              .inr ⟨accepts, code, plain, incidents⟩⟩
  · rw [if_neg accepts] at delivered
    simp only [if_neg accepts]
    cases later : Thread.deliver depth event h rest with
    | mk answer left =>
      obtain ⟨rest', h₁⟩ := left
      rw [later] at delivered
      cases delivered
      exact ⟨t, rest', h, woke, [], rfl, rfl, later, rfl,
        .inl ⟨Bool.not_eq_true _ ▸ accepts, rfl, rfl⟩⟩

/-- Every thread that accepts an event is entered with it and moves, and no other does anything. By
induction on the threads. -/
theorem Thread.deliver_lifelines {depth : Nat} {event : List Value} (threads : List Thread) :
    ∀ {h h' : Host} {woke : Bool} {threads' : List Thread}, (threads.map Thread.id).Nodup →
      Thread.deliver depth event h threads = (.ok woke, threads', h') →
      threads'.map Thread.id = threads.map Thread.id ∧
      (∀ other ∉ threads.map Thread.id,
        lifeline other (Thread.deliverIncidents depth event h threads) = []) ∧
      ∀ t' ∈ threads', ∃ t ∈ threads, t.id = t'.id ∧
        (t.state.accepts event = false ∧ t'.state = t.state ∧
            lifeline t.id (Thread.deliverIncidents depth event h threads) = [] ∨
          t.state.accepts event = true ∧
            lifeline t.id (Thread.deliverIncidents depth event h threads) =
              [.entered t.id (some event), .moved t.id (some event) t'.state]) := by
  induction threads with
  | nil =>
    intro h h' woke threads' _ delivered
    cases delivered
    exact ⟨rfl, fun _ _ => rfl, List.forall_mem_nil _⟩
  | cons t rest ih =>
    intro h h' woke threads' distinct delivered
    obtain ⟨apart, distinct⟩ := List.nodup_cons.mp distinct
    obtain ⟨t', rest', h₁, woke', own, rfl, same, later, incidents, turn⟩ :=
      Thread.deliver_cons delivered
    obtain ⟨ids, quiet, each⟩ := ih distinct later
    have foreign {thread : ThreadId} (other : t.id ≠ thread) : lifeline thread own = [] := by
      rcases turn with ⟨-, -, rfl⟩ | ⟨-, code, plain, rfl⟩
      · rfl
      · rw [lifeline_played t.id thread (some event) t'.state plain, if_neg other]
    simp only [incidents, lifeline_append]
    refine ⟨?_, fun thread outside => ?_, List.forall_mem_cons.mpr ⟨⟨t, .head _, same.symm, ?_⟩,
      fun u' here => ?_⟩⟩
    · rw [List.map_cons, List.map_cons, same, ids]
    · obtain ⟨differs, outside⟩ := not_or.mp (mt List.mem_cons.mpr outside)
      rw [foreign (Ne.symm differs), quiet thread outside]
      rfl
    · rw [quiet t.id apart, List.append_nil]
      refine turn.imp ?_ ?_
      · rintro ⟨deaf, unmoved, rfl⟩
        exact ⟨deaf, unmoved, rfl⟩
      · rintro ⟨accepts, code, plain, rfl⟩
        exact ⟨accepts,
          (lifeline_played t.id t.id (some event) t'.state plain).trans (if_pos rfl)⟩
    · obtain ⟨u, inside, same, cases⟩ := each u' here
      have other : t.id ≠ u.id := fun equal => apart (equal ▸ List.mem_map_of_mem inside)
      refine ⟨u, .tail _ inside, same, ?_⟩
      rw [foreign other, List.nil_append]
      exact cases

namespace Machine

/-! ## Threads of a machine -/

/-- The threads of a machine are different ones, each has come to the state that it is in, and all
others are away. -/
structure Populated (log : List Incident) (m : Machine) : Prop where
  distinct : (m.threads.map Thread.id).Nodup
  below : ∀ t ∈ m.threads, t.id.number < m.nextThread
  here : ∀ t ∈ m.threads, Lifeline t.id (lifeline t.id log) (.here t.state)
  away : ∀ thread ∉ m.threads.map Thread.id, ∃ place : Whereabouts, place.Away ∧
    Lifeline thread (lifeline thread log) place
  unborn : ∀ thread : ThreadId, m.nextThread ≤ thread.number →
    Lifeline thread (lifeline thread log) .unborn

variable {log more : List Incident} {m m' : Machine}

namespace Populated

/-- What is the same for all threads. -/
theorem quiet (populated : Populated log m) (same : ∀ thread, lifeline thread more = [])
    (untouched : Untouched m m') : Populated (log ++ more) m' := by
  obtain ⟨distinct, below, here, away, unborn⟩ := populated
  obtain ⟨-, threads, next⟩ := untouched
  have unchanged (thread : ThreadId) : lifeline thread (log ++ more) = lifeline thread log := by
    rw [lifeline_append, same, List.append_nil]
  simp only [← threads, ← next, ← unchanged] at distinct below here away unborn
  exact ⟨distinct, below, here, away, unborn⟩

/-- An event is given to the threads. -/
theorem given (populated : Populated log m) {event : List Value} {h h' : Host} {woke : Bool}
    {threads : List Thread}
    (delivered : Thread.deliver m.limits.depth event h m.threads = (.ok woke, threads, h')) :
    Populated (log ++ .taken event :: Thread.deliverIncidents m.limits.depth event h m.threads)
      { m with threads, host := h' } := by
  obtain ⟨distinct, below, here, away, unborn⟩ := populated
  obtain ⟨ids, quiet, each⟩ := Thread.deliver_lifelines m.threads distinct delivered
  have split (thread : ThreadId) : lifeline thread (log ++ .taken event ::
      Thread.deliverIncidents m.limits.depth event h m.threads) =
      lifeline thread log ++ (.taken event ::
        lifeline thread (Thread.deliverIncidents m.limits.depth event h m.threads)) :=
    lifeline_append ..
  have passed {thread : ThreadId} {place : Whereabouts} (absent : place.Away)
      (outside : thread ∉ m.threads.map Thread.id)
      (life : Lifeline thread (lifeline thread log) place) : Lifeline thread (lifeline thread
        (log ++ .taken event :: Thread.deliverIncidents m.limits.depth event h m.threads))
        place := by
    rw [split, quiet thread outside]
    exact life.passed (absent.deaf event)
  refine ⟨?_, fun t' inside => ?_, fun t' inside => ?_, fun thread outside => ?_,
    fun thread late => ?_⟩
  · rwa [ids]
  · obtain ⟨t, there, same, -⟩ := each t' inside
    rw [← same]
    exact below t there
  · obtain ⟨t, there, same, cases⟩ := each t' inside
    rw [← same, split]
    rcases cases with ⟨deaf, unmoved, nothing⟩ | ⟨accepts, heard⟩
    · rw [nothing, unmoved]
      exact (here t there).passed deaf
    · rw [heard]
      exact (here t there).heard accepts
  · rw [ids] at outside
    obtain ⟨place, absent, life⟩ := away thread outside
    exact ⟨place, absent, passed absent outside life⟩
  · refine passed trivial (fun inside => ?_) (unborn thread late)
    obtain ⟨t, there, rfl⟩ := List.mem_map.mp inside
    exact Nat.lt_irrefl _ (Nat.lt_of_lt_of_le (below t there) late)

/-- A thread comes, and bears the next number. -/
theorem came (populated : Populated log m) {t : Thread} {h : Host} {code : List Incident}
    (numbered : t.id = ⟨m.nextThread⟩) (plain : ∀ x ∈ code, x.Plain) :
    Populated (log ++ .entered t.id none :: (code ++ [.moved t.id none t.state]))
      { m with host := h, nextThread := m.nextThread + 1, threads := m.threads ++ [t] } := by
  obtain ⟨distinct, below, here, away, unborn⟩ := populated
  have own (thread : ThreadId) := lifeline_played t.id thread none t.state plain
  have number : t.id.number = m.nextThread := congrArg ThreadId.number numbered
  have others {thread : ThreadId} (other : t.id ≠ thread) {place : Whereabouts}
      (life : Lifeline thread (lifeline thread log) place) : Lifeline thread (lifeline thread
        (log ++ .entered t.id none :: (code ++ [.moved t.id none t.state]))) place := by
    rw [lifeline_append, own, if_neg other, List.append_nil]
    exact life
  have apart {u : Thread} (inside : u ∈ m.threads) : t.id ≠ u.id := by
    intro same
    have early := below u inside
    rw [← same, number] at early
    exact Nat.lt_irrefl _ early
  refine ⟨?_, ?_, ?_, fun thread outside => ?_, fun thread late => ?_⟩
  · rw [List.map_append, List.map_singleton, List.nodup_append]
    refine ⟨distinct, List.pairwise_singleton _ _, fun id old new last => ?_⟩
    obtain ⟨u, inside, rfl⟩ := List.mem_map.mp old
    rw [List.mem_singleton.mp last]
    exact (apart inside).symm
  · refine List.forall_mem_append.mpr ⟨fun u inside => ?_, List.forall_mem_singleton.mpr ?_⟩
    · exact Nat.lt_succ_of_lt (below u inside)
    · rw [number]
      exact Nat.lt_succ_self _
  · refine List.forall_mem_append.mpr ⟨fun u inside => others (apart inside) (here u inside),
      List.forall_mem_singleton.mpr ?_⟩
    rw [lifeline_append, own, if_pos rfl]
    exact (unborn t.id (Nat.le_of_eq number.symm)).born
  · rw [List.map_append, List.mem_append, not_or] at outside
    obtain ⟨place, absent, life⟩ := away thread outside.1
    exact ⟨place, absent, others (fun same => outside.2 (by simp [same])) life⟩
  · have later : m.nextThread < thread.number := late
    refine others (fun same => ?_) (unborn thread (Nat.le_of_lt later))
    rw [← same, number] at later
    exact Nat.lt_irrefl _ later

/-- Some threads go. -/
theorem fewer (populated : Populated log m) {threads : List Thread}
    (kept : threads.Sublist m.threads) {h : Host} {status : MachineStatus} :
    Populated log { m with threads, host := h, status } := by
  obtain ⟨distinct, below, here, away, unborn⟩ := populated
  refine ⟨distinct.sublist (kept.map _), fun u inside => below u (kept.subset inside),
    fun u inside => here u (kept.subset inside), fun thread outside => ?_, unborn⟩
  by_cases present : thread ∈ m.threads.map Thread.id
  · obtain ⟨u, there, rfl⟩ := List.mem_map.mp present
    exact ⟨.gone, trivial, (here u there).left⟩
  · exact away thread present

/-- Events are taken out while no thread is there. -/
theorem drained (populated : Populated log m) (empty : m.threads = [])
    (events : List (List Value)) : Populated (log ++ events.map .taken) m := by
  obtain ⟨distinct, below, here, away, unborn⟩ := populated
  have nobody {t : Thread} : t ∉ m.threads := by
    rw [empty]
    exact List.not_mem_nil
  have later {thread : ThreadId} {place : Whereabouts} (absent : place.Away)
      (life : Lifeline thread (lifeline thread log) place) :
      Lifeline thread (lifeline thread (log ++ events.map .taken)) place := by
    rw [lifeline_append, lifeline_taken]
    exact life.passed_all absent events
  refine ⟨distinct, below, fun t inside => absurd inside nobody, fun thread outside => ?_,
    fun thread late => later trivial (unborn thread late)⟩
  obtain ⟨place, absent, life⟩ := away thread outside
  exact ⟨place, absent, later absent life⟩

theorem stride (populated : Populated log m) (stride : Stride m more m') :
    Populated (log ++ more) m' := by
  cases stride with
  | plain plain untouched => exact populated.quiet (lifeline_plain plain) untouched
  | given delivered => exact populated.given delivered
  | came numbered plain => exact populated.came numbered plain
  | went =>
    rw [List.append_nil]
    exact populated.fewer List.filter_sublist

/-- By induction on the strides. -/
theorem strides (strides : Strides m more m') : ∀ {log : List Incident}, Populated log m →
    Populated (log ++ more) m' := by
  induction strides with
  | single stride => exact fun populated => populated.stride stride
  | append _ _ first second =>
    intro log populated
    rw [← List.append_assoc]
    exact second (first populated)

theorem shutdown (populated : Populated log m) (done : m.shutdown = (.ok (), m')) :
    Populated (log ++ m.shutdownIncidents) m' := by
  rcases shutdown_inversion done with
    ⟨-, nothing, rfl⟩ | ⟨-, m₁, code, plain, untouched, incidents, rfl⟩
  · rwa [nothing, List.append_nil]
  · rw [incidents, ← List.append_assoc]
    have ran := populated.quiet (lifeline_plain plain) untouched
    exact (ran.fewer (List.nil_sublist _)).drained rfl _

end Populated

/-! ## Runs -/

variable {limits : Limits} {limit perTick : Nat}

/-- By induction on the run. -/
theorem Recorded.populated (recorded : Recorded limits limit perTick log m) : Populated log m := by
  induction recorded with
  | start =>
    exact ⟨List.nodup_nil, List.forall_mem_nil _, List.forall_mem_nil _,
      fun _ _ => ⟨.unborn, trivial, .unborn⟩, fun _ _ => .unborn⟩
  | step _ op done ih =>
    by_cases stop : op = .shutdown
    · subst stop
      exact ih.shutdown done
    · exact Populated.strides (perform_strides op done stop) ih

end Machine

end DeviceBridge
