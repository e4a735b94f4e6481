import DeviceBridge.Proofs.Machine.Accounting

/-
  How the incidents of a machine hang together. What is taken out of the event queue is the oldest
  event that was queued and not taken yet. A thread moves when its code has just been run, the first
  time as a new thread, and from then on out of the state in which it was left, with an event that
  was taken out and that it accepts (`Link`). In between, the threads of the machine are in the
  states that they last came to (`Stand`). Here for the code of hosts and threads: giving an event
  to the threads keeps all of this and the accounts (`Recounted.deliver`).
-/

namespace DeviceBridge

open Chronicle

/-! ## Links -/

/-- A program has just been run for a thread, and has left it in a state. -/
def Played (depth : Nat) (before : List Incident) (thread : ThreadId)
    (event : Option (List Value)) (p : Program) (label : Label) (logs : Bool) (inherited : UInt32)
    (state : ThreadState) : Prop :=
  ∃ prior h step, before = prior ++ .entered thread event :: h.ranIncidents depth p ∧
    (settle label logs inherited (p.run depth h)).1 = .ok step ∧ state = .ofStep step

/-- How an incident follows from those before it. -/
def Link (depth : Nat) (before : List Incident) : Incident → Prop
  | .taken event => ∃ later, posted before = taken before ++ event :: later
  | .moved thread none state => states thread before = [] ∧ ∃ (f : BoundMethod) (args : Arguments),
    Played depth before thread none (f.method.apply f.object f.contexts args) f.label
      f.logsHostErrors 0 state
  | .moved thread (some event) state => event ∈ taken before ∧ ∃ filter frame,
    (states thread before).getLast? = some (.parked filter frame) ∧
    (ThreadState.parked filter frame).accepts event = true ∧
    Played depth before thread (some event) (frame.next.on event) frame.label frame.logsHostErrors
      frame.adjust state
  | _ => True

/-- The accounts of a host are right, and the incidents hang together. -/
structure Recounted (depth limit perTick : Nat) (log : List Incident) (h : Host) : Prop where
  accounts : Accounted depth limit perTick .idle log h
  linked : Each (Link depth) log

/-- The threads are different ones, and are in the states that they last came to. -/
structure Stand (log : List Incident) (threads : List Thread) : Prop where
  distinct : (threads.map Thread.id).Nodup
  last : ∀ t ∈ threads, (states t.id log).getLast? = some t.state

/-! ## Incidents of code and of the main thread -/

namespace Incident

/-- What code brings about: tasks are handed in, and events are queued. -/
def OfCode : Incident → Prop
  | accepted _ | refused .. | posted _ => True
  | _ => False

/-- No event is taken out, and no thread moves. -/
def Plain : Incident → Prop
  | taken _ | entered .. | moved .. => False
  | _ => True

theorem OfCode.plain {x : Incident} (code : x.OfCode) : x.Plain := by
  cases x <;> trivial

end Incident

theorem states_plain {more : List Incident} (plain : ∀ x ∈ more, x.Plain) (thread : ThreadId) :
    states thread more = [] := by
  refine List.filterMap_eq_nil_iff.mpr fun x inside => ?_
  have here := plain x inside
  cases x <;> first | rfl | exact here.elim

theorem linked_plain {depth : Nat} {log more : List Incident} (linked : Each (Link depth) log)
    (plain : ∀ x ∈ more, x.Plain) : Each (Link depth) (log ++ more) := by
  refine linked.append (each_of_forall fun x inside before => ?_)
  have here := plain x inside
  cases x <;> trivial

namespace Host

theorem handedIn_ofCode (q : TaskQueue) (completion : Completion) (body : Code) :
    (q.handedIn completion body).OfCode := by
  unfold TaskQueue.handedIn
  split <;> trivial

theorem incident_ofCode (h : Host) (c : Change) : ∀ x ∈ h.incident c, x.OfCode := by
  intro x inside
  unfold incident at inside
  split at inside
  · rw [List.mem_singleton.mp inside]
    exact handedIn_ofCode _ _ _
  · obtain ⟨event, -, rfl⟩ := List.mem_map.mp inside
    trivial

/-- By induction on the changes. -/
theorem incidents_ofCode (cs : List Change) : ∀ h : Host, ∀ x ∈ h.incidents cs, x.OfCode := by
  induction cs with
  | nil =>
    intro h x inside
    exact absurd inside List.not_mem_nil
  | cons c rest ih =>
    intro h x inside
    rcases List.mem_append.mp inside with now | later
    · exact incident_ofCode h c x now
    · exact ih (h.after c) x later

theorem ranIncidents_ofCode (n : Nat) (h : Host) (p : Program) :
    ∀ x ∈ h.ranIncidents n p, x.OfCode :=
  incidents_ofCode _ h

theorem ranIncidents_plain (n : Nat) (h : Host) (p : Program) :
    ∀ x ∈ h.ranIncidents n p, x.Plain :=
  fun x inside => (ranIncidents_ofCode n h p x inside).plain

/-- By induction on the turns of the main thread. -/
theorem tickIncidents_plain (n turns : Nat) : ∀ h : Host, ∀ x ∈ h.tickIncidents n turns,
    x.Plain := by
  induction turns with
  | zero =>
    intro h x inside
    exact absurd inside List.not_mem_nil
  | succ more ih =>
    intro h x inside
    unfold tickIncidents at inside
    split at inside
    · exact absurd inside List.not_mem_nil
    · next t rest _ =>
      rcases List.mem_cons.mp inside with rfl | inside
      · trivial
      · rcases List.mem_append.mp inside with own | inside
        · exact ranIncidents_plain n rest t.body x own
        · simp only at inside
          split at inside
          · exact absurd inside List.not_mem_nil
          · rcases List.mem_cons.mp inside with rfl | inside
            · trivial
            · rcases List.mem_append.mp inside with passed | inside
              · exact ranIncidents_plain n _ _ x passed
              · split at inside
                · exact absurd inside List.not_mem_nil
                · rcases List.mem_cons.mp inside with rfl | later
                  · trivial
                  · exact ih _ x later

end Host

/-! ## Threads -/

section Threads

variable {depth limit perTick : Nat} {log : List Incident} {h h' : Host} {event : List Value}

theorem Accounted.settled {phase : Phase} {ran : Outcome × Host}
    (accounts : Accounted depth limit perTick phase log ran.2) (label : Label) (logs : Bool)
    (inherited : UInt32) :
    Accounted depth limit perTick phase log (settle label logs inherited ran).2 := by
  unfold settle
  split
  · exact accounts
  · split <;> exact accounts
  · split <;> exact accounts
  · split
    · exact accounts.same rfl rfl
    · exact accounts
  · exact accounts

/-- The oldest event is taken out. -/
theorem Recounted.take (recounted : Recounted depth limit perTick log h)
    (popped : h.popEvent = some (event, h')) :
    Recounted depth limit perTick (log ++ [.taken event]) h' := by
  refine ⟨recounted.accounts.take popped, recounted.linked.snoc ?_⟩
  unfold Host.popEvent at popped
  split at popped
  · cases popped
  · next rest waits =>
    cases popped
    exact ⟨rest, by rw [recounted.accounts.events, waits]⟩

/-- All events are taken out. -/
theorem Recounted.drain (recounted : Recounted depth limit perTick log h) :
    Recounted depth limit perTick (log ++ h.events.map .taken) h.drainEvents.2 := by
  refine ⟨recounted.accounts.drain, recounted.linked.append fun before x after split => ?_⟩
  obtain ⟨earlier, rest, waits, rfl, behind⟩ := List.map_eq_append_iff.mp split
  obtain ⟨event, later, rfl, rfl, -⟩ := List.map_eq_cons_iff.mp behind
  obtain ⟨nonePosted, allTaken⟩ := views_taken earlier
  refine ⟨later, ?_⟩
  rw [posted_append, taken_append, nonePosted, allTaken, recounted.accounts.events, waits,
    List.append_nil, List.append_assoc]

/-- The code of a thread is run and leaves it in a state. -/
theorem Recounted.play (recounted : Recounted depth limit perTick log h) {thread : ThreadId}
    {cause : Option (List Value)} {p : Program} {label : Label} {logs : Bool} {inherited : UInt32}
    {step : StepResult} (settled : settle label logs inherited (p.run depth h) = (.ok step, h'))
    (link : Link depth (log ++ .entered thread cause :: h.ranIncidents depth p)
      (.moved thread cause (.ofStep step))) :
    Recounted depth limit perTick (log ++ .entered thread cause ::
      (h.ranIncidents depth p ++ [.moved thread cause (.ofStep step)])) h' := by
  have entered : Accounted depth limit perTick .idle (log ++ [.entered thread cause]) h :=
    recounted.accounts.idle (List.forall_mem_singleton.mpr trivial) rfl (List.append_nil _)
  have ran := (entered.ran depth p).settled label logs inherited
  rw [settled, List.append_assoc, List.singleton_append] at ran
  have linked : Each (Link depth) (log ++ .entered thread cause :: h.ranIncidents depth p) := by
    have first : Each (Link depth) (log ++ [.entered thread cause]) :=
      recounted.linked.snoc trivial
    have both := linked_plain first (Host.ranIncidents_plain depth h p)
    rwa [List.append_assoc, List.singleton_append] at both
  have moved := ran.moved thread cause (.ofStep step)
  have all := linked.snoc link
  rw [List.append_assoc, List.cons_append] at moved all
  exact ⟨moved, all⟩

/-- While the code of a thread is run, that thread moves once and no other does. -/
theorem states_played (depth : Nat) (h : Host) (thread other : ThreadId)
    (cause : Option (List Value)) (p : Program) (state : ThreadState) :
    states other (.entered thread cause :: (h.ranIncidents depth p ++
      [.moved thread cause state])) = if thread = other then [state] else [] := by
  have code := states_plain (Host.ranIncidents_plain depth h p) other
  have both := states_append (h.ranIncidents depth p) [.moved thread cause state] other
  rw [code, List.nil_append] at both
  refine Eq.trans both ?_
  by_cases same : thread = other
  · rw [if_pos same]
    simp [states, same]
  · rw [if_neg same]
    simp [states, same]

theorem Stand.still {threads : List Thread} {more : List Incident} (stand : Stand log threads)
    (quiet : ∀ t ∈ threads, states t.id more = []) : Stand (log ++ more) threads := by
  refine ⟨stand.distinct, fun t inside => ?_⟩
  rw [states_append, quiet t inside, List.append_nil]
  exact stand.last t inside

theorem stand_cons {t : Thread} {rest : List Thread} : Stand log (t :: rest) ↔
    t.id ∉ rest.map Thread.id ∧ (states t.id log).getLast? = some t.state ∧ Stand log rest := by
  constructor
  · rintro ⟨distinct, last⟩
    rw [List.map_cons, List.nodup_cons] at distinct
    exact ⟨distinct.1, last t List.mem_cons_self, distinct.2,
      fun u inside => last u (List.mem_cons_of_mem _ inside)⟩
  · rintro ⟨apart, first, behind⟩
    exact ⟨List.nodup_cons.mpr ⟨apart, behind.distinct⟩,
      List.forall_mem_cons.mpr ⟨first, behind.last⟩⟩

/-- A thread that has moved for the first time stands with the others. -/
theorem Stand.add {threads : List Thread} {more : List Incident} {t : Thread}
    (stand : Stand log threads) (unused : states t.id log = [])
    (moves : ∀ other, states other more = if t.id = other then [t.state] else []) :
    Stand (log ++ more) (threads ++ [t]) := by
  have apart : ∀ u ∈ threads, t.id ≠ u.id := by
    intro u inside same
    have moved := stand.last u inside
    rw [← same, unused] at moved
    cases moved
  refine ⟨?_, fun u inside => ?_⟩
  · rw [List.map_append, List.map_singleton, List.nodup_append]
    refine ⟨stand.distinct, List.pairwise_singleton _ _, fun a old b new => ?_⟩
    obtain ⟨u, inside, rfl⟩ := List.mem_map.mp old
    rw [List.mem_singleton.mp new]
    exact (apart u inside).symm
  · rw [states_append, moves]
    rcases List.mem_append.mp inside with old | new
    · rw [if_neg (apart u old), List.append_nil]
      exact stand.last u old
    · rw [List.mem_singleton.mp new, unused, if_pos rfl]
      rfl

/-- A thread is resumed with an event that was taken out. -/
theorem Recounted.resume (recounted : Recounted depth limit perTick log h) {t t' : Thread}
    (last : (states t.id log).getLast? = some t.state) (out : event ∈ taken log)
    (accepted : t.state.accepts event = true)
    (resumed : t.resume depth event h = (.ok (), t', h')) :
    Recounted depth limit perTick (log ++ t.resumeIncidents depth event h) h' ∧ t'.id = t.id ∧
    ∀ other, states other (t.resumeIncidents depth event h) =
      if t.id = other then [t'.state] else [] := by
  unfold Thread.resume at resumed
  cases held : t.state with
  | done result =>
    rw [held] at accepted
    cases accepted
  | parked filter frame =>
    rw [held] at resumed accepted last
    simp only at resumed
    cases went : frame.resume depth event h with
    | mk left h₁ =>
      rw [went] at resumed
      cases left with
      | error how => cases resumed
      | ok step =>
        cases resumed
        have incidents : t.resumeIncidents depth event h = .entered t.id (some event) ::
            (h.ranIncidents depth (frame.next.on event) ++
              [.moved t.id (some event) (.ofStep step)]) := by
          unfold Thread.resumeIncidents
          rw [held]
          simp only [went, Thread.stop]
        have plain := Host.ranIncidents_plain depth h (frame.next.on event)
        have quiet : states t.id (.entered t.id (some event) ::
            h.ranIncidents depth (frame.next.on event)) = [] := states_plain plain t.id
        have played : Played depth (log ++ .entered t.id (some event) ::
            h.ranIncidents depth (frame.next.on event)) t.id (some event) (frame.next.on event)
            frame.label frame.logsHostErrors frame.adjust (.ofStep step) :=
          ⟨log, h, step, rfl, congrArg Prod.fst went, rfl⟩
        have link : Link depth (log ++ .entered t.id (some event) ::
            h.ranIncidents depth (frame.next.on event))
            (.moved t.id (some event) (.ofStep step)) := by
          refine ⟨?_, filter, frame, ?_, accepted, played⟩
          · rw [taken_append]
            exact List.mem_append_left _ out
          · rw [states_append, quiet, List.append_nil]
            exact last
        rw [incidents]
        exact ⟨recounted.play went link, rfl, fun other => states_played depth h t.id other _ _ _⟩

/-- An event is given to the threads. By induction on the threads: those before have moved, and do
not move again. -/
theorem Recounted.deliver (threads : List Thread) : ∀ {log : List Incident} {h h' : Host}
    {woke : Bool} {threads' : List Thread}, Recounted depth limit perTick log h →
      Stand log threads → event ∈ taken log →
      Thread.deliver depth event h threads = (.ok woke, threads', h') →
      Recounted depth limit perTick (log ++ Thread.deliverIncidents depth event h threads) h' ∧
      Stand (log ++ Thread.deliverIncidents depth event h threads) threads' ∧
      threads'.map Thread.id = threads.map Thread.id ∧
      ∀ other ∉ threads.map Thread.id,
        states other (Thread.deliverIncidents depth event h threads) = [] := by
  induction threads with
  | nil =>
    intro log h h' woke threads' recounted stand _ delivered
    cases delivered
    rw [Thread.deliverIncidents, List.append_nil]
    exact ⟨recounted, stand, rfl, fun _ _ => rfl⟩
  | cons t rest ih =>
    intro log h h' woke threads' recounted stand out delivered
    obtain ⟨apart, first, behind⟩ := stand_cons.mp stand
    unfold Thread.deliver at delivered
    unfold Thread.deliverIncidents
    by_cases accepted : t.state.accepts event = true
    · rw [if_pos accepted] at delivered
      rw [if_pos accepted]
      cases resumed : t.resume depth event h with
      | mk left after =>
        obtain ⟨t', h₁⟩ := after
        rw [resumed] at delivered
        cases left with
        | error how => cases delivered
        | ok =>
          simp only at delivered ⊢
          obtain ⟨recounted₁, same, moves⟩ := recounted.resume first out accepted resumed
          have stand₁ : Stand (log ++ t.resumeIncidents depth event h) rest :=
            behind.still fun u inside => by
              have other : t.id ≠ u.id := fun equal => apart (equal ▸ List.mem_map_of_mem inside)
              rw [moves u.id, if_neg other]
          have out₁ : event ∈ taken (log ++ t.resumeIncidents depth event h) := by
            rw [taken_append]
            exact List.mem_append_left _ out
          cases later : Thread.deliver depth event h₁ rest with
          | mk answer left =>
            obtain ⟨rest', h₂⟩ := left
            rw [later] at delivered
            cases answer with
            | error how => cases delivered
            | ok woke =>
              cases delivered
              obtain ⟨recounted₂, stand₂, ids, quiet⟩ := ih recounted₁ stand₁ out₁ later
              -- nobody behind has the number of this thread, so its own move is its last
              rw [List.append_assoc] at recounted₂ stand₂
              refine ⟨recounted₂, stand_cons.mpr ⟨?_, ?_, stand₂⟩, ?_, fun other outside => ?_⟩
              · rw [same, ids]
                exact apart
              · rw [same, states_append, states_append, moves, if_pos rfl, quiet t.id apart,
                  List.append_nil, List.getLast?_concat]
              · rw [List.map_cons, List.map_cons, same, ids]
              · rw [List.map_cons, List.mem_cons, not_or] at outside
                rw [states_append, moves, if_neg (Ne.symm outside.1), List.nil_append]
                exact quiet other outside.2
    · rw [if_neg accepted] at delivered
      rw [if_neg accepted]
      cases later : Thread.deliver depth event h rest with
      | mk answer left =>
        obtain ⟨rest', h₁⟩ := left
        rw [later] at delivered
        cases delivered
        obtain ⟨recounted₁, stand₁, ids, quiet⟩ := ih recounted behind out later
        refine ⟨recounted₁, stand_cons.mpr ⟨?_, ?_, stand₁⟩, ?_, fun other outside => ?_⟩
        · rw [ids]
          exact apart
        · rw [states_append, quiet t.id apart, List.append_nil]
          exact first
        · rw [List.map_cons, List.map_cons, ids]
        · rw [List.map_cons, List.mem_cons, not_or] at outside
          exact quiet other outside.2

end Threads

end DeviceBridge
