import DeviceBridge.Proofs.Machine.Lifelines
import DeviceBridge.Proofs.Script.Attribution

/-
  What a wait is given. Code that waits for an event stops behind any crossings, and the thread is
  parked on what it yielded first (`parked_of_arrives`); no thread is parked in another way
  (`recorded_arrives`). From there the thread has one fate: it goes on waiting, or it is dropped by
  a stop, or its code is run once with the first event that the filter lets through
  (`recorded_fate`). `pull_hears`: what is run is the continuation that was parked if the event is
  one that it waits for, and never if it is `terminate`.
-/

namespace DeviceBridge

open Chronicle

namespace Machine

variable {limits : Limits} {limit perTick : Nat} {log more before after : List Incident}
  {m m' : Machine} {thread : ThreadId} {cause : Option (List Value)}

/-! ## Threads that are dropped -/

/-- The thread was in a state when a stop dropped it. -/
def Dropped (limits : Limits) (limit perTick : Nat) (log : List Incident) (thread : ThreadId)
    (state : ThreadState) : Prop :=
  ∃ prior m more, Recorded limits limit perTick prior m ∧ m.status = .running ∧
    log = prior ++ (m.shutdownIncidents ++ more) ∧ ∃ t ∈ m.threads, t.id = thread ∧ t.state = state

theorem Dropped.later {state : ThreadState}
    (dropped : Dropped limits limit perTick log thread state) (further : List Incident) :
    Dropped limits limit perTick (log ++ further) thread state := by
  obtain ⟨prior, m, more, recorded, running, rfl, there⟩ := dropped
  refine ⟨prior, m, more ++ further, recorded, running, ?_, there⟩
  rw [List.append_assoc, List.append_assoc]

/-- A thread that is parked stays on the machine. -/
theorem Stride.stays (populated : Populated log m) (stride : Stride m more m')
    {filter : Option String} {frame : Frame} (outside : thread ∉ m'.threads.map Thread.id)
    (last : (states thread (log ++ more)).getLast? = some (.parked filter frame)) :
    thread ∉ m.threads.map Thread.id ∧ states thread more = [] := by
  have unmoved (line : lifeline thread more = [] ∨ ∃ event, lifeline thread more = [.taken event]) :
      states thread more = [] := by
    rw [← states_lifeline]
    rcases line with line | ⟨event, line⟩ <;> rw [line] <;> rfl
  cases stride with
  | plain plain untouched =>
    rw [untouched.threads] at outside
    exact ⟨outside, states_plain plain thread⟩
  | @given event h _ _ threads delivered =>
    obtain ⟨ids, quiet, -⟩ := Thread.deliver_lifelines m.threads populated.distinct delivered
    rw [ids] at outside
    have line := lifeline_append thread [.taken event]
      (Thread.deliverIncidents m.limits.depth event h m.threads)
    rw [quiet thread outside] at line
    exact ⟨outside, unmoved (.inr ⟨event, line⟩)⟩
  | @came t _ _ _ plain =>
    rw [List.map_append, List.mem_append, not_or] at outside
    have other : t.id ≠ thread := fun same => outside.2 (by simp [same])
    refine ⟨outside.1, unmoved (.inl ?_)⟩
    rw [lifeline_played t.id thread none t.state plain, if_neg other]
  | @went id t found ended =>
    refine ⟨fun inside => ?_, rfl⟩
    obtain ⟨u, there, rfl⟩ := List.mem_map.mp inside
    have gone : u.id = id := Classical.byContradiction fun other =>
      outside (List.mem_map_of_mem (List.mem_filter.mpr ⟨there, decide_eq_true other⟩))
    have found' : m.threads.find? (fun t => t.id = id) = some t := found
    have chosen := List.find?_some found'
    have numbered : t.id = id := of_decide_eq_true chosen
    -- the thread that goes has ended, and is in the state that it last came to
    have state := (populated.here t (List.mem_of_find?_eq_some found')).last rfl
    rw [List.append_nil] at last
    rw [states_lifeline, numbered, ← gone, last, Option.some.injEq] at state
    rw [← state] at ended
    cases ended

/-- By induction on the strides. -/
theorem Strides.stays (strides : Strides m more m') : ∀ {log : List Incident}, Populated log m →
    ∀ {filter : Option String} {frame : Frame}, thread ∉ m'.threads.map Thread.id →
      (states thread (log ++ more)).getLast? = some (.parked filter frame) →
      thread ∉ m.threads.map Thread.id ∧ states thread more = [] := by
  induction strides with
  | single stride => exact fun populated _ _ => stride.stays populated
  | append first _ ih later =>
    intro log populated filter frame outside last
    rw [← List.append_assoc] at last
    obtain ⟨outside, unmoved⟩ := later (populated.strides first) outside last
    rw [states_append, unmoved, List.append_nil] at last
    obtain ⟨outside, still⟩ := ih populated outside last
    rw [states_append, still, unmoved]
    exact ⟨outside, rfl⟩

/-- Only a stop takes a thread away that is parked. By induction on the run. -/
theorem Recorded.dropped (recorded : Recorded limits limit perTick log m)
    {filter : Option String} {frame : Frame} (outside : thread ∉ m.threads.map Thread.id)
    (last : (states thread log).getLast? = some (.parked filter frame)) :
    Dropped limits limit perTick log thread (.parked filter frame) := by
  induction recorded with
  | start => cases last
  | @step log m m' before op done ih =>
    by_cases stop : op = .shutdown
    · subst stop
      rcases shutdown_inversion done with
        ⟨-, nothing, rfl⟩ | ⟨running, m₁, code, plain, -, incidents, -⟩
      · have nothing : Operation.shutdown.incidents m' = [] := nothing
        rw [nothing, List.append_nil] at last ⊢
        exact ih outside last
      · have unmoved : states thread m.shutdownIncidents = [] := by
          rw [incidents, states_append, states_plain plain, states_taken, List.append_nil]
        have same := states_append log m.shutdownIncidents thread
        rw [unmoved, List.append_nil] at same
        have last : (states thread (log ++ m.shutdownIncidents)).getLast? =
          some (.parked filter frame) := last
        rw [same] at last
        by_cases there : thread ∈ m.threads.map Thread.id
        · obtain ⟨t, inside, rfl⟩ := List.mem_map.mp there
          have state := (before.populated.here t inside).last rfl
          rw [states_lifeline, last, Option.some.injEq] at state
          refine ⟨log, m, [], before, running, ?_, t, inside, rfl, state.symm⟩
          rw [List.append_nil]
          rfl
        · exact (ih there last).later _
    · obtain ⟨there, unmoved⟩ :=
        (perform_strides op done stop).stays before.populated outside last
      rw [states_append, unmoved, List.append_nil] at last
      exact (ih there last).later _

/-! ## Fates -/

/-- From where it was parked a thread passes over events that it does not accept, and then it still
waits, or a stop has dropped it, or it is entered once with the first event that it accepts. -/
theorem recorded_fate (recorded : Recorded limits limit perTick log m) {filter : Option String}
    {frame : Frame} (parked : log = before ++ .moved thread cause (.parked filter frame) :: after) :
    ∃ (quiet : List (List Value)) (tail : List Incident),
      lifeline thread after = quiet.map .taken ++ tail ∧
      (∀ event ∈ quiet, (ThreadState.parked filter frame).accepts event = false) ∧
      ((tail = [] ∧ ∃ t ∈ m.threads, t.id = thread ∧ t.state = .parked filter frame) ∨
      ((∃ lost : List (List Value), tail = lost.map .taken) ∧
        Dropped limits limit perTick log thread (.parked filter frame)) ∨
      ∃ event next rest, (ThreadState.parked filter frame).accepts event = true ∧
        tail = .taken event :: .entered thread (some event) ::
          .moved thread (some event) next :: rest) := by
  have populated := recorded.populated
  have split : lifeline thread log = lifeline thread before ++
      .moved thread cause (.parked filter frame) :: lifeline thread after := by
    rw [parked, lifeline_append]
    simp [lifeline]
  obtain ⟨place, life, there⟩ : ∃ place, Lifeline thread (lifeline thread log) place ∧
      ((∃ t ∈ m.threads, t.id = thread ∧ place = .here t.state) ∨
        thread ∉ m.threads.map Thread.id ∧ place.Away) := by
    by_cases inside : thread ∈ m.threads.map Thread.id
    · obtain ⟨t, here, rfl⟩ := List.mem_map.mp inside
      exact ⟨_, populated.here t here, .inl ⟨t, here, rfl, rfl⟩⟩
    · obtain ⟨place, away, life⟩ := populated.away thread inside
      exact ⟨place, life, .inr ⟨inside, away⟩⟩
  obtain ⟨quiet, tail, line, refused, fate⟩ := life.behind split
  refine ⟨quiet, tail, line, refused, ?_⟩
  cases fate with
  | waits =>
    refine .inl ⟨rfl, ?_⟩
    rcases there with ⟨t, inside, same, state⟩ | ⟨-, away⟩
    · rw [Whereabouts.here.injEq] at state
      exact ⟨t, inside, same, state.symm⟩
    · exact away.elim
  | dropped lost =>
    refine .inr (.inl ⟨⟨lost, rfl⟩, ?_⟩)
    rcases there with ⟨t, -, -, state⟩ | ⟨outside, -⟩
    · cases state
    · refine recorded.dropped outside ?_
      have still : states thread after = [] := by
        rw [← states_lifeline, line, states_append, states_taken, states_taken, List.append_nil]
      have moved : states thread (.moved thread cause (.parked filter frame) :: after) =
          .parked filter frame :: states thread after := by
        simp [states]
      rw [parked, states_append, moved, still, List.getLast?_concat]
  | hears accepts => exact .inr (.inr ⟨_, _, _, accepts, rfl⟩)

end Machine

/-! ## Code that waits -/

/-- The code of a thread has come to a stop, behind any crossings, and is back with the thread,
which that has left in a state. -/
def Arrives (depth : Nat) (before : List Incident) (thread : ThreadId)
    (cause : Option (List Value)) (stop : Stop) (state : ThreadState) : Prop :=
  ∃ (prior : List Incident) (h h' : Host) (p : Program) (label : Label) (logs : Bool)
    (inherited : UInt32) (crossed : List Crossing) (step : StepResult),
    before = prior ++ .entered thread cause :: h.ranIncidents depth p ∧
    p.Path depth h crossed stop h' ∧
    (settle label logs inherited (p.run depth h)).1 = .ok step ∧ state = .ofStep step

/-- An event that ends the wait if it is `terminate`, and is passed on else. -/
def Resumption.Pulls (next : Resumption) (k : List Value → Program) : Prop :=
  ∀ event, next.on event = if Code.terminates event then .code Code.terminated else k event

theorem pulls_event (k : List Value → Code) :
    (Resumption.code (Code.onEvent k)).Pulls fun event => .code (k event) := by
  intro event
  show Program.code (if Code.terminates event = true then _ else _) = _
  split <;> rfl

theorem headString?_filterValues (filter : Option String) :
    Value.headString? (Code.filterValues filter) = filter := by
  cases filter <;> rfl

theorem ofStep_parked {step : StepResult} {filter : Option String} {frame : Frame}
    (parked : ThreadState.ofStep step = .parked filter frame) :
    ∃ values, step = .ok (.yielded values frame) ∧ Value.headString? values = filter := by
  unfold ThreadState.ofStep at parked
  split at parked <;> cases parked
  exact ⟨_, rfl, rfl⟩

section Arrivals

variable {depth : Nat} {before : List Incident} {thread : ThreadId} {cause : Option (List Value)}
  {yielded : List Value} {next : Resumption} {filter : Option String} {frame : Frame}

/-- A thread that is parked is so on what its code yielded first, with what its code goes on with,
whatever was crossed on the way. -/
theorem parked_of_arrives
    (arrives : Arrives depth before thread cause (.parked yielded next) (.parked filter frame)) :
    Value.headString? yielded = filter ∧ frame.next = next := by
  obtain ⟨_, h, h', p, _, _, _, crossed, step, -, path, settled, parked⟩ := arrives
  obtain ⟨values, rfl, head⟩ := ofStep_parked parked.symm
  obtain ⟨adjust, h₁, ran, -, -, -⟩ := settle_yielded settled
  rw [Program.run_of_path path] at ran
  have left : (Stop.parked yielded next).outcome crossed = .pending values adjust frame.next :=
    congrArg Prod.fst ran
  obtain ⟨same, -⟩ := Stop.parked_of_outcome left
  cases same
  exact ⟨head, rfl⟩

/-- Whoever is parked has come to it so. -/
theorem Played.arrives {event : Option (List Value)} {p : Program} {label : Label} {logs : Bool}
    {inherited : UInt32}
    (played : Played depth before thread event p label logs inherited (.parked filter frame)) :
    ∃ yielded, Arrives depth before thread event (.parked yielded frame.next)
      (.parked filter frame) := by
  obtain ⟨prior, h, step, split, settled, parked⟩ := played
  obtain ⟨values, rfl, -⟩ := ofStep_parked parked.symm
  obtain ⟨adjust, h', ran, -, -, -⟩ := settle_yielded settled
  obtain ⟨crossed, stop, path, same⟩ := Program.path_of_run ran trivial
  obtain ⟨rfl, -⟩ := Stop.parked_of_outcome same.symm
  exact ⟨values, prior, h, h', p, label, logs, inherited, crossed, _, split, path, settled, parked⟩

/-- What `terminate` does to a wait is not blamed on anyone, whatever was crossed on the way. -/
theorem Played.terminated {event : Option (List Value)} {label : Label} {logs : Bool}
    {inherited : UInt32} {state : ThreadState}
    (played : Played depth before thread event (.code Code.terminated) label logs inherited state) :
    state = .done (.error ⟨"Terminated", 0⟩) := by
  obtain ⟨prior, h, step, -, settled, rfl⟩ := played
  have ran : (Program.code Code.terminated).run depth h =
      (.failed (.raised (.ofText "Terminated")), h) := by
    cases depth <;> rfl
  rw [ran] at settled
  cases settled
  rfl

end Arrivals

namespace Machine

variable {limits : Limits} {limit perTick : Nat} {log before after : List Incident} {m : Machine}
  {thread : ThreadId} {cause : Option (List Value)} {filter : Option String} {next : Resumption}
  {frame : Frame}

/-- Whatever thread is parked has arrived there with what it goes on with. -/
theorem recorded_arrives (recorded : Recorded limits limit perTick log m)
    (parked : log = before ++ .moved thread cause (.parked filter frame) :: after) :
    ∃ yielded, Arrives limits.depth before thread cause (.parked yielded frame.next)
      (.parked filter frame) := by
  obtain ⟨-, ⟨-, linked⟩, -, -⟩ := recorded_chronicled recorded
  have link := linked _ _ _ parked
  cases cause with
  | none =>
    obtain ⟨-, f, args, played⟩ := link
    exact played.arrives
  | some event =>
    obtain ⟨-, filter', frame', -, -, played⟩ := link
    exact played.arrives

/-- What a thread shows has a place in the log. -/
theorem lifeline_place {x : Incident} {line rest : List Incident}
    (shows : lifeline thread log = line ++ x :: rest) :
    ∃ mid later, log = mid ++ x :: later ∧ lifeline thread mid = line := by
  obtain ⟨mid, behind, rfl, first, second⟩ := List.filter_eq_append_iff.mp shows
  obtain ⟨skipped, later, rfl, unseen, -, -⟩ := List.filter_eq_cons_iff.mp second
  refine ⟨mid ++ skipped, later, (List.append_assoc ..).symm, ?_⟩
  have nothing : lifeline thread skipped = [] := List.filter_eq_nil_iff.mpr unseen
  rw [lifeline_append, nothing, List.append_nil]
  exact first

/-- A wait is given an event: the first one that it accepts, behind some that it passes over. The
code of the wait is run with it, once, and that leaves the thread in a state. -/
structure Hears (depth : Nat) (log before after : List Incident) (thread : ThreadId)
    (cause : Option (List Value)) (filter : Option String) (frame : Frame) (passed : Nat)
    (event : List Value) (state : ThreadState) : Prop where
  queued : (posted log)[(taken before).length + passed]? = some event
  accepted : ∀ name, filter = some name →
    Value.headString? event = some name ∨ Code.terminates event = true
  played : ∃ mid later, after = mid ++ .moved thread (some event) state :: later ∧
    states thread mid = [] ∧
    Played depth (before ++ .moved thread cause (.parked filter frame) :: mid) thread (some event)
      (frame.next.on event) frame.label frame.logsHostErrors frame.adjust state

/-- Where a thread is seen to hear an event behind others. -/
theorem hears_of_lifeline (recorded : Recorded limits limit perTick log m)
    (parked : log = before ++ .moved thread cause (.parked filter frame) :: after)
    {quiet : List (List Value)} {event : List Value} {state : ThreadState} {rest : List Incident}
    (accepts : (ThreadState.parked filter frame).accepts event = true)
    (line : lifeline thread after = quiet.map .taken ++ .taken event ::
      .entered thread (some event) :: .moved thread (some event) state :: rest) :
    Hears limits.depth log before after thread cause filter frame quiet.length event state := by
  obtain ⟨-, ⟨accounts, linked⟩, -, -⟩ := recorded_chronicled recorded
  refine ⟨?_, fun name same => ?_, ?_⟩
  · have moved : taken (.moved thread cause (.parked filter frame) :: after) = taken after := rfl
    obtain ⟨-, quietly⟩ := views_taken quiet
    have further : taken after = quiet ++ event :: taken rest := by
      rw [← taken_lifeline thread, line, taken_append, quietly]
      rfl
    rw [accounts.events, parked, taken_append, moved, further]
    simp
  · subst same
    rcases (Bool.or_eq_true _ _).mp accepts with own | terminate
    · exact .inl (eq_of_beq own)
    · exact .inr (decide_eq_true (eq_of_beq terminate))
  · have shows : lifeline thread after = (quiet.map .taken ++ [.taken event,
        .entered thread (some event)]) ++ .moved thread (some event) state :: rest := by
      rw [line, List.append_assoc]
      rfl
    obtain ⟨mid, later, rfl, seen⟩ := lifeline_place shows
    have unmoved : states thread mid = [] := by
      rw [← states_lifeline, seen, states_append, states_taken]
      rfl
    have whole : log = (before ++ .moved thread cause (.parked filter frame) :: mid) ++
        .moved thread (some event) state :: later := by
      rw [parked, List.append_assoc, List.cons_append]
    obtain ⟨-, filter', frame', last, -, played⟩ := linked _ _ _ whole
    have moved : states thread (.moved thread cause (.parked filter frame) :: mid) =
        .parked filter frame :: states thread mid := by
      simp [states]
    rw [states_append, moved, unmoved, List.getLast?_concat] at last
    cases last
    exact ⟨mid, later, rfl, unmoved, played⟩

/-- What a wait for an event lets pass, it lets pass by its filter, and never `terminate`. -/
theorem refused_iff {event : List Value} :
    (ThreadState.parked filter frame).accepts event = false ↔ Code.terminates event = false ∧
      ∃ name, filter = some name ∧ Value.headString? event ≠ some name := by
  cases filter with
  | none =>
    refine iff_of_false Bool.noConfusion ?_
    rintro ⟨-, name, same, -⟩
    cases same
  | some name =>
    show (_ || _) = false ↔ decide _ = false ∧ _
    simp [and_comm]

/-- A thread that waits for an event is parked on the filter, with what is to be done with the event
and whatever was crossed on the way to the thread. From then on it lets events pass that are neither
`terminate` nor bear the name that it waits for, and without a name it lets none pass. Then it still
waits, or a stop has dropped it, or it hears the next event of the queue: it is entered once, and
runs the code that was parked. A wait that is not raw runs its continuation on the event if that is
not `terminate`, so that it bears the name; and `terminate` ends the thread, and the continuation is
not run. -/
theorem pull_hears (recorded : Recorded limits limit perTick log m) {held : Option String}
    (parked : log = before ++ .moved thread cause (.parked held frame) :: after)
    (arrives : Arrives limits.depth before thread cause
      (.parked (Code.filterValues filter) next) (.parked held frame)) :
    held = filter ∧ frame.next = next ∧ ∃ (quiet : List (List Value)) (tail : List Incident),
      lifeline thread after = quiet.map .taken ++ tail ∧
      (∀ event ∈ quiet, Code.terminates event = false ∧
        ∃ name, filter = some name ∧ Value.headString? event ≠ some name) ∧
      ((tail = [] ∧ ∃ t ∈ m.threads, t.id = thread ∧ t.state = .parked filter frame) ∨
      ((∃ lost : List (List Value), tail = lost.map .taken) ∧
        Dropped limits limit perTick log thread (.parked filter frame)) ∨
      ∃ event state rest, tail = .taken event :: .entered thread (some event) ::
          .moved thread (some event) state :: rest ∧
        Hears limits.depth log before after thread cause filter frame quiet.length event state ∧
        ∀ k, next.Pulls k →
          (Code.terminates event = true → next.on event = .code Code.terminated ∧
            state = .done (.error ⟨"Terminated", 0⟩)) ∧
          (Code.terminates event = false → next.on event = k event ∧
            ∀ name, filter = some name → Value.headString? event = some name)) := by
  obtain ⟨head, same⟩ := parked_of_arrives arrives
  rw [headString?_filterValues] at head
  subst head same
  obtain ⟨quiet, tail, line, refused, fate⟩ := recorded_fate recorded parked
  refine ⟨rfl, rfl, quiet, tail, line, fun event here => refused_iff.mp (refused event here), ?_⟩
  refine fate.imp_right (Or.imp_right ?_)
  rintro ⟨event, state, rest, accepts, rfl⟩
  have hears := hears_of_lifeline recorded parked accepts line
  refine ⟨event, state, rest, rfl, hears, fun k pulls => ⟨fun ends => ?_, fun goesOn => ?_⟩⟩
  · have terminated : frame.next.on event = .code Code.terminated :=
      (pulls event).trans (if_pos ends)
    obtain ⟨mid, later, -, -, played⟩ := hears.played
    rw [terminated] at played
    exact ⟨terminated, played.terminated⟩
  · have other : ¬Code.terminates event = true := by
      rw [goesOn]
      exact Bool.noConfusion
    exact ⟨(pulls event).trans (if_neg other),
      fun name same => (hears.accepted name same).resolve_right other⟩

/-! ## A wait behind another one -/

/-- An API with one method, which waits for any event and then for one by name. -/
def earApi : Api where
  names := ["ear"]
  declaration := ⟨.registry, "Ear", true, [],
    [MethodDecl.plain ⟨1⟩ "listen" .outcome fun _ => Code.pullEvent none fun _ =>
      Code.adjusted (Code.pullEvent (some "go") Code.done) 2]⟩
  object := .registry
  startup := Code.unit
  shutdown := Code.unit

/-- A machine with a thread that has called the method, and some events for it. -/
def earMachine : Machine :=
  [Operation.addApi earApi, .startup, .spawn "ear" "listen" [], .queueEvent "hum" [],
    .queueEvent "stop" [], .queueEvent "go" [.int 1]].foldl (fun m op => (op.perform m).2)
    (ofHost ⟨1, 1⟩ (Host.new Config.default))

/-- What the thread goes on with when it has heard the first event. -/
def earFrame : Frame := ⟨⟨"Ear", .registry, "listen"⟩, .code (Code.onEvent Code.done), 2, true⟩

/-- The second wait lets one event pass and hears the next one, which its continuation is run on. -/
theorem pull_hears_ear : ∃ log before after state,
    Recorded ⟨1, 1⟩ 5000 256 log (Operation.pump.perform earMachine).2 ∧
    log = before ++ .moved ⟨1⟩ (some [.string "hum"]) (.parked (some "go") earFrame) :: after ∧
    Hears 1 log before after ⟨1⟩ (some [.string "hum"]) (some "go") earFrame 1
      [.string "go", .int 1] state ∧
    earFrame.next.on [.string "go", .int 1] = .code (Code.done [.string "go", .int 1]) := by
  have fresh : Recorded ⟨1, 1⟩ 5000 256 [] (ofHost ⟨1, 1⟩ (Host.new Config.default)) :=
    .start rfl rfl
  have started := (fresh.next (.addApi earApi) rfl).next .startup rfl
  have spawned := started.next (.spawn "ear" "listen" []) rfl
  have hum := spawned.next (.queueEvent "hum" []) rfl
  have stop := hum.next (.queueEvent "stop" []) rfl
  have go : Recorded ⟨1, 1⟩ 5000 256 _ earMachine := stop.next (.queueEvent "go" [.int 1]) rfl
  have recorded := go.next .pump rfl
  revert recorded
  generalize whole : (_ : List Incident) ++ Operation.pump.incidents earMachine = log
  intro recorded
  have parked : log = log.take 7 ++ .moved ⟨1⟩ (some [.string "hum"])
      (.parked (some "go") earFrame) :: log.drop 8 := by
    rw [← whole]
    rfl
  have arrives : Arrives 1 (log.take 7) ⟨1⟩ (some [.string "hum"])
      (.parked (Code.filterValues (some "go")) (.code (Code.onEvent Code.done)))
      (.parked (some "go") earFrame) := by
    refine ⟨log.take 6, Host.new Config.default, Host.new Config.default,
      .code (Code.adjusted (Code.pullEvent (some "go") Code.done) 2), earFrame.label, true, 0,
      _, _, ?_, .code (.errorParked (.waitParked .suspend)), rfl, rfl⟩
    rw [← whole]
    rfl
  obtain ⟨-, -, quiet, tail, line, -, fate⟩ := pull_hears recorded parked arrives
  obtain ⟨state, seen⟩ : ∃ state, lifeline ⟨1⟩ (log.drop 8) = [.taken [.string "stop"],
      .taken [.string "go", .int 1], .entered ⟨1⟩ (some [.string "go", .int 1]),
      .moved ⟨1⟩ (some [.string "go", .int 1]) state] := by
    rw [← whole]
    exact ⟨_, rfl⟩
  rw [seen] at line
  -- the thread is entered, so that it has neither gone on waiting nor been dropped
  have entered (lost : List (List Value)) : [Incident.taken [.string "stop"],
      .taken [.string "go", .int 1], .entered ⟨1⟩ (some [.string "go", .int 1]),
      .moved ⟨1⟩ (some [.string "go", .int 1]) state] ≠ lost.map .taken := by
    intro same
    have inside : Incident.entered ⟨1⟩ (some [.string "go", .int 1]) ∈ lost.map .taken :=
      same ▸ List.mem_cons_of_mem _ (List.mem_cons_of_mem _ List.mem_cons_self)
    obtain ⟨_, -, taken⟩ := List.mem_map.mp inside
    cases taken
  refine ⟨log, log.take 7, log.drop 8, state, recorded, parked, ?_⟩
  rcases fate with ⟨rfl, -⟩ | ⟨⟨lost, rfl⟩, -⟩ | ⟨event, state, rest, rfl, hears, ran⟩
  · exact (entered quiet (line.trans (List.append_nil _))).elim
  · exact (entered (quiet ++ lost) (line.trans List.map_append.symm)).elim
  · rcases quiet with _ | ⟨q, _ | ⟨r, _ | ⟨s, more⟩⟩⟩
    · cases line
    · cases line
      exact ⟨hears, ((ran _ (pulls_event Code.done)).2 rfl).1⟩
    · cases line
    · cases line

end Machine

end DeviceBridge
