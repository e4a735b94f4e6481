import DeviceBridge.Proofs.Script.Faults

/-
  A thread alone. It hears some events in turn and is resumed with those that it accepts as it then
  is (`Thread.hear`). Several threads get along if each keeps apart from the others (`KeepsApart`):
  what its continuations do is decided by what they see of the host, they leave alone what the
  others see of it, and they queue no events. Then one event that is given to all of them leaves
  each as if it had been alone (`deliver_apart`).
-/

namespace DeviceBridge

/-! ## One thread -/

namespace Thread

/-- Give an event to a thread, which is resumed if it accepts it. -/
def react (depth : Nat) (s : Thread × Host) (event : List Value) : Thread × Host :=
  if s.1.state.accepts event then (s.1.resume depth event s.2).2 else s

/-- Give some events to a thread in turn. -/
def hear (depth : Nat) (s : Thread × Host) (events : List (List Value)) : Thread × Host :=
  events.foldl (react depth) s

/-- Whether the event at some place wakes the thread, when it has heard those before. -/
def wakesAt (depth : Nat) (s : Thread × Host) (events : List (List Value)) (i : Nat) : Bool :=
  match events[i]? with
  | some event => (hear depth s (events.take i)).1.state.accepts event
  | none => false

variable {depth : Nat} {s : Thread × Host} {event : List Value} {events rest : List (List Value)}

theorem hear_append (first second : List (List Value)) :
    hear depth s (first ++ second) = hear depth (hear depth s first) second :=
  List.foldl_append

theorem react_deaf (deaf : s.1.state.accepts event = false) : react depth s event = s := by
  unfold react
  rw [deaf]
  rfl

/-- A thread that is done hears nothing. -/
theorem hear_done (done : s.1.state.isDone = true) (events : List (List Value)) :
    hear depth s events = s := by
  induction events with
  | nil => rfl
  | cons event rest ih =>
    have deaf : s.1.state.accepts event = false := by
      cases state : s.1.state with
      | parked filter frame =>
        rw [state] at done
        cases done
      | done result => rfl
    show hear depth (react depth s event) rest = s
    rw [react_deaf deaf]
    exact ih

/-- A thread that is resumed is so once more, and remains the same thread. -/
theorem react_eq (depth : Nat) (s : Thread × Host) (event : List Value) :
    (react depth s event).1.id = s.1.id ∧ (react depth s event).1.label = s.1.label ∧
    (react depth s event).1.resumes =
      s.1.resumes + if s.1.state.accepts event then 1 else 0 := by
  unfold react
  cases accepted : s.1.state.accepts event with
  | false => exact ⟨rfl, rfl, rfl⟩
  | true =>
    rw [if_pos rfl]
    cases state : s.1.state with
    | done result =>
      rw [state] at accepted
      cases accepted
    | parked filter frame =>
      rw [resume_parked depth event s.2 state]
      split <;> exact ⟨rfl, rfl, rfl⟩

/-- How many of the events at some places satisfy a test that is shifted by one. -/
theorem count_range_succ (test : Nat → Bool) (n : Nat) :
    (List.range (n + 1)).countP test =
      (if test 0 then 1 else 0) + (List.range n).countP fun i => test (i + 1) := by
  rw [List.range_succ_eq_map, List.countP_cons, List.countP_map, Nat.add_comm]
  rfl

/-- A thread stays the same one, and is resumed once for each event that wakes it. -/
theorem hear_eq (events : List (List Value)) : ∀ s : Thread × Host,
    (hear depth s events).1.id = s.1.id ∧ (hear depth s events).1.label = s.1.label ∧
    (hear depth s events).1.resumes =
      s.1.resumes + (List.range events.length).countP (wakesAt depth s events) := by
  induction events with
  | nil => exact fun s => ⟨rfl, rfl, rfl⟩
  | cons event rest ih =>
    intro s
    obtain ⟨id, label, resumes⟩ := ih (react depth s event)
    have first := react_eq depth s event
    refine ⟨id.trans first.1, label.trans first.2.1, ?_⟩
    rw [List.length_cons, count_range_succ]
    refine resumes.trans ?_
    rw [first.2.2, Nat.add_assoc]
    rfl

end Thread

/-- What is returned to the script is what the code has come to. -/
theorem settle_returned {label : Label} {logs : Bool} {inherited : UInt32} {ran : Outcome × Host}
    {step : StepResult} {values : List Value}
    (settled : (settle label logs inherited ran).1 = .ok step)
    (returned : ThreadState.ofStep step = .done (.ok values)) : ran.1 = .done values := by
  unfold settle at settled
  split at settled
  · cases settled
    cases returned
    rfl
  · split at settled <;> cases settled
    cases returned
  · split at settled <;> cases settled
    cases returned
  · cases settled
    cases returned
  · cases settled

namespace Thread

variable {depth : Nat}

/-- A thread that has finished holds the values that its last continuation has come to. -/
theorem hear_finished {values : List Value} (events : List (List Value)) :
    ∀ s : Thread × Host, s.1.state.isDone = false →
      (hear depth s events).1.state = .done (.ok values) →
      ∃ before event after filter frame, events = before ++ event :: after ∧
        (hear depth s before).1.state = .parked filter frame ∧
        (ThreadState.parked filter frame).accepts event = true ∧
        (frame.ran depth event (hear depth s before).2).1 = .done values := by
  induction events with
  | nil =>
    intro s waits finished
    rw [show s.1.state = _ from finished] at waits
    cases waits
  | cons event rest ih =>
    intro s waits finished
    cases ceased : (react depth s event).1.state.isDone with
    | false =>
      obtain ⟨before, last, after, filter, frame, rfl, parked, accepted, came⟩ :=
        ih (react depth s event) ceased finished
      exact ⟨event :: before, last, after, filter, frame, rfl, parked, accepted, came⟩
    | true =>
      have ended : (react depth s event).1.state = .done (.ok values) := by
        rw [← hear_done ceased rest]
        exact finished
      cases state : s.1.state with
      | done result =>
        rw [state] at waits
        cases waits
      | parked filter frame =>
        cases accepted : s.1.state.accepts event with
        | false =>
          rw [react_deaf accepted, state] at ended
          cases ended
        | true =>
          refine ⟨[], event, rest, filter, frame, rfl, state, state ▸ accepted, ?_⟩
          unfold react at ended
          rw [if_pos accepted, resume_parked depth event s.2 state] at ended
          split at ended
          · next step h resumed =>
            have settled : (frame.resume depth event s.2).1 = .ok step := by rw [resumed]
            exact settle_returned settled ended
          · cases ended

end Thread

/-! ## Threads that get along -/

/-- A relation for what a thread sees of the host. It does not see the event queue. -/
structure View (alike : Host → Host → Prop) : Prop where
  refl : ∀ h, alike h h
  trans : ∀ {a b c}, alike a b → alike b c → alike a c
  queue : ∀ h events, alike h { h with events }

/-- A continuation that is resumed keeps apart from other threads. Its levels fit, and it stays
within the bound on nested runs; wherever the host looks alike to its own thread, it comes to the
same and leaves the host alike; it leaves alone what the others see, and queues no event. -/
structure Frame.KeepsApart (depth : Nat) (own others : Host → Host → Prop) (f : Frame)
    (event : List Value) (h : Host) : Prop where
  fits : (f.ran depth event h).1.Fits f.adjust
  bounded : (f.ran depth event h).1 ≠ .exhausted
  same : ∀ k, own h k → (f.ran depth event k).1 = (f.ran depth event h).1
  kept : ∀ k, own h k → own (f.resume depth event h).2 (f.resume depth event k).2
  apart : ∀ k, own h k → others k (f.resume depth event k).2
  quiet : ∀ k, own h k → (f.resume depth event k).2.events = k.events

/-- Whatever code has come to, the step does not depend on where. -/
theorem settle_congr {label : Label} {logs : Bool} {inherited : UInt32} {ran ran' : Outcome × Host}
    (same : ran.1 = ran'.1) :
    (settle label logs inherited ran).1 = (settle label logs inherited ran').1 := by
  obtain ⟨outcome, h⟩ := ran
  obtain ⟨outcome', h'⟩ := ran'
  cases same
  cases outcome with
  | done values => rfl
  | pending yielded adjust next =>
    unfold settle
    simp only
    split <;> rfl
  | failed failure =>
    cases failure with
    | raised e =>
      unfold settle
      simp only
      split <;> rfl
    | escaped how => cases how <;> rfl

namespace Thread

/-- If an event wakes the thread, its continuation keeps apart from the others. -/
def Minds (depth : Nat) (own others : Host → Host → Prop) (s : Thread × Host)
    (event : List Value) : Prop :=
  ∀ filter frame, s.1.state = .parked filter frame → s.1.state.accepts event = true →
    frame.KeepsApart depth own others event s.2

/-- All along the events that it hears alone, the thread keeps apart from the others. -/
def KeepsApart (depth : Nat) (own others : Host → Host → Prop) :
    Thread × Host → List (List Value) → Prop
  | _, [] => True
  | s, event :: rest =>
    Minds depth own others s event ∧ KeepsApart depth own others (react depth s event) rest

variable {depth : Nat} {own others : Host → Host → Prop}

theorem resume_of_ok {event : List Value} {h : Host} {t : Thread} {filter : Option String}
    {frame : Frame} {step : StepResult} (parked : t.state = .parked filter frame)
    (resumed : (frame.resume depth event h).1 = .ok step) :
    t.resume depth event h = (.ok (), { t with resumes := t.resumes + 1, state := .ofStep step },
      (frame.resume depth event h).2) := by
  have whole : frame.resume depth event h = (.ok step, (frame.resume depth event h).2) :=
    Prod.ext resumed rfl
  rw [resume_parked depth event h parked, whole]

/-- A thread that keeps apart does on any host that looks alike to it what it does alone. -/
theorem resume_apart {s : Thread × Host} {event : List Value} {k : Host}
    (accepted : s.1.state.accepts event = true)
    (apart : Minds depth own others s event) (alike : own s.2 k) :
    ∃ k', s.1.resume depth event k = (.ok (), (react depth s event).1, k') ∧
      own (react depth s event).2 k' ∧ others k k' ∧ k'.events = k.events := by
  unfold react
  rw [if_pos accepted]
  cases state : s.1.state with
  | done result =>
    rw [state] at accepted
    cases accepted
  | parked filter frame =>
    have keeps := apart filter frame state accepted
    obtain ⟨step, resumed, -⟩ :=
      (frame.resume_iff depth event s.2 keeps.bounded).mpr keeps.fits
    have elsewhere : (frame.resume depth event k).1 = .ok step :=
      (settle_congr (keeps.same k alike)).trans resumed
    rw [resume_of_ok state resumed, resume_of_ok state elsewhere]
    exact ⟨_, rfl, keeps.kept k alike, keeps.apart k alike, keeps.quiet k alike⟩

/-- One event is given to all threads. By induction on the threads, which are counted from some
place on: each does what it does alone, and leaves alone what those before it see. -/
theorem deliver_apart {alike : Nat → Host → Host → Prop} (views : ∀ i, View (alike i))
    (event : List Value) (all : List (Thread × Host)) : ∀ {place : Nat} {k : Host},
      (∀ i s, all[i]? = some s → alike (place + i) s.2 k) →
      (∀ i s, all[i]? = some s →
        Minds depth (alike (place + i)) (fun h k => ∀ j, j ≠ place + i → alike j h k) s event) →
      ∃ k', deliver depth event k (all.map Prod.fst) =
          (.ok (all.any fun s => s.1.state.accepts event),
            (all.map fun s => react depth s event).map Prod.fst, k') ∧
        k'.events = k.events ∧
        (∀ i s, all[i]? = some s → alike (place + i) (react depth s event).2 k') ∧
        ∀ j < place, alike j k k' := by
  induction all with
  | nil =>
    intro place k _ _
    refine ⟨k, rfl, rfl, fun i s here => ?_, fun j _ => (views j).refl k⟩
    cases here
  | cons s rest ih =>
    intro place k looks apart
    have shift (i : Nat) : place + 1 + i = place + (i + 1) := by omega
    have here : alike place s.2 k := looks 0 s rfl
    have behind : ∀ i u, rest[i]? = some u → alike (place + 1 + i) u.2 k := by
      intro i u found
      rw [shift]
      exact looks (i + 1) u found
    have others : ∀ i u, rest[i]? = some u → Minds depth (alike (place + 1 + i))
        (fun h k => ∀ j, j ≠ place + 1 + i → alike j h k) u event := by
      intro i u found
      rw [shift]
      exact apart (i + 1) u found
    rw [List.map_cons, List.map_cons, List.map_cons, List.any_cons]
    unfold deliver
    cases accepted : s.1.state.accepts event with
    | true =>
      rw [if_pos rfl]
      obtain ⟨k₁, resumed, kept, away, quiet⟩ := resume_apart accepted (apart 0 s rfl) here
      -- those behind do not see what this thread did, nor does it see what they will do
      have looks₁ : ∀ i u, rest[i]? = some u → alike (place + 1 + i) u.2 k₁ :=
        fun i u found => (views _).trans (behind i u found) (away _ (by omega))
      obtain ⟨k₂, delivered, still, looks₂, before⟩ := ih looks₁ others
      rw [resumed]
      simp only
      rw [delivered]
      refine ⟨k₂, rfl, still.trans quiet, fun i u found => ?_, fun j earlier => ?_⟩
      · cases i with
        | zero =>
          cases found
          exact (views place).trans kept (before place (by omega))
        | succ i =>
          rw [← shift]
          exact looks₂ i u found
      · exact (views j).trans (away j (by omega)) (before j (by omega))
    | false =>
      rw [if_neg Bool.false_ne_true]
      obtain ⟨k₁, delivered, still, looks₁, before⟩ := ih behind others
      rw [delivered, react_deaf accepted]
      refine ⟨k₁, rfl, still, fun i u found => ?_, fun j earlier => before j (by omega)⟩
      cases i with
      | zero =>
        cases found
        rw [react_deaf accepted]
        exact (views place).trans here (before place (by omega))
      | succ i =>
        rw [← shift]
        exact looks₁ i u found

end Thread

end DeviceBridge
