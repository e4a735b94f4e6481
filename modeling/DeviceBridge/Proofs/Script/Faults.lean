import DeviceBridge.Proofs.Script.Attribution
import DeviceBridge.Script.Thread

/-
  What gets past the engine. Panics of code are caught, but levels are added outside of that: where
  the sum is too large for a level, a resume does not come back and its thread is lost
  (`Frame.resume_iff`, `Thread.resume_dead_iff`). Nothing else does that (`settle_told`), and a call
  that has not been suspended inherits nothing that could overflow (`BoundMethod.invoke_told`).
-/

namespace DeviceBridge

namespace Outcome

/-- The bound on nested runs was reached. -/
abbrev exhausted : Outcome := .failed (.escaped .exhausted)

/-- What was inherited and what the outcome adds to it is a level. -/
def Fits (inherited : UInt32) : Outcome → Prop
  | pending _ adjust _ => inherited.toNat + adjust.toNat < UInt32.size
  | failed (.raised e) => e.Reaches inherited.toNat
  | _ => True

/-- A step that says what the outcome was: the values, what is yielded and what goes on from there,
the message of the error, or the panic. -/
def Told : Outcome → StepResult → Prop
  | done values, .ok (.returned returned) => returned = values
  | pending yielded _ next, .ok (.yielded values frame) => values = yielded ∧ frame.next = next
  | failed (.raised e), .error error => error.message = e.message
  | failed (.escaped (.panic payload)), .error error => error = .ofPanic payload
  | _, _ => False

/-- Without an inheritance there is nothing to overflow. -/
theorem fits_zero (outcome : Outcome) : outcome.Fits 0 := by
  cases outcome with
  | done values => trivial
  | pending yielded adjust next =>
    show (0 : UInt32).toNat + adjust.toNat < UInt32.size
    rw [UInt32.toNat_zero, Nat.zero_add]
    exact adjust.toNat_lt
  | failed failure =>
    cases failure with
    | raised e =>
      refine .inr ?_
      rw [UInt32.toNat_zero, Nat.add_zero]
      exact e.level.toNat_lt
    | escaped how => trivial

end Outcome

namespace ScriptError

theorem ofMethodError_reaches {e : MethodError} {adjust : UInt32}
    (reaches : e.Reaches adjust.toNat) :
    ∃ level, ofMethodError e adjust = .ok ⟨e.message, level⟩ := by
  unfold ofMethodError
  split
  · exact ⟨0, rfl⟩
  · next attributed =>
    have fits := reaches.resolve_left attributed
    rw [addLevels_of_fits fits]
    exact ⟨_, rfl⟩

theorem ofMethodError_overflow {e : MethodError} {adjust : UInt32}
    (beyond : ¬e.Reaches adjust.toNat) : ofMethodError e adjust = .error .overflow := by
  have attributed : e.level ≠ 0 := fun h => beyond (.inl h)
  have large : ¬e.level.toNat + adjust.toNat < UInt32.size := fun h => beyond (.inr h)
  unfold ofMethodError addLevels
  rw [if_neg attributed, if_neg large]

end ScriptError

/-! ## Settling -/

section Settling

variable {label : Label} {logs : Bool} {inherited : UInt32} {ran : Outcome × Host}

/-- What fits is told. -/
theorem settle_told (fits : ran.1.Fits inherited) (came : ran.1 ≠ .exhausted) :
    ∃ step, (settle label logs inherited ran).1 = .ok step ∧ ran.1.Told step := by
  obtain ⟨outcome, h⟩ := ran
  cases outcome with
  | done values => exact ⟨_, rfl, rfl⟩
  | pending yielded adjust next =>
    unfold settle
    simp only
    rw [addLevels_of_fits fits]
    exact ⟨_, rfl, rfl, rfl⟩
  | failed failure =>
    cases failure with
    | raised e =>
      obtain ⟨level, attributed⟩ := ScriptError.ofMethodError_reaches fits
      unfold settle
      simp only
      rw [attributed]
      exact ⟨_, rfl, rfl⟩
    | escaped how =>
      cases how with
      | panic payload => exact ⟨_, rfl, rfl⟩
      | exhausted => exact absurd rfl came

/-- What does not fit stops the engine. -/
theorem settle_overflow (beyond : ¬ran.1.Fits inherited) :
    settle label logs inherited ran = (.error .overflow, ran.2) := by
  obtain ⟨outcome, h⟩ := ran
  cases outcome with
  | done values => exact absurd trivial beyond
  | pending yielded adjust next =>
    have large : ¬inherited.toNat + adjust.toNat < UInt32.size := beyond
    unfold settle addLevels
    simp only
    rw [if_neg large]
  | failed failure =>
    cases failure with
    | raised e =>
      unfold settle
      simp only
      rw [ScriptError.ofMethodError_overflow beyond]
    | escaped how => exact absurd trivial beyond

theorem settle_exhausted (lost : ran.1 = .exhausted) :
    (settle label logs inherited ran).1 = .error .exhausted := by
  obtain ⟨outcome, h⟩ := ran
  cases lost
  rfl

/-- The only panic that gets past is that of an addition that does not fit. -/
theorem settle_panics_iff (payload : Payload) :
    (settle label logs inherited ran).1 = .error (.panic payload) ↔
      ¬ran.1.Fits inherited ∧ Escape.panic payload = .overflow := by
  constructor
  · intro panicked
    by_cases fits : ran.1.Fits inherited
    · by_cases lost : ran.1 = .exhausted
      · rw [settle_exhausted lost] at panicked
        cases panicked
      · have told : ∃ step, (settle label logs inherited ran).1 = .ok step ∧ ran.1.Told step :=
          settle_told fits lost
        obtain ⟨step, settled, -⟩ := told
        rw [settled] at panicked
        cases panicked
    · rw [settle_overflow fits] at panicked
      cases panicked
      exact ⟨fits, rfl⟩
  · rintro ⟨beyond, same⟩
    rw [settle_overflow beyond, same]

/-- The step that an error leads to which was raised behind some crossings: the error itself if its
level is one. Else the addition that fails is one of the code, and its panic is caught, or that of
the engine, and nothing catches it. -/
def raisedStep (e : MethodError) (crossed : List Crossing) (inherited : UInt32) :
    Except Escape StepResult :=
  if e.Reaches (Crossing.total crossed + inherited.toNat)
  then .ok (.error (e.delivered (Crossing.total crossed + inherited.toNat)))
  else if e.Reaches (Crossing.total crossed) then .error .overflow
  else .ok (.error (.ofPanic (.text "attempt to add with overflow")))

theorem settle_raisedStep (e : MethodError) (crossed : List Crossing) (h : Host) :
    (settle label logs inherited ((Stop.raised e).outcome crossed, h)).1 =
      raisedStep e crossed inherited := by
  unfold Stop.outcome raisedStep
  simp only
  by_cases inner : e.Reaches (Crossing.total crossed)
  · rw [if_pos inner]
    unfold settle
    simp only
    rw [MethodError.ofMethodError_blamed inner, if_pos inner]
    by_cases outer : e.Reaches (Crossing.total crossed + inherited.toNat)
    · simp only [if_pos outer]
    · simp only [if_neg outer]
  · have outer : ¬e.Reaches (Crossing.total crossed + inherited.toNat) := by
      rintro (unattributed | fits)
      · exact inner (.inl unattributed)
      · exact inner (.inr (by omega))
    rw [if_neg inner, if_neg outer, if_neg inner]
    rfl

end Settling

/-! ## Calls -/

/-- A call comes back with a step that says what the method did. -/
theorem BoundMethod.invoke_told (b : BoundMethod) (n : Nat) (args : Arguments) (h : Host)
    (came : ((b.method.apply b.object b.contexts args).run n h).1 ≠ .exhausted) :
    ∃ step, (b.invoke n args h).1 = .ok step ∧
      ((b.method.apply b.object b.contexts args).run n h).1.Told step :=
  settle_told (Outcome.fits_zero _) came

theorem BoundMethod.invoke_panics (b : BoundMethod) (n : Nat) (args : Arguments) (h : Host)
    (payload : Payload) : (b.invoke n args h).1 ≠ .error (.panic payload) := by
  intro panicked
  obtain ⟨beyond, -⟩ := (settle_panics_iff payload).mp panicked
  exact beyond (Outcome.fits_zero _)

namespace Frame

/-- What the resumed call does, before it is settled. -/
def ran (f : Frame) (n : Nat) (event : List Value) (h : Host) : Outcome × Host :=
  (f.next.on event).run n h

/-- A resume comes back with a step that says what the continuation did, just if the levels fit. -/
theorem resume_iff (f : Frame) (n : Nat) (event : List Value) (h : Host)
    (came : (f.ran n event h).1 ≠ .exhausted) :
    (∃ step, (f.resume n event h).1 = .ok step ∧ (f.ran n event h).1.Told step) ↔
      (f.ran n event h).1.Fits f.adjust := by
  constructor
  · rintro ⟨step, resumed, -⟩
    by_cases fits : (f.ran n event h).1.Fits f.adjust
    · exact fits
    · have beyond : f.resume n event h = (.error .overflow, (f.ran n event h).2) :=
        settle_overflow fits
      rw [beyond] at resumed
      cases resumed
  · intro fits
    exact settle_told fits came

/-- What a resume makes of an error that the continuation raises. -/
theorem resume_raised (f : Frame) {n : Nat} {event : List Value} {h h' : Host}
    {crossed : List Crossing} {e : MethodError}
    (path : (f.next.on event).Path n h crossed (.raised e) h') :
    (f.resume n event h).1 = raisedStep e crossed f.adjust := by
  unfold resume
  rw [Program.run_of_path path, settle_raisedStep]

end Frame

/-! ## Threads -/

namespace Thread

/-- The thread is parked on a frame that would not fit. -/
def Trips (n : Nat) (event : List Value) (h : Host) (t : Thread) : Prop :=
  ∃ filter frame, t.state = .parked filter frame ∧ ¬(frame.ran n event h).1.Fits frame.adjust

theorem resume_parked (n : Nat) (event : List Value) (h : Host) {t : Thread}
    {filter : Option String} {frame : Frame} (parked : t.state = .parked filter frame) :
    t.resume n event h = match frame.resume n event h with
      | (.ok step, h) => (.ok (), { t with resumes := t.resumes + 1, state := .ofStep step }, h)
      | (.error how, h) =>
        (.error how, { t with resumes := t.resumes + 1, state := .dead }, h) := by
  obtain ⟨_, _, _, state⟩ := t
  cases parked
  rfl

/-- Just such a thread panics when it is resumed. -/
theorem resume_panics_iff (n : Nat) (event : List Value) (h : Host) (t : Thread)
    (payload : Payload) : (t.resume n event h).1 = .error (.panic payload) ↔
      t.Trips n event h ∧ Escape.panic payload = .overflow := by
  cases state : t.state with
  | done result =>
    have still : t.resume n event h = (.ok (), t, h) := by
      unfold resume
      rw [state]
    rw [still]
    constructor
    · intro panicked
      cases panicked
    · rintro ⟨⟨filter, frame, parked, -⟩, -⟩
      rw [state] at parked
      cases parked
  | parked filter frame =>
    have panics : (frame.resume n event h).1 = .error (.panic payload) ↔
        ¬(frame.ran n event h).1.Fits frame.adjust ∧ Escape.panic payload = .overflow :=
      settle_panics_iff payload
    have same : (t.resume n event h).1 = .error (.panic payload) ↔
        (frame.resume n event h).1 = .error (.panic payload) := by
      rw [resume_parked n event h state]
      cases frame.resume n event h with
      | mk answer after =>
        cases answer <;>
        · constructor <;>
          · intro panicked
            cases panicked <;> rfl
    rw [same, panics]
    constructor
    · rintro ⟨beyond, overflow⟩
      exact ⟨⟨filter, frame, state, beyond⟩, overflow⟩
    · rintro ⟨⟨filter', frame', parked, beyond⟩, overflow⟩
      rw [state] at parked
      cases parked
      exact ⟨beyond, overflow⟩

/-- A thread that comes back holds the step of its frame, and one that does not is lost. -/
theorem resume_state (n : Nat) (event : List Value) (h : Host) {t : Thread}
    {filter : Option String} {frame : Frame} (parked : t.state = .parked filter frame) :
    (t.resume n event h).2.1.state = match (frame.resume n event h).1 with
      | .ok step => .ofStep step
      | .error _ => .dead := by
  rw [resume_parked n event h parked]
  cases frame.resume n event h with
  | mk answer after => cases answer <;> rfl

/-- A thread that does not trip holds a step that says what its continuation did. -/
theorem resume_told (n : Nat) (event : List Value) (h : Host) {t : Thread}
    {filter : Option String} {frame : Frame} (parked : t.state = .parked filter frame)
    (steady : ¬t.Trips n event h) (came : (frame.ran n event h).1 ≠ .exhausted) :
    ∃ step, (t.resume n event h).2.1.state = .ofStep step ∧ (frame.ran n event h).1.Told step := by
  by_cases fits : (frame.ran n event h).1.Fits frame.adjust
  · obtain ⟨step, resumed, told⟩ := (frame.resume_iff n event h came).mpr fits
    rw [resume_state n event h parked, resumed]
    exact ⟨step, rfl, told⟩
  · exact absurd ⟨filter, frame, parked, fits⟩ steady

/-- A thread that trips is lost. -/
theorem resume_lost (n : Nat) (event : List Value) (h : Host) {t : Thread}
    (trips : t.Trips n event h) : (t.resume n event h).2.1.state = .dead := by
  obtain ⟨filter, frame, parked, beyond⟩ := trips
  have failed : frame.resume n event h = (.error .overflow, (frame.ran n event h).2) :=
    settle_overflow beyond
  rw [resume_state n event h parked, failed]

/-- A thread trips when its turn comes, after those before it were resumed. -/
inductive AnyTrips (n : Nat) (event : List Value) : Host → List Thread → Prop where
  | here {h : Host} {t : Thread} {rest : List Thread} (woke : t.state.accepts event = true)
      (trips : t.Trips n event h) : AnyTrips n event h (t :: rest)
  | resumed {h h₁ : Host} {t t₁ : Thread} {rest : List Thread}
      (woke : t.state.accepts event = true) (done : t.resume n event h = (.ok (), t₁, h₁))
      (later : AnyTrips n event h₁ rest) : AnyTrips n event h (t :: rest)
  | passed {h : Host} {t : Thread} {rest : List Thread} (slept : ¬t.state.accepts event = true)
      (later : AnyTrips n event h rest) : AnyTrips n event h (t :: rest)

/-- By induction on the threads. -/
theorem deliver_panics_iff (n : Nat) (event : List Value) (payload : Payload)
    (threads : List Thread) : ∀ h : Host,
      (deliver n event h threads).1 = .error (.panic payload) ↔
        AnyTrips n event h threads ∧ Escape.panic payload = .overflow := by
  induction threads with
  | nil =>
    intro h
    constructor
    · intro panicked
      cases panicked
    · rintro ⟨trips, -⟩
      cases trips
  | cons t rest ih =>
    intro h
    have panics := resume_panics_iff n event h t payload
    unfold deliver
    by_cases woke : t.state.accepts event = true
    · rw [if_pos woke]
      cases resumed : t.resume n event h with
      | mk answer left =>
        obtain ⟨t₁, h₁⟩ := left
        rw [resumed] at panics
        cases answer with
        | error how =>
          constructor
          · intro panicked
            cases panicked
            obtain ⟨trips, same⟩ := panics.mp rfl
            exact ⟨.here woke trips, same⟩
          · rintro ⟨trips, same⟩
            cases trips with
            | here _ trips =>
              have failed := panics.mpr ⟨trips, same⟩
              cases failed
              rfl
            | resumed _ done _ =>
              rw [resumed] at done
              cases done
            | passed slept _ => exact absurd woke slept
        | ok _ =>
          have others := ih h₁
          simp only
          cases delivered : deliver n event h₁ rest with
          | mk answer left =>
            rw [delivered] at others
            constructor
            · intro panicked
              cases answer with
              | ok _ => cases panicked
              | error how =>
                obtain ⟨trips, same⟩ := others.mp panicked
                exact ⟨.resumed woke resumed trips, same⟩
            · rintro ⟨trips, same⟩
              cases trips with
              | here _ trips =>
                have failed := panics.mpr ⟨trips, same⟩
                cases failed
              | resumed _ done later =>
                rw [resumed] at done
                cases done
                have failed := others.mpr ⟨later, same⟩
                simp only at failed
                rw [failed]
              | passed slept _ => exact absurd woke slept
    · rw [if_neg woke]
      have others := ih h
      constructor
      · intro panicked
        obtain ⟨trips, same⟩ := others.mp panicked
        exact ⟨.passed woke trips, same⟩
      · rintro ⟨trips, same⟩
        cases trips with
        | here awake _ => exact absurd awake woke
        | resumed awake _ _ => exact absurd awake woke
        | passed _ later => exact others.mpr ⟨later, same⟩

/-- Where a delivery does not come back, it has lost a thread. -/
theorem deliver_lost (n : Nat) (event : List Value) {how : Escape} (threads : List Thread) :
    ∀ {h h' : Host} {left : List Thread}, deliver n event h threads = (.error how, left, h') →
      ∃ t ∈ left, t.state = .dead := by
  induction threads with
  | nil =>
    intro h h' left failed
    cases failed
  | cons t rest ih =>
    intro h h' left failed
    unfold deliver at failed
    split at failed
    · split at failed
      · next how₁ t₁ h₁ resumed =>
        cases failed
        refine ⟨t₁, List.mem_cons_self, ?_⟩
        unfold resume at resumed
        split at resumed
        · cases resumed
        · simp only at resumed
          split at resumed <;> cases resumed
          rfl
      · split at failed
        · cases failed
        · next found =>
          cases failed
          obtain ⟨lost, inside, dead⟩ := ih found
          exact ⟨lost, List.mem_cons_of_mem _ inside, dead⟩
    · cases found : deliver n event h rest with
      | mk answer others =>
        rw [found] at failed
        cases failed
        obtain ⟨lost, inside, dead⟩ := ih found
        exact ⟨lost, List.mem_cons_of_mem _ inside, dead⟩

end Thread

end DeviceBridge
