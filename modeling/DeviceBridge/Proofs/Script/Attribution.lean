import DeviceBridge.Machine.Registry
import DeviceBridge.Proofs.Host.Paths
import DeviceBridge.Script.Call

/-
  Whom a script error blames. A call and its resumes make a journey (`Journey`): paths from one stop
  to the next, up to where an error is raised, with all that was crossed on the way. The error that
  the script gets keeps the message; its level is 0 if the error was unattributed, and else it goes
  up by one for each call through the registry and by each explicit adjustment (`error_blamed`).
  Frames carry the sum from one resume to the next, so no crossing counts twice and none is lost.
-/

namespace DeviceBridge

namespace Crossing

/-- The frames of calls through the registry. -/
def calls (crossed : List Crossing) : Nat := crossed.count .call

/-- What explicit adjustments add up to. -/
def explicit : List Crossing → Nat
  | [] => 0
  | call :: crossed => explicit crossed
  | adjusted amount :: crossed => amount.toNat + explicit crossed

/-- Each call counts once. -/
theorem total_eq (crossed : List Crossing) : total crossed = calls crossed + explicit crossed := by
  induction crossed with
  | nil => rfl
  | cons c crossed ih =>
    rw [total_cons, ih]
    cases c with
    | call =>
      have one : calls (call :: crossed) = calls crossed + 1 := List.count_cons_self
      rw [one]
      show 1 + _ = _ + explicit crossed
      omega
    | adjusted amount =>
      have other : adjusted amount ≠ call := by
        intro same
        cases same
      have none : calls (adjusted amount :: crossed) = calls crossed := List.count_cons_of_ne other
      rw [none]
      show amount.toNat + _ = _ + (amount.toNat + explicit crossed)
      omega

end Crossing

/-! ## Programs -/

namespace Program

/-- How a program gets to a stop. A wait that goes on crosses nothing. -/
inductive Path : Nat → Program → Host → List Crossing → Stop → Host → Prop where
  | code {n : Nat} {body : Code} {h h' : Host} {crossed : List Crossing} {stop : Stop}
      (inner : Code.Path n body h crossed stop h') : Path n body h crossed stop h'
  | await {n : Nat} {id : TaskId} {h : Host} :
      Path n (.await id) h [] (.parked awaitValues (.task id)) h

theorem run_await (n : Nat) (id : TaskId) (h : Host) :
    run n (.await id) h = (.pending awaitValues 0 (.task id), h) := by
  cases n <;> rfl

theorem run_of_path {n : Nat} {p : Program} {h h' : Host} {crossed : List Crossing} {stop : Stop}
    (path : Path n p h crossed stop h') : p.run n h = (stop.outcome crossed, h') := by
  cases path with
  | code inner => exact Code.run_of_path inner
  | await => rw [run_await, Stop.outcome_parked_nil]

theorem path_of_run {n : Nat} {p : Program} {h h' : Host} {outcome : Outcome}
    (ran : p.run n h = (outcome, h')) (stops : outcome.Stops) :
    ∃ crossed stop, Path n p h crossed stop h' ∧ outcome = stop.outcome crossed := by
  cases p with
  | code body =>
    obtain ⟨crossed, stop, path, same⟩ := Code.path_of_run ran stops
    exact ⟨crossed, stop, .code path, same⟩
  | await id =>
    rw [run_await] at ran
    cases ran
    exact ⟨[], .parked awaitValues (.task id), .await, (Stop.outcome_parked_nil _ _).symm⟩

end Program

/-! ## Journeys -/

/-- What a program and its resumes cross until an error is raised. Each resume brings an event and
finds a host; those that come after the error find nothing to resume. -/
inductive Journey (n : Nat) :
    Program → Host → List (List Value × Host) → List Crossing → MethodError → Prop where
  | raised {p : Program} {h h' : Host} {resumes : List (List Value × Host)}
      {crossed : List Crossing} {e : MethodError} (path : p.Path n h crossed (.raised e) h') :
      Journey n p h resumes crossed e
  | resumed {p : Program} {h h' h₁ : Host} {event : List Value}
      {resumes : List (List Value × Host)} {crossed further : List Crossing}
      {yielded : List Value} {next : Resumption} {e : MethodError}
      (path : p.Path n h crossed (.parked yielded next) h')
      (later : Journey n (next.on event) h₁ resumes further e) :
      Journey n p h ((event, h₁) :: resumes) (crossed ++ further) e

/-- Follow a call through resumes. One that is done stays as it is. -/
def follow (n : Nat) (step : Except Escape StepResult) :
    List (List Value × Host) → Except Escape StepResult
  | [] => step
  | (event, h) :: rest =>
    match step with
    | .ok (.ok (.yielded _ frame)) => follow n (frame.resume n event h).1 rest
    | other => other

/-- Call a bound method, and resume it as long as it yields. -/
def BoundMethod.play (b : BoundMethod) (n : Nat) (args : Arguments) (h : Host)
    (resumes : List (List Value × Host)) : Except Escape StepResult :=
  follow n (b.invoke n args h).1 resumes

theorem follow_error (n : Nat) (error : ScriptError) (resumes : List (List Value × Host)) :
    follow n (.ok (.error error)) resumes = .ok (.error error) := by
  cases resumes <;> rfl

/-! ## Settling -/

namespace MethodError

/-- What the script gets of an error behind crossings that add up to `n`. -/
def delivered (e : MethodError) (n : Nat) : ScriptError := ⟨e.message, (e.blamed n).level⟩

theorem ofMethodError_blamed {e : MethodError} {n : Nat} (reaches : e.Reaches n)
    (inherited : UInt32) :
    ScriptError.ofMethodError (e.blamed n) inherited =
      if e.Reaches (n + inherited.toNat) then .ok (e.delivered (n + inherited.toNat))
      else .error .overflow := by
  have adjusted := adjusted_blamed reaches inherited
  have same : ScriptError.ofMethodError (e.blamed n) inherited =
      ((e.blamed n).adjusted inherited).map fun e => ⟨e.message, e.level⟩ := by
    unfold ScriptError.ofMethodError MethodError.adjusted
    split
    · next unattributed =>
      simp only [Except.map]
      rw [unattributed]
    · cases addLevels (e.blamed n).level inherited <;> rfl
  rw [same, adjusted]
  split <;> rfl

end MethodError

variable {label : Label} {logs : Bool}

theorem settle_raised {e : MethodError} {crossed : List Crossing} {inherited : UInt32} (h : Host)
    (fits : e.level.toNat + (inherited.toNat + Crossing.total crossed) < UInt32.size) :
    (settle label logs inherited ((Stop.raised e).outcome crossed, h)).1 =
      .ok (.error (e.delivered (inherited.toNat + Crossing.total crossed))) := by
  have inner : e.Reaches (Crossing.total crossed) := .inr (by omega)
  have outer : e.Reaches (Crossing.total crossed + inherited.toNat) := .inr (by omega)
  unfold Stop.outcome
  simp only
  rw [if_pos inner]
  unfold settle
  simp only
  rw [MethodError.ofMethodError_blamed inner, if_pos outer, Nat.add_comm]

theorem settle_parked {yielded : List Value} {next : Resumption} {crossed : List Crossing}
    {inherited : UInt32} (h : Host)
    (fits : inherited.toNat + Crossing.total crossed < UInt32.size) :
    (settle label logs inherited ((Stop.parked yielded next).outcome crossed, h)).1 =
      .ok (.ok (.yielded yielded
        ⟨label, next, .ofNat (inherited.toNat + Crossing.total crossed), logs⟩)) := by
  have small : Crossing.total crossed < UInt32.size := by omega
  have same : (UInt32.ofNat (Crossing.total crossed)).toNat = Crossing.total crossed :=
    UInt32.toNat_ofNat_of_lt' small
  unfold Stop.outcome
  simp only
  rw [if_pos small]
  unfold settle
  simp only
  rw [addLevels_of_fits (by rwa [same]), UInt32.ofNat_add, UInt32.ofNat_toNat]

/-! ## Levels of journeys -/

/-- By induction on the journey: each resume inherits what was crossed before. -/
theorem follow_of_journey {n : Nat} {p : Program} {h : Host} {resumes : List (List Value × Host)}
    {crossed : List Crossing} {e : MethodError} (journey : Journey n p h resumes crossed e) :
    ∀ inherited : UInt32,
      e.level.toNat + (inherited.toNat + Crossing.total crossed) < UInt32.size →
        follow n (settle label logs inherited (p.run n h)).1 resumes =
          .ok (.error (e.delivered (inherited.toNat + Crossing.total crossed))) := by
  induction journey with
  | @raised p h h' resumes crossed e path =>
    intro inherited fits
    rw [Program.run_of_path path, settle_raised h' fits, follow_error]
  | @resumed p h h' h₁ event resumes crossed further yielded next e path _ ih =>
    intro inherited fits
    rw [Crossing.total_append] at fits ⊢
    have here : inherited.toNat + Crossing.total crossed < UInt32.size := by omega
    have kept := UInt32.toNat_ofNat_of_lt' here
    have later := ih (.ofNat (inherited.toNat + Crossing.total crossed)) (by omega)
    rw [Program.run_of_path path, settle_parked h' here]
    unfold follow
    simp only
    rw [kept, Nat.add_assoc] at later
    exact later

/-! ## Every error has a journey -/

namespace Stop

theorem raised_of_outcome {stop : Stop} {crossed : List Crossing} {e' : MethodError}
    (left : stop.outcome crossed = .failed (.raised e')) : ∃ e, stop = .raised e ∧
      e.Reaches (Crossing.total crossed) ∧ e' = e.blamed (Crossing.total crossed) := by
  unfold outcome at left
  cases stop with
  | raised e =>
    simp only at left
    split at left
    · next reaches =>
      cases left
      exact ⟨e, rfl, reaches, rfl⟩
    · cases left
  | parked yielded next =>
    simp only at left
    split at left <;> cases left

theorem parked_of_outcome {stop : Stop} {crossed : List Crossing} {yielded : List Value}
    {adjust : UInt32} {next : Resumption}
    (left : stop.outcome crossed = .pending yielded adjust next) : stop = .parked yielded next ∧
      adjust.toNat = Crossing.total crossed := by
  unfold outcome at left
  cases stop with
  | raised e =>
    simp only at left
    split at left <;> cases left
  | parked yielded next =>
    simp only at left
    split at left
    · next small =>
      cases left
      exact ⟨rfl, UInt32.toNat_ofNat_of_lt' small⟩
    · cases left

end Stop

theorem settle_error {inherited : UInt32} {ran : Outcome × Host} {error : ScriptError}
    (settled : (settle label logs inherited ran).1 = .ok (.error error)) :
    (∃ payload, error = .ofPanic payload) ∨ ∃ e h, ran = (.failed (.raised e), h) ∧
      ScriptError.ofMethodError e inherited = .ok error := by
  unfold settle at settled
  split at settled
  · cases settled
  · split at settled <;> cases settled
  · next e h =>
    split at settled
    · next attributed =>
      cases settled
      exact .inr ⟨e, h, rfl, attributed⟩
    · cases settled
  · next payload h =>
    cases settled
    exact .inl ⟨payload, rfl⟩
  · cases settled

theorem settle_yielded {inherited : UInt32} {ran : Outcome × Host} {values : List Value}
    {frame : Frame}
    (settled : (settle label logs inherited ran).1 = .ok (.ok (.yielded values frame))) :
    ∃ adjust h, ran = (.pending values adjust frame.next, h) ∧ frame.label = label ∧
      frame.logsHostErrors = logs ∧ frame.adjust.toNat = inherited.toNat + adjust.toNat := by
  unfold settle at settled
  split at settled
  · cases settled
  · next yielded adjust next h =>
    unfold addLevels at settled
    by_cases fits : inherited.toNat + adjust.toNat < UInt32.size
    · simp only [if_pos fits] at settled
      cases settled
      refine ⟨adjust, h, rfl, rfl, rfl, ?_⟩
      rw [UInt32.toNat_add]
      exact Nat.mod_eq_of_lt fits
    · simp only [if_neg fits] at settled
      cases settled
  · split at settled <;> cases settled
  · cases settled
  · cases settled

/-- Where an error is delivered at once, the path to it is the journey. -/
theorem path_of_settle {n : Nat} {p : Program} {h : Host} {inherited : UInt32} {error : ScriptError}
    (settled : (settle label logs inherited (p.run n h)).1 = .ok (.error error)) :
    (∃ payload, error = .ofPanic payload) ∨ ∃ crossed e h', p.Path n h crossed (.raised e) h' ∧
      e.Reaches (inherited.toNat + Crossing.total crossed) ∧
      error = e.delivered (inherited.toNat + Crossing.total crossed) := by
  rcases settle_error settled with panicked | ⟨e', h', ran, attributed⟩
  · exact .inl panicked
  · obtain ⟨crossed, stop, path, same⟩ := Program.path_of_run ran trivial
    obtain ⟨e, rfl, reaches, rfl⟩ := Stop.raised_of_outcome same.symm
    rw [MethodError.ofMethodError_blamed reaches, Nat.add_comm] at attributed
    split at attributed
    · next further =>
      cases attributed
      exact .inr ⟨crossed, e, h', path, further, rfl⟩
    · cases attributed

/-- By induction on the resumes. -/
theorem journey_of_follow {n : Nat} {error : ScriptError} (resumes : List (List Value × Host)) :
    ∀ {p : Program} {h : Host} {label : Label} {logs : Bool} {inherited : UInt32},
      follow n (settle label logs inherited (p.run n h)).1 resumes = .ok (.error error) →
        (∃ payload, error = .ofPanic payload) ∨ ∃ crossed e, Journey n p h resumes crossed e ∧
          e.Reaches (inherited.toNat + Crossing.total crossed) ∧
          error = e.delivered (inherited.toNat + Crossing.total crossed) := by
  induction resumes with
  | nil =>
    intro p h label logs inherited followed
    rcases path_of_settle followed with panicked | ⟨crossed, e, h', path, reaches, same⟩
    · exact .inl panicked
    · exact .inr ⟨crossed, e, .raised path, reaches, same⟩
  | cons resume rest ih =>
    intro p h label logs inherited followed
    obtain ⟨event, h₁⟩ := resume
    unfold follow at followed
    split at followed
    · next values frame yielded =>
      obtain ⟨adjust, h', ran, -, -, kept⟩ := settle_yielded yielded
      obtain ⟨crossed, stop, path, same⟩ := Program.path_of_run ran trivial
      obtain ⟨rfl, sum⟩ := Stop.parked_of_outcome same.symm
      rcases ih followed with panicked | ⟨further, e, journey, reaches, same⟩
      · exact .inl panicked
      · have total : frame.adjust.toNat + Crossing.total further =
            inherited.toNat + Crossing.total (crossed ++ further) := by
          rw [Crossing.total_append, kept, sum, Nat.add_assoc]
        rw [total] at reaches same
        exact .inr ⟨crossed ++ further, e, .resumed path journey, reaches, same⟩
    · rcases path_of_settle followed with panicked | ⟨crossed, e, h', path, reaches, same⟩
      · exact .inl panicked
      · exact .inr ⟨crossed, e, .raised path, reaches, same⟩

/-! ## The level of a script error -/

/-- What the script gets of an error behind some crossings: the message, and level 0 or the level
with one more for each call and with the explicit adjustments. -/
theorem delivered_eq (e : MethodError) (crossed : List Crossing) :
    e.delivered (Crossing.total crossed) = ⟨e.message, if e.level = 0 then 0
      else .ofNat (e.level.toNat + (Crossing.calls crossed + Crossing.explicit crossed))⟩ := by
  rw [← Crossing.total_eq]
  rfl

/-- A call that is resumed any number of times delivers the error at the end of its journey, with
the level that the crossings make of it; and every error that it delivers comes from such a journey,
or from a panic. -/
theorem error_blamed (b : BoundMethod) (n : Nat) (args : Arguments) (h : Host)
    (resumes : List (List Value × Host)) :
    (∀ crossed e, Journey n (b.method.apply b.object b.contexts args) h resumes crossed e →
      e.level.toNat + (Crossing.calls crossed + Crossing.explicit crossed) < UInt32.size →
        b.play n args h resumes = .ok (.error ⟨e.message, if e.level = 0 then 0
          else .ofNat (e.level.toNat + (Crossing.calls crossed + Crossing.explicit crossed))⟩)) ∧
    (∀ error, b.play n args h resumes = .ok (.error error) →
      (∃ payload, error = .ofPanic payload) ∨
      ∃ crossed e, Journey n (b.method.apply b.object b.contexts args) h resumes crossed e ∧
        error = ⟨e.message, if e.level = 0 then 0
          else .ofNat (e.level.toNat + (Crossing.calls crossed + Crossing.explicit crossed))⟩) := by
  have nothing : (0 : UInt32).toNat = 0 := rfl
  refine ⟨fun crossed e journey fits => ?_, fun error played => ?_⟩
  · rw [← Crossing.total_eq] at fits
    have followed : b.play n args h resumes = _ :=
      follow_of_journey journey 0 (by rwa [nothing, Nat.zero_add])
    rwa [nothing, Nat.zero_add, delivered_eq] at followed
  · rcases journey_of_follow resumes played with panicked | ⟨crossed, e, journey, -, same⟩
    · exact .inl panicked
    · rw [nothing, Nat.zero_add, delivered_eq] at same
      exact .inr ⟨crossed, e, journey, same⟩

/-- A device with one method, which waits and then fails. -/
def buzzer : Device :=
  { Device.plain (.named "Buzzer") "buzzer" (ClassDecl.plain (.named "Buzzer") "Buzzer" [])
      .stateless with
    dynamic := ["buzz"]
    callDynamic := fun _ _ _ =>
      Code.yieldValues [] fun _ => Code.raise ⟨.message "burnt out", 3⟩ }

/-- A host with the device at its left. -/
def buzzerHost : Host :=
  { Host.new Config.default with
    slots := fun side => if side = .left then some ⟨.left, 0⟩ else none
    running := true
    accesses := [⟨⟨.left, 0⟩, ⟨0⟩, .device (.named "Buzzer") ⟨0⟩, "buzzer",
      MethodTable.build ["buzz"] [], true, true, []⟩]
    devices := [buzzer] }

/-- A method that calls the device and blames what comes of it five frames further up. -/
def ringer : BoundMethod :=
  ⟨.registry, [], ⟨⟨1⟩, "ring", "Ringer", 1, [],
    fun _ => .adjustWait (.call (.ofList [.string "left", .string "buzz"])) 5, none⟩, true⟩

theorem error_blamed_buzzer :
    Journey 1 (ringer.method.apply ringer.object ringer.contexts .empty) buzzerHost
      [([], buzzerHost)] [.adjusted 5, .call, .adjusted 0] ⟨.message "burnt out", 3⟩ ∧
    ringer.play 1 .empty buzzerHost [([], buzzerHost)] = .ok (.error ⟨"burnt out", 9⟩) := by
  have journey : Journey 1 (ringer.method.apply ringer.object ringer.contexts .empty) buzzerHost
      [([], buzzerHost)] ([.adjusted 5, .call, .adjusted 0] ++ []) ⟨.message "burnt out", 3⟩ :=
    .resumed (.code (.waitParked (.called rfl rfl .suspend))) (.raised (.code .fail))
  have played := (error_blamed ringer 1 .empty buzzerHost [([], buzzerHost)]).1 _ _ journey
    (by decide)
  exact ⟨journey, played⟩

end DeviceBridge
