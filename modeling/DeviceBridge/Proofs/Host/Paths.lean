import DeviceBridge.Host.Run

/-
  How code gets to its first stop, and what is crossed on the way out. A `Path` leads from code to
  the point where it raises an error or parks its caller, and names every adjustment that the stop
  passes on its way back to the caller: one for each call through the registry that it is in, and
  the explicit ones. `run_of_path`: the level of the error, or what is kept for later errors, is
  then the sum, or else an addition overflowed. `path_of_run`: there is no other way to stop.
-/

namespace DeviceBridge

/-! ## Crossings -/

/-- What an error or a wait passes on its way out. -/
inductive Crossing where
  /-- The frame of a call through the registry, which the script never sees. -/
  | call
  /-- An adjustment that code makes itself. -/
  | adjusted (amount : UInt32)
deriving Repr, DecidableEq

namespace Crossing

def amount : Crossing → UInt32
  | call => 1
  | adjusted amount => amount

/-- What crossings add to a level. -/
def total : List Crossing → Nat
  | [] => 0
  | c :: rest => c.amount.toNat + total rest

theorem total_nil : total [] = 0 := rfl

theorem total_cons (c : Crossing) (crossed : List Crossing) :
    total (c :: crossed) = c.amount.toNat + total crossed := rfl

theorem total_append (inner outer : List Crossing) :
    total (inner ++ outer) = total inner + total outer := by
  induction inner with
  | nil => exact (Nat.zero_add _).symm
  | cons c rest ih => rw [List.cons_append, total_cons, total_cons, ih, Nat.add_assoc]

end Crossing

/-! ## Levels -/

theorem addLevels_ofNat {a : Nat} {b : UInt32} (fits : a + b.toNat < UInt32.size) :
    addLevels (.ofNat a) b = .ok (.ofNat (a + b.toNat)) := by
  have small : (UInt32.ofNat a).toNat = a := UInt32.toNat_ofNat_of_lt' (by omega)
  have fits : (UInt32.ofNat a).toNat + b.toNat < UInt32.size := by rwa [small]
  rw [addLevels_of_fits fits, UInt32.ofNat_add, UInt32.ofNat_toNat]

theorem addLevels_overflow {a : Nat} {b : UInt32} (small : a < UInt32.size)
    (beyond : ¬a + b.toNat < UInt32.size) : addLevels (.ofNat a) b = .error .overflow := by
  have beyond : ¬(UInt32.ofNat a).toNat + b.toNat < UInt32.size := by
    rwa [UInt32.toNat_ofNat_of_lt' small]
  exact if_neg beyond

namespace MethodError

/-- The error, blamed `n` frames further up. -/
def blamed (e : MethodError) (n : Nat) : MethodError :=
  { e with level := if e.level = 0 then 0 else .ofNat (e.level.toNat + n) }

theorem blamed_zero (e : MethodError) : e.blamed 0 = e := by
  unfold blamed
  rw [Nat.add_zero, UInt32.ofNat_toNat]
  split
  · next unattributed => rw [← unattributed]
  · rfl

theorem blamed_of_unattributed {e : MethodError} (unattributed : e.level = 0) (n : Nat) :
    e.blamed n = e := by
  unfold blamed
  rw [if_pos unattributed, ← unattributed]

/-- The level that an error would have after some crossings is a level. -/
def Reaches (e : MethodError) (n : Nat) : Prop := e.level = 0 ∨ e.level.toNat + n < UInt32.size

instance (e : MethodError) (n : Nat) : Decidable (e.Reaches n) :=
  inferInstanceAs (Decidable (_ ∨ _))

theorem level_blamed {e : MethodError} {n : Nat} (attributed : e.level ≠ 0)
    (reaches : e.Reaches n) : (e.blamed n).level.toNat = e.level.toNat + n := by
  have small := reaches.resolve_left attributed
  unfold blamed
  simp only
  rw [if_neg attributed, UInt32.toNat_ofNat_of_lt' small]

theorem adjusted_blamed {e : MethodError} {n : Nat} (reaches : e.Reaches n) (amount : UInt32) :
    (e.blamed n).adjusted amount =
      if e.Reaches (n + amount.toNat) then .ok (e.blamed (n + amount.toNat))
      else .error .overflow := by
  by_cases unattributed : e.level = 0
  · rw [if_pos (.inl unattributed), blamed_of_unattributed unattributed,
      blamed_of_unattributed unattributed]
    unfold adjusted
    rw [if_pos unattributed]
  · have small := reaches.resolve_left unattributed
    have level := level_blamed unattributed reaches
    have attributed : (e.blamed n).level ≠ 0 := by
      intro zero
      rw [zero] at level
      have positive : e.level.toNat ≠ 0 := fun h => unattributed (UInt32.toNat_inj.mp h)
      simp only [UInt32.toNat_zero] at level
      omega
    unfold adjusted
    rw [if_neg attributed]
    have same : (e.blamed n).level = .ofNat (e.level.toNat + n) := by
      unfold blamed
      simp only
      rw [if_neg unattributed]
    rw [same]
    by_cases fits : e.level.toNat + n + amount.toNat < UInt32.size
    · rw [addLevels_ofNat fits, if_pos (.inr (by omega))]
      unfold blamed
      simp only [if_neg unattributed, Nat.add_assoc]
    · rw [addLevels_overflow small fits, if_neg]
      rintro (zero | fine)
      · exact unattributed zero
      · omega

end MethodError

/-! ## Paths -/

/-- Where code stops other than by returning. -/
inductive Stop where
  | raised (error : MethodError)
  | parked (yielded : List Value) (next : Resumption)

namespace Stop

/-- What a caller gets of a stop behind some crossings. -/
def outcome (crossed : List Crossing) : Stop → Outcome
  | raised e =>
    if e.Reaches (Crossing.total crossed) then .failed (.raised (e.blamed (Crossing.total crossed)))
    else .failed (.escaped .overflow)
  | parked yielded next =>
    if Crossing.total crossed < UInt32.size
    then .pending yielded (.ofNat (Crossing.total crossed)) next
    else .failed (.escaped .overflow)

end Stop

namespace Nested

/-- What code reaches if runs may nest some number of times. -/
def upTo : Nat → Nested
  | 0 => none
  | n + 1 => of (Program.run n)

end Nested

theorem Code.run_eq (n : Nat) (body : Code) (h : Host) :
    body.run n h = body.exec (Nested.upTo n) h := by
  cases n <;> rfl

namespace Code

/-- How code gets to a stop: the bound on nested runs, the code and the host that it starts on, the
crossings from the outermost in, the stop, and the host that is left. -/
inductive Path : Nat → Code → Host → List Crossing → Stop → Host → Prop where
  | fail {n : Nat} {e : MethodError} {h : Host} : Path n (.fail (.raised e)) h [] (.raised e) h
  | suspend {n : Nat} {yielded : List Value} {adjust : UInt32} {next : List Value → Code}
      {h : Host} :
      Path n (.suspend yielded adjust next) h [.adjusted adjust] (.parked yielded (.code next)) h
  | await {n : Nat} {id : TaskId} {h : Host} :
      Path n (.await id) h [] (.parked awaitValues (.task id)) h
  | ask {n : Nat} {request : Request} {next : Except MethodError Value → Code} {h h' : Host}
      {crossed : List Crossing} {stop : Stop}
      (rest : Path n (next (h.answer request).1) (h.answer request).2 crossed stop h') :
      Path n (.ask request next) h crossed stop h'
  | command {n : Nat} {c : Command} {next : Code} {h h₁ h' : Host} {crossed : List Crossing}
      {stop : Stop} (done : (Nested.upTo n).command c h = (.ok (), h₁))
      (rest : Path n next h₁ crossed stop h') : Path n (.command c next) h crossed stop h'
  | enqueue {n : Nat} {completion : Completion} {body : Code}
      {next : Except QueueError TaskId → Code} {h h' : Host} {crossed : List Crossing} {stop : Stop}
      (rest : Path n (next (h.enqueue completion body).1) (h.enqueue completion body).2 crossed
        stop h') : Path n (.enqueue completion body next) h crossed stop h'
  /-- Code that was run on the way has come to its own stop. -/
  | attempt {n : Nat} {body : Code} {next : Attempt → Code} {h h₁ h' : Host} {outcome : Outcome}
      {seen : Attempt} {crossed : List Crossing} {stop : Stop}
      (ran : body.run n h = (outcome, h₁)) (saw : outcome.toAttempt = .ok seen)
      (rest : Path n (next seen) h₁ crossed stop h') :
      Path n (.attempt body next) h crossed stop h'
  /-- An error is let through as it is. -/
  | passed {n : Nat} {body : Code} {next : Attempt → Code} {h h' : Host} {e : MethodError}
      {crossed : List Crossing} (inner : Path n body h crossed (.raised e) h')
      (passes : ∀ e, next (.raised e) = Code.raise e) :
      Path n (.attempt body next) h crossed (.raised e) h'
  | waitParked {n : Nat} {body : Code} {amount : UInt32} {h h' : Host} {crossed : List Crossing}
      {yielded : List Value} {next : Resumption}
      (inner : Path n body h crossed (.parked yielded next) h') :
      Path n (.adjustWait body amount) h (.adjusted amount :: crossed) (.parked yielded next) h'
  | waitRaised {n : Nat} {body : Code} {amount : UInt32} {h h' : Host} {crossed : List Crossing}
      {e : MethodError} (inner : Path n body h crossed (.raised e) h') :
      Path n (.adjustWait body amount) h crossed (.raised e) h'
  | errorRaised {n : Nat} {body : Code} {amount : UInt32} {h h' : Host} {crossed : List Crossing}
      {e : MethodError} (inner : Path n body h crossed (.raised e) h') :
      Path n (.adjustError body amount) h (.adjusted amount :: crossed) (.raised e) h'
  | errorParked {n : Nat} {body : Code} {amount : UInt32} {h h' : Host} {crossed : List Crossing}
      {yielded : List Value} {next : Resumption}
      (inner : Path n body h crossed (.parked yielded next) h') :
      Path n (.adjustError body amount) h crossed (.parked yielded next) h'
  | called {n : Nat} {args rest : Arguments} {h h' : Host} {a : Access} {method : String}
      {code : Code} {crossed : List Crossing} {stop : Stop}
      (routed : h.route args = .ok (a, method, rest))
      (found : h.methodCode a method rest = some code) (inner : Path n code h crossed stop h') :
      Path (n + 1) (.call args) h (.call :: crossed) stop h'
  | noMethod {n : Nat} {args rest : Arguments} {h : Host} {a : Access} {method : String}
      (routed : h.route args = .ok (a, method, rest))
      (missing : h.methodCode a method rest = none) :
      Path (n + 1) (.call args) h [.call] (.raised ⟨.noSuchMethod method, 0⟩) h
  /-- The call itself is at fault, before it gets to a device. -/
  | noRoute {n : Nat} {args : Arguments} {h : Host} {e : MethodError}
      (refused : h.route args = .error (.raised e)) : Path (n + 1) (.call args) h [] (.raised e) h

end Code

/-! ## Stops behind crossings -/

namespace Stop

theorem outcome_raised_nil (e : MethodError) : (raised e).outcome [] = .failed (.raised e) := by
  have reaches : e.Reaches (Crossing.total []) := .inr e.level.toNat_lt
  unfold outcome
  simp only
  rw [if_pos reaches, Crossing.total_nil, MethodError.blamed_zero]

theorem outcome_parked_nil (yielded : List Value) (next : Resumption) :
    (parked yielded next).outcome [] = .pending yielded 0 next := rfl

theorem outcome_parked_single (yielded : List Value) (adjust : UInt32) (next : Resumption) :
    (parked yielded next).outcome [.adjusted adjust] = .pending yielded adjust next := by
  have same : Crossing.total [.adjusted adjust] = adjust.toNat := Nat.add_zero _
  unfold outcome
  simp only
  rw [same, if_pos adjust.toNat_lt, UInt32.ofNat_toNat]

variable (c : Crossing) (crossed : List Crossing)

theorem adjustWait_parked (yielded : List Value) (next : Resumption) :
    ((parked yielded next).outcome crossed).adjustWait c.amount =
      (parked yielded next).outcome (c :: crossed) := by
  unfold outcome
  simp only
  rw [Crossing.total_cons]
  by_cases small : Crossing.total crossed < UInt32.size
  · rw [if_pos small]
    unfold Outcome.adjustWait
    simp only
    by_cases fits : Crossing.total crossed + c.amount.toNat < UInt32.size
    · rw [addLevels_ofNat fits, if_pos (by omega), Nat.add_comm]
    · rw [addLevels_overflow small fits, if_neg (by omega)]
  · rw [if_neg small, if_neg (by omega)]
    rfl

theorem adjustWait_raised (e : MethodError) (amount : UInt32) :
    ((raised e).outcome crossed).adjustWait amount = (raised e).outcome crossed := by
  unfold outcome
  simp only
  split <;> rfl

theorem adjustError_raised (e : MethodError) :
    ((raised e).outcome crossed).adjustError c.amount = (raised e).outcome (c :: crossed) := by
  unfold outcome
  simp only
  rw [Crossing.total_cons, Nat.add_comm]
  by_cases reaches : e.Reaches (Crossing.total crossed)
  · rw [if_pos reaches]
    unfold Outcome.adjustError
    simp only
    rw [MethodError.adjusted_blamed reaches]
    by_cases further : e.Reaches (Crossing.total crossed + c.amount.toNat)
    · simp only [if_pos further]
    · simp only [if_neg further]
  · have further : ¬e.Reaches (Crossing.total crossed + c.amount.toNat) := by
      rintro (unattributed | fits)
      · exact reaches (.inl unattributed)
      · exact reaches (.inr (by omega))
    rw [if_neg reaches, if_neg further]
    rfl

theorem adjustError_parked (yielded : List Value) (next : Resumption) (amount : UInt32) :
    ((parked yielded next).outcome crossed).adjustError amount =
      (parked yielded next).outcome crossed := by
  unfold outcome
  simp only
  split <;> rfl

/-- What `adjusted` does to the outcome of code is one crossing more. -/
theorem outcome_adjusted (stop : Stop) :
    (stop.outcome crossed).adjusted c.amount = stop.outcome (c :: crossed) := by
  unfold Outcome.adjusted
  cases stop with
  | raised e => rw [adjustWait_raised, adjustError_raised]
  | parked yielded next => rw [adjustWait_parked, adjustError_parked]

/-- Code that lets errors through lets through what crossings have made of them. -/
theorem exec_passed {nested : Nested} {body : Code} {next : Attempt → Code} {h h' : Host}
    {e : MethodError} (ran : body.exec nested h = ((raised e).outcome crossed, h'))
    (passes : ∀ e, next (.raised e) = Code.raise e) :
    (Code.attempt body next).exec nested h = ((raised e).outcome crossed, h') := by
  unfold Code.exec
  rw [ran]
  unfold outcome
  by_cases reaches : e.Reaches (Crossing.total crossed)
  · simp only [if_pos reaches, Outcome.toAttempt]
    rw [passes]
    rfl
  · simp only [if_neg reaches, Outcome.toAttempt]

end Stop

/-! ## Runs -/

/-- The code stops where the path ends, and the level is what the crossings make of it. By induction
on the path. -/
theorem Code.run_of_path {n : Nat} {body : Code} {h h' : Host} {crossed : List Crossing}
    {stop : Stop} (path : Path n body h crossed stop h') :
    body.run n h = (stop.outcome crossed, h') := by
  induction path with
  | fail => rw [Stop.outcome_raised_nil, run_eq, exec]
  | suspend => rw [Stop.outcome_parked_single, run_eq, exec]
  | await =>
    rw [run_eq, exec]
    rfl
  | ask _ ih =>
    rw [run_eq] at ih ⊢
    exact ih
  | command done _ ih =>
    rw [run_eq] at ih ⊢
    rw [exec, done]
    exact ih
  | enqueue _ ih =>
    rw [run_eq] at ih ⊢
    exact ih
  | attempt ran saw _ ih =>
    rw [run_eq] at ran ih ⊢
    rw [exec, ran]
    simp only [saw]
    exact ih
  | passed _ passes ih =>
    rw [run_eq] at ih ⊢
    exact Stop.exec_passed _ ih passes
  | @waitParked _ _ amount _ _ crossed yielded next _ ih =>
    rw [run_eq] at ih ⊢
    rw [exec, ih, ← Stop.adjustWait_parked (.adjusted amount)]
    rfl
  | waitRaised _ ih =>
    rw [run_eq] at ih ⊢
    rw [exec, ih]
    simp only [Stop.adjustWait_raised]
  | @errorRaised _ _ amount _ _ crossed e _ ih =>
    rw [run_eq] at ih ⊢
    rw [exec, ih, ← Stop.adjustError_raised (.adjusted amount)]
    rfl
  | errorParked _ ih =>
    rw [run_eq] at ih ⊢
    rw [exec, ih]
    simp only [Stop.adjustError_parked]
  | @called n args rest h h' a method code crossed stop routed found _ ih =>
    show h.callDevice (Program.run n) args = _
    have invoked : h.callMethod (Program.run n) a method rest = (stop.outcome crossed, h') := by
      unfold Host.callMethod
      rw [found]
      exact ih
    unfold Host.callDevice
    rw [routed]
    simp only
    rw [invoked, ← Stop.outcome_adjusted .call]
    rfl
  | @noMethod n args rest h a method routed missing =>
    show h.callDevice (Program.run n) args = _
    unfold Host.callDevice Host.callMethod
    rw [routed]
    simp only
    rw [missing]
    rfl
  | @noRoute n args h e refused =>
    show h.callDevice (Program.run n) args = _
    unfold Host.callDevice
    rw [refused, Stop.outcome_raised_nil]

/-! ## All stops have a path -/

/-- The outcome is an error or a wait. -/
def Outcome.Stops : Outcome → Prop
  | pending .. => True
  | failed (.raised _) => True
  | _ => False

namespace Outcome

theorem stops_of_adjustWait {outcome : Outcome} {amount : UInt32}
    (stops : (outcome.adjustWait amount).Stops) : outcome.Stops := by
  cases outcome with
  | done values => exact stops
  | pending yielded adjust next => trivial
  | failed failure => exact stops

theorem stops_of_adjustError {outcome : Outcome} {amount : UInt32}
    (stops : (outcome.adjustError amount).Stops) : outcome.Stops := by
  cases outcome with
  | done values => exact stops
  | pending yielded adjust next => trivial
  | failed failure =>
    cases failure with
    | raised e => trivial
    | escaped how => exact stops

end Outcome

namespace Code

/-- There is a path to a stop, where one is. -/
def Traced (n : Nat) (body : Code) (h : Host) (ran : Outcome × Host) : Prop :=
  ran.1.Stops → ∃ crossed stop, Path n body h crossed stop ran.2

/-- By induction on the code. -/
theorem exec_traced {n : Nat}
    (call : ∀ args h, Traced n (.call args) h ((Nested.upTo n).call args h)) (body : Code) :
    ∀ h : Host, Traced n body h (body.exec (Nested.upTo n) h) := by
  induction body with
  | done values =>
    intro h stops
    exact stops.elim
  | fail failure =>
    intro h stops
    cases failure with
    | raised e => exact ⟨_, _, .fail⟩
    | escaped how => exact stops.elim
  | suspend yielded adjust next _ =>
    intro h _
    exact ⟨_, _, .suspend⟩
  | await id =>
    intro h _
    exact ⟨_, _, .await⟩
  | ask request next ih =>
    intro h stops
    obtain ⟨crossed, stop, path⟩ := ih _ _ stops
    exact ⟨crossed, stop, .ask path⟩
  | command c next ih =>
    intro h stops
    unfold exec at stops ⊢
    split at stops
    · next done =>
      obtain ⟨crossed, stop, path⟩ := ih _ stops
      exact ⟨crossed, stop, .command done path⟩
    · exact stops.elim
  | enqueue completion body next _ _ ih =>
    intro h stops
    obtain ⟨crossed, stop, path⟩ := ih _ _ stops
    exact ⟨crossed, stop, .enqueue path⟩
  | call args => exact call args
  | attempt body next _ ih =>
    intro h stops
    unfold exec at stops ⊢
    cases ran : body.exec (Nested.upTo n) h with
    | mk outcome h₁ =>
      simp only [ran] at stops ⊢
      split at stops
      · next saw =>
        obtain ⟨crossed, stop, path⟩ := ih _ _ stops
        rw [← run_eq] at ran
        exact ⟨crossed, stop, .attempt ran saw path⟩
      · exact stops.elim
  | adjustWait body amount ih =>
    intro h stops
    obtain ⟨crossed, stop, path⟩ := ih h (Outcome.stops_of_adjustWait stops)
    cases stop with
    | raised e => exact ⟨_, _, .waitRaised path⟩
    | parked yielded next => exact ⟨_, _, .waitParked path⟩
  | adjustError body amount ih =>
    intro h stops
    obtain ⟨crossed, stop, path⟩ := ih h (Outcome.stops_of_adjustError stops)
    cases stop with
    | raised e => exact ⟨_, _, .errorRaised path⟩
    | parked yielded next => exact ⟨_, _, .errorParked path⟩

/-- By induction on the bound on nested runs. -/
theorem run_traced (n : Nat) : ∀ (body : Code) (h : Host), Traced n body h (body.run n h) := by
  induction n with
  | zero =>
    intro body h
    rw [run_eq]
    refine exec_traced (fun args h stops => ?_) body h
    exact stops.elim
  | succ n ih =>
    intro body h
    rw [run_eq]
    refine exec_traced (fun args h stops => ?_) body h
    show ∃ crossed stop, Path (n + 1) (.call args) h crossed stop
      (h.callDevice (Program.run n) args).2
    replace stops : (h.callDevice (Program.run n) args).1.Stops := stops
    unfold Host.callDevice at stops ⊢
    split at stops
    · next failure refused =>
      cases failure with
      | raised e => exact ⟨_, _, .noRoute refused⟩
      | escaped how => exact stops.elim
    · next a method rest routed =>
      replace stops := Outcome.stops_of_adjustWait (Outcome.stops_of_adjustError stops)
      unfold Host.callMethod at stops ⊢
      split at stops
      · next missing =>
        exact ⟨_, _, .noMethod routed missing⟩
      · next code found =>
        obtain ⟨crossed, stop, path⟩ := ih code h stops
        exact ⟨_, _, .called routed found path⟩

/-- Where a run stops with an error or a wait, a path leads there, and the outcome is what its
crossings make of the stop. -/
theorem path_of_run {n : Nat} {body : Code} {h h' : Host} {outcome : Outcome}
    (ran : body.run n h = (outcome, h')) (stops : outcome.Stops) :
    ∃ crossed stop, Path n body h crossed stop h' ∧ outcome = stop.outcome crossed := by
  have traced := run_traced n body h
  rw [ran] at traced
  obtain ⟨crossed, stop, path⟩ := traced stops
  have same := run_of_path path
  rw [ran] at same
  exact ⟨crossed, stop, path, congrArg Prod.fst same⟩

end Code

end DeviceBridge
