import DeviceBridge.Proofs.Generator.Building

/-
  Which argument of a call reaches which parameter. The positions are counted here by the parameter
  list alone: a receiver, a context value and the list of remaining arguments use up none
  (`position`). What a value is taken as (`takes`), and what is said of one that does not fit
  (`complaint`), is laid down for each type of parameter. `call_binds`: a method is built just if
  its parameters are passable, and a call of it then binds every parameter from the argument at its
  position, or fails for the first that does not fit, before the body is run.
-/

namespace DeviceBridge

/-! ## Parameters and values -/

namespace ParamType

/-- The parameter stands for one argument, which has to fit. -/
def isTyped : ParamType → Bool
  | string => true
  | number => true
  | int => true
  | bool => true
  | table => true
  | any => true
  | constant _ => true
  | _ => false

/-- The parameter uses up an argument position. -/
def takesArgument : ParamType → Bool
  | optional _ => true
  | p => p.isTyped

/-- The parameter can be bound by a generator with some context types. -/
def Passable (contexts : List HostType) : ParamType → Prop
  | context type => type ∈ contexts
  | optional inner => inner.isTyped = true
  | other _ => False
  | _ => True

/-- What a value is taken as where it stands for a parameter; nothing if it does not fit. -/
def takes : ParamType → Value → Option BoundArg
  | string, .string s => some (.string s)
  | number, .int i => some (.number i.toFloat)
  | number, .float f => some (.number f)
  | int, .int i => some (.int i)
  | int, .float f => (integral? f).map .int
  | bool, .bool b => some (.bool b)
  | table, .table entries => some (.table entries)
  | any, v => some (.any v)
  | constant choice, .string name => (choice.ordinal? name).map .constant
  | _, _ => none

/-- The type of values that a parameter is for, in the words of an error. -/
def wanted : ParamType → String
  | string => "string"
  | constant _ => "string"
  | bool => "boolean"
  | table => "table"
  | _ => "number"

/-- What is wrong with a value that does not fit, at a position counted from 1. -/
def complaint (p : ParamType) (position : Nat) (v : Value) : Cause :=
  match p, v with
  | int, .float _ => .badArgument position "number has no integer representation"
  | constant _, .string name => .badArgument position ("unknown option " ++ name)
  | p, v => .argumentType position p.wanted v.typeName

/-- The parameter has to fit and the value does not. -/
def Refuses (p : ParamType) (v : Value) : Prop := p.isTyped = true ∧ p.takes v = none

/-- How many argument positions the parameters before one of them use up. -/
def position (params : List ParamType) (index : Nat) : Nat :=
  (params.take index).countP takesArgument

/-- What a parameter is bound to, if its place among the arguments is `k`. -/
inductive Binds (contexts : List HostType) (object : HostObject) (values : List HostObject)
    (args : Arguments) (k : Nat) : ParamType → BoundArg → Prop where
  | receiver : Binds contexts object values args k .receiver (.receiver object)
  /-- The first context value of the type. -/
  | context {type : HostType} {slot : Nat} {value : HostObject}
      (declared : contexts.findIdx? (· = type) = some slot) (given : values[slot]? = some value) :
      Binds contexts object values args k (.context type) (.context value)
  | arguments {rest : Arguments} (dropped : args.drop k = .ok rest)
      (shown : rest.toList = args.toList.drop k) :
      Binds contexts object values args k .arguments (.arguments rest)
  | taken {p : ParamType} {bound : BoundArg} (fits : p.takes (args.get k) = some bound) :
      Binds contexts object values args k p bound
  | present {p : ParamType} {bound : BoundArg} (there : (args.get k).isNil = false)
      (fits : p.takes (args.get k) = some bound) :
      Binds contexts object values args k (.optional p) bound
  | absent {p : ParamType} (unfit : (args.get k).isNil = true ∨ p.takes (args.get k) = none) :
      Binds contexts object values args k (.optional p) .absent

end ParamType

/-! ## Conversions -/

section Conversions

variable {p : ParamType} {s : Scalar} (args : Arguments) {k : Nat}

theorem Failure.argumentType_of_lt (short : k + 1 < UInt64.size) (expected actual : String) :
    Failure.argumentType k expected actual = .ofCause (.argumentType (k + 1) expected actual) := by
  unfold Failure.argumentType
  rw [Failure.position_of_lt short]

theorem Failure.badArgument_of_lt (short : k + 1 < UInt64.size) (text : String) :
    Failure.badArgument k text = .ofCause (.badArgument (k + 1) text) := by
  unfold Failure.badArgument
  rw [Failure.position_of_lt short]

/-- A scalar that has to fit. -/
theorem Scalar.strict_eq (scalar : Scalar.ofParam? p = some s) (short : k + 1 < UInt64.size) :
    s.strict args k = match p.takes (args.get k) with
      | some bound => .ok bound
      | none => .error (.ofCause (p.complaint (k + 1) (args.get k))) := by
  have wrongType := Failure.argumentType_of_lt short
  have unusable := Failure.badArgument_of_lt short
  cases p <;> cases scalar
  case int =>
    unfold Scalar.strict Arguments.int
    cases args.get k with
    | float f => cases fits : integral? f <;> simp [ParamType.takes, ParamType.complaint,
        Value.type, Value.int?, Except.map, fits, unusable]
    | _ => simp [ParamType.takes, ParamType.complaint, ParamType.wanted, Value.type, Value.int?,
        Except.map, wrongType]
  case any =>
    rfl
  all_goals
    simp only [Scalar.strict, Arguments.string, Arguments.number, Arguments.bool, Arguments.table]
    cases args.get k <;> simp [ParamType.takes, ParamType.complaint, ParamType.wanted,
      Value.string?, Value.float?, Value.bool?, Value.table?, Except.map, wrongType]

/-- A constant that has to fit. -/
theorem Arguments.constant_eq (choice : Choice) (short : k + 1 < UInt64.size) :
    (args.constant k choice).map BoundArg.constant =
      match (ParamType.constant choice).takes (args.get k) with
      | some bound => .ok bound
      | none => .error (.ofCause ((ParamType.constant choice).complaint (k + 1) (args.get k))) := by
  have wrongType := Failure.argumentType_of_lt short
  have unusable := Failure.badArgument_of_lt short
  unfold Arguments.constant Arguments.string
  cases args.get k with
  | string name => cases fits : choice.ordinal? name <;> simp [ParamType.takes,
      ParamType.complaint, Value.string?, Except.map, fits, unusable]
  | _ => simp [ParamType.takes, ParamType.complaint, ParamType.wanted, Value.string?, Except.map,
      wrongType]

/-- A scalar that may be missing. -/
theorem Scalar.lenient_eq (scalar : Scalar.ofParam? p = some s) (v : Value) :
    s.lenient v = if v.isNil then .absent else (p.takes v).getD .absent := by
  unfold Scalar.lenient
  cases p <;> cases scalar <;> cases v <;> rfl

/-- A constant that may be missing. -/
theorem Choice.lenient_eq (choice : Choice) (v : Value) :
    ((v.string?.bind choice.ordinal?).map BoundArg.constant).getD .absent =
      if v.isNil then .absent else ((ParamType.constant choice).takes v).getD .absent := by
  cases v <;> rfl

end Conversions

/-! ## One parameter -/

namespace Binder

variable {contexts : List HostType} {p : ParamType} {k next : Nat} {binder : Binder}

/-- The binder that a parameter gets at an argument position, and the next position. -/
inductive Made (contexts : List HostType) (k : Nat) : ParamType → Binder → Nat → Prop where
  | receiver : Made contexts k .receiver .receiver k
  | context {type : HostType} {slot : Nat} (declared : contexts.findIdx? (· = type) = some slot) :
      Made contexts k (.context type) (.context slot) k
  | arguments : Made contexts k .arguments (.rest k) k
  | constant {choice : Choice} : Made contexts k (.constant choice) (.constant k choice) (k + 1)
  | optionalConstant {choice : Choice} :
      Made contexts k (.optional (.constant choice)) (.optionalConstant k choice) (k + 1)
  | optional {inner : ParamType} {s : Scalar} (scalar : Scalar.ofParam? inner = some s) :
      Made contexts k (.optional inner) (.optional k s) (k + 1)
  | strict {p : ParamType} {s : Scalar} (scalar : Scalar.ofParam? p = some s) :
      Made contexts k p (.strict k s) (k + 1)

theorem made (found : ofParam contexts k p = some (binder, next)) :
    Made contexts k p binder next := by
  unfold ofParam at found
  split at found
  · cases found
    exact .receiver
  · obtain ⟨slot, declared, made⟩ := Option.map_eq_some_iff.mp found
    cases made
    exact .context declared
  · cases found
    exact .arguments
  · cases found
    exact .constant
  · cases found
    exact .optionalConstant
  · obtain ⟨s, scalar, made⟩ := Option.map_eq_some_iff.mp found
    cases made
    exact .optional scalar
  · obtain ⟨s, scalar, made⟩ := Option.map_eq_some_iff.mp found
    cases made
    exact .strict scalar

theorem isTyped_of_scalar {s : Scalar} (scalar : Scalar.ofParam? p = some s) :
    p.isTyped = true := by
  cases p <;> first | rfl | cases scalar

/-- The position moves on behind a parameter that takes an argument, and only there. -/
theorem Made.next_eq (made : Made contexts k p binder next) :
    next = k + if p.takesArgument then 1 else 0 := by
  cases made with
  | receiver | context | arguments | constant | optionalConstant | optional => rfl
  | strict scalar => cases p <;> first | rfl | cases scalar

/-- A parameter gets a binder just if it is passable. -/
theorem ofParam_isSome_iff (contexts : List HostType) (k : Nat) (p : ParamType) :
    (ofParam contexts k p).isSome ↔ p.Passable contexts := by
  have declared (type : HostType) :
      (contexts.findIdx? (· = type)).isSome ↔ type ∈ contexts := by
    simp [List.findIdx?_isSome]
  cases p with
  | context type =>
    show _ ↔ type ∈ contexts
    rw [← declared type]
    unfold ofParam
    rw [Option.isSome_map]
  | optional inner => cases inner <;> simp [ofParam, Scalar.ofParam?, ParamType.Passable,
      ParamType.isTyped]
  | _ => simp [ofParam, Scalar.ofParam?, ParamType.Passable]

section Bind

variable {object : HostObject} {values : List HostObject} {args : Arguments}

theorem Made.bind_refused (made : Made contexts k p binder next) (short : k + 1 < UInt64.size)
    (refuses : p.Refuses (args.get k)) :
    binder.bind object values args = .error (.ofCause (p.complaint (k + 1) (args.get k))) := by
  obtain ⟨typed, unfit⟩ := refuses
  cases made with
  | receiver | context | arguments | optionalConstant | optional => cases typed
  | constant =>
    have read := Arguments.constant_eq args ‹Choice› short
    rw [unfit] at read
    exact read
  | strict scalar =>
    have read := Scalar.strict_eq args scalar short
    rw [unfit] at read
    exact read

/-- Whatever stands for an optional parameter, or does not, it is bound. -/
theorem binds_optional : (ParamType.optional p).Binds contexts object values args k
    (if (args.get k).isNil then .absent else (p.takes (args.get k)).getD .absent) := by
  cases missing : (args.get k).isNil with
  | true => exact .absent (.inl missing)
  | false =>
    cases fits : p.takes (args.get k) with
    | none => exact .absent (.inr fits)
    | some bound => exact .present missing fits

theorem Made.bind_fits (object : HostObject) (made : Made contexts k p binder next)
    (short : k + 1 < UInt64.size) (fits : ¬p.Refuses (args.get k))
    (given : values.length = contexts.length) :
    ∃ bound, binder.bind object values args = .ok bound ∧
      p.Binds contexts object values args k bound := by
  have taken (typed : p.isTyped = true) : ∃ bound, p.takes (args.get k) = some bound :=
    Option.ne_none_iff_exists'.mp fun unfit => fits ⟨typed, unfit⟩
  cases made with
  | receiver => exact ⟨_, rfl, .receiver⟩
  | @context type slot declared =>
    have inside : slot < values.length := by
      rw [given]
      exact (List.findIdx?_eq_some_iff_findIdx_eq.mp declared).1
    have there := List.getElem?_eq_getElem inside
    refine ⟨.context values[slot], ?_, .context declared there⟩
    unfold bind
    simp only
    rw [there]
  | arguments =>
    obtain ⟨rest, dropped, shown⟩ := Arguments.drop_natCast args k
    refine ⟨.arguments rest, ?_, .arguments dropped shown⟩
    show (args.drop k).map BoundArg.arguments = _
    rw [dropped]
    rfl
  | constant =>
    obtain ⟨bound, fits⟩ := taken rfl
    have read := Arguments.constant_eq args ‹Choice› short
    rw [fits] at read
    exact ⟨bound, read, .taken fits⟩
  | optionalConstant =>
    refine ⟨_, rfl, ?_⟩
    rw [Choice.lenient_eq]
    exact binds_optional
  | optional scalar =>
    refine ⟨_, rfl, ?_⟩
    rw [Scalar.lenient_eq scalar]
    exact binds_optional
  | strict scalar =>
    obtain ⟨bound, fits⟩ := taken (isTyped_of_scalar scalar)
    have read := Scalar.strict_eq args scalar short
    rw [fits] at read
    exact ⟨bound, read, .taken fits⟩

/-! ## All parameters -/

/-- The arguments from position `k` on fit the parameters. -/
def AllFit (args : Arguments) (k : Nat) (params : List ParamType) : Prop :=
  ∀ (i : Nat) (p : ParamType), params[i]? = some p →
    ¬p.Refuses (args.get (k + ParamType.position params i))

/-- The `i`-th of the parameters, which is `p`, is the first that refuses its argument. -/
structure FirstRefused (args : Arguments) (k : Nat) (params : List ParamType) (i : Nat)
    (p : ParamType) : Prop where
  here : params[i]? = some p
  refuses : p.Refuses (args.get (k + ParamType.position params i))
  before : ∀ j < i, ∀ q : ParamType, params[j]? = some q →
    ¬q.Refuses (args.get (k + ParamType.position params j))

/-- Every parameter is bound, each from its own place. -/
structure AllBound (contexts : List HostType) (object : HostObject) (values : List HostObject)
    (args : Arguments) (k : Nat) (params : List ParamType) (bound : List BoundArg) : Prop where
  length : bound.length = params.length
  each : ∀ (i : Nat) (p : ParamType), params[i]? = some p → ∃ b, bound[i]? = some b ∧
    p.Binds contexts object values args (k + ParamType.position params i) b

theorem position_succ (params : List ParamType) (i : Nat) :
    ParamType.position (p :: params) (i + 1) =
      (if p.takesArgument then 1 else 0) + ParamType.position params i := by
  unfold ParamType.position
  rw [List.take_succ_cons, List.countP_cons, Nat.add_comm]

/-- By induction on the parameters, from any position on: either one of them is the first that
refuses its argument, and binding fails for it, or all are bound. -/
theorem bindAll_ofParams (object : HostObject) (args : Arguments)
    (given : values.length = contexts.length) (params : List ParamType) :
    ∀ {k : Nat} {binders : List Binder}, ofParams contexts k params = .ok binders →
      k + params.length < UInt64.size →
      (∃ i p, FirstRefused args k params i p ∧ bindAll binders object values args =
        .error (.ofCause (p.complaint (k + ParamType.position params i + 1)
          (args.get (k + ParamType.position params i))))) ∨
      (AllFit args k params ∧ ∃ bound, AllBound contexts object values args k params bound ∧
        bindAll binders object values args = .ok bound) := by
  induction params with
  | nil =>
    rintro k binders ⟨⟩ -
    exact .inr ⟨nofun, [], ⟨rfl, nofun⟩, rfl⟩
  | cons p rest ih =>
    intro k binders found short
    rw [List.length_cons] at short
    unfold ofParams at found
    split at found
    · cases found
    · next binder next first =>
      split at found
      · next others found_rest =>
        cases found
        have made := made first
        have next_eq := made.next_eq
        have place (i : Nat) : k + ParamType.position (p :: rest) (i + 1) =
            next + ParamType.position rest i := by
          rw [position_succ, next_eq, Nat.add_assoc]
        have short_rest : next + rest.length < UInt64.size := by
          rw [next_eq]
          split <;> omega
        by_cases refuses : p.Refuses (args.get k)
        · refine .inl ⟨0, p, ⟨rfl, refuses, nofun⟩, ?_⟩
          unfold bindAll
          rw [made.bind_refused (by omega) refuses]
          rfl
        · obtain ⟨b, bound, binds⟩ := made.bind_fits object (by omega) refuses given
          unfold bindAll
          rw [bound]
          simp only
          rcases ih found_rest short_rest with ⟨i, q, first, failed⟩ | ⟨fit, others, all, done⟩
          · refine .inl ⟨i + 1, q, ⟨first.here, ?_, ?_⟩, ?_⟩
            · rw [place]
              exact first.refuses
            · rintro (_ | j) earlier r there
              · cases there
                exact refuses
              · rw [place]
                exact first.before j (by omega) r there
            · rw [failed, place]
          · refine .inr ⟨?_, b :: others, ⟨?_, ?_⟩, ?_⟩
            · rintro (_ | i) q there
              · cases there
                exact refuses
              · rw [place]
                exact fit i q there
            · rw [List.length_cons, List.length_cons, all.length]
            · rintro (_ | i) q there
              · cases there
                exact ⟨b, rfl, binds⟩
              · rw [place]
                exact all.each i q there
            · rw [done]
      · cases found

end Bind

/-- Every parameter gets a binder just if all are passable. -/
theorem ofParams_ok_iff (contexts : List HostType) (params : List ParamType) : ∀ k : Nat,
    (∃ binders, ofParams contexts k params = .ok binders) ↔
      ∀ p ∈ params, p.Passable contexts := by
  induction params with
  | nil => simp [ofParams]
  | cons p rest ih =>
    intro k
    have head := ofParam_isSome_iff contexts k p
    rw [List.forall_mem_cons]
    unfold ofParams
    cases found : ofParam contexts k p with
    | none =>
      rw [found] at head
      simp [← head]
    | some made =>
      obtain ⟨binder, next⟩ := made
      rw [found] at head
      have tail := ih next
      simp only [← head, Option.isSome_some, true_and]
      rw [← tail]
      cases ofParams contexts next rest <;> simp

end Binder

/-! ## Calls -/

/-- Values for the context types of a generator. Only the computer has the type of computers. -/
structure ContextValues (contexts : List HostType) (values : List HostObject) : Prop where
  types : values.map HostObject.type = contexts
  computer : ∀ v ∈ values, v.type = .context → v = .context

theorem ContextValues.length {contexts : List HostType} {values : List HostObject}
    (fitting : ContextValues contexts values) : values.length = contexts.length := by
  rw [← fitting.types, List.length_map]

/-- The computer is where the types say that it is. -/
theorem ContextValues.computer_at {contexts : List HostType} {values : List HostObject} {slot : Nat}
    (fitting : ContextValues contexts values)
    (found : contexts.findIdx? (· = .context) = some slot) : values[slot]? = some .context := by
  obtain ⟨inside, chosen, -⟩ := List.findIdx?_eq_some_iff_getElem.mp found
  have there : slot < values.length := by rwa [fitting.length]
  have typed : values[slot].type = .context := by
    have same : (values.map HostObject.type)[slot]? = contexts[slot]? := by rw [fitting.types]
    rw [List.getElem?_map, List.getElem?_eq_getElem there, List.getElem?_eq_getElem inside] at same
    rw [Option.some.inj same]
    exact of_decide_eq_true chosen
  rw [List.getElem?_eq_getElem there, fitting.computer _ (List.getElem_mem there) typed]

namespace MethodDecl

/-- A method has an adapter just if what it declares is in order. -/
theorem adapter?_isSome_iff (contexts : List HostType) (m : MethodDecl) :
    (m.adapter? contexts).isSome ↔ m.isPublic = true ∧ m.throws.isAllowed = true ∧
      (m.mainThread = true → .context ∈ contexts) ∧ ∀ p ∈ m.params, p.Passable contexts := by
  have routed : (m.route? contexts).isSome ↔ (m.mainThread = true → .context ∈ contexts) := by
    unfold route?
    cases m.mainThread <;> simp [List.findIdx?_isSome]
  have bound := Binder.ofParams_ok_iff contexts m.params 0
  unfold adapter?
  rw [← routed, ← bound]
  cases m.isPublic <;> cases m.throws.isAllowed <;>
    cases Binder.ofParams contexts 0 m.params <;> simp

end MethodDecl

/-- A method of the main thread is queued as a task, and runs when that does. -/
theorem apply_adapted {contexts : List HostType} {m : MethodDecl} {t : Trampoline}
    (adapted : m.adapter? contexts = some t.adapter) (object : HostObject)
    {values : List HostObject} (fitting : ContextValues contexts values) (args : Arguments) :
    t.apply object values args = if m.mainThread
      then Code.execute (Code.withoutSuspending cannotSuspend (t.direct object values args))
      else t.direct object values args := by
  obtain ⟨binders, route, -, routed, same⟩ := MethodDecl.adapter?_eq_some adapted
  have route_eq : t.redirect = route := congrArg Adapter.redirect same
  unfold MethodDecl.route? at routed
  unfold Trampoline.apply
  rw [route_eq]
  cases onMain : m.mainThread with
  | false =>
    rw [onMain] at routed
    cases routed
    rfl
  | true =>
    rw [onMain] at routed
    obtain ⟨slot, found, rfl⟩ := Option.map_eq_some_iff.mp routed
    simp only
    rw [fitting.computer_at found]
    rfl

theorem apply_eq {g : Generator} {owner : String} {m : MethodDecl} {t : Trampoline}
    (built : (g.build owner m).1 = some t) (object : HostObject) {values : List HostObject}
    (fitting : ContextValues g.contexts values) (args : Arguments) :
    t.apply object values args = if m.mainThread
      then Code.execute (Code.withoutSuspending cannotSuspend (t.direct object values args))
      else t.direct object values args := by
  rw [Generator.build_eq] at built
  obtain ⟨a, adapted, rfl⟩ := Option.map_eq_some_iff.mp built
  exact apply_adapted adapted object fitting args

/-- A method is built just if what it declares is in order: it is public, fails only in ways that
can cross to scripts, finds the computer among the context values if it runs on the main thread,
and every parameter is passable. A call of it, made at once or as a task of the main thread, then
goes one of two ways. Some argument is the first, in the order of the parameters, that does not fit
where it has to: the call fails and says what is wrong at the position that the argument has, and
the body is not run. Or the body is run on one bound argument for each parameter, each bound from
its own place in the argument list. -/
theorem call_binds (g : Generator) (owner : String) (m : MethodDecl)
    (short : m.params.length < UInt64.size) :
    ((g.build owner m).1.isSome ↔ m.isPublic = true ∧ m.throws.isAllowed = true ∧
      (m.mainThread = true → .context ∈ g.contexts) ∧ ∀ p ∈ m.params, p.Passable g.contexts) ∧
    ∀ t, (g.build owner m).1 = some t →
      ∀ (object : HostObject) (values : List HostObject) (args : Arguments),
        ContextValues g.contexts values →
        (t.apply object values args = if m.mainThread
          then Code.execute (Code.withoutSuspending cannotSuspend (t.direct object values args))
          else t.direct object values args) ∧
        ((∃ i p, Binder.FirstRefused args 0 m.params i p ∧
            t.direct object values args = .fail (.ofCause
              (p.complaint (ParamType.position m.params i + 1)
                (args.get (ParamType.position m.params i))))) ∨
          (Binder.AllFit args 0 m.params ∧
            ∃ bound, Binder.AllBound g.contexts object values args 0 m.params bound ∧
              t.direct object values args = m.body ⟨object, bound⟩)) := by
  refine ⟨?_, fun t built object values args fitting =>
    ⟨apply_eq built object fitting args, ?_⟩⟩
  · rw [Generator.build_eq, Option.isSome_map]
    exact m.adapter?_isSome_iff g.contexts
  · rw [Generator.build_eq] at built
    obtain ⟨a, adapted, rfl⟩ := Option.map_eq_some_iff.mp built
    obtain ⟨binders, route, made, -, rfl⟩ := MethodDecl.adapter?_eq_some adapted
    have all := Binder.bindAll_ofParams object args fitting.length m.params made (by omega)
    unfold Trampoline.direct Adapter.trampoline Code.bindRead
    simp only
    rcases all with ⟨i, p, first, failed⟩ | ⟨fit, bound, all, done⟩
    · refine .inl ⟨i, p, first, ?_⟩
      rw [failed, Nat.zero_add]
    · refine .inr ⟨fit, bound, all, ?_⟩
      rw [done]

/-- A method that has something of every kind before its last parameter. -/
def courier : MethodDecl :=
  (MethodDecl.plain ⟨500⟩ "deliver" .unit fun _ => Code.unit).withParams
    [.receiver, .context .context, .arguments, .optional .int, .string]

/-- The string is the second argument, and it is missing. -/
theorem call_binds_courier : ∃ t,
    ((Generator.new "lua" 1 [.context]).build "Courier" courier).1 = some t ∧
      t.direct .registry [.context] (.ofList [.bool true]) =
        .fail (.ofCause (.argumentType 2 "string" "nil")) := by
  obtain ⟨accepts, calls⟩ := call_binds (Generator.new "lua" 1 [.context]) "Courier" courier
    (by decide)
  have passable : ∀ p ∈ courier.params, p.Passable [.context] := by
    simp [courier, MethodDecl.withParams, ParamType.Passable, ParamType.isTyped]
  obtain ⟨t, built⟩ := Option.isSome_iff_exists.mp (accepts.mpr ⟨rfl, rfl, nofun, passable⟩)
  have fitting : ContextValues [.context] [.context] := ⟨rfl, by simp⟩
  obtain ⟨-, result⟩ := calls t built .registry [.context] (.ofList [.bool true]) fitting
  refine ⟨t, built, ?_⟩
  rcases result with ⟨i, p, first, failed⟩ | ⟨fit, -⟩
  · match i, first with
    | 0, first | 1, first | 2, first | 3, first =>
      cases first.here
      cases first.refuses.1
    | 4, first =>
      cases first.here
      exact failed
    | i + 5, first => cases first.here
  · exact (fit 4 .string rfl ⟨rfl, rfl⟩).elim

end DeviceBridge
