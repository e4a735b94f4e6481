import DeviceBridge.Proofs.Generator.Marshalling
import Mathlib.Data.List.Forall2

/-
  What the body of a method reads. Binding is type-sound: whatever is bound for a parameter is of
  the kind that the parameter declares (`Made.typed`), and the accessor for that kind reads it
  (`Typed.reads`), so that no body is ever told that a parameter is bound as something else. With
  context values of the declared types it is only ever the arguments that cannot be bound
  (`Made.refused`). `Supplied` is what this comes to for a call.
-/

namespace DeviceBridge

/-! ## Kinds -/

/-- What is bound is of the kind that a parameter declares. -/
inductive ParamType.Typed (object : HostObject) (values : List HostObject) :
    ParamType → BoundArg → Prop where
  | receiver : Typed object values .receiver (.receiver object)
  | context {value : HostObject} (given : value ∈ values) :
      Typed object values (.context value.type) (.context value)
  | arguments (args : Arguments) : Typed object values .arguments (.arguments args)
  | string (s : String) : Typed object values .string (.string s)
  | number (f : Float) : Typed object values .number (.number f)
  | int (i : Int64) : Typed object values .int (.int i)
  | bool (b : Bool) : Typed object values .bool (.bool b)
  | table (entries : List (Key × Value)) : Typed object values .table (.table entries)
  | any (v : Value) : Typed object values .any (.any v)
  | constant {choice : Choice} {name : String} {n : Nat} (found : choice.ordinal? name = some n) :
      Typed object values (.constant choice) (.constant n)
  | absent {p : ParamType} (single : p.isTyped = true) : Typed object values (.optional p) .absent
  | present {p : ParamType} {b : BoundArg} (single : p.isTyped = true)
      (fits : Typed object values p b) : Typed object values (.optional p) b

/-- The host itself failed. -/
def Failure.IsHostFault (e : Failure) : Prop := ∃ text level, e = .raised ⟨.hostFault text, level⟩

namespace Invocation

/-- The accessors for objects of the host give an object at an index, each for what it is. -/
structure Gives (inv : Invocation) (i : Nat) (object : HostObject) : Prop where
  untyped : inv.object i = .ok object
  typed : inv.objectOf i object.type = .ok object
  access : ∀ id, object = .access id → inv.access i = .ok id
  device : ∀ type id, object = .device type id → inv.device i type = .ok id

/-- The accessor for a type of parameter answers at an index. -/
def Reads (values : List HostObject) (inv : Invocation) (i : Nat) : ParamType → Prop
  | .receiver => inv.Gives i inv.receiver
  | .context type => ∃ value ∈ values, value.type = type ∧ inv.Gives i value
  | .arguments => ∃ args, inv.arguments i = .ok args
  | .string => ∃ s, inv.string i = .ok s
  | .number => ∃ f, inv.number i = .ok f
  | .int => ∃ n, inv.int i = .ok n
  | .bool => ∃ b, inv.bool i = .ok b
  | .table => ∃ entries, inv.table i = .ok entries
  | .any => ∃ v, inv.any i = .ok v
  | .constant choice => ∃ name n, choice.ordinal? name = some n ∧ inv.constant i = .ok n
  | .optional .string => ∃ s, inv.string? i = .ok s
  | .optional .number => ∃ f, inv.number? i = .ok f
  | .optional .int => ∃ n, inv.int? i = .ok n
  | .optional .bool => ∃ b, inv.bool? i = .ok b
  | .optional .table => ∃ entries, inv.table? i = .ok entries
  | .optional .any => ∃ v, inv.any? i = .ok v
  | .optional (.constant choice) => ∃ found, inv.constant? i = .ok found ∧
      ∀ n ∈ found, ∃ name, choice.ordinal? name = some n
  | _ => False

variable {inv : Invocation} {i : Nat} {b : BoundArg}

theorem param_eq (here : inv.params[i]? = some b) : inv.param i = .ok b := by
  unfold param
  rw [here]

theorem read_eq {α : Type} (pick : BoundArg → Option α) {a : α} (here : inv.params[i]? = some b)
    (picked : pick b = some a) (wanted : String) : inv.read i wanted pick = .ok a := by
  unfold read
  rw [param_eq here]
  simp only
  rw [picked]

theorem read?_absent {α : Type} (pick : BoundArg → Option α)
    (here : inv.params[i]? = some .absent) (wanted : String) :
    inv.read? i wanted pick = .ok none := by
  unfold read?
  rw [param_eq here]

theorem read?_present {α : Type} (pick : BoundArg → Option α) {a : α}
    (here : inv.params[i]? = some b) (picked : pick b = some a) (there : b ≠ .absent)
    (wanted : String) : inv.read? i wanted pick = .ok (some a) := by
  unfold read?
  rw [param_eq here]
  cases b with
  | absent => exact absurd rfl there
  | _ =>
    simp only
    rw [picked]

theorem arguments_eq {args : Arguments} (here : inv.params[i]? = some (.arguments args)) :
    inv.arguments i = .ok args := by
  unfold arguments
  refine read_eq _ here ?_ _
  rfl

theorem gives {object : HostObject} (here : inv.params[i]? = some (.context object) ∨
    inv.params[i]? = some (.receiver object)) : inv.Gives i object := by
  have found : inv.object i = .ok object := by
    unfold Invocation.object
    rcases here with context | receiver
    · refine read_eq _ context ?_ _
      rfl
    · refine read_eq _ receiver ?_ _
      rfl
  refine ⟨found, ?_, ?_, ?_⟩
  · unfold objectOf
    rw [found]
    exact if_pos rfl
  · rintro id rfl
    unfold access
    rw [found]
  · rintro type id rfl
    unfold device
    rw [found]
    exact if_pos rfl

end Invocation

namespace ParamType.Typed

open Invocation (pickString pickNumber pickInt pickBool pickTable pickAny pickConstant)

variable {inv : Invocation} {values : List HostObject} {i : Nat} {p : ParamType} {b : BoundArg}

/-- A present argument is read as one that has to be there. -/
theorem reads_present (single : p.isTyped = true) (fits : p.Typed inv.receiver values b)
    (here : inv.params[i]? = some b) : inv.Reads values i (.optional p) := by
  cases fits with
  | string s => exact ⟨some s, Invocation.read?_present pickString here rfl nofun _⟩
  | number f => exact ⟨some f, Invocation.read?_present pickNumber here rfl nofun _⟩
  | int n => exact ⟨some n, Invocation.read?_present pickInt here rfl nofun _⟩
  | bool b => exact ⟨some b, Invocation.read?_present pickBool here rfl nofun _⟩
  | table entries => exact ⟨some entries, Invocation.read?_present pickTable here rfl nofun _⟩
  | any v => exact ⟨some v, Invocation.read?_present pickAny here rfl nofun _⟩
  | @constant choice name n found =>
    refine ⟨some n, Invocation.read?_present pickConstant here rfl nofun _, ?_⟩
    rintro _ ⟨⟩
    exact ⟨name, found⟩
  | receiver | context | arguments | absent | present => cases single

theorem reads_absent (single : p.isTyped = true) (here : inv.params[i]? = some .absent) :
    inv.Reads values i (.optional p) := by
  cases p with
  | string | number | int | bool | table | any => exact ⟨none, Invocation.read?_absent _ here _⟩
  | constant choice => exact ⟨none, Invocation.read?_absent _ here _, nofun⟩
  | receiver | context | arguments | optional | other => cases single

/-- What is bound of the declared kind is read by the accessor of that kind. -/
theorem reads (typed : p.Typed inv.receiver values b) (here : inv.params[i]? = some b) :
    inv.Reads values i p := by
  cases typed with
  | receiver => exact Invocation.gives (.inr here)
  | @context value given => exact ⟨value, given, rfl, Invocation.gives (.inl here)⟩
  | arguments args => exact ⟨args, Invocation.arguments_eq here⟩
  | string s => exact ⟨s, Invocation.read_eq pickString here rfl _⟩
  | number f => exact ⟨f, Invocation.read_eq pickNumber here rfl _⟩
  | int n => exact ⟨n, Invocation.read_eq pickInt here rfl _⟩
  | bool b => exact ⟨b, Invocation.read_eq pickBool here rfl _⟩
  | table entries => exact ⟨entries, Invocation.read_eq pickTable here rfl _⟩
  | any v => exact ⟨v, Invocation.read_eq pickAny here rfl _⟩
  | @constant choice name n found =>
    exact ⟨name, n, found, Invocation.read_eq pickConstant here rfl _⟩
  | absent single => exact reads_absent single here
  | present single fits => exact reads_present single fits here

end ParamType.Typed

/-! ## Conversions -/

section Conversions

variable {object : HostObject} {values : List HostObject} {args : Arguments} {k : Nat}
  {p : ParamType} {s : Scalar} {b : BoundArg} {e : Failure}

/-- A value that is turned into a bound argument by wrapping it. -/
theorem typed_of_map {α : Type} {read : Except Failure α} {wrap : α → BoundArg}
    (done : read.map wrap = .ok b) (each : ∀ a, p.Typed object values (wrap a)) :
    p.Typed object values b := by
  cases read with
  | error => cases done
  | ok a =>
    cases done
    exact each a

theorem Scalar.strict_typed (scalar : Scalar.ofParam? p = some s) (done : s.strict args k = .ok b) :
    p.Typed object values b := by
  cases p <;> cases scalar
  case string => exact typed_of_map done .string
  case number => exact typed_of_map done .number
  case int => exact typed_of_map done .int
  case bool => exact typed_of_map done .bool
  case table => exact typed_of_map done .table
  case any =>
    cases done
    exact .any _

theorem constant_typed {choice : Choice} (done : (args.constant k choice).map .constant = .ok b) :
    (ParamType.constant choice).Typed object values b := by
  unfold Arguments.constant at done
  split at done
  · split at done
    · next found =>
      cases done
      exact .constant found
    · cases done
  · cases done

theorem typed_of_takes {v : Value} (fits : p.takes v = some b) : p.Typed object values b := by
  unfold ParamType.takes at fits
  split at fits
  · cases fits
    exact .string _
  · cases fits
    exact .number _
  · cases fits
    exact .number _
  · cases fits
    exact .int _
  · obtain ⟨i, -, rfl⟩ := Option.map_eq_some_iff.mp fits
    exact .int i
  · cases fits
    exact .bool _
  · cases fits
    exact .table _
  · cases fits
    exact .any _
  · obtain ⟨n, found, rfl⟩ := Option.map_eq_some_iff.mp fits
    exact .constant found
  · cases fits

/-- A value that may be missing is bound as what it is taken as, or as absent. -/
theorem lenient_typed (single : p.isTyped = true) (v : Value) :
    (ParamType.optional p).Typed object values
      (if v.isNil then .absent else (p.takes v).getD .absent) := by
  split
  · exact .absent single
  · cases fits : p.takes v with
    | none => exact .absent single
    | some b => exact .present single (typed_of_takes fits)

end Conversions

/-! ## Refusals -/

section Refusals

variable {args : Arguments} {k : Nat} {s : Scalar} {e : Failure}

theorem Failure.argumentType_not_host (index : Nat) (expected actual : String) :
    ¬(Failure.argumentType index expected actual).IsHostFault := by
  unfold Failure.argumentType
  split <;> rintro ⟨text, level, same⟩ <;> cases same

theorem Failure.badArgument_not_host (index : Nat) (words : String) :
    ¬(Failure.badArgument index words).IsHostFault := by
  unfold Failure.badArgument
  split <;> rintro ⟨text, level, same⟩ <;> cases same

theorem error_of_map {α : Type} {read : Except Failure α} {wrap : α → BoundArg}
    (failed : read.map wrap = .error e) : read = .error e := by
  cases read with
  | error => exact congrArg Except.error (Except.error.inj failed)
  | ok => cases failed

theorem Arguments.string_not_host (failed : args.string k = .error e) : ¬e.IsHostFault := by
  unfold Arguments.string at failed
  split at failed <;> cases failed
  exact Failure.argumentType_not_host _ _ _

/-- An argument that does not fit is the fault of the script. -/
theorem Scalar.strict_not_host (failed : s.strict args k = .error e) : ¬e.IsHostFault := by
  cases s with
  | string => exact Arguments.string_not_host (error_of_map failed)
  | number =>
    have refused := error_of_map failed
    unfold Arguments.number at refused
    split at refused <;> cases refused
    exact Failure.argumentType_not_host _ _ _
  | int =>
    have refused := error_of_map failed
    unfold Arguments.int at refused
    split at refused
    · split at refused <;> cases refused
      exact Failure.badArgument_not_host _ _
    · cases refused
      exact Failure.argumentType_not_host _ _ _
  | bool =>
    have refused := error_of_map failed
    unfold Arguments.bool at refused
    split at refused <;> cases refused
    exact Failure.argumentType_not_host _ _ _
  | table =>
    have refused := error_of_map failed
    unfold Arguments.table at refused
    split at refused <;> cases refused
    exact Failure.argumentType_not_host _ _ _
  | any => cases failed

theorem Arguments.constant_not_host {choice : Choice} (failed : args.constant k choice = .error e) :
    ¬e.IsHostFault := by
  unfold Arguments.constant at failed
  split at failed
  · split at failed <;> cases failed
    exact Failure.badArgument_not_host _ _
  · next named =>
    cases failed
    exact Arguments.string_not_host named

end Refusals

/-! ## Binding -/

namespace Binder

variable {contexts : List HostType} {object : HostObject} {values : List HostObject}
  {args : Arguments} {k next : Nat} {p : ParamType} {binder : Binder} {b : BoundArg} {e : Failure}

/-- Context values of the declared types are there, each at its slot. -/
theorem context_given (fitting : ContextValues contexts values) {type : HostType} {slot : Nat}
    (declared : contexts.findIdx? (· = type) = some slot) :
    ∃ value, values[slot]? = some value ∧ value ∈ values ∧ value.type = type := by
  obtain ⟨inside, chosen, -⟩ := List.findIdx?_eq_some_iff_getElem.mp declared
  have there : slot < values.length := by rwa [fitting.length]
  refine ⟨values[slot], List.getElem?_eq_getElem there, List.getElem_mem there, ?_⟩
  have same : (values.map HostObject.type)[slot]? = contexts[slot]? := by rw [fitting.types]
  rw [List.getElem?_map, List.getElem?_eq_getElem there, List.getElem?_eq_getElem inside] at same
  rw [Option.some.inj same]
  exact of_decide_eq_true chosen

/-- Whatever is bound for a parameter is of the kind that the parameter declares. -/
theorem Made.typed (made : Made contexts k p binder next) (fitting : ContextValues contexts values)
    (done : binder.bind object values args = .ok b) : p.Typed object values b := by
  cases made with
  | receiver =>
    cases done
    exact .receiver
  | context declared =>
    obtain ⟨value, found, given, rfl⟩ := context_given fitting declared
    unfold bind at done
    simp only at done
    rw [found] at done
    cases done
    exact .context given
  | arguments => exact typed_of_map done .arguments
  | constant => exact constant_typed done
  | optionalConstant =>
    cases done
    rw [Choice.lenient_eq]
    exact lenient_typed rfl _
  | optional scalar =>
    cases done
    rw [Scalar.lenient_eq scalar]
    exact lenient_typed (isTyped_of_scalar scalar) _
  | strict scalar => exact Scalar.strict_typed scalar done

/-- With such context values it is an argument that cannot be bound, never the host that fails. -/
theorem Made.refused (made : Made contexts k p binder next)
    (fitting : ContextValues contexts values)
    (failed : binder.bind object values args = .error e) : ¬e.IsHostFault := by
  cases made with
  | receiver | optionalConstant | optional => cases failed
  | context declared =>
    obtain ⟨value, found, -⟩ := context_given fitting declared
    unfold bind at failed
    simp only at failed
    rw [found] at failed
    cases failed
  | arguments =>
    obtain ⟨rest, dropped, -⟩ := Arguments.drop_natCast args k
    unfold bind at failed
    simp only at failed
    rw [dropped] at failed
    cases failed
  | constant => exact Arguments.constant_not_host (error_of_map failed)
  | strict => exact Scalar.strict_not_host failed

/-- By induction on the parameters: what is bound is of the kinds that they declare, and what cannot
be bound is no fault of the host. -/
theorem bindAll_typed (fitting : ContextValues contexts values) (params : List ParamType) :
    ∀ {k : Nat} {binders : List Binder}, ofParams contexts k params = .ok binders →
      (∀ e, bindAll binders object values args = .error e → ¬e.IsHostFault) ∧
      ∀ bound, bindAll binders object values args = .ok bound →
        List.Forall₂ (ParamType.Typed object values) params bound := by
  induction params with
  | nil =>
    rintro k binders ⟨⟩
    refine ⟨fun e failed => by (cases failed), fun bound done => ?_⟩
    cases done
    exact .nil
  | cons p rest ih =>
    intro k binders found
    unfold ofParams at found
    split at found
    · cases found
    · next binder next first =>
      split at found
      · next others found_rest =>
        cases found
        have made := made first
        obtain ⟨refused, typed⟩ := ih found_rest
        unfold bindAll
        cases bound : binder.bind object values args with
        | error e =>
          refine ⟨fun _ failed => ?_, fun _ done => by (cases done)⟩
          cases failed
          exact made.refused fitting bound
        | ok b =>
          simp only
          cases all : bindAll others object values args with
          | error e =>
            refine ⟨fun _ failed => ?_, fun _ done => by (cases done)⟩
            cases failed
            exact refused e all
          | ok more =>
            refine ⟨fun _ failed => by (cases failed), fun _ done => ?_⟩
            cases done
            exact .cons (made.typed fitting bound) (typed more all)
      · cases found

end Binder

/-! ## Calls -/

/-- What is bound of the declared kinds is so at each index. -/
theorem typed_at {object : HostObject} {values : List HostObject} {params : List ParamType}
    {bound : List BoundArg} (kinds : List.Forall₂ (ParamType.Typed object values) params bound)
    {i : Nat} {p : ParamType} (there : params[i]? = some p) :
    ∃ b, bound[i]? = some b ∧ p.Typed object values b := by
  obtain ⟨inside, rfl⟩ := List.getElem?_eq_some_iff.mp there
  have within : i < bound.length := by rwa [← kinds.length_eq]
  exact ⟨bound[i], List.getElem?_eq_getElem within, kinds.get inside within⟩

/-- What a call of a method through its trampoline comes to. On the main thread or not, the body is
run on parameters that are all read, or the arguments are refused. -/
structure Supplied (m : MethodDecl) (t : Trampoline) (object : HostObject)
    (values : List HostObject) (args : Arguments) : Prop where
  routed : t.apply object values args = if m.mainThread
    then Code.execute (Code.withoutSuspending cannotSuspend (t.direct object values args))
    else t.direct object values args
  refused : ∀ e, Binder.bindAll t.binders object values args = .error e →
    t.direct object values args = .fail e ∧ ¬e.IsHostFault
  bound : ∀ params, Binder.bindAll t.binders object values args = .ok params →
    t.direct object values args = m.body ⟨object, params⟩ ∧ params.length = m.params.length ∧
    ∀ (i : Nat) (p : ParamType), m.params[i]? = some p →
      Invocation.Reads values ⟨object, params⟩ i p

/-- What was built for some context types is supplied by values of these types. -/
theorem supplied {contexts : List HostType} {m : MethodDecl} {t : Trampoline}
    (adapted : m.adapter? contexts = some t.adapter) {values : List HostObject}
    (fitting : ContextValues contexts values) (object : HostObject) (args : Arguments) :
    Supplied m t object values args := by
  obtain ⟨binders, _, made, -, same⟩ := MethodDecl.adapter?_eq_some adapted
  have binders_eq : t.binders = binders := congrArg Adapter.binders same
  have body_eq : t.body = m.body := congrArg Adapter.body same
  obtain ⟨refused, typed⟩ :=
    @Binder.bindAll_typed contexts object values args fitting m.params 0 binders made
  rw [← binders_eq] at refused typed
  refine ⟨apply_adapted adapted object fitting args, fun e failed => ⟨?_, refused e failed⟩,
    fun params done => ?_⟩
  · unfold Trampoline.direct
    rw [failed]
    rfl
  · have kinds := typed params done
    refine ⟨?_, kinds.length_eq.symm, fun i p there => ?_⟩
    · unfold Trampoline.direct
      rw [done, body_eq]
      rfl
    · obtain ⟨b, here, fits⟩ := typed_at kinds there
      exact ParamType.Typed.reads fits here

end DeviceBridge
