import DeviceBridge.Declaration.Basic

/-
  Trampolines: adapters that bind script arguments to the declared parameters of a method and run
  its body. The binders of a method are worked out once from its parameter list (`Binder.ofParams`);
  a receiver, a context value and the list of remaining arguments use up no argument position. A
  method of the main thread is not run by its caller: the call is queued as a task and the caller
  waits for it.
-/

namespace DeviceBridge

/-! ## Scalars -/

inductive Scalar where
  | string
  | number
  | int
  | bool
  | table
  | any
deriving Repr, DecidableEq

namespace Scalar

def ofParam? : ParamType → Option Scalar
  | .string => some string
  | .number => some number
  | .int => some int
  | .bool => some bool
  | .table => some table
  | .any => some any
  | _ => none

/-- Read the argument or fail. -/
def strict (s : Scalar) (args : Arguments) (index : Nat) : Except Failure BoundArg :=
  match s with
  | string => (args.string index).map .string
  | number => (args.number index).map .number
  | int => (args.int index).map .int
  | bool => (args.bool index).map .bool
  | table => (args.table index).map .table
  | any => .ok (.any (args.get index))

/-- Read a value if it fits. -/
def lenient (s : Scalar) (v : Value) : BoundArg :=
  if v.isNil then .absent
  else match s with
    | string => (v.string?.map BoundArg.string).getD .absent
    | number => (v.float?.map BoundArg.number).getD .absent
    | int => (v.int?.map BoundArg.int).getD .absent
    | bool => (v.bool?.map BoundArg.bool).getD .absent
    | table => (v.table?.map BoundArg.table).getD .absent
    | any => .any v

end Scalar

/-! ## Binders -/

/-- How one parameter comes from a call. -/
inductive Binder where
  | receiver
  | context (slot : Nat)
  /-- The arguments from a position on. -/
  | rest (start : Nat)
  | strict (index : Nat) (scalar : Scalar)
  | constant (index : Nat) (choice : Choice)
  | optional (index : Nat) (scalar : Scalar)
  | optionalConstant (index : Nat) (choice : Choice)
deriving Repr, DecidableEq

namespace Binder

def bind (b : Binder) (object : HostObject) (contexts : List HostObject) (args : Arguments) :
    Except Failure BoundArg :=
  match b with
  | receiver => .ok (.receiver object)
  | context slot =>
    match contexts[slot]? with
    | some object => .ok (.context object)
    | none => .error (Invocation.fault ("missing context value " ++ toString slot))
  | rest start => (args.drop start).map .arguments
  | strict index scalar => scalar.strict args index
  | constant index choice => (args.constant index choice).map .constant
  | optional index scalar => .ok (scalar.lenient (args.get index))
  | optionalConstant index choice =>
    .ok ((((args.get index).string?.bind choice.ordinal?).map BoundArg.constant).getD .absent)

/-- Bind every parameter; the first that fails is the failure of the call. -/
def bindAll (binders : List Binder) (object : HostObject) (contexts : List HostObject)
    (args : Arguments) : Except Failure (List BoundArg) :=
  match binders with
  | [] => .ok []
  | b :: more =>
    match b.bind object contexts args with
    | .error e => .error e
    | .ok bound =>
      match bindAll more object contexts args with
      | .error e => .error e
      | .ok others => .ok (bound :: others)

/-- The binder of one parameter at an argument position, and the next position. -/
def ofParam (contexts : List HostType) (index : Nat) (param : ParamType) : Option (Binder × Nat) :=
  match param with
  | .receiver => some (receiver, index)
  | .context type => (contexts.findIdx? (· = type)).map fun slot => (context slot, index)
  | .arguments => some (rest index, index)
  | .constant choice => some (constant index choice, index + 1)
  | .optional (.constant choice) => some (optionalConstant index choice, index + 1)
  | .optional inner => (Scalar.ofParam? inner).map fun s => (optional index s, index + 1)
  | other => (Scalar.ofParam? other).map fun s => (strict index s, index + 1)

/-- The binders of a parameter list, or the first parameter that has none. -/
def ofParams (contexts : List HostType) (index : Nat) :
    List ParamType → Except ParamType (List Binder)
  | [] => .ok []
  | param :: more =>
    match ofParam contexts index param with
    | none => .error param
    | some (binder, next) =>
      match ofParams contexts next more with
      | .ok binders => .ok (binder :: binders)
      | .error e => .error e

end Binder

/-! ## Trampolines -/

structure Trampoline where
  method : MethodId
  /-- The primary name of the method, and the class or source that it was first built for. -/
  name : String
  owner : String
  /-- Tells apart what one generator built, and the generators. -/
  serial : Nat
  binders : List Binder
  body : Invocation → Code
  /-- For a method of the main thread, where the context of the computer stands among the context
  values. -/
  redirect : Option Nat

def cannotSuspend : String := "Cannot suspend from a main thread method"

namespace Trampoline

/-- Bind and run the body. -/
def direct (t : Trampoline) (object : HostObject) (contexts : List HostObject) (args : Arguments) :
    Code :=
  Code.bindRead (Binder.bindAll t.binders object contexts args) fun params =>
    t.body ⟨object, params⟩

/-- Invoke on an object with the generator's context values. -/
def apply (t : Trampoline) (object : HostObject) (contexts : List HostObject) (args : Arguments) :
    Code :=
  match t.redirect with
  | none => t.direct object contexts args
  | some slot =>
    match contexts[slot]? with
    | some .context =>
      Code.execute (Code.withoutSuspending cannotSuspend (t.direct object contexts args))
    | _ => .fail (Invocation.fault "no lua context")

def diagnostic (t : Trampoline) : String := "Trampoline(" ++ t.owner ++ "." ++ t.name ++ ")"

end Trampoline

end DeviceBridge
