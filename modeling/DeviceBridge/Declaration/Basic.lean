import DeviceBridge.Declaration.Invocation

/-
  Declarations: which methods a class of host objects offers to scripts. A method has a primary name
  and further ones, typed parameters, a return conversion, and a body. Classes carry tags; a generic
  source offers static methods to every class that carries the tag it targets.
-/

namespace DeviceBridge

/-! ## Parameters -/

inductive ParamType where
  /-- The object that the method is called on. -/
  | receiver
  /-- One of the generator's context values. -/
  | context (type : HostType)
  /-- Every script argument that is left. -/
  | arguments
  | string
  | number
  | int
  | bool
  | table
  /-- Any value, nil included. -/
  | any
  | constant (choice : Choice)
  /-- Missing and mismatched arguments bind as absent. -/
  | optional (type : ParamType)
  /-- A type that cannot be passed from scripts. -/
  | other (name : String)
deriving Repr, DecidableEq, Inhabited

namespace ParamType

def display : ParamType → String
  | receiver => "receiver"
  | context type => type.name
  | arguments => "arguments"
  | string => "string"
  | number => "number"
  | int => "integer"
  | bool => "boolean"
  | table => "table"
  | any => "value"
  | constant choice => choice.name
  | optional type => "optional " ++ display type
  | other name => name

end ParamType

/-! ## Returns -/

/-- What a method returns, as the host's own types: the values that its body leaves are converted
to it. -/
inductive Returns where
  | unit
  | value
  | option
  | bool
  | int
  | int32
  | word32
  | size
  | number
  | string
  | sharedString
  | values
  /-- The outcome of the body as it is, so that the method may suspend. -/
  | outcome
deriving Repr, DecidableEq

inductive ReturnKind where
  | unit
  | value
  | values
  | outcome
deriving Repr, DecidableEq

namespace ReturnKind

def diagnostic : ReturnKind → String
  | unit => "Unit"
  | value => "Value"
  | values => "Values"
  | outcome => "MethodResult"

end ReturnKind

namespace Returns

def kind : Returns → ReturnKind
  | unit => .unit
  | values => .values
  | outcome => .outcome
  | _ => .value

/-- The values that reach the caller. Narrow integers wrap around. -/
def convert (returns : Returns) (vs : List Value) : List Value :=
  let first := (vs.head?).getD .nil
  let whole := (first.int?).getD 0
  match returns with
  | unit => []
  | value => [first]
  | option => [first]
  | bool => [.bool ((first.bool?).getD false)]
  | int => [.int whole]
  | int32 => [.int whole.toInt32.toInt64]
  | word32 => [.ofNat whole.toUInt64.toUInt32.toNat]
  | size => [.int whole]
  | number => [.float ((first.float?).getD 0.0)]
  | string => [.string ((first.string?).getD "")]
  | sharedString => [.string ((first.string?).getD "")]
  | values => vs
  | outcome => vs

/-- Run a body and convert what it leaves. A body that suspends leaves nothing. -/
def wrap (returns : Returns) (body : Code) : Code :=
  match returns with
  | outcome => body
  | _ => .attempt body fun
    | .done vs => .done (returns.convert vs)
    | .pending => .done (returns.convert [])
    | .raised e => .raise e

end Returns

/-! ## Methods -/

/-- What a method may fail with. Only method errors can cross to scripts. -/
inductive Throws where
  | nothing
  | methodError
  | other (name : String)
deriving Repr, DecidableEq

namespace Throws

def diagnostic : Throws → String
  | nothing => "Nothing"
  | methodError => "MethodError"
  | other name => "Other(" ++ Text.quoted name ++ ")"

end Throws

/-- The identity of a declared method. -/
structure MethodId where
  number : Nat
deriving Repr, DecidableEq

structure MethodDecl where
  id : MethodId
  name : String
  aliases : List String
  /-- Only flagged methods are offered. -/
  flagged : Bool
  isStatic : Bool
  isPublic : Bool
  params : List ParamType
  returns : Returns
  throws : Throws
  /-- The method must run on the main thread. -/
  mainThread : Bool
  script : Invocation → Code

namespace MethodDecl

/-- A flagged public method of an object, without parameters. -/
def plain (id : MethodId) (name : String) (returns : Returns) (script : Invocation → Code) :
    MethodDecl :=
  ⟨id, name, [], true, false, true, [], returns, .methodError, false, script⟩

/-- Every exported name, the primary one first. -/
def names (m : MethodDecl) : List String := m.name :: m.aliases

def body (m : MethodDecl) (inv : Invocation) : Code := m.returns.wrap (m.script inv)

/-- The method finishes without suspending, by what it declares. -/
def isSimple (m : MethodDecl) : Bool := m.returns.kind ≠ .outcome && !m.mainThread

def withParams (m : MethodDecl) (params : List ParamType) : MethodDecl := { m with params }

def onMainThread (m : MethodDecl) : MethodDecl := { m with mainThread := true }

def static (m : MethodDecl) : MethodDecl := { m with isStatic := true }

end MethodDecl

/-! ## Classes and generic sources -/

structure ClassDecl where
  /-- The type of the objects, by which the class is known. -/
  type : HostType
  name : String
  isPublic : Bool
  tags : List String
  methods : List MethodDecl

namespace ClassDecl

def satisfies (c : ClassDecl) (tag : String) : Bool := c.tags.contains tag

end ClassDecl

structure GenericSource where
  name : String
  /-- The tag of the classes that receive the methods. -/
  target : String
  methods : List MethodDecl

/-- Every registered source, in order of registration. Their number tells whether one came in. -/
abbrev GenericSources := List GenericSource

namespace GenericSources

/-- The generic methods that a class receives, each with the name of its source. -/
def methodsFor (sources : GenericSources) (c : ClassDecl) : List (String × MethodDecl) :=
  (sources.filter fun s => c.satisfies s.target).flatMap fun s => s.methods.map fun m => (s.name, m)

end GenericSources

end DeviceBridge
