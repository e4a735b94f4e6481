import DeviceBridge.Generator.Trampoline
import DeviceBridge.LogLevel

/-
  Generators turn declared methods into trampolines, for one list of context types. Every method is
  built at most once, failures included, and the method list of a class is kept until another
  generic source is registered. What goes wrong in a declaration is logged, and the method is left
  out.
-/

namespace DeviceBridge

/-- An exported method name. -/
structure NamedMethod where
  name : String
  method : Trampoline
  /-- Finishes without suspending. -/
  simple : Bool

/-- The method list of a class, as of a number of registered sources. -/
structure CachedClass where
  generation : Nat
  methods : List NamedMethod

structure Generator where
  name : String
  /-- Tells this generator from others. -/
  tag : Nat
  contexts : List HostType
  methods : List (MethodId × Option Trampoline)
  classes : List (HostType × CachedClass)

/-- A result with the lines logged on the way to it and the generator afterwards. -/
structure Generated (α : Type) where
  result : α
  log : List LogLine
  generator : Generator

namespace Generator

def new (name : String) (tag : Nat) (contexts : List HostType) : Generator :=
  ⟨name, tag, contexts, [], []⟩

/-! ## Building one method -/

/-- Two trampolines that were built at once by one generator. -/
def sameTrampoline (t u : Trampoline) : Bool := t.serial == u.serial

/-- The serial of the next trampoline: the generator's tag and the number of methods tried. -/
def nextSerial (g : Generator) : Nat := g.tag * UInt32.size + g.methods.length

def contextSlot (g : Generator) (type : HostType) : Option Nat := g.contexts.findIdx? (· = type)

/-- Build a method, or say why it cannot be exposed. -/
def build (g : Generator) (owner : String) (m : MethodDecl) : Option Trampoline × List LogLine :=
  let label := owner ++ "." ++ m.name
  if !m.isPublic then (none, [⟨.error, "Lua Method " ++ label ++ " should be a public method"⟩])
  else match m.throws with
    | .other other =>
      (none, [⟨.error,
        "Lua Method " ++ label ++ " cannot throw " ++ other ++ ", only MethodError"⟩])
    | _ =>
      let started : LogLine := ⟨.debug, "Generating method wrapper for " ++ label⟩
      match Binder.ofParams g.contexts 0 m.params with
      | .error type =>
        (none, [started, ⟨.error, "Cannot generate lua method " ++ label
          ++ ": unknown parameter type " ++ type.display⟩])
      | .ok binders =>
        if m.mainThread then
          match g.contextSlot .context with
          | some slot =>
            (some ⟨m.id, m.name, owner, g.nextSerial, binders, m.body, some slot⟩, [started])
          | none =>
            (none, [started, ⟨.error, "Cannot generate lua method " ++ label
              ++ ": main thread methods need a lua context"⟩])
        else (some ⟨m.id, m.name, owner, g.nextSerial, binders, m.body, none⟩, [started])

/-- What is kept of a method, if it was tried before. -/
def cached? (g : Generator) (id : MethodId) : Option (Option Trampoline) :=
  Entries.get? id g.methods

/-- The trampoline of a method, built on first use. -/
def trampoline (g : Generator) (owner : String) (m : MethodDecl) : Generated (Option Trampoline) :=
  match g.cached? m.id with
  | some t => ⟨t, [], g⟩
  | none =>
    let (t, log) := g.build owner m
    ⟨t, log, { g with methods := Entries.put m.id t g.methods }⟩

/-! ## The methods of a class -/

/-- A declared method as it is found: to be exposed, or not and why. -/
inductive Candidate where
  | method (owner : String) (m : MethodDecl)
  | refused (line : LogLine)

/-- A method that a class declares itself. -/
def ownCandidate (c : ClassDecl) (m : MethodDecl) : Candidate :=
  let label := c.name ++ "." ++ m.name
  if m.isStatic then .refused ⟨.warn, "Lua Method " ++ label ++ " should be an instance method"⟩
  else if !c.isPublic then
    .refused ⟨.error, "Lua Method " ++ label ++ " should be a public method on a public class"⟩
  else .method c.name m

/-- A method that comes from a generic source. -/
def genericCandidate (source : String) (m : MethodDecl) : Candidate :=
  let label := source ++ "." ++ m.name
  if !m.isStatic then
    .refused ⟨.error, "Generic Lua Method " ++ label ++ " should be a static method"⟩
  else if m.params.head? ≠ some .receiver then
    .refused ⟨.error, "Generic Lua Method " ++ label
      ++ " should take the receiver as its first parameter"⟩
  else .method source m

/-- The flagged methods of a class in declaration order, then the generic ones it receives. -/
def candidates (sources : GenericSources) (c : ClassDecl) : List Candidate :=
  (c.methods.filter (·.flagged)).map (ownCandidate c)
    ++ ((sources.methodsFor c).filter (·.2.flagged)).map fun (source, m) =>
      genericCandidate source m

/-- Every name of a method, if it could be built. -/
def named (m : MethodDecl) : Option Trampoline → List NamedMethod
  | none => []
  | some t => m.names.map fun name => ⟨name, t, m.isSimple⟩

def collect (g : Generator) : List Candidate → Generated (List NamedMethod)
  | [] => ⟨[], [], g⟩
  | .refused line :: rest =>
    let others := collect g rest
    ⟨others.result, line :: others.log, others.generator⟩
  | .method owner m :: rest =>
    let first := g.trampoline owner m
    let others := collect first.generator rest
    ⟨named m first.result ++ others.result, first.log ++ others.log, others.generator⟩

/-- The method list that is kept for a class, if no source came in since. -/
def current? (g : Generator) (sources : GenericSources) (c : ClassDecl) :
    Option (List NamedMethod) :=
  match Entries.get? c.type g.classes with
  | some kept => if kept.generation = sources.length then some kept.methods else none
  | none => none

/-- Every method that a class exposes. -/
def methodsOf (g : Generator) (sources : GenericSources) (c : ClassDecl) :
    Generated (List NamedMethod) :=
  match g.current? sources c with
  | some methods => ⟨methods, [], g⟩
  | none =>
    let built := g.collect (candidates sources c)
    ⟨built.result, built.log, { built.generator with
      classes := Entries.put c.type ⟨sources.length, built.result⟩ built.generator.classes }⟩

def diagnostic (g : Generator) : String :=
  Text.record "Generator"
    [("name", Text.quoted g.name), ("contexts", Text.bracketed (g.contexts.map HostType.name)),
      ("cached_methods", toString g.methods.length), ("cached_classes", toString g.classes.length)]

end Generator

end DeviceBridge
