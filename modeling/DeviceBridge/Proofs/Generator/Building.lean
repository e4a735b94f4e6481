import DeviceBridge.Generator.Basic

/-
  What is built of a method, apart from who asked for it. An adapter says how a call is bound and
  what it runs; it comes from the declaration and the context types alone (`MethodDecl.adapter?`).
  `build_eq`: a generator builds a trampoline around just that adapter, with the owner and the
  serial of the moment on it.
-/

namespace DeviceBridge

/-! ## Adapters -/

/-- A trampoline without its owner and its serial. -/
structure Adapter where
  method : MethodId
  name : String
  binders : List Binder
  body : Invocation → Code
  redirect : Option Nat

def Trampoline.adapter (t : Trampoline) : Adapter :=
  ⟨t.method, t.name, t.binders, t.body, t.redirect⟩

def Adapter.trampoline (a : Adapter) (owner : String) (serial : Nat) : Trampoline :=
  ⟨a.method, a.name, owner, serial, a.binders, a.body, a.redirect⟩

/-- The method fails only in ways that can cross to scripts. -/
def Throws.isAllowed : Throws → Bool
  | other _ => false
  | _ => true

namespace MethodDecl

/-- Whether calls go straight to the body: none if so, and otherwise where the context of the
computer stands among the context values. Nothing if there is none where one is needed. -/
def route? (contexts : List HostType) (m : MethodDecl) : Option (Option Nat) :=
  if m.mainThread then (contexts.findIdx? (· = .context)).map some else some none

/-- The adapter of a method for some context types, if it can be exposed. -/
def adapter? (contexts : List HostType) (m : MethodDecl) : Option Adapter :=
  if m.isPublic && m.throws.isAllowed then
    match Binder.ofParams contexts 0 m.params with
    | .error _ => none
    | .ok binders => (m.route? contexts).map fun route => ⟨m.id, m.name, binders, m.body, route⟩
  else none

theorem adapter?_eq_some {contexts : List HostType} {m : MethodDecl} {a : Adapter}
    (found : m.adapter? contexts = some a) :
    ∃ binders route, Binder.ofParams contexts 0 m.params = .ok binders ∧
      m.route? contexts = some route ∧ a = ⟨m.id, m.name, binders, m.body, route⟩ := by
  unfold adapter? at found
  split at found
  · split at found
    · cases found
    · next binders bound =>
      obtain ⟨route, routed, rfl⟩ := Option.map_eq_some_iff.mp found
      exact ⟨binders, route, bound, routed, rfl⟩
  · cases found

end MethodDecl

namespace Generator

theorem build_eq (g : Generator) (owner : String) (m : MethodDecl) :
    (g.build owner m).1 =
      (m.adapter? g.contexts).map fun a => a.trampoline owner g.nextSerial := by
  unfold build MethodDecl.adapter? MethodDecl.route? contextSlot
  cases m.isPublic with
  | false => rfl
  | true =>
    cases m.throws with
    | other name => rfl
    | nothing | methodError =>
      simp only [Bool.not_true, Bool.false_eq_true, if_false, Throws.isAllowed, Bool.and_self,
        if_true]
      cases Binder.ofParams g.contexts 0 m.params with
      | error type => rfl
      | ok binders =>
        cases m.mainThread with
        | false => rfl
        | true =>
          simp only [if_true]
          cases g.contexts.findIdx? (· = .context) <;> rfl

end Generator

end DeviceBridge
