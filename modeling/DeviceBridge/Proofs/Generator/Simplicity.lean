import DeviceBridge.Proofs.Generator.Caching
import DeviceBridge.Proofs.Host.Trace
import DeviceBridge.Script.Call

/-
  Simple methods finish at once. The flag is worked out from a declaration, and the trampoline
  beside it may have been built long before, for another class or under another name. Still both
  come from one declaration (`NamedMethod.Stems`), whatever was looked up before (`lookUp_stems`). A
  method that is declared to return values and not to run on the main thread is called directly, and
  its conversion leaves no wait (`Returns.run_wrap`). `simple_sound`: what is marked as simple never
  suspends and is never redirected.
-/

namespace DeviceBridge

/-! ## Conversions -/

namespace Returns

/-- What reaches the caller of what a body came to. A wait is given up. -/
def converted (returns : Returns) : Outcome → Outcome
  | .done vs => .done (returns.convert vs)
  | .pending .. => .done (returns.convert [])
  | .failed failure => .failed failure

theorem converted_ends (returns : Returns) (outcome : Outcome) (yielded : List Value)
    (adjust : UInt32) (next : Resumption) :
    returns.converted outcome ≠ .pending yielded adjust next := by
  cases outcome <;> nofun

section

variable {returns : Returns} (plain : returns.kind ≠ .outcome)
include plain

theorem wrap_eq (body : Code) : returns.wrap body = .attempt body fun
    | .done vs => .done (returns.convert vs)
    | .pending => .done (returns.convert [])
    | .raised e => Code.raise e := by
  cases returns with
  | outcome => exact absurd rfl plain
  | _ => rfl

theorem exec_wrap (nested : Nested) (body : Code) (h : Host) :
    (returns.wrap body).exec nested h =
      (returns.converted (body.exec nested h).1, (body.exec nested h).2) := by
  rw [wrap_eq plain, Code.exec]
  cases body.exec nested h with
  | mk outcome h₁ =>
    cases outcome with
    | done vs => rfl
    | pending yielded adjust next => rfl
    | failed failure => cases failure <;> rfl

theorem run_wrap (depth : Nat) (body : Code) (h : Host) : (returns.wrap body).run depth h =
    (returns.converted (body.run depth h).1, (body.run depth h).2) := by
  cases depth <;> exact exec_wrap plain _ body h

/-- The conversion changes nothing but what the body changes. -/
theorem changes_wrap (depth : Nat) (body : Code) (h : Host) :
    Program.changes depth (returns.wrap body) h = Program.changes depth body h := by
  have same (nested : Nested) (traced : NestedChanges) :
      (returns.wrap body).changes nested traced h = body.changes nested traced h := by
    rw [wrap_eq plain, Code.changes]
    cases (body.exec nested h).1 with
    | done vs => exact List.append_nil _
    | pending yielded adjust next => exact List.append_nil _
    | failed failure => cases failure <;> exact List.append_nil _
  cases depth <;> exact same _ _

end

end Returns

/-! ## Calls without a wait -/

/-- A call of the trampoline is a direct call of the method: it comes to an end, and changes what
the method's own script does with the arguments and nothing besides, so no task is queued to
redirect it; and an engine that makes the call is never left with a frame. -/
structure Trampoline.Immediate (t : Trampoline) (m : MethodDecl) : Prop where
  direct (object : HostObject) (values : List HostObject) (args : Arguments) :
    t.apply object values args = t.direct object values args
  ends (object : HostObject) (values : List HostObject) (args : Arguments) (depth : Nat) (h : Host)
    (yielded : List Value) (adjust : UInt32) (next : Resumption) :
    ((t.apply object values args).run depth h).1 ≠ .pending yielded adjust next
  changes (object : HostObject) (values : List HostObject) (args : Arguments) (depth : Nat)
    (h : Host) : Program.changes depth (t.apply object values args) h =
      match Binder.bindAll t.binders object values args with
      | .error _ => []
      | .ok params => Program.changes depth (m.script ⟨object, params⟩) h
  returns (object : HostObject) (values : List HostObject) (args : Arguments) (depth : Nat)
    (h : Host) (logs : Bool) (step : Step) :
    ((⟨object, values, t, logs⟩ : BoundMethod).invoke depth args h).1 = .ok (.ok step) →
      step.isYield = false

/-- What comes to an end leaves no frame. -/
theorem settle_returns {label : Label} {logs : Bool} {inherited : UInt32} {outcome : Outcome}
    {h : Host} {step : Step}
    (ends : ∀ yielded adjust next, outcome ≠ .pending yielded adjust next)
    (settled : (settle label logs inherited (outcome, h)).1 = .ok (.ok step)) :
    step.isYield = false := by
  unfold settle at settled
  split at settled
  · cases settled
    rfl
  · next came =>
    cases came
    exact absurd rfl (ends _ _ _)
  · split at settled <;> cases settled
  · cases settled
  · cases settled

namespace MethodDecl

/-- What is built of a method that is declared simple calls it directly. -/
theorem immediate {contexts : List HostType} {m : MethodDecl} {t : Trampoline}
    (adapted : m.adapter? contexts = some t.adapter) (simple : m.isSimple = true) :
    t.Immediate m := by
  obtain ⟨plain, caller⟩ := Bool.and_eq_true_iff.mp simple
  have plain : m.returns.kind ≠ .outcome := of_decide_eq_true plain
  have caller : m.mainThread = false := by simpa using caller
  obtain ⟨binders, route, -, routed, same⟩ := adapter?_eq_some adapted
  have route_none : route = none := by
    unfold route? at routed
    rw [caller] at routed
    exact (Option.some.inj routed).symm
  have redirect : t.redirect = none := (congrArg Adapter.redirect same).trans route_none
  have body : t.body = m.body := congrArg Adapter.body same
  have direct (object : HostObject) (given : List HostObject) (args : Arguments) :
      t.apply object given args = t.direct object given args := by
    unfold Trampoline.apply
    rw [redirect]
  have ends (object : HostObject) (given : List HostObject) (args : Arguments) (depth : Nat)
      (h : Host) (yielded : List Value) (adjust : UInt32) (next : Resumption) :
      ((t.apply object given args).run depth h).1 ≠ .pending yielded adjust next := by
    rw [direct]
    unfold Trampoline.direct Code.bindRead
    rw [body]
    cases Binder.bindAll t.binders object given args with
    | error failure => cases depth <;> nofun
    | ok params =>
      show ((m.returns.wrap (m.script ⟨object, params⟩)).run depth h).1 ≠ _
      rw [Returns.run_wrap plain]
      exact m.returns.converted_ends _ yielded adjust next
  refine ⟨direct, ends, fun object given args depth h => ?_,
    fun object given args depth h logs step => ?_⟩
  · rw [direct]
    unfold Trampoline.direct Code.bindRead
    rw [body]
    cases Binder.bindAll t.binders object given args with
    | error failure => cases depth <;> rfl
    | ok params => exact Returns.changes_wrap plain depth _ h
  · exact settle_returns (ends object given args depth h)

end MethodDecl

/-! ## Lookups -/

/-- An exported name and what is with it come from one declaration: the name is one of its names,
the flag is what it declares, and the trampoline is built of it. -/
def NamedMethod.Stems (contexts : List HostType) (m : MethodDecl) (n : NamedMethod) : Prop :=
  n.name ∈ m.names ∧ n.simple = m.isSimple ∧ m.adapter? contexts = some n.method.adapter

theorem NamedMethod.Stems.immediate {contexts : List HostType} {m : MethodDecl} {n : NamedMethod}
    (stems : n.Stems contexts m) (simple : n.simple = true) : n.method.Immediate m :=
  m.immediate stems.2.2 (stems.2.1.symm.trans simple)

namespace Generator

/-- Every exported name comes from a known declaration. -/
def AllStem (contexts : List HostType) (known : MethodDecl → Prop) (methods : List NamedMethod) :
    Prop :=
  ∀ n ∈ methods, ∃ m, known m ∧ n.Stems contexts m

variable {contexts : List HostType} {tag : Nat} {known : MethodDecl → Prop} {g : Generator}

/-- What the table of methods says of known declarations stems from them. -/
theorem Listed.stem {offered : List MethodDecl} {methods : List NamedMethod}
    (listed : Listed g offered methods) (sound : Sound contexts tag known g)
    (all : ∀ m ∈ offered, known m) : AllStem contexts known methods := by
  intro n member
  rw [listed.names] at member
  obtain ⟨m, offered, named⟩ := List.mem_flatMap.mp member
  obtain ⟨t, tried⟩ := Option.isSome_iff_exists.mp (listed.tried m offered)
  have adapted := sound.adapted m t (all m offered) tried
  rw [kept_of_cached tried] at named
  cases t with
  | none => cases named
  | some t =>
    obtain ⟨name, among, rfl⟩ := List.mem_map.mp named
    exact ⟨m, all m offered, among, rfl, adapted.symm⟩

/-- The generator at work: its table is right, and the method lists that it keeps stem from known
declarations, whichever class they were built for. -/
structure Stemming (contexts : List HostType) (tag : Nat) (known : MethodDecl → Prop)
    (g : Generator) : Prop where
  sound : Sound contexts tag known g
  lists : Entries.All (fun kept => AllStem contexts known kept.methods) g.classes

theorem Stemming.trampoline (stemming : Stemming contexts tag known g) (numbered : Numbered known)
    (owner : String) {m : MethodDecl} (here : known m) :
    Stemming contexts tag known (g.trampoline owner m).generator :=
  ⟨stemming.sound.trampoline numbered owner here,
    (g.trampoline_classes owner m).symm ▸ stemming.lists⟩

theorem Stemming.methodsOf (stemming : Stemming contexts tag known g) (numbered : Numbered known)
    {sources : GenericSources} {c : ClassDecl} (all : ∀ m ∈ c.offered sources, known m) :
    AllStem contexts known (g.methodsOf sources c).result ∧
      Stemming contexts tag known (g.methodsOf sources c).generator := by
  unfold Generator.methodsOf
  cases recent : g.current? sources c with
  | some methods =>
    refine ⟨?_, stemming⟩
    unfold current? at recent
    split at recent
    · next kept found =>
      split at recent
      · cases recent
        exact stemming.lists _ kept found
      · cases recent
    · cases recent
  | none =>
    have built := collect_listed stemming.sound numbered (candidates sources c)
      (by rw [candidates_method?]; exact all)
    rw [candidates_method?] at built
    obtain ⟨sound, -, classes, listed⟩ := built
    have stem := listed.stem sound all
    refine ⟨stem, sound.setClasses _, Entries.All.put ?_ stem⟩
    rw [classes]
    exact stemming.lists

/-- Every method list that is found stems from the declarations that are mentioned. By induction on
the lookups. -/
theorem lookUp_stems (numbered : Numbered known) (lookups : List Lookup) :
    ∀ {g : Generator} {sources : GenericSources}, Stemming contexts tag known g →
      (∀ m, Mentioned sources lookups m → known m) →
      ∀ sources' c found, Finding.methods sources' c found ∈ g.lookUp sources lookups →
        AllStem contexts known found := by
  induction lookups with
  | nil => exact fun _ _ _ _ _ member => absurd member List.not_mem_nil
  | cons lookup rest ih =>
    intro g sources stemming mentioned sources' c found member
    have later : ∀ m, Mentioned sources rest m → known m :=
      fun m coming => mentioned m (coming.later lookup)
    cases lookup with
    | register source =>
      exact ih stemming (fun m coming => mentioned m coming.registered) sources' c found member
    | methods first =>
      have stemmed := stemming.methodsOf numbered fun m member => mentioned m (.offered member)
      rcases List.mem_cons.mp member with here | behind
      · cases here
        exact stemmed.1
      · exact ih stemmed.2 later sources' c found behind
    | trampoline owner m =>
      have behind := (List.mem_cons.mp member).resolve_left nofun
      exact ih (stemming.trampoline numbered owner (mentioned m (.asked owner))) later sources' c
        found behind

/-- The flag of a method can be relied on. Whatever was looked up before and in whatever order, an
exported name that is marked as simple stands for a method of that name, its primary one or another,
and no call of its trampoline suspends or is redirected to the main thread, whatever object, context
values and arguments it is given, and whichever class or source it was first built for. -/
theorem simple_sound (name : String) (tag : Nat) (contexts : List HostType)
    (sources : GenericSources) (lookups : List Lookup)
    (numbered : Numbered (Mentioned sources lookups)) {sources' : GenericSources} {c : ClassDecl}
    {found : List NamedMethod}
    (answered : .methods sources' c found ∈
      (Generator.new name tag contexts).lookUp sources lookups)
    {n : NamedMethod} (member : n ∈ found) (simple : n.simple = true) :
    ∃ m, Mentioned sources lookups m ∧ n.name ∈ m.names ∧ n.method.Immediate m := by
  have stemming : Stemming contexts tag (Mentioned sources lookups)
      (Generator.new name tag contexts) := ⟨.new name, .nil⟩
  obtain ⟨m, known, stems⟩ := lookUp_stems numbered lookups stemming (fun m mentioned => mentioned)
    sources' c found answered n member
  exact ⟨m, known, stems.1, stems.immediate simple⟩

/-- A method with two names, which two classes share. Its script would wait for an event, but what
it returns is a number. -/
def toneMethod : MethodDecl :=
  { (MethodDecl.plain ⟨610⟩ "tone" .int fun _ => Code.pullEvent none fun _ => .done []) with
    aliases := ["beep"] }

def radio : ClassDecl := ClassDecl.plain (.named "Radio") "Radio" [toneMethod]

def siren : ClassDecl := ClassDecl.plain (.named "Siren") "Siren" [toneMethod]

/-- What the second class exports when the first one was looked up before. -/
def sirenMethods : List NamedMethod :=
  (((Generator.new "lua" 1 [.context]).methodsOf [] radio).generator.methodsOf [] siren).result

/-- The second class gives out the trampoline that was built for the first one, under the further
name, and its calls end. -/
theorem simple_sound_siren : ∃ n, sirenMethods[1]? = some n ∧ n.name = "beep" ∧
    n.method.owner = "Radio" ∧ n.simple = true ∧ n.method.Immediate toneMethod := by
  have only {m : MethodDecl} (mentioned : Mentioned [] [.methods radio, .methods siren] m) :
      m = toneMethod := by
    rcases mentioned with ⟨s, registered, -⟩ | ⟨lookup, member, declared⟩
    · cases registered
    · simp only [List.mem_cons, List.not_mem_nil, or_false] at member
      rcases member with rfl | rfl <;> exact List.mem_singleton.mp declared
  have numbered : Numbered (Mentioned [] [.methods radio, .methods siren]) := by
    intro m m' first second _
    rw [only first, only second]
  have answered : .methods [] siren sirenMethods ∈
      (Generator.new "lua" 1 [.context]).lookUp [] [.methods radio, .methods siren] :=
    .tail _ (.head _)
  obtain ⟨n, second, named, owner, simple⟩ : ∃ n, sirenMethods[1]? = some n ∧ n.name = "beep" ∧
      n.method.owner = "Radio" ∧ n.simple = true := ⟨_, rfl, rfl, rfl, rfl⟩
  obtain ⟨m, mentioned, -, immediate⟩ := simple_sound "lua" 1 [.context] [] _ numbered answered
    (List.mem_of_getElem? second) simple
  exact ⟨n, second, named, owner, simple, only mentioned ▸ immediate⟩

end Generator

end DeviceBridge
