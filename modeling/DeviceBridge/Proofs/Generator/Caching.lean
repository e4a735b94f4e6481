import DeviceBridge.Proofs.Generator.Building

/-
  The two caches of a generator against a build without any. `ClassDecl.exports` is the reference:
  what a class exports for the generic sources of the moment, worked out from the declarations
  alone. `Generator.lookUp` is the generator asked again and again, with sources that are registered
  in between. `Generator.caching_transparent`: every answer is the reference, and there is one
  verdict on each method, a trampoline or nothing, that all answers share.

  The table of methods only grows (`Grows`), so what was said of a method stays so; a method list
  that was kept is right for the sources that there were then (`Listed`, `Lists`).
-/

namespace DeviceBridge

/-! ## The uncached build -/

/-- An exported name with what it stands for, apart from who asked for it first. -/
structure Export where
  name : String
  adapter : Adapter
  simple : Bool

def NamedMethod.exported (n : NamedMethod) : Export := ⟨n.name, n.method.adapter, n.simple⟩

namespace MethodDecl

/-- A class can offer the method as its own. -/
def isOwn (m : MethodDecl) : Bool := m.flagged && !m.isStatic

/-- A generic source can offer the method. -/
def isGeneric (m : MethodDecl) : Bool :=
  m.flagged && m.isStatic && m.params.head? = some .receiver

/-- Every name of a method; none if it cannot be exposed. -/
def exports (contexts : List HostType) (m : MethodDecl) : List Export :=
  match m.adapter? contexts with
  | none => []
  | some a => m.names.map fun name => ⟨name, a, m.isSimple⟩

end MethodDecl

namespace ClassDecl

/-- The methods that a class offers: its own in the order of declaration, if it is public, and then
those of the sources that target it, in the order of registration. -/
def offered (sources : GenericSources) (c : ClassDecl) : List MethodDecl :=
  (if c.isPublic then c.methods.filter (·.isOwn) else []) ++
    (sources.filter fun s => c.satisfies s.target).flatMap fun s => s.methods.filter (·.isGeneric)

def exports (contexts : List HostType) (sources : GenericSources) (c : ClassDecl) : List Export :=
  (c.offered sources).flatMap (·.exports contexts)

theorem mem_offered {sources : GenericSources} {c : ClassDecl} {m : MethodDecl}
    (member : m ∈ c.offered sources) : m ∈ c.methods ∨ ∃ s ∈ sources, m ∈ s.methods := by
  rcases List.mem_append.mp member with own | generic
  · split at own
    · exact .inl (List.mem_filter.mp own).1
    · cases own
  · obtain ⟨s, targets, among⟩ := List.mem_flatMap.mp generic
    exact .inr ⟨s, (List.mem_filter.mp targets).1, (List.mem_filter.mp among).1⟩

end ClassDecl

namespace Generator

def Candidate.method? : Candidate → Option MethodDecl
  | .method _ m => some m
  | .refused _ => none

theorem ownCandidate_method? (c : ClassDecl) (m : MethodDecl) :
    (ownCandidate c m).method? = if m.isStatic || !c.isPublic then none else some m := by
  unfold ownCandidate
  cases m.isStatic with
  | true => rfl
  | false => cases c.isPublic <;> rfl

theorem genericCandidate_method? (source : String) (m : MethodDecl) :
    (genericCandidate source m).method? =
      if m.isStatic && m.params.head? = some .receiver then some m else none := by
  unfold genericCandidate
  cases m.isStatic with
  | false => rfl
  | true => by_cases first : m.params.head? = some .receiver <;> simp [first, Candidate.method?]

theorem own_offered (c : ClassDecl) (ms : List MethodDecl) :
    ((ms.filter (·.flagged)).map (ownCandidate c)).filterMap Candidate.method? =
      if c.isPublic then ms.filter (·.isOwn) else [] := by
  rw [List.filterMap_map]
  induction ms with
  | nil => simp
  | cons m ms ih =>
    cases flagged : m.flagged <;> cases static : m.isStatic <;> cases exposed : c.isPublic <;>
      simp_all [ownCandidate_method?, MethodDecl.isOwn]

theorem generic_offered (source : String) (ms : List MethodDecl) :
    ((ms.filter (·.flagged)).map (genericCandidate source)).filterMap Candidate.method? =
      ms.filter (·.isGeneric) := by
  rw [List.filterMap_map]
  induction ms with
  | nil => rfl
  | cons m ms ih =>
    cases flagged : m.flagged <;> cases static : m.isStatic <;>
      by_cases first : m.params.head? = some .receiver <;>
        simp_all [genericCandidate_method?, MethodDecl.isGeneric]

theorem candidates_method? (sources : GenericSources) (c : ClassDecl) :
    (candidates sources c).filterMap Candidate.method? = c.offered sources := by
  unfold candidates ClassDecl.offered GenericSources.methodsFor
  rw [List.filterMap_append, own_offered]
  congr 1
  induction sources.filter fun s => c.satisfies s.target with
  | nil => rfl
  | cons s targets ih =>
    have here : (s.methods.map fun m => (s.name, m)).filter (·.2.flagged) =
        (s.methods.filter (·.flagged)).map fun m => (s.name, m) := by
      rw [List.filter_map]
      rfl
    rw [List.flatMap_cons, List.flatMap_cons, List.filter_append, List.map_append,
      List.filterMap_append, here, List.map_map, ih]
    exact congrArg (· ++ _) (generic_offered s.name s.methods)

/-! ## The table of methods -/

/-- What a method has become, if it was tried before. -/
def kept (g : Generator) (id : MethodId) : Option Trampoline := (g.cached? id).getD none

theorem kept_of_cached {g : Generator} {id : MethodId} {t : Option Trampoline}
    (found : g.cached? id = some t) : g.kept id = t := by
  rw [kept, found, Option.getD_some]

/-- The generator has tried more methods, and changed its mind on none. -/
structure Grows (g g' : Generator) : Prop where
  contexts : g'.contexts = g.contexts
  tag : g'.tag = g.tag
  methods : g.methods <+: g'.methods

namespace Grows

variable {g g' g'' : Generator}

theorem refl (g : Generator) : Grows g g := ⟨rfl, rfl, List.prefix_rfl⟩

theorem trans (first : Grows g g') (then' : Grows g' g'') : Grows g g'' :=
  ⟨then'.contexts.trans first.contexts, then'.tag.trans first.tag,
    first.methods.trans then'.methods⟩

theorem cached (grows : Grows g g') {id : MethodId} {t : Option Trampoline}
    (found : g.cached? id = some t) : g'.cached? id = some t :=
  Entries.get?_of_prefix grows.methods found

theorem kept (grows : Grows g g') {id : MethodId} (tried : (g.cached? id).isSome) :
    g'.kept id = g.kept id := by
  obtain ⟨t, found⟩ := Option.isSome_iff_exists.mp tried
  rw [kept_of_cached found, kept_of_cached (grows.cached found)]

/-- The method lists are not read by the table of methods. -/
theorem setClasses (g : Generator) (classes : List (HostType × CachedClass)) :
    Grows g { g with classes } := ⟨rfl, rfl, List.prefix_rfl⟩

end Grows

theorem trampoline_of_cached {g : Generator} {m : MethodDecl} {t : Option Trampoline}
    (found : g.cached? m.id = some t) (owner : String) : g.trampoline owner m = ⟨t, [], g⟩ := by
  unfold trampoline
  rw [found]

theorem trampoline_of_absent {g : Generator} {m : MethodDecl} (absent : g.cached? m.id = none)
    (owner : String) : g.trampoline owner m =
      ⟨(g.build owner m).1, (g.build owner m).2,
        { g with methods := g.methods ++ [(m.id, (g.build owner m).1)] }⟩ := by
  unfold trampoline
  rw [absent, ← Entries.put_of_absent absent]

theorem trampoline_grows (g : Generator) (owner : String) (m : MethodDecl) :
    Grows g (g.trampoline owner m).generator := by
  cases found : g.cached? m.id with
  | some t =>
    rw [trampoline_of_cached found]
    exact .refl g
  | none =>
    rw [trampoline_of_absent found]
    exact ⟨rfl, rfl, List.prefix_append ..⟩

theorem trampoline_cached (g : Generator) (owner : String) (m : MethodDecl) :
    (g.trampoline owner m).generator.cached? m.id = some (g.trampoline owner m).result := by
  cases found : g.cached? m.id with
  | some t =>
    rw [trampoline_of_cached found]
    exact found
  | none =>
    rw [trampoline_of_absent found, ← Entries.put_of_absent found]
    exact Entries.get?_put_self ..

theorem trampoline_classes (g : Generator) (owner : String) (m : MethodDecl) :
    (g.trampoline owner m).generator.classes = g.classes := by
  cases found : g.cached? m.id with
  | some t => rw [trampoline_of_cached found]
  | none => rw [trampoline_of_absent found]

/-- What the table says of methods is what their declarations say, and the serial of a trampoline
tells its place. -/
structure Sound (contexts : List HostType) (tag : Nat) (known : MethodDecl → Prop)
    (g : Generator) : Prop where
  contextTypes : g.contexts = contexts
  numbering : g.tag = tag
  adapted : ∀ (m : MethodDecl) (t : Option Trampoline), known m → g.cached? m.id = some t →
    t.map Trampoline.adapter = m.adapter? contexts
  placed : ∀ (place : Nat) (id : MethodId) (t : Trampoline),
    g.methods[place]? = some (id, some t) → t.serial = tag * UInt32.size + place

/-- Different declarations have different numbers. -/
def Numbered (known : MethodDecl → Prop) : Prop :=
  ∀ m m', known m → known m' → m.id = m'.id → m = m'

section Tables

variable {contexts : List HostType} {tag : Nat} {known : MethodDecl → Prop} {g : Generator}

theorem Sound.new (name : String) : Sound contexts tag known (Generator.new name tag contexts) := by
  refine ⟨rfl, rfl, fun m t _ found => ?_, fun place id t found => ?_⟩
  · have empty : (Generator.new name tag contexts).cached? m.id = none := rfl
    rw [empty] at found
    cases found
  · have empty : (Generator.new name tag contexts).methods = [] := rfl
    rw [empty, List.getElem?_nil] at found
    cases found

theorem Sound.trampoline (sound : Sound contexts tag known g) (numbered : Numbered known)
    (owner : String) {m : MethodDecl} (here : known m) :
    Sound contexts tag known (g.trampoline owner m).generator := by
  cases absent : g.cached? m.id with
  | some t =>
    rw [trampoline_of_cached absent]
    exact sound
  | none =>
    have built := g.build_eq owner m
    rw [trampoline_of_absent absent]
    generalize (g.build owner m).1 = t at built ⊢
    refine ⟨sound.contextTypes, sound.numbering, fun m' t' known' found => ?_,
      fun place id t' found => ?_⟩
    · rw [cached?, ← Entries.put_of_absent absent] at found
      by_cases same : m'.id = m.id
      · obtain rfl := numbered m' m known' here same
        rw [Entries.get?_put_self, Option.some.injEq] at found
        subst found
        rw [built, Option.map_map, sound.contextTypes]
        exact Option.map_id'
      · rw [Entries.get?_put_ne same] at found
        exact sound.adapted m' t' known' found
    · rcases Nat.lt_trichotomy place g.methods.length with before | last | beyond
      · rw [List.getElem?_append_left before] at found
        exact sound.placed place id t' found
      · subst last
        rw [List.getElem?_append_right (Nat.le_refl _), Nat.sub_self, List.getElem?_cons_zero,
          Option.some.injEq, Prod.mk.injEq, built] at found
        obtain ⟨a, -, rfl⟩ := Option.map_eq_some_iff.mp found.2
        show g.tag * UInt32.size + g.methods.length = _
        rw [sound.numbering]
      · have outside : (g.methods ++ [(m.id, t)]).length ≤ place := by
          simp only [List.length_append, List.length_cons, List.length_nil]
          omega
        rw [List.getElem?_eq_none outside] at found
        cases found

theorem Sound.setClasses (sound : Sound contexts tag known g)
    (classes : List (HostType × CachedClass)) : Sound contexts tag known { g with classes } :=
  ⟨sound.contextTypes, sound.numbering, sound.adapted, sound.placed⟩

/-- Two methods that were built are one just if their trampolines are. -/
theorem Sound.same_iff (sound : Sound contexts tag known g) {id id' : MethodId}
    {t u : Trampoline} (first : g.kept id = some t) (second : g.kept id' = some u) :
    sameTrampoline t u = true ↔ id = id' := by
  have entered {id : MethodId} {t : Trampoline} (found : g.kept id = some t) :
      g.cached? id = some (some t) := by
    unfold kept at found
    cases cached : g.cached? id with
    | none => rw [cached] at found; cases found
    | some t' => rw [cached, Option.getD_some] at found; rw [found]
  constructor
  · intro same
    obtain ⟨place, here⟩ := Entries.place_of_get? (entered first)
    obtain ⟨place', there⟩ := Entries.place_of_get? (entered second)
    have serials : t.serial = u.serial := eq_of_beq same
    rw [sound.placed place id t here, sound.placed place' id' u there] at serials
    have places : place = place' := by omega
    rw [places, there] at here
    simp only [Option.some.injEq, Prod.mk.injEq] at here
    exact here.1.symm
  · rintro rfl
    rw [first] at second
    cases second
    exact beq_self_eq_true t.serial

/-! ## Method lists -/

/-- The list holds every name of some methods, by what the table says of them. -/
structure Listed (g : Generator) (offered : List MethodDecl) (methods : List NamedMethod) :
    Prop where
  tried : ∀ m ∈ offered, (g.cached? m.id).isSome
  names : methods = offered.flatMap fun m => named m (g.kept m.id)

theorem Listed.grows {g' : Generator} {offered : List MethodDecl} {methods : List NamedMethod}
    (listed : Listed g offered methods) (grows : Grows g g') : Listed g' offered methods := by
  refine ⟨fun m member => ?_, ?_⟩
  · obtain ⟨t, found⟩ := Option.isSome_iff_exists.mp (listed.tried m member)
    rw [grows.cached found]
    rfl
  · rw [listed.names, List.flatMap_def, List.flatMap_def]
    congr 1
    refine List.map_congr_left fun m member => ?_
    rw [grows.kept (listed.tried m member)]

theorem named_exported (m : MethodDecl) (t : Option Trampoline)
    (adapted : t.map Trampoline.adapter = m.adapter? contexts) :
    (named m t).map NamedMethod.exported = m.exports contexts := by
  unfold MethodDecl.exports
  rw [← adapted]
  cases t with
  | none => rfl
  | some t =>
    simp only [named, List.map_map, Option.map_some]
    rfl

theorem Listed.exported {offered : List MethodDecl} {methods : List NamedMethod}
    (listed : Listed g offered methods) (sound : Sound contexts tag known g)
    (all : ∀ m ∈ offered, known m) :
    methods.map NamedMethod.exported = offered.flatMap (·.exports contexts) := by
  rw [listed.names, List.map_flatMap, List.flatMap_def, List.flatMap_def]
  congr 1
  refine List.map_congr_left fun m member => ?_
  obtain ⟨t, found⟩ := Option.isSome_iff_exists.mp (listed.tried m member)
  rw [kept_of_cached found]
  exact named_exported m t (sound.adapted m t (all m member) found)

theorem collect_listed (sound : Sound contexts tag known g) (numbered : Numbered known)
    (cs : List Candidate) (all : ∀ m ∈ cs.filterMap Candidate.method?, known m) :
    Sound contexts tag known (g.collect cs).generator ∧ Grows g (g.collect cs).generator ∧
      (g.collect cs).generator.classes = g.classes ∧
      Listed (g.collect cs).generator (cs.filterMap Candidate.method?) (g.collect cs).result := by
  induction cs generalizing g with
  | nil => exact ⟨sound, .refl g, rfl, fun m member => absurd member List.not_mem_nil, rfl⟩
  | cons c cs ih =>
    cases c with
    | refused line => exact ih sound all
    | method owner m =>
      have head : known m := all m (.head _)
      obtain ⟨sound', grows, classes, listed⟩ :=
        ih (sound.trampoline numbered owner head) fun m' member => all m' (.tail _ member)
      have first := g.trampoline_cached owner m
      have later := grows.cached first
      refine ⟨sound', (g.trampoline_grows owner m).trans grows,
        classes.trans (g.trampoline_classes owner m), ?_, ?_⟩
      · rintro m' (_ | ⟨_, member⟩)
        · exact Option.isSome_iff_exists.mpr ⟨_, later⟩
        · exact listed.tried m' member
      · have here : (g.collect (.method owner m :: cs)).generator.kept m.id =
            (g.trampoline owner m).result := kept_of_cached later
        show named m (g.trampoline owner m).result ++ _ = _
        rw [← here, listed.names]
        rfl

/-- The method list that is kept for a class is right for the sources that there were when it was
built. -/
def Lists (asked : ClassDecl → Prop) (sources : GenericSources) (g : Generator) : Prop :=
  ∀ (c : ClassDecl) (list : CachedClass), asked c → Entries.get? c.type g.classes = some list →
    list.generation ≤ sources.length ∧
      Listed g (c.offered (sources.take list.generation)) list.methods

/-- Different classes have different types. -/
def Typed (asked : ClassDecl → Prop) : Prop :=
  ∀ c c', asked c → asked c' → c.type = c'.type → c = c'

variable {asked : ClassDecl → Prop} {sources : GenericSources}

theorem Lists.grows {g' : Generator} (lists : Lists asked sources g) (grows : Grows g g')
    (classes : g'.classes = g.classes) : Lists asked sources g' := by
  intro c list here found
  rw [classes] at found
  obtain ⟨past, listed⟩ := lists c list here found
  exact ⟨past, listed.grows grows⟩

theorem Lists.register (lists : Lists asked sources g) (source : GenericSource) :
    Lists asked (sources ++ [source]) g := by
  intro c list here found
  obtain ⟨past, listed⟩ := lists c list here found
  rw [List.take_append_of_le_length past, List.length_append]
  exact ⟨Nat.le_add_right_of_le past, listed⟩

theorem methodsOf_listed (sound : Sound contexts tag known g) (numbered : Numbered known)
    (lists : Lists asked sources g) (typed : Typed asked) {c : ClassDecl} (here : asked c)
    (all : ∀ m ∈ c.offered sources, known m) :
    Sound contexts tag known (g.methodsOf sources c).generator ∧
      Grows g (g.methodsOf sources c).generator ∧
      Lists asked sources (g.methodsOf sources c).generator ∧
      Listed (g.methodsOf sources c).generator (c.offered sources)
        (g.methodsOf sources c).result := by
  unfold methodsOf
  cases recent : g.current? sources c with
  | some methods =>
    refine ⟨sound, .refl g, lists, ?_⟩
    unfold current? at recent
    split at recent
    · next list found =>
      split at recent
      · next current =>
        cases recent
        obtain ⟨-, listed⟩ := lists c list here found
        rw [current, List.take_length] at listed
        exact listed
      · cases recent
    · cases recent
  | none =>
    have built := collect_listed sound numbered (candidates sources c)
      (by rw [candidates_method?]; exact all)
    rw [candidates_method?] at built
    generalize g.collect (candidates sources c) = out at built ⊢
    obtain ⟨sound', grows, classes, listed⟩ := built
    have entered := Grows.setClasses out.generator
      (Entries.put c.type ⟨sources.length, out.result⟩ out.generator.classes)
    refine ⟨sound'.setClasses _, grows.trans entered, fun c' list here' found => ?_,
      listed.grows entered⟩
    by_cases same : c'.type = c.type
    · obtain rfl := typed c' c here' here same
      rw [Entries.get?_put_self, Option.some.injEq] at found
      subst found
      refine ⟨Nat.le_refl _, ?_⟩
      rw [List.take_length]
      exact listed.grows entered
    · rw [Entries.get?_put_ne same, classes] at found
      obtain ⟨past, before⟩ := lists c' list here' found
      exact ⟨past, before.grows (grows.trans entered)⟩

end Tables

/-! ## Looking up again and again -/

inductive Lookup where
  | register (source : GenericSource)
  | methods (c : ClassDecl)
  | trampoline (owner : String) (m : MethodDecl)

/-- An answer of the generator; a method list with the sources that were registered then. -/
inductive Finding where
  | methods (sources : GenericSources) (c : ClassDecl) (found : List NamedMethod)
  | trampoline (m : MethodDecl) (found : Option Trampoline)

/-- The answers to lookups, one after the other. -/
def lookUp (g : Generator) (sources : GenericSources) : List Lookup → List Finding
  | [] => []
  | .register source :: rest => g.lookUp (sources ++ [source]) rest
  | .methods c :: rest =>
    let answer := g.methodsOf sources c
    .methods sources c answer.result :: answer.generator.lookUp sources rest
  | .trampoline owner m :: rest =>
    let answer := g.trampoline owner m
    .trampoline m answer.result :: answer.generator.lookUp sources rest

/-- The answer is that of an uncached build, and holds the trampolines of a verdict. -/
def Finding.Agrees (contexts : List HostType) (verdict : MethodId → Option Trampoline) :
    Finding → Prop
  | methods sources c found =>
    found.map NamedMethod.exported = c.exports contexts sources ∧
      found = (c.offered sources).flatMap fun m => named m (verdict m.id)
  | trampoline m found =>
    found.map Trampoline.adapter = m.adapter? contexts ∧ found = verdict m.id

/-- The methods that a lookup brings in. -/
def Lookup.declared : Lookup → List MethodDecl
  | register source => source.methods
  | methods c => c.methods
  | trampoline _ m => [m]

/-- The methods that are registered or come up in lookups. -/
def Mentioned (sources : GenericSources) (lookups : List Lookup) (m : MethodDecl) : Prop :=
  (∃ s ∈ sources, m ∈ s.methods) ∨ ∃ lookup ∈ lookups, m ∈ lookup.declared

namespace Mentioned

variable {sources : GenericSources} {rest : List Lookup} {m : MethodDecl}

theorem later (lookup : Lookup) : Mentioned sources rest m → Mentioned sources (lookup :: rest) m
  | .inl registered => .inl registered
  | .inr ⟨other, member, declared⟩ => .inr ⟨other, .tail _ member, declared⟩

theorem registered {source : GenericSource} (mentioned : Mentioned (sources ++ [source]) rest m) :
    Mentioned sources (.register source :: rest) m := by
  rcases mentioned with ⟨s, member, declared⟩ | coming
  · rcases List.mem_append.mp member with before | new
    · exact .inl ⟨s, before, declared⟩
    · obtain rfl := List.mem_singleton.mp new
      exact .inr ⟨_, .head _, declared⟩
  · exact later _ (.inr coming)

theorem offered {c : ClassDecl} (member : m ∈ c.offered sources) :
    Mentioned sources (.methods c :: rest) m := by
  rcases ClassDecl.mem_offered member with own | generic
  · exact .inr ⟨_, .head _, own⟩
  · exact .inl generic

theorem asked (owner : String) : Mentioned sources (.trampoline owner m :: rest) m :=
  .inr ⟨_, .head _, .head _⟩

end Mentioned

/-- The classes that are looked up. -/
def Asked (lookups : List Lookup) (c : ClassDecl) : Prop := .methods c ∈ lookups

theorem lookUp_agrees {contexts : List HostType} {tag : Nat} {known : MethodDecl → Prop}
    {asked : ClassDecl → Prop} (numbered : Numbered known) (typed : Typed asked)
    (lookups : List Lookup) {g : Generator} {sources : GenericSources}
    (sound : Sound contexts tag known g) (lists : Lists asked sources g)
    (mentioned : ∀ m, Mentioned sources lookups m → known m)
    (among : ∀ c, Asked lookups c → asked c) :
    ∃ final, Grows g final ∧ Sound contexts tag known final ∧
      ∀ finding ∈ g.lookUp sources lookups, finding.Agrees contexts final.kept := by
  induction lookups generalizing g sources with
  | nil => exact ⟨g, .refl g, sound, fun finding member => absurd member List.not_mem_nil⟩
  | cons lookup rest ih =>
    have later : ∀ c, Asked rest c → asked c := fun c member => among c (.tail _ member)
    have rest_mentioned : ∀ m, Mentioned sources rest m → known m :=
      fun m coming => mentioned m (coming.later lookup)
    cases lookup with
    | register source =>
      exact ih sound (lists.register source) (fun m coming => mentioned m coming.registered) later
    | methods c =>
      have all : ∀ m ∈ c.offered sources, known m := fun m member => mentioned m (.offered member)
      obtain ⟨sound', grows, lists', listed⟩ :=
        methodsOf_listed sound numbered lists typed (among c (.head _)) all
      obtain ⟨final, grows', sound'', agrees⟩ := ih sound' lists' rest_mentioned later
      have kept := listed.grows grows'
      refine ⟨final, grows.trans grows', sound'', ?_⟩
      rintro finding (_ | ⟨_, member⟩)
      · exact ⟨kept.exported sound'' all, kept.names⟩
      · exact agrees finding member
    | trampoline owner m =>
      have here : known m := mentioned m (.asked owner)
      have grows := g.trampoline_grows owner m
      obtain ⟨final, grows', sound', agrees⟩ := ih (sound.trampoline numbered owner here)
        (lists.grows grows (g.trampoline_classes owner m)) rest_mentioned later
      have found := grows'.cached (g.trampoline_cached owner m)
      refine ⟨final, grows.trans grows', sound', ?_⟩
      rintro finding (_ | ⟨_, member⟩)
      · exact ⟨sound'.adapted m _ here found, (kept_of_cached found).symm⟩
      · exact agrees finding member

/-- Caching does not show: every answer of a generator is that of an uncached build for the sources
of the moment, and each method has one trampoline, or never any, whoever asks. -/
theorem caching_transparent (name : String) (tag : Nat) (contexts : List HostType)
    (sources : GenericSources) (lookups : List Lookup)
    (numbered : Numbered (Mentioned sources lookups)) (typed : Typed (Asked lookups)) :
    ∃ verdict : MethodId → Option Trampoline,
      (∀ finding ∈ (Generator.new name tag contexts).lookUp sources lookups,
        finding.Agrees contexts verdict) ∧
      ∀ id id' t u, verdict id = some t → verdict id' = some u →
        (sameTrampoline t u = true ↔ id = id') := by
  have lists : Lists (Asked lookups) sources (Generator.new name tag contexts) := by
    intro c list _ found
    have empty : Entries.get? c.type (Generator.new name tag contexts).classes = none := rfl
    rw [empty] at found
    cases found
  obtain ⟨final, -, sound, agrees⟩ := lookUp_agrees numbered typed lookups
    (Sound.new name) lists (fun m member => member) (fun c member => member)
  exact ⟨final.kept, agrees, fun id id' t u first second => sound.same_iff first second⟩

/-- A method with two names. -/
def askMethod : MethodDecl :=
  { MethodDecl.plain ⟨600⟩ "ask" .unit fun _ => Code.unit with aliases := ["query"] }

/-- A method that cannot be exposed. -/
def hideMethod : MethodDecl :=
  { MethodDecl.plain ⟨601⟩ "hide" .unit fun _ => Code.unit with isPublic := false }

def kiosk : ClassDecl := ⟨.named "Kiosk", "Kiosk", true, ["public"], [hideMethod, askMethod]⟩

def greeter : GenericSource :=
  ⟨"Greeter", "public", [((MethodDecl.plain ⟨602⟩ "greet" .unit fun _ => Code.unit).withParams
    [.receiver]).static]⟩

def kioskLookups : List Lookup :=
  [.trampoline "Desk" askMethod, .methods kiosk, .register greeter, .methods kiosk,
    .trampoline "Kiosk" hideMethod]

theorem kioskLookups_mentioned {m : MethodDecl} (mentioned : Mentioned [] kioskLookups m) :
    m = hideMethod ∨ m = askMethod ∨ m ∈ greeter.methods := by
  rcases mentioned with ⟨s, registered, -⟩ | ⟨lookup, member, declared⟩
  · cases registered
  · simp only [kioskLookups, List.mem_cons, List.not_mem_nil, or_false] at member
    have own (here : m ∈ kiosk.methods) : m = hideMethod ∨ m = askMethod ∨ m ∈ greeter.methods := by
      simp only [kiosk, List.mem_cons, List.not_mem_nil, or_false] at here
      rcases here with rfl | rfl
      · exact .inl rfl
      · exact .inr (.inl rfl)
    rcases member with rfl | rfl | rfl | rfl | rfl
    · exact .inr (.inl (List.mem_singleton.mp declared))
    · exact own declared
    · exact .inr (.inr declared)
    · exact own declared
    · exact .inl (List.mem_singleton.mp declared)

/-- The class shares the trampoline that was first built for another owner. -/
theorem caching_transparent_kiosk : ∃ verdict : MethodId → Option Trampoline,
    (∀ finding ∈ (Generator.new "lua" 1 [.context]).lookUp [] kioskLookups,
      finding.Agrees [.context] verdict) ∧
    (verdict askMethod.id).map (·.owner) = some "Desk" ∧ (verdict hideMethod.id).isNone := by
  have numbered : Numbered (Mentioned [] kioskLookups) := by
    intro m m' first second same
    rcases kioskLookups_mentioned first with rfl | rfl | member <;>
      rcases kioskLookups_mentioned second with rfl | rfl | member' <;>
        simp_all [greeter, askMethod, hideMethod, MethodDecl.plain, MethodDecl.withParams,
          MethodDecl.static]
  have typed : Typed (Asked kioskLookups) := by
    intro c c' first second same
    simp only [Asked, kioskLookups, List.mem_cons, List.not_mem_nil, or_false, reduceCtorEq,
      false_or, Lookup.methods.injEq, or_self] at first second
    rw [first, second]
  obtain ⟨verdict, agrees, -⟩ :=
    caching_transparent "lua" 1 [.context] [] kioskLookups numbered typed
  refine ⟨verdict, agrees, ?_⟩
  simp only [kioskLookups, lookUp, List.forall_mem_cons] at agrees
  obtain ⟨⟨-, ask⟩, -, -, ⟨hide, found⟩, -⟩ := agrees
  refine ⟨?_, ?_⟩
  · rw [← ask]
    rfl
  · have refused : hideMethod.adapter? [.context] = none := rfl
    rw [← found, Option.isNone_iff_eq_none, ← Option.map_eq_none_iff, hide, refused]

end Generator

end DeviceBridge
