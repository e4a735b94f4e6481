import DeviceBridge.Host.Run
import Mathlib.Data.List.Nodup

/-
  The life of the registry as an abstract machine. A state says whether the registry runs, who
  occupies each slot, and which accesses were ever installed (`Lifecycle`); a command takes it to
  the next state and lists what is done on the way (`Lifecycle.step`). Every access that was
  installed sees its hooks in strict alternation, attach first (`run_alternates`): an access is
  attached just while it occupies its slot and the registry runs, and each hook is one change of
  that.
-/

namespace DeviceBridge

/-- A single thing that a change of the registry does. -/
inductive Act where
  /-- The slot table is changed, and transitions are claimed in it. No hook runs. -/
  | table (c : Command)
  /-- A line of the log announces a hook. -/
  | log (t : Transition) (id : AccessId)
  | hook (t : Transition) (id : AccessId)
  /-- The services of an access are closed. -/
  | close (id : AccessId)
  /-- The scripts are told. -/
  | event (name : String) (side : Side)

structure Lifecycle where
  running : Bool
  occupant : Side → Option AccessId
  /-- Every access that was ever installed, with the device behind it. -/
  installed : List (AccessId × DeviceId)
  seated : ∀ {side id}, occupant side = some id →
    id.side = side ∧ id ∈ installed.map Prod.fst
  numbered : ∀ {id}, id ∈ installed.map Prod.fst → id.number < installed.length

namespace Lifecycle

/-- Nothing is installed, and the registry does not run. -/
def fresh : Lifecycle where
  running := false
  occupant _ := none
  installed := []
  seated found := by cases found
  numbered inside := (List.not_mem_nil inside).elim

/-- The access occupies its slot, and the registry runs. -/
def Attached (s : Lifecycle) (id : AccessId) : Prop :=
  s.running = true ∧ s.occupant id.side = some id

instance (s : Lifecycle) (id : AccessId) : Decidable (s.Attached id) :=
  inferInstanceAs (Decidable (_ ∧ _))

/-- Nobody is attached while the registry rests. -/
theorem not_attached_of_rests {s : Lifecycle} (rests : s.running = false) (id : AccessId) :
    ¬s.Attached id := by
  rintro ⟨running, -⟩
  rw [rests] at running
  cases running

/-- Who is installed, in slot order. -/
def occupants (s : Lifecycle) : List AccessId := Side.all.filterMap s.occupant

/-- The access that would be installed next at a side. -/
def next (s : Lifecycle) (side : Side) : AccessId := ⟨side, s.installed.length⟩

/-- Take out what is at a side. -/
def clear (s : Lifecycle) (side : Side) : Lifecycle where
  running := s.running
  occupant other := if other = side then none else s.occupant other
  installed := s.installed
  seated found := by
    split at found
    · cases found
    · exact s.seated found
  numbered := s.numbered

/-- Put a new access for a device in the stead of what is at a side. -/
def put (s : Lifecycle) (side : Side) (device : DeviceId) : Lifecycle where
  running := s.running
  occupant other := if other = side then some (s.next side) else s.occupant other
  installed := s.installed ++ [(s.next side, device)]
  seated {other id} found := by
    rw [List.map_append]
    split at found
    · next same =>
      cases found
      exact ⟨same.symm, List.mem_append_right _ (List.mem_singleton_self _)⟩
    · obtain ⟨here, inside⟩ := s.seated found
      exact ⟨here, List.mem_append_left _ inside⟩
  numbered {id} inside := by
    rw [List.map_append] at inside
    rw [List.length_append, List.length_singleton]
    rcases List.mem_append.mp inside with old | new
    · exact Nat.lt_succ_of_lt (s.numbered old)
    · rw [List.mem_singleton.mp new]
      exact Nat.lt_succ_self _

def setRunning (s : Lifecycle) (running : Bool) : Lifecycle where
  running := running
  occupant := s.occupant
  installed := s.installed
  seated := s.seated
  numbered := s.numbered

/-- A hook. The services stay open until a detach hook has returned. -/
def turned : Transition → AccessId → List Act
  | .attach, id => [.hook .attach id]
  | .detach, id => [.hook .detach id, .close id]

/-- A hook with what is told about it. -/
def announced : Transition → AccessId → List Act
  | .attach, id => .log .attach id :: turned .attach id ++ [.event "peripheral" id.side]
  | .detach, id => .log .detach id :: turned .detach id ++ [.event "peripheral_detach" id.side]

/-- The old occupant of a slot, if its detach hook is to run. -/
def leaving (s : Lifecycle) (side : Side) : List AccessId :=
  if s.running then (s.occupant side).toList else []

/-- The new occupant of a slot, if its attach hook is to run. -/
def coming (s : Lifecycle) (side : Side) (device : Option DeviceId) : List AccessId :=
  if s.running then device.toList.map fun _ => s.next side else []

/-- The slots after a device, or none, was set at a side. -/
def exchange (s : Lifecycle) (side : Side) : Option DeviceId → Lifecycle
  | none => s.clear side
  | some device => s.put side device

/-- One command: the detach hook of the old occupant and the attach hook of the new one, each with
its event, if the registry runs; or one hook for each occupant, if the command changes whether it
does. -/
def step (s : Lifecycle) : Command → List Act × Lifecycle
  | .set side device =>
    (.table (.set side device) :: ((s.leaving side).flatMap (announced .detach) ++
      (s.coming side device).flatMap (announced .attach)), s.exchange side device)
  | .start =>
    if s.running then ([], s)
    else (.table .start :: s.occupants.flatMap (turned .attach), s.setRunning true)
  | .stop =>
    if s.running then (.table .stop :: s.occupants.flatMap (turned .detach), s.setRunning false)
    else ([], s)

/-- Commands one after the other. -/
def run (s : Lifecycle) : List Command → List Act × Lifecycle
  | [] => ([], s)
  | c :: rest => ((s.step c).1 ++ ((s.step c).2.run rest).1, ((s.step c).2.run rest).2)

/-! ## Occupants -/

theorem mem_occupants {s : Lifecycle} {id : AccessId} :
    id ∈ s.occupants ↔ s.occupant id.side = some id := by
  constructor
  · intro inside
    obtain ⟨side, -, found⟩ := List.mem_filterMap.mp inside
    rw [(s.seated found).1]
    exact found
  · intro found
    exact List.mem_filterMap.mpr ⟨id.side, Side.mem_all _, found⟩

/-- No access sits in two slots. -/
theorem occupants_nodup (s : Lifecycle) : s.occupants.Nodup := by
  have sides : Side.all.Nodup := by decide
  refine List.Nodup.filterMap (fun a b id here there => ?_) sides
  rw [← (s.seated here).1, ← (s.seated there).1]

/-- An access that is yet to come occupies nothing. -/
theorem occupant_ne_next (s : Lifecycle) (side other : Side) :
    s.occupant other ≠ some (s.next side) := by
  intro found
  have small := s.numbered (s.seated found).2
  exact Nat.lt_irrefl _ small

/-! ## Hooks of one access -/

def hookOf (id : AccessId) : Act → List Transition
  | .hook t other => if other = id then [t] else []
  | _ => []

/-- The hooks of an access among what was done. -/
def hooksOf (id : AccessId) (acts : List Act) : List Transition := acts.flatMap (hookOf id)

theorem hooksOf_append (id : AccessId) (first second : List Act) :
    hooksOf id (first ++ second) = hooksOf id first ++ hooksOf id second :=
  List.flatMap_append

theorem hooksOf_turned (id : AccessId) (t : Transition) (other : AccessId) :
    hooksOf id (turned t other) = if other = id then [t] else [] := by
  cases t with
  | attach =>
    show (if other = id then [Transition.attach] else []) ++ [] = _
    rw [List.append_nil]
  | detach =>
    show (if other = id then [Transition.detach] else []) ++ ([] ++ []) = _
    rw [List.append_nil, List.append_nil]

theorem hooksOf_announced (id : AccessId) (t : Transition) (other : AccessId) :
    hooksOf id (announced t other) = if other = id then [t] else [] := by
  rw [← hooksOf_turned]
  cases t with
  | attach =>
    show hooksOf id (turned .attach other ++ [.event "peripheral" other.side]) = _
    rw [hooksOf_append]
    exact List.append_nil _
  | detach =>
    show hooksOf id (turned .detach other ++ [.event "peripheral_detach" other.side]) = _
    rw [hooksOf_append]
    exact List.append_nil _

theorem hooksOf_table (id : AccessId) (c : Command) (rest : List Act) :
    hooksOf id (.table c :: rest) = hooksOf id rest := rfl

theorem hooksOf_each (id : AccessId) (t : Transition) (ids : List AccessId) (nodup : ids.Nodup) :
    hooksOf id (ids.flatMap (turned t)) = if id ∈ ids then [t] else [] := by
  induction ids with
  | nil => rfl
  | cons other rest ih =>
    obtain ⟨once, nodup⟩ := List.nodup_cons.mp nodup
    rw [List.flatMap_cons, hooksOf_append, hooksOf_turned, ih nodup]
    by_cases mine : other = id
    · rw [mine] at once ⊢
      rw [if_pos rfl, if_neg once, if_pos List.mem_cons_self, List.append_nil]
    · rw [if_neg mine, List.nil_append]
      have same : id ∈ other :: rest ↔ id ∈ rest := by
        rw [List.mem_cons]
        exact ⟨fun inside => inside.resolve_left (Ne.symm mine), .inr⟩
      simp only [same]

/-- The hook of the occupant that is taken out. -/
theorem hooksOf_leaving (s : Lifecycle) (id : AccessId) (side : Side) :
    hooksOf id ((s.leaving side).flatMap (announced .detach)) =
      if s.Attached id ∧ id.side = side then [.detach] else [] := by
  unfold leaving
  cases runs : s.running with
  | false =>
    have nobody : ¬(s.Attached id ∧ id.side = side) :=
      fun both => not_attached_of_rests runs id both.1
    rw [if_neg nobody]
    rfl
  | true =>
    rw [if_pos rfl]
    cases found : s.occupant side with
    | none =>
      have empty : ¬(s.Attached id ∧ id.side = side) := by
        rintro ⟨⟨-, sits⟩, rfl⟩
        rw [found] at sits
        cases sits
      rw [if_neg empty]
      rfl
    | some old =>
      show hooksOf id (announced .detach old ++ []) = _
      rw [List.append_nil, hooksOf_announced]
      by_cases mine : old = id
      · rw [mine] at found
        have sits := (s.seated found).1
        rw [if_pos mine, if_pos ⟨⟨runs, sits ▸ found⟩, sits⟩]
      · rw [if_neg mine, if_neg]
        rintro ⟨⟨-, sits⟩, rfl⟩
        rw [found] at sits
        exact mine (Option.some.inj sits)

/-- The hook of the occupant that is put in. -/
theorem hooksOf_coming (s : Lifecycle) (id : AccessId) (side : Side) (device : DeviceId) :
    hooksOf id ((s.coming side (some device)).flatMap (announced .attach)) =
      if s.running = true ∧ id = s.next side then [.attach] else [] := by
  unfold coming
  cases runs : s.running with
  | false => rfl
  | true =>
    show hooksOf id (announced .attach (s.next side) ++ []) = _
    rw [List.append_nil, hooksOf_announced]
    by_cases mine : id = s.next side
    · rw [if_pos mine.symm, if_pos ⟨rfl, mine⟩]
    · rw [if_neg (Ne.symm mine), if_neg fun both => mine both.2]

/-- The hooks that an access sees for a change of whether it is attached. -/
def turn (before after : Prop) [Decidable before] [Decidable after] : List Transition :=
  if before then (if after then [] else [.detach]) else (if after then [.attach] else [])

theorem attached_clear {s : Lifecycle} {id : AccessId} {side : Side} :
    (s.clear side).Attached id ↔ s.Attached id ∧ id.side ≠ side := by
  unfold Attached clear
  simp only
  constructor
  · rintro ⟨running, sits⟩
    split at sits
    · cases sits
    · next other => exact ⟨⟨running, sits⟩, other⟩
  · rintro ⟨⟨running, sits⟩, other⟩
    rw [if_neg other]
    exact ⟨running, sits⟩

theorem attached_put {s : Lifecycle} {id : AccessId} {side : Side} {device : DeviceId} :
    (s.put side device).Attached id ↔
      (s.Attached id ∧ id.side ≠ side) ∨ (s.running = true ∧ id = s.next side) := by
  unfold Attached put
  simp only
  constructor
  · rintro ⟨running, sits⟩
    split at sits
    · exact .inr ⟨running, (Option.some.inj sits).symm⟩
    · next other => exact .inl ⟨⟨running, sits⟩, other⟩
  · rintro (⟨⟨running, sits⟩, other⟩ | ⟨running, rfl⟩)
    · rw [if_neg other]
      exact ⟨running, sits⟩
    · exact ⟨running, if_pos rfl⟩

theorem not_attached_next (s : Lifecycle) (side : Side) : ¬s.Attached (s.next side) := by
  rintro ⟨-, sits⟩
  exact s.occupant_ne_next side _ sits

theorem mem_leaving {s : Lifecycle} {id : AccessId} {side : Side} :
    id ∈ s.leaving side ↔ s.Attached id ∧ id.side = side := by
  unfold leaving
  constructor
  · intro inside
    split at inside
    · next runs =>
      have sits := Option.mem_toList.mp inside
      have here := (s.seated sits).1
      exact ⟨⟨runs, here ▸ sits⟩, here⟩
    · exact (List.not_mem_nil inside).elim
  · rintro ⟨⟨runs, sits⟩, rfl⟩
    rw [if_pos runs]
    exact Option.mem_toList.mpr sits

theorem stays_iff {s : Lifecycle} {id : AccessId} {side : Side} :
    id ∉ s.leaving side ∧ s.Attached id ↔ s.Attached id ∧ id.side ≠ side := by
  rw [mem_leaving]
  constructor
  · rintro ⟨stays, before⟩
    exact ⟨before, fun here => stays ⟨before, here⟩⟩
  · rintro ⟨before, other⟩
    exact ⟨fun leaves => other leaves.2, before⟩

/-- Who stays attached, or comes to be, while a slot changes is not the one that leaves it. -/
theorem attached_exchange {s : Lifecycle} {id : AccessId} {side : Side}
    {device : Option DeviceId} : (s.Attached id ∨ (s.exchange side device).Attached id) ∧
      id ∉ s.leaving side ↔ (s.exchange side device).Attached id := by
  rw [mem_leaving]
  cases device with
  | none =>
    show (s.Attached id ∨ (s.clear side).Attached id) ∧ _ ↔ (s.clear side).Attached id
    rw [attached_clear]
    constructor
    · rintro ⟨before | ⟨before, other⟩, stays⟩
      · exact ⟨before, fun here => stays ⟨before, here⟩⟩
      · exact ⟨before, other⟩
    · rintro ⟨before, other⟩
      exact ⟨.inl before, fun leaves => other leaves.2⟩
  | some device =>
    show (s.Attached id ∨ (s.put side device).Attached id) ∧ _ ↔ (s.put side device).Attached id
    rw [attached_put]
    constructor
    · rintro ⟨before | after, stays⟩
      · exact .inl ⟨before, fun here => stays ⟨before, here⟩⟩
      · exact after
    · intro after
      refine ⟨.inr after, fun leaves => ?_⟩
      rcases after with ⟨-, other⟩ | ⟨-, rfl⟩
      · exact other leaves.2
      · exact s.not_attached_next side leaves.1

/-- Each hook that a command runs is one change of whether the access is attached. -/
theorem step_hooks (s : Lifecycle) (c : Command) (id : AccessId) :
    hooksOf id (s.step c).1 = turn (s.Attached id) ((s.step c).2.Attached id) := by
  unfold turn
  cases c with
  | set side device =>
    have sits := s.hooksOf_leaving id side
    cases device with
    | none =>
      have none_comes : s.coming side none = [] := by
        unfold coming
        split <;> rfl
      show hooksOf id (.table _ :: _) = if _ then (if (s.clear side).Attached id then _ else _)
        else (if (s.clear side).Attached id then _ else _)
      rw [hooksOf_table, hooksOf_append, sits, none_comes]
      simp only [attached_clear]
      by_cases before : s.Attached id <;> by_cases here : id.side = side <;>
        simp [before, here, hooksOf]
    | some device =>
      show hooksOf id (.table _ :: _) = if _ then (if (s.put side device).Attached id then _ else _)
        else (if (s.put side device).Attached id then _ else _)
      rw [hooksOf_table, hooksOf_append, sits, hooksOf_coming]
      simp only [attached_put]
      by_cases mine : id = s.next side
      · subst mine
        have before := s.not_attached_next side
        cases runs : s.running <;> simp [before]
      · by_cases before : s.Attached id <;> by_cases here : id.side = side <;>
          simp [before, here, mine]
  | start =>
    unfold step
    cases runs : s.running with
    | true =>
      simp only [if_true]
      by_cases before : s.Attached id <;> simp [before, hooksOf]
    | false =>
      have before := not_attached_of_rests runs id
      have after : (s.setRunning true).Attached id ↔ id ∈ s.occupants := by
        rw [mem_occupants]
        exact ⟨fun attached => attached.2, fun sits => ⟨rfl, sits⟩⟩
      simp only [Bool.false_eq_true, if_false]
      rw [hooksOf_table, hooksOf_each id .attach _ s.occupants_nodup, if_neg before]
      simp only [after]
  | stop =>
    unfold step
    cases runs : s.running with
    | false =>
      simp only [Bool.false_eq_true, if_false]
      by_cases before : s.Attached id <;> simp [before, hooksOf]
    | true =>
      have before : s.Attached id ↔ id ∈ s.occupants := by
        rw [mem_occupants]
        exact ⟨fun attached => attached.2, fun sits => ⟨runs, sits⟩⟩
      have after : ¬(s.setRunning false).Attached id := not_attached_of_rests rfl id
      simp only [if_true]
      rw [hooksOf_table, hooksOf_each id .detach _ s.occupants_nodup, if_neg after, if_neg after]
      simp only [before]

/-- The transitions alternate, from one on. -/
inductive Alternates : Transition → List Transition → Prop where
  | nil {t : Transition} : Alternates t []
  | attach {rest : List Transition} (later : Alternates .detach rest) :
      Alternates .attach (.attach :: rest)
  | detach {rest : List Transition} (later : Alternates .attach rest) :
      Alternates .detach (.detach :: rest)

/-- By induction on the commands: what is to come next is told by whether the access is attached. -/
theorem run_alternates (id : AccessId) (commands : List Command) : ∀ s : Lifecycle,
    Alternates (if s.Attached id then .detach else .attach) (hooksOf id (s.run commands).1) := by
  induction commands with
  | nil =>
    intro s
    exact .nil
  | cons c rest ih =>
    intro s
    have later := ih (s.step c).2
    unfold run
    simp only
    rw [hooksOf_append, step_hooks]
    unfold turn
    by_cases before : s.Attached id <;> by_cases after : (s.step c).2.Attached id
    · rw [if_pos before, if_pos before, if_pos after]
      rwa [if_pos after] at later
    · rw [if_pos before, if_pos before, if_neg after]
      rw [if_neg after] at later
      exact .detach later
    · rw [if_neg before, if_neg before, if_pos after]
      rw [if_pos after] at later
      exact .attach later
    · rw [if_neg before, if_neg before, if_neg after]
      rwa [if_neg after] at later

end Lifecycle

end DeviceBridge
