import DeviceBridge.Proofs.Registry.Lifecycle

/-
  A command as one device sees it. Of what a command does, a device is concerned by the hooks and
  the closings of its own accesses. If no two of them are attached at a time, the device is turned
  from one access to another in good order (`Reseats`): it is detached through the access through
  which it was attached, which is closed at once, and only then attached through another one.
  `step_reseats`: every command does so.
-/

namespace DeviceBridge.Lifecycle

variable {mine : AccessId → Prop} {seat seat' : Option AccessId} {id : AccessId}
  {acts : List Act} {s s' : Lifecycle}

/-- An act that is neither a change of the table nor done to an access of a device. -/
def Passes (mine : AccessId → Prop) : Act → Prop
  | .table _ => False
  | .hook _ id => ¬mine id
  | .close id => ¬mine id
  | _ => True

/-- How acts turn a device from the access through which it is attached, if any, to the one through
which it is in the end. -/
inductive Reseats (mine : AccessId → Prop) :
    Option AccessId → List Act → Option AccessId → Prop where
  | done {seat : Option AccessId} : Reseats mine seat [] seat
  | aside {seat seat' : Option AccessId} {act : Act} {rest : List Act} (passes : Passes mine act)
      (later : Reseats mine seat rest seat') : Reseats mine seat (act :: rest) seat'
  | attach {seat' : Option AccessId} {id : AccessId} {rest : List Act} (own : mine id)
      (later : Reseats mine (some id) rest seat') :
      Reseats mine none (.hook .attach id :: rest) seat'
  | detach {seat' : Option AccessId} {id : AccessId} {rest : List Act} (own : mine id)
      (later : Reseats mine none rest seat') :
      Reseats mine (some id) (.hook .detach id :: .close id :: rest) seat'

namespace Reseats

theorem append {seat'' : Option AccessId} {more : List Act} (first : Reseats mine seat acts seat')
    (second : Reseats mine seat' more seat'') : Reseats mine seat (acts ++ more) seat'' := by
  induction first with
  | done => exact second
  | aside passes _ ih => exact .aside passes (ih second)
  | attach own _ ih => exact .attach own (ih second)
  | detach own _ ih => exact .detach own (ih second)

/-! ## One access -/

/-- The access of another device. -/
theorem others (t : Transition) (others : ¬mine id) : Reseats mine seat (turned t id) seat := by
  cases t with
  | attach => exact .aside others .done
  | detach => exact .aside others (.aside others .done)

/-- What is told of a hook does not concern the device. -/
theorem announced {t : Transition} (turns : Reseats mine seat (turned t id) seat') :
    Reseats mine seat (announced t id) seat' := by
  have told : Reseats mine seat' [.event t.event id.side] seat' := .aside trivial .done
  cases t <;> exact .aside trivial (turns.append told)

/-! ## Some accesses -/

section Blocks

-- what is done for an access, with or without telling
variable {block : Transition → AccessId → List Act}
  (told : ∀ {t id seat seat'}, Reseats mine seat (turned t id) seat' →
    Reseats mine seat (block t id) seat')
include told

/-- By induction on the accesses. -/
theorem detachEach (ids : List AccessId) : ∀ {seat : Option AccessId}, ids.Nodup →
    (∀ id, seat = some id → mine id) → (∀ id ∈ ids, mine id → seat = some id) →
    ∃ seat', Reseats mine seat (ids.flatMap (block .detach)) seat' ∧
      ∀ id, seat' = some id ↔ seat = some id ∧ id ∉ ids := by
  induction ids with
  | nil =>
    intro seat _ _ _
    exact ⟨seat, .done, fun id => (and_iff_left List.not_mem_nil).symm⟩
  | cons first rest ih =>
    intro seat nodup own sits
    obtain ⟨once, nodup⟩ := List.nodup_cons.mp nodup
    obtain ⟨here, later⟩ := List.forall_mem_cons.mp sits
    by_cases first_mine : mine first
    · -- the others are not of the device, which sits nowhere else
      have seated := here first_mine
      subst seated
      have nobody : ∀ id ∈ rest, mine id → none = some id := by
        intro id inside owned
        cases later id inside owned
        exact absurd inside once
      have nowhere : ∀ id, none = some id → mine id := nofun
      obtain ⟨seat', reseats, ends⟩ := ih nodup nowhere nobody
      have leaves : Reseats mine (some first) (turned .detach first) none :=
        .detach first_mine .done
      refine ⟨seat', (told leaves).append reseats, fun id => (ends id).trans ?_⟩
      constructor
      · rintro ⟨⟨⟩, -⟩
      · rintro ⟨⟨⟩, stays⟩
        exact absurd List.mem_cons_self stays
    · obtain ⟨seat', reseats, ends⟩ := ih nodup own later
      refine ⟨seat', (told (others .detach first_mine)).append reseats,
        fun id => (ends id).trans (and_congr_right fun seated => ?_)⟩
      have differs : id ≠ first := by
        rintro rfl
        exact first_mine (own id seated)
      rw [List.mem_cons, not_or]
      exact (and_iff_right differs).symm

/-- By induction on the accesses. -/
theorem attachEach (ids : List AccessId) : ∀ {seat : Option AccessId}, ids.Nodup →
    (∀ a ∈ ids, ∀ b ∈ ids, mine a → mine b → a = b) → (∀ id ∈ ids, mine id → seat = none) →
    ∃ seat', Reseats mine seat (ids.flatMap (block .attach)) seat' ∧
      ∀ id, seat' = some id ↔ seat = some id ∨ id ∈ ids ∧ mine id := by
  induction ids with
  | nil =>
    intro seat _ _ _
    refine ⟨seat, .done, fun id => (or_iff_left ?_).symm⟩
    exact fun inside => List.not_mem_nil inside.1
  | cons first rest ih =>
    intro seat nodup alone free
    obtain ⟨once, nodup⟩ := List.nodup_cons.mp nodup
    obtain ⟨here, later⟩ := List.forall_mem_cons.mp free
    have alone_later : ∀ a ∈ rest, ∀ b ∈ rest, mine a → mine b → a = b :=
      fun a inA b inB => alone a (.tail _ inA) b (.tail _ inB)
    by_cases first_mine : mine first
    · have empty := here first_mine
      subst empty
      have nobody : ∀ id ∈ rest, ¬mine id := by
        intro id inside owned
        have same := alone id (List.mem_cons_of_mem _ inside) first List.mem_cons_self owned
          first_mine
        exact once (same ▸ inside)
      have free : ∀ id ∈ rest, mine id → some first = none :=
        fun id inside owned => absurd owned (nobody id inside)
      obtain ⟨seat', reseats, ends⟩ := ih nodup alone_later free
      have comes : Reseats mine none (turned .attach first) (some first) :=
        .attach first_mine .done
      refine ⟨seat', (told comes).append reseats, fun id => (ends id).trans ?_⟩
      rw [Option.some_inj, List.mem_cons]
      constructor
      · rintro (rfl | ⟨inside, owned⟩)
        · exact .inr ⟨.inl rfl, first_mine⟩
        · exact absurd owned (nobody id inside)
      · rintro (seated | ⟨rfl | inside, owned⟩)
        · cases seated
        · exact .inl rfl
        · exact absurd owned (nobody id inside)
    · obtain ⟨seat', reseats, ends⟩ := ih nodup alone_later later
      refine ⟨seat', (told (others .attach first_mine)).append reseats,
        fun id => (ends id).trans (or_congr_right (and_congr_left fun owned => ?_))⟩
      have differs : id ≠ first := by
        rintro rfl
        exact first_mine owned
      rw [List.mem_cons]
      exact (or_iff_right differs).symm

end Blocks

end Reseats

/-! ## Commands -/

/-- The access through which a device is attached, if any, and no other. -/
def Sole (s : Lifecycle) (mine : AccessId → Prop) (seat : Option AccessId) : Prop :=
  ∀ id, seat = some id ↔ mine id ∧ s.Attached id

/-- A device sits in one slot at most. -/
def Alone (s : Lifecycle) (mine : AccessId → Prop) : Prop :=
  ∀ a b, mine a → mine b → s.occupant a.side = some a → s.occupant b.side = some b → a = b

/-- Some accesses are detached, and then others attached. -/
theorem Sole.turn {block : Transition → AccessId → List Act}
    (told : ∀ {t id seat seat'}, Reseats mine seat (turned t id) seat' →
      Reseats mine seat (block t id) seat')
    (sole : s.Sole mine seat) (alone : s'.Alone mine) {leaving coming : List AccessId}
    (leavers : leaving.Nodup) (comers : coming.Nodup) (left : ∀ id ∈ leaving, s.Attached id)
    (came : ∀ id ∈ coming, ¬s.Attached id)
    (after : ∀ id, s'.Attached id ↔ s.Attached id ∧ id ∉ leaving ∨ id ∈ coming) :
    ∃ seat', Reseats mine seat
      (leaving.flatMap (block .detach) ++ coming.flatMap (block .attach)) seat' ∧
      s'.Sole mine seat' := by
  have one {a b : AccessId} (ours : mine a) (too : mine b) (there : s'.Attached a)
      (here : s'.Attached b) : a = b := alone a b ours too there.2 here.2
  obtain ⟨empty, detaches, stays⟩ := Reseats.detachEach told leaving leavers
    (fun id seated => ((sole id).mp seated).1)
    fun id inside owned => (sole id).mpr ⟨owned, left id inside⟩
  -- whoever stays is attached in the end, next to whoever comes
  have free : ∀ id ∈ coming, mine id → empty = none := by
    intro id inside owned
    cases seated : empty with
    | none => rfl
    | some other =>
      obtain ⟨before, still⟩ := (stays other).mp seated
      obtain ⟨ours, attached⟩ := (sole other).mp before
      have same := one owned ours ((after id).mpr (.inr inside))
        ((after other).mpr (.inl ⟨attached, still⟩))
      exact absurd (same ▸ attached) (came id inside)
  obtain ⟨seat', attaches, ends⟩ := Reseats.attachEach told coming comers
    (fun a inA b inB ours too => one ours too ((after a).mpr (.inr inA)) ((after b).mpr (.inr inB)))
    free
  refine ⟨seat', detaches.append attaches, fun id => (ends id).trans ?_⟩
  rw [stays, sole id, after]
  tauto

/-- A command changes the table, and then it turns a device. -/
def Turns (s : Lifecycle) (mine : AccessId → Prop) (seat : Option AccessId) (c : Command) :
    Prop :=
  ∃ rest seat', (s.step c).1 = .table c :: rest ∧ Reseats mine seat rest seat' ∧
    (s.step c).2.Sole mine seat'

/-! ### An exchange -/

theorem leaving_nodup (s : Lifecycle) (side : Side) : (s.leaving side).Nodup := by
  unfold leaving
  split
  · cases s.occupant side with
    | none => exact List.nodup_nil
    | some id => exact List.nodup_singleton id
  · exact List.nodup_nil

theorem coming_nodup (s : Lifecycle) (side : Side) (device : Option DeviceId) :
    (s.coming side device).Nodup := by
  unfold coming
  split
  · cases device with
    | none => exact List.nodup_nil
    | some d => exact List.nodup_singleton _
  · exact List.nodup_nil

theorem mem_coming {side : Side} {device : Option DeviceId} : id ∈ s.coming side device ↔
    s.running = true ∧ id = s.next side ∧ device.isSome = true := by
  unfold coming
  by_cases runs : s.running = true
  · cases device <;> simp [runs]
  · simp [runs]

/-- Whoever is attached after an exchange was and stays, or comes. -/
theorem attached_exchange_iff {side : Side} {device : Option DeviceId} :
    (s.exchange side device).Attached id ↔
      s.Attached id ∧ id ∉ s.leaving side ∨ id ∈ s.coming side device := by
  rw [and_comm, stays_iff, mem_coming]
  cases device with
  | none => exact attached_clear.trans (or_iff_left fun comes => nomatch comes.2.2).symm
  | some d =>
    exact attached_put.trans (or_congr_right (and_congr_right fun _ => (and_iff_left rfl).symm))

theorem Sole.turns_set (sole : s.Sole mine seat) {side : Side} {device : Option DeviceId}
    (alone : (s.exchange side device).Alone mine) : s.Turns mine seat (.set side device) := by
  obtain ⟨seat', reseats, ends⟩ := sole.turn Reseats.announced alone (s.leaving_nodup side)
    (s.coming_nodup side device) (fun id inside => (mem_leaving.mp inside).1)
    (fun id inside => (mem_coming.mp inside).2.1 ▸ s.not_attached_next side)
    fun _ => attached_exchange_iff
  exact ⟨_, seat', rfl, reseats, ends⟩

/-! ### A start and a stop -/

theorem step_start (rests : s.running = false) : s.step .start =
    (.table .start :: s.occupants.flatMap (turned .attach), s.setRunning true) := by
  unfold step
  rw [rests]
  rfl

theorem step_stop (runs : s.running = true) : s.step .stop =
    (.table .stop :: s.occupants.flatMap (turned .detach), s.setRunning false) := by
  unfold step
  rw [runs]
  rfl

theorem Sole.turns_start (sole : s.Sole mine seat) (rests : s.running = false)
    (alone : (s.setRunning true).Alone mine) : s.Turns mine seat .start := by
  have nobody := not_attached_of_rests rests
  have after (id : AccessId) : (s.setRunning true).Attached id ↔
      s.Attached id ∧ id ∉ [] ∨ id ∈ s.occupants := by
    rw [or_iff_right fun stays => nobody id stays.1, mem_occupants]
    exact ⟨And.right, fun sits => ⟨rfl, sits⟩⟩
  obtain ⟨seat', reseats, ends⟩ := sole.turn (fun turns => turns) alone
    List.nodup_nil s.occupants_nodup nofun (fun id _ => nobody id) after
  unfold Turns
  rw [step_start rests]
  exact ⟨_, seat', rfl, reseats, ends⟩

theorem Sole.turns_stop (sole : s.Sole mine seat) (runs : s.running = true)
    (alone : (s.setRunning false).Alone mine) : s.Turns mine seat .stop := by
  have after (id : AccessId) : (s.setRunning false).Attached id ↔
      s.Attached id ∧ id ∉ s.occupants ∨ id ∈ [] := by
    rw [or_iff_left List.not_mem_nil, mem_occupants]
    exact iff_of_false (not_attached_of_rests rfl id) fun stays => stays.2 stays.1.2
  obtain ⟨seat', reseats, ends⟩ := sole.turn (fun turns => turns) alone
    s.occupants_nodup List.nodup_nil (fun id inside => ⟨runs, mem_occupants.mp inside⟩) nofun after
  unfold Turns
  rw [step_stop runs]
  rw [List.flatMap_nil, List.append_nil] at reseats
  exact ⟨_, seat', rfl, reseats, ends⟩

/-- A command that does anything turns each device. -/
theorem step_reseats (sole : s.Sole mine seat) (c : Command) (alone : (s.step c).2.Alone mine) :
    s.step c = ([], s) ∨ s.Turns mine seat c := by
  cases c with
  | set side device => exact .inr (sole.turns_set alone)
  | start =>
    cases runs : s.running with
    | true => exact .inl (if_pos runs)
    | false =>
      rw [step_start runs] at alone
      exact .inr (sole.turns_start runs alone)
  | stop =>
    cases runs : s.running with
    | false =>
      left
      unfold step
      rw [runs]
      rfl
    | true =>
      rw [step_stop runs] at alone
      exact .inr (sole.turns_stop runs alone)

/-- Whoever a command attaches is attached when it is done. -/
theorem attached_of_hook {c : Command} (here : .hook .attach id ∈ (s.step c).1) :
    (s.step c).2.Attached id := by
  have once : Transition.attach ∈ hookOf id (.hook .attach id) := by
    unfold hookOf
    simp only [if_true, List.mem_singleton]
  have inside : Transition.attach ∈ hooksOf id (s.step c).1 :=
    List.mem_flatMap.mpr ⟨_, here, once⟩
  by_contra after
  rw [step_hooks, turn, if_neg after, if_neg after] at inside
  split at inside
  · cases List.mem_singleton.mp inside
  · cases inside

end DeviceBridge.Lifecycle
