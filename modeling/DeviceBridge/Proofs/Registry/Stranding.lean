import DeviceBridge.Proofs.Registry.Refinement
import DeviceBridge.Proofs.Registry.Turns

/-
  Hooks that change the registry, and whom they strand. While the registry runs, whoever occupies a
  slot is linked (`Seated`), but the services of an access that is linked again during its own
  detach are closed when that detach ends, and nothing opens them. `stranded_iff_recalled`: an
  occupant of a running registry is not attached just if its last link came while a detach of it was
  under way. `waker_strands`: a device that starts the registry when it is detached strands itself.
-/

namespace DeviceBridge.Host

/-! ## Turns without a detach under way -/

/-- The last link came while a detach was under way. -/
def Recalled (turns : List Turn) : Prop :=
  ∃ before after : List Turn, turns = before ++ .link :: after ∧ .link ∉ after ∧
    before.count .close < before.count .unlink

namespace Turn

/-- By induction on the turns: who is linked was not unlinked since the last link, or from the
start. -/
theorem linked_cases (turns : List Turn) : ∀ f : Bool × Bool, (follow turns f).1 = true →
    (∃ before after, turns = before ++ link :: after ∧ ∀ t ∈ after, t = close) ∨
      f.1 = true ∧ ∀ t ∈ turns, t = close := by
  induction turns with
  | nil => exact fun f linked => .inr ⟨linked, fun t here => absurd here List.not_mem_nil⟩
  | cons t rest ih =>
    intro f linked
    rcases ih (t.on f) linked with ⟨before, after, rfl, closes⟩ | ⟨first, closes⟩
    · exact .inl ⟨t :: before, after, rfl, closes⟩
    · cases t with
      | link => exact .inl ⟨[], rest, rfl, closes⟩
      | unlink => cases first
      | close => exact .inr ⟨first, List.forall_mem_cons.mpr ⟨rfl, closes⟩⟩

theorem follow_closes {turns : List Turn} (closes : ∀ t ∈ turns, t = close) (linked : Bool) :
    follow turns (linked, true) = (linked, turns.isEmpty) := by
  have same := List.eq_replicate_of_mem closes
  rw [same, follow_replicate]
  cases turns <;> rfl

theorem count_closes {turns : List Turn} (closes : ∀ t ∈ turns, t = close) :
    turns.count close = turns.length ∧ turns.count unlink = 0 := by
  refine ⟨List.count_eq_length.mpr fun t here => (closes t here).symm, ?_⟩
  refine List.count_eq_zero.mpr fun here => ?_
  cases closes unlink here

/-- Who is linked but not attached was linked while a detach was under way, if every detach came to
an end. -/
theorem recalled_iff {turns : List Turn} (linked : (follow turns (false, false)).1 = true)
    (balanced : turns.count close = turns.count unlink) :
    (follow turns (false, false)).2 = false ↔ Recalled turns := by
  have flags_last {before after : List Turn} (closes : ∀ t ∈ after, t = close) :
      (follow (before ++ link :: after) (false, false)).2 = after.isEmpty := by
    rw [follow_append]
    show (follow after (true, true)).2 = _
    rw [follow_closes closes]
  have counts {before after : List Turn} (closes : ∀ t ∈ after, t = close)
      (balanced : (before ++ link :: after).count close = (before ++ link :: after).count unlink) :
      before.count close + after.length = before.count unlink := by
    obtain ⟨all, none⟩ := count_closes closes
    rw [List.count_append, List.count_append, List.count_cons, List.count_cons, all, none]
      at balanced
    simpa using balanced
  constructor
  · intro closed
    rcases linked_cases turns (false, false) linked with
      ⟨before, after, rfl, closes⟩ | ⟨never, -⟩
    · rw [flags_last closes] at closed
      have some : 0 < after.length := by
        cases after with
        | nil => cases closed
        | cons => exact Nat.succ_pos _
      have count := counts closes balanced
      refine ⟨before, after, rfl, fun here => ?_, by omega⟩
      cases closes link here
    · cases never
  · rintro ⟨before, after, rfl, last, under⟩
    rw [follow_append] at linked
    rcases linked_cases after (true, true) linked with ⟨_, _, rfl, -⟩ | ⟨-, closes⟩
    · exact absurd (List.mem_append_right _ (.head _)) last
    · have count := counts closes balanced
      rw [flags_last closes]
      cases after with
      | nil =>
        rw [List.length_nil] at count
        omega
      | cons => rfl

end Turn

/-! ## Seats -/

theorem slots_link (h : Host) (id : AccessId) :
    (h.link id).2.slots = h.slots ∧ (h.link id).2.running = h.running := by
  unfold link
  split
  · exact ⟨rfl, rfl⟩
  · split <;> exact ⟨rfl, rfl⟩

theorem slots_unlink (h : Host) (id : AccessId) :
    (h.unlink id).2.slots = h.slots ∧ (h.unlink id).2.running = h.running := by
  unfold unlink
  split
  · exact ⟨rfl, rfl⟩
  · split <;> exact ⟨rfl, rfl⟩

theorem slots_claim {transition : Host → AccessId → Bool × Host}
    (each : ∀ h id, (transition h id).2.slots = h.slots ∧ (transition h id).2.running = h.running)
    (ids : List AccessId) : ∀ h : Host, (h.claim transition ids).2.slots = h.slots ∧
      (h.claim transition ids).2.running = h.running := by
  induction ids with
  | nil => exact fun h => ⟨rfl, rfl⟩
  | cons id rest ih =>
    intro h
    obtain ⟨slots, running⟩ := ih (transition h id).2
    exact ⟨slots.trans (each h id).1, running.trans (each h id).2⟩

/-- Only what is given can be claimed. -/
theorem claim_subset (transition : Host → AccessId → Bool × Host) (ids : List AccessId) :
    ∀ h : Host, (h.claim transition ids).1 ⊆ ids := by
  induction ids with
  | nil => exact fun h => List.Subset.refl []
  | cons id rest ih =>
    intro h
    unfold claim
    simp only
    split
    · exact List.cons_subset_cons id (ih _)
    · exact List.subset_cons_of_subset id (ih _)

theorem link_links (h : Host) {id : AccessId} (known : id ∈ h.ids) :
    ((h.link id).2.flags id).1 = true := by
  obtain ⟨a, found⟩ := Option.isSome_iff_exists.mp (access?_isSome.mpr known)
  have turned := link_turns h id id
  rw [turned]
  split
  · rfl
  · next idle =>
    cases linked : a.linked with
    | true => rw [flags_of_access? found, linked]
    | false =>
      refine absurd ⟨?_, rfl⟩ idle
      unfold link
      rw [found]
      simp [linked]

/-- By induction on the accesses; a link is never undone by another. -/
theorem claim_links (ids : List AccessId) : ∀ (h : Host) {id : AccessId}, id ∈ ids → id ∈ h.ids →
    ((h.claim link ids).2.flags id).1 = true := by
  induction ids with
  | nil => exact fun h id here _ => absurd here List.not_mem_nil
  | cons first rest ih =>
    intro h id here known
    show (((h.link first).2.claim link rest).2.flags id).1 = true
    rcases List.mem_cons.mp here with rfl | later
    · rw [link_turns.claim]
      split
      · rfl
      · exact link_links h known
    · exact ih _ later (by rwa [ids_link])

theorem replace_slots (h : Host) (side : Side) (new : Option AccessId) :
    (h.replace side new).2.2.slots = (h.setSlot side new).slots ∧
      (h.replace side new).2.2.running = h.running := by
  obtain ⟨slots, running⟩ := slots_claim slots_unlink (h.slots side).toList h
  have placed : ((h.claim unlink (h.slots side).toList).2.setSlot side new).slots =
      (h.setSlot side new).slots := by
    unfold setSlot
    rw [slots]
  unfold replace
  simp only
  split
  · obtain ⟨slots', running'⟩ := slots_claim slots_link new.toList
      ((h.claim unlink (h.slots side).toList).2.setSlot side new)
    exact ⟨slots'.trans placed, running'.trans running⟩
  · exact ⟨placed, running⟩

/-- What is put into a slot while the registry runs is linked. -/
theorem replace_links (h : Host) {side : Side} {id : AccessId} (runs : h.running = true)
    (known : id ∈ h.ids) : ((h.replace side (some id)).2.2.flags id).1 = true := by
  have running := (slots_claim slots_unlink (h.slots side).toList h).2.trans runs
  have still : id ∈ ((h.claim unlink (h.slots side).toList).2.setSlot side (some id)).ids := by
    have same := ids_claim ids_unlink (h.slots side).toList h
    exact same ▸ known
  unfold replace
  simp only
  split
  · exact claim_links _ _ (.head _) still
  · next rests => exact absurd running rests

/-- Whoever is made for another side keeps the flags. -/
theorem replace_others (h : Host) {side : Side} {new : Option AccessId}
    (old : ∀ id ∈ h.slots side, id.side = side) (fits : ∀ id ∈ new, id.side = side) {id : AccessId}
    (other : id.side ≠ side) : (h.replace side new).2.2.flags id = h.flags id := by
  have left : id ∉ (h.replace side new).1 := by
    intro here
    exact other (old id (Option.mem_toList.mp (claim_subset unlink _ h here)))
  have came : id ∉ (h.replace side new).2.1 := by
    intro here
    unfold replace at here
    simp only at here
    split at here
    · exact other (fits id (Option.mem_toList.mp (claim_subset link _ _ here)))
    · exact absurd here List.not_mem_nil
  rw [flags_replace, Turn.follow_append, Turn.follow_count, Turn.follow_count, if_neg left,
    if_neg came]

/-- Whoever occupies a slot was made for it, and is linked while the registry runs. -/
structure Seated (h : Host) : Prop where
  here : ∀ side id, h.slots side = some id → id.side = side ∧ id ∈ h.ids
  linked : h.running = true → ∀ side id, h.slots side = some id → (h.flags id).1 = true

namespace Seated

/-- A change that leaves the slots and the links alone. -/
theorem ofSame {h h' : Host} (seated : h.Seated) (slots : h'.slots = h.slots)
    (running : h'.running = h.running) (ids : h.ids <+: h'.ids)
    (links : ∀ id, (h'.flags id).1 = (h.flags id).1) : h'.Seated := by
  refine ⟨fun side id sits => ?_, fun runs side id sits => ?_⟩
  · rw [slots] at sits
    obtain ⟨made, known⟩ := seated.here side id sits
    exact ⟨made, ids.subset known⟩
  · rw [slots] at sits
    rw [links]
    exact seated.linked (running ▸ runs) side id sits

theorem replace {h : Host} (seated : h.Seated) {side : Side} {new : Option AccessId}
    (fits : ∀ id ∈ new, id.side = side ∧ id ∈ h.ids) : (h.replace side new).2.2.Seated := by
  obtain ⟨slots, running⟩ := replace_slots h side new
  refine ⟨fun s id sits => ?_, fun runs s id sits => ?_⟩
  · rw [slots] at sits
    unfold setSlot at sits
    simp only at sits
    rw [ids_replace]
    split at sits
    · next mine =>
      rw [mine]
      exact fits id sits
    · exact seated.here s id sits
  · rw [slots] at sits
    rw [running] at runs
    unfold setSlot at sits
    simp only at sits
    split at sits
    · rw [sits]
      exact replace_links h runs (fits id sits).2
    · next differs =>
      obtain ⟨made, -⟩ := seated.here s id sits
      rw [replace_others h (fun id sits => (seated.here side id sits).1)
        (fun id new => (fits id new).1) (made ▸ differs)]
      exact seated.linked runs s id sits

theorem install {h : Host} (seated : h.Seated) (side : Side) (device : DeviceId) :
    (h.install side device).2.Seated ∧
      ∀ id ∈ (h.install side device).1, id.side = side ∧ id ∈ (h.install side device).2.ids := by
  have flags := flags_install h side device
  unfold Host.install at flags ⊢
  cases found : h.device? device with
  | none => exact ⟨seated, nofun⟩
  | some d =>
    rw [found] at flags
    simp only at flags ⊢
    refine ⟨seated.ofSame rfl rfl ?_ fun id => congrArg Prod.fst (flags id), ?_⟩
    · unfold ids
      simp only [List.map_append]
      exact List.prefix_append ..
    · rintro id ⟨⟩
      refine ⟨rfl, ?_⟩
      unfold ids
      simp only [List.map_append]
      exact List.mem_append_right _ (.head _)

theorem linkAll {h : Host} (seated : h.Seated) : h.linkAll.2.Seated := by
  obtain ⟨slots, -⟩ := slots_claim slots_link h.occupants { h with running := true }
  have same := ids_claim ids_link h.occupants { h with running := true }
  refine ⟨fun side id sits => ?_, fun _ side id sits => ?_⟩
  · show id.side = side ∧ id ∈ ({ h with running := true }.claim link h.occupants).2.ids
    rw [same]
    exact seated.here side id (slots ▸ sits)
  · have sat : h.slots side = some id := by
      rw [← sits]
      exact (congrFun slots side).symm
    have among : id ∈ h.occupants := List.mem_filterMap.mpr ⟨side, Side.mem_all side, sat⟩
    exact claim_links h.occupants _ among (seated.here side id sat).2

theorem unlinkAll {h : Host} (seated : h.Seated) : h.unlinkAll.2.Seated := by
  obtain ⟨slots, running⟩ := slots_claim slots_unlink h.occupants { h with running := false }
  have same := ids_claim ids_unlink h.occupants { h with running := false }
  refine ⟨fun side id sits => ?_, fun runs => ?_⟩
  · show id.side = side ∧ id ∈ ({ h with running := false }.claim unlink h.occupants).2.ids
    rw [same]
    exact seated.here side id (slots ▸ sits)
  · have rests : h.unlinkAll.2.running = false := running
    rw [rests] at runs
    cases runs

/-- A step lemma: each single change leaves whoever occupies a slot in place. -/
theorem after {h : Host} (seated : h.Seated) (c : Change) : (h.after c).Seated := by
  have ids := Lengthens.kept.after h c
  cases c with
  | ask request =>
    have served := answer_served h request
    exact seated.ofSame served.slots served.running ids fun id =>
      congrArg Prod.fst (flags_served served id)
  | enqueue | write | queueEvent => exact seated.ofSame rfl rfl ids fun id => rfl
  | exchange side device =>
    cases device with
    | none => exact seated.replace nofun
    | some device =>
      obtain ⟨seated', fits⟩ := seated.install side device
      exact seated'.replace fits
  | linkAll => exact seated.linkAll
  | unlinkAll => exact seated.unlinkAll
  | close id =>
    have served := unmountAll_served h id
    refine seated.ofSame served.slots served.running ids fun other => ?_
    rw [flags_after]
    unfold turnsAt closing
    show (Turn.follow (if id = other then [.close] else []) (h.flags other)).1 = _
    split <;> rfl

theorem replay (changes : List Change) : ∀ {h : Host}, h.Seated → (h.replay changes).Seated := by
  induction changes with
  | nil => exact fun seated => seated
  | cons c rest ih => exact fun seated => ih (seated.after c)

end Seated

theorem Fresh.seated {h : Host} (fresh : h.Fresh) : h.Seated := by
  refine ⟨fun side id sits => ?_, fun runs => ?_⟩
  · rw [fresh.slots] at sits
    cases sits
  · rw [fresh.running] at runs
    cases runs

theorem Fresh.flags {h : Host} (fresh : h.Fresh) (id : AccessId) :
    h.flags id = (false, false) := by
  unfold Host.flags access?
  rw [fresh.accesses]
  rfl

/-! ## Runs of commands -/

/-- What some commands change, hooks and what they do included. -/
def performAllChanges (run : Runner) (trace : Tracer) (h : Host) : List Command → List Change
  | [] => []
  | c :: rest =>
    h.performChanges run trace c ++ match h.perform run c with
      | (.ok (), h) => h.performAllChanges run trace rest
      | (.error _, _) => []

/-- The changes of a run of commands. -/
def history (depth : Nat) (h : Host) (commands : List Command) : List Change :=
  h.performAllChanges (Program.run depth) (Program.changes depth) commands

/-- By induction on the commands. -/
theorem performAll_history (depth : Nat) (commands : List Command) : ∀ {h h' : Host},
    h.performAll (Program.run depth) commands = (.ok (), h') →
      h' = h.replay (h.history depth commands) ∧ Settles [] h (h.history depth commands) := by
  induction commands with
  | nil =>
    intro h h' performed
    cases performed
    exact ⟨rfl, .done⟩
  | cons c rest ih =>
    intro h h' performed
    have replayed := perform_replay (Program.replay_changes depth) c h
    have came := perform_comes (Program.replay_changes depth) (Program.changes_settle depth) c h
    unfold performAll at performed
    unfold history performAllChanges
    generalize h.perform (Program.run depth) c = first at performed replayed came ⊢
    obtain ⟨result, h₁⟩ := first
    rcases came with failed | ⟨done, settled⟩
    · cases failed
      cases performed
    · cases done
      obtain ⟨rest_replayed, rest_settled⟩ := ih performed
      simp only at replayed ⊢
      subst replayed
      refine ⟨?_, settled.append rest_settled⟩
      rw [replay_append]
      exact rest_replayed

theorem route_notAttached {h : Host} (seated : h.Seated) {side : Side} {id : AccessId}
    (sits : h.slots side = some id) {args : Arguments} {name method : String}
    (first : args.string 0 = .ok name) (named : Side.ofName? name = some side)
    (second : args.string 1 = .ok method) :
    h.route args = .error (.ofCause .notAttached) ↔ h.isAttached id = false := by
  obtain ⟨-, known⟩ := seated.here side id sits
  obtain ⟨a, found⟩ := Option.isSome_iff_exists.mp (access?_isSome.mpr known)
  obtain ⟨rest, dropped, -⟩ := Arguments.drop_natCast args 2
  have there : h.accessAt name = some a := by
    unfold accessAt
    rw [named, Option.bind_some, sits, Option.bind_some, found]
  have dropped : args.drop 2 = .ok rest := dropped
  unfold route isAttached
  rw [first, second, dropped, found]
  simp only
  rw [there]
  simp only
  cases a.attached <;> simp

/-- After any commands to a fresh registry, whatever their hooks do to it, an occupant of the
running registry is not attached just if its last link came while a detach of it was under way, and
calls fail for it just as long. -/
theorem stranded_iff_recalled (depth : Nat) {h h' : Host} (fresh : h.Fresh)
    (commands : List Command)
    (performed : h.performAll (Program.run depth) commands = (.ok (), h'))
    (runs : h'.running = true) {side : Side} {id : AccessId} (sits : h'.slots side = some id) :
    (h'.isAttached id = false ↔ Recalled (h.turns id (h.history depth commands))) ∧
      ∀ args name method, args.string 0 = .ok name → Side.ofName? name = some side →
        args.string 1 = .ok method →
          (h'.route args = .error (.ofCause .notAttached) ↔ h'.isAttached id = false) := by
  obtain ⟨replayed, settled⟩ := performAll_history depth commands performed
  have seated : h'.Seated := replayed ▸ fresh.seated.replay _
  refine ⟨?_, fun args name method first named second =>
    route_notAttached seated sits first named second⟩
  have flags : h'.flags id =
      Turn.follow (h.turns id (h.history depth commands)) (false, false) := by
    rw [replayed, flags_replay, fresh.flags]
  have linked := seated.linked runs side id sits
  have balanced := settled.count_close id
  rw [List.count_nil, Nat.add_zero] at balanced
  rw [flags] at linked
  rw [isAttached_eq, flags]
  exact Turn.recalled_iff linked balanced

/-! ## A device that strands itself -/

/-- A device that starts the registry when it is detached. -/
def waker : Device :=
  { Device.plain .speaker "waker" (ClassDecl.plain .speaker "Waker" []) .stateless with
    detach := fun _ _ => .command .start Code.unit }

def wakerHost : Host := ((Host.new Config.default).addDevice waker).2

def wakerCommands : List Command := [.set .left (some ⟨0⟩), .start, .stop, .start]

/-- It is installed, and the registry runs and was started once more, but it is not attached and
calls do not reach it. -/
theorem waker_strands : ∃ h', wakerHost.performAll (Program.run 1) wakerCommands = (.ok (), h') ∧
    h'.running = true ∧ h'.slots .left = some ⟨.left, 0⟩ ∧ h'.isAttached ⟨.left, 0⟩ = false ∧
    h'.route (.ofList [.string "left", .string "ping"]) = .error (.ofCause .notAttached) :=
  ⟨_, rfl, rfl, rfl, rfl, rfl⟩

/-- Its last link came while it was being detached. -/
theorem stranded_iff_recalled_waker :
    Recalled (wakerHost.turns ⟨.left, 0⟩ (wakerHost.history 1 wakerCommands)) := by
  obtain ⟨h', performed, runs, sits, closed⟩ : ∃ h',
      wakerHost.performAll (Program.run 1) wakerCommands = (.ok (), h') ∧ h'.running = true ∧
        h'.slots .left = some ⟨.left, 0⟩ ∧ h'.isAttached ⟨.left, 0⟩ = false :=
    ⟨_, rfl, rfl, rfl, rfl⟩
  exact (stranded_iff_recalled 1 ⟨rfl, rfl, rfl⟩ wakerCommands performed runs sits).1.mp closed

end DeviceBridge.Host
