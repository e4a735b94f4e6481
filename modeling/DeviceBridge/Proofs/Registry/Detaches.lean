import DeviceBridge.Proofs.Host.Trace

/-
  Detaches that are under way. A stop claims the detach of every device at once, and then lets the
  hooks run one by one; each access is closed when its hook has returned. Hooks may change the
  registry themselves, so more detaches can be claimed meanwhile. `Settles`: what is still owed is a
  stack. `Program.changes_settle`: a run that is not given up closes all that it claimed, the latest
  first, whatever its hooks do and however they fail.
-/

namespace DeviceBridge

namespace Host

/-! ## Who is known -/

/-- Every access that was ever made. -/
def ids (h : Host) : List AccessId := h.accesses.map Access.id

theorem access?_isSome {h : Host} {id : AccessId} : (h.access? id).isSome ↔ id ∈ h.ids := by
  unfold access? ids
  rw [List.find?_isSome, List.mem_map]
  simp only [decide_eq_true_eq]

/-- Accesses are made, and never forgotten. -/
def Lengthens (h h' : Host) : Prop := h.ids <+: h'.ids

theorem ids_modifyAccess (h : Host) (id : AccessId) (f : Access → Access)
    (named : ∀ a, (f a).id = a.id) : (h.modifyAccess id f).ids = h.ids := by
  unfold modifyAccess ids
  rw [List.map_map]
  refine List.map_congr_left fun a _ => ?_
  by_cases found : a.id = id
  · simp [found, named]
  · simp [found]

theorem ids_link (h : Host) (id : AccessId) : (h.link id).2.ids = h.ids := by
  unfold link
  split
  · rfl
  · split
    · rfl
    · exact ids_modifyAccess h id _ fun _ => rfl

theorem ids_unlink (h : Host) (id : AccessId) : (h.unlink id).2.ids = h.ids := by
  unfold unlink
  split
  · rfl
  · split
    · exact ids_modifyAccess h id _ fun _ => rfl
    · rfl

theorem ids_claim {transition : Host → AccessId → Bool × Host}
    (each : ∀ h id, (transition h id).2.ids = h.ids) (claimed : List AccessId) :
    ∀ h : Host, (h.claim transition claimed).2.ids = h.ids := by
  induction claimed with
  | nil => exact fun _ => rfl
  | cons id rest ih => exact fun h => (ih _).trans (each h id)

/-- Only what is known can be claimed. -/
theorem claim_known {transition : Host → AccessId → Bool × Host}
    (each : ∀ h id, (transition h id).2.ids = h.ids)
    (known : ∀ h id, (transition h id).1 = true → id ∈ h.ids) (ids : List AccessId) :
    ∀ (h : Host), ∀ id ∈ (h.claim transition ids).1, id ∈ h.ids := by
  induction ids with
  | nil => exact fun h id here => absurd here List.not_mem_nil
  | cons first rest ih =>
    intro h id here
    have others := ih (transition h first).2 id
    rw [each] at others
    unfold claim at here
    simp only at here
    split at here
    · next claimed =>
      rcases List.mem_cons.mp here with rfl | later
      · exact known h id claimed
      · exact others later
    · exact others here

theorem link_known (h : Host) (id : AccessId) (claimed : (h.link id).1 = true) : id ∈ h.ids := by
  unfold link at claimed
  split at claimed
  · cases claimed
  · next a found => exact access?_isSome.mp (Option.isSome_iff_exists.mpr ⟨a, found⟩)

theorem unlink_known (h : Host) (id : AccessId) (claimed : (h.unlink id).1 = true) :
    id ∈ h.ids := by
  unfold unlink at claimed
  split at claimed
  · cases claimed
  · next a found => exact access?_isSome.mp (Option.isSome_iff_exists.mpr ⟨a, found⟩)

theorem ids_replace (h : Host) (side : Side) (new : Option AccessId) :
    (h.replace side new).2.2.ids = h.ids := by
  have detached := ids_claim ids_unlink (h.slots side).toList h
  unfold replace
  simp only
  split
  · exact (ids_claim ids_link new.toList _).trans detached
  · exact detached

theorem ids_congr {h h' : Host}
    (accesses : h'.accesses.map Access.withoutMounts = h.accesses.map Access.withoutMounts) :
    h'.ids = h.ids := by
  have same := congrArg (List.map Access.id) accesses
  rw [List.map_map, List.map_map] at same
  exact same

theorem ids_served {h h' : Host} (served : Served h h') : h'.ids = h.ids :=
  ids_congr served.accesses

namespace Lengthens

theorem ofSame {h h' : Host} (same : h'.ids = h.ids) : Lengthens h h' := by
  show h.ids <+: h'.ids
  exact same ▸ List.prefix_rfl

theorem install (h : Host) (side : Side) (device : DeviceId) :
    Lengthens h (h.install side device).2 := by
  show h.ids <+: (h.install side device).2.ids
  unfold Host.install
  cases h.device? device with
  | none => exact List.prefix_rfl
  | some d =>
    unfold ids
    simp only [List.map_append]
    exact List.prefix_append ..

theorem exchange (h : Host) (side : Side) (device : Option DeviceId) :
    Lengthens h (h.exchange side device).2.2 := by
  cases device with
  | none => exact ofSame (ids_replace h side none)
  | some device =>
    exact List.IsPrefix.trans (install h side device)
      (ofSame (ids_replace (h.install side device).2 side (h.install side device).1))

theorem kept : Kept Lengthens where
  trans := List.IsPrefix.trans
  served served := ofSame (ids_served served)
  enqueue h completion body := List.prefix_rfl
  exchange := exchange
  linkAll h := ofSame (ids_claim ids_link h.occupants { h with running := true })
  unlinkAll h := ofSame (ids_claim ids_unlink h.occupants { h with running := false })
  close h id := by
    have same := ids_modifyAccess (h.unmountAll id) id (fun a => { a with attached := false })
      fun _ => rfl
    exact ofSame (same.trans (ids_served (unmountAll_served h id)))

theorem mem {h h' : Host} (longer : Lengthens h h') {id : AccessId} (known : id ∈ h.ids) :
    id ∈ h'.ids := longer.subset known

end Lengthens

/-! ## What is owed -/

/-- The accesses whose detach a change claims. -/
def leaving (h : Host) : Change → List AccessId
  | .exchange side device => (h.exchange side device).1
  | .unlinkAll => h.unlinkAll.1
  | _ => []

/-- Some changes close what is owed, and whatever comes to be owed on the way, the latest first. -/
inductive Settles : List AccessId → Host → List Change → Prop where
  | done {h : Host} : Settles [] h []
  | change {owed : List AccessId} {h : Host} {c : Change} {rest : List Change}
      (opens : ∀ id, c ≠ .close id) (settles : Settles (h.leaving c ++ owed) (h.after c) rest) :
      Settles owed h (c :: rest)
  | close {id : AccessId} {owed : List AccessId} {h : Host} {rest : List Change}
      (settles : Settles owed (h.close id) rest) : Settles (id :: owed) h (.close id :: rest)

namespace Settles

theorem append {owed later : List AccessId} {h : Host} {changes more : List Change}
    (first : Settles owed h changes) (second : Settles later (h.replay changes) more) :
    Settles (owed ++ later) h (changes ++ more) := by
  induction first with
  | done => exact second
  | change opens _ ih =>
    refine .change opens ?_
    rw [← List.append_assoc]
    exact ih second
  | close _ ih => exact .close (ih second)

/-- A change that claims no detach. -/
theorem single {h : Host} {c : Change} (opens : ∀ id, c ≠ .close id) (claims : h.leaving c = []) :
    Settles [] h [c] := by
  refine .change opens ?_
  rw [claims]
  exact .done

end Settles

/-- What becomes of a command or a step of one: it is given up, or it settles what is owed. -/
def Comes (owed : List AccessId) (h : Host) (changes : List Change)
    (result : Except Escape Unit) : Prop :=
  result = .error .exhausted ∨ result = .ok () ∧ Settles owed h changes

/-- Who is to be closed after a transition. -/
def due : Transition → AccessId → List AccessId
  | .attach, _ => []
  | .detach, id => [id]

section Runner

variable {run : Runner} {trace : Tracer} (replays : ∀ p h, (run p h).2 = h.replay (trace p h))
  (settles : ∀ p h, (run p h).1 = .failed (.escaped .exhausted) ∨ Settles [] h (trace p h))
include replays settles

theorem runHook_comes (t : Transition) (h : Host) (a : Access) :
    Comes [] h (h.runHookChanges run trace t a) (h.runHook run t a).1 := by
  unfold runHook runHookChanges
  cases h.device? a.device with
  | none => exact .inr ⟨rfl, .done⟩
  | some d =>
    have replayed := replays (t.hook d a.device a.id) h
    have settled := settles (t.hook d a.device a.id) h
    simp only
    generalize run (t.hook d a.device a.id) h = came at replayed settled ⊢
    obtain ⟨outcome, h'⟩ := came
    rcases settled with rfl | settled
    · exact .inl rfl
    · cases outcome with
      | done | pending => exact .inr ⟨rfl, settled.append .done⟩
      | failed failure =>
        cases failure with
        | raised => exact .inr ⟨rfl, settled.append .done⟩
        | escaped how =>
          cases how with
          | exhausted => exact .inl rfl
          | panic => exact .inr ⟨rfl, settled.append (.single nofun rfl)⟩

theorem pass_comes (t : Transition) (h : Host) (a : Access) :
    Comes (due t a.id) h (h.passChanges run trace t a) (h.pass run t a).1 := by
  have came := runHook_comes replays settles t h a
  unfold pass passChanges
  generalize h.runHook run t a = ran at came ⊢
  obtain ⟨result, h'⟩ := ran
  rcases came with failed | ⟨done, settled⟩
  · cases failed
    exact .inl rfl
  · cases done
    cases t with
    | attach => exact .inr ⟨rfl, settled.append .done⟩
    | detach => exact .inr ⟨rfl, settled.append (.close .done)⟩

omit replays settles in
theorem announce_comes {owed : List AccessId} (t : Transition) (h : Host) (a : Access)
    (passes : ∀ h : Host, Comes owed h (h.passChanges run trace t a) (h.pass run t a).1) :
    Comes owed h (h.announceChanges run trace t a) (h.announce run t a).1 := by
  have came := passes (h.write .debug (t.announcement a))
  have wrote : Settles [] h [.write .debug (t.announcement a)] := .single nofun rfl
  unfold announce announceChanges
  generalize (h.write .debug (t.announcement a)).pass run t a = passed at came ⊢
  obtain ⟨result, h'⟩ := passed
  rcases came with failed | ⟨done, settled⟩
  · cases failed
    exact .inl rfl
  · cases done
    have tells (h : Host) : Settles [] h [.queueEvent t.event [.string a.id.side.name]] :=
      .single nofun rfl
    have told := wrote.append (settled.append (tells _))
    rw [List.nil_append, List.append_nil] at told
    exact .inr ⟨rfl, told⟩

end Runner

/-- By induction on the accesses, which stay known. What each of them owes is `owes`. -/
theorem forEach_comes (owes : AccessId → List AccessId)
    {step : Host → Access → Except Escape Unit × Host} {trace : Host → Access → List Change}
    (replays : ∀ h a, (step h a).2 = h.replay (trace h a))
    (comes : ∀ h a, Comes (owes a.id) h (trace h a) (step h a).1) (ids : List AccessId) :
    ∀ h : Host, (∀ id ∈ ids, id ∈ h.ids) →
      Comes (ids.flatMap owes) h (h.forEachChanges step trace ids) (h.forEach step ids).1 := by
  induction ids with
  | nil => exact fun h _ => .inr ⟨rfl, .done⟩
  | cons id rest ih =>
    intro h known
    obtain ⟨a, found⟩ := Option.isSome_iff_exists.mp (access?_isSome.mpr (known id (.head _)))
    have came := comes h a
    have replayed := replays h a
    rw [access?_id found] at came
    unfold forEach forEachChanges
    rw [found]
    simp only
    generalize step h a = stepped at came replayed ⊢
    obtain ⟨result, h'⟩ := stepped
    rcases came with failed | ⟨done, settled⟩
    · cases failed
      exact .inl rfl
    · cases done
      simp only at replayed ⊢
      subst replayed
      have longer := Lengthens.kept.replay (trace h a) h
      rcases ih _ fun other inside => longer.mem (known other (.tail _ inside)) with
        failed | ⟨done, settled'⟩
      · exact .inl failed
      · exact .inr ⟨done, settled.append settled'⟩

/-! ## Commands -/

theorem linkAll_known (h : Host) : ∀ id ∈ h.linkAll.1, id ∈ h.linkAll.2.ids := by
  intro id here
  show id ∈ ({ h with running := true }.claim link h.occupants).2.ids
  rw [ids_claim ids_link]
  exact claim_known ids_link link_known _ _ id here

theorem unlinkAll_known (h : Host) : ∀ id ∈ h.unlinkAll.1, id ∈ h.unlinkAll.2.ids := by
  intro id here
  show id ∈ ({ h with running := false }.claim unlink h.occupants).2.ids
  rw [ids_claim ids_unlink]
  exact claim_known ids_unlink unlink_known _ _ id here

theorem replace_known (h : Host) (side : Side) (new : Option AccessId) :
    (∀ id ∈ (h.replace side new).1, id ∈ (h.replace side new).2.2.ids) ∧
      ∀ id ∈ (h.replace side new).2.1, id ∈ (h.replace side new).2.2.ids := by
  have same := ids_claim ids_unlink (h.slots side).toList h
  rw [ids_replace]
  refine ⟨claim_known ids_unlink unlink_known _ h, fun id here => ?_⟩
  unfold replace at here
  simp only at here
  split at here
  · have known := claim_known ids_link link_known _ _ id here
    exact same ▸ known
  · exact absurd here List.not_mem_nil

theorem exchange_known (h : Host) (side : Side) (device : Option DeviceId) :
    (∀ id ∈ (h.exchange side device).1, id ∈ (h.exchange side device).2.2.ids) ∧
      ∀ id ∈ (h.exchange side device).2.1, id ∈ (h.exchange side device).2.2.ids := by
  cases device with
  | none => exact replace_known h side none
  | some device => exact replace_known (h.install side device).2 side (h.install side device).1

/-- Every access that is detached is owed. -/
theorem detachEach_comes {step : Host → Access → Except Escape Unit × Host}
    {trace : Host → Access → List Change} (replays : ∀ h a, (step h a).2 = h.replay (trace h a))
    (comes : ∀ h a, Comes [a.id] h (trace h a) (step h a).1) (ids : List AccessId) (h : Host)
    (known : ∀ id ∈ ids, id ∈ h.ids) :
    Comes ids h (h.forEachChanges step trace ids) (h.forEach step ids).1 := by
  have came := forEach_comes (fun id => [id]) replays comes ids h known
  rwa [List.flatMap_singleton'] at came

theorem attachEach_comes {step : Host → Access → Except Escape Unit × Host}
    {trace : Host → Access → List Change} (replays : ∀ h a, (step h a).2 = h.replay (trace h a))
    (comes : ∀ h a, Comes [] h (trace h a) (step h a).1) (ids : List AccessId) (h : Host)
    (known : ∀ id ∈ ids, id ∈ h.ids) :
    Comes [] h (h.forEachChanges step trace ids) (h.forEach step ids).1 := by
  have came := forEach_comes (fun _ => []) replays comes ids h known
  rwa [List.flatMap_def, List.map_const', List.flatten_replicate_nil] at came

section Commands

variable {run : Runner} {trace : Tracer} (replays : ∀ p h, (run p h).2 = h.replay (trace p h))
  (settles : ∀ p h, (run p h).1 = .failed (.escaped .exhausted) ∨ Settles [] h (trace p h))
include replays settles

theorem setDeviceAt_comes (h : Host) (side : Side) (device : Option DeviceId) :
    Comes [] h (h.setChanges run trace side device) (h.setDeviceAt run side device).1 := by
  obtain ⟨left_known, came_known⟩ := exchange_known h side device
  have detaches := detachEach_comes (announce_replay replays .detach)
    (fun h a => announce_comes .detach h a fun h => pass_comes replays settles .detach h a)
    (h.exchange side device).1 (h.exchange side device).2.2 left_known
  have replayed := forEach_replay (announce_replay replays .detach) (h.exchange side device).1
    (h.exchange side device).2.2
  unfold setDeviceAt setChanges
  simp only
  generalize (h.exchange side device).2.2.forEach (announce run .detach)
    (h.exchange side device).1 = came at detaches replayed ⊢
  obtain ⟨result, h'⟩ := came
  rcases detaches with failed | ⟨done, settled⟩
  · cases failed
    exact .inl rfl
  · cases done
    simp only at replayed ⊢
    subst replayed
    have longer := Lengthens.kept.replay ((h.exchange side device).2.2.forEachChanges
      (announce run .detach) (announceChanges run trace .detach) (h.exchange side device).1)
      (h.exchange side device).2.2
    have attaches := attachEach_comes (announce_replay replays .attach)
      (fun h a => announce_comes .attach h a fun h => pass_comes replays settles .attach h a)
      (h.exchange side device).2.1 _ fun id inside => longer.mem (came_known id inside)
    rcases attaches with failed | ⟨done, settled'⟩
    · exact .inl failed
    · exact .inr ⟨done, .change nofun (settled.append settled')⟩

theorem perform_comes (command : Command) (h : Host) :
    Comes [] h (h.performChanges run trace command) (h.perform run command).1 := by
  cases command with
  | set side device => exact setDeviceAt_comes replays settles h side device
  | start =>
    rcases attachEach_comes (pass_replay replays .attach) (pass_comes replays settles .attach)
      h.linkAll.1 h.linkAll.2 (linkAll_known h) with failed | ⟨done, settled⟩
    · exact .inl failed
    · exact .inr ⟨done, .change nofun settled⟩
  | stop =>
    rcases detachEach_comes (pass_replay replays .detach) (pass_comes replays settles .detach)
      h.unlinkAll.1 h.unlinkAll.2 (unlinkAll_known h) with failed | ⟨done, settled⟩
    · exact .inl failed
    · refine .inr ⟨done, .change nofun ?_⟩
      rw [List.append_nil]
      exact settled

omit replays in
theorem callDevice_settles (args : Arguments) (h : Host) :
    (h.callDevice run args).1 = .failed (.escaped .exhausted) ∨
      Settles [] h (h.callChanges trace args) := by
  unfold callDevice callChanges
  cases h.route args with
  | error => exact .inr .done
  | ok target =>
    obtain ⟨a, method, rest⟩ := target
    unfold callMethod
    simp only
    cases h.methodCode a method rest with
    | none => exact .inr .done
    | some code =>
      rcases settles code h with failed | settled
      · refine .inl ?_
        simp only
        rw [failed]
        rfl
      · exact .inr settled

end Commands

end Host

/-- By induction on the code. To be given up is what no code can catch. -/
theorem Code.exec_settles {nested : Nested} {traced : NestedChanges}
    (replays : ∀ c h, (nested.command c h).2 = h.replay (traced.command c h))
    (calls : ∀ args h, (nested.call args h).2 = h.replay (traced.call args h))
    (call : ∀ args h, (nested.call args h).1 = .failed (.escaped .exhausted) ∨
      Host.Settles [] h (traced.call args h))
    (command : ∀ c h, Host.Comes [] h (traced.command c h) (nested.command c h).1)
    (body : Code) : ∀ h : Host, (body.exec nested h).1 = .failed (.escaped .exhausted) ∨
      Host.Settles [] h (body.changes nested traced h) := by
  have asks (request : Request) (id : AccessId) : Change.ask request ≠ .close id := by
    intro same
    cases same
  have queues (completion : Completion) (body : Code) (id : AccessId) :
      Change.enqueue completion body ≠ .close id := by
    intro same
    cases same
  induction body with
  | done | fail | suspend | await => exact fun h => .inr .done
  | ask request next ih =>
    intro h
    rcases ih (h.answer request).1 (h.answer request).2 with failed | settled
    · exact .inl failed
    · exact .inr (.change (asks request) settled)
  | command c next ih =>
    intro h
    have came := command c h
    have replayed := replays c h
    unfold exec changes
    generalize nested.command c h = performed at came replayed ⊢
    obtain ⟨result, h'⟩ := performed
    rcases came with failed | ⟨done, settled⟩
    · cases failed
      exact .inl rfl
    · cases done
      simp only at replayed ⊢
      rcases ih h' with failed | settled'
      · exact .inl failed
      · rw [replayed] at settled' ⊢
        exact .inr (settled.append settled')
  | enqueue completion body next _ _ ih =>
    intro h
    rcases ih (h.enqueue completion body).1 (h.enqueue completion body).2 with failed | settled
    · exact .inl failed
    · exact .inr (.change (queues completion body) settled)
  | call args => exact call args
  | attempt body next ihBody ihNext =>
    intro h
    have came := ihBody h
    have replayed := body.exec_replay calls replays h
    unfold exec changes
    generalize body.exec nested h = ran at came replayed ⊢
    obtain ⟨outcome, h'⟩ := ran
    simp only at came replayed ⊢
    rcases came with rfl | settled
    · exact .inl rfl
    · cases outcome.toAttempt with
      | error how => exact .inr (settled.append .done)
      | ok seen =>
        rcases ihNext seen h' with failed | settled'
        · exact .inl failed
        · simp only
          rw [replayed] at settled' ⊢
          exact .inr (settled.append settled')
  | adjustWait body amount ih | adjustError body amount ih =>
    intro h
    rcases ih h with failed | settled
    · refine .inl ?_
      unfold exec
      simp only
      rw [failed]
      rfl
    · exact .inr settled

/-- A run that is not given up closes every access whose detach it claimed, by induction on the
bound on nested runs. -/
theorem Program.changes_settle (depth : Nat) : ∀ (p : Program) (h : Host),
    (p.run depth h).1 = .failed (.escaped .exhausted) ∨ Host.Settles [] h (p.changes depth h) := by
  have program {nested : Nested} {traced : NestedChanges}
      (replays : ∀ c h, (nested.command c h).2 = h.replay (traced.command c h))
      (calls : ∀ args h, (nested.call args h).2 = h.replay (traced.call args h))
      (call : ∀ args h, (nested.call args h).1 = .failed (.escaped .exhausted) ∨
        Host.Settles [] h (traced.call args h))
      (command : ∀ c h, Host.Comes [] h (traced.command c h) (nested.command c h).1)
      (p : Program) (h : Host) : (p.exec nested h).1 = .failed (.escaped .exhausted) ∨
        Host.Settles [] h (p.changesOf nested traced h) := by
    cases p with
    | code body => exact body.exec_settles replays calls call command h
    | await => exact .inr .done
  induction depth with
  | zero =>
    exact program (fun _ _ => rfl) (fun _ _ => rfl) (fun _ _ => .inl rfl) fun _ _ => .inl rfl
  | succ n ih =>
    have replays := replay_changes n
    exact program (Host.perform_replay replays) (Host.callDevice_replay replays)
      (Host.callDevice_settles ih) (Host.perform_comes replays ih)

end DeviceBridge
