import DeviceBridge.Proofs.Registry.Stranding

/-
  The order that every change of the registry keeps, also in the middle of an operation (`Orderly`):
  whoever occupies a slot was made for it, whoever is linked occupies its slot and the registry runs
  (`SeatsLinked`), and numbers are given once (`Numbered`). Whether services are open is another
  matter, since they close later than links end.
-/

namespace DeviceBridge.Host

variable {h h' : Host} {id : AccessId}

/-! ## Links -/

theorem unlink_unlinks (h : Host) (id : AccessId) : ((h.unlink id).2.flags id).1 = false := by
  unfold unlink
  cases found : h.access? id with
  | none =>
    unfold flags
    rw [found]
  | some a =>
    simp only
    split
    · rw [flags_modifyAccess found (fun a => { a with linked := false }) (fun _ => rfl), if_pos rfl]
    · next idle =>
      rw [flags_of_access? found]
      exact Bool.eq_false_iff.mpr idle

/-- By induction on the accesses; what is unlinked is not linked by the claims behind it. -/
theorem claim_unlinks (ids : List AccessId) : ∀ (h : Host) {id : AccessId}, id ∈ ids →
    ((h.claim unlink ids).2.flags id).1 = false := by
  induction ids with
  | nil => exact fun h id here => absurd here List.not_mem_nil
  | cons first rest ih =>
    intro h id here
    show (((h.unlink first).2.claim unlink rest).2.flags id).1 = false
    rcases List.mem_cons.mp here with rfl | later
    · rw [unlink_turns.claim]
      split
      · rfl
      · exact unlink_unlinks h id
    · exact ih _ later

/-- Who is linked before a claim to unlink, and not claimed, is not among the given. -/
theorem not_mem_of_claim_unlink (h : Host) (ids : List AccessId)
    (stays : id ∉ (h.claim unlink ids).1) (linked : (h.flags id).1 = true) : id ∉ ids := by
  intro here
  have cleared := claim_unlinks ids h here
  rw [unlink_turns.claim, if_neg stays, linked] at cleared
  cases cleared

theorem slots_install (h : Host) (side : Side) (device : DeviceId) :
    (h.install side device).2.slots = h.slots ∧ (h.install side device).2.running = h.running := by
  unfold install
  split <;> exact ⟨rfl, rfl⟩

/-- Only the new occupant is linked, if the registry runs. -/
theorem replace_coming {side : Side} {new : Option AccessId}
    (came : id ∈ (h.replace side new).2.1) : new = some id ∧ h.running = true := by
  unfold replace at came
  simp only at came
  split at came
  · next runs =>
    refine ⟨Option.mem_toList.mp (claim_subset link _ _ came), ?_⟩
    exact (slots_claim slots_unlink _ h).2.symm.trans runs
  · exact absurd came List.not_mem_nil

/-- Whoever is linked sits in its slot, and the registry runs. -/
def SeatsLinked (h : Host) : Prop :=
  ∀ id, (h.flags id).1 = true → h.slots id.side = some id ∧ h.running = true

namespace SeatsLinked

/-- A change that links no one, and leaves those who stay linked where they are. -/
theorem ofFewer (seats : h.SeatsLinked) (slots : h'.slots = h.slots)
    (running : h'.running = h.running)
    (links : ∀ id, (h'.flags id).1 = true → (h.flags id).1 = true) : h'.SeatsLinked := by
  intro id linked
  rw [slots, running]
  exact seats id (links id linked)

theorem replace (seats : h.SeatsLinked) {side : Side} {new : Option AccessId}
    (fits : ∀ id ∈ new, id.side = side) : (h.replace side new).2.2.SeatsLinked := by
  obtain ⟨slots, running⟩ := replace_slots h side new
  intro id linked
  rw [flags_replace, Turn.follow_append, Turn.follow_count, Turn.follow_count] at linked
  rw [slots, running]
  unfold setSlot
  simp only
  by_cases came : id ∈ (h.replace side new).2.1
  · obtain ⟨sits, runs⟩ := replace_coming came
    rw [if_pos (fits id sits), sits]
    exact ⟨rfl, runs⟩
  · rw [if_neg came] at linked
    by_cases left : id ∈ (h.replace side new).1
    · rw [if_pos left] at linked
      cases linked
    · rw [if_neg left] at linked
      obtain ⟨sits, runs⟩ := seats id linked
      have apart := not_mem_of_claim_unlink h _ left linked
      rw [if_neg, sits]
      · exact ⟨rfl, runs⟩
      · intro here
        rw [here] at sits
        exact apart (Option.mem_toList.mpr sits)

theorem install (seats : h.SeatsLinked) (side : Side) (device : DeviceId) :
    (h.install side device).2.SeatsLinked := by
  obtain ⟨slots, running⟩ := slots_install h side device
  refine seats.ofFewer slots running fun id linked => ?_
  rwa [flags_install] at linked

theorem linkAll (seats : h.SeatsLinked) (seated : h.Seated) : h.linkAll.2.SeatsLinked := by
  obtain ⟨slots, running⟩ := slots_claim slots_link h.occupants { h with running := true }
  have slots' : h.linkAll.2.slots = h.slots := slots
  have running' : h.linkAll.2.running = true := running
  intro id linked
  rw [slots', running']
  refine ⟨?_, rfl⟩
  have turned := link_turns.claim h.occupants { h with running := true } id
  have linked' : (({ h with running := true }.claim link h.occupants).2.flags id).1 = true := linked
  rw [turned] at linked'
  split at linked'
  · next came =>
    obtain ⟨side, -, sits⟩ := List.mem_filterMap.mp (claim_subset link _ _ came)
    obtain ⟨mine, -⟩ := seated.here side id sits
    rw [mine]
    exact sits
  · exact (seats id linked').1

theorem unlinkAll (seats : h.SeatsLinked) : h.unlinkAll.2.SeatsLinked := by
  intro id linked
  have turned := unlink_turns.claim h.occupants { h with running := false } id
  have linked' : (({ h with running := false }.claim unlink h.occupants).2.flags id).1 = true :=
    linked
  rw [turned] at linked'
  split at linked'
  · cases linked'
  · next stays =>
    have apart := not_mem_of_claim_unlink { h with running := false } h.occupants stays linked'
    have sits := (seats id linked').1
    exact absurd (List.mem_filterMap.mpr ⟨id.side, Side.mem_all id.side, sits⟩) apart

/-- A step lemma: every single change leaves those who are linked in their slots. -/
theorem after (seats : h.SeatsLinked) (seated : h.Seated) (c : Change) :
    (h.after c).SeatsLinked := by
  cases c with
  | ask request =>
    have served := answer_served h request
    refine seats.ofFewer served.slots served.running fun id linked => ?_
    exact flags_served served id ▸ linked
  | enqueue | write | queueEvent => exact seats.ofFewer rfl rfl fun id linked => linked
  | exchange side device =>
    cases device with
    | none => exact seats.replace nofun
    | some device =>
      exact (seats.install side device).replace fun id new =>
        ((seated.install side device).2 id new).1
  | linkAll => exact seats.linkAll seated
  | unlinkAll => exact seats.unlinkAll
  | close id =>
    have served := unmountAll_served h id
    refine seats.ofFewer served.slots served.running fun other linked => ?_
    rw [flags_after] at linked
    unfold turnsAt closing at linked
    have linked' : (Turn.follow (if id = other then [.close] else []) (h.flags other)).1 = true :=
      linked
    split at linked' <;> exact linked'

end SeatsLinked

/-! ## Numbers -/

/-- Every access has a number below the number of accesses, which is the next to be given. -/
def Numbered (h : Host) : Prop := ∀ id ∈ h.ids, id.number < h.ids.length

/-- What is installed is known by the next number. -/
theorem install_cases (h : Host) (side : Side) (device : DeviceId) :
    h.install side device = (none, h) ∨ (h.install side device).1 = some ⟨side, h.ids.length⟩ ∧
      (h.install side device).2.ids = h.ids ++ [⟨side, h.ids.length⟩] := by
  unfold install ids
  cases h.device? device with
  | none => exact .inl rfl
  | some d =>
    rw [List.length_map]
    exact .inr ⟨rfl, List.map_append⟩

namespace Numbered

theorem congr (numbered : h.Numbered) (same : h'.ids = h.ids) : h'.Numbered := by
  unfold Numbered
  rw [same]
  exact numbered

theorem install (numbered : h.Numbered) (side : Side) (device : DeviceId) :
    (h.install side device).2.Numbered := by
  rcases install_cases h side device with nothing | ⟨-, more⟩
  · rw [nothing]
    exact numbered
  · unfold Numbered
    rw [more, List.length_append]
    intro id here
    rcases List.mem_append.mp here with old | new
    · exact Nat.lt_add_right _ (numbered id old)
    · rw [List.mem_singleton.mp new]
      exact Nat.lt_succ_self _

theorem after (numbered : h.Numbered) (c : Change) : (h.after c).Numbered := by
  cases c with
  | ask request => exact numbered.congr (ids_served (answer_served h request))
  | enqueue | write | queueEvent => exact numbered
  | exchange side device =>
    cases device with
    | none => exact numbered.congr (ids_replace h side none)
    | some device => exact (numbered.install side device).congr (ids_replace _ side _)
  | linkAll => exact numbered.congr (ids_claim ids_link h.occupants { h with running := true })
  | unlinkAll =>
    exact numbered.congr (ids_claim ids_unlink h.occupants { h with running := false })
  | close id =>
    have same := ids_modifyAccess (h.unmountAll id) id (fun a => { a with attached := false })
      fun _ => rfl
    exact numbered.congr (same.trans (ids_served (unmountAll_served h id)))

/-- The next access to be made is not known yet. -/
theorem next_not_known (numbered : h.Numbered) (side : Side) :
    (⟨side, h.ids.length⟩ : AccessId) ∉ h.ids :=
  fun known => Nat.lt_irrefl _ (numbered _ known)

end Numbered

/-- What an exchange does to the table: the slot gets the next access, or none, and nobody else is
linked, nor is that if the registry rests. -/
theorem exchange_table (h : Host) (side : Side) (device : Option DeviceId) :
    ∃ new : Option AccessId, (∀ id, new = some id → id = ⟨side, h.ids.length⟩) ∧
      (h.exchange side device).2.2.slots = (h.setSlot side new).slots ∧
      (h.exchange side device).2.2.running = h.running ∧
      ∀ id ∈ (h.exchange side device).2.1, new = some id ∧ h.running = true := by
  cases device with
  | none =>
    obtain ⟨slots, running⟩ := replace_slots h side none
    exact ⟨none, nofun, slots, running, fun id came => replace_coming came⟩
  | some device =>
    obtain ⟨slots, running⟩ := replace_slots (h.install side device).2 side
      (h.install side device).1
    obtain ⟨same, rests⟩ := slots_install h side device
    refine ⟨(h.install side device).1, fun id made => ?_, slots.trans ?_, running.trans rests,
      fun id came => ?_⟩
    · rcases install_cases h side device with nothing | ⟨named, -⟩
      · rw [nothing] at made
        cases made
      · rw [named] at made
        exact (Option.some.inj made).symm
    · unfold setSlot
      rw [same]
    · obtain ⟨new, runs⟩ := replace_coming came
      exact ⟨new, rests.symm.trans runs⟩

/-! ## The registry between changes -/

/-- What every change keeps. -/
structure Orderly (h : Host) : Prop where
  seated : h.Seated
  seats : h.SeatsLinked
  numbered : h.Numbered

namespace Orderly

theorem fresh (fresh : h.Fresh) : h.Orderly := by
  refine ⟨fresh.seated, fun id linked => ?_, fun id known => ?_⟩
  · rw [fresh.flags] at linked
    cases linked
  · unfold ids at known
    rw [fresh.accesses] at known
    exact absurd known List.not_mem_nil

theorem after (orderly : h.Orderly) (c : Change) : (h.after c).Orderly :=
  ⟨orderly.seated.after c, orderly.seats.after orderly.seated c, orderly.numbered.after c⟩

theorem replay (changes : List Change) : ∀ {h : Host}, h.Orderly → (h.replay changes).Orderly := by
  induction changes with
  | nil => exact fun orderly => orderly
  | cons c rest ih => exact fun orderly => ih (orderly.after c)

theorem elsewhere (orderly : h.Orderly) (same : Undisturbed h h') : h'.Orderly := by
  have ids := ids_congr same.accesses
  have flags := flags_congr same.accesses
  refine ⟨?_, ?_, orderly.numbered.congr ids⟩
  · exact orderly.seated.ofSame same.slots same.running (ids ▸ List.prefix_rfl)
      fun id => congrArg Prod.fst (flags id)
  · exact orderly.seats.ofFewer same.slots same.running fun id linked => flags id ▸ linked

end Orderly

end DeviceBridge.Host
