import DeviceBridge.Proofs.Registry.Table

/-
  What the commands claim. A host simulates a state of the life cycle if its table holds what the
  state says, and the links and the services both say who is attached (`Simulates`). The change of
  the table takes the links to the next state at once; services of those that leave stay open until
  their hooks have run (`exchange_claims`, `linkAll_claims`, `unlinkAll_claims`).
-/

namespace DeviceBridge.Host

/-- The table of a host holds what a state of the life cycle says. -/
def Simulates (h : Host) (s : Lifecycle) : Prop :=
  h.Holds s.running s.occupant s.installed s.Attached s.Attached

variable {h : Host} {s : Lifecycle}

/-- What the table of a host holds before the hooks of a command have run: the links are those of
the next state, and whoever was attached still is. -/
def Between (h : Host) (before after : Lifecycle) : Prop :=
  h.Holds after.running after.occupant after.installed after.Attached
    (fun id => before.Attached id ∨ after.Attached id)

/-! ## Slots -/

/-- The old occupant is claimed if it was attached. -/
theorem claim_leaving {installed : List (AccessId × DeviceId)}
    (holds : h.Holds s.running s.occupant installed s.Attached s.Attached)
    (more : ∀ id ∈ s.installed.map Prod.fst, id ∈ installed.map Prod.fst) (side : Side) :
    (h.claim unlink (h.slots side).toList).1 = s.leaving side ∧
      (h.claim unlink (h.slots side).toList).2.Holds s.running s.occupant installed
        (fun id => id ∉ s.leaving side ∧ s.Attached id) s.Attached := by
  rw [holds.slots]
  cases runs : s.running with
  | false =>
    have nobody : s.leaving side = [] := by
      unfold Lifecycle.leaving
      rw [runs]
      rfl
    have idle : h.claim unlink (s.occupant side).toList = ([], h) := by
      refine Holds.claim_idle fun id inside =>
        holds.unlink_free ?_ (Lifecycle.not_attached_of_rests runs id)
      exact more id (s.seated (Option.mem_toList.mp inside)).2
    rw [idle, nobody]
    refine ⟨rfl, (runs ▸ holds).congr (fun id _ => ?_) (fun id _ => Iff.rfl)⟩
    simp
  | true =>
    have all : s.leaving side = (s.occupant side).toList := by
      unfold Lifecycle.leaving
      rw [runs]
      rfl
    rw [← runs, all]
    refine Holds.claim_unlink _ holds ?_ fun id inside => ?_
    · cases s.occupant side <;> simp
    · rw [← all, Lifecycle.mem_leaving] at inside
      exact ⟨more id (s.seated inside.1.2).2, inside.1⟩

/-- A slot is emptied. -/
theorem replace_none_claims (sim : h.Simulates s) (side : Side) :
    (h.replace side none).1 = s.leaving side ∧ (h.replace side none).2.1 = [] ∧
      (h.replace side none).2.2.Between s (s.clear side) := by
  obtain ⟨claimed, left⟩ := claim_leaving sim (fun _ inside => inside) side
  have cleared := left.setSlot side none
  have changed : Between (setSlot (h.claim unlink (h.slots side).toList).2 side none) s
      (s.clear side) := by
    refine cleared.congr (fun id _ => ?_) (fun id _ => ?_)
    · rw [Lifecycle.stays_iff, Lifecycle.attached_clear]
    · rw [Lifecycle.attached_clear]
      exact ⟨.inl, fun either => either.elim (fun before => before) And.left⟩
  unfold replace
  simp only [Option.toList_none]
  rw [claimed]
  split
  · exact ⟨rfl, rfl, changed⟩
  · exact ⟨rfl, rfl, changed⟩

/-- A slot gets an access that was installed but a moment ago. -/
theorem replace_some_claims (side : Side) (device : DeviceId)
    (holds : h.Holds s.running s.occupant (s.installed ++ [(s.next side, device)]) s.Attached
      s.Attached) :
    (h.replace side (some (s.next side))).1 = s.leaving side ∧
      (h.replace side (some (s.next side))).2.1 = (if s.running then [s.next side] else []) ∧
      (h.replace side (some (s.next side))).2.2.Between s (s.put side device) := by
  have ids : (s.installed ++ [(s.next side, device)]).map Prod.fst =
      s.installed.map Prod.fst ++ [s.next side] := List.map_append
  have more : ∀ id ∈ s.installed.map Prod.fst,
      id ∈ (s.installed ++ [(s.next side, device)]).map Prod.fst := by
    intro id inside
    rw [ids]
    exact List.mem_append_left _ inside
  obtain ⟨claimed, left⟩ := claim_leaving holds more side
  have seated := left.setSlot side (some (s.next side))
  unfold replace
  simp only [Option.toList_some]
  rw [claimed, seated.running]
  cases runs : s.running with
  | false =>
    refine ⟨rfl, rfl, seated.congr (fun id _ => ?_) (fun id _ => ?_)⟩
    · rw [Lifecycle.stays_iff, Lifecycle.attached_put, runs]
      simp
    · rw [Lifecycle.attached_put, runs]
      simp
      tauto
  | true =>
    have free : ∀ id ∈ [s.next side],
        id ∈ (s.installed ++ [(s.next side, device)]).map Prod.fst ∧
          ¬(id ∉ s.leaving side ∧ s.Attached id) := by
      intro id new
      rw [ids, List.mem_singleton.mp new]
      exact ⟨List.mem_append_right _ (List.mem_singleton_self _),
        fun taken => s.not_attached_next side taken.2⟩
    obtain ⟨taken, after⟩ := Holds.claim_link _ seated (List.nodup_singleton _) free
    refine ⟨rfl, taken, after.congr (fun id _ => ?_) (fun id _ => ?_)⟩
    · rw [Lifecycle.stays_iff, Lifecycle.attached_put, runs, List.mem_singleton]
      tauto
    · rw [Lifecycle.attached_put, runs, List.mem_singleton]
      tauto

/-- The device that a command names is there. -/
def Has (h : Host) : Command → Prop
  | .set _ (some device) => (h.device? device).isSome
  | _ => True

/-- The change of one slot. -/
theorem exchange_claims (sim : h.Simulates s) (side : Side) {device : Option DeviceId}
    (has : h.Has (.set side device)) :
    (h.exchange side device).1 = s.leaving side ∧
      (h.exchange side device).2.1 = s.coming side device ∧
      (h.exchange side device).2.2.Between s (s.exchange side device) := by
  cases device with
  | none =>
    obtain ⟨left, came, changed⟩ := replace_none_claims sim side
    have nobody : s.coming side none = [] := by
      unfold Lifecycle.coming
      split <;> rfl
    rw [nobody]
    exact ⟨left, came, changed⟩
  | some device =>
    obtain ⟨d, found⟩ := Option.isSome_iff_exists.mp has
    have new := s.not_attached_next side
    obtain ⟨named, holds⟩ := sim.install side found new new
    unfold exchange
    simp only
    rw [named]
    exact replace_some_claims side device holds

/-! ## The running flag -/

theorem Simulates.occupants (sim : h.Simulates s) : h.occupants = s.occupants := by
  unfold Host.occupants Lifecycle.occupants
  rw [sim.slots]

/-- All that are installed come. -/
theorem linkAll_claims (sim : h.Simulates s) (rests : s.running = false) :
    h.linkAll.1 = s.occupants ∧ h.linkAll.2.Between s (s.setRunning true) := by
  have free := Lifecycle.not_attached_of_rests rests
  have all : ∀ id ∈ s.occupants, id ∈ s.installed.map Prod.fst ∧ ¬s.Attached id := by
    intro id inside
    exact ⟨(s.seated (Lifecycle.mem_occupants.mp inside)).2, free id⟩
  obtain ⟨taken, after⟩ := Holds.claim_link _ (sim.setRunning true) s.occupants_nodup all
  have after_iff (id : AccessId) : (s.setRunning true).Attached id ↔ id ∈ s.occupants := by
    rw [Lifecycle.mem_occupants]
    exact ⟨And.right, fun sits => ⟨rfl, sits⟩⟩
  unfold linkAll
  rw [sim.occupants]
  refine ⟨taken, after.congr (fun id _ => ?_) (fun id _ => ?_)⟩
  · rw [after_iff]
    exact or_iff_left (free id)
  · rw [after_iff]
    exact or_comm

/-- All that are attached leave. -/
theorem unlinkAll_claims (sim : h.Simulates s) (runs : s.running = true) :
    h.unlinkAll.1 = s.occupants ∧ h.unlinkAll.2.Between s (s.setRunning false) := by
  have all : ∀ id ∈ s.occupants, id ∈ s.installed.map Prod.fst ∧ s.Attached id := by
    intro id inside
    have sits := Lifecycle.mem_occupants.mp inside
    exact ⟨(s.seated sits).2, runs, sits⟩
  obtain ⟨taken, after⟩ := Holds.claim_unlink _ (sim.setRunning false) s.occupants_nodup all
  have nobody (id : AccessId) : ¬(s.setRunning false).Attached id :=
    Lifecycle.not_attached_of_rests rfl id
  unfold unlinkAll
  rw [sim.occupants]
  refine ⟨taken, after.congr (fun id _ => ?_) (fun id _ => ?_)⟩
  · rw [Lifecycle.mem_occupants]
    constructor
    · rintro ⟨empty, -, sits⟩
      exact (empty sits).elim
    · intro attached
      exact (nobody id attached).elim
  · exact (or_iff_left (nobody id)).symm

/-- To start a registry that runs does nothing. -/
theorem linkAll_running (sim : h.Simulates s) (runs : s.running = true) : h.linkAll = ([], h) := by
  have same : { h with running := true } = h := by
    rw [← runs, ← sim.running]
  have taken : ∀ id ∈ s.occupants, h.link id = (false, h) := by
    intro id inside
    have sits := Lifecycle.mem_occupants.mp inside
    exact sim.link_taken (s.seated sits).2 ⟨runs, sits⟩
  unfold linkAll
  rw [same, sim.occupants]
  exact Holds.claim_idle taken

/-- To stop a registry that rests does nothing. -/
theorem unlinkAll_resting (sim : h.Simulates s) (rests : s.running = false) :
    h.unlinkAll = ([], h) := by
  have same : { h with running := false } = h := by
    rw [← rests, ← sim.running]
  have free : ∀ id ∈ s.occupants, h.unlink id = (false, h) := by
    intro id inside
    have seated := s.seated (Lifecycle.mem_occupants.mp inside)
    exact sim.unlink_free seated.2 (Lifecycle.not_attached_of_rests rests id)
  unfold unlinkAll
  rw [same, sim.occupants]
  exact Holds.claim_idle free

end DeviceBridge.Host
