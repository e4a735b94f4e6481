import DeviceBridge.Proofs.Registry.Hooks

/-
  What a change of one slot leaves alone: the other slots, and the accesses made for other sides but
  for what they have mounted (`Untouched`). Claims, installs, hooks and closings at a side touch
  nothing else.
-/

namespace DeviceBridge.Host

/-- What is at the other sides is as it was. -/
structure Untouched (side : Side) (h h' : Host) : Prop where
  slots : ∀ other, other ≠ side → h'.slots other = h.slots other
  accesses : ∀ id : AccessId, id.side ≠ side →
    (h'.access? id).map Access.withoutMounts = (h.access? id).map Access.withoutMounts

/-- An access is found by its identity, whatever it has mounted. -/
theorem access?_withoutMounts (h : Host) (id : AccessId) :
    (h.access? id).map Access.withoutMounts =
      (h.accesses.map Access.withoutMounts).find? fun a => a.id = id := by
  rw [List.find?_map]
  rfl

theorem access?_modifyAccess (h : Host) {id other : AccessId} (f : Access → Access)
    (named : ∀ a, (f a).id = a.id) (differs : other ≠ id) :
    (h.modifyAccess id f).access? other = h.access? other := by
  unfold modifyAccess access?
  simp only
  induction h.accesses with
  | nil => rfl
  | cons a rest ih =>
    rw [List.map_cons, List.find?_cons, List.find?_cons, ih]
    by_cases mine : a.id = id
    · have neither : ¬id = other := Ne.symm differs
      simp [mine, named, neither]
    · rw [if_neg mine]

namespace Untouched

variable {side : Side}

theorem refl (h : Host) : Untouched side h h := ⟨fun _ _ => rfl, fun _ _ => rfl⟩

theorem trans {a b c : Host} (ab : Untouched side a b) (bc : Untouched side b c) :
    Untouched side a c :=
  ⟨fun other differs => (bc.slots other differs).trans (ab.slots other differs),
    fun id differs => (bc.accesses id differs).trans (ab.accesses id differs)⟩

theorem ofUndisturbed {h h' : Host} (left : Undisturbed h h') : Untouched side h h' := by
  refine ⟨fun other _ => congrFun left.slots other, fun id _ => ?_⟩
  rw [access?_withoutMounts, access?_withoutMounts, left.accesses]

theorem modifyAccess (h : Host) {id : AccessId} (here : id.side = side) (f : Access → Access)
    (named : ∀ a, (f a).id = a.id) : Untouched side h (h.modifyAccess id f) := by
  refine ⟨fun _ _ => rfl, fun other differs => ?_⟩
  rw [access?_modifyAccess h f named]
  rintro rfl
  exact differs here

/-! ## Changes of the table -/

theorem setSlot (h : Host) (id : Option AccessId) : Untouched side h (h.setSlot side id) :=
  ⟨fun _ differs => if_neg differs, fun _ _ => rfl⟩

theorem install (h : Host) (device : DeviceId) : Untouched side h (h.install side device).2 := by
  unfold Host.install
  split
  · exact refl h
  · refine ⟨fun _ _ => rfl, fun id differs => ?_⟩
    unfold Host.access?
    simp only
    rw [List.find?_append]
    have other : ¬(⟨side, h.accesses.length⟩ : AccessId) = id := by
      rintro rfl
      exact differs rfl
    rw [List.find?_singleton, decide_eq_false other, if_neg Bool.false_ne_true, Option.or_none]
    rfl

theorem link (h : Host) {id : AccessId} (here : id.side = side) :
    Untouched side h (h.link id).2 := by
  unfold Host.link
  split
  · exact refl h
  · split
    · exact refl h
    · exact modifyAccess h here _ fun _ => rfl

theorem unlink (h : Host) {id : AccessId} (here : id.side = side) :
    Untouched side h (h.unlink id).2 := by
  unfold Host.unlink
  split
  · exact refl h
  · split
    · exact modifyAccess h here _ fun _ => rfl
    · exact refl h

theorem claim {transition : Host → AccessId → Bool × Host}
    (each : ∀ h {id}, id.side = side → Untouched side h (transition h id).2)
    (ids : List AccessId) : ∀ h : Host, (∀ id ∈ ids, id.side = side) →
      Untouched side h (h.claim transition ids).2 := by
  induction ids with
  | nil =>
    intro h _
    exact refl h
  | cons id rest ih =>
    intro h here
    have first := each h (here id List.mem_cons_self)
    exact first.trans (ih _ fun other inside => here other (List.mem_cons_of_mem _ inside))

theorem replace (h : Host) {new : Option AccessId} (old : ∀ id ∈ h.slots side, id.side = side)
    (fits : ∀ id ∈ new, id.side = side) : Untouched side h (h.replace side new).2.2 := by
  have detached := claim unlink (h.slots side).toList h
    fun id inside => old id (Option.mem_toList.mp inside)
  have changed := detached.trans (setSlot _ new)
  unfold Host.replace
  simp only
  split
  · exact changed.trans
      (claim link new.toList _ fun id inside => fits id (Option.mem_toList.mp inside))
  · exact changed

theorem exchange (h : Host) (device : Option DeviceId)
    (old : ∀ id ∈ h.slots side, id.side = side) :
    Untouched side h (h.exchange side device).2.2 := by
  cases device with
  | none => exact replace h old nofun
  | some device =>
    have same : (h.install side device).2.slots = h.slots := by
      unfold Host.install
      split <;> rfl
    have made : ∀ id ∈ (h.install side device).1, id.side = side := by
      unfold Host.install
      split
      · exact nofun
      · rintro id ⟨⟩
        rfl
    refine (install h device).trans (replace _ ?_ made)
    rw [same]
    exact old

theorem close (h : Host) {id : AccessId} (here : id.side = side) :
    Untouched side h (h.close id) := by
  have unmounted := Undisturbed.ofServed (unmountAll_served h id)
  exact (ofUndisturbed unmounted).trans (modifyAccess _ here _ fun _ => rfl)

/-! ## Hooks -/

theorem pass {depth : Nat} {h : Host} (quiet : QuietHooks depth h) (t : Transition) {a : Access}
    (here : a.id.side = side) : Untouched side h (h.pass (Program.run depth) t a).2 := by
  obtain ⟨h', ran, left, -⟩ := quiet.runHook t a
  unfold Host.pass
  rw [ran]
  cases t with
  | attach => exact ofUndisturbed left
  | detach => exact (ofUndisturbed left).trans (close h' here)

theorem announce {depth : Nat} {h : Host} (quiet : QuietHooks depth h) (t : Transition)
    {a : Access} (here : a.id.side = side) :
    Untouched side h (h.announce (Program.run depth) t a).2 := by
  have wrote : Untouched side h (h.write .debug (t.announcement a)) :=
    ofUndisturbed (.ofServed (Served.write h _ _))
  have still : QuietHooks depth (h.write .debug (t.announcement a)) := quiet.same rfl
  have passed := wrote.trans (pass still t here)
  unfold Host.announce
  split
  · next found =>
    rw [found] at passed
    exact passed.trans (ofUndisturbed (.ofServed (Served.queueEvent _ _ _)))
  · exact passed

/-- By induction on the accesses, whose hooks stay quiet. -/
theorem forEach {depth : Nat} {step : Host → Access → Except Escape Unit × Host}
    (each : ∀ {h : Host} {a : Access}, QuietHooks depth h → a.id.side = side →
      Untouched side h (step h a).2)
    (same : ∀ h a, SameDevices h (step h a).2) (ids : List AccessId) :
    ∀ {h : Host}, QuietHooks depth h → (∀ id ∈ ids, id.side = side) →
      Untouched side h (h.forEach step ids).2 := by
  induction ids with
  | nil =>
    intro h _ _
    exact refl h
  | cons id rest ih =>
    intro h quiet here
    have others : ∀ other ∈ rest, other.side = side :=
      fun other inside => here other (List.mem_cons_of_mem _ inside)
    unfold Host.forEach
    split
    · exact ih quiet others
    · next a found =>
      have named := access?_id found
      have stepped := each quiet (named ▸ here id List.mem_cons_self)
      have still := quiet.same (same h a)
      split
      · next ended =>
        rw [ended] at stepped still
        exact stepped.trans (ih still others)
      · exact stepped

end Untouched

end DeviceBridge.Host
