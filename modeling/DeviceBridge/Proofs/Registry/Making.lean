import DeviceBridge.Proofs.Registry.Turns

/-
  What an access is made of. Its side and number, its device, the object that methods are called on
  and its method table are fixed when it is installed; only its links and its mounts change
  (`Access.made`). Accesses are added and never taken away, so whatever runs, an access that was
  found is found later as it was made (`MakesMore.access?`).
-/

namespace DeviceBridge

/-- An access as it was made, without links and mounts. -/
def Access.made (a : Access) : Access := { a with linked := false, attached := false, mounts := [] }

namespace Host

variable {h h' : Host}

/-- The accesses as they were made. -/
def makes (h : Host) : List Access := h.accesses.map Access.made

theorem access?_made (h : Host) (id : AccessId) :
    (h.access? id).map Access.made = h.makes.find? fun a => a.id = id := by
  unfold makes
  rw [List.find?_map]
  rfl

/-! ## Changes that make no access -/

theorem makes_congr
    (accesses : h'.accesses.map Access.withoutMounts = h.accesses.map Access.withoutMounts) :
    h'.makes = h.makes := by
  have same := congrArg (List.map Access.made) accesses
  rw [List.map_map, List.map_map] at same
  exact same

theorem makes_modifyAccess (h : Host) (id : AccessId) (f : Access → Access)
    (same : ∀ a, (f a).made = a.made) : (h.modifyAccess id f).makes = h.makes := by
  unfold makes modifyAccess
  rw [List.map_map]
  refine List.map_congr_left fun a _ => ?_
  show (if a.id = id then f a else a).made = a.made
  split
  · exact same a
  · rfl

theorem makes_link (h : Host) (id : AccessId) : (h.link id).2.makes = h.makes := by
  unfold link
  split
  · rfl
  · split
    · rfl
    · exact makes_modifyAccess h id _ fun _ => rfl

theorem makes_unlink (h : Host) (id : AccessId) : (h.unlink id).2.makes = h.makes := by
  unfold unlink
  split
  · rfl
  · split
    · exact makes_modifyAccess h id _ fun _ => rfl
    · rfl

/-- By induction on the accesses. -/
theorem makes_claim {transition : Host → AccessId → Bool × Host}
    (each : ∀ h id, (transition h id).2.makes = h.makes) (ids : List AccessId) :
    ∀ h : Host, (h.claim transition ids).2.makes = h.makes := by
  induction ids with
  | nil => exact fun _ => rfl
  | cons id rest ih => exact fun h => (ih _).trans (each h id)

theorem makes_replace (h : Host) (side : Side) (new : Option AccessId) :
    (h.replace side new).2.2.makes = h.makes := by
  have detached := makes_claim makes_unlink (h.slots side).toList h
  unfold replace
  simp only
  split
  · exact (makes_claim makes_link new.toList _).trans detached
  · exact detached

/-! ## Every change -/

/-- More accesses may have been made. -/
def MakesMore (h h' : Host) : Prop := h.makes <+: h'.makes

namespace MakesMore

theorem ofEq (same : h'.makes = h.makes) : MakesMore h h' := by
  unfold MakesMore
  simp only [same, List.prefix_rfl]

theorem trans {a b c : Host} (ab : MakesMore a b) (bc : MakesMore b c) : MakesMore a c :=
  List.IsPrefix.trans ab bc

theorem install (h : Host) (side : Side) (device : DeviceId) :
    MakesMore h (h.install side device).2 := by
  unfold Host.install
  cases h.device? device with
  | none => exact ofEq rfl
  | some d =>
    unfold MakesMore makes writeAll
    rw [List.map_append]
    exact List.prefix_append _ _

theorem exchange (h : Host) (side : Side) (device : Option DeviceId) :
    MakesMore h (h.exchange side device).2.2 := by
  cases device with
  | none => exact ofEq (makes_replace h side none)
  | some device => exact (install h side device).trans (ofEq (makes_replace _ side _))

theorem kept : Kept MakesMore where
  trans := trans
  served served := ofEq (makes_congr served.accesses)
  enqueue _ _ _ := ofEq rfl
  exchange := exchange
  linkAll h := ofEq (makes_claim makes_link h.occupants { h with running := true })
  unlinkAll h := ofEq (makes_claim makes_unlink h.occupants { h with running := false })
  close h id := by
    have unmounted := makes_congr (unmountAll_served h id).accesses
    have closed := makes_modifyAccess (h.unmountAll id) id
      (fun a => { a with attached := false }) fun _ => rfl
    exact ofEq (closed.trans unmounted)

/-- An access that is found is found later, as it was made. -/
theorem access? (more : MakesMore h h') {id : AccessId} {a : Access}
    (found : h.access? id = some a) : ∃ a', h'.access? id = some a' ∧ a'.made = a.made := by
  obtain ⟨others, more⟩ := more
  have later := access?_made h' id
  rw [← more, List.find?_append, ← access?_made, found, Option.map_some, Option.some_or] at later
  exact Option.map_eq_some_iff.mp later

end MakesMore

end Host

end DeviceBridge
