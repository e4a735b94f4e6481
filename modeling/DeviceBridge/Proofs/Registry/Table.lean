import DeviceBridge.Proofs.Host.Links
import DeviceBridge.Proofs.Registry.Lifecycle

/-
  What the slot table of a host holds (`Holds`): whether the registry runs, who sits in each slot,
  the accesses in order, and which of them are linked and attached. One lemma for each operation on
  the table says what it claims and what the table holds afterwards.
-/

namespace DeviceBridge.Host

/-- What the slot table holds. -/
structure Holds (h : Host) (running : Bool) (occupant : Side → Option AccessId)
    (installed : List (AccessId × DeviceId)) (linked attached : AccessId → Prop) : Prop where
  running : h.running = running
  slots : h.slots = occupant
  installed : (h.accesses.map fun a => (a.id, a.device)) = installed
  linked : ∀ a ∈ h.accesses, a.linked = true ↔ linked a.id
  attached : ∀ a ∈ h.accesses, a.attached = true ↔ attached a.id

variable {h : Host} {running : Bool} {occupant : Side → Option AccessId}
  {installed : List (AccessId × DeviceId)} {linked attached : AccessId → Prop}

namespace Holds

theorem ids (holds : h.Holds running occupant installed linked attached) :
    h.accesses.map Access.id = installed.map Prod.fst := by
  rw [← holds.installed, List.map_map]
  rfl

/-- Only what is installed counts. -/
theorem congr {linked' attached' : AccessId → Prop}
    (holds : h.Holds running occupant installed linked attached)
    (links : ∀ id ∈ installed.map Prod.fst, linked id ↔ linked' id)
    (attachments : ∀ id ∈ installed.map Prod.fst, attached id ↔ attached' id) :
    h.Holds running occupant installed linked' attached' := by
  have inside {a : Access} (here : a ∈ h.accesses) : a.id ∈ installed.map Prod.fst := by
    rw [← holds.ids]
    exact List.mem_map_of_mem here
  refine ⟨holds.running, holds.slots, holds.installed, fun a here => ?_, fun a here => ?_⟩
  · rw [holds.linked a here, links a.id (inside here)]
  · rw [holds.attached a here, attachments a.id (inside here)]

theorem access (holds : h.Holds running occupant installed linked attached) {id : AccessId}
    (inside : id ∈ installed.map Prod.fst) : ∃ a, h.access? id = some a ∧ a.id = id ∧
      (a.linked = true ↔ linked id) ∧ (a.attached = true ↔ attached id) := by
  rw [← holds.ids] at inside
  obtain ⟨b, here, named⟩ := List.mem_map.mp inside
  have found : (h.accesses.find? fun a => a.id = id).isSome := by
    rw [List.find?_isSome]
    exact ⟨b, here, decide_eq_true named⟩
  obtain ⟨a, found⟩ := Option.isSome_iff_exists.mp found
  have same : a.id = id := access?_id found
  have listed := List.mem_of_find?_eq_some found
  refine ⟨a, found, same, ?_, ?_⟩
  · rw [holds.linked a listed, same]
  · rw [holds.attached a listed, same]

/-- A change that leaves the table alone but for what accesses have mounted. -/
theorem ofSame {h' : Host} (holds : h.Holds running occupant installed linked attached)
    (runs : h'.running = h.running) (slots : h'.slots = h.slots)
    (accesses : h'.accesses.map Access.withoutMounts = h.accesses.map Access.withoutMounts) :
    h'.Holds running occupant installed linked attached := by
  have twin {a : Access} (here : a ∈ h'.accesses) :
      ∃ b ∈ h.accesses, b.id = a.id ∧ b.linked = a.linked ∧ b.attached = a.attached := by
    have moved : a.withoutMounts ∈ h'.accesses.map Access.withoutMounts :=
      List.mem_map_of_mem here
    rw [accesses] at moved
    obtain ⟨b, there, same⟩ := List.mem_map.mp moved
    have named := congrArg Access.id same
    have links := congrArg Access.linked same
    have attachments := congrArg Access.attached same
    exact ⟨b, there, named, links, attachments⟩
  refine ⟨runs.trans holds.running, slots.trans holds.slots, ?_, fun a here => ?_,
    fun a here => ?_⟩
  · have same := congrArg (List.map fun a => (a.id, a.device)) accesses
    rw [List.map_map, List.map_map] at same
    exact same.trans holds.installed
  · obtain ⟨b, there, named, links, -⟩ := twin here
    rw [← links, ← named]
    exact holds.linked b there
  · obtain ⟨b, there, named, -, attachments⟩ := twin here
    rw [← attachments, ← named]
    exact holds.attached b there

/-- A change of the links of one access. -/
theorem modify (holds : h.Holds running occupant installed linked attached) (id : AccessId)
    {f : Access → Access} (links attachments : Prop)
    (named : ∀ a, (f a).id = a.id ∧ (f a).device = a.device)
    (links_iff : ∀ a ∈ h.accesses, a.id = id → ((f a).linked = true ↔ links))
    (attachments_iff : ∀ a ∈ h.accesses, a.id = id → ((f a).attached = true ↔ attachments)) :
    (h.modifyAccess id f).Holds running occupant installed
      (fun other => if other = id then links else linked other)
      (fun other => if other = id then attachments else attached other) := by
  have twin {a : Access} (here : a ∈ (h.modifyAccess id f).accesses) :
      ∃ b ∈ h.accesses, (if b.id = id then f b else b) = a ∧ b.id = a.id := by
    obtain ⟨b, there, rfl⟩ := List.mem_map.mp here
    refine ⟨b, there, rfl, ?_⟩
    split
    · exact (named b).1.symm
    · rfl
  refine ⟨holds.running, holds.slots, ?_, fun a here => ?_, fun a here => ?_⟩
  · rw [← holds.installed]
    unfold modifyAccess
    rw [List.map_map]
    refine List.map_congr_left fun a _ => ?_
    simp only [Function.comp_apply]
    split
    · rw [(named a).1, (named a).2]
    · rfl
  · obtain ⟨b, there, rfl, same⟩ := twin here
    simp only [← same]
    by_cases mine : b.id = id
    · rw [if_pos mine, if_pos mine]
      exact links_iff b there mine
    · rw [if_neg mine, if_neg mine]
      exact holds.linked b there
  · obtain ⟨b, there, rfl, same⟩ := twin here
    simp only [← same]
    by_cases mine : b.id = id
    · rw [if_pos mine, if_pos mine]
      exact attachments_iff b there mine
    · rw [if_neg mine, if_neg mine]
      exact holds.attached b there

/-! ## Claims -/

theorem link (holds : h.Holds running occupant installed linked attached) {id : AccessId}
    (inside : id ∈ installed.map Prod.fst) (free : ¬linked id) : (h.link id).1 = true ∧
      (h.link id).2.Holds running occupant installed (fun other => other = id ∨ linked other)
        (fun other => other = id ∨ attached other) := by
  obtain ⟨a, found, -, links, -⟩ := holds.access inside
  have unlinked : ¬a.linked = true := fun yes => free (links.mp yes)
  unfold Host.link
  rw [found]
  simp only [if_neg unlinked]
  have changed : (h.modifyAccess id fun a => { a with linked := true, attached := true }).Holds
      running occupant installed _ _ :=
    holds.modify id True True (fun _ => ⟨rfl, rfl⟩) (fun _ _ _ => by simp) (fun _ _ _ => by simp)
  refine ⟨trivial, changed.congr (fun other _ => ?_) (fun other _ => ?_)⟩
  · by_cases mine : other = id <;> simp [mine]
  · by_cases mine : other = id <;> simp [mine]

theorem link_taken (holds : h.Holds running occupant installed linked attached) {id : AccessId}
    (inside : id ∈ installed.map Prod.fst) (taken : linked id) : h.link id = (false, h) := by
  obtain ⟨a, found, -, links, -⟩ := holds.access inside
  unfold Host.link
  rw [found]
  simp only [if_pos (links.mpr taken)]

theorem unlink (holds : h.Holds running occupant installed linked attached) {id : AccessId}
    (inside : id ∈ installed.map Prod.fst) (taken : linked id) : (h.unlink id).1 = true ∧
      (h.unlink id).2.Holds running occupant installed (fun other => other ≠ id ∧ linked other)
        attached := by
  obtain ⟨a, found, -, links, -⟩ := holds.access inside
  unfold Host.unlink
  rw [found]
  simp only [if_pos (links.mpr taken)]
  have stays : ∀ b ∈ h.accesses, b.id = id → (b.attached = true ↔ attached id) := by
    intro b here mine
    rw [← mine]
    exact holds.attached b here
  have changed : (h.modifyAccess id fun a => { a with linked := false }).Holds
      running occupant installed _ _ :=
    holds.modify id False (attached id) (fun _ => ⟨rfl, rfl⟩) (fun _ _ _ => by simp) stays
  refine ⟨trivial, changed.congr (fun other _ => ?_) (fun other _ => ?_)⟩
  · by_cases mine : other = id <;> simp [mine]
  · by_cases mine : other = id <;> simp [mine]

theorem unlink_free (holds : h.Holds running occupant installed linked attached) {id : AccessId}
    (inside : id ∈ installed.map Prod.fst) (free : ¬linked id) : h.unlink id = (false, h) := by
  obtain ⟨a, found, -, links, -⟩ := holds.access inside
  have unlinked : ¬a.linked = true := fun yes => free (links.mp yes)
  unfold Host.unlink
  rw [found]
  simp only [if_neg unlinked]

/-! ## Claims of several accesses -/

theorem claim_idle {transition : Host → AccessId → Bool × Host} {ids : List AccessId}
    (idle : ∀ id ∈ ids, transition h id = (false, h)) : h.claim transition ids = ([], h) := by
  induction ids with
  | nil => rfl
  | cons id rest ih =>
    have others := ih fun other here => idle other (List.mem_cons_of_mem _ here)
    unfold Host.claim
    rw [idle id List.mem_cons_self]
    simp only
    rw [others]
    rfl

/-- By induction on the accesses: those before are linked, those behind are still free. -/
theorem claim_link (ids : List AccessId) : ∀ {h : Host} {linked attached : AccessId → Prop},
    h.Holds running occupant installed linked attached → ids.Nodup →
      (∀ id ∈ ids, id ∈ installed.map Prod.fst ∧ ¬linked id) → (h.claim Host.link ids).1 = ids ∧
        (h.claim Host.link ids).2.Holds running occupant installed
          (fun id => id ∈ ids ∨ linked id) (fun id => id ∈ ids ∨ attached id) := by
  induction ids with
  | nil =>
    intro h linked attached holds _ _
    refine ⟨rfl, holds.congr (fun id _ => ?_) (fun id _ => ?_)⟩
    · simp
    · simp
  | cons id rest ih =>
    intro h linked attached holds nodup free
    obtain ⟨once, nodup⟩ := List.nodup_cons.mp nodup
    obtain ⟨inside, unlinked⟩ := free id List.mem_cons_self
    obtain ⟨claimed, after⟩ := holds.link inside unlinked
    have others : ∀ other ∈ rest,
        other ∈ installed.map Prod.fst ∧ ¬(other = id ∨ linked other) := by
      intro other here
      obtain ⟨there, clear⟩ := free other (List.mem_cons_of_mem _ here)
      refine ⟨there, ?_⟩
      rintro (rfl | taken)
      · exact once here
      · exact clear taken
    obtain ⟨rest_claimed, left⟩ := ih after nodup others
    unfold Host.claim
    simp only
    rw [claimed, rest_claimed]
    refine ⟨rfl, left.congr (fun other _ => ?_) (fun other _ => ?_)⟩
    · rw [List.mem_cons, or_left_comm, or_assoc]
    · rw [List.mem_cons, or_left_comm, or_assoc]

theorem claim_unlink (ids : List AccessId) : ∀ {h : Host} {linked : AccessId → Prop},
    h.Holds running occupant installed linked attached → ids.Nodup →
      (∀ id ∈ ids, id ∈ installed.map Prod.fst ∧ linked id) → (h.claim Host.unlink ids).1 = ids ∧
        (h.claim Host.unlink ids).2.Holds running occupant installed
          (fun id => id ∉ ids ∧ linked id) attached := by
  induction ids with
  | nil =>
    intro h linked holds _ _
    refine ⟨rfl, holds.congr (fun id _ => ?_) (fun id _ => Iff.rfl)⟩
    simp
  | cons id rest ih =>
    intro h linked holds nodup taken
    obtain ⟨once, nodup⟩ := List.nodup_cons.mp nodup
    obtain ⟨inside, links⟩ := taken id List.mem_cons_self
    obtain ⟨claimed, after⟩ := holds.unlink inside links
    have others : ∀ other ∈ rest, other ∈ installed.map Prod.fst ∧ (other ≠ id ∧ linked other) := by
      intro other here
      obtain ⟨there, also⟩ := taken other (List.mem_cons_of_mem _ here)
      refine ⟨there, ?_, also⟩
      rintro rfl
      exact once here
    obtain ⟨rest_claimed, left⟩ := ih after nodup others
    unfold Host.claim
    simp only
    rw [claimed, rest_claimed]
    refine ⟨rfl, left.congr (fun other _ => ?_) (fun other _ => Iff.rfl)⟩
    rw [List.mem_cons, not_or, and_assoc, and_left_comm]

/-! ## The other operations -/

theorem close (holds : h.Holds running occupant installed linked attached) (id : AccessId) :
    (h.close id).Holds running occupant installed linked
      (fun other => other ≠ id ∧ attached other) := by
  have unmounted := unmountAll_served h id
  have same := holds.ofSame unmounted.running unmounted.slots unmounted.accesses
  have stays : ∀ b ∈ (h.unmountAll id).accesses, b.id = id → (b.linked = true ↔ linked id) := by
    intro b here mine
    rw [← mine]
    exact same.linked b here
  have changed : (h.close id).Holds running occupant installed _ _ :=
    same.modify id (linked id) False (fun _ => ⟨rfl, rfl⟩) stays (fun _ _ _ => by simp)
  refine changed.congr (fun other _ => ?_) (fun other _ => ?_)
  · by_cases mine : other = id <;> simp [mine]
  · by_cases mine : other = id <;> simp [mine]

theorem setSlot (holds : h.Holds running occupant installed linked attached) (side : Side)
    (id : Option AccessId) : (h.setSlot side id).Holds running
      (fun other => if other = side then id else occupant other) installed linked attached := by
  refine ⟨holds.running, ?_, holds.installed, holds.linked, holds.attached⟩
  rw [← holds.slots]
  rfl

theorem setRunning (holds : h.Holds running occupant installed linked attached) (runs : Bool) :
    Holds { h with running := runs } runs occupant installed linked attached :=
  ⟨rfl, holds.slots, holds.installed, holds.linked, holds.attached⟩

/-- A new access is neither linked nor attached. -/
theorem install (holds : h.Holds running occupant installed linked attached) (side : Side)
    {device : DeviceId} {d : Device} (found : h.device? device = some d)
    (free : ¬linked ⟨side, installed.length⟩) (closed : ¬attached ⟨side, installed.length⟩) :
    (h.install side device).1 = some ⟨side, installed.length⟩ ∧
      (h.install side device).2.Holds running occupant
        (installed ++ [(⟨side, installed.length⟩, device)]) linked attached := by
  have count : h.accesses.length = installed.length := by
    rw [← holds.installed, List.length_map]
  unfold Host.install
  rw [found]
  refine ⟨?_, holds.running, holds.slots, ?_, fun a here => ?_, fun a here => ?_⟩
  · simp only
    rw [count]
  · simp only [List.map_append, List.map_singleton]
    rw [count]
    exact congrArg (· ++ _) holds.installed
  · rcases List.mem_append.mp here with old | new
    · exact holds.linked a old
    · rw [List.mem_singleton.mp new]
      simpa [count] using free
  · rcases List.mem_append.mp here with old | new
    · exact holds.attached a old
    · rw [List.mem_singleton.mp new]
      simpa [count] using closed

end Holds

end DeviceBridge.Host
