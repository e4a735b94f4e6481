import DeviceBridge.Proofs.Files.Resolution
import DeviceBridge.Proofs.Registry.Turns

/-
  What an access has mounted, operation by operation. A mount of an access changes two things, the
  table of the file system and the list that the access keeps of its locations; both have to be
  followed through mounts, unmounts and closings (`mountFor_ok`, `unmountFor_ok`, `close_mounts`).
  Everything else that the registry does leaves both alone.
-/

namespace DeviceBridge

/-! ## The mount table -/

namespace FileSystem

/-- By induction on the locations, which are in normal form. -/
theorem unmount_each (locations : List String) (normal : ∀ l ∈ locations, Path.normalize l = l) :
    ∀ fs : FileSystem, (locations.foldl (fun fs l => (fs.unmount l).2) fs).volumes = fs.volumes ∧
      (locations.foldl (fun fs l => (fs.unmount l).2) fs).mounts =
        fs.mounts.filter (·.location ∉ locations) := by
  induction locations with
  | nil =>
    intro fs
    refine ⟨rfl, (List.filter_eq_self.mpr fun m _ => ?_).symm⟩
    exact decide_eq_true List.not_mem_nil
  | cons l rest ih =>
    intro fs
    obtain ⟨volumes, mounts⟩ := ih (fun other here => normal other (.tail _ here)) (fs.unmount l).2
    refine ⟨volumes, ?_⟩
    rw [List.foldl_cons, mounts]
    show (fs.mounts.filter (·.location ≠ Path.normalize l)).filter _ = _
    rw [normal l (.head _), List.filter_filter]
    refine List.filter_congr fun m _ => ?_
    rw [← Bool.decide_and]
    refine decide_eq_decide.mpr ?_
    rw [List.mem_cons, not_or, and_comm]

end FileSystem

namespace Host

/-- The locations that an access has mounted. -/
def mounted (h : Host) (id : AccessId) : List String := ((h.access? id).map (·.mounts)).getD []

theorem mounted_of_access? {h : Host} {id : AccessId} {a : Access}
    (found : h.access? id = some a) : h.mounted id = a.mounts := by
  rw [mounted, found]
  rfl

theorem mounted_modifyAccess {h : Host} {id : AccessId} {a : Access}
    (found : h.access? id = some a) (f : Access → Access) (named : ∀ a, (f a).id = a.id)
    (other : AccessId) : (h.modifyAccess id f).mounted other =
      if other = id then (f a).mounts else h.mounted other := by
  by_cases mine : other = id
  · rw [if_pos mine, mine]
    apply mounted_of_access?
    rw [access?_modifyAccess_self h id f named, found, Option.map_some]
  · rw [if_neg mine, mounted, mounted, access?_modifyAccess h f named mine]

theorem isAttached_modifyAccess {h : Host} {id : AccessId} {a : Access}
    (found : h.access? id = some a) (f : Access → Access) (named : ∀ a, (f a).id = a.id)
    (kept : ∀ a, (f a).attached = a.attached) (other : AccessId) :
    (h.modifyAccess id f).isAttached other = h.isAttached other := by
  rw [isAttached_eq, isAttached_eq, flags_modifyAccess found f named]
  by_cases mine : other = id
  · rw [if_pos mine, mine, flags_of_access? found]
    exact kept a
  · rw [if_neg mine]

theorem access?_of_isAttached {h : Host} {id : AccessId} (attached : h.isAttached id = true) :
    ∃ a, h.access? id = some a := by
  unfold isAttached at attached
  cases found : h.access? id with
  | none =>
    rw [found] at attached
    cases attached
  | some a => exact ⟨a, rfl⟩

/-! ## Mounts and unmounts -/

/-- What a successful mount does to the table, and to what the accesses keep. -/
theorem mountFor_ok {h h' : Host} {id : AccessId} {location drive path : String}
    {backing : Backing} (done : h.mountFor id location backing drive = (.ok (some path), h')) :
    path = Path.normalize location ∧ path ∉ h.files.locations ∧ h.isAttached id = true ∧
      h'.files.mounts = h.files.mounts ++ [⟨drive, path, backing⟩] ∧
      (∀ other, h'.isAttached other = h.isAttached other) ∧
      ∀ other, h'.mounted other = if other = id
        then if path ∈ h.mounted id then h.mounted id else h.mounted id ++ [path]
        else h.mounted other := by
  unfold mountFor at done
  cases attached : h.isAttached id with
  | false =>
    rw [attached] at done
    cases done
  | true =>
    rw [attached] at done
    simp only [Bool.not_true, Bool.false_eq_true, if_false] at done
    split at done
    · cases done
    · split at done
      · cases done
      · next files mount =>
        obtain ⟨free, -, mounts⟩ := FileSystem.mountAt_ok mount
        rw [Path.normalize_normalize] at free mounts
        obtain ⟨a, found⟩ := access?_of_isAttached attached
        simp only [Prod.mk.injEq, Except.ok.injEq, Option.some.injEq] at done
        obtain ⟨rfl, rfl⟩ := done
        have found' : Host.access? { h with files } id = some a := found
        have kept := isAttached_modifyAccess found' (fun a => { a with
          mounts := if Path.normalize location ∈ a.mounts then a.mounts
            else a.mounts ++ [Path.normalize location] }) (fun _ => rfl) (fun _ => rfl)
        have lists := mounted_modifyAccess found' (fun a => { a with
          mounts := if Path.normalize location ∈ a.mounts then a.mounts
            else a.mounts ++ [Path.normalize location] }) (fun _ => rfl)
        refine ⟨rfl, free, rfl, mounts, kept, fun other => ?_⟩
        rw [mounted_of_access? found]
        exact lists other

/-- A mount that fails changes nothing. -/
theorem mountFor_failed {h : Host} {id : AccessId} {location drive : String} {backing : Backing}
    (failed : ∀ path, (h.mountFor id location backing drive).1 ≠ .ok (some path)) :
    (h.mountFor id location backing drive).2 = h := by
  unfold mountFor at failed ⊢
  split
  · rfl
  · next attached =>
    rw [if_neg attached] at failed
    simp only at failed ⊢
    split
    · rfl
    · next free =>
      rw [if_neg free] at failed
      split
      · rfl
      · next mount =>
        rw [mount] at failed
        exact absurd rfl (failed (Path.normalize location))

theorem unmountFor_ok {h h' : Host} {id : AccessId} {location : String}
    (done : h.unmountFor id location = (.ok (), h')) :
    Path.normalize location ∈ h.mounted id ∧ h.isAttached id = true ∧
      h'.files.mounts = h.files.mounts.filter (·.location ≠ Path.normalize location) ∧
      (∀ other, h'.isAttached other = h.isAttached other) ∧
      ∀ other, h'.mounted other = if other = id
        then (h.mounted id).filter (· ≠ Path.normalize location) else h.mounted other := by
  unfold unmountFor at done
  cases attached : h.isAttached id with
  | false =>
    rw [attached] at done
    cases done
  | true =>
    rw [attached] at done
    simp only [Bool.not_true, Bool.false_eq_true, if_false] at done
    split at done
    · cases done
    · next a found =>
      split at done
      · next mine =>
        simp only [Prod.mk.injEq, true_and] at done
        subst done
        have lists := mounted_modifyAccess found (fun a => { a with
          mounts := a.mounts.filter (· ≠ Path.normalize location) }) (fun _ => rfl)
        have kept := isAttached_modifyAccess found (fun a => { a with
          mounts := a.mounts.filter (· ≠ Path.normalize location) }) (fun _ => rfl) (fun _ => rfl)
        rw [mounted_of_access? found]
        refine ⟨mine, rfl, ?_, kept, lists⟩
        show (h.files.unmount (Path.normalize location)).2.mounts = _
        unfold FileSystem.unmount
        simp only
        rw [Path.normalize_normalize]
      · cases done

/-- An unmount that fails changes nothing. -/
theorem unmountFor_failed {h : Host} {id : AccessId} {location : String}
    (failed : (h.unmountFor id location).1 ≠ .ok ()) : (h.unmountFor id location).2 = h := by
  unfold unmountFor at failed ⊢
  split
  · rfl
  · next attached =>
    rw [if_neg attached] at failed
    simp only at failed ⊢
    split
    · rfl
    · next a found =>
      rw [found] at failed
      simp only at failed
      split
      · next mine =>
        rw [if_pos mine] at failed
        exact absurd rfl failed
      · rfl

/-! ## Closing -/

theorem unmountAll_eq {h : Host} {id : AccessId} {a : Access} (found : h.access? id = some a) :
    h.unmountAll id = Host.modifyAccess
      { h with files := a.mounts.foldl (fun fs l => (fs.unmount l).2) h.files } id
      fun a => { a with mounts := [] } := by
  unfold unmountAll
  rw [found]

theorem isAttached_close (h : Host) (id other : AccessId) :
    (h.close id).isAttached other = if other = id then false else h.isAttached other := by
  have flags := flags_after h other (.close id)
  rw [isAttached_eq, isAttached_eq]
  show ((h.after (.close id)).flags other).2 = _
  rw [flags]
  show (Turn.follow (if id = other then [.close] else []) (h.flags other)).2 = _
  by_cases mine : id = other
  · rw [if_pos mine, if_pos mine.symm]
    rfl
  · rw [if_neg mine, if_neg (Ne.symm mine)]
    rfl

/-- A change of an access that leaves its mounts alone. -/
theorem mounted_relinked (h : Host) (id : AccessId) (f : Access → Access)
    (named : ∀ a, (f a).id = a.id) (kept : ∀ a, (f a).mounts = a.mounts) (other : AccessId) :
    (h.modifyAccess id f).mounted other = h.mounted other := by
  by_cases mine : other = id
  · rw [mine, mounted, mounted, access?_modifyAccess_self h id f named, Option.map_map]
    congr 2
    exact funext kept
  · rw [mounted, mounted, access?_modifyAccess h f named mine]

theorem mounted_close (h : Host) (id other : AccessId) :
    (h.close id).mounted other = if other = id then [] else h.mounted other := by
  have closed := mounted_relinked (h.unmountAll id) id (fun a => { a with attached := false })
    (fun _ => rfl) (fun _ => rfl) other
  show ((h.unmountAll id).modifyAccess id _).mounted other = _
  rw [closed]
  cases found : h.access? id with
  | none =>
    have same : h.unmountAll id = h := by
      unfold unmountAll
      rw [found]
    rw [same]
    split
    · next mine =>
      rw [mine, mounted, found]
      rfl
    · rfl
  | some a =>
    rw [unmountAll_eq found]
    exact mounted_modifyAccess (h := { h with files := _ }) found (fun a => { a with mounts := [] })
      (fun _ => rfl) other

theorem close_mounts {h : Host} {id : AccessId}
    (normal : ∀ l ∈ h.mounted id, Path.normalize l = l) :
    (h.close id).files.volumes = h.files.volumes ∧
      (h.close id).files.mounts = h.files.mounts.filter (·.location ∉ h.mounted id) := by
  show (h.unmountAll id).files.volumes = _ ∧ (h.unmountAll id).files.mounts = _
  cases found : h.access? id with
  | none =>
    have same : h.unmountAll id = h := by
      unfold unmountAll
      rw [found]
    have nothing : h.mounted id = [] := by
      rw [mounted, found]
      rfl
    rw [same, nothing]
    exact FileSystem.unmount_each [] (fun l here => absurd here List.not_mem_nil) h.files
  | some a =>
    rw [mounted_of_access? found] at normal ⊢
    rw [unmountAll_eq found]
    exact FileSystem.unmount_each a.mounts normal h.files

/-! ## The registry -/

theorem mounted_link (h : Host) (id other : AccessId) :
    (h.link id).2.mounted other = h.mounted other := by
  unfold link
  split
  · rfl
  · split
    · rfl
    · exact mounted_relinked h id (fun a => { a with linked := true, attached := true })
        (fun _ => rfl) (fun _ => rfl) other

theorem mounted_unlink (h : Host) (id other : AccessId) :
    (h.unlink id).2.mounted other = h.mounted other := by
  unfold unlink
  split
  · rfl
  · split
    · exact mounted_relinked h id (fun a => { a with linked := false })
        (fun _ => rfl) (fun _ => rfl) other
    · rfl

theorem mounted_claim {transition : Host → AccessId → Bool × Host}
    (each : ∀ h id other, (transition h id).2.mounted other = h.mounted other)
    (ids : List AccessId) (other : AccessId) :
    ∀ h : Host, (h.claim transition ids).2.mounted other = h.mounted other := by
  induction ids with
  | nil => exact fun _ => rfl
  | cons id rest ih => exact fun h => (ih _).trans (each h id other)

theorem mounted_replace (h : Host) (side : Side) (new : Option AccessId) (other : AccessId) :
    (h.replace side new).2.2.mounted other = h.mounted other := by
  have detached := mounted_claim mounted_unlink (h.slots side).toList other h
  unfold replace
  simp only
  split
  · exact (mounted_claim mounted_link new.toList other _).trans detached
  · exact detached

/-- A new access has mounted nothing. -/
theorem mounted_install (h : Host) (side : Side) (device : DeviceId) (other : AccessId) :
    (h.install side device).2.mounted other = h.mounted other := by
  unfold install
  cases h.device? device with
  | none => rfl
  | some d =>
    unfold mounted access? writeAll
    simp only
    rw [List.find?_append]
    cases h.accesses.find? fun a => a.id = other with
    | some a => rfl
    | none =>
      rw [Option.none_or, List.find?_singleton]
      split <;> rfl

theorem mounted_exchange (h : Host) (side : Side) (device : Option DeviceId) (other : AccessId) :
    (h.exchange side device).2.2.mounted other = h.mounted other := by
  cases device with
  | none => exact mounted_replace h side none other
  | some device =>
    exact (mounted_replace _ side _ other).trans (mounted_install h side device other)

theorem mounted_linkAll (h : Host) (other : AccessId) :
    h.linkAll.2.mounted other = h.mounted other :=
  mounted_claim mounted_link h.occupants other { h with running := true }

theorem mounted_unlinkAll (h : Host) (other : AccessId) :
    h.unlinkAll.2.mounted other = h.mounted other :=
  mounted_claim mounted_unlink h.occupants other { h with running := false }

/-- Only a closing closes the services of an access. -/
theorem isAttached_after {h : Host} {c : Change} (opens : ∀ id, c ≠ .close id) {id : AccessId}
    (attached : h.isAttached id = true) : (h.after c).isAttached id = true := by
  rw [isAttached_eq] at attached ⊢
  rw [flags_after, turnsAt, closing_of_open opens, List.append_nil, Turn.follow_append,
    Turn.follow_count, Turn.follow_count]
  split
  · rfl
  · split <;> exact attached

end Host

end DeviceBridge
