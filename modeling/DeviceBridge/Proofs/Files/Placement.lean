import DeviceBridge.Proofs.Files.Resolution

/-
  Where a path leads. The mount that serves a path is asked for what is left of the text behind its
  location, cut off by bytes, and such a cut always falls between two characters (`cut?_of_covers`).
  Which mount that is depends on the set of mounts alone, so mounts may be made in any order, and to
  unmount what was mounted gives back the file system (`resolution_deepest`).
-/

namespace DeviceBridge

open DeviceBridge.Path (Plain trail ofTrail)

/-! ## Cuts -/

namespace Path

/-- The text behind some bytes. There is none if these do not end between two characters. -/
def behind? (text : String) (bytes : Nat) : Option String :=
  if valid : String.Pos.Raw.IsValid text ⟨bytes⟩ then some (text.sliceFrom ⟨⟨bytes⟩, valid⟩).copy
  else none

theorem behind?_append (first rest : String) :
    behind? (first ++ rest) first.utf8ByteSize = some rest := by
  have valid : String.Pos.Raw.IsValid (first ++ rest) ⟨first.utf8ByteSize⟩ :=
    String.Pos.Raw.isValid_iff_exists_append.mpr ⟨first, rest, rfl, rfl⟩
  have splits : (⟨⟨first.utf8ByteSize⟩, valid⟩ : (first ++ rest).Pos).Splits first rest :=
    ⟨rfl, rfl⟩
  unfold behind?
  rw [dif_pos valid, splits.copy_sliceFrom_eq]

/-- The path as seen from a location: as many bytes as the location has are cut off, and the slashes
that the rest begins with. -/
def cut? (location path : String) : Option String :=
  (behind? path location.utf8ByteSize).map fun rest =>
    String.ofList (rest.toList.dropWhile (· == '/'))

/-- What a location covers goes on behind it. -/
theorem append_of_covers {location path : String} (covered : covers location path = true) :
    ∃ rest, path = location ++ rest := by
  unfold covers at covered
  rw [Bool.or_eq_true, Bool.or_eq_true, String.isEmpty_iff, beq_iff_eq,
    List.isPrefixOf_iff_prefix] at covered
  rcases covered with (rfl | rfl) | ⟨rest, further⟩
  · exact ⟨path, rfl⟩
  · exact ⟨"", String.append_empty.symm⟩
  · refine ⟨String.ofList ('/' :: rest), String.toList_inj.mp ?_⟩
    rw [String.toList_append, String.toList_ofList, ← further, List.append_assoc]
    rfl

/-- From a location that covers a path the cut falls between two characters. -/
theorem cut?_of_covers {location path : String} (covered : covers location path = true) :
    cut? location path = some (relative location path) := by
  obtain ⟨rest, rfl⟩ := append_of_covers covered
  unfold cut? relative
  rw [behind?_append, String.toList_append, List.drop_left]
  rfl

/-- A location and a path below it, with a slash between if there is something on both sides. -/
def under (location inner : String) : String :=
  String.ofList (join ([location.toList, inner.toList].filter (· ≠ [])))

theorem under_ofTrail {t u : Trail} (plain : Plain (t ++ u)) :
    under (ofTrail t) (ofTrail u) = ofTrail (t ++ u) := by
  obtain ⟨first, second⟩ := plain_append.mp plain
  unfold under ofTrail
  rw [String.toList_ofList, String.toList_ofList]
  refine congrArg String.ofList ?_
  by_cases root : t = []
  · by_cases whole : u = []
    · rw [root, whole]
      rfl
    · have some : join u ≠ [] := fun nothing => whole ((join_eq_nil second).mp nothing)
      rw [root]
      simp [join, some]
  · have some : join t ≠ [] := fun nothing => root ((join_eq_nil first).mp nothing)
    by_cases whole : u = []
    · rw [whole, List.append_nil]
      simp [join, some]
    · have more : join u ≠ [] := fun nothing => whole ((join_eq_nil second).mp nothing)
      rw [join_append root whole]
      simp [join, some, more]

end Path

/-- The mount that comes of a request, at its normalised location. -/
def MountPoint.placed (m : MountPoint) : MountPoint :=
  { m with location := Path.normalize m.location }

namespace FileSystem

variable {fs fs' : FileSystem} {m : MountPoint} {path : String}

/-! ## Answers -/

/-- A mount answers for a path, and is asked for the path inside of it. -/
structure AnsweredBy (fs : FileSystem) (path : String) (m : MountPoint) (inner : String) :
    Prop where
  below : trail path = trail m.location ++ trail inner
  cut : Path.cut? m.location (Path.normalize path) = some inner
  whole : Path.under m.location inner = Path.normalize path
  labelOf : fs.labelOf path = some m.label
  has : fs.has path = m.backing.tree.has fs.volumes inner
  isDirectory : fs.isDirectory path = m.backing.tree.isDirectory fs.volumes inner
  list : fs.list path = (m.backing.tree.list fs.volumes inner).map fun names =>
    mergeNames names (fs.mountsBelow (Path.normalize path))
  read : fs.read path = m.backing.tree.read fs.volumes inner
  writeRefused : ∀ tree, m.backing = .readOnly tree → ∀ contents,
    fs.write path contents = (.error (.accessDenied (Path.normalize path)), fs)
  write : ∀ id, m.backing = .writable id → ∀ contents,
    fs.write path contents = (((fs.volume id).write inner contents).1,
      fs.setVolume id ((fs.volume id).write inner contents).2)

/-- No mount answers for a path. -/
structure Unanswered (fs : FileSystem) (path : String) : Prop where
  labelOf : fs.labelOf path = none
  has : fs.has path = false
  isDirectory : fs.isDirectory path = false
  list : fs.list path = .error (.invalidPath (Path.normalize path))
  read : fs.read path = .error (.invalidPath (Path.normalize path))
  write : ∀ contents,
    fs.write path contents = (.error (.invalidPath (Path.normalize path)), fs)

theorem Serves.answers (located : fs.Located) (serves : fs.Serves path m) :
    ∃ inner, fs.AnsweredBy path m inner := by
  obtain ⟨rest, below⟩ := serves.above
  have below := below.symm
  have plain := Path.trail_plain path
  rw [below] at plain
  have normal := located.normal m serves.mounted
  have seen := Path.relative_normalize normal below
  have found := (resolve_eq_some_iff located).mpr serves
  have covered := (covers_iff located serves.mounted path).mpr serves.above
  refine ⟨ofTrail rest, ?_, ?_, ?_, ?_, serves.has located below, serves.isDirectory located below,
    serves.list located below, ?_, fun tree backed contents => ?_, fun id backed contents => ?_⟩
  · rw [below, Path.trail_ofTrail (Path.plain_append.mp plain).2]
  · rw [Path.cut?_of_covers covered, seen]
  · have whole := Path.under_ofTrail plain
    rw [Path.ofTrail_trail normal, ← below] at whole
    exact whole
  · unfold FileSystem.labelOf
    rw [found]
    rfl
  · unfold FileSystem.read
    simp only
    rw [found, ← seen]
  · unfold FileSystem.write
    simp only [found, backed]
  · unfold FileSystem.write
    simp only [found, backed, seen]

theorem unanswered_of_resolve (nobody : fs.resolve (Path.normalize path) = none) :
    fs.Unanswered path := by
  refine ⟨?_, ?_, ?_, ?_, ?_, fun contents => ?_⟩
  · unfold FileSystem.labelOf
    rw [nobody]
    rfl
  · unfold FileSystem.has
    simp only
    rw [nobody]
  · unfold FileSystem.isDirectory
    simp only
    rw [nobody]
  · unfold FileSystem.list
    simp only
    rw [nobody]
  · unfold FileSystem.read
    simp only
    rw [nobody]
  · unfold FileSystem.write
    simp only
    rw [nobody]

/-! ## Mounts in any order -/

/-- Make some mounts, one after the other, up to the first that fails. -/
def mountAll (fs : FileSystem) : List MountPoint → Except FileError Unit × FileSystem
  | [] => (.ok (), fs)
  | m :: rest =>
    match fs.mountAt m.label m.location m.backing with
    | (.ok (), fs) => mountAll fs rest
    | failed => failed

theorem mountAt_free (request : MountPoint) (free : request.placed.location ∉ fs.locations) :
    fs.mountAt request.label request.location request.backing =
      (.ok (), { fs with mounts := fs.mounts ++ [request.placed] }) := by
  unfold mountAt
  exact if_neg free

theorem mountAt_taken (request : MountPoint) (taken : request.placed.location ∈ fs.locations) :
    fs.mountAt request.label request.location request.backing =
      (.error (.alreadyMounted request.placed.location), fs) := by
  unfold mountAt
  exact if_pos taken

/-- By induction on the mounts: all succeed just if their locations are free and no two are the
same, and the table then goes on with them. -/
theorem mountAll_eq_ok_iff (requests : List MountPoint) : ∀ {fs : FileSystem},
    fs.locations.Nodup → (fs.mountAll requests = (.ok (), fs') ↔
      (fs.locations ++ requests.map (·.placed.location)).Nodup ∧
        fs' = { fs with mounts := fs.mounts ++ requests.map (·.placed) }) := by
  induction requests with
  | nil =>
    intro fs distinct
    rw [List.map_nil, List.map_nil, List.append_nil, List.append_nil, and_iff_right distinct]
    unfold mountAll
    rw [Prod.mk.injEq, and_iff_right rfl, eq_comm]
  | cons m rest ih =>
    intro fs distinct
    unfold mountAll
    by_cases taken : m.placed.location ∈ fs.locations
    · rw [mountAt_taken m taken]
      refine iff_of_false ?_ ?_
      · intro same
        cases same
      · rintro ⟨apart, -⟩
        exact List.disjoint_of_nodup_append apart taken (.head _)
    · have locations : FileSystem.locations { fs with mounts := fs.mounts ++ [m.placed] } =
          fs.locations ++ [m.placed.location] := List.map_append
      have distinct' : (FileSystem.locations
          { fs with mounts := fs.mounts ++ [m.placed] }).Nodup := by
        rw [locations]
        exact distinct.append (List.nodup_singleton _) (List.disjoint_singleton.mpr taken)
      rw [mountAt_free m taken]
      simp only
      rw [ih distinct', locations, List.append_assoc, List.append_assoc]
      rfl

/-- The same answers to what is asked of single paths. -/
structure Agrees (fs fs' : FileSystem) : Prop where
  has : ∀ path, fs'.has path = fs.has path
  isDirectory : ∀ path, fs'.isDirectory path = fs.isDirectory path
  read : ∀ path, fs'.read path = fs.read path
  labelOf : ∀ path, fs'.labelOf path = fs.labelOf path

/-- The table decides as a set which mount serves a path. -/
theorem agrees_of_perm (located : fs.Located) (located' : fs'.Located)
    (volumes : fs'.volumes = fs.volumes) (mounts : fs'.mounts.Perm fs.mounts) : fs.Agrees fs' := by
  have serves {path : String} {m : MountPoint} : fs'.Serves path m ↔ fs.Serves path m :=
    ⟨fun ⟨here, above, deepest⟩ => ⟨mounts.subset here, above,
        fun other there => deepest other (mounts.symm.subset there)⟩,
      fun ⟨here, above, deepest⟩ => ⟨mounts.symm.subset here, above,
        fun other there => deepest other (mounts.subset there)⟩⟩
  have resolve (path : String) :
      fs'.resolve (Path.normalize path) = fs.resolve (Path.normalize path) := by
    refine Option.ext fun m => ?_
    rw [resolve_eq_some_iff located', resolve_eq_some_iff located]
    exact serves
  refine ⟨fun path => ?_, fun path => ?_, fun path => ?_, fun path => ?_⟩
  · unfold FileSystem.has
    simp only
    rw [resolve, volumes]
  · unfold FileSystem.isDirectory
    simp only
    rw [resolve, volumes]
  · unfold FileSystem.read
    simp only
    rw [resolve, volumes]
  · unfold FileSystem.labelOf
    rw [resolve]

/-- By induction on the mounts. -/
theorem Built.mountAll (requests : List MountPoint) : ∀ {fs fs' : FileSystem}, fs.Built →
    fs.mountAll requests = (.ok (), fs') → fs'.Built := by
  induction requests with
  | nil =>
    intro fs fs' built done
    cases done
    exact built
  | cons m rest ih =>
    intro fs fs' built done
    unfold FileSystem.mountAll at done
    cases first : fs.mountAt m.label m.location m.backing with
    | mk result next =>
      rw [first] at done
      cases result with
      | error => cases done
      | ok => exact ih (built.mount first) done

/-- Mounts that succeed in one order succeed in every order, and lead to the same answers. -/
theorem Built.mountAll_perm (built : fs.Built) {requests others : List MountPoint}
    (done : fs.mountAll requests = (.ok (), fs')) (perm : others.Perm requests) :
    ∃ fs'', fs.mountAll others = (.ok (), fs'') ∧ fs'.Agrees fs'' := by
  have distinct := built.located.distinct
  obtain ⟨apart, came⟩ := (mountAll_eq_ok_iff requests distinct).mp done
  have apart' : (fs.locations ++ others.map (·.placed.location)).Nodup :=
    ((perm.map _).append_left fs.locations).nodup_iff.mpr apart
  have done' := (mountAll_eq_ok_iff others distinct).mpr ⟨apart', rfl⟩
  refine ⟨_, done', agrees_of_perm (built.mountAll requests done).located
    (built.mountAll others done').located ?_ ?_⟩
  · rw [came]
  · rw [came]
    exact (perm.map _).append_left fs.mounts

/-- To unmount what was just mounted, spelled in any way, gives back the file system. -/
theorem unmount_mountAt {label location spelled : String} {backing : Backing}
    (done : fs.mountAt label location backing = (.ok (), fs'))
    (same : Path.normalize spelled = Path.normalize location) :
    fs'.unmount spelled = (true, fs) := by
  obtain ⟨free, volumes, mounts⟩ := mountAt_ok done
  have gone : fs'.mounts.filter (·.location ≠ Path.normalize location) = fs.mounts :=
    filter_mounted mounts rfl free
  have there : Path.normalize location ∈ fs'.locations := by
    unfold locations
    rw [mounts, List.map_append]
    exact List.mem_append_right _ (.head _)
  unfold unmount
  simp only
  rw [same, gone, volumes, decide_eq_true there]

/-! ## Where paths lead -/

/-- In every table that mounts and unmounts lead to, a path is served by the mount with the longest
location that its normal form leads through, component by component, and by none just if it leads
through no location. The mount is asked for the rest of the path, which is cut off between two
characters and makes up the normal form with the location. Mounts that succeed do so in every order
and lead to the same answers, and to unmount what was mounted gives back the file system. -/
theorem resolution_deepest (built : fs.Built) :
    (∀ path m, fs.resolve (Path.normalize path) = some m ↔ fs.Serves path m) ∧
    (∀ path, fs.resolve (Path.normalize path) = none ↔
      ∀ m ∈ fs.mounts, ¬trail m.location <+: trail path) ∧
    (∀ path m, fs.Serves path m → ∃ inner, fs.AnsweredBy path m inner) ∧
    (∀ path, (∀ m ∈ fs.mounts, ¬trail m.location <+: trail path) → fs.Unanswered path) ∧
    (∀ requests others fs', fs.mountAll requests = (.ok (), fs') → others.Perm requests →
      ∃ fs'', fs.mountAll others = (.ok (), fs'') ∧ fs'.Agrees fs'') ∧
    ∀ label location backing fs', fs.mountAt label location backing = (.ok (), fs') →
      ∀ spelled, Path.normalize spelled = Path.normalize location →
        fs'.unmount spelled = (true, fs) := by
  have located := built.located
  exact ⟨fun _ _ => resolve_eq_some_iff located, fun _ => resolve_eq_none_iff located,
    fun _ _ => Serves.answers located,
    fun _ none => unanswered_of_resolve ((resolve_eq_none_iff located).mpr none),
    fun _ _ _ => built.mountAll_perm,
    fun _ _ _ _ done _ => unmount_mountAt done⟩

/-! ## A location beside others that begin alike -/

def atlasRequests : List MountPoint :=
  [⟨"root", "", .writable 0⟩, ⟨"street", "/é/", .writable 1⟩, ⟨"house", "é\\b", .writable 2⟩,
    ⟨"city", "éb", .writable 3⟩]

def atlas : FileSystem := (empty.mountAll atlasRequests).2

theorem atlas_built : atlas.Built := by
  have done : empty.mountAll atlasRequests = (.ok (), atlas) := rfl
  exact Built.empty.mountAll atlasRequests done

/-- The deepest location serves the path, in whatever order the mounts are made. -/
theorem resolution_deepest_atlas :
    atlas.Serves "/é//b/c" ⟨"house", "é/b", .writable 2⟩ ∧
    (∃ inner, atlas.AnsweredBy "/é//b/c" ⟨"house", "é/b", .writable 2⟩ inner) ∧
    ∃ fs, empty.mountAll atlasRequests.reverse = (.ok (), fs) ∧ atlas.Agrees fs ∧
      fs.labelOf "/é//b/c" = some "house" := by
  obtain ⟨resolved, -, answered, -⟩ := resolution_deepest atlas_built
  obtain ⟨-, -, -, -, ordered, -⟩ := resolution_deepest Built.empty
  have serves : atlas.Serves "/é//b/c" ⟨"house", "é/b", .writable 2⟩ := (resolved _ _).mp rfl
  have done : empty.mountAll atlasRequests = (.ok (), atlas) := rfl
  obtain ⟨fs, again, agrees⟩ := ordered _ _ _ done (List.reverse_perm atlasRequests)
  obtain ⟨inner, answer⟩ := answered _ _ serves
  exact ⟨serves, ⟨inner, answer⟩, fs, again, agrees,
    (agrees.labelOf "/é//b/c").trans answer.labelOf⟩

end FileSystem

end DeviceBridge
