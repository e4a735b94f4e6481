import DeviceBridge.Proofs.Files.Placement
import DeviceBridge.Proofs.Files.Writes

/-
  Which path an error names. The file system names the path that it was asked for, but a mount knows
  its own tree only and names a path inside of it: the one that it was asked for or, where a file is
  in the way of a write, the path of that file. Nothing translates these names on the way out
  (`failure_blames`). So the path in the error of a mount has to be read from the location of the
  mount, and then it is the path asked for or one above it; read from the root it is so only by
  chance (`named_above_iff`).
-/

namespace DeviceBridge

open DeviceBridge.Path (Trail Plain ofTrail trail)

/-! ## Paths and errors -/

/-- The normal form of a path, or a directory on the way to it. -/
def Path.Above (q path : String) : Prop := ∃ t, t <+: trail path ∧ q = ofTrail t

theorem Path.above_self (path : String) : Above (normalize path) path :=
  ⟨trail path, List.prefix_rfl, rfl⟩

theorem Path.above_ofTrail {t : Trail} (plain : Plain t) (path : String) :
    Above (ofTrail t) path ↔ t <+: trail path := by
  constructor
  · rintro ⟨u, above, same⟩
    have upper : Plain u := fun p here => trail_plain path p (above.subset here)
    rw [(ofTrail_inj plain upper).mp same]
    exact above
  · exact fun above => ⟨t, above, rfl⟩

theorem Path.above_iff {q : String} (normal : normalize q = q) (path : String) :
    Above q path ↔ trail q <+: trail path := by
  have same := above_ofTrail (trail_plain q) path
  rw [ofTrail_trail normal] at same
  exact same

namespace FileError

def path : FileError → String
  | operation path _ => path
  | invalidPath path => path
  | alreadyMounted location => location
  | accessDenied path => path

def of? {α : Type} : Except FileError α → Option FileError
  | .ok _ => none
  | .error e => some e

theorem of?_eq_some {α : Type} {result : Except FileError α} {e : FileError} :
    of? result = some e ↔ result = .error e := by
  cases result with
  | ok => exact iff_of_false nofun nofun
  | error other =>
    show some other = some e ↔ _
    rw [Option.some.injEq, Except.error.injEq]

end FileError

/-! ## Errors of volumes -/

namespace Volume

variable {v : Volume} {t : Trail} {contents : Bytes} {e : FileError}

/-- Directories are made up to a file that is in the way, by induction on them. -/
theorem makeAll_error (ds : List String) : ∀ {v : Volume}, (v.makeAll ds).1 = .error e →
    ∃ d ∈ ds, ∃ held, v.node? d = some (.file held) ∧ e = .operation d "File exists" := by
  induction ds with
  | nil =>
    intro v failed
    cases failed
  | cons d rest ih =>
    intro v failed
    unfold makeAll at failed
    split at failed
    · next held found =>
      cases failed
      exact ⟨d, .head _, held, found, rfl⟩
    · obtain ⟨q, here, later⟩ := ih failed
      exact ⟨q, .tail _ here, later⟩
    · obtain ⟨q, here, held, found, named⟩ := ih failed
      refine ⟨q, .tail _ here, held, ?_, named⟩
      rw [node?_insert] at found
      split at found
      · cases found
      · exact found

/-- A write fails at its own path, or at a file above it. -/
theorem write_error (plain : Plain t) (failed : (v.write (ofTrail t) contents).1 = .error e) :
    e = .operation (ofTrail t) "Cannot write to directory" ∨
    ∃ further left held, t = further ++ left ∧ left ≠ [] ∧
      v.node? (ofTrail further) = some (.file held) ∧
      e = .operation (ofTrail further) "File exists" := by
  unfold Volume.write at failed
  split at failed
  · cases failed
    exact .inl rfl
  · refine .inr ?_
    have stopped : (v.makeAll (Path.ancestors (ofTrail t))).1 = .error e := by
      generalize v.makeAll (Path.ancestors (ofTrail t)) = came at failed ⊢
      obtain ⟨result, v'⟩ := came
      cases result with
      | error => exact failed
      | ok => cases failed
    rcases List.eq_nil_or_concat t with root | ⟨before, p, below⟩
    · rw [root] at stopped
      cases stopped
    · rw [List.concat_eq_append] at below
      subst below
      rw [Path.ancestors_ofTrail plain] at stopped
      obtain ⟨d, here, held, found, named⟩ := makeAll_error _ stopped
      obtain ⟨text, among, rfl⟩ := List.mem_map.mp here
      obtain ⟨further, ⟨left, rfl⟩, rfl⟩ := Path.mem_prefixes among
      exact ⟨further, left ++ [p], held, List.append_assoc .., by simp, found, named⟩

end Volume

namespace FileSystem

variable {fs : FileSystem} {m : MountPoint} {path : String} {e : FileError}

/-! ## What fails -/

/-- What is asked of one path. -/
inductive Query where
  | list
  | read
  | write (contents : Bytes)

/-- What a mount says of its own path. -/
def Query.complaint : Query → String
  | list => "Not a directory"
  | read => "No such file"
  | write _ => "Cannot write to directory"

/-- The error that an operation ends with, if it does. -/
def failure? (fs : FileSystem) (path : String) : Query → Option FileError
  | .list => FileError.of? (fs.list path)
  | .read => FileError.of? (fs.read path)
  | .write contents => FileError.of? (fs.write path contents).1

/-- How an operation on a path ends with an error. Only the first two errors name the path as the
file system was asked for it. -/
inductive Blames (fs : FileSystem) (path : String) : Query → FileError → Prop where
  | unserved {query : Query} (nobody : ∀ m ∈ fs.mounts, ¬trail m.location <+: trail path) :
      Blames fs path query (.invalidPath (Path.normalize path))
  | readOnly {m : MountPoint} {tree : Mount} {contents : Bytes} (serves : fs.Serves path m)
      (backing : m.backing = .readOnly tree) :
      Blames fs path (.write contents) (.accessDenied (Path.normalize path))
  | refused {query : Query} {m : MountPoint} {t : Trail} (serves : fs.Serves path m)
      (below : trail path = trail m.location ++ t) :
      Blames fs path query (.operation (ofTrail t) query.complaint)
  | blocked {m : MountPoint} {t u : Trail} {contents held : Bytes} (serves : fs.Serves path m)
      (below : trail path = trail m.location ++ (t ++ u)) (short : u ≠ [])
      (file : fs.read (ofTrail (trail m.location ++ t)) = .ok held) :
      Blames fs path (.write contents) (.operation (ofTrail t) "File exists")

theorem Serves.write_blames (located : fs.Located) (serves : fs.Serves path m) {id : VolumeId}
    (backing : m.backing = .writable id) {rest : Trail}
    (below : trail path = trail m.location ++ rest) {contents : Bytes}
    (failed : ((fs.volume id).write (ofTrail rest) contents).1 = .error e) :
    fs.Blames path (.write contents) e := by
  have plain := Path.trail_plain path
  rw [below] at plain
  rcases Volume.write_error (Path.plain_append.mp plain).2 failed with rfl |
    ⟨further, left, held, rfl, short, found, rfl⟩
  · exact .refused serves below
  · rw [← List.append_assoc] at plain
    have way : trail (ofTrail (trail m.location ++ further)) = trail m.location ++ further :=
      Path.trail_ofTrail (Path.plain_append.mp plain).1
    have onWay : trail (ofTrail (trail m.location ++ further)) <+: trail path := by
      rw [way, below, ← List.append_assoc]
      exact List.prefix_append _ left
    have inside : fs.Serves (ofTrail (trail m.location ++ further)) m := by
      refine serves.between ?_ onWay
      rw [way]
      exact List.prefix_append _ further
    have standing : fs.read (ofTrail (trail m.location ++ further)) = .ok held := by
      rw [(inside.writable located backing way).2.2, Volume.read_eq_ok_iff]
      exact found
    exact .blocked serves below short standing

theorem Unanswered.failure? (nobody : fs.Unanswered path) (query : Query) :
    fs.failure? path query = some (.invalidPath (Path.normalize path)) := by
  cases query with
  | list => exact FileError.of?_eq_some.mpr nobody.list
  | read => exact FileError.of?_eq_some.mpr nobody.read
  | write contents => exact FileError.of?_eq_some.mpr (congrArg Prod.fst (nobody.write contents))

/-- A mount that is made of volumes refuses the path that it is asked for, as it sees it, and a
volume that is written may also refuse a path above that one. -/
theorem Serves.blames (located : fs.Located) (serves : fs.Serves path m)
    (made : m.backing.tree.Composed) {query : Query} (failed : fs.failure? path query = some e) :
    fs.Blames path query e := by
  obtain ⟨rest, below⟩ := serves.above
  have below := below.symm
  cases query with
  | list =>
    have refused : fs.list path = .error e := FileError.of?_eq_some.mp failed
    rw [serves.list located below] at refused
    rcases made.lists (ofTrail rest) with ⟨-, -, names, listed⟩ | ⟨-, complaint⟩
    · rw [listed] at refused
      cases refused
    · rw [complaint] at refused
      cases refused
      exact .refused serves below
  | read =>
    have refused : fs.read path = .error e := FileError.of?_eq_some.mp failed
    rw [serves.read located below] at refused
    rcases made.reads (ofTrail rest) with ⟨-, contents, found⟩ | ⟨complaint, -⟩
    · rw [found] at refused
      cases refused
    · rw [complaint] at refused
      cases refused
      exact .refused serves below
  | write contents =>
    have refused : (fs.write path contents).1 = .error e := FileError.of?_eq_some.mp failed
    cases backing : m.backing with
    | readOnly tree =>
      obtain ⟨inner, answer⟩ := serves.answers located
      rw [answer.writeRefused tree backing contents] at refused
      cases refused
      exact .readOnly serves backing
    | writable id =>
      rw [serves.write located backing below contents] at refused
      exact serves.write_blames located backing below refused

/-- An operation fails with the error of a mount as it is, or with one that names the path asked
for. -/
theorem failure_blames (located : fs.Located) (made : ∀ m ∈ fs.mounts, m.backing.tree.Composed)
    {query : Query} (failed : fs.failure? path query = some e) : fs.Blames path query e := by
  cases found : fs.resolve (Path.normalize path) with
  | none =>
    rw [(unanswered_of_resolve found).failure? query] at failed
    cases failed
    exact .unserved ((resolve_eq_none_iff located).mp found)
  | some m =>
    have serves := (resolve_eq_some_iff located).mp found
    exact serves.blames located (made m serves.mounted) failed

/-! ## What the errors name -/

/-- A name that a mount gives, read from the location of the mount, is on the way to the path; read
from the root it is so just if it happens to begin the path too. -/
theorem Serves.named (located : fs.Located) (serves : fs.Serves path m) {t u : Trail}
    (below : trail path = trail m.location ++ (t ++ u)) :
    Path.Above (Path.under m.location (ofTrail t)) path ∧
      (Path.Above (ofTrail t) path ↔ t <+: trail path) ∧
      (m.location = "" → Path.Above (ofTrail t) path) := by
  have plain := Path.trail_plain path
  rw [below, ← List.append_assoc] at plain
  have upper := (Path.plain_append.mp plain).1
  have named := Path.above_ofTrail (Path.plain_append.mp upper).2 path
  refine ⟨?_, named, fun root => named.mpr ?_⟩
  · have whole := Path.under_ofTrail upper
    rw [Path.ofTrail_trail (located.normal m serves.mounted)] at whole
    rw [whole, Path.above_ofTrail upper, below, ← List.append_assoc]
    exact List.prefix_append _ u
  · rw [below, root]
    exact List.prefix_append t u

/-- An error of the file system names the path that it was asked for, if nothing serves the path or
the mount that serves it cannot be written. All other errors are those of the mount. They name the
path as the mount sees it, or a file above it that is in the way of a write: from the location of
the mount that is the path asked for or one above it, but from the root, as it is given, it is so
just if the trail of the path begins with it, as it does if the mount is at the root. -/
theorem named_above_iff (built : fs.Built) (made : ∀ m ∈ fs.mounts, m.backing.tree.Composed)
    {query : Query} (failed : fs.failure? path query = some e) :
    fs.Blames path query e ∧
    ((e.path = Path.normalize path ∧ Path.Above e.path path) ∨
      ∃ m t u, fs.Serves path m ∧ trail path = trail m.location ++ (t ++ u) ∧
        e.path = ofTrail t ∧ Path.Above (Path.under m.location e.path) path ∧
        (Path.Above e.path path ↔ t <+: trail path) ∧
        (m.location = "" → Path.Above e.path path)) := by
  have located := built.located
  have blames := failure_blames located made failed
  refine ⟨blames, ?_⟩
  cases blames with
  | unserved => exact .inl ⟨rfl, Path.above_self path⟩
  | readOnly => exact .inl ⟨rfl, Path.above_self path⟩
  | @refused _ m t serves below =>
    have below' : trail path = trail m.location ++ (t ++ []) := by rwa [List.append_nil]
    exact .inr ⟨m, t, [], serves, below', rfl, serves.named located below'⟩
  | @blocked m t u _ _ serves below =>
    exact .inr ⟨m, t, u, serves, below, rfl, serves.named located below⟩

/-! ## A file in a mount that is not at the root -/

def cabinetVolume : Volume := (Volume.empty.write "a/b" [120]).2

/-- A file system with one mount, and a file in it. -/
def cabinet : FileSystem :=
  (FileSystem.mountAt ⟨[], [cabinetVolume]⟩ "d" "disk" (.writable 0)).2

theorem cabinet_built : cabinet.Built :=
  .mount (.volumes .empty [cabinetVolume]) rfl

theorem cabinet_composed : ∀ m ∈ cabinet.mounts, m.backing.tree.Composed := by
  intro m here
  rw [List.mem_singleton.mp here]
  exact .volume 0

/-- The file stops a write below it, and the error names it as the mount sees it. -/
theorem named_above_iff_cabinet :
    cabinet.failure? "disk/a/b/c" (.write []) = some (.operation "a/b" "File exists") ∧
    ¬Path.Above "a/b" "disk/a/b/c" ∧ Path.Above "disk/a/b" "disk/a/b/c" := by
  have failed : cabinet.failure? "disk/a/b/c" (.write []) =
      some (.operation "a/b" "File exists") := rfl
  have outside : ¬Path.Above "a/b" "disk/a/b/c" := by
    rw [Path.above_iff rfl]
    decide
  obtain ⟨-, ⟨-, above⟩ | ⟨m, t, u, serves, -, -, inside, -⟩⟩ :=
    named_above_iff cabinet_built cabinet_composed failed
  · exact absurd above outside
  · rw [List.mem_singleton.mp serves.mounted] at inside
    exact ⟨failed, outside, inside⟩

/-- Errors do not always name the path that the file system was asked for, or one above it. -/
theorem local_name_escapes :
    ¬∀ fs : FileSystem, fs.Built → (∀ m ∈ fs.mounts, m.backing.tree.Composed) →
      ∀ path query e, fs.failure? path query = some e → Path.Above e.path path := by
  intro above
  have named : Path.Above "a/c" "disk/a/c" :=
    above cabinet cabinet_built cabinet_composed "disk/a/c" .read _ rfl
  rw [Path.above_iff rfl] at named
  exact absurd named (by decide)

end FileSystem

end DeviceBridge
