import DeviceBridge.Files.System
import DeviceBridge.Proofs.Files.Volumes
import Mathlib.Data.List.Induction

/-
  What can be mounted behaves like one tree of directories, be it a volume or any number of layers.
  `Mount.IsTree` says of a mount what `Volume.IsTree` says of a volume, in terms of its answers
  alone; layers of trees are a tree again (`IsTree.layered`), where each layer adds to a listing
  just the names that it has (`listLayers_spec`). Where only existence counts, it is enough that
  with every path a mount has the directories on the way to it (`PrefixClosed`).
-/

namespace DeviceBridge

open DeviceBridge.Path (Trail Plain IsPlain ofTrail)

/-! ## Merged names -/

theorem mem_mergeNames {name : String} (names : List String) : ∀ {seen : List String},
    name ∈ mergeNames seen names ↔ name ∈ seen ∨ name ∈ names := by
  induction names with
  | nil =>
    intro seen
    rw [mergeNames, or_iff_left List.not_mem_nil]
  | cons n ns ih =>
    intro seen
    rw [mergeNames, ih, List.mem_cons, ← or_assoc]
    refine or_congr_left ?_
    split
    · next old =>
      refine (or_iff_left_of_imp ?_).symm
      rintro rfl
      exact old
    · rw [List.mem_append, List.mem_singleton]

theorem mergeNames_nodup (names : List String) : ∀ {seen : List String}, seen.Nodup →
    (mergeNames seen names).Nodup := by
  induction names with
  | nil => exact fun once => once
  | cons n ns ih =>
    intro seen once
    refine ih ?_
    split
    · exact once
    · next new => exact once.append (List.nodup_singleton n) (List.disjoint_singleton.mpr new)

namespace Mount

variable {volumes : List Volume} {m : Mount} {layers : List Mount}

theorem anyHas_iff {path : String} :
    anyHas volumes layers path = true ↔ ∃ m ∈ layers, m.has volumes path = true := by
  induction layers with
  | nil => simp [anyHas]
  | cons m above ih => rw [anyHas, Bool.or_eq_true, ih, List.exists_mem_cons_iff, or_comm]

theorem anyIsDirectory_iff {path : String} : anyIsDirectory volumes layers path = true ↔
    ∃ m ∈ layers, m.isDirectory volumes path = true := by
  induction layers with
  | nil => simp [anyIsDirectory]
  | cons m above ih => rw [anyIsDirectory, Bool.or_eq_true, ih, List.exists_mem_cons_iff, or_comm]

/-! ## Trees -/

/-- The names are those of what lies directly below the directory, each once. -/
structure Names (volumes : List Volume) (m : Mount) (t : Trail) (names : List String) : Prop where
  once : names.Nodup
  mem : ∀ name : String, name ∈ names ↔
    IsPlain name.toList ∧ m.has volumes (ofTrail (t ++ [name.toList])) = true

structure IsTree (volumes : List Volume) (m : Mount) : Prop where
  root : m.isDirectory volumes "" = true
  present : ∀ path, m.isDirectory volumes path = true → m.has volumes path = true
  parent : ∀ (t : Trail) (p : List Char), Plain (t ++ [p]) →
    m.has volumes (ofTrail (t ++ [p])) = true → m.isDirectory volumes (ofTrail t) = true
  lists : ∀ t, Plain t → m.isDirectory volumes (ofTrail t) = true →
    ∃ names, m.list volumes (ofTrail t) = .ok names ∧ Names volumes m t names
  refuses : ∀ t, Plain t → m.isDirectory volumes (ofTrail t) = false →
    ∃ e, m.list volumes (ofTrail t) = .error e

namespace IsTree

theorem volume {id : VolumeId} (tree : (volumeAt volumes id).IsTree) :
    IsTree volumes (.volume id) := by
  refine ⟨Volume.isDirectory_iff.mpr tree.root, fun path directory => ?_,
    fun t p plain present => Volume.isDirectory_iff.mpr (tree.parent t p plain present),
    fun t plain directory => ?_, fun t _ other => ?_⟩
  · show ((volumeAt volumes id).node? path).isSome = true
    rw [Volume.isDirectory_iff.mp directory]
    rfl
  · obtain ⟨names, listed, once, mem⟩ := tree.lists plain directory
    exact ⟨names, listed, once, mem⟩
  · refine ⟨_, if_neg ?_⟩
    exact Bool.eq_false_iff.mp other

/-- By induction on the layers, from the topmost: one that has the directory adds the names that it
has, another one has nothing below. -/
theorem listLayers_spec (trees : ∀ m ∈ layers, IsTree volumes m) {t : Trail} (plain : Plain t) :
    ∃ found, listLayers volumes layers (ofTrail t) = .ok found ∧
      (found.isSome = true ↔ anyIsDirectory volumes layers (ofTrail t) = true) ∧
      Names volumes (.layered layers) t (found.getD []) := by
  induction layers with
  | nil =>
    refine ⟨none, rfl, Iff.rfl, List.nodup_nil, fun name => ⟨fun here => ?_, fun below => ?_⟩⟩
    · exact absurd here List.not_mem_nil
    · cases below.2
  | cons m above ih =>
    obtain ⟨found, others, directories, once, mem⟩ := ih fun n here => trees n (.tail _ here)
    have tree := trees m (.head _)
    have either (name : String) : Mount.has volumes (.layered (m :: above))
          (ofTrail (t ++ [name.toList])) = true ↔
        Mount.has volumes (.layered above) (ofTrail (t ++ [name.toList])) = true ∨
          m.has volumes (ofTrail (t ++ [name.toList])) = true :=
      Bool.or_eq_true_iff
    unfold listLayers anyIsDirectory
    rw [others]
    simp only
    cases directory : m.isDirectory volumes (ofTrail t) with
    | true =>
      obtain ⟨names, listed, first⟩ := tree.lists t plain directory
      rw [tree.present _ directory, listed]
      refine ⟨some (mergeNames (found.getD []) names), rfl, by simp, mergeNames_nodup names once,
        fun name => ?_⟩
      rw [Option.getD_some, mem_mergeNames, mem, first.mem, either, and_or_left]
    | false =>
      rw [Bool.and_false, Bool.or_false]
      refine ⟨found, rfl, directories, once, fun name => ?_⟩
      rw [mem, either]
      refine and_congr_right fun last => (or_iff_left ?_).symm
      intro present
      have further : Plain (t ++ [name.toList]) :=
        Path.plain_append.mpr ⟨plain, Path.plain_single.mpr last⟩
      rw [tree.parent t _ further present] at directory
      cases directory

theorem layered (some : layers ≠ []) (trees : ∀ m ∈ layers, IsTree volumes m) :
    IsTree volumes (.layered layers) := by
  refine ⟨?_, fun path directory => ?_, fun t p plain present => ?_, fun t plain directory => ?_,
    fun t plain other => ?_⟩
  · obtain ⟨m, above, rfl⟩ := List.exists_cons_of_ne_nil some
    exact anyIsDirectory_iff.mpr ⟨m, .head _, (trees m (.head _)).root⟩
  · obtain ⟨m, here, directory⟩ := anyIsDirectory_iff.mp directory
    exact anyHas_iff.mpr ⟨m, here, (trees m here).present path directory⟩
  · obtain ⟨m, here, present⟩ := anyHas_iff.mp present
    exact anyIsDirectory_iff.mpr ⟨m, here, (trees m here).parent t p plain present⟩
  · obtain ⟨found, listed, directories, names⟩ := listLayers_spec trees plain
    obtain ⟨all, rfl⟩ := Option.isSome_iff_exists.mp (directories.mpr directory)
    refine ⟨all, ?_, names⟩
    unfold Mount.list
    rw [listed]
  · obtain ⟨found, listed, directories, -⟩ := listLayers_spec trees plain
    have nothing : found = none := by
      rw [← Option.not_isSome_iff_eq_none, directories]
      exact Bool.eq_false_iff.mp other
    unfold Mount.list
    rw [listed, nothing]
    exact ⟨_, rfl⟩

end IsTree

/-- A volume, or some layers that are made of volumes. -/
inductive OfVolumes : Mount → Prop where
  | volume (id : VolumeId) : OfVolumes (.volume id)
  | layered {layers : List Mount} (some : layers ≠ []) (each : ∀ m ∈ layers, OfVolumes m) :
      OfVolumes (.layered layers)

/-- By induction on the layers. -/
theorem OfVolumes.isTree (trees : ∀ id, (volumeAt volumes id).IsTree) (made : m.OfVolumes) :
    m.IsTree volumes := by
  induction made with
  | volume id => exact .volume (trees id)
  | layered some _ ih => exact .layered some ih

/-! ## Prefix closure -/

/-- With a path there is every directory on the way to it. -/
def PrefixClosed (volumes : List Volume) (m : Mount) : Prop :=
  ∀ t u : Trail, Plain (t ++ u) → m.has volumes (ofTrail (t ++ u)) = true →
    m.has volumes (ofTrail t) = true

/-- By induction on the way up. -/
theorem IsTree.prefixClosed (tree : m.IsTree volumes) : m.PrefixClosed volumes := by
  intro t u
  induction u using List.reverseRecOn with
  | nil =>
    intro _ present
    rwa [List.append_nil] at present
  | append_singleton u p ih =>
    intro plain present
    rw [← List.append_assoc] at plain present
    have above := tree.parent (t ++ u) p plain present
    exact ih (Path.plain_append.mp plain).1 (tree.present _ above)

theorem PrefixClosed.layered (closed : ∀ m ∈ layers, m.PrefixClosed volumes) :
    (Mount.layered layers).PrefixClosed volumes := by
  intro t u plain present
  obtain ⟨m, here, present⟩ := anyHas_iff.mp present
  exact anyHas_iff.mpr ⟨m, here, closed m here t u plain present⟩

end Mount

end DeviceBridge
