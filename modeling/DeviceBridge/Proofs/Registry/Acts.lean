import DeviceBridge.Proofs.Files.Mounted
import DeviceBridge.Proofs.Registry.Refinement

/-
  What single acts do. An act that can be played on a host is one change of it, or a hook that is
  run (`does_of_play`). So what every change keeps, acts keep (`Kept.playAll`), and of the acts only
  a change of the table opens the services of an access (`opened_before_act`).
-/

namespace DeviceBridge.Host

variable {h h' : Host} {depth : Nat}

/-- What a single act is on a host, if there is anything that it can be done to. -/
def Does (depth : Nat) (h h' : Host) : Act → Prop
  | .table c => h' = h.retable c
  | .log t id => ∃ a, h.access? id = some a ∧ h' = h.after (.write .debug (t.announcement a))
  | .hook t id => ∃ a x, h.access? id = some a ∧ h.device? a.device = some x ∧
      h.runHook (Program.run depth) t a = (.ok (), h')
  | .close id => h' = h.after (.close id)
  | .event name side => h' = h.after (.queueEvent name [.string side.name])

theorem does_of_play {act : Act} (played : h.play depth act = some h') : Does depth h h' act := by
  cases act with
  | table c => exact (Option.some.inj played).symm
  | log t id =>
    obtain ⟨a, found, rfl⟩ := Option.map_eq_some_iff.mp played
    exact ⟨a, found, rfl⟩
  | close id => exact (Option.some.inj played).symm
  | event name side => exact (Option.some.inj played).symm
  | hook t id =>
    unfold play at played
    simp only at played
    split at played
    · cases played
    · next a found =>
      split at played
      · cases played
      · next x behind =>
        split at played
        · next ran =>
          cases played
          refine ⟨a, x, found, behind, ?_⟩
          unfold runHook
          rw [behind, access?_id found]
          cases t <;> exact ran
        · cases played

theorem playAll_cons {act : Act} {rest : List Act} {last : Host}
    (played : h.playAll depth (act :: rest) = some last) :
    ∃ next, h.play depth act = some next ∧ next.playAll depth rest = some last := by
  unfold playAll at played
  split at played
  · cases played
  · next found => exact ⟨_, found, played⟩

/-- What every single change keeps, every act keeps. -/
theorem Kept.play {R : Host → Host → Prop} (kept : Kept R) {act : Act}
    (played : h.play depth act = some h') : R h h' := by
  have does := does_of_play played
  cases act with
  | table c =>
    have same : h' = h.retable c := does
    rw [same]
    cases c with
    | set side device => exact kept.exchange h side device
    | start => exact kept.linkAll h
    | stop => exact kept.unlinkAll h
  | log t id =>
    obtain ⟨a, -, rfl⟩ := does
    exact kept.after h _
  | hook t id =>
    obtain ⟨a, x, -, -, ran⟩ := does
    have hooked := kept.runHook (kept.run depth) t h a
    rwa [ran] at hooked
  | close id =>
    have same : h' = h.after (.close id) := does
    rw [same]
    exact kept.after h _
  | event name side =>
    have same : h' = h.after (.queueEvent name [.string side.name]) := does
    rw [same]
    exact kept.after h _

theorem Kept.playAll {R : Host → Host → Prop} (kept : Kept R) (acts : List Act) :
    ∀ {h last : Host}, h.playAll depth acts = some last → R h last := by
  induction acts with
  | nil =>
    rintro h last ⟨⟩
    exact kept.refl h
  | cons act rest ih =>
    intro h last played
    obtain ⟨next, first, later⟩ := playAll_cons played
    exact kept.trans (kept.play first) (ih later)

/-- Only a change of the table opens an access. -/
theorem opened_before_act {act : Act} (quiet : QuietHooks depth h)
    (played : h.play depth act = some h') (untabled : ∀ c, act ≠ .table c) {id : AccessId}
    (opened : h'.isAttached id = true) : h.isAttached id = true := by
  have does := does_of_play played
  cases act with
  | table c => exact absurd rfl (untabled c)
  | log t other =>
    obtain ⟨a, -, rfl⟩ := does
    exact opened
  | hook t other =>
    obtain ⟨a, x, -, -, ran⟩ := does
    obtain ⟨after, same, left, -⟩ := quiet.runHook t a
    rw [same] at ran
    cases ran
    rwa [isAttached_eq, flags_congr left.accesses, ← isAttached_eq] at opened
  | close other =>
    have same : h' = h.close other := does
    rw [same, isAttached_close] at opened
    split at opened
    · cases opened
    · exact opened
  | event name side =>
    have same : h' = h.after (.queueEvent name [.string side.name]) := does
    rw [same] at opened
    exact opened

end DeviceBridge.Host
