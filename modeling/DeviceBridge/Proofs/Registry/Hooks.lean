import DeviceBridge.Proofs.Host.Links

/-
  Hooks that leave the registry alone. A hook may fail or panic, may suspend, and may use every
  service, and is still quiet as long as it does not itself change what sits in the slots or whether
  the registry runs (`QuietHooks`). `modest_quiet`: code without commands and without calls through
  the registry is.
-/

namespace DeviceBridge

namespace Host

/-- The registry is as it was, but for what accesses have mounted. -/
structure Undisturbed (h h' : Host) : Prop where
  running : h'.running = h.running
  slots : h'.slots = h.slots
  accesses : h'.accesses.map Access.withoutMounts = h.accesses.map Access.withoutMounts

namespace Undisturbed

theorem refl (h : Host) : Undisturbed h h := ⟨rfl, rfl, rfl⟩

theorem trans {a b c : Host} (ab : Undisturbed a b) (bc : Undisturbed b c) : Undisturbed a c :=
  ⟨bc.running.trans ab.running, bc.slots.trans ab.slots, bc.accesses.trans ab.accesses⟩

theorem ofServed {h h' : Host} (served : Served h h') : Undisturbed h h' :=
  ⟨served.running, served.slots, served.accesses⟩

theorem enqueue (h : Host) (completion : Completion) (body : Code) :
    Undisturbed h (h.enqueue completion body).2 := ⟨rfl, rfl, rfl⟩

end Undisturbed

/-! ## Devices -/

/-- The devices are the same ones, in whatever states. -/
def SameDevices (h h' : Host) : Prop :=
  h'.devices.map Device.withoutState = h.devices.map Device.withoutState

namespace SameDevices

theorem refl (h : Host) : SameDevices h h := rfl

theorem trans {a b c : Host} (ab : SameDevices a b) (bc : SameDevices b c) : SameDevices a c :=
  Eq.trans bc ab

/-- No run makes devices or changes what they do. -/
theorem kept : Kept SameDevices := by
  refine .ofRearranged trans Served.devices (fun _ _ _ => rfl) fun rearranged => ?_
  unfold SameDevices
  rw [rearranged.devices]

variable {h h' : Host} (same : SameDevices h h')
include same

theorem device? (id : DeviceId) : (h'.device? id).map Device.withoutState =
    (h.device? id).map Device.withoutState := by
  unfold Host.device?
  rw [← List.getElem?_map, ← List.getElem?_map, same]

theorem found {id : DeviceId} {x : Device} (found : h'.device? id = some x) :
    ∃ x₀, h.device? id = some x₀ ∧ x₀.withoutState = x.withoutState := by
  have kept := (same.device? id).symm
  rw [found, Option.map_some] at kept
  exact Option.map_eq_some_iff.mp kept

theorem device {id : DeviceId} (known : (h.device? id).isSome) : (h'.device? id).isSome := by
  have there := congrArg Option.isSome (same.device? id)
  rwa [Option.isSome_map, Option.isSome_map, known] at there

theorem hook {d : Device} (inside : d ∈ h'.devices) : ∃ d₀ ∈ h.devices, ∀ t : Transition,
    t.hook d = t.hook d₀ := by
  have moved : d.withoutState ∈ h'.devices.map Device.withoutState := List.mem_map_of_mem inside
  rw [same] at moved
  obtain ⟨d₀, there, alike⟩ := List.mem_map.mp moved
  refine ⟨d₀, there, fun t => ?_⟩
  cases t with
  | attach => exact (congrArg Device.attach alike).symm
  | detach => exact (congrArg Device.detach alike).symm

end SameDevices

/-! ## Quiet hooks -/

/-- Whatever the devices are in the middle of, their hooks leave the registry alone, and do not nest
so deep that they are given up. -/
def QuietHooks (depth : Nat) (h : Host) : Prop :=
  ∀ d ∈ h.devices, ∀ (t : Transition) (device : DeviceId) (access : AccessId) (now : Host),
    SameDevices h now → ((t.hook d device access).run depth now).1 ≠ .failed (.escaped .exhausted) ∧
      Undisturbed now ((t.hook d device access).run depth now).2

theorem QuietHooks.same {depth : Nat} {h h' : Host} (quiet : QuietHooks depth h)
    (same : SameDevices h h') : QuietHooks depth h' := by
  intro d inside t device access now later
  obtain ⟨d₀, there, hooks⟩ := same.hook inside
  rw [hooks t]
  exact quiet d₀ there t device access now (same.trans later)

/-- A quiet hook does no harm, and a panic in it goes no further. -/
theorem QuietHooks.runHook {depth : Nat} {h : Host} (quiet : QuietHooks depth h) (t : Transition)
    (a : Access) : ∃ h', h.runHook (Program.run depth) t a = (.ok (), h') ∧
      Undisturbed h h' ∧ SameDevices h h' := by
  have same := SameDevices.kept.runHook (SameDevices.kept.run depth) t h a
  cases found : h.device? a.device with
  | none =>
    refine ⟨h, ?_, .refl h, .refl h⟩
    unfold Host.runHook
    rw [found]
  | some d =>
    have inside : d ∈ h.devices := List.mem_of_getElem? found
    obtain ⟨came, left⟩ := quiet d inside t a.device a.id h (.refl h)
    unfold Code.run at came left
    unfold Host.runHook at same ⊢
    rw [found] at same ⊢
    simp only [Host.afterHook] at same ⊢
    generalize Program.run depth _ h = ran at came left same ⊢
    obtain ⟨outcome, after⟩ := ran
    split at same
    · next payload _ ended =>
      cases ended
      exact ⟨_, rfl, left.trans (.ofServed (Served.write _ _ _)), same⟩
    · next _ ended =>
      cases ended
      exact (came rfl).elim
    · next ended =>
      cases ended
      exact ⟨after, rfl, left, same⟩

end Host

/-! ## Modest code -/

/-- Code that neither changes the registry nor calls through it. -/
def Code.Modest : Code → Prop
  | .done _ => True
  | .fail failure => failure ≠ .escaped .exhausted
  | .suspend .. => True
  | .await _ => True
  | .ask _ next => ∀ answer, (next answer).Modest
  | .command .. => False
  | .enqueue _ _ next => ∀ answer, (next answer).Modest
  | .call _ => False
  | .attempt body next => body.Modest ∧ ∀ seen, (next seen).Modest
  | .adjustWait body _ => body.Modest
  | .adjustError body _ => body.Modest

theorem addLevels_ne_exhausted (a b : UInt32) : addLevels a b ≠ .error .exhausted := by
  unfold addLevels
  split
  · exact nofun
  · exact nofun

theorem Outcome.adjustWait_ne_exhausted {outcome : Outcome} (amount : UInt32)
    (came : outcome ≠ .failed (.escaped .exhausted)) :
    outcome.adjustWait amount ≠ .failed (.escaped .exhausted) := by
  unfold Outcome.adjustWait
  split
  · next adjust _ =>
    split
    · exact nofun
    · next how found =>
      rintro ⟨⟩
      exact addLevels_ne_exhausted adjust amount found
  · exact came

theorem Outcome.adjustError_ne_exhausted {outcome : Outcome} (amount : UInt32)
    (came : outcome ≠ .failed (.escaped .exhausted)) :
    outcome.adjustError amount ≠ .failed (.escaped .exhausted) := by
  unfold Outcome.adjustError
  split
  · next e =>
    split
    · exact nofun
    · next how found =>
      rintro ⟨⟩
      unfold MethodError.adjusted at found
      split at found
      · cases found
      · split at found
        · cases found
        · next lost =>
          cases found
          exact addLevels_ne_exhausted e.level amount lost
  · exact came

/-- By induction on the code: nothing that it does can reach the registry. -/
theorem Code.Modest.exec {nested : Nested} (body : Code) : ∀ (h : Host), body.Modest →
    (body.exec nested h).1 ≠ .failed (.escaped .exhausted) ∧
      Host.Undisturbed h (body.exec nested h).2 := by
  induction body with
  | done | suspend | await =>
    intro h _
    exact ⟨Outcome.noConfusion, .refl h⟩
  | fail failure =>
    intro h modest
    refine ⟨?_, .refl h⟩
    rintro ⟨⟩
    exact modest rfl
  | ask request next ih =>
    intro h modest
    obtain ⟨came, left⟩ := ih _ (h.answer request).2 (modest _)
    exact ⟨came, .trans (.ofServed (Host.answer_served h request)) left⟩
  | command | call =>
    intro _ modest
    exact modest.elim
  | enqueue completion body next _ _ ih =>
    intro h modest
    obtain ⟨came, left⟩ := ih _ (h.enqueue completion body).2 (modest _)
    exact ⟨came, .trans (.enqueue h completion body) left⟩
  | attempt body next ihBody ihNext =>
    rintro h ⟨modest, later⟩
    obtain ⟨came, left⟩ := ihBody h modest
    simp only [Code.exec]
    split
    · next seen _ =>
      obtain ⟨came, right⟩ := ihNext seen (body.exec nested h).2 (later seen)
      exact ⟨came, left.trans right⟩
    · next how found =>
      refine ⟨?_, left⟩
      rintro ⟨⟩
      revert found came
      cases (body.exec nested h).1 with
      | failed failure => cases failure <;> simp [Outcome.toAttempt]
      | _ => simp [Outcome.toAttempt]
  | adjustWait body amount ih =>
    intro h modest
    obtain ⟨came, left⟩ := ih h modest
    exact ⟨Outcome.adjustWait_ne_exhausted amount came, left⟩
  | adjustError body amount ih =>
    intro h modest
    obtain ⟨came, left⟩ := ih h modest
    exact ⟨Outcome.adjustError_ne_exhausted amount came, left⟩

/-- Hooks of modest code are quiet, however deep they may nest. -/
theorem Host.modest_quiet {h : Host} (depth : Nat) (modest : ∀ d ∈ h.devices,
    ∀ (t : Transition) (device : DeviceId) (access : AccessId), (t.hook d device access).Modest) :
    QuietHooks depth h := by
  intro d inside t device access now _
  have hook := modest d inside t device access
  unfold Code.run Program.run
  cases depth with
  | zero => exact hook.exec _ now
  | succ n => exact hook.exec _ now

end DeviceBridge
