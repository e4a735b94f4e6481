import DeviceBridge.Host.Run
import DeviceBridge.Proofs.Host.Services

/-
  What running code keeps. A relation between hosts that holds across the single changes code can
  make (`Kept`) holds across every run (`Kept.run`): over code by induction on it, and over nested
  runs by induction on the bound that they have. The lemmas on the way follow the steps of the
  registry one by one.
-/

namespace DeviceBridge.Host

/-- A relation between a host and what becomes of it, kept by each single change. -/
structure Kept (R : Host → Host → Prop) : Prop where
  trans {a b c : Host} : R a b → R b c → R a c
  served {a b : Host} : Served a b → R a b
  enqueue (h : Host) (completion : Completion) (body : Code) : R h (h.enqueue completion body).2
  exchange (h : Host) (side : Side) (device : Option DeviceId) : R h (h.exchange side device).2.2
  linkAll (h : Host) : R h h.linkAll.2
  unlinkAll (h : Host) : R h h.unlinkAll.2
  close (h : Host) (id : AccessId) : R h (h.close id)

namespace Kept

variable {R : Host → Host → Prop} (kept : Kept R)
include kept

theorem refl (h : Host) : R h h := kept.served (Served.refl h)

theorem forEach {step : Host → Access → Except Escape Unit × Host}
    (each : ∀ h a, R h (step h a).2) (ids : List AccessId) :
    ∀ h : Host, R h (h.forEach step ids).2 := by
  induction ids with
  | nil => exact kept.refl
  | cons id rest ih =>
    intro h
    simp only [Host.forEach]
    split
    · exact ih h
    · next a _ =>
      have stepped := each h a
      split
      · next found =>
        rw [found] at stepped
        exact kept.trans stepped (ih _)
      · exact stepped

section Runner

variable {run : Runner} (keeps : ∀ p h, R h (run p h).2)
include keeps

/-! ## Hooks -/

theorem afterHook (t : Transition) (a : Access) (p : Program) (h : Host) :
    R h (Host.afterHook t a (run p h)).2 := by
  have ran := keeps p h
  simp only [Host.afterHook]
  split <;> rename_i found <;> rw [found] at ran
  · exact kept.trans ran (kept.served (Served.write _ _ _))
  · exact ran
  · exact ran

theorem runHook (t : Transition) (h : Host) (a : Access) : R h (h.runHook run t a).2 := by
  simp only [Host.runHook]
  split
  · exact kept.refl h
  · exact kept.afterHook keeps t a _ h

theorem pass (t : Transition) (h : Host) (a : Access) : R h (h.pass run t a).2 := by
  have ran := kept.runHook keeps t h a
  simp only [Host.pass]
  split
  · next found =>
    rw [found] at ran
    cases t with
    | attach => exact ran
    | detach => exact kept.trans ran (kept.close _ a.id)
  · exact ran

theorem announce (t : Transition) (h : Host) (a : Access) : R h (h.announce run t a).2 := by
  have wrote := kept.served (Served.write h .debug (t.announcement a))
  have passed := kept.trans wrote (kept.pass keeps t _ a)
  simp only [Host.announce]
  split
  · next found =>
    rw [found] at passed
    exact kept.trans passed (kept.served (Served.queueEvent _ _ _))
  · exact passed

/-! ## The registry -/

theorem setDeviceAt (h : Host) (side : Side) (device : Option DeviceId) :
    R h (h.setDeviceAt run side device).2 := by
  have detached := kept.trans (kept.exchange h side device)
    (kept.forEach (kept.announce keeps .detach) (h.exchange side device).1 _)
  simp only [Host.setDeviceAt]
  split
  · next found =>
    rw [found] at detached
    exact kept.trans detached (kept.forEach (kept.announce keeps .attach) _ _)
  · exact detached

theorem perform (command : Command) (h : Host) : R h (h.perform run command).2 := by
  cases command with
  | set side device => exact kept.setDeviceAt keeps h side device
  | start => exact kept.trans (kept.linkAll h) (kept.forEach (kept.pass keeps .attach) _ _)
  | stop => exact kept.trans (kept.unlinkAll h) (kept.forEach (kept.pass keeps .detach) _ _)

theorem callDevice (args : Arguments) (h : Host) : R h (h.callDevice run args).2 := by
  simp only [Host.callDevice]
  split
  · exact kept.refl h
  · simp only [Host.callMethod]
    split
    · exact kept.refl h
    · exact keeps _ h

end Runner

/-! ## Code -/

/-- By induction on the code. -/
theorem exec {nested : Nested} (call : ∀ args h, R h (nested.call args h).2)
    (command : ∀ c h, R h (nested.command c h).2) (body : Code) :
    ∀ h : Host, R h (body.exec nested h).2 := by
  induction body with
  | done | fail | suspend | await => exact kept.refl
  | ask request next ih =>
    intro h
    exact kept.trans (kept.served (answer_served h request)) (ih _ _)
  | command c next ih =>
    intro h
    have performed := command c h
    simp only [Code.exec]
    split <;> rename_i found <;> rw [found] at performed
    · exact kept.trans performed (ih _)
    · exact performed
  | enqueue completion body next _ _ ih =>
    intro h
    exact kept.trans (kept.enqueue h completion body) (ih _ _)
  | call args => exact call args
  | attempt body next ihBody ihNext =>
    intro h
    simp only [Code.exec]
    split
    · exact kept.trans (ihBody h) (ihNext _ _)
    · exact ihBody h
  | adjustWait body _ ih | adjustError body _ ih => exact ih

/-- By induction on the bound on nested runs. -/
theorem run (depth : Nat) : ∀ (p : Program) (h : Host), R h (p.run depth h).2 := by
  have program {nested : Nested} (call : ∀ args h, R h (nested.call args h).2)
      (command : ∀ c h, R h (nested.command c h).2) (p : Program) (h : Host) :
      R h (p.exec nested h).2 := by
    cases p with
    | code body => exact kept.exec call command body h
    | await id => exact kept.refl h
  induction depth with
  | zero => exact program (fun _ => kept.refl) (fun _ => kept.refl)
  | succ n ih => exact program (kept.callDevice ih) (kept.perform ih)

end Kept

end DeviceBridge.Host
