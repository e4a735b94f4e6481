import DeviceBridge.Proofs.Drives.Poise
import DeviceBridge.Proofs.Registry.Acts

/-
  Commands as a poised drive sees them. When a drive that is not connected is attached, its disk is
  mounted if any location is free, and otherwise refused (`Poised.attach`); when it is detached
  through its access, what it had mounted goes with the access (`Poised.detach`). A command turns
  the drive in good order, so it stays poised over all that the command does (`Poised.playAll`), and
  `offered` is the host on which its disk was last to be mounted.
-/

namespace DeviceBridge.Host

variable {d : DeviceId} {h h' : Host} {seat seat' : Option AccessId} {seen : Option Host}
  {depth : Nat} {last : Host}

/-- An act attaches a drive. -/
def attaches (h : Host) (d : DeviceId) : Act → Bool
  | .hook .attach id => h.deviceOf id = some d
  | _ => false

/-- The host on which the disk of a drive is last to be mounted while acts are played: the one on
which the drive is attached, and if it is not, the one that was before. -/
def offered (depth : Nat) (d : DeviceId) (seen : Option Host) (h : Host) :
    List Act → Option Host
  | [] => seen
  | act :: rest =>
    match h.play depth act with
    | none => seen
    | some next => next.offered depth d (if h.attaches d act then some h else seen) rest

theorem offered_cons {act : Act} {next : Host} (played : h.play depth act = some next)
    (seen : Option Host) (rest : List Act) : h.offered depth d seen (act :: rest) =
      next.offered depth d (if h.attaches d act then some h else seen) rest := by
  rw [offered, played]

namespace Poised

variable (poised : Poised d seat seen h)
include poised

/-- An act that is not done to an access of the drive. -/
theorem play {act : Act} (played : h.play depth act = some h')
    (hook : ∀ t access, act = .hook t access → h.deviceOf access ≠ some d)
    (close : ∀ access, act = .close access → h.deviceOf access ≠ some d) :
    Poised d seat seen h' := by
  have does := does_of_play played
  cases act with
  | table c =>
    have same : h' = h.retable c := does
    rw [same]
    cases c with
    | set side device => exact poised.stays (c := .exchange side device) trivial id nofun
    | start => exact poised.stays (c := .linkAll) trivial id nofun
    | stop => exact poised.stays (c := .unlinkAll) trivial id nofun
  | log t access =>
    obtain ⟨a, -, rfl⟩ := does
    exact poised.stays trivial id nofun
  | hook t access =>
    obtain ⟨a, x, found, -, ran⟩ := does
    have named := access?_id found
    subst named
    have known : h.deviceOf a.id = some a.device := congrArg (Option.map Access.device) found
    have differs : a.device ≠ d := fun same => hook t a.id rfl (known.trans (congrArg some same))
    have hooked := poised.foreignHook (t := t) known differs depth
    rwa [ran] at hooked
  | close access =>
    have same : h' = h.after (.close access) := does
    rw [same]
    refine poised.stays (fun r there connected => ?_) id nofun
    exact close access rfl (poised.wired d r access there connected)
  | event name side =>
    have same : h' = h.after (.queueEvent name [.string side.name]) := does
    rw [same]
    exact poised.stays trivial id nofun

/-- The drive was not connected, so nothing is overlooked; and an access that is attached is refused
only for want of a free location. -/
theorem attach (apart : seat = none) {access : AccessId} (known : h.deviceOf access = some d)
    (opened : h.isAttached access = true) :
    Poised d (some access) (some h) (h.after (.ask (.device d (.connect access)))) := by
  obtain ⟨past, tended, -⟩ := poised.tended
  obtain ⟨leases, records⟩ := poised.records
  refine ⟨⟨_, tended.connect access known, rfl, ?_, ?_⟩, ?_,
    poised.wired.after (d := d) records known, poised.hosted.same (SameDevices.kept.after h _),
    errands_after poised.errands nofun⟩
  · rintro other m ⟨own, carries⟩
    have seated := (poised.carried own carries).1
    rw [apart] at seated
    cases seated
  · rintro (shut | taken)
    · rw [opened] at shut
      cases shut
    · exact ⟨h, rfl, taken⟩
  · rintro other ⟨⟩
    exact SameOwners.kept.after h _ access d known

/-- What the drive had mounted is overlooked only until the access is closed. -/
theorem detach {access : AccessId} (seated : seat = some access) : Poised d none seen
    ((h.after (.ask (.device d .disconnect))).after (.close access)) := by
  obtain ⟨past, tended, -⟩ := poised.tended
  obtain ⟨leases, records⟩ := poised.records
  have left := tended.disconnect
  have wired := poised.wired.after (c := .ask (.device d .disconnect)) (d := d) records trivial
  obtain ⟨leases', records'⟩ := left.minds.leased
  have minding : Minding d (h.after (.ask (.device d .disconnect))) (.close access) := by
    intro r there connected
    rw [record?_disconnected there] at connected
    cases connected
  have hosted := poised.hosted.same (SameDevices.kept.after h (.ask (.device d .disconnect)))
  have errands : ∀ t ∈ (h.after (.ask (.device d .disconnect))).tasks.waiting,
      Errands d (h.after (.ask (.device d .disconnect))) t.completion t.body :=
    errands_after poised.errands nofun
  refine ⟨⟨_, left.stays wired minding id, rfl, ?_, False.elim⟩, nofun,
    wired.after records' minding, hosted.same (SameDevices.kept.after _ _),
    errands_after errands nofun⟩
  rintro other m ⟨⟨own, carries⟩, still⟩
  have mine := (poised.carried own carries).1
  rw [seated] at mine
  have apart := ((records'.carries_close access).mp still).2
  exact apart (Option.some.inj mine).symm

end Poised

/-! ## Commands -/

open Lifecycle (Passes Reseats)

/-- Who is attached when the hooks of a command have run was attached before. By induction on the
acts: the table has been changed before. -/
theorem opened_before_acts {mine : AccessId → Prop} {acts : List Act}
    (reseats : Reseats mine seat acts seat') {access : AccessId}
    (opened : last.isAttached access = true) : ∀ {h : Host}, QuietHooks depth h →
      h.playAll depth acts = some last → h.isAttached access = true := by
  induction reseats with
  | done =>
    rintro h - ⟨⟩
    exact opened
  | aside passes _ ih =>
    intro h quiet played
    obtain ⟨next, first, later⟩ := playAll_cons played
    refine opened_before_act quiet first ?_ (ih (quiet.same (SameDevices.kept.play first)) later)
    rintro c rfl
    exact passes
  | attach _ _ ih =>
    intro h quiet played
    obtain ⟨next, first, later⟩ := playAll_cons played
    exact opened_before_act quiet first nofun (ih (quiet.same (SameDevices.kept.play first)) later)
  | detach _ _ ih =>
    intro h quiet played
    obtain ⟨next, first, more⟩ := playAll_cons played
    obtain ⟨next', second, later⟩ := playAll_cons more
    have quiet' := quiet.same (SameDevices.kept.play first)
    exact opened_before_act quiet first nofun (opened_before_act quiet' second nofun
      (ih (quiet'.same (SameDevices.kept.play second)) later))

/-- The hook of the drive. -/
theorem Poised.ownHook (poised : Poised d seat seen h) {t : Transition} {access : AccessId}
    (played : h.play depth (.hook t access) = some h') (owners : SameOwners h' last)
    (own : last.deviceOf access = some d) : h.deviceOf access = some d ∧
      h' = h.after (.ask (.device d (askedIn t access))) := by
  obtain ⟨a, x, found, behind, ran⟩ := does_of_play played
  have named := access?_id found
  subst named
  have known : h.deviceOf a.id = some a.device := congrArg (Option.map Access.device) found
  have later := owners _ _ (SameOwners.kept.play played _ _ known)
  have mine : a.device = d := Option.some.inj (later.symm.trans own)
  rw [mine] at behind known
  rw [runHook_own (run_keeps d depth) mine behind (poised.hosted.hook behind t a.id)] at ran
  cases ran
  exact ⟨known, rfl⟩

/-- By induction on the acts. -/
theorem Poised.playAll {acts : List Act}
    (reseats : Reseats (fun access => last.deviceOf access = some d) seat acts seat') :
    ∀ {h : Host} {seen : Option Host}, Poised d seat seen h → h.playAll depth acts = some last →
      (∀ access, .hook .attach access ∈ acts → last.isAttached access = true) →
        Poised d seat' (h.offered depth d seen acts) last := by
  induction reseats with
  | done =>
    rintro h seen poised ⟨⟩ -
    exact poised
  | @aside seat seat' act rest passes _ ih =>
    intro h seen poised played opened
    obtain ⟨next, first, later⟩ := playAll_cons played
    have owners : SameOwners h last := SameOwners.kept.playAll _ played
    have others : h.attaches d act = false := by
      refine Bool.eq_false_iff.mpr fun attaches => ?_
      unfold Host.attaches at attaches
      split at attaches
      · exact passes (owners _ _ (of_decide_eq_true attaches))
      · cases attaches
    rw [offered_cons first, others]
    refine ih (poised.play first ?_ ?_) later fun access here => opened access (.tail _ here)
    · rintro t access rfl known
      exact passes (owners _ _ known)
    · rintro access rfl known
      exact passes (owners _ _ known)
  | @attach seat' access rest own reseats ih =>
    intro h seen poised played opened
    obtain ⟨next, first, later⟩ := playAll_cons played
    obtain ⟨known, same⟩ := poised.ownHook first (SameOwners.kept.playAll _ later) own
    have attached := opened_before_acts (.attach own reseats) (opened access (.head _))
      (poised.hosted.quiet depth) played
    have attaches : h.attaches d (.hook .attach access) = true := decide_eq_true known
    rw [offered_cons first, attaches]
    subst same
    exact ih (poised.attach rfl known attached) later
      fun access here => opened access (.tail _ here)
  | @detach seat' access rest own _ ih =>
    intro h seen poised played opened
    obtain ⟨next, first, more⟩ := playAll_cons played
    obtain ⟨next', second, later⟩ := playAll_cons more
    obtain ⟨known, same⟩ := poised.ownHook first (SameOwners.kept.playAll _ more) own
    have closed : next' = next.after (.close access) := does_of_play second
    rw [offered_cons first, offered_cons second]
    subst closed same
    exact ih (poised.detach rfl) later fun access here => opened access (.tail _ (.tail _ here))

end DeviceBridge.Host
