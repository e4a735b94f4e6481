import DeviceBridge.Proofs.Registry.Detaches
import DeviceBridge.Proofs.Registry.Frame

/-
  The turns of an access: it is linked, unlinked and closed over and over. Two flags are all that is
  kept of them, whether it is linked and whether it is attached. `flags_replay`: after any changes
  the flags are what the turns make of them, whoever else is linked or closed meanwhile.
  `Settles.count_close`: as many turns close an access as unlink it, but for what was owed before.
-/

namespace DeviceBridge.Host

/-! ## Flags -/

/-- Whether an access is linked, and whether it is attached. -/
def flags (h : Host) (id : AccessId) : Bool × Bool :=
  match h.access? id with
  | some a => (a.linked, a.attached)
  | none => (false, false)

theorem isAttached_eq (h : Host) (id : AccessId) : h.isAttached id = (h.flags id).2 := by
  unfold isAttached flags
  cases h.access? id <;> rfl

theorem flags_of_access? {h : Host} {id : AccessId} {a : Access} (found : h.access? id = some a) :
    h.flags id = (a.linked, a.attached) := by
  unfold flags
  rw [found]

/-- The flags do not depend on what is mounted. -/
theorem flags_congr {h h' : Host}
    (accesses : h'.accesses.map Access.withoutMounts = h.accesses.map Access.withoutMounts)
    (id : AccessId) : h'.flags id = h.flags id := by
  have same : (h'.access? id).map Access.withoutMounts =
      (h.access? id).map Access.withoutMounts := by
    rw [access?_withoutMounts, access?_withoutMounts, accesses]
  have flags_eq (h : Host) : h.flags id = match (h.access? id).map Access.withoutMounts with
      | some a => (a.linked, a.attached)
      | none => (false, false) := by
    unfold flags
    cases h.access? id <;> rfl
  rw [flags_eq, flags_eq, same]

theorem flags_served {h h' : Host} (served : Served h h') (id : AccessId) :
    h'.flags id = h.flags id := flags_congr served.accesses id

theorem access?_modifyAccess_self (h : Host) (id : AccessId) (f : Access → Access)
    (named : ∀ a, (f a).id = a.id) : (h.modifyAccess id f).access? id = (h.access? id).map f := by
  unfold modifyAccess access?
  simp only
  induction h.accesses with
  | nil => rfl
  | cons a rest ih =>
    rw [List.map_cons, List.find?_cons, List.find?_cons, ih]
    by_cases mine : a.id = id
    · simp [mine, named]
    · simp [mine]

/-! ## Turns -/

inductive Turn where
  | link
  | unlink
  | close
deriving DecidableEq

namespace Turn

/-- What a turn makes of the flags. -/
def on : Turn → Bool × Bool → Bool × Bool
  | link, _ => (true, true)
  | unlink, (_, attached) => (false, attached)
  | close, (linked, _) => (linked, false)

def follow : List Turn → Bool × Bool → Bool × Bool
  | [], f => f
  | t :: rest, f => follow rest (t.on f)

theorem follow_append (turns more : List Turn) :
    ∀ f, follow (turns ++ more) f = follow more (follow turns f) := by
  induction turns with
  | nil => exact fun _ => rfl
  | cons t rest ih => exact fun f => ih (t.on f)

theorem on_on (t : Turn) (f : Bool × Bool) : t.on (t.on f) = t.on f := by
  cases t <;> rfl

theorem follow_replicate (t : Turn) (n : Nat) : ∀ f,
    follow (List.replicate n t) f = if n = 0 then f else t.on f := by
  induction n with
  | zero => exact fun _ => rfl
  | succ n ih =>
    intro f
    rw [List.replicate_succ, if_neg (Nat.succ_ne_zero n)]
    show follow (List.replicate n t) (t.on f) = _
    rw [ih, on_on, ite_self]

theorem follow_count (t : Turn) (id : AccessId) (ids : List AccessId) (f : Bool × Bool) :
    follow (List.replicate (ids.count id) t) f = if id ∈ ids then t.on f else f := by
  rw [follow_replicate]
  by_cases here : id ∈ ids
  · have some := List.count_pos_iff.mpr here
    rw [if_pos here, if_neg (Nat.ne_of_gt some)]
  · rw [if_neg here, if_pos (List.count_eq_zero.mpr here)]

end Turn

/-! ## Claims -/

/-- A claim turns the access for which it succeeds, and no other. -/
def Turns (t : Turn) (transition : Host → AccessId → Bool × Host) : Prop :=
  ∀ h id other, (transition h id).2.flags other =
    if (transition h id).1 = true ∧ other = id then t.on (h.flags other) else h.flags other

theorem flags_modifyAccess {h : Host} {id : AccessId} {a : Access} (found : h.access? id = some a)
    (f : Access → Access) (named : ∀ a, (f a).id = a.id) (other : AccessId) :
    (h.modifyAccess id f).flags other =
      if other = id then ((f a).linked, (f a).attached) else h.flags other := by
  by_cases mine : other = id
  · rw [if_pos mine, mine]
    apply flags_of_access?
    rw [access?_modifyAccess_self h id f named, found, Option.map_some]
  · rw [if_neg mine]
    unfold flags
    rw [access?_modifyAccess h f named mine]

theorem link_turns : Turns .link link := by
  intro h id other
  unfold link
  cases found : h.access? id with
  | none => simp
  | some a =>
    cases linked : a.linked with
    | true => simp [linked]
    | false =>
      have turned := flags_modifyAccess found
        (fun a => { a with linked := true, attached := true }) (fun _ => rfl) other
      simp only [linked, Bool.false_eq_true, if_false, true_and]
      exact turned

theorem unlink_turns : Turns .unlink unlink := by
  intro h id other
  unfold unlink
  cases found : h.access? id with
  | none => simp
  | some a =>
    cases linked : a.linked with
    | false => simp [linked]
    | true =>
      have turned := flags_modifyAccess found
        (fun a => { a with linked := false }) (fun _ => rfl) other
      simp only [linked, if_true, true_and]
      rw [turned]
      by_cases mine : other = id
      · rw [if_pos mine, if_pos mine, mine, flags_of_access? found]
        rfl
      · rw [if_neg mine, if_neg mine]

/-- By induction on the accesses; to claim one twice would change nothing. -/
theorem Turns.claim {t : Turn} {transition : Host → AccessId → Bool × Host}
    (turns : Turns t transition) (ids : List AccessId) : ∀ (h : Host) (other : AccessId),
      (h.claim transition ids).2.flags other =
        if other ∈ (h.claim transition ids).1 then t.on (h.flags other) else h.flags other := by
  induction ids with
  | nil => exact fun h other => (if_neg List.not_mem_nil).symm
  | cons id rest ih =>
    intro h other
    have later := ih (transition h id).2 other
    have first := turns h id other
    unfold Host.claim
    simp only
    rw [later, first]
    by_cases claimed : (transition h id).1 = true
    · by_cases mine : other = id
      · simp [claimed, mine, Turn.on_on]
      · simp [claimed, mine]
    · simp [claimed]

/-! ## Changes -/

/-- The accesses whose attach a change claims. -/
def coming (h : Host) : Change → List AccessId
  | .exchange side device => (h.exchange side device).2.1
  | .linkAll => h.linkAll.1
  | _ => []

/-- Whether a change closes an access. -/
def closing (id : AccessId) : Change → List Turn
  | .close other => if other = id then [.close] else []
  | _ => []

theorem closing_of_open {c : Change} (opens : ∀ id, c ≠ .close id) (id : AccessId) :
    closing id c = [] := by
  cases c with
  | close other => exact absurd rfl (opens other)
  | _ => rfl

/-- The turns that an access takes in a change. -/
def turnsAt (h : Host) (id : AccessId) (c : Change) : List Turn :=
  List.replicate ((h.leaving c).count id) .unlink ++
    List.replicate ((h.coming c).count id) .link ++ closing id c

def turns (h : Host) (id : AccessId) : List Change → List Turn
  | [] => []
  | c :: rest => h.turnsAt id c ++ (h.after c).turns id rest

theorem flags_install (h : Host) (side : Side) (device : DeviceId) (id : AccessId) :
    (h.install side device).2.flags id = h.flags id := by
  unfold install
  cases h.device? device with
  | none => rfl
  | some d =>
    unfold flags access? writeAll
    simp only
    rw [List.find?_append]
    cases h.accesses.find? fun a => a.id = id with
    | some a => rfl
    | none =>
      rw [Option.none_or, List.find?_singleton]
      split
      · next found =>
        split at found
        · cases found
          rfl
        · cases found
      · rfl

theorem flags_replace (h : Host) (side : Side) (new : Option AccessId) (id : AccessId) :
    (h.replace side new).2.2.flags id =
      Turn.follow (List.replicate ((h.replace side new).1.count id) .unlink ++
        List.replicate ((h.replace side new).2.1.count id) .link) (h.flags id) := by
  have detached := unlink_turns.claim (h.slots side).toList h id
  have attached := link_turns.claim new.toList
    ((h.claim unlink (h.slots side).toList).2.setSlot side new) id
  rw [Turn.follow_append, Turn.follow_count, Turn.follow_count]
  unfold replace
  simp only
  rw [← detached]
  split
  · exact attached
  · rfl

theorem flags_after (h : Host) (id : AccessId) (c : Change) :
    (h.after c).flags id = Turn.follow (h.turnsAt id c) (h.flags id) := by
  unfold turnsAt
  cases c with
  | ask request => exact flags_served (answer_served h request) id
  | enqueue | write | queueEvent => rfl
  | exchange side device =>
    show (h.exchange side device).2.2.flags id = Turn.follow (_ ++ []) (h.flags id)
    rw [List.append_nil]
    cases device with
    | none => exact flags_replace h side none id
    | some device =>
      rw [← flags_install h side device id]
      exact flags_replace (h.install side device).2 side (h.install side device).1 id
  | linkAll =>
    have claimed := link_turns.claim h.occupants { h with running := true } id
    rw [Turn.follow_append, Turn.follow_append, Turn.follow_count]
    exact claimed
  | unlinkAll =>
    have claimed := unlink_turns.claim h.occupants { h with running := false } id
    show h.unlinkAll.2.flags id =
      Turn.follow (List.replicate (h.unlinkAll.1.count id) .unlink ++ [] ++ []) (h.flags id)
    rw [List.append_nil, List.append_nil, Turn.follow_count]
    exact claimed
  | close other =>
    have unmounted := flags_served (unmountAll_served h other)
    show ((h.unmountAll other).modifyAccess other _).flags id =
      Turn.follow (if other = id then [.close] else []) (h.flags id)
    rw [← unmounted id]
    by_cases mine : other = id
    · subst mine
      have closed := access?_modifyAccess_self (h.unmountAll other) other
        (fun a => { a with attached := false }) fun _ => rfl
      rw [if_pos rfl]
      unfold flags
      rw [closed]
      cases (h.unmountAll other).access? other <;> rfl
    · have same := access?_modifyAccess (h.unmountAll other)
        (fun a => { a with attached := false }) (fun _ => rfl) (Ne.symm mine)
      rw [if_neg mine]
      unfold flags
      rw [same]
      rfl

/-- By induction on the changes. -/
theorem flags_replay (changes : List Change) (id : AccessId) :
    ∀ h : Host, (h.replay changes).flags id = Turn.follow (h.turns id changes) (h.flags id) := by
  induction changes with
  | nil => exact fun _ => rfl
  | cons c rest ih =>
    intro h
    show ((h.after c).replay rest).flags id = Turn.follow (h.turnsAt id c ++ _) (h.flags id)
    rw [ih, flags_after, Turn.follow_append]

/-! ## Balance -/

theorem count_turnsAt {c : Change} (opens : ∀ id, c ≠ .close id) (h : Host) (id : AccessId) :
    (h.turnsAt id c).count .close = 0 ∧
      (h.turnsAt id c).count .unlink = (h.leaving c).count id := by
  rw [turnsAt, closing_of_open opens, List.append_nil, List.count_append, List.count_append]
  simp [List.count_replicate]

/-- By induction on the stack discipline. -/
theorem Settles.count_close {owed : List AccessId} {h : Host} {changes : List Change}
    (settles : Settles owed h changes) (id : AccessId) :
    (h.turns id changes).count .close = (h.turns id changes).count .unlink + owed.count id := by
  induction settles with
  | done => rfl
  | @change owed h c rest opens _ ih =>
    obtain ⟨closed, unlinked⟩ := count_turnsAt opens h id
    show (h.turnsAt id c ++ (h.after c).turns id rest).count .close =
      (h.turnsAt id c ++ (h.after c).turns id rest).count .unlink + _
    rw [List.count_append, List.count_append, closed, unlinked, ih, List.count_append]
    omega
  | @close other owed h rest _ ih =>
    show (closing id (.close other) ++ (h.close other).turns id rest).count .close =
      (closing id (.close other) ++ (h.close other).turns id rest).count .unlink + _
    rw [List.count_append, List.count_append, ih, List.count_cons]
    unfold closing
    by_cases mine : other = id
    · simp [mine]
      omega
    · simp [mine]

end DeviceBridge.Host
