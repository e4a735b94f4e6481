import DeviceBridge.Proofs.Machine.Runs
import DeviceBridge.Proofs.Script.Alone

/-
  Events reach each thread in order, whatever other threads there are. Machines deliver one event to
  all threads before the next; if the threads keep apart, this is the same as to let each of them
  hear all events alone (`pump_threadwise`).
-/

namespace DeviceBridge.Machine

open Thread (hear react wakesAt)

variable {alike : Nat → Host → Host → Prop}

/-- How many of the events wake a thread. -/
def woken (depth : Nat) (all : List (Thread × Host)) (events : List (List Value)) : Nat :=
  (List.range events.length).countP fun i => all.any fun s => wakesAt depth s events i

theorem woken_cons (depth : Nat) (all : List (Thread × Host)) (event : List Value)
    (rest : List (List Value)) : woken depth all (event :: rest) =
      (if all.any fun s => s.1.state.accepts event then 1 else 0) +
        woken depth (all.map fun s => react depth s event) rest := by
  unfold woken
  rw [List.length_cons, Thread.count_range_succ]
  simp only [List.any_map]
  rfl

theorem pumpUpTo_empty {m : Machine} (empty : m.host.events = []) (delivered more : Nat) :
    m.pumpUpTo delivered more = (.ok delivered, m) := by
  cases more with
  | zero =>
    unfold pumpUpTo
    rw [empty]
    rfl
  | succ more =>
    unfold pumpUpTo Host.popEvent
    rw [empty]

/-- By induction on the events that are queued. -/
theorem pumpUpTo_apart (views : ∀ i, View (alike i)) (events : List (List Value)) :
    ∀ {all : List (Thread × Host)} {m : Machine} {delivered more : Nat},
      m.host.events = events → m.threads = all.map Prod.fst → events.length ≤ more →
      (∀ i s, all[i]? = some s → alike i s.2 m.host) →
      (∀ i s, all[i]? = some s → Thread.KeepsApart m.limits.depth (alike i)
        (fun h k => ∀ j, j ≠ i → alike j h k) s events) →
      ∃ k, m.pumpUpTo delivered more = (.ok (delivered + woken m.limits.depth all events),
          { m with
            threads := (all.map fun s => hear m.limits.depth s events).map Prod.fst, host := k }) ∧
        k.events = [] := by
  induction events with
  | nil =>
    intro all m delivered more queued threads _ _ _
    have still : (all.map fun s => hear m.limits.depth s []).map Prod.fst = m.threads := by
      rw [threads, List.map_map]
      rfl
    refine ⟨m.host, ?_, queued⟩
    rw [still]
    exact pumpUpTo_empty queued delivered more
  | cons event rest ih =>
    intro all m delivered more queued threads enough looks apart
    obtain ⟨more, rfl⟩ := Nat.exists_eq_add_of_le' (Nat.lt_of_lt_of_le (Nat.succ_pos _) enough)
    -- no thread sees the event queue, so taking one out changes nothing for any of them
    let k₀ : Host := { m.host with events := rest }
    have popped : m.host.popEvent = some (event, k₀) := by
      unfold Host.popEvent
      rw [queued]
    have looks₀ : ∀ i s, all[i]? = some s → alike (0 + i) s.2 k₀ := by
      intro i s found
      rw [Nat.zero_add]
      exact (views i).trans (looks i s found) ((views i).queue m.host rest)
    have minds : ∀ i s, all[i]? = some s → Thread.Minds m.limits.depth (alike (0 + i))
        (fun h k => ∀ j, j ≠ 0 + i → alike j h k) s event := by
      intro i s found
      rw [Nat.zero_add]
      exact (apart i s found).1
    obtain ⟨k₁, given, left, looks₁, -⟩ := Thread.deliver_apart views event all looks₀ minds
    let all₁ := all.map fun s => react m.limits.depth s event
    have later {i : Nat} {s₁ : Thread × Host} (found : all₁[i]? = some s₁) :
        ∃ s, all[i]? = some s ∧ react m.limits.depth s event = s₁ := by
      rw [List.getElem?_map] at found
      exact Option.map_eq_some_iff.mp found
    have looks₁ : ∀ i s, all₁[i]? = some s → alike i s.2 k₁ := by
      intro i s found
      obtain ⟨before, there, rfl⟩ := later found
      have here := looks₁ i before there
      rwa [Nat.zero_add] at here
    have apart₁ : ∀ i s, all₁[i]? = some s → Thread.KeepsApart m.limits.depth (alike i)
        (fun h k => ∀ j, j ≠ i → alike j h k) s rest := by
      intro i s found
      obtain ⟨before, there, rfl⟩ := later found
      exact (apart i before there).2
    unfold pumpUpTo
    rw [popped, threads]
    simp only
    rw [given]
    simp only
    have short : rest.length ≤ more := by
      rw [List.length_cons] at enough
      exact Nat.le_of_succ_le_succ enough
    obtain ⟨k, pumped, drained⟩ := @ih all₁ { m with threads := all₁.map Prod.fst, host := k₁ }
      (if all.any fun s => s.1.state.accepts event then delivered + 1 else delivered) more
      left rfl short looks₁ apart₁
    have counted : (if all.any fun s => s.1.state.accepts event then delivered + 1 else delivered) +
        woken m.limits.depth all₁ rest = delivered + woken m.limits.depth all (event :: rest) := by
      have parts : woken m.limits.depth all (event :: rest) =
          (if all.any fun s => s.1.state.accepts event then 1 else 0) +
            woken m.limits.depth all₁ rest := woken_cons m.limits.depth all event rest
      rw [parts]
      split <;> omega
    have heard : all₁.map (fun s => hear m.limits.depth s rest) =
        all.map fun s => hear m.limits.depth s (event :: rest) := List.map_map
    rw [counted, heard] at pumped
    exact ⟨k, pumped, drained⟩

/-- What wakes a thread that has yielded. -/
theorem accepts_yielded (yielded event : List Value) (frame : Frame) :
    (ThreadState.ofStep (.ok (.yielded yielded frame))).accepts event = true ↔
      Value.headString? yielded = none ∨ Value.headString? event = Value.headString? yielded ∨
      Value.headString? event = some terminateEvent := by
  show (ThreadState.parked (Value.headString? yielded) frame).accepts event = true ↔ _
  cases Value.headString? yielded <;> simp [ThreadState.accepts]

/-- Delivery is per thread, and in the order of the events. Threads that keep apart are left as if
each had heard all queued events alone, and the queue is empty. Each is resumed once for each event
that it accepts as it then is; when it is done it hears nothing more, and if it has finished since,
it holds the values that its last continuation came to. A thread that has yielded accepts the event
whose name it yielded first, any event if that was no name, and `terminate`. The answer counts the
events that woke a thread. -/
theorem pump_threadwise (m : Machine) (views : ∀ i, View (alike i))
    (apart : ∀ i t, m.threads[i]? = some t → Thread.KeepsApart m.limits.depth (alike i)
      (fun h k => ∀ j, j ≠ i → alike j h k) (t, m.host) m.host.events) :
    (∃ h, m.pump = (.ok ((List.range m.host.events.length).countP fun i =>
          m.threads.any fun t => wakesAt m.limits.depth (t, m.host) m.host.events i),
        { m with
          threads := m.threads.map fun t => (hear m.limits.depth (t, m.host) m.host.events).1
          host := h }) ∧ h.events = []) ∧
    (∀ t ∈ m.threads,
      (hear m.limits.depth (t, m.host) m.host.events).1.resumes = t.resumes +
        (List.range m.host.events.length).countP
          (wakesAt m.limits.depth (t, m.host) m.host.events) ∧
      (∀ before after, m.host.events = before ++ after →
        (hear m.limits.depth (t, m.host) before).1.state.isDone = true →
        hear m.limits.depth (t, m.host) m.host.events = hear m.limits.depth (t, m.host) before) ∧
      ∀ values, t.state.isDone = false →
        (hear m.limits.depth (t, m.host) m.host.events).1.state = .done (.ok values) →
        ∃ before event after filter frame, m.host.events = before ++ event :: after ∧
          (hear m.limits.depth (t, m.host) before).1.state = .parked filter frame ∧
          (ThreadState.parked filter frame).accepts event = true ∧
          ((frame.next.on event).run m.limits.depth
            (hear m.limits.depth (t, m.host) before).2).1 = .done values) ∧
    ∀ yielded frame event,
      (ThreadState.ofStep (.ok (.yielded yielded frame))).accepts event = true ↔
        Value.headString? yielded = none ∨ Value.headString? event = Value.headString? yielded ∨
        Value.headString? event = some terminateEvent := by
  refine ⟨?_, fun t _ => ⟨(Thread.hear_eq _ (t, m.host)).2.2, ?_,
    fun values => Thread.hear_finished _ (t, m.host)⟩,
    fun yielded frame event => accepts_yielded yielded event frame⟩
  · let all := m.threads.map fun t => (t, m.host)
    have found {i : Nat} {s : Thread × Host} (here : all[i]? = some s) :
        ∃ t, m.threads[i]? = some t ∧ (t, m.host) = s := by
      rw [List.getElem?_map] at here
      exact Option.map_eq_some_iff.mp here
    have looks : ∀ i s, all[i]? = some s → alike i s.2 m.host := by
      intro i s here
      obtain ⟨t, -, rfl⟩ := found here
      exact (views i).refl m.host
    have keeps : ∀ i s, all[i]? = some s → Thread.KeepsApart m.limits.depth (alike i)
        (fun h k => ∀ j, j ≠ i → alike j h k) s m.host.events := by
      intro i s here
      obtain ⟨t, there, rfl⟩ := found here
      exact apart i t there
    have same : m.threads = all.map Prod.fst := by
      rw [List.map_map]
      exact (List.map_id m.threads).symm
    obtain ⟨h, pumped, drained⟩ := @pumpUpTo_apart _ views m.host.events all m 0
      (m.host.events.length + m.limits.events) rfl same (Nat.le_add_right _ _) looks keeps
    refine ⟨h, pumped.trans ?_, drained⟩
    unfold woken
    rw [Nat.zero_add, List.map_map, List.map_map]
    simp only [all, List.any_map]
    rfl
  · intro before after split ceased
    rw [split, Thread.hear_append, Thread.hear_done ceased]

/-! ## Continuations that leave the host alone -/

/-- The hosts differ in their event queues at most. -/
def SameButEvents (h k : Host) : Prop := { h with events := [] } = { k with events := [] }

theorem sameButEvents_view : View SameButEvents := by
  refine ⟨fun h => rfl, fun {a b c} first second => ?_, fun h events => rfl⟩
  exact Eq.trans first second

/-- A continuation that ends or yields and does nothing to the host keeps apart from all others. -/
theorem keepsApart_of_still {f : Frame} {depth : Nat} {event : List Value} {outcome : Outcome}
    {own others : Host → Host → Prop} (others_refl : ∀ k, others k k)
    (still : ∀ k, f.ran depth event k = (outcome, k)) (fits : outcome.Fits f.adjust)
    (stays : ∀ how, outcome ≠ .failed (.escaped how)) (h : Host) :
    f.KeepsApart depth own others event h := by
  have back (k : Host) : (f.resume depth event k).2 = k := by
    show (settle f.label f.logsHostErrors f.adjust (f.ran depth event k)).2 = k
    rw [still k]
    cases outcome with
    | done values => rfl
    | pending yielded adjust next =>
      unfold settle
      simp only
      split <;> rfl
    | failed failure =>
      cases failure with
      | raised e =>
        unfold settle
        simp only
        split <;> rfl
      | escaped how => exact absurd rfl (stays how)
  refine ⟨?_, ?_, fun k _ => ?_, fun k alike => ?_, fun k _ => ?_, fun k _ => ?_⟩
  · rwa [still]
  · rw [still]
    exact stays .exhausted
  · rw [still, still]
  · rwa [back, back]
  · rw [back]
    exact others_refl k
  · rw [back]

/-- A thread that waits for two events in turn, and ends with a word. -/
def sentry (id : ThreadId) : Thread where
  id := id
  label := "sentry"
  resumes := 0
  state := .parked (some "open") ⟨⟨"Sentry", .registry, "watch"⟩, .code fun _ =>
    .suspend [.string "close"] 0 fun _ => .done [.string "done"], 0, true⟩

/-- Two such threads and three events, of which the second wakes nobody. -/
def sentries : Machine :=
  { ofHost ⟨1, 1⟩ { Host.new Config.default with
      events := [[.string "open"], [.string "open"], [.string "close"]] } with
    threads := [sentry ⟨1⟩, sentry ⟨2⟩] }

/-- A sentry keeps apart from whatever leaves the host alone. -/
theorem sentry_keepsApart {others : Host → Host → Prop} (others_refl : ∀ k, others k k)
    (id : ThreadId) (h : Host) : Thread.KeepsApart 1 SameButEvents others (sentry id, h)
      [[.string "open"], [.string "open"], [.string "close"]] := by
  refine ⟨fun filter frame parked _ => ?_, fun filter frame _ accepted => ?_,
    fun filter frame parked _ => ?_, trivial⟩
  · cases parked
    refine keepsApart_of_still others_refl (fun k => rfl) (Outcome.fits_zero _)
      (fun how same => ?_) _
    cases same
  · exact absurd accepted Bool.false_ne_true
  · cases parked
    refine keepsApart_of_still others_refl (fun k => rfl) (Outcome.fits_zero _)
      (fun how same => ?_) _
    cases same

theorem pump_threadwise_sentries : (∀ (i : Nat) t, sentries.threads[i]? = some t →
      Thread.KeepsApart 1 SameButEvents (fun h k => ∀ j, j ≠ i → SameButEvents h k)
        (t, sentries.host) sentries.host.events) ∧
    ∃ h, sentries.pump = (.ok 2, { sentries with
      threads := [⟨⟨1⟩, "sentry", 2, .done (.ok [.string "done"])⟩,
        ⟨⟨2⟩, "sentry", 2, .done (.ok [.string "done"])⟩], host := h }) ∧ h.events = [] := by
  have apart : ∀ (i : Nat) t, sentries.threads[i]? = some t →
      Thread.KeepsApart 1 SameButEvents (fun h k => ∀ j, j ≠ i → SameButEvents h k)
        (t, sentries.host) sentries.host.events := by
    intro i t found
    obtain ⟨id, rfl⟩ : ∃ id, t = sentry id := by
      have inside : t ∈ [sentry ⟨1⟩, sentry ⟨2⟩] := List.mem_of_getElem? found
      simp only [List.mem_cons, List.not_mem_nil, or_false] at inside
      exact inside.elim (fun same => ⟨_, same⟩) (fun same => ⟨_, same⟩)
    exact sentry_keepsApart (fun k j _ => rfl) id sentries.host
  obtain ⟨⟨h, pumped, drained⟩, -⟩ := pump_threadwise sentries (fun _ => sameButEvents_view) apart
  exact ⟨apart, h, pumped, drained⟩

end DeviceBridge.Machine
