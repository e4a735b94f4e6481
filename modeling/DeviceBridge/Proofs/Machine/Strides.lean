import DeviceBridge.Proofs.Machine.Recording

/-
  What an operation does to the threads, in single strides. Whatever is done with a machine, there
  are only four things that happen to its threads: nothing, while code of the host runs; an event is
  given to them; one comes; one that has ended goes. `perform_strides` cuts every operation that
  comes back into such strides, but for the stop, which drops all threads at once. So what a stride
  keeps is kept by every operation.
-/

namespace DeviceBridge.Machine

open Chronicle

inductive Stride : Machine → List Incident → Machine → Prop where
  /-- Code of the host or the main thread runs. -/
  | plain {m m' : Machine} {more : List Incident} (plain : ∀ x ∈ more, x.Plain)
      (untouched : Untouched m m') : Stride m more m'
  /-- An event is taken out and given to the threads. -/
  | given {m : Machine} {event : List Value} {h h' : Host} {woke : Bool} {threads : List Thread}
      (delivered : Thread.deliver m.limits.depth event h m.threads = (.ok woke, threads, h')) :
      Stride m (.taken event :: Thread.deliverIncidents m.limits.depth event h m.threads)
        { m with threads, host := h' }
  /-- A thread comes, and has run up to its first stop. -/
  | came {m : Machine} {t : Thread} {h : Host} {code : List Incident}
      (numbered : t.id = ⟨m.nextThread⟩) (plain : ∀ x ∈ code, x.Plain) :
      Stride m (.entered t.id none :: (code ++ [.moved t.id none t.state]))
        { m with host := h, nextThread := m.nextThread + 1, threads := m.threads ++ [t] }
  /-- A thread that has ended goes. -/
  | went {m : Machine} {id : ThreadId} {t : Thread} (found : m.thread? id = some t)
      (ended : t.state.isDone = true) :
      Stride m [] { m with threads := m.threads.filter fun t => t.id ≠ id }

inductive Strides : Machine → List Incident → Machine → Prop where
  | single {m m' : Machine} {more : List Incident} (stride : Stride m more m') : Strides m more m'
  | append {m m₁ m' : Machine} {first more : List Incident} (before : Strides m first m₁)
      (after : Strides m₁ more m') : Strides m (first ++ more) m'

namespace Strides

variable {m m' : Machine}

theorem plain {more : List Incident} (plain : ∀ x ∈ more, x.Plain) (untouched : Untouched m m') :
    Strides m more m' := .single (.plain plain untouched)

theorem refl (m : Machine) : Strides m [] m := .plain (List.forall_mem_nil _) (.refl m)

theorem withHost (m : Machine) (h : Host) : Strides m [] (m.withHost h) :=
  .plain (List.forall_mem_nil _) ⟨rfl, rfl, rfl⟩

/-! ## APIs -/

theorem exportApi_untouched (m : Machine) (api : Api) : Untouched m (m.exportApi api) := by
  unfold exportApi
  obtain ⟨⟨limits, threads, nextThread⟩, -⟩ := exportAll_quiet _ api.names (m.withHost _)
  exact ⟨limits, threads, nextThread⟩

theorem addApi (m : Machine) (api : Api) : Strides m (m.addApiIncidents api) (m.addApi api).2 := by
  have exported := exportApi_untouched m api
  have still := exported.trans (runHook_untouched _ api.startup)
  unfold addApiIncidents Machine.addApi
  simp only
  by_cases running : (m.exportApi api).status = .running
  · rw [if_pos running, if_pos running]
    have plain := Host.ranIncidents_plain (m.exportApi api).limits.depth (m.exportApi api).host
      api.startup
    split
    · exact .plain plain ⟨still.limits, still.threads, still.nextThread⟩
    · exact .plain plain still
  · rw [if_neg running, if_neg running]
    exact .plain (List.forall_mem_nil _) ⟨exported.limits, exported.threads, exported.nextThread⟩

theorem startup (m : Machine) : Strides m m.startupIncidents m.startup.2 := by
  unfold startupIncidents
  by_cases running : m.status = .running
  · unfold Machine.startup
    rw [if_pos running, if_pos running]
    exact refl m
  · rw [startup_stopped running, if_neg running]
    have still : Untouched m (m.starting.runHooks (m.apis.map (·.startup))).2 :=
      Untouched.trans (b := m.starting) ⟨rfl, rfl, rfl⟩ (runHooks_untouched _ _)
    have plain := hooksIncidents_plain (m.apis.map (·.startup)) m.starting
    split
    · next ran =>
      rw [ran] at still
      exact .plain plain ⟨still.limits, still.threads, still.nextThread⟩
    · exact .plain plain still

/-! ## Threads -/

theorem spawn {global method : String} {args : List Value} {answer : Except MachineError ThreadId}
    (done : m.spawn global method args = (.ok answer, m')) :
    Strides m (m.spawnIncidents global method args) m' := by
  unfold Machine.spawn at done
  unfold spawnIncidents
  by_cases running : m.status ≠ .running
  · rw [if_pos running] at done ⊢
    cases done
    exact refl m
  · rw [if_neg running] at done ⊢
    cases found : m.function global method with
    | error e =>
      rw [found] at done
      cases done
      exact refl m
    | ok f =>
      rw [found] at done
      simp only at done ⊢
      cases invoked : f.invoke m.limits.depth (Arguments.ofList args) m.host with
      | mk left h =>
        rw [invoked] at done
        cases left with
        | error how => cases done
        | ok step =>
          cases done
          let t : Thread := ⟨⟨m.nextThread⟩, global ++ "." ++ method, 0, .ofStep step⟩
          have came := Stride.came (m := m) (t := t) (h := h.write .debug t.diagnostic) rfl
            (Host.ranIncidents_plain m.limits.depth m.host
              (f.method.apply f.object f.contexts (Arguments.ofList args)))
          exact .single came

theorem takeResult (m : Machine) (id : ThreadId) : Strides m [] (m.takeResult id).2 := by
  unfold Machine.takeResult
  split
  · exact refl m
  · next t found =>
    split
    · exact refl m
    · next ended => exact .single (.went found (by rw [ended]; rfl))

/-! ## Events -/

/-- By induction on the events that may be delivered. -/
theorem pumpUpTo (more : Nat) : ∀ {delivered n : Nat} {m m' : Machine},
    m.pumpUpTo delivered more = (.ok n, m') → Strides m (m.pumpIncidents more) m' := by
  induction more with
  | zero =>
    intro delivered n m m' done
    unfold Machine.pumpUpTo at done
    split at done <;> cases done
    exact refl m
  | succ more ih =>
    intro delivered n m m' done
    unfold Machine.pumpUpTo at done
    unfold pumpIncidents
    cases popped : m.host.popEvent with
    | none =>
      rw [popped] at done
      cases done
      exact refl m
    | some next =>
      obtain ⟨event, h⟩ := next
      rw [popped] at done
      simp only at done ⊢
      cases given : Thread.deliver m.limits.depth event h m.threads with
      | mk woke left =>
        obtain ⟨threads, h₁⟩ := left
        rw [given] at done
        cases woke with
        | error how => cases done
        | ok woke =>
          rw [← List.cons_append]
          exact .append (.single (.given given)) (ih done)

theorem pump {n : Nat} (done : m.pump = (.ok n, m')) : Strides m m.allPumped m' := pumpUpTo _ done

theorem mainTick {n : Nat} (done : m.mainTick = (.ok n, m')) :
    Strides m m.mainTickIncidents m' := by
  obtain rfl : m.mainTick.2 = m' := congrArg Prod.snd done
  exact .plain (Host.tickIncidents_plain _ _ m.host) ⟨rfl, rfl, rfl⟩

theorem tick {n : Nat} (done : m.tick = (.ok n, m')) : Strides m m.turnIncidents m' := by
  unfold Machine.tick at done
  unfold turnIncidents
  cases ticked : m.mainTick with
  | mk answer m₁ =>
    rw [ticked] at done
    cases answer with
    | error how => cases done
    | ok ran =>
      simp only at done ⊢
      split at done
      · cases done
      · next pumped =>
        cases done
        exact .append (mainTick ticked) (pump pumped)

/-- By induction on the ticks that are left. -/
theorem tickUntilDone {id : ThreadId} (more : Nat) : ∀ {m m' : Machine},
    m.tickUntilDone id more = (.ok (), m') → Strides m (m.untilIncidents id more) m' := by
  induction more with
  | zero =>
    intro m m' done
    cases done
    exact refl m
  | succ more ih =>
    intro m m' done
    unfold Machine.tickUntilDone at done
    unfold untilIncidents
    cases found : m.thread? id with
    | none =>
      rw [found] at done
      cases done
      exact refl m
    | some t =>
      rw [found] at done
      simp only at done ⊢
      by_cases finished : t.state.isDone = true
      · rw [if_pos finished] at done ⊢
        cases done
        exact refl m
      · rw [if_neg finished] at done ⊢
        cases ticked : m.tick with
        | mk answer m₁ =>
          rw [ticked] at done
          cases answer with
          | error how => cases done
          | ok ran => exact .append (tick ticked) (ih done)

theorem call {global method : String} {args : List Value} {maxTicks : Nat}
    {answer : Except MachineError (Option CallEnd)}
    (done : m.call global method args maxTicks = (.ok answer, m')) :
    Strides m (m.callIncidents global method args maxTicks) m' := by
  unfold Machine.call at done
  unfold callIncidents
  split at done
  · cases done
  · next e spawned =>
    cases done
    rw [spawned]
    exact .append (spawn spawned) (refl _)
  · next id started spawned =>
    rw [spawned]
    split at done
    · cases done
    · next ticked =>
      cases done
      have went := (tickUntilDone maxTicks ticked).append (takeResult _ id)
      rw [List.append_nil] at went
      exact .append (spawn spawned) went

end Strides

/-! ## Operations -/

/-- One case for each operation. -/
theorem perform_strides {m m' : Machine} (op : Operation) (done : op.perform m = (.ok (), m'))
    (other : op ≠ .shutdown) : Strides m (op.incidents m) m' := by
  cases op with
  | shutdown => exact absurd rfl other
  | addApi api =>
    have strides := Strides.addApi m api
    rwa [show m.addApi api = _ from done] at strides
  | startup =>
    have strides := Strides.startup m
    rwa [show m.startup = _ from done] at strides
  | spawn global method args =>
    obtain ⟨answer, spawned⟩ := Operation.ofFinished done
    exact .spawn spawned
  | call global method args maxTicks =>
    obtain ⟨answer, called⟩ := Operation.ofFinished done
    exact .call called
  | pump =>
    obtain ⟨n, pumped⟩ := Operation.ofFinished done
    exact .pump pumped
  | tick =>
    obtain ⟨n, ticked⟩ := Operation.ofFinished done
    exact .tick ticked
  | mainTick =>
    obtain ⟨n, ticked⟩ := Operation.ofFinished done
    exact .mainTick ticked
  | takeResult id =>
    cases done
    exact .takeResult m id
  | queueEvent name args =>
    cases done
    exact .plain (List.forall_mem_singleton.mpr trivial) ⟨rfl, rfl, rfl⟩
  | change command =>
    obtain rfl : ((Operation.change command).perform m).2 = m' := congrArg Prod.snd done
    exact .plain (fun x inside => (Host.incidents_ofCode _ _ x inside).plain) ⟨rfl, rfl, rfl⟩
  | addDevice | addSource =>
    cases done
    exact .withHost m _
  | submit completion body =>
    cases done
    refine .plain (List.forall_mem_singleton.mpr ?_) ⟨rfl, rfl, rfl⟩
    exact (Host.handedIn_ofCode _ completion body).plain

/-- A stop does nothing to a machine that rests. On one that runs it lets code run, and then drops
the threads and the events that are left. -/
theorem shutdown_inversion {m m' : Machine} (done : m.shutdown = (.ok (), m')) :
    (m.status = .stopped ∧ m.shutdownIncidents = [] ∧ m' = m) ∨
    m.status = .running ∧ ∃ m₁ code, (∀ x ∈ code, x.Plain) ∧ Untouched m m₁ ∧
      m.shutdownIncidents = code ++ m₁.host.events.map .taken ∧
      m' = { m₁ with host := m₁.host.drainEvents.2, threads := [], status := .stopped } := by
  unfold shutdownIncidents
  cases status : m.status with
  | stopped =>
    rw [show m.shutdown = (.ok (), m) from if_pos status] at done
    cases done
    exact .inl ⟨rfl, if_pos rfl, rfl⟩
  | running =>
    have awake : m.status ≠ .stopped := by
      rw [status]
      exact MachineStatus.noConfusion
    rw [shutdown_running awake] at done
    rw [if_neg MachineStatus.noConfusion]
    have still : Untouched m (m.stopping.runHooks (m.apis.reverse.map (·.shutdown))).2 :=
      Untouched.trans (b := m.stopping) ⟨rfl, rfl, rfl⟩ (runHooks_untouched _ _)
    have plain := hooksIncidents_plain (m.apis.reverse.map (·.shutdown)) m.stopping
    split at done
    · next m₁ ran =>
      rw [ran] at still ⊢
      cases done
      exact .inr ⟨rfl, m₁, _, plain, still, rfl, rfl⟩
    · next failed => exact absurd done (failed _)

end DeviceBridge.Machine
