import DeviceBridge.Proofs.Machine.Moves

/-
  Every run keeps its accounts, and its incidents hang together (`recorded_chronicled`). Each
  operation has a lemma: those that leave the threads alone add incidents of code and of the main
  thread, and only `spawn` and `pump` make threads move.
-/

namespace DeviceBridge.Machine

open Chronicle

/-- Accounts, links and threads agree with what the machine holds. A thread that is yet to come has
not moved. -/
structure Chronicled (limits : Limits) (limit perTick : Nat) (log : List Incident) (m : Machine) :
    Prop where
  limited : m.limits = limits
  recounts : Recounted limits.depth limit perTick log m.host
  stand : Stand log m.threads
  fresh : ∀ thread, states thread log ≠ [] → thread.number < m.nextThread

/-- Neither the threads have changed nor what they are numbered and bounded by. -/
structure Untouched (m m' : Machine) : Prop where
  limits : m'.limits = m.limits
  threads : m'.threads = m.threads
  nextThread : m'.nextThread = m.nextThread

theorem Untouched.refl (m : Machine) : Untouched m m := ⟨rfl, rfl, rfl⟩

theorem Untouched.trans {a b c : Machine} (ab : Untouched a b) (bc : Untouched b c) :
    Untouched a c :=
  ⟨bc.limits.trans ab.limits, bc.threads.trans ab.threads, bc.nextThread.trans ab.nextThread⟩

variable {limits : Limits} {limit perTick : Nat} {log : List Incident} {m m' : Machine}

/-- Code of the host or the main thread has run, and the threads are left alone. -/
theorem Chronicled.plain (chronicled : Chronicled limits limit perTick log m)
    {more : List Incident} (plain : ∀ x ∈ more, x.Plain) (untouched : Untouched m m')
    (accounts : Accounted limits.depth limit perTick .idle (log ++ more) m'.host) :
    Chronicled limits limit perTick (log ++ more) m' := by
  obtain ⟨limited, ⟨-, linked⟩, stand, fresh⟩ := chronicled
  have still := stand.still fun t _ => states_plain plain t.id
  rw [← untouched.threads] at still
  refine ⟨untouched.limits.trans limited, ⟨accounts, linked_plain linked plain⟩, still, ?_⟩
  intro thread moved
  rw [states_append, states_plain plain, List.append_nil] at moved
  rw [untouched.nextThread]
  exact fresh thread moved

/-- Nothing has happened. -/
theorem Chronicled.quiet (chronicled : Chronicled limits limit perTick log m)
    (untouched : Untouched m m')
    (accounts : Accounted limits.depth limit perTick .idle log m'.host) :
    Chronicled limits limit perTick (log ++ []) m' :=
  chronicled.plain (List.forall_mem_nil _) untouched (by rwa [List.append_nil])

/-! ## Hooks -/

theorem runHook_eq (m : Machine) (hook : Code) :
    (m.runHook hook).2 = m.withHost (hook.run m.limits.depth m.host).2 := by
  unfold runHook
  split <;> rename_i found <;> rw [found]

theorem runHook_untouched (m : Machine) (hook : Code) : Untouched m (m.runHook hook).2 := by
  rw [runHook_eq]
  exact ⟨rfl, rfl, rfl⟩

theorem runHooks_untouched (hooks : List Code) : ∀ m : Machine,
    Untouched m (m.runHooks hooks).2 := by
  induction hooks with
  | nil => exact Untouched.refl
  | cons hook rest ih =>
    intro m
    have first := runHook_untouched m hook
    unfold runHooks
    split
    · next found =>
      rw [found] at first
      exact first.trans (ih _)
    · exact first

theorem hook_accounts (limited : m.limits = limits)
    (accounts : Accounted limits.depth limit perTick .idle log m.host) (hook : Code) :
    Accounted limits.depth limit perTick .idle (log ++ m.hookIncidents hook)
      (m.runHook hook).2.host := by
  subst limited
  rw [runHook_eq]
  exact accounts.ran m.limits.depth hook

/-- By induction on the hooks. -/
theorem hooks_accounts (hooks : List Code) : ∀ {log : List Incident} {m : Machine},
    m.limits = limits → Accounted limits.depth limit perTick .idle log m.host →
      Accounted limits.depth limit perTick .idle (log ++ m.hooksIncidents hooks)
        (m.runHooks hooks).2.host := by
  induction hooks with
  | nil =>
    intro log m _ accounts
    rwa [hooksIncidents, List.append_nil]
  | cons hook rest ih =>
    intro log m limited accounts
    have first := hook_accounts limited accounts hook
    have same := (runHook_untouched m hook).limits.trans limited
    unfold hooksIncidents runHooks
    cases ran : m.runHook hook with
    | mk left m₁ =>
      rw [ran] at first same
      cases left with
      | ok =>
        have later := ih same first
        rwa [List.append_assoc] at later
      | error how => simpa only [List.append_nil] using first

theorem hooksIncidents_plain (hooks : List Code) : ∀ m : Machine,
    ∀ x ∈ m.hooksIncidents hooks, x.Plain := by
  induction hooks with
  | nil =>
    intro m x inside
    exact absurd inside List.not_mem_nil
  | cons hook rest ih =>
    intro m x inside
    rcases List.mem_append.mp inside with own | later
    · exact Host.ranIncidents_plain _ _ _ x own
    · split at later
      · exact ih _ x later
      · exact absurd later List.not_mem_nil

/-! ## Operations that leave the threads alone -/

theorem exportAs_quiet (global : Global) (m : Machine) (name : String) :
    Untouched m (exportAs global m name) ∧ (exportAs global m name).host.tasks = m.host.tasks ∧
    (exportAs global m name).host.events = m.host.events := by
  unfold exportAs
  simp only
  split <;> exact ⟨⟨rfl, rfl, rfl⟩, rfl, rfl⟩

/-- By induction on the names. -/
theorem exportAll_quiet (global : Global) (names : List String) : ∀ m : Machine,
    Untouched m (names.foldl (exportAs global) m) ∧
    (names.foldl (exportAs global) m).host.tasks = m.host.tasks ∧
    (names.foldl (exportAs global) m).host.events = m.host.events := by
  induction names with
  | nil => exact fun m => ⟨Untouched.refl m, rfl, rfl⟩
  | cons name rest ih =>
    intro m
    obtain ⟨untouched, tasks, events⟩ := exportAs_quiet global m name
    obtain ⟨untouched', tasks', events'⟩ := ih (exportAs global m name)
    exact ⟨untouched.trans untouched', tasks'.trans tasks, events'.trans events⟩

theorem addApi_chronicled (chronicled : Chronicled limits limit perTick log m) (api : Api) :
    Chronicled limits limit perTick (log ++ m.addApiIncidents api) (m.addApi api).2 := by
  obtain ⟨untouched, tasks, events⟩ : Untouched m (m.exportApi api) ∧
      (m.exportApi api).host.tasks = m.host.tasks ∧
      (m.exportApi api).host.events = m.host.events := by
    unfold exportApi
    obtain ⟨⟨limits, threads, nextThread⟩, same⟩ := exportAll_quiet _ api.names (m.withHost _)
    exact ⟨⟨limits, threads, nextThread⟩, same⟩
  have exported := chronicled.recounts.accounts.same tasks events
  unfold addApiIncidents addApi
  simp only
  by_cases running : (m.exportApi api).status = .running
  · rw [if_pos running, if_pos running]
    have limited := untouched.limits.trans chronicled.limited
    have hooked := hook_accounts limited exported api.startup
    have still := untouched.trans (runHook_untouched _ api.startup)
    have plain := Host.ranIncidents_plain (m.exportApi api).limits.depth (m.exportApi api).host
      api.startup
    split
    · exact chronicled.plain plain ⟨still.limits, still.threads, still.nextThread⟩ hooked
    · exact chronicled.plain plain still hooked
  · rw [if_neg running, if_neg running]
    exact chronicled.quiet ⟨untouched.limits, untouched.threads, untouched.nextThread⟩ exported

theorem startup_stopped (stopped : m.status ≠ .running) : m.startup =
    match m.starting.runHooks (m.apis.map (·.startup)) with
    | (.ok (), m) => (.ok (), { m with status := .running })
    | failed => failed := if_neg stopped

theorem startup_chronicled (chronicled : Chronicled limits limit perTick log m) :
    Chronicled limits limit perTick (log ++ m.startupIncidents) m.startup.2 := by
  unfold startupIncidents
  by_cases running : m.status = .running
  · unfold startup
    rw [if_pos running, if_pos running]
    exact chronicled.quiet (Untouched.refl m) chronicled.recounts.accounts
  · rw [startup_stopped running, if_neg running]
    have hooks := hooks_accounts (m.apis.map (·.startup)) (m := m.starting) chronicled.limited
      (chronicled.recounts.accounts.same rfl rfl)
    have still : Untouched m (m.starting.runHooks (m.apis.map (·.startup))).2 :=
      Untouched.trans (b := m.starting) ⟨rfl, rfl, rfl⟩ (runHooks_untouched _ _)
    have plain := hooksIncidents_plain (m.apis.map (·.startup)) m.starting
    split
    · next found =>
      rw [found] at hooks still
      exact chronicled.plain plain ⟨still.limits, still.threads, still.nextThread⟩ hooks
    · exact chronicled.plain plain still hooks

theorem change_chronicled (chronicled : Chronicled limits limit perTick log m)
    (command : Command) : Chronicled limits limit perTick
      (log ++ (Operation.change command).incidents m) ((Operation.change command).perform m).2 := by
  have changed := chronicled.recounts.accounts.changes
    (m.host.performChanges (Program.run m.limits.depth) (Program.changes m.limits.depth) command)
  rw [← Host.perform_replay (Program.replay_changes m.limits.depth)] at changed
  exact chronicled.plain (fun x inside => (Host.incidents_ofCode _ _ x inside).plain)
    ⟨rfl, rfl, rfl⟩ changed

/-! ## Operations that change the threads -/

theorem shutdown_running (running : m.status ≠ .stopped) : m.shutdown =
    match m.stopping.runHooks (m.apis.reverse.map (·.shutdown)) with
    | (.ok (), m) => (.ok (), { m with
      host := m.host.drainEvents.2, threads := [], status := .stopped })
    | failed => failed := if_neg running

theorem shutdown_leaves (running : m.status = .running) (shut : m.shutdown = (.ok (), m')) :
    m'.threads = [] ∧ m'.host.events = [] ∧ m'.status = .stopped := by
  have awake : m.status ≠ .stopped := by
    rw [running]
    exact MachineStatus.noConfusion
  rw [shutdown_running awake] at shut
  split at shut
  · cases shut
    exact ⟨rfl, rfl, rfl⟩
  · next failed => exact absurd shut (failed _)

/-- The events that are left are taken out, and the threads are dropped. -/
theorem shutdown_chronicled (chronicled : Chronicled limits limit perTick log m)
    (done : m.shutdown = (.ok (), m')) :
    Chronicled limits limit perTick (log ++ m.shutdownIncidents) m' := by
  unfold shutdownIncidents
  by_cases stopped : m.status = .stopped
  · unfold shutdown at done
    rw [if_pos stopped] at done ⊢
    cases done
    exact chronicled.quiet (Untouched.refl m) chronicled.recounts.accounts
  · rw [shutdown_running stopped] at done
    rw [if_neg stopped, ← List.append_assoc]
    have hooks := hooks_accounts (m.apis.reverse.map (·.shutdown)) (m := m.stopping)
      chronicled.limited (chronicled.recounts.accounts.same rfl rfl)
    have still : Untouched m (m.stopping.runHooks (m.apis.reverse.map (·.shutdown))).2 :=
      Untouched.trans (b := m.stopping) ⟨rfl, rfl, rfl⟩ (runHooks_untouched _ _)
    have plain := hooksIncidents_plain (m.apis.reverse.map (·.shutdown)) m.stopping
    obtain ⟨limited, recounts, -, fresh⟩ := chronicled.plain plain still hooks
    split at done
    · next m₁ ran =>
      rw [ran] at limited recounts fresh ⊢
      cases done
      refine ⟨limited, recounts.drain, ⟨List.nodup_nil, List.forall_mem_nil _⟩, ?_⟩
      intro thread moved
      refine fresh thread fun none => moved ?_
      have quiet : states thread (m₁.host.events.map Incident.taken) = [] := by
        unfold states
        rw [List.filterMap_map]
        exact List.filterMap_eq_nil_iff.mpr fun _ _ => rfl
      rw [states_append, none, quiet, List.append_nil]
    · next failed =>
      exact absurd done (failed _)

/-- A thread is started, and has not moved before. -/
theorem spawn_chronicled {global method : String} {args : List Value}
    {answer : Except MachineError ThreadId} (chronicled : Chronicled limits limit perTick log m)
    (done : m.spawn global method args = (.ok answer, m')) :
    Chronicled limits limit perTick (log ++ m.spawnIncidents global method args) m' := by
  unfold spawn at done
  unfold spawnIncidents
  by_cases running : m.status ≠ .running
  · rw [if_pos running] at done ⊢
    cases done
    exact chronicled.quiet (Untouched.refl m) chronicled.recounts.accounts
  · rw [if_neg running] at done ⊢
    cases found : m.function global method with
    | error e =>
      rw [found] at done
      cases done
      exact chronicled.quiet (Untouched.refl m) chronicled.recounts.accounts
    | ok f =>
      rw [found] at done
      simp only at done ⊢
      cases invoked : f.invoke m.limits.depth (Arguments.ofList args) m.host with
      | mk left h =>
        rw [invoked] at done
        cases left with
        | error how => cases done
        | ok step =>
          cases done
          obtain ⟨rfl, recounts, stand, fresh⟩ := chronicled
          let thread : ThreadId := ⟨m.nextThread⟩
          let p : Program := f.method.apply f.object f.contexts (Arguments.ofList args)
          -- a thread that has moved bears a smaller number than the next one
          have unused : states thread log = [] :=
            Classical.byContradiction fun moved => Nat.lt_irrefl _ (fresh thread moved)
          have quiet : states thread (log ++ .entered thread none ::
              m.host.ranIncidents m.limits.depth p) = [] := by
            rw [states_append, unused]
            exact states_plain (Host.ranIncidents_plain m.limits.depth m.host p) thread
          have link : Link m.limits.depth (log ++ .entered thread none ::
              m.host.ranIncidents m.limits.depth p) (.moved thread none (.ofStep step)) :=
            ⟨quiet, f, Arguments.ofList args, log, m.host, step, rfl, congrArg Prod.fst invoked,
              rfl⟩
          have moves (other : ThreadId) := states_played m.limits.depth m.host thread other none p
            (.ofStep step)
          obtain ⟨accounts, linked⟩ := recounts.play invoked link
          refine ⟨rfl, ⟨accounts.same rfl rfl, linked⟩, stand.add unused moves, ?_⟩
          intro other moved
          by_cases same : thread = other
          · rw [← same]
            exact Nat.lt_succ_self _
          · refine Nat.lt_succ_of_lt (fresh other fun unmoved => moved ?_)
            show states other (log ++ .entered thread none ::
              (m.host.ranIncidents m.limits.depth p ++ [.moved thread none (.ofStep step)])) = []
            rw [states_append, unmoved, moves, if_neg same, List.append_nil]

theorem takeResult_chronicled (chronicled : Chronicled limits limit perTick log m)
    (id : ThreadId) : Chronicled limits limit perTick log (m.takeResult id).2 := by
  unfold takeResult
  split
  · exact chronicled
  · split
    · exact chronicled
    · obtain ⟨limited, recounts, ⟨distinct, last⟩, fresh⟩ := chronicled
      refine ⟨limited, recounts, ⟨?_, fun t inside => last t (List.mem_filter.mp inside).1⟩, fresh⟩
      exact distinct.sublist (List.filter_sublist.map _)

/-- By induction on the events that may be delivered. -/
theorem pumpUpTo_chronicled (more : Nat) : ∀ {log : List Incident} {delivered n : Nat}
    {m m' : Machine}, Chronicled limits limit perTick log m →
      m.pumpUpTo delivered more = (.ok n, m') →
        Chronicled limits limit perTick (log ++ m.pumpIncidents more) m' := by
  induction more with
  | zero =>
    intro log delivered n m m' chronicled done
    unfold pumpUpTo at done
    rw [pumpIncidents, List.append_nil]
    split at done
    · cases done
      exact chronicled
    · cases done
  | succ more ih =>
    intro log delivered n m m' chronicled done
    unfold pumpUpTo at done
    unfold pumpIncidents
    cases popped : m.host.popEvent with
    | none =>
      rw [popped] at done
      cases done
      rwa [List.append_nil]
    | some next =>
      obtain ⟨event, h⟩ := next
      rw [popped] at done
      simp only at done ⊢
      cases given : Thread.deliver m.limits.depth event h m.threads with
      | mk woke left =>
        obtain ⟨threads, h₁⟩ := left
        rw [given] at done
        cases woke with
        | error how => cases done
        | ok woke =>
          obtain ⟨rfl, recounts, stand, fresh⟩ := chronicled
          have took : Stand (log ++ [.taken event]) m.threads := stand.still fun _ _ => rfl
          have out : event ∈ taken (log ++ [.taken event]) := by
            rw [taken_append]
            exact List.mem_append_right _ (List.mem_singleton_self event)
          obtain ⟨recounts₁, stand₁, ids, quiet⟩ :=
            (recounts.take popped).deliver m.threads took out given
          -- only threads of the machine move, and each of these has moved before
          have fresh₁ : ∀ thread, states thread (log ++ [.taken event] ++
              Thread.deliverIncidents m.limits.depth event h m.threads) ≠ [] →
              thread.number < m.nextThread := by
            intro thread moved
            by_cases inside : thread ∈ m.threads.map Thread.id
            · obtain ⟨t, held, rfl⟩ := List.mem_map.mp inside
              refine fresh t.id fun unmoved => ?_
              have last := stand.last t held
              rw [unmoved] at last
              cases last
            · refine fresh thread fun unmoved => moved ?_
              rw [states_append, states_append, unmoved, quiet thread inside]
              rfl
          have later := ih (m := { m with threads, host := h₁ })
            ⟨rfl, recounts₁, stand₁, fresh₁⟩ done
          rw [List.append_assoc, List.append_assoc, List.singleton_append] at later
          exact later

theorem pump_chronicled {n : Nat} (chronicled : Chronicled limits limit perTick log m)
    (done : m.pump = (.ok n, m')) : Chronicled limits limit perTick (log ++ m.allPumped) m' :=
  pumpUpTo_chronicled _ chronicled done

theorem mainTick_chronicled {n : Nat} (chronicled : Chronicled limits limit perTick log m)
    (done : m.mainTick = (.ok n, m')) :
    Chronicled limits limit perTick (log ++ m.mainTickIncidents) m' := by
  unfold mainTick at done
  cases ticked : m.host.tick m.limits.depth with
  | mk answer h =>
    rw [ticked] at done
    cases done
    obtain ⟨rfl, recounts, stand, fresh⟩ := chronicled
    have counted := recounts.accounts.ticks m.host.tasks.perTick ticked
    exact Chronicled.plain ⟨rfl, recounts, stand, fresh⟩ (Host.tickIncidents_plain _ _ m.host)
      ⟨rfl, rfl, rfl⟩ counted

theorem tick_chronicled {n : Nat} (chronicled : Chronicled limits limit perTick log m)
    (done : m.tick = (.ok n, m')) :
    Chronicled limits limit perTick (log ++ m.turnIncidents) m' := by
  unfold tick at done
  unfold turnIncidents
  cases ticked : m.mainTick with
  | mk answer m₁ =>
    rw [ticked] at done
    cases answer with
    | error how => cases done
    | ok ran =>
      simp only at done ⊢
      split at done
      · cases done
      · next pumped =>
        cases done
        have later := pump_chronicled (mainTick_chronicled chronicled ticked) pumped
        rwa [List.append_assoc] at later

/-- By induction on the ticks that are left. -/
theorem tickUntilDone_chronicled {id : ThreadId} (more : Nat) :
    ∀ {log : List Incident} {m m' : Machine}, Chronicled limits limit perTick log m →
      m.tickUntilDone id more = (.ok (), m') →
        Chronicled limits limit perTick (log ++ m.untilIncidents id more) m' := by
  induction more with
  | zero =>
    intro log m m' chronicled done
    cases done
    rwa [untilIncidents, List.append_nil]
  | succ more ih =>
    intro log m m' chronicled done
    unfold tickUntilDone at done
    unfold untilIncidents
    cases found : m.thread? id with
    | none =>
      rw [found] at done
      cases done
      rwa [List.append_nil]
    | some t =>
      rw [found] at done
      simp only at done ⊢
      by_cases finished : t.state.isDone = true
      · rw [if_pos finished] at done ⊢
        cases done
        rwa [List.append_nil]
      · rw [if_neg finished] at done ⊢
        cases ticked : m.tick with
        | mk answer m₁ =>
          rw [ticked] at done
          cases answer with
          | error how => cases done
          | ok ran =>
            have later := ih (tick_chronicled chronicled ticked) done
            rwa [List.append_assoc] at later

theorem call_chronicled {global method : String} {args : List Value} {maxTicks : Nat}
    {answer : Except MachineError (Option CallEnd)}
    (chronicled : Chronicled limits limit perTick log m)
    (done : m.call global method args maxTicks = (.ok answer, m')) :
    Chronicled limits limit perTick (log ++ m.callIncidents global method args maxTicks) m' := by
  unfold call at done
  unfold callIncidents
  split at done
  · cases done
  · next e spawned =>
    cases done
    rw [spawned]
    simpa only [List.append_nil] using spawn_chronicled chronicled spawned
  · next id started spawned =>
    rw [spawned]
    split at done
    · cases done
    · next ticked =>
      cases done
      have later := takeResult_chronicled
        (tickUntilDone_chronicled maxTicks (spawn_chronicled chronicled spawned) ticked) id
      rwa [List.append_assoc] at later

/-! ## Runs -/

/-- One case for each operation. -/
theorem perform_chronicled (chronicled : Chronicled limits limit perTick log m) (op : Operation)
    (done : op.perform m = (.ok (), m')) :
    Chronicled limits limit perTick (log ++ op.incidents m) m' := by
  have accounts := chronicled.recounts.accounts
  cases op with
  | addApi api =>
    have after := addApi_chronicled chronicled api
    rwa [show m.addApi api = _ from done] at after
  | startup =>
    have after := startup_chronicled chronicled
    rwa [show m.startup = _ from done] at after
  | shutdown => exact shutdown_chronicled chronicled done
  | spawn global method args =>
    obtain ⟨answer, spawned⟩ := Operation.ofFinished done
    exact spawn_chronicled chronicled spawned
  | call global method args maxTicks =>
    obtain ⟨answer, called⟩ := Operation.ofFinished done
    exact call_chronicled chronicled called
  | queueEvent name args =>
    cases done
    refine chronicled.plain (List.forall_mem_singleton.mpr trivial) ⟨rfl, rfl, rfl⟩ ?_
    exact accounts.idle (List.forall_mem_singleton.mpr trivial) rfl rfl
  | pump =>
    obtain ⟨n, pumped⟩ := Operation.ofFinished done
    exact pump_chronicled chronicled pumped
  | tick =>
    obtain ⟨n, ticked⟩ := Operation.ofFinished done
    exact tick_chronicled chronicled ticked
  | mainTick =>
    obtain ⟨n, ticked⟩ := Operation.ofFinished done
    exact mainTick_chronicled chronicled ticked
  | takeResult id =>
    cases done
    rw [Operation.incidents, List.append_nil]
    exact takeResult_chronicled chronicled id
  | change command =>
    have after := change_chronicled chronicled command
    rwa [done] at after
  | addDevice d =>
    cases done
    exact chronicled.quiet ⟨rfl, rfl, rfl⟩ (accounts.same rfl rfl)
  | addSource s =>
    cases done
    exact chronicled.quiet ⟨rfl, rfl, rfl⟩ (accounts.same rfl rfl)
  | submit completion body =>
    cases done
    refine chronicled.plain ?_ ⟨rfl, rfl, rfl⟩ (accounts.handedIn completion body)
    exact List.forall_mem_singleton.mpr (Host.handedIn_ofCode _ completion body).plain

/-- A run goes on from an operation that comes back. -/
theorem Recorded.next (recorded : Recorded limits limit perTick log m) (op : Operation)
    (done : (op.perform m).1 = .ok ()) :
    Recorded limits limit perTick (log ++ op.incidents m) (op.perform m).2 :=
  .step recorded op (Prod.ext done rfl)

/-- By induction on the run. -/
theorem recorded_chronicled (recorded : Recorded limits limit perTick log m) :
    Chronicled limits limit perTick log m := by
  induction recorded with
  | start tasks events =>
    have empty : Accounted limits.depth limit perTick .idle [] _ :=
      ⟨tasks ▸ TasksAccounted.new limits.depth limit perTick, events.symm⟩
    exact ⟨rfl, ⟨empty, each_nil⟩, ⟨List.nodup_nil, List.forall_mem_nil _⟩,
      fun thread moved => absurd rfl moved⟩
  | step _ op done ih => exact perform_chronicled ih op done

end DeviceBridge.Machine
