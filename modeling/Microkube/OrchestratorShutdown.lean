import Microkube.OrchestratorStartup

/-!
# Node readiness, exits and shutdown

`waitUntilNodeReady` starts the shutdown goroutine, passes SIGINT to `signal.Notify` and only then
sets `gracefulTerminationMode`; `enableHealthChecks` then starts the `checkService` goroutines.
From `Shape`:

* the phase moves only along the transitions of the spec's state machine `PhaseStep`, each caused
  by its event (`phase_advances_in_order`);
* from every state of Starting, `Run` reaches Running after at most 34 statements of its own when
  its calls succeed and no other goroutine steps in; on the way the deferred `Stop()` of
  `startKubeProxy` is called, and the exit of kube-proxy it asks for aborts the run
  (`startup_reaches_running`, with the ranking function `Pc.untilRunning`);
* an exit of a started process ends the run exactly during Starting and at the one statement of
  Running before `gracefulTerminationMode` is set, and an exit notice that a `checkService`
  goroutine takes never does (`exit_fatal_iff_starting_or_before_graceful`);
* outside `log.Fatal`, `Run` calls `Stop()` on kube-proxy when `start()` returns, and on every
  service once `DrainNode` has returned (`stops_outside_fatal`);
* from every state of Running, SIGINT, the return of `DrainNode` and the statements `Run` has left
  finish the run, stopping every service after the drain, while SIGTERM ends it at once with
  nothing stopped (`shutdown_drains_then_stops_all`).
-/

namespace Microkube.Orchestrator
open CheckService

variable {m : Microkubed}

theorem Microkubed.exitHandler_pc (m : Microkubed) (s : Service) : (m.exitHandler s).pc = m.pc := by
  unfold Microkubed.exitHandler; dsimp only; split_ifs <;> rfl

theorem Microkubed.exitHandler_shutdown (m : Microkubed) (s : Service) :
    (m.exitHandler s).shutdown = m.shutdown := by
  unfold Microkubed.exitHandler; dsimp only; split_ifs <;> rfl

theorem Microkubed.check_pc (m : Microkubed) (s : Service) (n : Nat) (r : Received) :
    (m.check s n r).pc = m.pc := by
  unfold Microkubed.check; split <;> rfl

theorem Microkubed.check_shutdown (m : Microkubed) (s : Service) (n : Nat) (r : Received) :
    (m.check s n r).shutdown = m.shutdown := by
  unfold Microkubed.check; split <;> rfl

theorem Microkubed.checkHealth_frame (m : Microkubed) (s : Service) (b : Bool) :
    (m.checkHealth s b).pc = m.pc ∧ (m.checkHealth s b).shutdown = m.shutdown := by
  unfold Microkubed.checkHealth; split
  · exact ⟨rfl, rfl⟩
  · exact ⟨m.check_pc .., m.check_shutdown ..⟩

theorem Microkubed.takeExitNotice_frame (m : Microkubed) (s : Service) :
    (m.takeExitNotice s).pc = m.pc ∧ (m.takeExitNotice s).shutdown = m.shutdown := by
  unfold Microkubed.takeExitNotice; split
  · split_ifs
    · exact ⟨Microkubed.check_pc .., Microkubed.check_shutdown ..⟩
    · exact ⟨rfl, rfl⟩
  · exact ⟨rfl, rfl⟩

theorem Microkubed.phase_congr {m' : Microkubed} (hpc : m'.pc = m.pc)
    (hs : m'.shutdown = m.shutdown) : m'.phase = m.phase := by
  simp only [Microkubed.phase, hpc, hs]

/-- The spec's graceful-termination state machine: its three transitions, each with the event that
causes it. A statement of `Run` (`WaitForNode`) makes the node ready, SIGINT starts the drain, and
a statement of `Run` (the `Stop()` loop) ends it; no transition skips a phase. -/
inductive PhaseStep : Phase → Event → Phase → Prop
  | nodeReady (ok : Bool) : PhaseStep .starting (.main ok) .running
  | sigint : PhaseStep .running .sigint .draining
  | stopAll (ok : Bool) : PhaseStep .draining (.main ok) .stopped

theorem Microkubed.phase_eq_starting_iff (m : Microkubed) :
    m.phase = .starting ↔ m.shutdown = .notRegistered := by
  unfold Microkubed.phase; split <;> simp_all; split_ifs <;> simp

theorem Microkubed.phase_eq_running_iff (m : Microkubed) :
    m.phase = .running ↔ m.shutdown = .waiting := by
  unfold Microkubed.phase; split <;> simp_all; split_ifs <;> simp

/-- Each step keeps the phase or takes a transition of the spec's state machine. -/
theorem Shape.phase_react (h : Shape m) (e : Event) :
    (m.react e).phase = m.phase ∨ PhaseStep m.phase e (m.react e).phase := by
  have hd := h.drained
  have hn := h.registered
  cases e with
  | main ok =>
    obtain ⟨pc, g, handlers, entries, started, exited, queued, counts, shutdown, outcome, effects⟩ := m
    unfold Microkubed.react Microkubed.mainStep
    dsimp only at hd hn
    cases pc with
    | waitForNode =>
      right; rw [hn.mpr rfl]; exact .nodeReady ok
    | awaitExit =>
      dsimp only; split_ifs with hdr
      · right; subst hdr; exact .stopAll ok
      · left; rfl
    | construct | start | gate | appendHandler | kubeconfig | newKubeClient =>
      dsimp only; split_ifs <;> exact .inl rfl
    | appendEntry s => cases s <;> exact .inl rfl
    | _ => exact .inl rfl
  | exit s => exact .inl (Microkubed.phase_congr (m.exitHandler_pc s) (m.exitHandler_shutdown s))
  | sigint =>
    simp only [Microkubed.react, Microkubed.sigint]
    split
    · exact .inl rfl
    · rename_i hw
      have hpc : m.pc ≠ .gracePeriod := fun hg => by simp [hd hg] at hw
      have hrun : m.phase = .running := by simp [Microkubed.phase, hw]
      have hdrain : ({ m with shutdown := .draining } : Microkubed).phase = .draining := by
        simp [Microkubed.phase, hpc]
      right; rw [hrun, hdrain]; exact .sigint
    · exact .inl rfl
  | sigterm => exact .inl rfl
  | drained =>
    simp only [Microkubed.react, Microkubed.drainDone]
    split_ifs with hdr
    · left; simp [Microkubed.phase, hdr]
    · exact .inl rfl
  | health s b =>
    exact .inl (Microkubed.phase_congr (m.checkHealth_frame s b).1 (m.checkHealth_frame s b).2)
  | exitNotice s =>
    exact .inl (Microkubed.phase_congr (m.takeExitNotice_frame s).1 (m.takeExitNotice_frame s).2)

/-- Along every run the phase goes Starting, Running, Draining, Stopped, one step at a time and only
by the spec's transitions: Starting to Running at a statement of `Run`, Running to Draining on
SIGINT, Draining to Stopped at a statement of `Run`. -/
theorem phase_advances_in_order (evs : List Event) (e : Event) :
    (run (evs ++ [e])).phase = (run evs).phase ∨
      PhaseStep (run evs).phase e (run (evs ++ [e])).phase := by
  rw [run_append_singleton]
  by_cases hl : (run evs).outcome = none
  · rw [step_of_live hl]; exact (shape_run evs hl).phase_react e
  · rw [step_of_ended hl]; exact .inl rfl

theorem Pc.graceful_eq_false_iff (p : Pc) :
    p.graceful = false ↔ p.notified = false ∨ p = .setGraceful := by
  cases p <;> simp [Pc.graceful, Pc.notified]

/-- While startup goes on, the exit of a started process ends the run. -/
theorem Shape.exit_fatal (h : Shape m) {s : Service} (hs : s ∈ m.started) (hg : m.pc.graceful = false) :
    (m.react (.exit s)).outcome = some (.fatal (.exitedDuringStartup s)) := by
  simp [Microkubed.react, Microkubed.exitHandler, hs, h.exited hg, h.graceful, hg]

/-- The exit of a started process that has not exited before ends the run exactly during Starting
and at the statement of Running that sets `gracefulTerminationMode`; a `checkService` goroutine
that takes a waiting exit notice removes it from its channel and the run goes on. -/
theorem exit_fatal_iff_starting_or_before_graceful (evs : List Event) (hl : (run evs).outcome = none) :
    (∀ s ∈ (run evs).started, s ∉ (run evs).exited →
      ((run (evs ++ [.exit s])).outcome ≠ none ↔
        (run evs).phase = .starting ∨ (run evs).pc = .setGraceful)) ∧
    (∀ s ∈ (run evs).exitQueued, (run evs).unhealthyCount s ≠ none →
      (run (evs ++ [.exitNotice s])).outcome = none ∧
        (run (evs ++ [.exitNotice s])).exitQueued = (run evs).exitQueued.erase s) := by
  have h := shape_run evs hl
  simp only [run_append_singleton, step_of_live hl]
  constructor
  · intro s hs hx
    rw [Microkubed.phase_eq_starting_iff, h.registered, ← Pc.graceful_eq_false_iff, ← h.graceful]
    simp only [Microkubed.react, Microkubed.exitHandler, if_pos (And.intro hs hx)]
    cases hg : (run evs).gracefulTerminationMode <;> simp [hl, hg]
  · intro s hq hn
    obtain ⟨n, hn⟩ := Option.ne_none_iff_exists'.mp hn
    simp [Microkubed.react, Microkubed.takeExitNotice, Microkubed.check, checkServiceStep, hn, hq,
      h.graceful_of_monitor hn, hl]

/-- With every service up and the node ready, etcd has exited and its notice waits: an exit of
kube-apiserver is no longer fatal, and etcd's `checkService` goroutine takes the notice. -/
theorem exit_then_notice_after_startup :
    (run (List.replicate 36 (.main true) ++ [.exit .etcd])).outcome = none ∧
    Service.kubeApiserver ∈ (run (List.replicate 36 (.main true) ++ [.exit .etcd])).started ∧
    Service.kubeApiserver ∉ (run (List.replicate 36 (.main true) ++ [.exit .etcd])).exited ∧
    Service.etcd ∈ (run (List.replicate 36 (.main true) ++ [.exit .etcd])).exitQueued ∧
    (run (List.replicate 36 (.main true) ++ [.exit .etcd])).unhealthyCount .etcd ≠ none ∧
    ((run (List.replicate 36 (.main true) ++ [.exit .etcd] ++ [.exit .kubeApiserver])).outcome ≠ none ↔
      (run (List.replicate 36 (.main true) ++ [.exit .etcd])).phase = .starting ∨
        (run (List.replicate 36 (.main true) ++ [.exit .etcd])).pc = .setGraceful) ∧
    (run (List.replicate 36 (.main true) ++ [.exit .etcd] ++ [.exitNotice .etcd])).outcome = none ∧
    (run (List.replicate 36 (.main true) ++ [.exit .etcd] ++ [.exitNotice .etcd])).exitQueued =
      (run (List.replicate 36 (.main true) ++ [.exit .etcd])).exitQueued.erase .etcd :=
  have hl : (run (List.replicate 36 (.main true) ++ [.exit .etcd])).outcome = none := by decide
  ⟨hl, by decide, by decide, by decide, by decide,
    (exit_fatal_iff_starting_or_before_graceful _ hl).1 _ (by decide) (by decide),
    (exit_fatal_iff_starting_or_before_graceful _ hl).2 _ (by decide) (by decide)⟩

/-- The statements `Run` executes from the constructor call of `s` until the shutdown goroutine
listens, every call succeeding: five for each service from `s` on (six for kube-apiserver, which
also writes the kubeconfig), then the deferred `Stop()`, `NewKubeClient` and `WaitForNode`. -/
def Service.untilRunning (s : Service) : Nat :=
  5 * (6 - s.before.length) + (if s.before.length ≤ 1 then 1 else 0) + 3

/-- The statements `Run` executes from `p` until the shutdown goroutine listens, every call
succeeding: a ranking function for `start()` and `waitUntilNodeReady`. -/
def Pc.untilRunning : Pc → Nat
  | .construct s => s.untilRunning
  | .start s => s.untilRunning - 1
  | .gate s _ => s.untilRunning - 2
  | .appendHandler s => s.untilRunning - 3
  | .kubeconfig => Service.kubeApiserver.untilRunning - 4
  | .appendEntry s => s.untilRunning - if s = .kubeApiserver then 5 else 4
  | .deferredStop => 3
  | .newKubeClient => 2
  | .waitForNode => 1
  | _ => 0

theorem Pc.untilRunning_le (p : Pc) : p.untilRunning ≤ 34 := by
  have h : ∀ s : Service, s.untilRunning ≤ 34 := by intro s; cases s <;> decide
  cases p with
  | construct s | start s | gate s _ | appendHandler s | appendEntry s =>
    have := h s
    simp only [Pc.untilRunning]; (try split_ifs) <;> omega
  | _ => decide

example : init.pc.untilRunning = 34 := rfl

theorem Pc.untilRunning_pos (p : Pc) (hn : p.notified = false) : 0 < p.untilRunning := by
  have h : ∀ s : Service, 8 ≤ s.untilRunning := by intro s; cases s <;> decide
  cases p with
  | construct s | start s | gate s _ | appendHandler s | appendEntry s =>
    have := h s
    simp only [Pc.untilRunning]; (try split_ifs) <;> omega
  | kubeconfig | deferredStop | newKubeClient | waitForNode => decide
  | _ => simp [Pc.notified] at hn

/-- Before the shutdown goroutine listens, a statement of `Run` whose call succeeds does not end the
run and brings `Run` one statement closer; the last one, `WaitForNode`, starts the shutdown
goroutine. -/
theorem Microkubed.mainStep_true_untilRunning (m : Microkubed) (hn : m.pc.notified = false) :
    (m.mainStep true).outcome = m.outcome ∧
    (m.mainStep true).pc.untilRunning + 1 = m.pc.untilRunning ∧
    ((m.mainStep true).pc.notified = false ∨
      (m.mainStep true).pc = .setGraceful ∧ (m.mainStep true).shutdown = .waiting) := by
  obtain ⟨pc, g, handlers, entries, started, exited, queued, counts, shutdown, outcome, effects⟩ := m
  cases pc with
  | construct s | start s | gate s _ | appendHandler s | appendEntry s =>
    cases s <;> exact ⟨rfl, rfl, .inl rfl⟩
  | kubeconfig | deferredStop | newKubeClient => exact ⟨rfl, rfl, .inl rfl⟩
  | waitForNode => exact ⟨rfl, rfl, .inr ⟨rfl, rfl⟩⟩
  | _ => simp [Pc.notified] at hn

/-- Before the shutdown goroutine listens, each of the next `Pc.untilRunning` statements of `Run`,
its call succeeding, brings it one statement closer without ending the run, until it is at the
statement after `WaitForNode` with the shutdown goroutine listening. -/
theorem run_main_toward_running (evs : List Event) (hl : (run evs).outcome = none)
    (hn : (run evs).pc.notified = false) : ∀ j ≤ (run evs).pc.untilRunning,
      (run (evs ++ List.replicate j (.main true))).outcome = none ∧
      (run (evs ++ List.replicate j (.main true))).pc.untilRunning + j = (run evs).pc.untilRunning ∧
      ((run (evs ++ List.replicate j (.main true))).pc.notified = false ∨
        (run (evs ++ List.replicate j (.main true))).pc = .setGraceful ∧
          (run (evs ++ List.replicate j (.main true))).shutdown = .waiting)
  | 0, _ => by simpa using ⟨hl, .inl hn⟩
  | j + 1, hj => by
    obtain ⟨hl', hu', hnext⟩ := run_main_toward_running evs hl hn j (by omega)
    rw [List.replicate_succ', ← List.append_assoc, run_append_singleton, step_of_live hl']
    rcases hnext with hn' | ⟨hpc, -⟩
    · obtain ⟨ho, hdec, hfin⟩ := (run (evs ++ List.replicate j (.main true))).mainStep_true_untilRunning hn'
      exact ⟨ho.trans hl', by simp only [Microkubed.react]; omega, hfin⟩
    · rw [hpc, show Pc.setGraceful.untilRunning = 0 from rfl] at hu'
      omega

/-- From every state of Starting a run reaches, `Run` gets to Running after at most 34 statements of
its own when every call it makes succeeds and no other goroutine steps in; it is then at the
statement that sets `gracefulTerminationMode`. On the way, `start()` returns and the deferred
`Stop()` of `startKubeProxy` is called on kube-proxy; from then until Running is reached, the exit
of kube-proxy that this `Stop()` asks for ends the run in `log.Fatal`. -/
theorem startup_reaches_running (evs : List Event) (hl : (run evs).outcome = none)
    (hs : (run evs).phase = .starting) :
    (run evs).pc.untilRunning ≤ 34 ∧
    (run (evs ++ List.replicate (run evs).pc.untilRunning (.main true))).outcome = none ∧
    (run (evs ++ List.replicate (run evs).pc.untilRunning (.main true))).phase = .running ∧
    (run (evs ++ List.replicate (run evs).pc.untilRunning (.main true))).pc = .setGraceful ∧
    Effect.stop .kubeProxy ∈ (run (evs ++ List.replicate (run evs).pc.untilRunning (.main true))).effects ∧
    ∀ j ≤ (run evs).pc.untilRunning,
      Effect.stop .kubeProxy ∈ (run (evs ++ List.replicate j (.main true))).effects →
      (run (evs ++ List.replicate j (.main true) ++ [.exit .kubeProxy])).outcome =
        some (.fatal (.exitedDuringStartup .kubeProxy)) := by
  have hn : (run evs).pc.notified = false :=
    (shape_run evs hl).registered.mp ((Microkubed.phase_eq_starting_iff _).mp hs)
  have htoward := run_main_toward_running evs hl hn
  obtain ⟨ho, hu, hfin⟩ := htoward _ le_rfl
  obtain ⟨hpc, hsd⟩ : (run (evs ++ List.replicate (run evs).pc.untilRunning (.main true))).pc =
      .setGraceful ∧ (run (evs ++ List.replicate (run evs).pc.untilRunning (.main true))).shutdown =
      .waiting := by
    refine hfin.resolve_left fun hf => ?_
    have := Pc.untilRunning_pos _ hf
    omega
  refine ⟨Pc.untilRunning_le _, ho, by simp [Microkubed.phase, hsd], hpc, ?_, fun j hj hstop => ?_⟩
  · have hst := (shape_run _ ho).stopped
    rw [hpc] at hst
    exact mem_stops.mp (by simp [hst, Pc.stopped])
  · obtain ⟨hoj, -, hfj⟩ := htoward j hj
    have h := shape_run _ hoj
    have hg : (run (evs ++ List.replicate j (.main true))).pc.graceful = false :=
      (Pc.graceful_eq_false_iff _).mpr (hfj.imp_right And.left)
    have hk : Service.kubeProxy ∈ (run (evs ++ List.replicate j (.main true))).started := by
      rw [h.started]
      exact Pc.stops_started _ _ (List.mem_append_left _ (h.stopped ▸ mem_stops.mpr hstop))
    rw [run_append_singleton, step_of_live hoj]
    exact h.exit_fatal hk hg

/-- From the start, 34 successful statements bring `Run` to Running. -/
theorem startup_from_init_reaches_running :
    (run []).outcome = none ∧ (run []).phase = .starting ∧
    ((run []).pc.untilRunning ≤ 34 ∧
      (run ([] ++ List.replicate (run []).pc.untilRunning (.main true))).outcome = none ∧
      (run ([] ++ List.replicate (run []).pc.untilRunning (.main true))).phase = .running ∧
      (run ([] ++ List.replicate (run []).pc.untilRunning (.main true))).pc = .setGraceful ∧
      Effect.stop .kubeProxy ∈ (run ([] ++ List.replicate (run []).pc.untilRunning (.main true))).effects ∧
      ∀ j ≤ (run []).pc.untilRunning,
        Effect.stop .kubeProxy ∈ (run ([] ++ List.replicate j (.main true))).effects →
        (run ([] ++ List.replicate j (.main true) ++ [.exit .kubeProxy])).outcome =
          some (.fatal (.exitedDuringStartup .kubeProxy))) :=
  ⟨rfl, rfl, startup_reaches_running [] rfl rfl⟩

/-- Outside `log.Fatal`, `Run` calls `Stop()` on kube-proxy when `start()` returns, then on every
service once it has left `<-exitChan`, which it does only after `DrainNode` has returned. -/
theorem stops_outside_fatal (evs : List Event) (hf : ∀ r, (run evs).outcome ≠ some (.fatal r)) :
    stops (run evs).effects = (run evs).pc.stopped ∧
      ((run evs).pc = .gracePeriod → (run evs).shutdown = .drained) := by
  by_cases hl : (run evs).outcome = none
  · have h := shape_run evs hl
    exact ⟨h.stopped, h.drained⟩
  · obtain ⟨pre, e, hpre, heq⟩ := run_ended evs hl
    have h := shape_run pre hpre
    rw [heq] at hl hf ⊢
    obtain ⟨hfr, ⟨-, hef⟩ | ⟨r, hr, -⟩⟩ := h.react_ended hpre hl
    · rw [hfr, hef]; exact ⟨h.stopped, h.drained⟩
    · exact absurd hr (hf r)

set_option maxRecDepth 4000 in
/-- A run that drains the node and finishes: kube-proxy is stopped twice, every service once. -/
theorem drained_run_stops :
    (∀ r, (run (List.replicate 36 (.main true) ++ [.sigint, .drained, .main true, .main true])).outcome ≠
      some (.fatal r)) ∧
    (stops (run (List.replicate 36 (.main true) ++ [.sigint, .drained, .main true, .main true])).effects =
        (run (List.replicate 36 (.main true) ++ [.sigint, .drained, .main true, .main true])).pc.stopped ∧
      ((run (List.replicate 36 (.main true) ++ [.sigint, .drained, .main true, .main true])).pc =
          .gracePeriod →
        (run (List.replicate 36 (.main true) ++ [.sigint, .drained, .main true, .main true])).shutdown =
          .drained)) :=
  have hfin : (run (List.replicate 36 (.main true) ++ [.sigint, .drained, .main true, .main true])).outcome =
      some .finished := by decide
  ⟨(fun r h => by rw [hfin] at h; cases h),
    stops_outside_fatal _ (fun r h => by rw [hfin] at h; cases h)⟩

/-- The statements `Run` executes, once `DrainNode` has returned, until it returns. -/
def Pc.untilFinished : Pc → Nat
  | .setGraceful => 4
  | .enableHealthChecks => 3
  | .awaitExit => 2
  | .gracePeriod => 1
  | _ => 0

/-- From every state of Running a run reaches, SIGINT, the return of `DrainNode` and the statements
`Run` has left finish the run; the node is drained first, then every service is stopped, in the
order they were started. SIGTERM instead ends the program at once: nothing is drained or stopped,
and no later event changes anything. -/
theorem shutdown_drains_then_stops_all (evs : List Event) (hl : (run evs).outcome = none)
    (hr : (run evs).phase = .running) :
    (run (evs ++ [.sigint, .drained] ++ List.replicate (run evs).pc.untilFinished (.main true))).outcome =
      some .finished ∧
    (run (evs ++ [.sigint, .drained] ++ List.replicate (run evs).pc.untilFinished (.main true))).effects =
      (run evs).effects ++ [.drain] ++ Service.all.map .stop ∧
    ∀ more, run (evs ++ .sigterm :: more) = { run evs with outcome := some .interrupted } := by
  have h := shape_run evs hl
  have hterm : run (evs ++ [.sigterm]) = { run evs with outcome := some .interrupted } := by
    rw [run_append_singleton, step_of_live hl]; rfl
  refine and_assoc.mp ⟨?_, fun more => ?_⟩
  · rw [run_append, run_append]
    generalize run evs = m at h hl hr
    obtain ⟨pc, g, handlers, entries, started, exited, queued, counts, shutdown, outcome, effects⟩ := m
    have hw : shutdown = .waiting := (Microkubed.phase_eq_running_iff _).mp hr
    have hd := h.drained
    have hn := h.registered
    have hh := h.handlers
    dsimp only at hl hd hn hh
    subst hl hw hh
    cases pc with
    | setGraceful | enableHealthChecks | awaitExit =>
      simp [Pc.untilFinished, List.replicate, step, Microkubed.react, Microkubed.sigint,
        Microkubed.drainDone, Microkubed.mainStep, Microkubed.emit, Pc.handlers]
    | gracePeriod => cases hd rfl
    | _ => simp [Pc.notified] at hn
  · rw [← List.singleton_append, ← List.append_assoc, run_append_of_ended (by simp [hterm]), hterm]

/-- A run that is in Running after 34 successful statements of `Run`. -/
theorem shutdown_after_startup_drains_then_stops_all :
    (run (List.replicate 34 (.main true))).outcome = none ∧
    (run (List.replicate 34 (.main true))).phase = .running ∧
    ((run (List.replicate 34 (.main true) ++ [.sigint, .drained] ++
        List.replicate (run (List.replicate 34 (.main true))).pc.untilFinished (.main true))).outcome =
      some .finished ∧
    (run (List.replicate 34 (.main true) ++ [.sigint, .drained] ++
        List.replicate (run (List.replicate 34 (.main true))).pc.untilFinished (.main true))).effects =
      (run (List.replicate 34 (.main true))).effects ++ [.drain] ++ Service.all.map .stop ∧
    ∀ more, run (List.replicate 34 (.main true) ++ .sigterm :: more) =
      { run (List.replicate 34 (.main true)) with outcome := some .interrupted }) :=
  have hl : (run (List.replicate 34 (.main true))).outcome = none := by decide
  have hr : (run (List.replicate 34 (.main true))).phase = .running := by decide
  ⟨hl, hr, shutdown_drains_then_stops_all _ hl hr⟩

/-- All six services come up at their first probe, the kube client is created and the node is
ready; then etcd's process exits in Running and `checkService` takes the exit: the run goes on. -/
theorem etcd_exit_while_running_not_fatal :
    (run (List.replicate 36 (.main true))).phase = .running ∧
    Effect.exit .etcd ∈ (run (List.replicate 36 (.main true) ++ [.exit .etcd, .exitNotice .etcd])).effects ∧
    (run (List.replicate 36 (.main true) ++ [.exit .etcd, .exitNotice .etcd])).outcome = none := by
  decide

/-- When `start()` returns, the deferred `Stop()` of `startKubeProxy` has stopped kube-proxy in the
Starting phase; if its process then exits, the exit handler aborts the program. -/
theorem kube_proxy_stopped_while_starting :
    (run (List.replicate 32 (.main true))).phase = .starting ∧
    (run (List.replicate 32 (.main true))).outcome = none ∧
    Effect.stop .kubeProxy ∈ (run (List.replicate 32 (.main true))).effects ∧
    (run (List.replicate 32 (.main true) ++ [.exit .kubeProxy])).outcome =
      some (.fatal (.exitedDuringStartup .kubeProxy)) := by
  decide

end Microkube.Orchestrator
