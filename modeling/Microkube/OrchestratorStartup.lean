import Microkube.OrchestratorShape

/-!
# Startup: the order of `start()`, and what a `log.Fatal` stops

`start_brings_services_up_in_order`: the constructors are called in the order of `Service.all`;
in every state, the services before a constructed one have started, passed their gate and been
appended to `serviceHandlers` and `serviceList` (`earlier_of_constructed_run`), and when a service
is about to be constructed these lists hold exactly the earlier ones, in order; the gate takes up
to eight startup probes, so seven unhealthy ones and a healthy one let a service through, while
eight unhealthy ones end the run in `startService`, after which no later service is ever
constructed.

`fatal_abort_stops_started_except_bringing_up`: `log.Fatal` writes its entry, then the exit hook
registered in `Run` stops the entries of `serviceHandlers`, and only while
`gracefulTerminationMode` is unset. A service is appended to `serviceHandlers` when `startService`
has returned it, so the service whose startup gate is running has been started and is not stopped
by a `log.Fatal` (`started_service_left_running_at_abort`); after the node is ready no `log.Fatal`
stops anything.

Over whole runs, `Stop()` reaches only started services, in start order
(`stops_in_order_only_started`), and `serviceHandlers` and `serviceList` only grow, until Running
where they hold every service (`service_collections_append_only`).
-/

namespace Microkube.Orchestrator

variable {m : Microkubed}

theorem Pc.constructed_isPrefix_all (p : Pc) : p.constructed <+: Service.all := by
  cases p <;> first
    | exact List.prefix_rfl
    | exact Service.before_append_isPrefix_all _
    | exact (List.prefix_append _ _).trans (Service.before_append_isPrefix_all _)

theorem Shape.retries_lt_eight (h : Shape m) (k : Service) : m.pc.retries k < 8 := by
  cases hpc : m.pc with
  | gate s r =>
    simp only [Pc.retries]
    split_ifs
    · exact h.retries_lt s r hpc
    · decide
  | _ => simp [Pc.retries]

/-- Before a run ends, no service has had eight unhealthy startup probes in a row. -/
theorem Shape.not_eight_unhealthy (h : Shape m) (k : Service) :
    ¬ List.replicate 8 false <+: startupProbes k m.effects := by
  intro h8
  by_cases hk : k ∈ m.pc.gated
  · obtain ⟨n, hn, hp⟩ := h.passed k hk
    rw [hp] at h8
    have hlen := h8.length_le
    simp only [List.length_replicate, List.length_append, List.length_singleton] at hlen
    obtain rfl : n = 7 := by omega
    exact absurd (h8.eq_of_length (by simp)) (by decide)
  · have hlen := (h.pending k hk ▸ h8).length_le
    simp only [List.length_replicate] at hlen
    exact absurd (h.retries_lt_eight k) (by omega)

theorem constructions_run_isPrefix_all (evs : List Event) :
    constructions (run evs).effects <+: Service.all := by
  by_cases hl : (run evs).outcome = none
  · rw [(shape_run evs hl).constructed]; exact Pc.constructed_isPrefix_all _
  · obtain ⟨pre, e, hpre, heq⟩ := run_ended evs hl
    have h := shape_run pre hpre
    rw [heq] at hl ⊢
    obtain ⟨-, ⟨-, hef⟩ | ⟨r, -, hat, hef⟩⟩ := h.react_ended hpre hl
    · rw [hef, h.constructed]; exact Pc.constructed_isPrefix_all _
    · rw [hef]
      cases r with
      | createHandler s =>
        simp only [FatalReason.At] at hat
        simpa [FatalReason.trigger, h.constructed, hat, Pc.constructed]
          using Service.before_append_isPrefix_all s
      | _ => simpa [FatalReason.trigger, h.constructed] using Pc.constructed_isPrefix_all _

/-- Eight unhealthy startup probes of `k` in a row: the run has ended in the `log.Fatal` of
`startService` for `k`, with the constructors up to `k` called. -/
theorem eight_unhealthy_run (evs : List Event) (k : Service)
    (h8 : List.replicate 8 false <+: startupProbes k (run evs).effects) :
    (run evs).outcome = some (.fatal (.notHealthy k)) ∧
      constructions (run evs).effects = k.before ++ [k] := by
  by_cases hl : (run evs).outcome = none
  · exact absurd h8 ((shape_run evs hl).not_eight_unhealthy k)
  · obtain ⟨pre, e, hpre, heq⟩ := run_ended evs hl
    have h := shape_run pre hpre
    rw [heq] at hl h8 ⊢
    obtain ⟨-, ⟨-, hef⟩ | ⟨r, hr, hat, hef⟩⟩ := h.react_ended hpre hl
    · rw [hef] at h8; exact absurd h8 (h.not_eight_unhealthy k)
    · rw [hef] at h8 ⊢
      cases r with
      | notHealthy s =>
        by_cases hs : s = k
        · subst hs
          simp only [FatalReason.At] at hat
          exact ⟨hr, by simp [FatalReason.trigger, h.constructed, hat, Pc.constructed]⟩
        · simp [FatalReason.trigger, hs] at h8; exact absurd h8 (h.not_eight_unhealthy k)
      | _ => simp [FatalReason.trigger] at h8; exact absurd h8 (h.not_eight_unhealthy k)

theorem Service.mem_all (s : Service) : s ∈ Service.all := by
  cases s <;> decide

theorem Service.before_isPrefix_of_mem {k s : Service} (hk : k ∈ s.before) :
    k.before ++ [k] <+: s.before := by
  revert hk; cases k <;> cases s <;> decide

/-- Whatever `Run` has done for a service it has constructed, it has done for every earlier one. -/
theorem Pc.earlier_of_constructed (p : Pc) {k j : Service} (hk : k ∈ p.constructed)
    (hj : j ∈ k.before) : j ∈ p.started ∧ j ∈ p.gated ∧ j ∈ p.handlers ∧ j ∈ p.entries := by
  have upto : ∀ s, k ∈ s.before ++ [s] → j ∈ s.before := fun s hks => by
    rcases List.mem_append.mp hks with hks | hks
    · exact (Service.before_isPrefix_of_mem hks).subset (List.mem_append_left _ hj)
    · rwa [List.mem_singleton.mp hks] at hj
  cases p with
  | construct s =>
    have := upto s (List.mem_append_left _ hk)
    exact ⟨this, this, this, this⟩
  | start s | gate s _ | appendHandler s | appendEntry s =>
    simp [Pc.started, Pc.gated, Pc.handlers, Pc.entries, upto s hk]
  | kubeconfig => simp [Pc.started, Pc.gated, Pc.handlers, Pc.entries, upto _ hk]
  | _ => simp [Pc.started, Pc.gated, Pc.handlers, Pc.entries, Service.mem_all]

theorem Shape.earlier_of_constructed (h : Shape m) {k j : Service}
    (hk : k ∈ constructions m.effects) (hj : j ∈ k.before) :
    j ∈ m.started ∧ j ∈ m.pc.gated ∧ j ∈ m.serviceHandlers ∧ j ∈ m.serviceList := by
  rw [h.started, h.handlers, h.entries]
  exact Pc.earlier_of_constructed _ (h.constructed ▸ hk) hj

theorem FatalReason.construct_of_trigger {r : FatalReason} {p : Pc} (hat : r.At p) {k : Service}
    (hk : k ∈ constructions r.trigger) : p = .construct k := by
  cases r <;> simp [FatalReason.trigger] at hk
  subst hk; exact hat

theorem FatalReason.trigger_probes {r : FatalReason} {p : Pc} (hat : r.At p) {j : Service}
    (hj : j ∈ p.gated) : startupProbes j r.trigger = [] := by
  cases r with
  | notHealthy s =>
    simp only [FatalReason.At] at hat
    subst hat
    have : s ≠ j := fun hs => Service.not_mem_before s (hs ▸ hj)
    simp [FatalReason.trigger, this]
  | _ => simp [FatalReason.trigger]

/-- In every state of every run, the services before one whose constructor has been called have
started, passed their gate and been appended to `serviceHandlers` and `serviceList`. -/
theorem earlier_of_constructed_run (evs : List Event) {k j : Service}
    (hk : k ∈ constructions (run evs).effects) (hj : j ∈ k.before) :
    j ∈ (run evs).started ∧ GatePassed (startupProbes j (run evs).effects) ∧
      j ∈ (run evs).serviceHandlers ∧ j ∈ (run evs).serviceList := by
  by_cases hl : (run evs).outcome = none
  · have h := shape_run evs hl
    obtain ⟨hs, hg, hh, he⟩ := h.earlier_of_constructed hk hj
    exact ⟨hs, h.passed j hg, hh, he⟩
  · obtain ⟨pre, e, hpre, heq⟩ := run_ended evs hl
    have h := shape_run pre hpre
    rw [heq] at hl hk ⊢
    obtain ⟨hfr, ⟨-, hef⟩ | ⟨r, -, hat, hef⟩⟩ := h.react_ended hpre hl
    · rw [hef] at hk
      rw [hfr, hef]
      obtain ⟨hs, hg, hh, he⟩ := h.earlier_of_constructed hk hj
      exact ⟨hs, h.passed j hg, hh, he⟩
    · rw [hef] at hk
      rw [hfr, hef]
      simp only [constructions_append, constructions_map_stop, constructions_cons,
        constructions_nil, List.mem_append, List.append_nil, List.not_mem_nil, or_false] at hk
      obtain ⟨hs, hg, hh, he⟩ : j ∈ (run pre).started ∧ j ∈ (run pre).pc.gated ∧
          j ∈ (run pre).serviceHandlers ∧ j ∈ (run pre).serviceList := by
        rcases hk with hk | hk
        · exact h.earlier_of_constructed hk hj
        · rw [h.started, h.handlers, h.entries, FatalReason.construct_of_trigger hat hk]
          exact ⟨hj, hj, hj, hj⟩
      simpa [FatalReason.trigger_probes hat hg, hs, hh, he] using h.passed j hg

/-- At its gate, a service that has had `r` unhealthy probes stays at the gate through `j` more
as long as fewer than eight have been taken. -/
theorem run_gate_unhealthy (evs : List Event) {k : Service} {r : Nat} (hl : (run evs).outcome = none)
    (hpc : (run evs).pc = .gate k r) : ∀ j, r + j < 8 →
      (run (evs ++ List.replicate j (.main false))).outcome = none ∧
      (run (evs ++ List.replicate j (.main false))).pc = .gate k (r + j) ∧
      (run (evs ++ List.replicate j (.main false))).effects =
        (run evs).effects ++ List.replicate j (.probe k false)
  | 0, _ => by simpa using ⟨hl, hpc⟩
  | j + 1, hj => by
    obtain ⟨hl', hpc', he'⟩ := run_gate_unhealthy evs hl hpc j (by omega)
    rw [List.replicate_succ', ← List.append_assoc, run_append_singleton, step_of_live hl']
    simp only [Microkubed.react, Microkubed.mainStep, hpc', Microkubed.emit, Bool.false_eq_true,
      if_false, if_pos hj, he', List.replicate_succ', List.append_assoc,
      Nat.add_assoc, and_self]
    exact ⟨hl', trivial⟩

/-- The service `startService` has started and not yet returned to its caller. -/
def Pc.bringingUp : Pc → Option Service
  | gate s _ | appendHandler s => some s
  | _ => none

/-- The handlers appended so far are the started services but the one `startService` holds. -/
theorem Pc.started_filter (p : Pc) :
    p.started.filter (fun s => p.bringingUp != some s) = p.handlers := by
  have keep : ∀ s : Service, s.before.filter (fun t => some s != some t) = s.before := fun s =>
    List.filter_eq_self.mpr fun t ht => by
      simpa using fun h : s = t => s.not_mem_before (h ▸ ht)
  cases p <;> simp [Pc.started, Pc.bringingUp, Pc.handlers, keep]

/-- A `log.Fatal` at the step after `evs` logs the call that failed, then the fatal entry, then the
`Stop()` calls of the exit hook; the hook stops every started service except the one
`startService` is bringing up, and nothing once `gracefulTerminationMode` is set. -/
theorem fatal_abort_stops_started_except_bringing_up (evs : List Event) (e : Event) (r : FatalReason)
    (hl : (run evs).outcome = none) (hf : (run (evs ++ [e])).outcome = some (.fatal r)) :
    (run (evs ++ [e])).effects = (run evs).effects ++ r.trigger ++ [.fatal r] ++
      ((run evs).started.filter fun s =>
        !(run evs).gracefulTerminationMode && (run evs).pc.bringingUp != some s).map .stop := by
  have h := shape_run evs hl
  rw [run_append_singleton, step_of_live hl] at hf ⊢
  obtain ⟨-, ⟨ho | ho, -⟩ | ⟨r', hr', -, hef⟩⟩ :=
    h.react_ended hl (show ((run evs).react e).outcome ≠ none by simp [hf])
  · simp [ho] at hf
  · simp [ho] at hf
  · obtain rfl : r' = r := by simpa [hr'] using hf
    rw [hef, Microkubed.exitHook]
    cases (run evs).gracefulTerminationMode
    · simp [h.started, h.handlers, Pc.started_filter]
    · simp

/-- With etcd, kube-apiserver and kube-controller-manager up, the constructor of kube-scheduler
fails: the exit hook stops the three after the fatal entry. -/
theorem scheduler_constructor_abort_stops_earlier :
    (run (List.replicate 16 (.main true))).outcome = none ∧
    (run (List.replicate 16 (.main true) ++ [.main false])).outcome =
      some (.fatal (.createHandler .kubeScheduler)) ∧
    ((run (List.replicate 16 (.main true))).started.filter fun s =>
        !(run (List.replicate 16 (.main true))).gracefulTerminationMode &&
          (run (List.replicate 16 (.main true))).pc.bringingUp != some s) =
      [.etcd, .kubeApiserver, .kubeControllerManager] ∧
    (run (List.replicate 16 (.main true) ++ [.main false])).effects =
      (run (List.replicate 16 (.main true))).effects ++ (FatalReason.createHandler .kubeScheduler).trigger ++
        [.fatal (.createHandler .kubeScheduler)] ++
        ((run (List.replicate 16 (.main true))).started.filter fun s =>
          !(run (List.replicate 16 (.main true))).gracefulTerminationMode &&
            (run (List.replicate 16 (.main true))).pc.bringingUp != some s).map .stop :=
  ⟨by decide, by decide, by decide,
    fatal_abort_stops_started_except_bringing_up _ (.main false) _ (by decide) (by decide)⟩

set_option maxRecDepth 4000 in
/-- Two runs in which a started service that has not exited is never stopped: etcd fails its
startup gate, and later, with every service up and the node ready, etcd fails ten health checks in
a row. -/
theorem started_service_left_running_at_abort :
    (run ([.main true, .main true] ++ List.replicate 8 (.main false))).outcome =
      some (.fatal (.notHealthy .etcd)) ∧
    Service.etcd ∈ (run ([.main true, .main true] ++ List.replicate 8 (.main false))).started ∧
    Service.etcd ∉ (run ([.main true, .main true] ++ List.replicate 8 (.main false))).exited ∧
    Effect.stop .etcd ∉ (run ([.main true, .main true] ++ List.replicate 8 (.main false))).effects ∧
    (run (List.replicate 36 (.main true) ++ List.replicate 10 (.health .etcd false))).outcome =
      some (.fatal (.check .etcd .tooManyFailedHealthChecks)) ∧
    Service.etcd ∉ (run (List.replicate 36 (.main true) ++ List.replicate 10 (.health .etcd false))).exited ∧
    Effect.stop .etcd ∉
      (run (List.replicate 36 (.main true) ++ List.replicate 10 (.health .etcd false))).effects := by
  decide

theorem FatalReason.stops_trigger (r : FatalReason) : stops r.trigger = [] := by
  cases r <;> rfl

/-- What `Run` has stopped at this statement, followed by what a `log.Fatal` there would stop, is
kube-proxy and then services in the order they are started, each once. -/
theorem Pc.stops_sublist (p : Pc) :
    List.Sublist (p.stopped ++ if p.graceful then [] else p.handlers) (.kubeProxy :: Service.all) := by
  have hall : List.Sublist Service.all (.kubeProxy :: Service.all) := List.sublist_cons_self _ _
  have hupto : ∀ s : Service, List.Sublist (s.before ++ [s]) (.kubeProxy :: Service.all) := fun s =>
    (Service.before_append_isPrefix_all s).sublist.trans hall
  have hbefore : ∀ s : Service, List.Sublist s.before (.kubeProxy :: Service.all) := fun s =>
    (List.sublist_append_left _ _).trans (hupto s)
  cases p with
  | construct s | start s | gate s _ | appendHandler s => exact hbefore s
  | kubeconfig => exact hupto _
  | appendEntry s => exact hupto s
  | deferredStop => exact hall
  | newKubeClient | waitForNode | setGraceful | gracePeriod => exact List.Sublist.refl _
  | enableHealthChecks | awaitExit => exact List.singleton_sublist.mpr (List.mem_cons_self _ _)

theorem Pc.stops_started (p : Pc) :
    ∀ s ∈ p.stopped ++ (if p.graceful then [] else p.handlers), s ∈ p.started := by
  intro s hs
  cases p <;> simp_all [Pc.stopped, Pc.graceful, Pc.handlers, Pc.started, Service.mem_all]

/-- In every state, the `Stop()` calls made so far are those of some statement of `Run` and, after
it, those of a `log.Fatal` there. -/
theorem stops_run_sublist (evs : List Event) :
    ∃ p : Pc, List.Sublist (stops (run evs).effects) (p.stopped ++ if p.graceful then [] else p.handlers) ∧
      (run evs).started = p.started := by
  by_cases hl : (run evs).outcome = none
  · have h := shape_run evs hl
    exact ⟨_, h.stopped ▸ List.sublist_append_left _ _, h.started⟩
  · obtain ⟨pre, e, hpre, heq⟩ := run_ended evs hl
    have h := shape_run pre hpre
    rw [heq] at hl ⊢
    obtain ⟨hfr, ⟨-, hef⟩ | ⟨r, -, -, hef⟩⟩ := h.react_ended hpre hl
    · rw [hfr, hef]
      exact ⟨_, h.stopped ▸ List.sublist_append_left _ _, h.started⟩
    · rw [hfr, hef]
      refine ⟨(run pre).pc, ?_, h.started⟩
      simp [FatalReason.stops_trigger, Microkubed.exitHook, h.stopped, h.graceful, h.handlers]

/-- Along every run, whether it ends in `log.Fatal` or not, `Stop()` is called only on services
whose `Start()` has returned `nil`, and in the order kube-proxy, then the services in the order
they are started, each at most once: kube-proxy is stopped at most twice, every other service at
most once. -/
theorem stops_in_order_only_started (evs : List Event) :
    List.Sublist (stops (run evs).effects) (.kubeProxy :: Service.all) ∧
      ∀ s ∈ stops (run evs).effects, s ∈ (run evs).started := by
  obtain ⟨p, hsub, hst⟩ := stops_run_sublist evs
  exact ⟨hsub.trans p.stops_sublist, fun s hs => hst ▸ p.stops_started s (hsub.subset hs)⟩

theorem Pc.collections_isPrefix_all (p : Pc) : p.handlers <+: Service.all ∧ p.entries <+: Service.all := by
  have hbefore : ∀ s : Service, s.before <+: Service.all := fun s =>
    (List.prefix_append _ _).trans (Service.before_append_isPrefix_all s)
  cases p with
  | construct s | start s | gate s _ | appendHandler s => exact ⟨hbefore s, hbefore s⟩
  | kubeconfig => exact ⟨Service.before_append_isPrefix_all _, hbefore _⟩
  | appendEntry s => exact ⟨Service.before_append_isPrefix_all s, hbefore s⟩
  | _ => exact ⟨List.prefix_rfl, List.prefix_rfl⟩

theorem Pc.collections_of_notified {p : Pc} (hp : p.notified = true) :
    p.handlers = Service.all ∧ p.entries = Service.all := by
  cases p <;> simp_all [Pc.notified, Pc.handlers, Pc.entries]

/-- A step appends to `serviceHandlers` and `serviceList` or leaves them alone. -/
theorem Microkubed.react_collections (m : Microkubed) (e : Event) :
    m.serviceHandlers <+: (m.react e).serviceHandlers ∧ m.serviceList <+: (m.react e).serviceList := by
  obtain ⟨pc, g, handlers, entries, started, exited, queued, counts, shutdown, outcome, effects⟩ := m
  cases e with
  | main ok =>
    simp only [Microkubed.react, Microkubed.mainStep]
    cases pc <;> dsimp only <;> (try split_ifs) <;>
      simp only [Microkubed.fatal, Microkubed.emit, List.prefix_append, List.prefix_rfl, and_self]
  | exit s =>
    simp only [Microkubed.react, Microkubed.exitHandler]
    split_ifs <;> simp [Microkubed.fatal, Microkubed.emit]
  | sigint => simp only [Microkubed.react, Microkubed.sigint]; split <;> simp
  | sigterm => simp [Microkubed.react, Microkubed.sigterm]
  | drained => simp only [Microkubed.react, Microkubed.drainDone]; split_ifs <;> simp [Microkubed.emit]
  | health s b =>
    simp only [Microkubed.react, Microkubed.checkHealth, Microkubed.check]
    split <;> try split
    all_goals simp [Microkubed.fatal]
  | exitNotice s =>
    simp only [Microkubed.react, Microkubed.takeExitNotice, Microkubed.check]
    split <;> try split_ifs
    all_goals (try split) <;> simp [Microkubed.fatal]

theorem run_collections_prefix (evs more : List Event) :
    (run evs).serviceHandlers <+: (run (evs ++ more)).serviceHandlers ∧
      (run evs).serviceList <+: (run (evs ++ more)).serviceList := by
  induction more using List.reverseRecOn with
  | nil => simp
  | append_singleton more e ih =>
    rw [← List.append_assoc, run_append_singleton]
    by_cases hl : (run (evs ++ more)).outcome = none
    · rw [step_of_live hl]
      exact ⟨ih.1.trans (Microkubed.react_collections _ e).1, ih.2.trans (Microkubed.react_collections _ e).2⟩
    · rwa [step_of_ended hl]

/-- In every state, the collections and the shutdown goroutine are those of some statement of
`Run`. -/
theorem collections_run (evs : List Event) :
    ∃ p : Pc, (run evs).serviceHandlers = p.handlers ∧ (run evs).serviceList = p.entries ∧
      ((run evs).shutdown = .notRegistered ↔ p.notified = false) := by
  by_cases hl : (run evs).outcome = none
  · have h := shape_run evs hl
    exact ⟨_, h.handlers, h.entries, h.registered⟩
  · obtain ⟨pre, e, hpre, heq⟩ := run_ended evs hl
    have h := shape_run pre hpre
    rw [heq] at hl ⊢
    rw [(h.react_ended hpre hl).1]
    exact ⟨_, h.handlers, h.entries, h.registered⟩

/-- The managed-service collections are append-only: along every run, `serviceHandlers` and
`serviceList` in any state are prefixes of what they are in any later state, and once the run has
left Starting both hold every service, in the order `start()` brings them up, and change no more. -/
theorem service_collections_append_only (evs more : List Event) :
    (run evs).serviceHandlers <+: (run (evs ++ more)).serviceHandlers ∧
      (run evs).serviceList <+: (run (evs ++ more)).serviceList ∧
      ((run evs).phase ≠ .starting →
        (run (evs ++ more)).serviceHandlers = Service.all ∧
          (run (evs ++ more)).serviceList = Service.all) := by
  obtain ⟨hh, he⟩ := run_collections_prefix evs more
  refine ⟨hh, he, fun hs => ?_⟩
  obtain ⟨p, hph, hpe, hpn⟩ := collections_run evs
  obtain ⟨p', hph', hpe', -⟩ := collections_run (evs ++ more)
  have hn : p.notified = true := by
    by_contra hn
    exact hs (by simp [Microkubed.phase, hpn.mpr (by simpa using hn)])
  obtain ⟨hall, hall'⟩ := Pc.collections_of_notified hn
  obtain ⟨hbh, hbe⟩ := p'.collections_isPrefix_all
  rw [hph, hall, hph'] at hh
  rw [hpe, hall', hpe'] at he
  rw [hph', hpe']
  exact ⟨hbh.eq_of_length (le_antisymm hbh.length_le hh.length_le),
    hbe.eq_of_length (le_antisymm hbe.length_le he.length_le)⟩

end Microkube.Orchestrator
