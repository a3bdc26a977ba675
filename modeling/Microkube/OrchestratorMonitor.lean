import Microkube.OrchestratorShape

/-!
# The `checkService` goroutines refine the loop `checkService`

`CheckService.checkService` is the loop of one `checkService` goroutine, run on the list of
messages it takes. In the orchestrator the goroutine of `s` is the counter `unhealthyCount s`,
stepped by `Microkubed.check` whenever the goroutine takes a health message or an exit notice.
`received s evs` is the list of messages that goroutine has taken along a run, and
`monitor_refines_checkService` says the two agree: the counter is what the loop computes, in
graceful termination mode, over those messages, and the run ends in that goroutine's `log.Fatal`
only where the loop does. So what `checkService_fatal_at_tenth_unhealthy` says of the loop holds of
every run of the orchestrator.
-/

namespace Microkube.Orchestrator
open CheckService

/-- The message the `checkService` goroutine of `s` takes when `e` happens in `m`, if any. -/
def Microkubed.taken (m : Microkubed) (s : Service) : Event → List Received
  | .health t b => if t = s ∧ m.unhealthyCount s ≠ none then [.health b] else []
  | .exitNotice t => if t = s ∧ m.unhealthyCount s ≠ none ∧ s ∈ m.exitQueued then [.exit] else []
  | _ => []

/-- The messages the goroutine of `s` takes along the events, from the state `m` on. -/
def receivedFrom (s : Service) : Microkubed → List Event → List Received
  | _, [] => []
  | m, e :: evs => (if m.outcome = none then m.taken s e else []) ++ receivedFrom s (step m e) evs

/-- The messages the goroutine of `s` has taken along a run. -/
def received (s : Service) (evs : List Event) : List Received := receivedFrom s init evs

theorem receivedFrom_append_singleton (s : Service) (e : Event) (evs : List Event) :
    ∀ m, receivedFrom s m (evs ++ [e]) = receivedFrom s m evs ++
      (if (evs.foldl step m).outcome = none then (evs.foldl step m).taken s e else []) := by
  induction evs with
  | nil => intro m; simp [receivedFrom]
  | cons e' evs ih => intro m; simp [receivedFrom, ih]

theorem received_append_singleton (s : Service) (evs : List Event) (e : Event) :
    received s (evs ++ [e]) =
      received s evs ++ (if (run evs).outcome = none then (run evs).taken s e else []) :=
  receivedFrom_append_singleton s e evs init

variable {m : Microkubed}

theorem Microkubed.mainStep_unhealthyCount (m : Microkubed) (ok : Bool)
    (hpc : m.pc ≠ .enableHealthChecks) : (m.mainStep ok).unhealthyCount = m.unhealthyCount := by
  obtain ⟨pc, g, handlers, entries, started, exited, queued, counts, shutdown, outcome, effects⟩ := m
  unfold Microkubed.mainStep
  cases pc <;> dsimp only <;> (try split_ifs) <;> first | rfl | exact absurd rfl hpc

theorem Microkubed.exitHandler_unhealthyCount (m : Microkubed) (s : Service) :
    (m.exitHandler s).unhealthyCount = m.unhealthyCount := by
  unfold Microkubed.exitHandler; dsimp only; split_ifs <;> rfl

theorem Microkubed.sigint_unhealthyCount (m : Microkubed) :
    m.sigint.unhealthyCount = m.unhealthyCount := by
  unfold Microkubed.sigint; split <;> rfl

theorem Microkubed.drainDone_unhealthyCount (m : Microkubed) :
    m.drainDone.unhealthyCount = m.unhealthyCount := by
  unfold Microkubed.drainDone; split_ifs <;> rfl

theorem Microkubed.check_unhealthyCount_of_ne (m : Microkubed) {s t : Service} (hts : t ≠ s)
    (n : Nat) (r : Received) : (m.check t n r).unhealthyCount s = m.unhealthyCount s := by
  unfold Microkubed.check; split
  · rfl
  · exact Function.update_noteq (Ne.symm hts) _ _

theorem Microkubed.check_outcome_of_ne (m : Microkubed) (hm : m.outcome = none) {s t : Service}
    (hts : t ≠ s) (n : Nat) (r : Received) (f : CheckFatal) :
    (m.check t n r).outcome ≠ some (.fatal (.check s f)) := by
  unfold Microkubed.check; split <;> simp [hm, hts]

/-- What a step does to the `checkService` goroutine of `s`. Either the goroutine takes nothing:
its counter stays or `enableHealthChecks` starts it at `0`, and the run does not end in its
`log.Fatal`. Or it takes one message, and the step of its loop in graceful termination mode gives
its new counter or the `log.Fatal` the run ends in. -/
theorem Shape.checkService_react (h : Shape m) (hm : m.outcome = none) (e : Event) (s : Service) :
    (m.taken s e = [] ∧ (∀ f, (m.react e).outcome ≠ some (.fatal (.check s f))) ∧
      ((m.react e).unhealthyCount s = m.unhealthyCount s ∨
        m.unhealthyCount s = none ∧ (m.react e).unhealthyCount s = some 0)) ∨
    ∃ n r, m.taken s e = [r] ∧ m.unhealthyCount s = some n ∧
      match checkServiceStep true n r with
      | .ok n' => (m.react e).outcome = none ∧ (m.react e).unhealthyCount s = some n'
      | .error f => (m.react e).outcome = some (.fatal (.check s f)) := by
  cases e with
  | main ok =>
    refine .inl ⟨rfl, fun f hf => ?_, ?_⟩
    · obtain ⟨pc, g, handlers, entries, started, exited, queued, counts, shutdown, outcome, effects⟩ := m
      dsimp only at hm; subst hm
      unfold Microkubed.react Microkubed.mainStep at hf
      cases pc <;> dsimp only at hf <;> (try split_ifs at hf) <;> simp at hf
    · by_cases hpc : m.pc = .enableHealthChecks
      · have hnone := h.monitors (by rw [hpc]; rfl) s
        simp only [Microkubed.react, Microkubed.mainStep, hpc]
        by_cases hs : s ∈ m.serviceList <;> simp [hs, hnone]
      · exact .inl (congrFun (m.mainStep_unhealthyCount ok hpc) s)
  | exit t =>
    refine .inl ⟨rfl, fun f hf => ?_, .inl (congrFun (m.exitHandler_unhealthyCount t) s)⟩
    simp only [Microkubed.react, Microkubed.exitHandler] at hf
    split_ifs at hf <;> simp [hm] at hf
  | sigint =>
    refine .inl ⟨rfl, fun f hf => ?_, .inl (congrFun m.sigint_unhealthyCount s)⟩
    simp only [Microkubed.react, Microkubed.sigint] at hf
    split at hf <;> simp [hm] at hf
  | sigterm => exact .inl ⟨rfl, by simp [Microkubed.react, Microkubed.sigterm], .inl rfl⟩
  | drained =>
    refine .inl ⟨rfl, fun f hf => ?_, .inl (congrFun m.drainDone_unhealthyCount s)⟩
    simp only [Microkubed.react, Microkubed.drainDone] at hf
    split_ifs at hf <;> simp [hm] at hf
  | health t b =>
    simp only [Microkubed.react, Microkubed.checkHealth]
    rcases eq_or_ne t s with rfl | hts
    · rcases hc : m.unhealthyCount t with _ | n
      · exact .inl ⟨by simp [Microkubed.taken, hc], by simp [hm], .inl hc⟩
      · refine .inr ⟨n, .health b, by simp [Microkubed.taken, hc], rfl, ?_⟩
        simp only [Microkubed.check, h.graceful_of_monitor hc]
        cases checkServiceStep true n (.health b) <;> simp [hm]
    · refine .inl ⟨by simp [Microkubed.taken, hts], ?_⟩
      rcases m.unhealthyCount t with _ | n
      · exact ⟨by simp [hm], .inl rfl⟩
      · exact ⟨m.check_outcome_of_ne hm hts n _, .inl (m.check_unhealthyCount_of_ne hts n _)⟩
  | exitNotice t =>
    simp only [Microkubed.react, Microkubed.takeExitNotice]
    rcases eq_or_ne t s with rfl | hts
    · rcases hc : m.unhealthyCount t with _ | n
      · exact .inl ⟨by simp [Microkubed.taken, hc], by simp [hm], .inl hc⟩
      · by_cases hq : t ∈ m.exitQueued
        · refine .inr ⟨n, .exit, by simp [Microkubed.taken, hc, hq], rfl, ?_⟩
          simp [hq, Microkubed.check, h.graceful_of_monitor hc, checkServiceStep, hm]
        · exact .inl ⟨by simp [Microkubed.taken, hq], by simp [hq, hm], .inl (by simp [hq, hc])⟩
    · refine .inl ⟨by simp [Microkubed.taken, hts], ?_⟩
      rcases m.unhealthyCount t with _ | n
      · exact ⟨by simp [hm], .inl rfl⟩
      · split_ifs
        · exact ⟨Microkubed.check_outcome_of_ne { m with exitQueued := m.exitQueued.erase t } hm hts n _,
            .inl (Microkubed.check_unhealthyCount_of_ne _ hts n _)⟩
        · exact ⟨by simp [hm], .inl rfl⟩

/-- The refinement, by induction along the run from `Shape.checkService_react`. -/
theorem counter_refines_loop (evs : List Event) (s : Service) :
    ((run evs).outcome = none →
      checkService true 0 (received s evs) = .ok (((run evs).unhealthyCount s).getD 0) ∧
        ((run evs).unhealthyCount s = none → received s evs = [])) ∧
    ∀ f, (run evs).outcome = some (.fatal (.check s f)) →
      checkService true 0 (received s evs) = .error (f, (received s evs).length) := by
  induction evs using List.reverseRecOn with
  | nil => exact ⟨fun _ => ⟨rfl, fun _ => rfl⟩, fun f h => nomatch h⟩
  | append_singleton evs e ih =>
    rw [received_append_singleton, run_append_singleton]
    by_cases hl : (run evs).outcome = none
    · obtain ⟨hok, hnil⟩ := ih.1 hl
      simp only [hl, if_true, step_of_live hl]
      rcases (shape_run evs hl).checkService_react hl e s with
        ⟨htk, hnf, hc | ⟨hn, hc⟩⟩ | ⟨n, r, htk, hn, hr⟩
      · rw [htk, List.append_nil, hc]
        exact ⟨fun _ => ⟨hok, hnil⟩, fun f hf => absurd hf (hnf f)⟩
      · rw [htk, List.append_nil, hc, hnil hn]
        exact ⟨fun _ => ⟨rfl, nofun⟩, fun f hf => absurd hf (hnf f)⟩
      · simp only [hn, Option.getD_some] at hok
        rw [htk, checkService_append_singleton, hok]
        rcases hs : checkServiceStep true n r with f | n' <;> simp only [hs] at hr
        · refine ⟨fun hl' => by simp [hr] at hl', fun f' hf => ?_⟩
          obtain rfl : f = f' := by simpa [hr] using hf
          simp [hs, Except.mapError]
        · exact ⟨fun _ => by simp [hs, Except.mapError, hr.2], fun f hf => by simp [hr.1] at hf⟩
    · simp only [hl, if_false, List.append_nil, step_of_ended hl]
      exact ⟨fun h => h.elim, ih.2⟩

/-- Along every run the counter of the `checkService` goroutine of `s` is what the loop
`checkService` computes in graceful termination mode over the messages the goroutine has taken,
and nothing is taken before the goroutine runs; the run ends in that goroutine's `log.Fatal` only
where the loop calls `log.Fatal`, at the last message taken. -/
theorem monitor_refines_checkService (evs : List Event) (s : Service) :
    ((run evs).outcome = none →
      checkService true 0 (received s evs) = .ok (((run evs).unhealthyCount s).getD 0) ∧
        ((run evs).unhealthyCount s = none → received s evs = [])) ∧
    ∀ f, (run evs).outcome = some (.fatal (.check s f)) →
      checkService true 0 (received s evs) = .error (f, (received s evs).length) :=
  counter_refines_loop evs s

/-- Along every run that has not ended, the counter of the `checkService` goroutine of `s` is the
number of unhealthy messages at the end of what it has taken, and no ten of them have been
unhealthy in a row; a run ends in that goroutine's `log.Fatal` only for too many failed health
checks, at the first message that completes ten unhealthy ones in a row. -/
theorem monitor_counts_trailing_unhealthy (evs : List Event) (s : Service) :
    ((run evs).outcome = none →
      ((run evs).unhealthyCount s).getD 0 = trailingUnhealthy (received s evs) ∧
        ∀ j ≤ (received s evs).length, trailingUnhealthy ((received s evs).take j) ≠ 10) ∧
    ∀ f, (run evs).outcome = some (.fatal (.check s f)) →
      f = .tooManyFailedHealthChecks ∧ trailingUnhealthy (received s evs) = 10 ∧
        ∀ j < (received s evs).length, trailingUnhealthy ((received s evs).take j) ≠ 10 := by
  obtain ⟨hlive, hfatal⟩ := counter_refines_loop evs s
  refine ⟨fun hl => (checkService_ok_iff _ _).mp (hlive hl).1, fun f hf => ?_⟩
  obtain ⟨rfl, -, -, hten, hbefore⟩ := (checkService_fatal_iff _ _ _).mp (hfatal f hf)
  exact ⟨rfl, by simpa using hten, hbefore⟩

theorem Microkubed.mainStep_exits (m : Microkubed) (ok : Bool) :
    (m.mainStep ok).exited = m.exited ∧ (m.mainStep ok).exitQueued = m.exitQueued := by
  obtain ⟨pc, g, handlers, entries, started, exited, queued, counts, shutdown, outcome, effects⟩ := m
  unfold Microkubed.mainStep
  cases pc <;> dsimp only <;> (try split_ifs) <;> exact ⟨rfl, rfl⟩

theorem Microkubed.check_exits (m : Microkubed) (s : Service) (n : Nat) (r : Received) :
    (m.check s n r).exited = m.exited ∧ (m.check s n r).exitQueued = m.exitQueued := by
  unfold Microkubed.check; split <;> exact ⟨rfl, rfl⟩

/-- A step that does not end the run keeps the exit channel of `s` balanced: the notifications
waiting in it and those the `checkService` goroutine of `s` has taken add up to the exits of `s`,
of which there is at most one. -/
theorem Microkubed.exits_react (m : Microkubed) {e : Event} (hl : (m.react e).outcome = none)
    (s : Service) {r : Nat} (hinv : m.exitQueued.count s + r = m.exited.count s)
    (hle : m.exited.count s ≤ 1) :
    (m.react e).exitQueued.count s + (r + (m.taken s e).count .exit) = (m.react e).exited.count s ∧
      (m.react e).exited.count s ≤ 1 := by
  cases e with
  | main ok =>
    obtain ⟨hx, hq⟩ := m.mainStep_exits ok
    simpa [Microkubed.react, Microkubed.taken, hx, hq] using And.intro hinv hle
  | exit t =>
    simp only [Microkubed.react, Microkubed.exitHandler] at hl ⊢
    split_ifs at hl ⊢ with ht hg
    · simp at hl
    · rcases eq_or_ne t s with rfl | hts
      · have h0 : m.exited.count t = 0 := List.count_eq_zero.mpr ht.2
        simp [Microkubed.taken, List.count_append, h0] at hinv ⊢
        omega
      · simpa [Microkubed.taken, List.count_append, List.count_singleton, Ne.symm hts]
          using And.intro hinv hle
    · simpa [Microkubed.taken] using And.intro hinv hle
  | sigint =>
    simp only [Microkubed.react, Microkubed.sigint]
    split <;> simpa [Microkubed.taken] using And.intro hinv hle
  | sigterm => simpa [Microkubed.react, Microkubed.sigterm, Microkubed.taken] using And.intro hinv hle
  | drained =>
    simp only [Microkubed.react, Microkubed.drainDone]
    split_ifs <;> simpa [Microkubed.taken] using And.intro hinv hle
  | health t b =>
    have h0 : (m.taken s (.health t b)).count .exit = 0 := by
      simp only [Microkubed.taken]; split_ifs <;> simp
    simp only [Microkubed.react, Microkubed.checkHealth, h0]
    split
    · simpa using And.intro hinv hle
    · obtain ⟨hx, hq⟩ := Microkubed.check_exits m t _ (.health b)
      rw [hx, hq]; exact ⟨by simpa using hinv, hle⟩
  | exitNotice t =>
    simp only [Microkubed.react, Microkubed.takeExitNotice] at hl ⊢
    rcases hc : m.unhealthyCount t with _ | n
    · have h0 : (m.taken s (.exitNotice t)).count .exit = 0 := by
        rcases eq_or_ne t s with rfl | hts <;> simp [Microkubed.taken, hc, *]
      simpa [h0] using And.intro hinv hle
    · split_ifs with hq
      · obtain ⟨hx, hqq⟩ := Microkubed.check_exits { m with exitQueued := m.exitQueued.erase t } t n .exit
        rw [hx, hqq]
        rcases eq_or_ne t s with rfl | hts
        · have hpos : 0 < m.exitQueued.count t := List.count_pos_iff.mpr hq
          simp [Microkubed.taken, hc, hq, List.count_erase_self]
          omega
        · simpa [Microkubed.taken, hts, List.count_erase_of_ne (Ne.symm hts)] using And.intro hinv hle
      · have h0 : (m.taken s (.exitNotice t)).count .exit = 0 := by
          rcases eq_or_ne t s with rfl | hts <;> simp [Microkubed.taken, hq, *]
        simpa [h0] using And.intro hinv hle

/-- Along every run that has not ended, each exit of a process reaches the `checkService`
goroutine of its service exactly once: the `stateChan <- success` of the exit handler is still
waiting in the channel or has been taken, once, and the exit handler of a service runs at most
once. -/
theorem exit_notices_conserved (evs : List Event) (s : Service) (hl : (run evs).outcome = none) :
    (run evs).exitQueued.count s + (received s evs).count .exit = (run evs).exited.count s ∧
      (run evs).exited.count s ≤ 1 := by
  induction evs using List.reverseRecOn with
  | nil => exact ⟨rfl, by simp [run, init]⟩
  | append_singleton evs e ih =>
    rw [run_append_singleton] at hl ⊢
    by_cases hm : (run evs).outcome = none
    · rw [step_of_live hm] at hl ⊢
      rw [received_append_singleton, if_pos hm, List.count_append]
      exact (run evs).exits_react hl s (ih hm).1 (ih hm).2
    · rw [step_of_ended hm] at hl; exact absurd hl hm

/-- In Running, etcd exits and its `checkService` goroutine takes the notification. -/
theorem etcd_exit_notice_taken_once :
    (run (List.replicate 36 (.main true) ++ [.exit .etcd, .exitNotice .etcd])).outcome = none ∧
    ((run (List.replicate 36 (.main true) ++ [.exit .etcd, .exitNotice .etcd])).exitQueued.count .etcd +
        (received .etcd (List.replicate 36 (.main true) ++ [.exit .etcd, .exitNotice .etcd])).count .exit =
      (run (List.replicate 36 (.main true) ++ [.exit .etcd, .exitNotice .etcd])).exited.count .etcd ∧
    (run (List.replicate 36 (.main true) ++ [.exit .etcd, .exitNotice .etcd])).exited.count .etcd ≤ 1) :=
  have hl : (run (List.replicate 36 (.main true) ++ [.exit .etcd, .exitNotice .etcd])).outcome = none := by
    decide
  ⟨hl, exit_notices_conserved _ .etcd hl⟩

/-- A failed health check taken by a running `checkService` goroutine with counter `n`: the counter
becomes `n + 1`, or, when that is ten, the run ends in the goroutine's `log.Fatal`. -/
theorem Shape.unhealthy_react (h : Shape m) (hm : m.outcome = none) {s : Service} {n : Nat}
    (hn : m.unhealthyCount s = some n) :
    if n + 1 = 10 then
      (m.react (.health s false)).outcome = some (.fatal (.check s .tooManyFailedHealthChecks))
    else (m.react (.health s false)).outcome = none ∧
      (m.react (.health s false)).unhealthyCount s = some (n + 1) := by
  simp only [Microkubed.react, Microkubed.checkHealth, hn, Microkubed.check,
    h.graceful_of_monitor hn, checkServiceStep, Bool.not_false, if_true]
  split_ifs <;> simp [hm]

/-- Failed health checks in a row raise the counter by one each while it stays below ten. -/
theorem run_unhealthy_streak (evs : List Event) (s : Service) {n : Nat}
    (hl : (run evs).outcome = none) (hn : (run evs).unhealthyCount s = some n) :
    ∀ k, n + k < 10 → (run (evs ++ List.replicate k (.health s false))).outcome = none ∧
      (run (evs ++ List.replicate k (.health s false))).unhealthyCount s = some (n + k)
  | 0, _ => by simpa using And.intro hl hn
  | k + 1, hk => by
    obtain ⟨hl', hn'⟩ := run_unhealthy_streak evs s hl hn k (by omega)
    rw [List.replicate_succ', ← List.append_assoc, run_append_singleton, step_of_live hl']
    have := (shape_run _ hl').unhealthy_react hl' hn'
    rwa [if_neg (by omega)] at this

/-- Once its `checkService` goroutine runs, a service whose health checks keep failing is always
caught. In every state a run reaches, its counter `n` is below ten; each further failed check in a
row raises it by one while the run goes on, and the one that makes ten in a row ends the run in
"Too many failed health checks, aborting!". -/
theorem unhealthy_streak_aborts (evs : List Event) (s : Service) {n : Nat}
    (hl : (run evs).outcome = none) (hn : (run evs).unhealthyCount s = some n) :
    n < 10 ∧
      (∀ k, n + k < 10 → (run (evs ++ List.replicate k (.health s false))).outcome = none ∧
        (run (evs ++ List.replicate k (.health s false))).unhealthyCount s = some (n + k)) ∧
      (run (evs ++ List.replicate (10 - n) (.health s false))).outcome =
        some (.fatal (.check s .tooManyFailedHealthChecks)) := by
  have hlt : n < 10 := by
    have hloop := ((counter_refines_loop evs s).1 hl).1
    rw [hn, Option.getD_some] at hloop
    exact checkService_lt_ten _ (by decide) hloop
  refine ⟨hlt, run_unhealthy_streak evs s hl hn, ?_⟩
  obtain ⟨hl', hn'⟩ := run_unhealthy_streak evs s hl hn (9 - n) (by omega)
  rw [show 10 - n = 9 - n + 1 by omega, List.replicate_succ', ← List.append_assoc,
    run_append_singleton, step_of_live hl']
  have := (shape_run _ hl').unhealthy_react hl' hn'
  rwa [if_pos (by omega)] at this

/-- After a clean startup, ten failed health checks of etcd in a row end the run. -/
theorem etcd_ten_failed_checks_abort :
    0 < 10 ∧
      (∀ k, 0 + k < 10 →
        (run (List.replicate 36 (.main true) ++ List.replicate k (.health .etcd false))).outcome = none ∧
        (run (List.replicate 36 (.main true) ++ List.replicate k (.health .etcd false))).unhealthyCount
          .etcd = some (0 + k)) ∧
      (run (List.replicate 36 (.main true) ++ List.replicate (10 - 0) (.health .etcd false))).outcome =
        some (.fatal (.check .etcd .tooManyFailedHealthChecks)) :=
  unhealthy_streak_aborts (List.replicate 36 (.main true)) .etcd (by decide) (by decide)

end Microkube.Orchestrator
