import Microkube.Orchestrator
import Mathlib.Data.List.Infix

/-!
# The shape of a run of `Run`

While a run has not ended, the bookkeeping of `Microkubed` is a function of the statement `Run` is
at: which services have been constructed, started, let through their gate, appended to
`serviceHandlers` and `serviceList` and stopped, how many unhealthy probes the one at its gate has
had, whether `gracefulTerminationMode` is set, the monitors run and the shutdown goroutine listens,
can be read off the program counter (`Pc.handlers`, `Pc.entries`, `Pc.started`, ...). `Shape` says
so; `constructions`, `startupProbes` and `stops` read the constructor calls, the startup probes of
a service and the `Stop()` calls off the log. The other goroutines never touch this bookkeeping
(`Shape.react_other`), each statement of `Run` moves it along with the program counter
(`Shape.mainStep`, from one lemma per group of fields), so it holds in every state a run reaches
before it ends (`shape_run`).

A run ends at one step from such a state, and `Shape.react_ended` says what that step can have
done: it changes nothing but the exits, the outcome and the log, and either `Run` returns or a
signal ends the program without logging anything, or `log.Fatal` is called after the call that
failed, and the exit hook then calls `Stop()`.
-/

namespace Microkube.Orchestrator
open CheckService

def constructions (es : List Effect) : List Service :=
  es.filterMap fun | .construct s => some s | _ => none

def startupProbes (s : Service) (es : List Effect) : List Bool :=
  es.filterMap fun | .probe t b => if t = s then some b else none | _ => none

def stops (es : List Effect) : List Service :=
  es.filterMap fun | .stop s => some s | _ => none

/-- The gate let the service through: a healthy message within its first 8 startup probes. -/
def GatePassed (probes : List Bool) : Prop := ∃ n < 8, probes = List.replicate n false ++ [true]

@[simp] theorem constructions_nil : constructions [] = [] := rfl

@[simp] theorem startupProbes_nil (s : Service) : startupProbes s [] = [] := rfl

@[simp] theorem stops_nil : stops [] = [] := rfl

@[simp] theorem constructions_cons (e : Effect) (es : List Effect) :
    constructions (e :: es) = (match e with | .construct s => [s] | _ => []) ++ constructions es := by
  cases e <;> rfl

@[simp] theorem startupProbes_cons (s : Service) (e : Effect) (es : List Effect) :
    startupProbes s (e :: es) =
      (match e with | .probe t b => if t = s then [b] else [] | _ => []) ++ startupProbes s es := by
  cases e with
  | probe t b => by_cases h : t = s <;> simp [startupProbes, h]
  | _ => rfl

@[simp] theorem stops_cons (e : Effect) (es : List Effect) :
    stops (e :: es) = (match e with | .stop s => [s] | _ => []) ++ stops es := by
  cases e <;> rfl

@[simp] theorem constructions_append (es es' : List Effect) :
    constructions (es ++ es') = constructions es ++ constructions es' :=
  List.filterMap_append _ _ _

@[simp] theorem startupProbes_append (s : Service) (es es' : List Effect) :
    startupProbes s (es ++ es') = startupProbes s es ++ startupProbes s es' :=
  List.filterMap_append _ _ _

@[simp] theorem stops_append (es es' : List Effect) : stops (es ++ es') = stops es ++ stops es' :=
  List.filterMap_append _ _ _

theorem mem_stops {s : Service} {es : List Effect} : s ∈ stops es ↔ Effect.stop s ∈ es := by
  induction es with
  | nil => simp
  | cons e es ih => cases e <;> simp [ih, eq_comm]

@[simp] theorem constructions_map_stop (l : List Service) : constructions (l.map .stop) = [] := by
  induction l <;> simp_all

@[simp] theorem startupProbes_map_stop (s : Service) (l : List Service) :
    startupProbes s (l.map .stop) = [] := by
  induction l <;> simp_all

@[simp] theorem stops_map_stop (l : List Service) : stops (l.map .stop) = l := by
  induction l <;> simp_all

namespace Service

theorem before_append_isPrefix_all (s : Service) : s.before ++ [s] <+: all := by
  cases s <;> decide

theorem not_mem_before (s : Service) : s ∉ s.before := by
  cases s <;> decide

end Service

namespace Pc

def handlers : Pc → List Service
  | construct s | start s | gate s _ | appendHandler s => s.before
  | kubeconfig => Service.kubeApiserver.before ++ [.kubeApiserver]
  | appendEntry s => s.before ++ [s]
  | _ => Service.all

def entries : Pc → List Service
  | construct s | start s | gate s _ | appendHandler s | appendEntry s => s.before
  | kubeconfig => Service.kubeApiserver.before
  | _ => Service.all

def started : Pc → List Service
  | construct s | start s => s.before
  | gate s _ | appendHandler s | appendEntry s => s.before ++ [s]
  | kubeconfig => Service.kubeApiserver.before ++ [.kubeApiserver]
  | _ => Service.all

def constructed : Pc → List Service
  | construct s => s.before
  | start s | gate s _ | appendHandler s | appendEntry s => s.before ++ [s]
  | kubeconfig => Service.kubeApiserver.before ++ [.kubeApiserver]
  | _ => Service.all

def gated : Pc → List Service
  | construct s | start s | gate s _ => s.before
  | appendHandler s | appendEntry s => s.before ++ [s]
  | kubeconfig => Service.kubeApiserver.before ++ [.kubeApiserver]
  | _ => Service.all

def retries : Pc → Service → Nat
  | gate s r, t => if t = s then r else 0
  | _, _ => 0

def graceful : Pc → Bool
  | enableHealthChecks | awaitExit | gracePeriod => true
  | _ => false

def monitored : Pc → Bool
  | awaitExit | gracePeriod => true
  | _ => false

def notified : Pc → Bool
  | setGraceful | enableHealthChecks | awaitExit | gracePeriod => true
  | _ => false

/-- The services `Run` itself has called `Stop()` on when it is at this statement: the deferred
`kubeProxyHandler.Stop()` of `startKubeProxy`, then every handler once the node is drained. -/
def stopped : Pc → List Service
  | newKubeClient | waitForNode | setGraceful | enableHealthChecks | awaitExit => [.kubeProxy]
  | gracePeriod => .kubeProxy :: Service.all
  | _ => []

end Pc

/-- The bookkeeping of a run that has not ended, read off the statement `Run` is at. -/
structure Shape (m : Microkubed) : Prop where
  handlers : m.serviceHandlers = m.pc.handlers
  entries : m.serviceList = m.pc.entries
  started : m.started = m.pc.started
  constructed : constructions m.effects = m.pc.constructed
  retries_lt : ∀ s r, m.pc = .gate s r → r < 8
  passed : ∀ s ∈ m.pc.gated, GatePassed (startupProbes s m.effects)
  pending : ∀ s, s ∉ m.pc.gated → startupProbes s m.effects = List.replicate (m.pc.retries s) false
  graceful : m.gracefulTerminationMode = m.pc.graceful
  stopped : stops m.effects = m.pc.stopped
  /-- No `checkService` goroutine runs before `enableHealthChecks` has started them. -/
  monitors : m.pc.monitored = false → ∀ s, m.unhealthyCount s = none
  /-- `Run` reaches its grace period only after `DrainNode` has returned. -/
  drained : m.pc = .gracePeriod → m.shutdown = .drained
  registered : m.shutdown = .notRegistered ↔ m.pc.notified = false
  /-- No process has exited while startup goes on: an exit then calls `log.Fatal`. -/
  exited : m.pc.graceful = false → m.exited = []

theorem shape_init : Shape init where
  handlers := rfl
  entries := rfl
  started := rfl
  constructed := rfl
  retries_lt := by simp [init]
  passed := by simp [init, Pc.gated, Service.before, Service.all]
  pending := by simp [init, startupProbes, Pc.retries]
  graceful := rfl
  stopped := rfl
  monitors := fun _ _ => rfl
  drained := by rintro ⟨⟩
  registered := by decide
  exited := fun _ => rfl

/-- A step that leaves the startup bookkeeping alone keeps `Shape`. -/
theorem Shape.of_same {m m' : Microkubed} (h : Shape m) (hpc : m'.pc = m.pc)
    (hh : m'.serviceHandlers = m.serviceHandlers) (he : m'.serviceList = m.serviceList)
    (hs : m'.started = m.started) (hc : constructions m'.effects = constructions m.effects)
    (hp : ∀ s, startupProbes s m'.effects = startupProbes s m.effects)
    (hg : m'.gracefulTerminationMode = m.gracefulTerminationMode)
    (hst : stops m'.effects = stops m.effects)
    (hu : m'.unhealthyCount = m.unhealthyCount ∨ m.pc.monitored = true)
    (hd : m.shutdown = .drained → m'.shutdown = .drained)
    (hn : m'.shutdown = .notRegistered ↔ m.shutdown = .notRegistered)
    (hx : m'.exited = m.exited ∨ m.pc.graceful = true) : Shape m' where
  handlers := by rw [hh, hpc, h.handlers]
  entries := by rw [he, hpc, h.entries]
  started := by rw [hs, hpc, h.started]
  constructed := by rw [hc, hpc, h.constructed]
  retries_lt := by rw [hpc]; exact h.retries_lt
  passed := by rw [hpc]; simpa [hp] using h.passed
  pending := by rw [hpc]; simpa [hp] using h.pending
  graceful := by rw [hg, hpc, h.graceful]
  stopped := by rw [hst, hpc, h.stopped]
  monitors := by
    rw [hpc]
    rcases hu with hu | hu
    · rw [hu]; exact h.monitors
    · simp [hu]
  drained := by rw [hpc]; exact fun hg => hd (h.drained hg)
  registered := by rw [hn, hpc]; exact h.registered
  exited := by
    rw [hpc]
    rcases hx with hx | hx
    · rw [hx]; exact h.exited
    · simp [hx]

variable {m : Microkubed}

theorem Shape.monitored_of_some (h : Shape m) {s : Service} {n : Nat}
    (hn : m.unhealthyCount s = some n) : m.pc.monitored = true := by
  by_contra hm
  simp [h.monitors (by simpa using hm) s] at hn

theorem Pc.graceful_of_monitored {p : Pc} (hp : p.monitored = true) : p.graceful = true := by
  cases p <;> simp_all [Pc.monitored, Pc.graceful]

/-- A running `checkService` goroutine sees `gracefulTerminationMode` set. -/
theorem Shape.graceful_of_monitor (h : Shape m) {s : Service} {n : Nat}
    (hn : m.unhealthyCount s = some n) : m.gracefulTerminationMode = true := by
  rw [h.graceful]; exact Pc.graceful_of_monitored (h.monitored_of_some hn)

theorem step_of_live (hm : m.outcome = none) (e : Event) : step m e = m.react e := by
  simp [step, hm]

/-- The goroutines other than `Run` leave the startup bookkeeping alone. -/
theorem Shape.react_other (h : Shape m) {e : Event} (he : ∀ ok, e ≠ .main ok)
    (hl : (m.react e).outcome = none) : Shape (m.react e) := by
  cases e with
  | main ok => exact absurd rfl (he ok)
  | exit s =>
    simp only [Microkubed.react, Microkubed.exitHandler] at hl ⊢
    split_ifs at hl ⊢ with _ hg
    · simp at hl
    · exact h.of_same rfl rfl rfl rfl (by simp) (by simp) rfl (by simp) (.inl rfl) id Iff.rfl
        (.inr (by simpa [h.graceful] using hg))
    · exact h
  | sigint =>
    simp only [Microkubed.react, Microkubed.sigint] at hl ⊢
    split
    · simp_all
    · rename_i hw
      exact h.of_same rfl rfl rfl rfl rfl (fun _ => rfl) rfl rfl (.inl rfl)
        (fun hd => by rw [hw] at hd; cases hd) (by rw [hw]; simp) (.inl rfl)
    · exact h
  | sigterm => cases hl
  | drained =>
    simp only [Microkubed.react, Microkubed.drainDone]
    split
    · rename_i hw
      exact h.of_same rfl rfl rfl rfl (by simp) (by simp) rfl (by simp) (.inl rfl) (fun _ => rfl)
        (by rw [hw]; simp) (.inl rfl)
    · exact h
  | health s b =>
    simp only [Microkubed.react, Microkubed.checkHealth, Microkubed.check] at hl ⊢
    split
    · exact h
    · rename_i n hn
      split
      · simp_all
      · exact h.of_same rfl rfl rfl rfl rfl (fun _ => rfl) rfl rfl (.inr (h.monitored_of_some hn)) id
          Iff.rfl (.inl rfl)
  | exitNotice s =>
    simp only [Microkubed.react, Microkubed.takeExitNotice, Microkubed.check] at hl ⊢
    split
    · rename_i n hn
      split
      · split
        · simp_all
        · exact h.of_same rfl rfl rfl rfl rfl (fun _ => rfl) rfl rfl (.inr (h.monitored_of_some hn)) id
            Iff.rfl (.inl rfl)
      · exact h
    · exact h

/-- The fields `Run` writes are those of the statement it moves to. -/
theorem Shape.mainStep_fields (h : Shape m) (ok : Bool) :
    (m.mainStep ok).serviceHandlers = (m.mainStep ok).pc.handlers ∧
      (m.mainStep ok).serviceList = (m.mainStep ok).pc.entries ∧
      (m.mainStep ok).started = (m.mainStep ok).pc.started ∧
      (m.mainStep ok).gracefulTerminationMode = (m.mainStep ok).pc.graceful := by
  obtain ⟨pc, g, handlers, entries, started, exited, queued, counts, shutdown, outcome, effects⟩ := m
  obtain ⟨hh, he, hs, -, -, -, -, hg, -⟩ := h
  dsimp only at hh he hs hg
  subst hh he hs hg
  unfold Microkubed.mainStep
  cases pc with
  | appendHandler s =>
    dsimp only
    split_ifs with hs
    · subst hs; exact ⟨rfl, rfl, rfl, rfl⟩
    · exact ⟨rfl, rfl, rfl, rfl⟩
  | appendEntry s => cases s <;> exact ⟨rfl, rfl, rfl, rfl⟩
  | _ => dsimp only; (try split_ifs) <;> exact ⟨rfl, rfl, rfl, rfl⟩

/-- The constructor and `Stop()` calls `Run` logs are those of the statement it moves to. -/
theorem Shape.mainStep_calls (h : Shape m) (ok : Bool) (hl : (m.mainStep ok).outcome = none) :
    constructions (m.mainStep ok).effects = (m.mainStep ok).pc.constructed ∧
      stops (m.mainStep ok).effects = (m.mainStep ok).pc.stopped := by
  have hc := h.constructed
  have hst := h.stopped
  cases hpc : m.pc with
  | appendHandler s =>
    rw [hpc] at hc hst
    simp only [Microkubed.mainStep, hpc]
    split_ifs with hs
    · subst hs; exact ⟨hc, hst⟩
    · exact ⟨hc, hst⟩
  | appendEntry s =>
    rw [hpc] at hc hst
    simp only [Microkubed.mainStep, hpc]
    cases s <;> exact ⟨hc, hst⟩
  | _ =>
    rw [hpc] at hc hst
    simp only [Microkubed.mainStep, hpc] at hl ⊢
    (try split_ifs at hl ⊢) <;> (try (simp at hl; done)) <;>
      exact ⟨by simp [hc, hpc, Pc.constructed],
        by simp [hst, hpc, h.handlers, Pc.stopped, Pc.handlers]⟩

/-- A step that logs no probe and keeps the gate's bookkeeping keeps what the probes say. -/
theorem probes_of_same {p p' : Pc} {es es' : List Effect} (hg : p'.gated = p.gated)
    (hr : ∀ t, p'.retries t = p.retries t) (he : ∀ t, startupProbes t es' = startupProbes t es)
    (hp : ∀ s ∈ p.gated, GatePassed (startupProbes s es))
    (hq : ∀ s, s ∉ p.gated → startupProbes s es = List.replicate (p.retries s) false) :
    (∀ s ∈ p'.gated, GatePassed (startupProbes s es')) ∧
      ∀ s, s ∉ p'.gated → startupProbes s es' = List.replicate (p'.retries s) false :=
  ⟨fun s hs => he s ▸ hp s (hg ▸ hs), fun s hs => by rw [he, hr]; exact hq s (hg ▸ hs)⟩

/-- The startup gate: a service `Run` has let through had a healthy probe within its first eight,
and the one at its gate has had only its unhealthy ones so far. -/
theorem Shape.mainStep_probes (h : Shape m) (ok : Bool) (hl : (m.mainStep ok).outcome = none) :
    (∀ s r, (m.mainStep ok).pc = .gate s r → r < 8) ∧
      (∀ s ∈ (m.mainStep ok).pc.gated, GatePassed (startupProbes s (m.mainStep ok).effects)) ∧
      ∀ s, s ∉ (m.mainStep ok).pc.gated →
        startupProbes s (m.mainStep ok).effects = List.replicate ((m.mainStep ok).pc.retries s) false := by
  have hp := h.passed
  have hq := h.pending
  cases hpc : m.pc with
  | gate s r =>
    rw [hpc] at hp hq
    simp only [Microkubed.mainStep, hpc] at hl ⊢
    have hs : startupProbes s m.effects = List.replicate r false := by
      simpa [Pc.retries] using hq s s.not_mem_before
    have hbefore : ∀ t ∈ s.before, s ≠ t := fun t ht h => s.not_mem_before (h ▸ ht)
    split_ifs at hl ⊢ with hok hr'
    · refine ⟨by rintro _ _ ⟨⟩, fun t ht => ?_, fun t ht => ?_⟩
      · simp only [Pc.gated, List.mem_append, List.mem_singleton] at ht
        rcases ht with ht | rfl
        · simpa [hbefore t ht] using hp t ht
        · exact ⟨r, h.retries_lt _ _ hpc, by simp [hs, hok]⟩
      · simp only [Pc.gated, List.mem_append, List.mem_singleton, not_or] at ht
        simpa [Pc.retries, ht.2, Ne.symm ht.2] using hq t ht.1
    · refine ⟨by rintro _ _ ⟨⟩; exact hr', fun t ht => by simpa [hbefore t ht] using hp t ht,
        fun t ht => ?_⟩
      by_cases hts : t = s
      · subst hts; simp [Pc.retries, hs, hok, List.replicate_succ']
      · simpa [Pc.retries, hts, Ne.symm hts] using hq t ht
    · simp at hl
  | appendHandler s =>
    rw [hpc] at hp hq
    simp only [Microkubed.mainStep, hpc]
    split_ifs with hs
    · subst hs; exact ⟨by simp, hp, hq⟩
    · exact ⟨by simp, hp, hq⟩
  | appendEntry s =>
    rw [hpc] at hp hq
    simp only [Microkubed.mainStep, hpc]
    cases s <;> exact ⟨by simp [Microkubed.afterEntry, Service.next], hp, hq⟩
  | _ =>
    rw [hpc] at hp hq
    simp only [Microkubed.mainStep, hpc] at hl ⊢
    (try split_ifs at hl ⊢) <;> (try (simp at hl; done)) <;>
      exact ⟨by simp [hpc], probes_of_same (by simp [Pc.gated, hpc])
        (fun _ => by simp [Pc.retries, hpc]) (fun _ => by simp) hp hq⟩

/-- What `Run` tells the other goroutines: the monitors run only once it has started them, it
passes `<-exitChan` only after the drain, the shutdown goroutine listens from `WaitForNode` on,
and no process has exited while startup goes on. -/
theorem Shape.mainStep_goroutines (h : Shape m) (ok : Bool) :
    ((m.mainStep ok).pc.monitored = false → ∀ s, (m.mainStep ok).unhealthyCount s = none) ∧
      ((m.mainStep ok).pc = .gracePeriod → (m.mainStep ok).shutdown = .drained) ∧
      ((m.mainStep ok).shutdown = .notRegistered ↔ (m.mainStep ok).pc.notified = false) ∧
      ((m.mainStep ok).pc.graceful = false → (m.mainStep ok).exited = []) := by
  obtain ⟨pc, g, handlers, entries, started, exited, queued, counts, shutdown, outcome, effects⟩ := m
  obtain ⟨-, -, -, -, -, -, -, -, -, hu, hd, hn, hx⟩ := h
  dsimp only at hu hd hn hx
  unfold Microkubed.mainStep
  cases pc with
  | appendHandler s =>
    dsimp only
    split_ifs with hs
    · subst hs; exact ⟨hu, by rintro ⟨⟩, hn, hx⟩
    · exact ⟨hu, by rintro ⟨⟩, hn, hx⟩
  | appendEntry s => cases s <;> exact ⟨hu, by rintro ⟨⟩, hn, hx⟩
  | waitForNode => exact ⟨hu, by rintro ⟨⟩, iff_of_false nofun nofun, hx⟩
  | setGraceful => exact ⟨hu, by rintro ⟨⟩, hn, nofun⟩
  | enableHealthChecks => exact ⟨by rintro ⟨⟩, by rintro ⟨⟩, hn, nofun⟩
  | awaitExit =>
    dsimp only
    split_ifs with hdr
    · exact ⟨by rintro ⟨⟩, fun _ => hdr, hn, nofun⟩
    · exact ⟨hu, by rintro ⟨⟩, hn, hx⟩
  | gracePeriod => exact ⟨hu, hd, hn, hx⟩
  | _ => dsimp only; (try split_ifs) <;> exact ⟨hu, by rintro ⟨⟩, hn, hx⟩

/-- The statements of `Run` keep the bookkeeping in step with the program counter. -/
theorem Shape.mainStep (h : Shape m) (ok : Bool) (hl : (m.mainStep ok).outcome = none) :
    Shape (m.mainStep ok) :=
  have ⟨hh, he, hs, hg⟩ := h.mainStep_fields ok
  have ⟨hc, hst⟩ := h.mainStep_calls ok hl
  have ⟨hr, hp, hq⟩ := h.mainStep_probes ok hl
  have ⟨hu, hd, hn, hx⟩ := h.mainStep_goroutines ok
  ⟨hh, he, hs, hc, hr, hp, hq, hg, hst, hu, hd, hn, hx⟩

theorem Shape.react (h : Shape m) (e : Event) (hl : (m.react e).outcome = none) :
    Shape (m.react e) := by
  cases e with
  | main ok => exact h.mainStep ok hl
  | _ => exact h.react_other (fun _ => nofun) hl

theorem step_of_ended (hm : m.outcome ≠ none) (e : Event) : step m e = m := by
  simp [step, Option.isSome_iff_ne_none.mpr hm]

theorem run_append (evs more : List Event) : run (evs ++ more) = more.foldl step (run evs) :=
  List.foldl_append _ _ _ _

theorem run_append_singleton (evs : List Event) (e : Event) :
    run (evs ++ [e]) = step (run evs) e := by
  simp [run_append]

/-- Once a run has ended, later events change nothing. -/
theorem run_append_of_ended {evs : List Event} (h : (run evs).outcome ≠ none) (more : List Event) :
    run (evs ++ more) = run evs := by
  induction more using List.reverseRecOn with
  | nil => simp
  | append_singleton more e ih =>
    rw [← List.append_assoc, run_append_singleton, ih, step_of_ended h]

/-- Every state a run reaches before it ends has the shape of its program counter. -/
theorem shape_run (evs : List Event) (hl : (run evs).outcome = none) : Shape (run evs) := by
  induction evs using List.reverseRecOn with
  | nil => exact shape_init
  | append_singleton evs e ih =>
    rw [run_append_singleton] at hl ⊢
    by_cases hm : (run evs).outcome = none
    · rw [step_of_live hm] at hl ⊢
      exact (ih hm).react e hl
    · rw [step_of_ended hm] at hl; exact absurd hl hm

/-- A run that has ended did so at one step from a state that had not. -/
theorem run_ended (evs : List Event) (h : (run evs).outcome ≠ none) :
    ∃ pre e, (run pre).outcome = none ∧ run evs = (run pre).react e := by
  induction evs using List.reverseRecOn with
  | nil => exact absurd rfl h
  | append_singleton evs e ih =>
    rw [run_append_singleton] at h ⊢
    by_cases hm : (run evs).outcome = none
    · exact ⟨evs, e, hm, step_of_live hm e⟩
    · rw [step_of_ended hm] at h ⊢; exact ih h

/-- The call logged just before `log.Fatal` for `r`: the constructor, the last startup probe, or the
exit of the process. -/
def FatalReason.trigger : FatalReason → List Effect
  | .createHandler s => [.construct s]
  | .notHealthy s => [.probe s false]
  | .exitedDuringStartup s => [.exit s]
  | _ => []

/-- Where `Run` is when `log.Fatal` is called for `r`, for the calls `Run` makes itself. -/
def FatalReason.At : FatalReason → Pc → Prop
  | .createHandler s, pc => pc = .construct s
  | .start s, pc => pc = .start s
  | .notHealthy s, pc => pc = .gate s 7
  | .kubeconfig, pc => pc = .kubeconfig
  | .kubeClient, pc => pc = .newKubeClient
  | _, _ => True

/-- The step that ends a run changes only the exits, the outcome and the log: `Run`, its bookkeeping
and the shutdown goroutine stay where they were. It either returns or takes a signal, and logs
nothing, or it calls `log.Fatal`: the failed call, the fatal entry, then the exit hook's `Stop()`
calls. -/
theorem Shape.react_ended (h : Shape m) (hm : m.outcome = none) {e : Event}
    (he : (m.react e).outcome ≠ none) :
    m.react e = { m with
      exited := (m.react e).exited, exitQueued := (m.react e).exitQueued,
      outcome := (m.react e).outcome, effects := (m.react e).effects } ∧
    (((m.react e).outcome = some .finished ∨ (m.react e).outcome = some .interrupted) ∧
        (m.react e).effects = m.effects ∨
      ∃ r, (m.react e).outcome = some (.fatal r) ∧ r.At m.pc ∧
        (m.react e).effects = m.effects ++ r.trigger ++ [.fatal r] ++ m.exitHook.map .stop) := by
  have hr := h.retries_lt
  obtain ⟨pc, g, handlers, entries, started, exited, queued, counts, shutdown, outcome, effects⟩ := m
  dsimp only at hm hr; subst hm
  cases e with
  | main ok =>
    unfold Microkubed.react Microkubed.mainStep at he ⊢
    cases pc with
    | gate s n =>
      dsimp only at he ⊢
      split_ifs at he ⊢ with hok hn
      · exact absurd rfl he
      · exact absurd rfl he
      · have : n = 7 := by have := hr s n rfl; omega
        simp only [Bool.not_eq_true] at hok
        subst this hok
        exact ⟨rfl, .inr ⟨_, rfl, rfl, by simp only [FatalReason.trigger, List.append_nil]; rfl⟩⟩
    | awaitExit => dsimp only at he ⊢; split_ifs at he ⊢ <;> exact absurd rfl he
    | gracePeriod => exact ⟨rfl, .inl ⟨.inl rfl, rfl⟩⟩
    | appendHandler | appendEntry | deferredStop | waitForNode | setGraceful | enableHealthChecks =>
      exact absurd rfl he
    | _ =>
      dsimp only at he ⊢
      split_ifs at he ⊢ <;> first
        | exact absurd rfl he
        | exact ⟨rfl, .inr ⟨_, rfl, rfl, by simp only [FatalReason.trigger, List.append_nil]; rfl⟩⟩
  | exit s =>
    unfold Microkubed.react Microkubed.exitHandler at he ⊢
    dsimp only at he ⊢
    split_ifs at he ⊢ <;> first
      | exact absurd rfl he
      | exact ⟨rfl, .inr ⟨_, rfl, trivial, by simp only [FatalReason.trigger, List.append_nil]; rfl⟩⟩
  | sigint =>
    unfold Microkubed.react Microkubed.sigint at he ⊢
    dsimp only at he ⊢
    split at he <;> first | exact absurd rfl he | exact ⟨rfl, .inl ⟨.inr rfl, rfl⟩⟩
  | sigterm => exact ⟨rfl, .inl ⟨.inr rfl, rfl⟩⟩
  | drained =>
    unfold Microkubed.react Microkubed.drainDone at he
    dsimp only at he; split_ifs at he <;> exact absurd rfl he
  | health s b =>
    unfold Microkubed.react Microkubed.checkHealth Microkubed.check at he ⊢
    dsimp only at he ⊢
    rcases hc : counts s with _ | n <;> simp only [hc] at he ⊢
    · exact absurd rfl he
    · rcases hs : checkServiceStep g n (.health b) with f | n' <;> simp only [hs] at he ⊢
      · exact ⟨rfl, .inr ⟨_, rfl, trivial, by simp only [FatalReason.trigger, List.append_nil]; rfl⟩⟩
      · exact absurd rfl he
  | exitNotice s =>
    unfold Microkubed.react Microkubed.takeExitNotice Microkubed.check at he ⊢
    dsimp only at he ⊢
    rcases hc : counts s with _ | n <;> simp only [hc] at he ⊢
    · exact absurd rfl he
    · split_ifs at he ⊢
      · rcases hs : checkServiceStep g n .exit with f | n' <;> simp only [hs] at he ⊢
        · exact ⟨rfl, .inr ⟨_, rfl, trivial, by simp only [FatalReason.trigger, List.append_nil]; rfl⟩⟩
        · exact absurd rfl he
      · exact absurd rfl he

end Microkube.Orchestrator