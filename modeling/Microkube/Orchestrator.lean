import Microkube.CheckService

/-!
# The microkubed orchestrator

`Microkubed.Run` registers a logrus exit hook, brings the six services up one after the other in
`start()`, waits for the node in `waitUntilNodeReady`, arms the monitors and waits for the shutdown
goroutine. Concurrently, every started process can exit (its `exitHandler` closure from
`startService` runs), signals arrive, `DrainNode` returns, and the `checkService` goroutines take
messages. The model is a state machine over these: `Pc` is where the goroutine running `Run` is,
the fields of `Microkubed` are those the code reads and writes, and an `Event` is one goroutine
taking its next step. Where a call can fail or a probe is answered, the event carries the outcome.

`effects` records the calls an observer sees, in order. `log.Fatal` writes its entry before logrus
runs the exit hook, so the hook's `Stop()` calls come after the fatal entry.

`waitUntilNodeReady` passes `os.Interrupt` and `os.Kill` to `signal.Notify`. SIGINT therefore ends
the program at once until then and starts the drain afterwards; SIGKILL cannot be caught, and
SIGTERM, never passed, ends the program at once in every phase.

`start()` first creates directories, credentials and finds binaries; those `log.Fatal`s happen
before any service exists and the model starts at the constructor of etcd.
-/

namespace Microkube.Orchestrator
open CheckService

/-- The services `start()` brings up, in the order of `all`. -/
inductive Service
  | etcd | kubeApiserver | kubeControllerManager | kubeScheduler | kubelet | kubeProxy
  deriving DecidableEq, Repr

namespace Service

def all : List Service :=
  [etcd, kubeApiserver, kubeControllerManager, kubeScheduler, kubelet, kubeProxy]

def name : Service → String
  | etcd => "etcd"
  | kubeApiserver => "kube-apiserver"
  | kubeControllerManager => "kube-controller-manager"
  | kubeScheduler => "kube-scheduler"
  | kubelet => "kubelet"
  | kubeProxy => "kube-proxy"

/-- The `name` of the service's `serviceEntry`, which `checkService` logs. -/
def entryName : Service → String
  | kubeApiserver => "kube-api"
  | s => s.name

def next : Service → Option Service
  | etcd => some kubeApiserver
  | kubeApiserver => some kubeControllerManager
  | kubeControllerManager => some kubeScheduler
  | kubeScheduler => some kubelet
  | kubelet => some kubeProxy
  | kubeProxy => none

def before (s : Service) : List Service := all.takeWhile (· ≠ s)

/-- The constructors of etcd, the API server and the controller manager always return `nil`. -/
def constructorCanFail : Service → Bool
  | kubeScheduler | kubelet | kubeProxy => true
  | _ => false

end Service

/-- The `log.Fatal` calls that can end `Run` once the first service is being started. -/
inductive FatalReason
  | createHandler (s : Service)
  | start (s : Service)
  | notHealthy (s : Service)
  | exitedDuringStartup (s : Service)
  | kubeconfig
  | kubeClient
  | check (s : Service) (f : CheckFatal)
  deriving DecidableEq, Repr

def FatalReason.message : FatalReason → String
  | .createHandler s => "Couldn't create " ++ s.name ++ " handler"
  | .start s => "Couldn't start " ++ s.name
  | .notHealthy s => s.name ++ " didn't become healthy in time!"
  | .exitedDuringStartup _ => "App exitted during startup phase, bailing out _now_"
  | .kubeconfig => "Couldn't create kubeconfig!"
  | .kubeClient => "Couldn't init kube client"
  | .check s f => f.message s.entryName

/-- Where the goroutine running `Run` is: in `startService` at the constructor, `Start()`, the
health gate after `retries` unhealthy probes and the append to `serviceHandlers`; at the kubeconfig
of `startKubeAPIServer`; at the append to `serviceList`; at the deferred `Stop()` of
`startKubeProxy`; then at the statements of `waitUntilNodeReady` and of `Run` after `start()`, up
to `<-exitChan` and the grace period. -/
inductive Pc
  | construct (s : Service)
  | start (s : Service)
  | gate (s : Service) (retries : Nat)
  | appendHandler (s : Service)
  | kubeconfig
  | appendEntry (s : Service)
  | deferredStop
  | newKubeClient
  | waitForNode
  | setGraceful
  | enableHealthChecks
  | awaitExit
  | gracePeriod
  deriving DecidableEq, Repr

/-- The shutdown goroutine of `waitUntilNodeReady`: not started and SIGINT not yet passed to
`signal.Notify`, waiting on `sigChan`, in `DrainNode`, or done after `exitChan <- true`. -/
inductive Shutdown
  | notRegistered
  | waiting
  | draining
  | drained
  deriving DecidableEq, Repr

/-- How the program ended: in `log.Fatal`, by the default action of a signal, or by `Run`
returning after its grace period. -/
inductive Outcome
  | fatal (r : FatalReason)
  | interrupted
  | finished
  deriving DecidableEq, Repr

/-- The calls an observer of the orchestrator sees: a constructor call, a `Start()` that returned
`nil`, a startup probe taken by the gate, a `Stop()`, an exit handler run, the return of
`DrainNode`, and the entry `log.Fatal` writes. -/
inductive Effect
  | construct (s : Service)
  | start (s : Service)
  | probe (s : Service) (healthy : Bool)
  | stop (s : Service)
  | exit (s : Service)
  | drain
  | fatal (r : FatalReason)
  deriving DecidableEq, Repr

/-- The state of a run of `microkubed`: the fields of `Microkubed` that `Run` reads and writes,
the services whose `Start()` returned `nil` and those whose process has exited, the exit
notifications sent on a `stateChan` and not yet taken, the `unhealthyCount` of each
`checkService` goroutine once it runs, the shutdown goroutine, the outcome and the log. -/
structure Microkubed where
  pc : Pc
  gracefulTerminationMode : Bool
  serviceHandlers : List Service
  serviceList : List Service
  started : List Service
  exited : List Service
  exitQueued : List Service
  unhealthyCount : Service → Option Nat
  shutdown : Shutdown
  outcome : Option Outcome
  effects : List Effect

def init : Microkubed where
  pc := .construct .etcd
  gracefulTerminationMode := false
  serviceHandlers := []
  serviceList := []
  started := []
  exited := []
  exitQueued := []
  unhealthyCount := fun _ => none
  shutdown := .notRegistered
  outcome := none
  effects := []

/-- Something that happens next: the goroutine running `Run` executes its next statement (`ok` is
the outcome of the call made there: constructor, `Start()`, startup probe, kubeconfig, kube
client), the process of a service terminates, SIGINT or SIGTERM arrives, `DrainNode` returns, or a
`checkService` goroutine takes a `HealthMessage` or an exit notification. -/
inductive Event
  | main (ok : Bool)
  | exit (s : Service)
  | sigint
  | sigterm
  | drained
  | health (s : Service) (isHealthy : Bool)
  | exitNotice (s : Service)
  deriving DecidableEq, Repr

namespace Microkubed

def emit (m : Microkubed) (e : Effect) : Microkubed := { m with effects := m.effects ++ [e] }

@[simp] theorem emit_effects (m : Microkubed) (e : Effect) : (m.emit e).effects = m.effects ++ [e] :=
  rfl

@[simp] theorem emit_pc (m : Microkubed) (e : Effect) : (m.emit e).pc = m.pc := rfl

@[simp] theorem emit_shutdown (m : Microkubed) (e : Effect) : (m.emit e).shutdown = m.shutdown := rfl

@[simp] theorem emit_gracefulTerminationMode (m : Microkubed) (e : Effect) :
    (m.emit e).gracefulTerminationMode = m.gracefulTerminationMode := rfl

@[simp] theorem emit_outcome (m : Microkubed) (e : Effect) : (m.emit e).outcome = m.outcome := rfl

@[simp] theorem emit_exited (m : Microkubed) (e : Effect) : (m.emit e).exited = m.exited := rfl

@[simp] theorem emit_exitQueued (m : Microkubed) (e : Effect) :
    (m.emit e).exitQueued = m.exitQueued := rfl

/-- The services the handler registered with `log.RegisterExitHandler` in `Run` stops: every entry
of `serviceHandlers`, unless `gracefulTerminationMode` is set. -/
def exitHook (m : Microkubed) : List Service :=
  if m.gracefulTerminationMode then [] else m.serviceHandlers

/-- `log.Fatal`: logrus writes the entry, then `Logger.Exit(1)` runs the exit hook, then
`os.Exit`. -/
def fatal (m : Microkubed) (r : FatalReason) : Microkubed :=
  { m with effects := m.effects ++ [.fatal r] ++ m.exitHook.map .stop, outcome := some (.fatal r) }

@[simp] theorem fatal_outcome (m : Microkubed) (r : FatalReason) :
    (m.fatal r).outcome = some (.fatal r) := rfl

@[simp] theorem fatal_effects (m : Microkubed) (r : FatalReason) :
    (m.fatal r).effects = m.effects ++ [.fatal r] ++ m.exitHook.map .stop := rfl

def afterEntry (s : Service) : Pc :=
  match s.next with
  | some t => .construct t
  | none => .deferredStop

/-- The goroutine running `Run` executes the statement at `m.pc`. -/
def mainStep (m : Microkubed) (ok : Bool) : Microkubed :=
  match m.pc with
  | .construct s =>
    let m := m.emit (.construct s)
    if ok || !s.constructorCanFail then { m with pc := .start s } else m.fatal (.createHandler s)
  | .start s =>
    if ok then { m.emit (.start s) with started := m.started ++ [s], pc := .gate s 0 }
    else m.fatal (.start s)
  | .gate s retries =>
    let m := m.emit (.probe s ok)
    if ok then { m with pc := .appendHandler s }
    else if retries + 1 < 8 then { m with pc := .gate s (retries + 1) }
    else m.fatal (.notHealthy s)
  | .appendHandler s =>
    { m with serviceHandlers := m.serviceHandlers ++ [s],
             pc := if s = .kubeApiserver then .kubeconfig else .appendEntry s }
  | .kubeconfig => if ok then { m with pc := .appendEntry .kubeApiserver } else m.fatal .kubeconfig
  | .appendEntry s => { m with serviceList := m.serviceList ++ [s], pc := afterEntry s }
  | .deferredStop => { m.emit (.stop .kubeProxy) with pc := .newKubeClient }
  | .newKubeClient => if ok then { m with pc := .waitForNode } else m.fatal .kubeClient
  | .waitForNode => { m with shutdown := .waiting, pc := .setGraceful }
  | .setGraceful => { m with gracefulTerminationMode := true, pc := .enableHealthChecks }
  | .enableHealthChecks =>
    { m with unhealthyCount := fun s => if s ∈ m.serviceList then some 0 else m.unhealthyCount s,
             pc := .awaitExit }
  | .awaitExit =>
    if m.shutdown = .drained then
      { m with effects := m.effects ++ m.serviceHandlers.map .stop, pc := .gracePeriod }
    else m
  | .gracePeriod => { m with outcome := some .finished }

/-- The `exitHandler` closure of `startService` runs for a started process that terminates:
fatal outside graceful termination mode, otherwise `stateChan <- success`. -/
def exitHandler (m : Microkubed) (s : Service) : Microkubed :=
  if s ∈ m.started ∧ s ∉ m.exited then
    let m := { m.emit (.exit s) with exited := m.exited ++ [s] }
    if !m.gracefulTerminationMode then m.fatal (.exitedDuringStartup s)
    else { m with exitQueued := m.exitQueued ++ [s] }
  else m

/-- SIGINT arrives. Before `signal.Notify` it ends the program at once; afterwards the shutdown
goroutine takes it from `sigChan` and starts draining, and later ones change nothing. -/
def sigint (m : Microkubed) : Microkubed :=
  match m.shutdown with
  | .notRegistered => { m with outcome := some .interrupted }
  | .waiting => { m with shutdown := .draining }
  | _ => m

/-- SIGTERM arrives. `signal.Notify(sigChan, os.Interrupt, os.Kill)` does not ask for it, so in
every phase its default action ends the program at once: no exit hook, no `DrainNode`, no
`Stop()`. -/
def sigterm (m : Microkubed) : Microkubed := { m with outcome := some .interrupted }

def drainDone (m : Microkubed) : Microkubed :=
  if m.shutdown = .draining then { m.emit .drain with shutdown := .drained } else m

/-- The `checkService` goroutine of `s`, with counter `n`, takes the message `r`. -/
def check (m : Microkubed) (s : Service) (n : Nat) (r : Received) : Microkubed :=
  match checkServiceStep m.gracefulTerminationMode n r with
  | .error f => m.fatal (.check s f)
  | .ok n' => { m with unhealthyCount := Function.update m.unhealthyCount s (some n') }

def checkHealth (m : Microkubed) (s : Service) (isHealthy : Bool) : Microkubed :=
  match m.unhealthyCount s with
  | none => m
  | some n => m.check s n (.health isHealthy)

def takeExitNotice (m : Microkubed) (s : Service) : Microkubed :=
  match m.unhealthyCount s with
  | some n => if s ∈ m.exitQueued then { m with exitQueued := m.exitQueued.erase s }.check s n .exit else m
  | none => m

def react (m : Microkubed) : Event → Microkubed
  | .main ok => m.mainStep ok
  | .exit s => m.exitHandler s
  | .sigint => m.sigint
  | .sigterm => m.sigterm
  | .drained => m.drainDone
  | .health s isHealthy => m.checkHealth s isHealthy
  | .exitNotice s => m.takeExitNotice s

end Microkubed

/-- One event; once the program has ended nothing changes. -/
def step (m : Microkubed) (e : Event) : Microkubed :=
  if m.outcome.isSome then m else m.react e

def run (evs : List Event) : Microkubed := evs.foldl step init

inductive Phase | starting | running | draining | stopped
  deriving DecidableEq, Repr

/-- Starting until the shutdown goroutine listens, Running until it takes SIGINT, Draining until
`Run` has sent `Stop()` to every handler, then Stopped. -/
def Microkubed.phase (m : Microkubed) : Phase :=
  match m.shutdown with
  | .notRegistered => .starting
  | .waiting => .running
  | _ => if m.pc = .gracePeriod then .stopped else .draining

end Microkube.Orchestrator
