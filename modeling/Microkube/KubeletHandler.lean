import Mathlib.Data.List.Basic

/-!
# Start and Stop of the kubelet handler

`KubeletHandler.Start` builds a new `helpers.CmdHandler` for the kubelet command line, stores it in
`handler.cmd` and starts it. `KubeletHandler.stop`, the hook `NewKubeletHandler` registers with the
base handler, stops whatever `handler.cmd` holds. A second `Start()` therefore replaces
`handler.cmd` without stopping the process the first one launched, and no later `Stop()` can reach
that process.

`helpers.CmdHandler` and `handlers.BaseServiceHandler` are not part of the source; their `Start`,
`Stop` and exit behaviour is modelled from the spec. The model keeps every `CmdHandler` the
handler has built, oldest first, because the processes outlive the field that pointed at them.
-/

namespace Microkube.Kubelet

/-- Modelled from the spec: the state of one `helpers.CmdHandler` and its process (the spec's
ProcessHandle with its started and stopped flags). `Start()` spawns the process, or fails
synchronously when the binary cannot be executed and starts nothing; `Stop()` requests termination
and returns, and is safe before `Start()`, after the exit and when repeated; a started process can
terminate, for whatever reason, and its exit callback fires. -/
structure CmdHandler where
  started : Bool := false
  stopped : Bool := false
  exited : Bool := false
  deriving DecidableEq, Repr

def CmdHandler.start (c : CmdHandler) (ok : Bool) : CmdHandler × Bool :=
  if ok then ({ c with started := true }, true) else (c, false)

def CmdHandler.stop (c : CmdHandler) : CmdHandler := { c with stopped := true }

def CmdHandler.exit (c : CmdHandler) : CmdHandler := { c with exited := c.started }

/-- A launched process that is still running and has not been asked to stop. -/
def CmdHandler.live (c : CmdHandler) : Bool := c.started && !c.exited && !c.stopped

/-- The kubelet handler's `cmd` field, and every `CmdHandler` its `Start()` calls have built. -/
structure KubeletHandler where
  cmd : Option Nat := none
  cmds : List CmdHandler := []
  deriving DecidableEq, Repr

/-- `(handler *KubeletHandler) Start()`: `handler.cmd = helpers.NewCmdHandler(...)`, then
`return handler.cmd.Start()`. -/
def KubeletHandler.start (h : KubeletHandler) (ok : Bool) : KubeletHandler × Bool :=
  let (c, res) := ({} : CmdHandler).start ok
  ({ cmd := some h.cmds.length, cmds := h.cmds ++ [c] }, res)

/-- `(handler *KubeletHandler) stop()`: `if handler.cmd != nil { handler.cmd.Stop() }`. -/
def KubeletHandler.stop (h : KubeletHandler) : KubeletHandler :=
  match h.cmd with
  | none => h
  | some i => { h with cmds := h.cmds.modify CmdHandler.stop i }

/-- The calls a `KubeletHandler` can receive, and the exit of the `i`-th process it launched.
`Stop()` is `BaseServiceHandler.Stop`, which the spec describes as delegating to the stop hook. -/
inductive Call
  | start (ok : Bool)
  | stop
  | exit (i : Nat)
  deriving DecidableEq, Repr

def KubeletHandler.call (h : KubeletHandler) : Call → KubeletHandler
  | .start ok => (h.start ok).1
  | .stop => h.stop
  | .exit i => { h with cmds := h.cmds.modify CmdHandler.exit i }

def run (calls : List Call) : KubeletHandler := calls.foldl KubeletHandler.call {}

def KubeletHandler.liveCount (h : KubeletHandler) : Nat := (h.cmds.filter CmdHandler.live).length

def KubeletHandler.currentLive (h : KubeletHandler) : Bool :=
  match h.cmd with
  | none => false
  | some i => (h.cmds[i]?.map CmdHandler.live).getD false

/-- Every `Start()` of the sequence comes while the current process, if any, is not running
unasked to stop: no `Start()` is repeated over a live process. -/
def Disciplined : KubeletHandler → List Call → Bool
  | _, [] => true
  | h, c :: cs => (match c with | .start _ => !h.currentLive | _ => true) && Disciplined (h.call c) cs

/-- Every launched process running unasked to stop is the one `handler.cmd` holds. -/
def OnlyCurrentLive (h : KubeletHandler) : Prop :=
  ∀ i c, h.cmds[i]? = some c → c.live = true → h.cmd = some i

variable {h : KubeletHandler}

@[simp] theorem CmdHandler.stop_live (c : CmdHandler) : c.stop.live = false := by
  simp [CmdHandler.stop, CmdHandler.live]

theorem CmdHandler.live_of_exit {c : CmdHandler} (hc : c.exit.live = true) : c.live = true := by
  revert hc; cases c; simp [CmdHandler.exit, CmdHandler.live]

theorem currentLive_of_live (hi : OnlyCurrentLive h) {i : Nat} {c : CmdHandler}
    (hc : h.cmds[i]? = some c) (hl : c.live = true) : h.currentLive = true := by
  simp [KubeletHandler.currentLive, hi i c hc hl, hc, hl]

theorem start_onlyCurrentLive (hi : OnlyCurrentLive h) (hcur : h.currentLive = false) (ok : Bool) :
    OnlyCurrentLive (h.start ok).1 := by
  intro j c hc hl
  simp only [KubeletHandler.start] at hc ⊢
  rcases Nat.lt_or_ge j h.cmds.length with hj | hj
  · rw [List.getElem?_append_left hj] at hc
    exact absurd (currentLive_of_live hi hc hl) (by simp [hcur])
  · rw [List.getElem?_append_right hj] at hc
    obtain ⟨hlt, -⟩ := List.getElem?_eq_some_iff.mp hc
    simp only [List.length_singleton] at hlt
    simp only [Option.some.injEq]; omega

theorem stop_no_live (hi : OnlyCurrentLive h) : ∀ c ∈ h.stop.cmds, c.live = false := by
  intro c hc
  obtain ⟨j, hj⟩ := List.getElem?_of_mem hc
  by_contra hl
  simp only [Bool.not_eq_false] at hl
  unfold KubeletHandler.stop at hj
  split at hj
  · rename_i hnone
    exact absurd (hi j c hj hl) (by simp [hnone])
  · rename_i i hcmd
    rw [List.getElem?_modify] at hj
    split_ifs at hj with hij
    · obtain ⟨c', -, rfl⟩ := Option.map_eq_some'.mp hj
      simp at hl
    · obtain ⟨c', hc', rfl⟩ := Option.map_eq_some'.mp hj
      exact hij (Option.some.inj ((hcmd.symm.trans (hi j c' hc' hl))))

theorem call_onlyCurrentLive (hi : OnlyCurrentLive h) (c : Call)
    (hc : (match c with | .start _ => !h.currentLive | _ => true) = true) :
    OnlyCurrentLive (h.call c) := by
  cases c with
  | start ok => exact start_onlyCurrentLive hi (by simpa using hc) ok
  | stop =>
    intro j c hj hl
    exact absurd hl (by simp [stop_no_live hi c (List.getElem?_mem hj)])
  | exit i =>
    intro j c hj hl
    simp only [KubeletHandler.call, List.getElem?_modify] at hj ⊢
    split_ifs at hj
    · obtain ⟨c', hc', rfl⟩ := Option.map_eq_some'.mp hj
      exact hi j c' hc' (CmdHandler.live_of_exit hl)
    · obtain ⟨c', hc', rfl⟩ := Option.map_eq_some'.mp hj
      exact hi j _ hc' hl

theorem run_onlyCurrentLive (calls : List Call) :
    ∀ h, OnlyCurrentLive h → Disciplined h calls = true → OnlyCurrentLive (calls.foldl KubeletHandler.call h) := by
  induction calls with
  | nil => exact fun h hi _ => hi
  | cons c cs ih =>
    intro h hi hd
    simp only [Disciplined, Bool.and_eq_true] at hd
    exact ih _ (call_onlyCurrentLive hi c hd.1) hd.2

end Microkube.Kubelet
