import Mathlib.Data.List.Basic
import Mathlib.Data.Nat.Find

/-!
# The steady-state monitor `checkService`

Once the node is ready, `enableHealthChecks` arms the periodic prober of every entry of
`serviceList` and starts one `checkService(entry)` goroutine for it. The goroutine loops on a
`select` over the entry's exit channel and health channel: an exit is fatal unless
`gracefulTerminationMode` is set; an unhealthy `HealthMessage` increments `unhealthyCount` and the
tenth in a row is fatal; a healthy one resets the counter.

The loop is `checkServiceStep` folded over the messages received. `checkService_true_zero` states
what it computes in graceful termination mode, the mode every `checkService` goroutine runs in, in
terms of `trailingUnhealthy`, the number of unhealthy messages at the end of what was received,
with no reference to the loop's counter; `checkService_fatal_at_tenth_unhealthy` reads it as two
equivalences.
-/

namespace Microkube.CheckService

/-- A message `checkService` takes: from `handler.exitChan`, or a `HealthMessage` from
`handler.healthChan`. -/
inductive Received
  | exit
  | health (isHealthy : Bool)
  deriving DecidableEq, Repr

/-- The two `log.Fatal` calls of `checkService`. -/
inductive CheckFatal
  | serviceExited
  | tooManyFailedHealthChecks
  deriving DecidableEq, Repr

/-- The text each `log.Fatal` logs, for the entry named `name`. -/
def CheckFatal.message (name : String) : CheckFatal → String
  | .serviceExited => "Service " ++ name ++ " exitted, aborting!"
  | .tooManyFailedHealthChecks => "Too many failed health checks, aborting!"

/-- One iteration of the loop with counter `unhealthyCount`: the new counter, or the `log.Fatal`
it calls. `gracefulTerminationMode` is read when an exit arrives. -/
def checkServiceStep (gracefulTerminationMode : Bool) (unhealthyCount : Nat) :
    Received → Except CheckFatal Nat
  | .exit => if !gracefulTerminationMode then .error .serviceExited else .ok unhealthyCount
  | .health isHealthy =>
    if !isHealthy then
      if unhealthyCount + 1 = 10 then .error .tooManyFailedHealthChecks else .ok (unhealthyCount + 1)
    else .ok 0

/-- The loop over the messages received so far: the counter, or the first `log.Fatal` together with
the number of messages taken up to and including the one that caused it. -/
def checkService (gracefulTerminationMode : Bool) (unhealthyCount : Nat) :
    List Received → Except (CheckFatal × Nat) Nat
  | [] => .ok unhealthyCount
  | r :: rs =>
    match checkServiceStep gracefulTerminationMode unhealthyCount r with
    | .error f => .error (f, 1)
    | .ok n => (checkService gracefulTerminationMode n rs).mapError fun (f, k) => (f, k + 1)

/-- The health results among the received messages, oldest first. -/
def healthResults (rs : List Received) : List Bool :=
  rs.filterMap fun | .exit => none | .health b => some b

/-- The number of consecutive unhealthy messages at the end of what was received; exits are not
health messages and do not break a run. -/
def trailingUnhealthy (rs : List Received) : Nat :=
  ((healthResults rs).reverse.takeWhile (!·)).length

/-- How one more message changes `trailingUnhealthy`. -/
def nextCount (count : Nat) : Received → Nat
  | .exit => count
  | .health true => 0
  | .health false => count + 1

theorem trailingUnhealthy_append (rs : List Received) (r : Received) :
    trailingUnhealthy (rs ++ [r]) = nextCount (trailingUnhealthy rs) r := by
  rcases r with _ | _ | _ <;> simp [trailingUnhealthy, healthResults, nextCount]

/-- A step that goes on from a counter below ten leaves it below ten. -/
theorem checkServiceStep_lt_ten {g : Bool} {c c' : Nat} {r : Received} (hc : c < 10)
    (h : checkServiceStep g c r = .ok c') : c' < 10 := by
  rcases r with _ | _ | _ <;> simp only [checkServiceStep] at h <;> split_ifs at h <;> cases h <;> omega

/-- So does the loop. -/
theorem checkService_lt_ten {g : Bool} : ∀ {c n : Nat} (rs : List Received), c < 10 →
    checkService g c rs = .ok n → n < 10
  | _, _, [], hc, h => by cases h; exact hc
  | c, n, r :: rs, hc, h => by
    simp only [checkService] at h
    rcases hs : checkServiceStep g c r with f | c' <;> simp only [hs] at h
    · cases h
    · rcases hr : checkService g c' rs with _ | n' <;> simp only [hr, Except.mapError] at h <;> cases h
      exact checkService_lt_ten rs (checkServiceStep_lt_ten hc hs) hr

/-- In graceful termination mode a step reports the tenth unhealthy message in a row and otherwise
moves the counter as `nextCount` does. -/
theorem checkServiceStep_graceful {c : Nat} (hc : c ≠ 10) (r : Received) :
    checkServiceStep true c r =
      if nextCount c r = 10 then .error .tooManyFailedHealthChecks else .ok (nextCount c r) := by
  rcases r with _ | _ | _ <;> simp [checkServiceStep, nextCount, hc]

private theorem take_succ_append (p rs : List Received) (r : Received) (j : Nat) :
    p ++ (r :: rs).take (j + 1) = (p ++ [r]) ++ rs.take j := by
  simp

theorem checkService_of_no_tenth (rs : List Received) :
    ∀ p, (∀ j ≤ rs.length, trailingUnhealthy (p ++ rs.take j) ≠ 10) →
      checkService true (trailingUnhealthy p) rs = .ok (trailingUnhealthy (p ++ rs)) := by
  induction rs with
  | nil => intro p _; simp [checkService]
  | cons r rs ih =>
    intro p hp
    have h0 : trailingUnhealthy p ≠ 10 := by simpa using hp 0 (by simp)
    have h1 := hp 1 (by simp)
    simp only [take_succ_append, List.take_zero, List.append_nil, trailingUnhealthy_append] at h1
    have hrest := ih (p ++ [r]) fun j hj => by
      simpa [take_succ_append] using hp (j + 1) (by simpa using hj)
    rw [checkService, checkServiceStep_graceful h0, if_neg h1, ← trailingUnhealthy_append]
    simp [hrest, Except.mapError]

theorem checkService_of_first_tenth (rs : List Received) :
    ∀ p k, 0 < k → k ≤ rs.length → trailingUnhealthy (p ++ rs.take k) = 10 →
      (∀ j < k, trailingUnhealthy (p ++ rs.take j) ≠ 10) →
      checkService true (trailingUnhealthy p) rs = .error (.tooManyFailedHealthChecks, k) := by
  induction rs with
  | nil => intro p k hk hkl; simp at hkl; omega
  | cons r rs ih =>
    intro p k hk hkl hten hbefore
    have h0 : trailingUnhealthy p ≠ 10 := by simpa using hbefore 0 hk
    obtain ⟨k, rfl⟩ : ∃ k', k = k' + 1 := ⟨k - 1, by omega⟩
    rw [checkService, checkServiceStep_graceful h0]
    rcases Nat.eq_zero_or_pos k with rfl | hk'
    · simp only [take_succ_append, List.take_zero, List.append_nil, trailingUnhealthy_append] at hten
      simp [hten]
    · have h1 := hbefore 1 (by omega)
      simp only [take_succ_append, List.take_zero, List.append_nil, trailingUnhealthy_append] at h1
      rw [if_neg h1, ← trailingUnhealthy_append]
      have := ih (p ++ [r]) k hk' (by simpa using hkl) (by simpa [take_succ_append] using hten)
        fun j hj => by simpa [take_succ_append] using hbefore (j + 1) (by omega)
      simp [this, Except.mapError]

@[simp] theorem trailingUnhealthy_nil : trailingUnhealthy [] = 0 := rfl

/-- One more message: the loop goes on from the counter it had, or has already stopped. -/
theorem checkService_append_singleton (g : Bool) (rs : List Received) (r : Received) :
    ∀ c, checkService g c (rs ++ [r]) =
      match checkService g c rs with
      | .ok n => (checkServiceStep g n r).mapError fun f => (f, rs.length + 1)
      | .error e => .error e := by
  induction rs with
  | nil =>
    intro c
    simp only [List.nil_append, checkService]
    cases checkServiceStep g c r <;> rfl
  | cons r' rs ih =>
    intro c
    rw [List.cons_append, checkService, checkService]
    cases checkServiceStep g c r' with
    | error f => rfl
    | ok n =>
      simp only [ih n, List.length_cons]
      cases checkService g n rs with
      | error e => rfl
      | ok k => rcases hs : checkServiceStep g k r with f | n' <;> simp [hs, Except.mapError]

/-- What the loop computes from a fresh counter in graceful termination mode: the `log.Fatal` at the
first message that completes ten unhealthy ones in a row, or, if there is none, the number of
unhealthy messages at the end. -/
theorem checkService_true_zero (rs : List Received) :
    (∃ k, checkService true 0 rs = .error (.tooManyFailedHealthChecks, k) ∧ 0 < k ∧ k ≤ rs.length ∧
      trailingUnhealthy (rs.take k) = 10 ∧ ∀ j < k, trailingUnhealthy (rs.take j) ≠ 10) ∨
    (checkService true 0 rs = .ok (trailingUnhealthy rs) ∧
      ∀ j ≤ rs.length, trailingUnhealthy (rs.take j) ≠ 10) := by
  by_cases hex : ∃ k, k ≤ rs.length ∧ trailingUnhealthy (rs.take k) = 10
  · obtain ⟨hle, hten⟩ := Nat.find_spec hex
    have hmin : ∀ j < Nat.find hex, trailingUnhealthy (rs.take j) ≠ 10 := fun j hj h =>
      Nat.find_min hex hj ⟨by omega, h⟩
    have hpos : 0 < Nat.find hex := Nat.pos_of_ne_zero fun h => by simp [h] at hten
    refine .inl ⟨_, ?_, hpos, hle, hten, hmin⟩
    simpa using checkService_of_first_tenth rs [] _ hpos hle (by simpa using hten) (by simpa using hmin)
  · push_neg at hex
    exact .inr ⟨by simpa using checkService_of_no_tenth rs [] (by simpa using hex), hex⟩

theorem checkService_fatal_iff (rs : List Received) (f : CheckFatal) (k : Nat) :
    checkService true 0 rs = .error (f, k) ↔
      f = .tooManyFailedHealthChecks ∧ 0 < k ∧ k ≤ rs.length ∧
        trailingUnhealthy (rs.take k) = 10 ∧ ∀ j < k, trailingUnhealthy (rs.take j) ≠ 10 := by
  refine ⟨fun h => ?_, fun ⟨hf, hk, hkl, hten, hbefore⟩ => hf ▸ by
    simpa using checkService_of_first_tenth rs [] k hk hkl (by simpa using hten) (by simpa using hbefore)⟩
  rcases checkService_true_zero rs with ⟨k', h', hprops⟩ | ⟨h', -⟩ <;> rw [h'] at h <;> cases h
  exact ⟨rfl, hprops⟩

theorem checkService_ok_iff (rs : List Received) (n : Nat) :
    checkService true 0 rs = .ok n ↔
      n = trailingUnhealthy rs ∧ ∀ j ≤ rs.length, trailingUnhealthy (rs.take j) ≠ 10 := by
  refine ⟨fun h => ?_, fun ⟨hn, hno⟩ => hn ▸ by
    simpa using checkService_of_no_tenth rs [] (by simpa using hno)⟩
  rcases checkService_true_zero rs with ⟨k', h', -⟩ | ⟨h', hno⟩ <;> rw [h'] at h <;> cases h
  exact ⟨rfl, hno⟩

/-- From a fresh counter in graceful termination mode, `checkService` calls `log.Fatal` exactly at
the first message that completes ten unhealthy messages in a row, and only for health; until then
its counter is the number of unhealthy messages at the end of what it has received. -/
theorem checkService_fatal_at_tenth_unhealthy (rs : List Received) :
    (∀ f k, checkService true 0 rs = .error (f, k) ↔
      f = .tooManyFailedHealthChecks ∧ 0 < k ∧ k ≤ rs.length ∧
        trailingUnhealthy (rs.take k) = 10 ∧ ∀ j < k, trailingUnhealthy (rs.take j) ≠ 10) ∧
    (∀ n, checkService true 0 rs = .ok n ↔
      n = trailingUnhealthy rs ∧ ∀ j ≤ rs.length, trailingUnhealthy (rs.take j) ≠ 10) :=
  ⟨checkService_fatal_iff rs, checkService_ok_iff rs⟩

end Microkube.CheckService
