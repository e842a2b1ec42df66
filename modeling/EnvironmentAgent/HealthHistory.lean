import EnvironmentAgent.HealthMonitor
import Mathlib.Data.List.Infix

/-! # Health as a function of the recorded results

What a state machine shows after a whole history of results, in terms of the history alone. -/
namespace HealthHistory

open HealthMonitor
open RoutingEffects (ProviderStatus)

def record (sm : StateMachine) (results : List HealthCheckResult) : StateMachine :=
  results.foldl StateMachine.recordResult sm

def transitions (sm : StateMachine) : List HealthCheckResult → List Transition
  | [] => []
  | r :: rs => sm.transition r :: transitions (sm.recordResult r) rs

def Chains : ProviderStatus → List Transition → ProviderStatus → Prop
  | first, [], last => first = last
  | first, t :: ts, last => t.1 = first ∧ Chains t.2 ts last

theorem chains_transitions (sm : StateMachine) (results : List HealthCheckResult) :
    Chains sm.state (transitions sm results) (record sm results).state := by
  induction results generalizing sm with
  | nil => rfl
  | cons r rs ih => exact ⟨rfl, ih (sm.recordResult r)⟩

def trailingFailures (results : List HealthCheckResult) : ℕ :=
  (results.reverse.takeWhile (· = .failed)).length

def reported (initialState : ProviderStatus) (results : List HealthCheckResult) :
    ProviderStatus :=
  match results.reverse.find? (· ≠ .failed) with
  | some .healthy => .ready
  | some .unhealthy => .unhealthy
  | _ => initialState

section

variable {results : List HealthCheckResult} {r : HealthCheckResult} {initialState : ProviderStatus}

@[simp] theorem trailingFailures_nil : trailingFailures [] = 0 := rfl

@[simp] theorem trailingFailures_failed :
    trailingFailures (results ++ [.failed]) = trailingFailures results + 1 := by
  simp [trailingFailures]

theorem trailingFailures_of_ne (hr : r ≠ .failed) : trailingFailures (results ++ [r]) = 0 := by
  simp [trailingFailures, hr]

@[simp] theorem reported_nil : reported initialState [] = initialState := rfl

@[simp] theorem reported_failed :
    reported initialState (results ++ [.failed]) = reported initialState results := by
  simp [reported]

@[simp] theorem reported_healthy : reported initialState (results ++ [.healthy]) = .ready := by
  simp [reported]

@[simp] theorem reported_unhealthy :
    reported initialState (results ++ [.unhealthy]) = .unhealthy := by
  simp [reported]

theorem reported_ne_unavailable (hi : initialState ≠ .unavailable) :
    reported initialState results ≠ .unavailable := by
  unfold reported
  split
  · simp
  · simp
  · exact hi

theorem replicate_suffix_iff {k : ℕ} :
    List.replicate k .failed <:+ results ↔ k ≤ trailingFailures results := by
  induction results using List.reverseRecOn generalizing k with
  | nil => simp
  | append_singleton rs r ih =>
    cases k with
    | zero => simp
    | succ k =>
      rw [List.replicate_succ', List.suffix_concat_iff]
      by_cases hr : r = .failed
      · subst hr
        simp [ih]
      · simp [trailingFailures_of_ne hr, Ne.symm hr]

end

structure Shows (n : ℤ) (initialState : ProviderStatus) (results : List HealthCheckResult)
    (sm : StateMachine) : Prop where
  threshold : sm.failureThreshold = n
  counter : (sm.failureCounter : ℤ) = min n (trailingFailures results)
  state : sm.state =
    if n ≤ trailingFailures results then .unavailable else reported initialState results

section

variable {n : ℤ} {initialState : ProviderStatus} {results : List HealthCheckResult}
  {sm : StateMachine}

theorem shows_new (hn : 1 ≤ n) : Shows n initialState [] (newStateMachine n initialState) where
  threshold := rfl
  counter := by
    simp [newStateMachine]
    omega
  state := by
    rw [if_neg (by simp; omega)]
    rfl

theorem Shows.reported (h : Shows n initialState results sm) (hn : 1 ≤ n) {r : HealthCheckResult}
    (hr : r ≠ .failed) : Shows n initialState (results ++ [r]) (sm.recordResult r) := by
  have hrun : ¬ n ≤ (trailingFailures (results ++ [r]) : ℤ) := by
    rw [trailingFailures_of_ne hr]
    omega
  cases r with
  | failed => exact absurd rfl hr
  | healthy =>
    refine ⟨h.threshold, ?_, ?_⟩
    · rw [trailingFailures_of_ne hr]
      simp [StateMachine.recordResult]
      omega
    · rw [if_neg hrun, reported_healthy]
      rfl
  | unhealthy =>
    refine ⟨h.threshold, ?_, ?_⟩
    · rw [trailingFailures_of_ne hr]
      simp [StateMachine.recordResult]
      omega
    · rw [if_neg hrun, reported_unhealthy]
      rfl

theorem Shows.down (h : Shows n initialState results sm)
    (hdown : n ≤ (trailingFailures results : ℤ)) :
    Shows n initialState (results ++ [.failed]) (sm.recordResult .failed) := by
  have hcounter := h.counter
  have hthreshold := h.threshold
  have hstate := h.state
  rw [if_pos hdown] at hstate
  have hfull : sm.failureThreshold ≤ (sm.failureCounter : ℤ) := by omega
  have hrec : sm.recordResult .failed = sm := by
    simp only [StateMachine.recordResult, hstate, ne_eq, not_true, if_false, if_pos hfull]
    rw [← hstate]
  rw [hrec]
  refine ⟨hthreshold, ?_, ?_⟩
  · rw [trailingFailures_failed]
    omega
  · rw [if_pos (by rw [trailingFailures_failed]; omega)]
    exact hstate

theorem Shows.counted (h : Shows n initialState results sm) (hi : initialState ≠ .unavailable)
    (hup : ¬ n ≤ (trailingFailures results : ℤ)) :
    Shows n initialState (results ++ [.failed]) (sm.recordResult .failed) := by
  have hcounter := h.counter
  have hthreshold := h.threshold
  have hstate := h.state
  rw [if_neg hup] at hstate
  have havailable : sm.state ≠ .unavailable := by
    rw [hstate]
    exact reported_ne_unavailable hi
  have hrec : sm.recordResult .failed =
      if sm.failureThreshold ≤ ((sm.failureCounter + 1 : ℕ) : ℤ) then
        { sm with failureCounter := sm.failureCounter + 1, state := .unavailable }
      else { sm with failureCounter := sm.failureCounter + 1 } := by
    simp only [StateMachine.recordResult, if_pos havailable]
  rw [hrec]
  split
  · refine ⟨hthreshold, ?_, ?_⟩
    · rw [trailingFailures_failed]
      push_cast
      omega
    · rw [if_pos (by rw [trailingFailures_failed]; push_cast; omega)]
  · refine ⟨hthreshold, ?_, ?_⟩
    · rw [trailingFailures_failed]
      push_cast
      omega
    · rw [if_neg (by rw [trailingFailures_failed]; push_cast; omega), reported_failed]
      exact hstate

theorem Shows.failed (h : Shows n initialState results sm) (hi : initialState ≠ .unavailable) :
    Shows n initialState (results ++ [.failed]) (sm.recordResult .failed) := by
  by_cases hdown : n ≤ (trailingFailures results : ℤ)
  · exact h.down hdown
  · exact h.counted hi hdown

theorem shows_record (hn : 1 ≤ n) (hi : initialState ≠ .unavailable)
    (results : List HealthCheckResult) :
    Shows n initialState results (record (newStateMachine n initialState) results) := by
  induction results using List.reverseRecOn with
  | nil => exact shows_new hn
  | append_singleton rs r ih =>
    rw [record, List.foldl_append]
    by_cases hr : r = .failed
    · subst hr
      exact ih.failed hi
    · exact ih.reported hn hr

end

/-- The state, the counter and the transitions after any history of results. -/
theorem health_determined (n : ℤ) (hn : 1 ≤ n) (initialState : ProviderStatus)
    (hi : initialState = .ready ∨ initialState = .unhealthy) (results : List HealthCheckResult) :
    let sm := record (newStateMachine n initialState) results
    (sm.state = .unavailable ↔ List.replicate n.toNat .failed <:+ results) ∧
      (¬ List.replicate n.toNat .failed <:+ results → sm.state = reported initialState results) ∧
      (sm.failureCounter : ℤ) = min n (trailingFailures results) ∧
      Chains initialState (transitions (newStateMachine n initialState) results) sm.state := by
  have hne : initialState ≠ .unavailable := by
    rcases hi with rfl | rfl <;> simp
  have hshows := shows_record hn hne results
  have hrun : List.replicate n.toNat .failed <:+ results ↔
      n ≤ (trailingFailures results : ℤ) := by
    rw [replicate_suffix_iff]
    omega
  refine ⟨?_, ?_, hshows.counter, chains_transitions (newStateMachine n initialState) results⟩
  · rw [hrun, hshows.state]
    by_cases hdown : n ≤ (trailingFailures results : ℤ)
    · simp [hdown]
    · simp [reported_ne_unavailable hne]
  · intro hnot
    rw [hshows.state, if_neg (mt hrun.mpr hnot)]

theorem health_determined_recovery :
    let sm := record (newStateMachine 2 .unhealthy) [.failed, .failed, .failed, .healthy, .failed]
    sm.state = .ready ∧ sm.failureCounter = 1 := by
  obtain ⟨_, hstate, hcounter, _⟩ := health_determined 2 (by decide) .unhealthy (Or.inr rfl)
    [.failed, .failed, .failed, .healthy, .failed]
  have hrun : trailingFailures [.failed, .failed, .failed, .healthy, .failed] = 1 := by decide
  exact ⟨hstate (by decide), by omega⟩

end HealthHistory
