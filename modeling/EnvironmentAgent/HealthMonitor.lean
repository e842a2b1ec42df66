import EnvironmentAgent.LabelledRuns
import EnvironmentAgent.ProviderState

/-! # The health monitor

`health/monitor/statemachine.go` and `monitor.go`. A state machine is a heap cell, so that
`entry.sm == sm` compares cells. Between two sections under `m.mu` any other step may happen.
`onTransition` is set, as it is before `Start`. -/
namespace HealthMonitor

open LabelledRuns
open RoutingEffects (ProviderStatus)
open ProviderState (Time HealthState MonitorEntry Checker)

inductive HealthCheckResult where
  | healthy
  | unhealthy
  | failed
  deriving DecidableEq, Repr

structure StateMachine where
  state : ProviderStatus
  failureCounter : ℕ
  failureThreshold : ℤ
  deriving DecidableEq, Repr

def newStateMachine (failureThreshold : ℤ) (initialState : ProviderStatus) : StateMachine :=
  ⟨initialState, 0, failureThreshold⟩

def StateMachine.recordResult (sm : StateMachine) : HealthCheckResult → StateMachine
  | .healthy => { sm with failureCounter := 0, state := .ready }
  | .unhealthy => { sm with failureCounter := 0, state := .unhealthy }
  | .failed =>
    let counter :=
      if sm.state ≠ .unavailable then sm.failureCounter + 1 else sm.failureCounter
    if sm.failureThreshold ≤ counter then
      { sm with failureCounter := counter, state := .unavailable }
    else { sm with failureCounter := counter }

abbrev Transition := ProviderStatus × ProviderStatus

def StateMachine.transition (sm : StateMachine) (result : HealthCheckResult) : Transition :=
  (sm.state, (sm.recordResult result).state)

structure ProviderEntry extends MonitorEntry where
  sm : ℕ
  deriving DecidableEq, Repr

inductive Phase where
  | checking
  | calling (t : Transition)
  deriving DecidableEq, Repr

structure Check where
  id : String
  sm : ℕ
  checker : Checker
  phase : Phase
  deriving DecidableEq, Repr

/-- Who checks: a call of `RegisterProvider`, known by its cell, or a goroutine of `checkAll`. -/
inductive Worker where
  | initial (sm : ℕ)
  | periodic (id : String)
  deriving DecidableEq, Repr

structure Monitor where
  failureThreshold : ℤ
  providers : String → Option ProviderEntry
  machines : ℕ → StateMachine
  allocated : ℕ
  tracker : String → Option HealthState
  stopped : Bool
  checks : Worker → Option Check
  running : Bool

def newMonitor (failureThreshold : ℤ) (tracker : String → Option HealthState) : Monitor where
  failureThreshold
  providers := fun _ => none
  machines := fun _ => newStateMachine failureThreshold .unhealthy
  allocated := 0
  tracker
  stopped := false
  checks := fun _ => none
  running := false

def setState (tracker : String → Option HealthState) (id : String) (status : ProviderStatus)
    (lastCheckTime : Time) : String → Option HealthState :=
  if id = "" then tracker else Function.update tracker id (some ⟨status, lastCheckTime⟩)

namespace Monitor

def registerProvider (m : Monitor) (id : String) (entry : MonitorEntry)
    (initialState : ProviderStatus) (initialCheck : Bool) : Monitor :=
  if m.stopped then m
  else
    let sm := m.allocated
    { m with
      providers := Function.update m.providers id (some { entry with sm })
      machines := Function.update m.machines sm (newStateMachine m.failureThreshold initialState)
      allocated := sm + 1
      checks := Function.update m.checks (.initial sm)
        (if initialCheck then some ⟨id, sm, entry.checker, .checking⟩ else none) }

def deregisterProvider (m : Monitor) (id : String) : Monitor :=
  { m with providers := Function.update m.providers id none }

def checkAll (m : Monitor) : Monitor :=
  { m with
    running := true
    checks := fun
      | .initial sm => m.checks (.initial sm)
      | .periodic id => (m.providers id).map fun e => ⟨id, e.sm, e.checker, .checking⟩ }

def IsCurrent (m : Monitor) (c : Check) : Prop :=
  (m.providers c.id).map ProviderEntry.sm = some c.sm

instance (m : Monitor) (c : Check) : Decidable (m.IsCurrent c) :=
  inferInstanceAs (Decidable (_ = _))

/-- When a worker records: `RegisterProvider` asks for `!m.stopped` as well, `checkProvider`
does not. -/
def Records (m : Monitor) (c : Check) : Worker → Prop
  | .initial _ => m.stopped = false ∧ m.IsCurrent c
  | .periodic _ => m.IsCurrent c

instance (m : Monitor) (c : Check) : (w : Worker) → Decidable (m.Records c w)
  | .initial _ => inferInstanceAs (Decidable (_ ∧ _))
  | .periodic _ => inferInstanceAs (Decidable (m.IsCurrent c))

def transition (m : Monitor) (c : Check) (result : HealthCheckResult) : Transition :=
  (m.machines c.sm).transition result

def followUp (c : Check) (t : Transition) : Option Check :=
  if t.1 ≠ t.2 then some { c with phase := .calling t } else none

def record (m : Monitor) (w : Worker) (c : Check) (result : HealthCheckResult) (now : Time) :
    Monitor :=
  { m with
    machines := Function.update m.machines c.sm ((m.machines c.sm).recordResult result)
    tracker := setState m.tracker c.id (m.transition c result).2 now
    checks := Function.update m.checks w (followUp c (m.transition c result)) }

def leave (m : Monitor) (w : Worker) : Monitor :=
  { m with checks := Function.update m.checks w none }

end Monitor

inductive Event where
  | registered (id : String) (sm : ℕ)
  | refused
  | deregistered (id : String)
  | roundStarted
  | roundEnded
  | recorded (w : Worker) (id : String) (sm : ℕ) (t : Transition)
  | discarded (w : Worker)
  | called (id : String) (sm : ℕ) (t : Transition)
  | stop
  /-- The provider service writes the tracker's state of the id itself. -/
  | written (id : String)
  deriving DecidableEq, Repr

/-- Rounds follow one another, since the monitoring loop waits for a round's checks; a round may
still start after `Stop` has set `stopped`. -/
inductive Step : Monitor → Event → Monitor → Prop where
  | register {m : Monitor} {id : String} (entry : MonitorEntry) (initialState : ProviderStatus)
      (initialCheck : Bool) (hid : id ≠ "") (hs : m.stopped = false) :
      Step m (.registered id m.allocated) (m.registerProvider id entry initialState initialCheck)
  | refuse {m : Monitor} {id : String} (entry : MonitorEntry) (initialState : ProviderStatus)
      (initialCheck : Bool) (hs : m.stopped = true) :
      Step m .refused (m.registerProvider id entry initialState initialCheck)
  | deregister {m : Monitor} (id : String) : Step m (.deregistered id) (m.deregisterProvider id)
  | startRound {m : Monitor} (hr : m.running = false) : Step m .roundStarted m.checkAll
  | endRound {m : Monitor} (hr : m.running = true) (hdone : ∀ id, m.checks (.periodic id) = none) :
      Step m .roundEnded { m with running := false }
  | record {m : Monitor} {w : Worker} {c : Check} (result : HealthCheckResult) (now : Time)
      (hc : m.checks w = some c) (hp : c.phase = .checking) (h : m.Records c w) :
      Step m (.recorded w c.id c.sm (m.transition c result)) (m.record w c result now)
  | discard {m : Monitor} {w : Worker} {c : Check} (hc : m.checks w = some c)
      (hp : c.phase = .checking) (h : ¬m.Records c w) : Step m (.discarded w) (m.leave w)
  | call {m : Monitor} {w : Worker} {c : Check} {t : Transition} (hc : m.checks w = some c)
      (hp : c.phase = .calling t) : Step m (.called c.id c.sm t) (m.leave w)
  | stop {m : Monitor} : Step m .stop { m with stopped := true }
  /-- `trackExternalProvider`, before it calls `RegisterProvider`. -/
  | track {m : Monitor} (id : String) :
      Step m (.written id) { m with tracker := setState m.tracker id .unhealthy 0 }
  /-- `removeStaleEmbedded`, before it calls `DeregisterProvider`. -/
  | forget {m : Monitor} (id : String) :
      Step m (.written id) { m with tracker := Function.update m.tracker id none }

def Event.registration : Event → Option (String × ℕ)
  | .registered id sm | .recorded _ id sm _ | .called id sm _ => some (id, sm)
  | _ => none

variable {tracker : String → Option HealthState} {status : ProviderStatus}

theorem tracker_setState {id : String} {now : Time} (hid : id ≠ "") :
    setState tracker id status now id = some ⟨status, now⟩ := by
  rw [setState, if_neg hid, Function.update_self]

theorem tracker_setState_ne {id other : String} {now : Time} (hne : other ≠ id) :
    setState tracker id status now other = tracker other := by
  rw [setState]
  split
  · rfl
  · exact Function.update_of_ne hne _ _

section
variable {m : Monitor} {id other : String} {entry : MonitorEntry} {initialState : ProviderStatus}
  {initialCheck : Bool} {w w' : Worker} {c : Check} {result : HealthCheckResult} {now : Time}

theorem Monitor.registerProvider_self (hs : m.stopped = false) :
    (m.registerProvider id entry initialState initialCheck).providers id =
      some { entry with sm := m.allocated } := by
  rw [Monitor.registerProvider, hs]
  exact Function.update_self ..

theorem Monitor.registerProvider_other (hne : other ≠ id) :
    (m.registerProvider id entry initialState initialCheck).providers other =
      m.providers other := by
  rw [Monitor.registerProvider]
  split
  · rfl
  · exact Function.update_of_ne hne ..

theorem Monitor.registerProvider_machines {sm : ℕ} (hlt : sm < m.allocated) :
    (m.registerProvider id entry initialState initialCheck).machines sm = m.machines sm := by
  rw [Monitor.registerProvider]
  split
  · rfl
  · exact Function.update_of_ne (Nat.ne_of_lt hlt) ..

theorem Monitor.registerProvider_allocated (hs : m.stopped = false) :
    (m.registerProvider id entry initialState initialCheck).allocated = m.allocated + 1 := by
  rw [Monitor.registerProvider, hs]
  rfl

theorem Monitor.registerProvider_check (hs : m.stopped = false) :
    (m.registerProvider id entry initialState initialCheck).checks (.initial m.allocated) =
      if initialCheck then some ⟨id, m.allocated, entry.checker, .checking⟩ else none := by
  rw [Monitor.registerProvider, hs]
  exact Function.update_self ..

theorem Monitor.registerProvider_checks (hne : w ≠ .initial m.allocated) :
    (m.registerProvider id entry initialState initialCheck).checks w = m.checks w := by
  rw [Monitor.registerProvider]
  split
  · rfl
  · exact Function.update_of_ne hne ..

theorem Monitor.registerProvider_running :
    (m.registerProvider id entry initialState initialCheck).running = m.running := by
  rw [Monitor.registerProvider]
  split <;> rfl

theorem Monitor.registerProvider_tracker :
    (m.registerProvider id entry initialState initialCheck).tracker = m.tracker := by
  rw [Monitor.registerProvider]
  split <;> rfl

theorem Monitor.registerProvider_of_stopped (hs : m.stopped = true) :
    m.registerProvider id entry initialState initialCheck = m := by
  rw [Monitor.registerProvider, hs]
  rfl

theorem Monitor.deregisterProvider_self : (m.deregisterProvider id).providers id = none :=
  Function.update_self ..

theorem Monitor.deregisterProvider_other (hne : other ≠ id) :
    (m.deregisterProvider id).providers other = m.providers other :=
  Function.update_of_ne hne ..

theorem Monitor.record_checks_self :
    (m.record w c result now).checks w = Monitor.followUp c (m.transition c result) :=
  Function.update_self ..

theorem Monitor.record_checks_ne (hne : w' ≠ w) :
    (m.record w c result now).checks w' = m.checks w' :=
  Function.update_of_ne hne ..

theorem Monitor.leave_checks_self : (m.leave w).checks w = none := Function.update_self ..

theorem Monitor.leave_checks_ne (hne : w' ≠ w) : (m.leave w).checks w' = m.checks w' :=
  Function.update_of_ne hne ..

theorem Monitor.leave_checks_some {d : Check} (h : (m.leave w).checks w' = some d) :
    w' ≠ w ∧ m.checks w' = some d := by
  by_cases heq : w' = w
  · subst heq
    rw [Monitor.leave_checks_self] at h
    cases h
  · exact ⟨heq, Monitor.leave_checks_ne heq ▸ h⟩

theorem Monitor.deregisterProvider_some {e : ProviderEntry}
    (h : (m.deregisterProvider id).providers other = some e) :
    other ≠ id ∧ m.providers other = some e := by
  by_cases heq : other = id
  · subst heq
    rw [Monitor.deregisterProvider_self] at h
    cases h
  · exact ⟨heq, Monitor.deregisterProvider_other heq ▸ h⟩

end

theorem Monitor.Records.isCurrent {m : Monitor} {c : Check} {w : Worker} (h : m.Records c w) :
    m.IsCurrent c := by
  cases w with
  | initial sm => exact h.2
  | periodic id => exact h

theorem followUp_some {c d : Check} {t : Transition} (h : Monitor.followUp c t = some d) :
    t.1 ≠ t.2 ∧ d = { c with phase := .calling t } := by
  rw [Monitor.followUp] at h
  split at h
  · next hne => exact ⟨hne, (Option.some.inj h).symm⟩
  · cases h

def Worker.Serves (c : Check) : Worker → Prop
  | .initial sm => c.sm = sm
  | .periodic id => c.id = id

structure Provenance (l : List Event) (m : Monitor) : Prop where
  registered : ∀ {id sm}, .registered id sm ∈ l → sm < m.allocated ∧ id ≠ ""
  unique : ∀ {id id' sm}, .registered id sm ∈ l → .registered id' sm ∈ l → id = id'
  entry : ∀ {id e}, m.providers id = some e → .registered id e.sm ∈ l
  check : ∀ {w c}, m.checks w = some c → .registered c.id c.sm ∈ l ∧ w.Serves c
  event : ∀ {e id sm}, e ∈ l → e.registration = some (id, sm) → .registered id sm ∈ l
  idle : m.running = false → ∀ id, m.checks (.periodic id) = none

variable {failureThreshold : ℤ}

section
variable {l : List Event} {m v : Monitor} {e : Event}

theorem provenance_newMonitor :
    Provenance [] (newMonitor failureThreshold tracker) where
  registered h := by simp at h
  unique h := by simp at h
  entry h := by simp [newMonitor] at h
  check h := by simp [newMonitor] at h
  event h := by simp at h
  idle _ _ := rfl

theorem Provenance.frame (h : Provenance l m) (hnew : ∀ id sm, e ≠ .registered id sm)
    (hevent : ∀ {id sm}, e.registration = some (id, sm) → .registered id sm ∈ l)
    (hallocated : v.allocated = m.allocated)
    (hentry : ∀ {id d}, v.providers id = some d → m.providers id = some d)
    (hcheck : ∀ {w d}, v.checks w = some d → ∃ c, m.checks w = some c ∧ d.id = c.id ∧ d.sm = c.sm)
    (hidle : v.running = false → ∀ id, v.checks (.periodic id) = none) :
    Provenance (l ++ [e]) v := by
  have hold : ∀ {id sm}, .registered id sm ∈ l ++ [e] → .registered id sm ∈ l := by
    intro id sm hmem
    rcases List.mem_append.mp hmem with hmem | hmem
    · exact hmem
    · exact absurd (List.mem_singleton.mp hmem).symm (hnew id sm)
  constructor
  · intro id sm hmem
    exact hallocated ▸ h.registered (hold hmem)
  · intro id id' sm hmem hmem'
    exact h.unique (hold hmem) (hold hmem')
  · intro id d hd
    exact List.mem_append_left _ (h.entry (hentry hd))
  · intro w d hd
    obtain ⟨c, hc, hid, hsm⟩ := hcheck hd
    obtain ⟨hreg, hserves⟩ := h.check hc
    refine ⟨List.mem_append_left _ (hid ▸ hsm ▸ hreg), ?_⟩
    cases w with
    | initial sm => exact hsm.trans hserves
    | periodic id => exact hid.trans hserves
  · intro a id sm hmem ha
    apply List.mem_append_left
    rcases List.mem_append.mp hmem with hmem | hmem
    · exact h.event hmem ha
    · exact hevent (List.mem_singleton.mp hmem ▸ ha)
  · exact hidle

theorem Provenance.register (h : Provenance l m) {id : String} (entry : MonitorEntry)
    (initialState : ProviderStatus) (initialCheck : Bool) (hid : id ≠ "")
    (hs : m.stopped = false) :
    Provenance (l ++ [.registered id m.allocated])
      (m.registerProvider id entry initialState initialCheck) := by
  have hnew : Event.registered id m.allocated ∈ l ++ [.registered id m.allocated] :=
    List.mem_append_right _ (List.mem_singleton_self _)
  have hcases : ∀ {id' sm}, Event.registered id' sm ∈ l ++ [.registered id m.allocated] →
      .registered id' sm ∈ l ∧ sm < m.allocated ∨ id' = id ∧ sm = m.allocated := by
    intro id' sm hmem
    rcases List.mem_append.mp hmem with hmem | hmem
    · exact Or.inl ⟨hmem, (h.registered hmem).1⟩
    · right
      simpa using hmem
  constructor
  · intro id' sm hmem
    rw [Monitor.registerProvider_allocated hs]
    rcases hcases hmem with ⟨hmem, -⟩ | ⟨rfl, rfl⟩
    · exact ⟨by have := h.registered hmem; omega, (h.registered hmem).2⟩
    · exact ⟨Nat.lt_succ_self _, hid⟩
  · intro id₁ id₂ sm h₁ h₂
    rcases hcases h₁ with ⟨h₁, hlt⟩ | ⟨rfl, rfl⟩ <;> rcases hcases h₂ with ⟨h₂, hlt'⟩ | ⟨rfl, heq⟩
    · exact h.unique h₁ h₂
    · omega
    · omega
    · rfl
  · intro id' d hd
    by_cases heq : id' = id
    · subst heq
      rw [Monitor.registerProvider_self hs] at hd
      obtain rfl := Option.some.inj hd
      exact hnew
    · rw [Monitor.registerProvider_other heq] at hd
      exact List.mem_append_left _ (h.entry hd)
  · intro w c hc
    by_cases heq : w = .initial m.allocated
    · subst heq
      rw [Monitor.registerProvider_check hs] at hc
      split at hc
      · obtain rfl := Option.some.inj hc
        exact ⟨hnew, rfl⟩
      · cases hc
    · rw [Monitor.registerProvider_checks heq] at hc
      exact ⟨List.mem_append_left _ (h.check hc).1, (h.check hc).2⟩
  · intro a id' sm hmem ha
    rcases List.mem_append.mp hmem with hmem | hmem
    · exact List.mem_append_left _ (h.event hmem ha)
    · obtain rfl := List.mem_singleton.mp hmem
      obtain ⟨rfl, rfl⟩ := Prod.mk.inj (Option.some.inj ha)
      exact hnew
  · intro hr id'
    rw [Monitor.registerProvider_running] at hr
    rw [Monitor.registerProvider_checks (by simp)]
    exact h.idle hr id'

theorem Provenance.startRound (h : Provenance l m) :
    Provenance (l ++ [.roundStarted]) m.checkAll := by
  have hmono : ∀ {id sm}, Event.registered id sm ∈ l → .registered id sm ∈ l ++ [.roundStarted] :=
    List.mem_append_left _
  have hold : ∀ {id sm}, Event.registered id sm ∈ l ++ [.roundStarted] → .registered id sm ∈ l := by
    intro id sm hmem
    simpa using hmem
  constructor
  · intro id sm hmem
    exact h.registered (hold hmem)
  · intro id id' sm hmem hmem'
    exact h.unique (hold hmem) (hold hmem')
  · intro id d hd
    exact hmono (h.entry hd)
  · intro w c hc
    cases w with
    | initial sm => exact ⟨hmono (h.check hc).1, (h.check hc).2⟩
    | periodic id =>
      obtain ⟨d, hd, rfl⟩ := Option.map_eq_some_iff.mp hc
      exact ⟨hmono (h.entry hd), rfl⟩
  · intro a id sm hmem ha
    rcases List.mem_append.mp hmem with hmem | hmem
    · exact hmono (h.event hmem ha)
    · rw [List.mem_singleton.mp hmem] at ha
      cases ha
  · intro hr
    cases hr

theorem Provenance.leave (h : Provenance l m) {w : Worker} (hnew : ∀ id sm, e ≠ .registered id sm)
    (hevent : ∀ {id sm}, e.registration = some (id, sm) → .registered id sm ∈ l) :
    Provenance (l ++ [e]) (m.leave w) := by
  apply h.frame (v := m.leave w) hnew hevent rfl id
    (fun hd => ⟨_, (Monitor.leave_checks_some hd).2, rfl, rfl⟩)
  intro hr id
  cases hd : (m.leave w).checks (.periodic id) with
  | none => rfl
  | some d =>
    have hsome := (Monitor.leave_checks_some hd).2
    exact absurd (hsome.symm.trans (h.idle hr id)) (by simp)

theorem provenance_step (h : Provenance l m) (hstep : Step m e v) : Provenance (l ++ [e]) v := by
  cases hstep with
  | register entry initialState initialCheck hid hs =>
    exact h.register entry initialState initialCheck hid hs
  | refuse entry initialState initialCheck hs =>
    rw [Monitor.registerProvider_of_stopped hs]
    exact h.frame (by simp) (by simp [Event.registration]) rfl id (fun hd => ⟨_, hd, rfl, rfl⟩)
      h.idle
  | deregister id =>
    exact h.frame (by simp) (by simp [Event.registration]) rfl
      (fun hd => (Monitor.deregisterProvider_some hd).2) (fun hd => ⟨_, hd, rfl, rfl⟩) h.idle
  | startRound => exact h.startRound
  | endRound hr hdone =>
    exact h.frame (by simp) (by simp [Event.registration]) rfl id (fun hd => ⟨_, hd, rfl, rfl⟩)
      fun _ => hdone
  | @record w c result now hc =>
    apply h.frame (v := m.record w c result now) (by simp) ?_ rfl id ?_ ?_
    · intro id sm heq
      obtain ⟨rfl, rfl⟩ := Prod.mk.inj (Option.some.inj heq)
      exact (h.check hc).1
    · intro w' d hd
      by_cases heq : w' = w
      · subst heq
        rw [Monitor.record_checks_self] at hd
        obtain ⟨-, rfl⟩ := followUp_some hd
        exact ⟨c, hc, rfl, rfl⟩
      · rw [Monitor.record_checks_ne heq] at hd
        exact ⟨d, hd, rfl, rfl⟩
    · intro hr id
      by_cases heq : .periodic id = w
      · subst heq
        exact absurd (hc.symm.trans (h.idle hr id)) (by simp)
      · exact (Monitor.record_checks_ne heq).trans (h.idle hr id)
  | @discard w c hc => exact h.leave (by simp) (by simp [Event.registration])
  | @call w c t hc =>
    apply h.leave (by simp)
    intro id sm heq
    obtain ⟨rfl, rfl⟩ := Prod.mk.inj (Option.some.inj heq)
    exact (h.check hc).1
  | stop | track | forget =>
    exact h.frame (by simp) (by simp [Event.registration]) rfl id (fun hd => ⟨_, hd, rfl, rfl⟩)
      h.idle

theorem run_provenance (h : Run Step (newMonitor failureThreshold tracker) l m) : Provenance l m :=
  h.invariant provenance_newMonitor fun _ _ _ _ hp hstep => provenance_step hp hstep

end

def vmEntry : MonitorEntry := ⟨.external "http://vm", "vm"⟩

def vmStart : Monitor := newMonitor 1 fun _ => none

def vmRegistered (initialState : ProviderStatus) (initialCheck : Bool) : Monitor :=
  vmStart.registerProvider "vm-1" vmEntry initialState initialCheck

def vmCheck : Check := ⟨"vm-1", 0, vmEntry.checker, .checking⟩

theorem vm_registers (initialState : ProviderStatus) (initialCheck : Bool) :
    Step vmStart (.registered "vm-1" 0) (vmRegistered initialState initialCheck) :=
  .register vmEntry initialState initialCheck (by decide) rfl

theorem vm_checks {initialState : ProviderStatus} {initialCheck : Bool} {w : Worker}
    (hne : w ≠ .initial 0) : (vmRegistered initialState initialCheck).checks w = none :=
  Monitor.registerProvider_checks hne

end HealthMonitor
