import EnvironmentAgent.StatusDebouncer

/-! # The status monitors of storage and network

`storage/monitoring/monitor.go` with `k8s_events.go`, and `network/monitoring/monitor.go`, over
their debouncer. A callback of an informer is two steps, the part of `submitIfChanged` under the
lock and `debouncer.Submit` after it; `publishWithRetry` runs between the call of `publishFn` and
its return. The two informers of storage are two goroutines. -/
namespace StatusMonitoring

open StatusDebouncer

structure StatusEvent (σ : Type) where
  instanceID : String
  status : σ
  message : String
  deriving DecidableEq, Repr

inductive StorageStatus where
  | deleted | deleting | failed | provisioning | running
  deriving DecidableEq, Repr

inductive NetworkStatus where
  | deleted | pending | ready
  deriving DecidableEq, Repr

inductive ClaimPhase where
  | pending | lost | bound
  | other (name : String)
  deriving DecidableEq, Repr

inductive ClaimConditionType where
  | resizing | fileSystemResizePending | other
  deriving DecidableEq, Repr

structure ClaimCondition where
  type : ClaimConditionType
  /-- The status of the condition is `True`. -/
  isTrue : Bool
  deriving DecidableEq, Repr

/-- What the monitor reads of a PVC; `instanceID` is the value of its label, empty without one. -/
structure PersistentVolumeClaim where
  instanceID : String
  deletionTimestamp : Bool
  phase : ClaimPhase
  conditions : List ClaimCondition
  volumeName : String
  deriving DecidableEq, Repr

def pvcResizeStatus (conditions : List ClaimCondition) : Option String :=
  conditions.findSome? fun c =>
    match c.isTrue, c.type with
    | true, .resizing => some "volume expansion in progress"
    | true, .fileSystemResizePending => some "filesystem resize pending"
    | _, _ => none

def mapPVCToStatus : Option PersistentVolumeClaim → StorageStatus × String
  | none => (.deleted, "resource no longer exists")
  | some pvc =>
    if pvc.deletionTimestamp then (.deleting, "PVC is terminating")
    else
      match pvc.phase with
      | .pending => (.provisioning, "PVC is pending binding")
      | .lost => (.failed, "PVC is lost")
      | .bound =>
        match pvcResizeStatus pvc.conditions with
        | some msg => (.provisioning, msg)
        | none =>
          if pvc.volumeName = "" then (.running, "PVC is bound")
          else (.running, "PVC is bound to volume " ++ pvc.volumeName)
      | .other name => (.provisioning, name)

/-- A Kubernetes `Event`, with the PVC that the lister has for its involved object. -/
structure WarningEvent where
  isWarning : Bool
  involvedKind : String
  reason : String
  message : String
  involved : Option PersistentVolumeClaim
  deriving DecidableEq, Repr

def terminalPVCWarningReasons : List String :=
  ["FailedBinding", "ProvisioningFailed", "FailedProvisioning", "AllocationFailed"]

def isTerminalPVCWarning (event : WarningEvent) : Bool :=
  event.isWarning && event.involvedKind == "PersistentVolumeClaim" &&
    terminalPVCWarningReasons.contains event.reason

inductive StorageObservation where
  /-- `AddFunc` or `UpdateFunc`. -/
  | pvc (pvc : PersistentVolumeClaim)
  | pvcDelete (instanceID : String)
  | warning (event : WarningEvent)

def labelled {σ : Type} (event : StatusEvent σ) : Option (StatusEvent σ) :=
  if event.instanceID = "" then none else some event

def handlePVCEvent (pvc : PersistentVolumeClaim) : Option (StatusEvent StorageStatus) :=
  let status := mapPVCToStatus (some pvc)
  labelled ⟨pvc.instanceID, status.1, status.2⟩

def handlePVCDelete (instanceID : String) : Option (StatusEvent StorageStatus) :=
  labelled ⟨instanceID, .deleted, "resource no longer exists"⟩

def handleWarningEvent (event : WarningEvent) : Option (StatusEvent StorageStatus) :=
  if isTerminalPVCWarning event then
    match event.involved with
    | none => none
    | some pvc =>
      let msg := if event.message = "" then "PVC failure: " ++ event.reason
        else event.reason ++ ": " ++ event.message
      labelled ⟨pvc.instanceID, .failed, msg⟩
  else none

structure Service where
  instanceID : String
  isLoadBalancer : Bool
  ingress : ℕ
  deriving DecidableEq, Repr

def mapServiceToStatus : Option Service → NetworkStatus × String
  | none => (.deleted, "resource no longer exists")
  | some service =>
    if service.isLoadBalancer && service.ingress == 0 then
      (.pending, "waiting for external IP assignment")
    else (.ready, "service is ready")

inductive NetworkObservation where
  | service (service : Service)
  | serviceDelete (instanceID : String)

def handleServiceEvent (service : Service) : Option (StatusEvent NetworkStatus) :=
  let status := mapServiceToStatus (some service)
  labelled ⟨service.instanceID, status.1, status.2⟩

def handleServiceDelete (instanceID : String) : Option (StatusEvent NetworkStatus) :=
  labelled ⟨instanceID, .deleted, "resource no longer exists"⟩

/-- The PVC or `Service` informer, or that of Warning events. -/
inductive Caller where
  | informer | warnings
  deriving DecidableEq, Repr

section Monitor

variable {O σ : Type} [DecidableEq σ]

def SameContent (x y : StatusEvent σ) : Prop := x.status = y.status ∧ x.message = y.message

instance (x y : StatusEvent σ) : Decidable (SameContent x y) := by
  unfold SameContent
  infer_instance

/-- The first check of `submitIfChanged`, on the last published event of the instance. -/
def unchanged (prev : Option (StatusEvent σ)) (event : StatusEvent σ) : Bool :=
  prev.any (SameContent · event)

/-- `PublishMaxAttempts` below 1 stands for 5. -/
def publishMaxAttempts (configured : ℤ) : ℕ := if configured < 1 then 5 else configured.toNat

/-- How the two monitors differ; `refuses` has the last published and the last submitted event of
the instance. -/
structure Monitoring (O σ : Type) where
  caller : O → Caller
  event : O → Option (StatusEvent σ)
  refuses : Option (StatusEvent σ) → Option (StatusEvent σ) → StatusEvent σ → Bool
  deleted : σ
  attempts : ℕ

def storageRefuses (published submitted : Option (StatusEvent StorageStatus))
    (event : StatusEvent StorageStatus) : Bool :=
  unchanged published event ||
    submitted.any (·.status = .failed) && event.status == .provisioning

def storage (attempts : ℤ) : Monitoring StorageObservation StorageStatus where
  caller
    | .pvc _ | .pvcDelete _ => .informer
    | .warning _ => .warnings
  event
    | .pvc pvc => handlePVCEvent pvc
    | .pvcDelete instanceID => handlePVCDelete instanceID
    | .warning event => handleWarningEvent event
  refuses := storageRefuses
  deleted := .deleted
  attempts := publishMaxAttempts attempts

def network (attempts : ℤ) : Monitoring NetworkObservation NetworkStatus where
  caller _ := .informer
  event
    | .service service => handleServiceEvent service
    | .serviceDelete instanceID => handleServiceDelete instanceID
  refuses published _ event := unchanged published event
  deleted := .deleted
  attempts := publishMaxAttempts attempts

inductive Phase where
  /-- In `publisher.Publish`, or past the loop when there is no such attempt. -/
  | trying (attempt : ℕ)
  | waiting (attempt : ℕ)
  /-- `Publish` has succeeded, and the locked part is not done. -/
  | delivered
  | returned
  deriving DecidableEq, Repr

def Phase.undelivered : Phase → Bool
  | .trying _ | .waiting _ => true
  | _ => false

/-- `callers` has the event that a callback has accepted and not yet submitted. `accepted` and
`delivered` are histories: what was not refused, and what `Publish` has taken. -/
structure StatusMonitor (σ : Type) where
  lastPublished : Finmap fun _ : String => StatusEvent σ
  lastSubmitted : Finmap fun _ : String => StatusEvent σ
  debouncer : Debouncer (StatusEvent σ)
  callers : Caller → Option (StatusEvent σ)
  publishes : Party → Phase
  accepted : List (String × StatusEvent σ)
  delivered : List (String × StatusEvent σ)

def newStatusMonitor : StatusMonitor σ where
  lastPublished := ∅
  lastSubmitted := ∅
  debouncer := newDebouncer
  callers := fun _ => none
  publishes := fun _ => .returned
  accepted := []
  delivered := []

end Monitor

def Job.calls {E : Type} : Job E → Option (String × E)
  | .publishing id _ event | .flushing id event => some (id, event)
  | _ => none

def calls {E : Type} (d : Debouncer E) : Party → Option (String × E)
  | .job n => Job.calls (d.jobs n)
  | .stop => d.stopping.current

namespace StatusMonitor

variable {O σ : Type} [DecidableEq σ]

def move (m : StatusMonitor σ) (p : Party) (phase : Phase) : StatusMonitor σ :=
  { m with publishes := Function.update m.publishes p phase }

def accept (m : StatusMonitor σ) (c : Caller) (event : StatusEvent σ) : StatusMonitor σ :=
  { m with
    lastSubmitted := m.lastSubmitted.insert event.instanceID event
    callers := Function.update m.callers c (some event)
    accepted := m.accepted ++ [(event.instanceID, event)] }

def record (m : StatusMonitor σ) (deleted : σ) (event : StatusEvent σ) : StatusMonitor σ :=
  if event.status = deleted then
    { m with
      lastPublished := m.lastPublished.erase event.instanceID
      lastSubmitted := m.lastSubmitted.erase event.instanceID }
  else { m with lastPublished := m.lastPublished.insert event.instanceID event }

end StatusMonitor

def Internal {E : Type} : StatusDebouncer.Action E → Bool
  | .fire _ | .beginPublish _ | .endPublish _ | .stop _ | .wait => true
  | _ => false

inductive Action (σ : Type) where
  /-- A callback that has nothing to submit. -/
  | skip (c : Caller)
  | accept (c : Caller) (event : StatusEvent σ)
  | refuse (c : Caller) (event : StatusEvent σ)
  | submit (c : Caller) (event : StatusEvent σ)
  | debounce (a : StatusDebouncer.Action (StatusEvent σ))
  | call (p : Party) (id : String) (event : StatusEvent σ)
  | deliver (p : Party) (id : String) (event : StatusEvent σ)
  | fail (p : Party)
  | backoff (p : Party)
  /-- The context is done during a backoff. -/
  | abandon (p : Party)
  /-- All attempts have failed. -/
  | exhaust (p : Party)
  | record (p : Party) (event : StatusEvent σ)
  | done (p : Party) (id : String) (event : StatusEvent σ)

section Steps

variable {O σ : Type} [DecidableEq σ]

inductive Step (mon : Monitoring O σ) : StatusMonitor σ → Action σ → StatusMonitor σ → Prop where
  | skip {m : StatusMonitor σ} {o : O} (hidle : m.callers (mon.caller o) = none)
      (hevent : mon.event o = none) : Step mon m (.skip (mon.caller o)) m
  | accept {m : StatusMonitor σ} {o : O} {event : StatusEvent σ}
      (hidle : m.callers (mon.caller o) = none) (hevent : mon.event o = some event)
      (h : mon.refuses (m.lastPublished.lookup event.instanceID)
        (m.lastSubmitted.lookup event.instanceID) event = false) :
      Step mon m (.accept (mon.caller o) event) (m.accept (mon.caller o) event)
  | refuse {m : StatusMonitor σ} {o : O} {event : StatusEvent σ}
      (hidle : m.callers (mon.caller o) = none) (hevent : mon.event o = some event)
      (h : mon.refuses (m.lastPublished.lookup event.instanceID)
        (m.lastSubmitted.lookup event.instanceID) event = true) :
      Step mon m (.refuse (mon.caller o) event) m
  | submit {m : StatusMonitor σ} {c : Caller} {event : StatusEvent σ}
      {d : Debouncer (StatusEvent σ)} (h : m.callers c = some event)
      (hstep : StatusDebouncer.Step m.debouncer (.submit event.instanceID event) d) :
      Step mon m (.submit c event)
        { m with debouncer := d, callers := Function.update m.callers c none }
  | ignored {m : StatusMonitor σ} {c : Caller} {event : StatusEvent σ}
      {d : Debouncer (StatusEvent σ)} (h : m.callers c = some event)
      (hstep : StatusDebouncer.Step m.debouncer (.ignore event.instanceID event) d) :
      Step mon m (.submit c event)
        { m with debouncer := d, callers := Function.update m.callers c none }
  | debounce {m : StatusMonitor σ} {a : StatusDebouncer.Action (StatusEvent σ)}
      {d : Debouncer (StatusEvent σ)} (h : Internal a)
      (hstep : StatusDebouncer.Step m.debouncer a d) :
      Step mon m (.debounce a) { m with debouncer := d }
  | call {m : StatusMonitor σ} {p : Party} {id : String} {event : StatusEvent σ}
      {d : Debouncer (StatusEvent σ)}
      (hstep : StatusDebouncer.Step m.debouncer (.call p id event) d) :
      Step mon m (.call p id event) { m.move p (.trying 0) with debouncer := d }
  | deliver {m : StatusMonitor σ} {p : Party} {id : String} {event : StatusEvent σ} {k : ℕ}
      (hcall : calls m.debouncer p = some (id, event)) (h : m.publishes p = .trying k)
      (hk : k < mon.attempts) :
      Step mon m (.deliver p id event)
        { m.move p .delivered with delivered := m.delivered ++ [(id, event)] }
  | fail {m : StatusMonitor σ} {p : Party} {k : ℕ} (h : m.publishes p = .trying k)
      (hk : k < mon.attempts) :
      Step mon m (.fail p)
        (m.move p (if k + 1 < mon.attempts then .waiting (k + 1) else .trying (k + 1)))
  | backoff {m : StatusMonitor σ} {p : Party} {k : ℕ} (h : m.publishes p = .waiting k) :
      Step mon m (.backoff p) (m.move p (.trying k))
  | abandon {m : StatusMonitor σ} {p : Party} {k : ℕ} (h : m.publishes p = .waiting k) :
      Step mon m (.abandon p) (m.move p .returned)
  | exhaust {m : StatusMonitor σ} {p : Party} {k : ℕ} (h : m.publishes p = .trying k)
      (hk : mon.attempts ≤ k) : Step mon m (.exhaust p) (m.move p .returned)
  | record {m : StatusMonitor σ} {p : Party} {id : String} {event : StatusEvent σ}
      (hcall : calls m.debouncer p = some (id, event)) (h : m.publishes p = .delivered) :
      Step mon m (.record p event) ((m.move p .returned).record mon.deleted event)
  | done {m : StatusMonitor σ} {p : Party} {id : String} {event : StatusEvent σ}
      {d : Debouncer (StatusEvent σ)} (h : m.publishes p = .returned)
      (hstep : StatusDebouncer.Step m.debouncer (.done p id event) d) :
      Step mon m (.done p id event) { m with debouncer := d }

inductive Move (O : Type) where
  | observe (o : O)
  | submit (c : Caller)
  /-- The next step of a party; an attempt succeeds. -/
  | party (p : Party)
  | fail (p : Party)
  | callStop (order : List String)

def StatusMonitor.debounced (m : StatusMonitor σ) (x : StatusDebouncer.Action (StatusEvent σ) ×
    Debouncer (StatusEvent σ)) : Option (Action σ × StatusMonitor σ) :=
  match x.1 with
  | .call p id event =>
    some (.call p id event, { m.move p (.trying 0) with debouncer := x.2 })
  | .done p id event =>
    if m.publishes p = .returned then some (.done p id event, { m with debouncer := x.2 }) else none
  | a => if Internal a then some (.debounce a, { m with debouncer := x.2 }) else none

def Party.move {E : Type} : Party → StatusDebouncer.Move E
  | .job n => .job n
  | .stop => .stop

def StatusMonitor.next (mon : Monitoring O σ) (m : StatusMonitor σ) :
    Move O → Option (Action σ × StatusMonitor σ)
  | .observe o =>
    if m.callers (mon.caller o) = none then
      match mon.event o with
      | none => some (.skip (mon.caller o), m)
      | some event =>
        if mon.refuses (m.lastPublished.lookup event.instanceID)
            (m.lastSubmitted.lookup event.instanceID) event then
          some (.refuse (mon.caller o) event, m)
        else some (.accept (mon.caller o) event, m.accept (mon.caller o) event)
    else none
  | .submit c =>
    match m.callers c with
    | none => none
    | some event =>
      (m.debouncer.next (.submit event.instanceID event)).map fun x =>
        (.submit c event, { m with debouncer := x.2, callers := Function.update m.callers c none })
  | .party p =>
    match calls m.debouncer p with
    | none => (m.debouncer.next (Party.move p)).bind m.debounced
    | some (id, event) =>
      match m.publishes p with
      | .trying k =>
        if k < mon.attempts then
          some (.deliver p id event,
            { m.move p .delivered with delivered := m.delivered ++ [(id, event)] })
        else some (.exhaust p, m.move p .returned)
      | .waiting k => some (.backoff p, m.move p (.trying k))
      | .delivered => some (.record p event, (m.move p .returned).record mon.deleted event)
      | .returned => (m.debouncer.next (Party.move p)).bind m.debounced
  | .fail p =>
    match m.publishes p with
    | .trying k =>
      if k < mon.attempts then
        some (.fail p,
          m.move p (if k + 1 < mon.attempts then .waiting (k + 1) else .trying (k + 1)))
      else none
    | .waiting _ => some (.abandon p, m.move p .returned)
    | _ => none
  | .callStop order => (m.debouncer.next (.callStop order)).bind m.debounced

variable {mon : Monitoring O σ} {m m' : StatusMonitor σ} {a : Action σ}

theorem step_debounced {move : StatusDebouncer.Move (StatusEvent σ)}
    (h : (m.debouncer.next move).bind m.debounced = some (a, m')) : Step mon m a m' := by
  obtain ⟨⟨b, d⟩, hnext, hb⟩ := Option.bind_eq_some_iff.mp h
  have hstep := step_next m.debouncer move b d hnext
  simp only [StatusMonitor.debounced] at hb
  split at hb
  · cases hb
    exact .call hstep
  · split at hb
    · cases hb
      exact .done ‹_› hstep
    · cases hb
  · split at hb
    · cases hb
      exact .debounce ‹_› hstep
    · cases hb

theorem step_monitor (m : StatusMonitor σ) (move : Move O) (a : Action σ) (m' : StatusMonitor σ)
    (h : m.next mon move = some (a, m')) : Step mon m a m' := by
  cases move with
  | observe o =>
    simp only [StatusMonitor.next] at h
    split at h
    · rename_i hidle
      split at h
      · cases h
        exact .skip hidle ‹_›
      · split at h
        · cases h
          exact .refuse hidle ‹_› ‹_›
        · rename_i hrefuses
          cases h
          exact .accept hidle ‹_› (by simpa using hrefuses)
    · cases h
  | submit c =>
    simp only [StatusMonitor.next] at h
    split at h
    · cases h
    · rename_i event hcaller
      obtain ⟨⟨b, d⟩, hnext, hb⟩ := Option.map_eq_some_iff.mp h
      cases hb
      have hstep := step_next m.debouncer _ b d hnext
      simp only [Debouncer.next] at hnext
      split at hnext
      · cases hnext
        exact .ignored hcaller hstep
      · cases hnext
        exact .submit hcaller hstep
  | party p =>
    simp only [StatusMonitor.next] at h
    split at h
    · exact step_debounced h
    · rename_i id event hcall
      split at h
      · rename_i hphase
        split at h
        · cases h
          exact .deliver hcall hphase ‹_›
        · cases h
          exact .exhaust hphase (by omega)
      · cases h
        exact .backoff ‹_›
      · cases h
        exact .record hcall ‹_›
      · exact step_debounced h
  | fail p =>
    simp only [StatusMonitor.next] at h
    split at h
    · split at h
      · cases h
        exact .fail ‹_› ‹_›
      · cases h
    · cases h
      exact .abandon ‹_›
    · cases h
  | callStop order =>
    simp only [StatusMonitor.next] at h
    exact step_debounced h

end Steps

end StatusMonitoring
