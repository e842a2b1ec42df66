import EnvironmentAgent.TimerDebouncer

/-! # The status monitor of clusters

`acmcluster/monitoring/reconcile.go` and `monitor.go` with the mappers of `service/status`. Two
informers deliver a HostedCluster and its NodePool; what was emitted last is remembered when it is
handed to the debouncer, not when it is published. -/
namespace ClusterReconcile

open LabelledRuns

inductive ClusterStatus where
  | deleted | deleting | failed | pending | provisioning | ready | unavailable
  deriving DecidableEq, Repr

inductive ConditionStatus where
  | isTrue | isFalse | unknown
  deriving DecidableEq, Repr

structure Condition where
  type : String
  status : ConditionStatus
  message : String
  deriving DecidableEq, Repr

/-- What the monitor reads of a HostedCluster or NodePool; `instanceID` is the value of its label,
empty without one. -/
structure Resource where
  name : String
  instanceID : String
  deletionTimestamp : Bool
  conditions : List Condition
  deriving DecidableEq, Repr

def conditionHas (status : ConditionStatus) (conditions : List Condition) (condType : String) :
    Bool :=
  (conditions.find? (·.type == condType)).any (·.status == status)

def conditionIsTrue : List Condition → String → Bool := conditionHas .isTrue

def conditionIsFalse : List Condition → String → Bool := conditionHas .isFalse

def mapConditionsToStatus (conditions : List Condition) (deletionTimestamp : Bool) :
    ClusterStatus :=
  if deletionTimestamp then .deleting
  else if conditionIsTrue conditions "Degraded" then .failed
  else if conditionIsTrue conditions "Available" then .ready
  else if conditionIsTrue conditions "Progressing" then .provisioning
  else if conditionIsFalse conditions "Available" && conditionIsFalse conditions "Progressing" then
    .unavailable
  else .pending

def mapNodePoolConditionsToStatus (conditions : List Condition) : Option ClusterStatus :=
  if conditions.isEmpty then none
  else if conditionIsTrue conditions "UpdatingVersion" ||
      conditionIsTrue conditions "UpdatingConfig" then some .provisioning
  else if conditionIsFalse conditions "Ready" then some .unavailable
  else if conditionIsTrue conditions "Ready" then some .ready
  else some .pending

def statusPriority : ClusterStatus → ℕ
  | .ready => 1
  | .pending => 2
  | .provisioning => 3
  | .unavailable => 4
  | .failed => 5
  | .deleting => 6
  | .deleted => 7

def computeCompositeStatus (hcStatus : ClusterStatus) : Option ClusterStatus → ClusterStatus
  | none => hcStatus
  | some npStatus =>
    if statusPriority npStatus > statusPriority hcStatus then npStatus else hcStatus

def messageOf (types : List String) (conditions : List Condition) : Option String :=
  (conditions.find? (types.contains ·.type)).map (·.message)

def extractHostedClusterMessage (conditions : List Condition) : ClusterStatus → String
  | .failed => (messageOf ["Degraded"] conditions).getD ""
  | .unavailable => (messageOf ["Available"] conditions).getD ""
  | _ => ""

def extractNodePoolMessage (conditions : List Condition) : ClusterStatus → String
  | .unavailable => ((messageOf ["Ready"] conditions).map ("NodePool: " ++ ·)).getD ""
  | .provisioning =>
    ((messageOf ["UpdatingVersion", "UpdatingConfig"] conditions).map ("NodePool: " ++ ·)).getD ""
  | _ => ""

structure StatusEvent where
  instanceID : String
  status : ClusterStatus
  message : String
  deriving DecidableEq, Repr

structure InstanceState where
  hcStatus : Option ClusterStatus
  npStatus : Option ClusterStatus
  hcMsg : String
  npMsg : String
  lastPublished : Option ClusterStatus
  seenHC : String
  seenNP : String
  deriving DecidableEq, Repr

def emptyState : InstanceState := ⟨none, none, "", "", none, "", ""⟩

abbrev ReconcileState := Finmap fun _ : String => InstanceState

namespace InstanceState

def compositeMessage (inst : InstanceState) (hcStatus : ClusterStatus) : String :=
  match inst.npStatus with
  | none => inst.hcMsg
  | some npStatus =>
    if statusPriority npStatus > statusPriority hcStatus then inst.npMsg else inst.hcMsg

def emit (inst : InstanceState) (composite : ClusterStatus) (msg : String) :
    InstanceState × Option (ClusterStatus × String) :=
  if inst.lastPublished = some composite then (inst, none)
  else ({ inst with lastPublished := some composite }, some (composite, msg))

def publishComposite (inst : InstanceState) (hcStatus : ClusterStatus) :
    InstanceState × Option (ClusterStatus × String) :=
  inst.emit (computeCompositeStatus hcStatus inst.npStatus) (inst.compositeMessage hcStatus)

def reconcileHostedCluster (inst : InstanceState) (obj : Resource) :
    InstanceState × Option (ClusterStatus × String) :=
  let inst := if inst.seenHC = "" then { inst with seenHC := obj.name } else inst
  let hcStatus := mapConditionsToStatus obj.conditions obj.deletionTimestamp
  if inst.hcStatus = some hcStatus then (inst, none)
  else
    { inst with
      hcMsg := extractHostedClusterMessage obj.conditions hcStatus
      hcStatus := some hcStatus }.publishComposite hcStatus

def reconcileNodePool (inst : InstanceState) (obj : Resource) :
    InstanceState × Option (ClusterStatus × String) :=
  let inst := if inst.seenNP = "" then { inst with seenNP := obj.name } else inst
  match mapNodePoolConditionsToStatus obj.conditions with
  | none => (inst, none)
  | some npStatus =>
    let inst := { inst with npMsg := extractNodePoolMessage obj.conditions npStatus }
    if inst.npStatus = some npStatus then (inst, none)
    else
      let inst := { inst with npStatus := some npStatus }
      match inst.hcStatus with
      | none => (inst, none)
      | some hcStatus => inst.publishComposite hcStatus

def dropNodePool (inst : InstanceState) (hcStatus : ClusterStatus) :
    InstanceState × Option (ClusterStatus × String) :=
  { inst with npStatus := none, npMsg := "", seenNP := "" }.emit hcStatus inst.hcMsg

end InstanceState

inductive ResourceType where
  | hostedCluster | nodePool
  deriving DecidableEq, Repr

def InstanceState.reconcile (inst : InstanceState) (resType : ResourceType) (obj : Resource) :
    InstanceState × Option (ClusterStatus × String) :=
  match resType with
  | .hostedCluster => inst.reconcileHostedCluster obj
  | .nodePool => inst.reconcileNodePool obj

def reconcileResource (state : ReconcileState) (resType : ResourceType) (obj : Resource) :
    ReconcileState × Option StatusEvent :=
  if obj.instanceID = "" then (state, none)
  else
    let inst := (state.lookup obj.instanceID).getD emptyState
    let x := inst.reconcile resType obj
    (state.insert obj.instanceID x.1, x.2.map fun y => ⟨obj.instanceID, y.1, y.2⟩)

def handleDeleteHostedCluster (state : ReconcileState) (obj : Resource) :
    ReconcileState × Option StatusEvent :=
  if obj.instanceID = "" then (state, none)
  else (state.erase obj.instanceID, some ⟨obj.instanceID, .deleted, ""⟩)

def handleDeleteNodePool (state : ReconcileState) (obj : Resource) :
    ReconcileState × Option StatusEvent :=
  if obj.instanceID = "" then (state, none)
  else
    match state.lookup obj.instanceID with
    | none => (state, none)
    | some inst =>
      match inst.hcStatus with
      | none => (state, none)
      | some hcStatus =>
        let x := inst.dropNodePool hcStatus
        (state.insert obj.instanceID x.1, x.2.map fun y => ⟨obj.instanceID, y.1, y.2⟩)

/-- `emitted` is a history: what was emitted for an instance since its HostedCluster was added. -/
structure World where
  state : ReconcileState
  hostedClusters : String → Option Resource
  nodePools : String → Option Resource
  emitted : String → List ClusterStatus

def newWorld : World where
  state := ∅
  hostedClusters := fun _ => none
  nodePools := fun _ => none
  emitted := fun _ => []

inductive Event where
  | set (resType : ResourceType) (obj : Resource)
  | deleteHostedCluster (obj : Resource)
  | deleteNodePool (obj : Resource)
  deriving DecidableEq, Repr

namespace Event

def informer : Event → ResourceType
  | .set resType _ => resType
  | .deleteHostedCluster _ => .hostedCluster
  | .deleteNodePool _ => .nodePool

def obj : Event → Resource
  | .set _ obj | .deleteHostedCluster obj | .deleteNodePool obj => obj

end Event

namespace World

def log (w : World) (id : String) (event : Option StatusEvent) : String → List ClusterStatus :=
  Function.update w.emitted id (w.emitted id ++ (event.map (·.status)).toList)

def handle (w : World) : Event → World × Option StatusEvent
  | .set .hostedCluster obj =>
    let x := reconcileResource w.state .hostedCluster obj
    let since := if w.hostedClusters obj.instanceID = none then [] else w.emitted obj.instanceID
    let w := { w with emitted := Function.update w.emitted obj.instanceID since }
    ({ w with
        state := x.1
        hostedClusters := Function.update w.hostedClusters obj.instanceID (some obj)
        emitted := w.log obj.instanceID x.2 }, x.2)
  | .set .nodePool obj =>
    let x := reconcileResource w.state .nodePool obj
    ({ w with
        state := x.1
        nodePools := Function.update w.nodePools obj.instanceID (some obj)
        emitted := w.log obj.instanceID x.2 }, x.2)
  | .deleteHostedCluster obj =>
    let x := handleDeleteHostedCluster w.state obj
    ({ w with
        state := x.1
        hostedClusters := Function.update w.hostedClusters obj.instanceID none }, x.2)
  | .deleteNodePool obj =>
    let x := handleDeleteNodePool w.state obj
    ({ w with
        state := x.1
        nodePools := Function.update w.nodePools obj.instanceID none
        emitted := w.log obj.instanceID x.2 }, x.2)

end World

def Delivers (w : World) : Event → Prop
  | .set _ obj => obj.instanceID ≠ ""
  | .deleteHostedCluster obj =>
    obj.instanceID ≠ "" ∧ w.hostedClusters obj.instanceID = some obj
  | .deleteNodePool obj => obj.instanceID ≠ "" ∧ w.nodePools obj.instanceID = some obj

instance (w : World) (event : Event) : Decidable (Delivers w event) := by
  cases event <;> unfold Delivers <;> infer_instance

inductive WorldStep : World → Event → World → Prop where
  | handle {w : World} {event : Event} (h : Delivers w event) :
      WorldStep w event (w.handle event).1

def World.next (w : World) (event : Event) : Option (Event × World) :=
  if Delivers w event then some (event, (w.handle event).1) else none

theorem step_world (w : World) (event e : Event) (w' : World) (h : w.next event = some (e, w')) :
    WorldStep w e w' := by
  simp only [World.next] at h
  split at h
  · cases h
    exact .handle ‹_›
  · cases h

structure ClusterMonitor where
  world : World
  callers : ResourceType → Option StatusEvent
  debouncer : TimerDebouncer.Debouncer StatusEvent

def newClusterMonitor : ClusterMonitor where
  world := newWorld
  callers := fun _ => none
  debouncer := TimerDebouncer.newDebouncer

inductive Action where
  | handle (event : Event)
  | submit (informer : ResourceType) (event : StatusEvent)
  | debounce (a : TimerDebouncer.Action StatusEvent)

def Internal : TimerDebouncer.Action StatusEvent → Bool
  | .submit _ _ | .ignore _ _ => false
  | _ => true

def ClusterMonitor.handle (m : ClusterMonitor) (event : Event) : ClusterMonitor :=
  { m with
    world := (m.world.handle event).1
    callers := Function.update m.callers event.informer (m.world.handle event).2 }

inductive Step (attempts : ℕ) : ClusterMonitor → Action → ClusterMonitor → Prop where
  | handle {m : ClusterMonitor} {event : Event} (hidle : m.callers event.informer = none)
      (h : Delivers m.world event) : Step attempts m (.handle event) (m.handle event)
  | submit {m : ClusterMonitor} {informer : ResourceType} {event : StatusEvent}
      {d : TimerDebouncer.Debouncer StatusEvent} (h : m.callers informer = some event)
      (hstep : TimerDebouncer.Step attempts m.debouncer (.submit event.instanceID event) d) :
      Step attempts m (.submit informer event)
        { m with debouncer := d, callers := Function.update m.callers informer none }
  | ignored {m : ClusterMonitor} {informer : ResourceType} {event : StatusEvent}
      {d : TimerDebouncer.Debouncer StatusEvent} (h : m.callers informer = some event)
      (hstep : TimerDebouncer.Step attempts m.debouncer (.ignore event.instanceID event) d) :
      Step attempts m (.submit informer event)
        { m with debouncer := d, callers := Function.update m.callers informer none }
  | debounce {m : ClusterMonitor} {a : TimerDebouncer.Action StatusEvent}
      {d : TimerDebouncer.Debouncer StatusEvent} (h : Internal a)
      (hstep : TimerDebouncer.Step attempts m.debouncer a d) :
      Step attempts m (.debounce a) { m with debouncer := d }

inductive Move where
  | handle (event : Event)
  | submit (informer : ResourceType)
  | debounce (move : TimerDebouncer.Move StatusEvent)

def ClusterMonitor.next (attempts : ℕ) (m : ClusterMonitor) :
    Move → Option (Action × ClusterMonitor)
  | .handle event =>
    if m.callers event.informer = none ∧ Delivers m.world event then
      some (.handle event, m.handle event)
    else none
  | .submit informer =>
    match m.callers informer with
    | none => none
    | some event =>
      (m.debouncer.next attempts (.submit event.instanceID event)).map fun x =>
        (.submit informer event,
          { m with debouncer := x.2, callers := Function.update m.callers informer none })
  | .debounce move =>
    match m.debouncer.next attempts move with
    | none => none
    | some x => if Internal x.1 then some (.debounce x.1, { m with debouncer := x.2 }) else none

theorem step_monitor (attempts : ℕ) (m : ClusterMonitor) (move : Move) (a : Action)
    (m' : ClusterMonitor) (h : m.next attempts move = some (a, m')) : Step attempts m a m' := by
  cases move with
  | handle event =>
    simp only [ClusterMonitor.next] at h
    split at h
    · rename_i hready
      cases h
      exact .handle hready.1 hready.2
    · cases h
  | submit informer =>
    simp only [ClusterMonitor.next] at h
    split at h
    · cases h
    · rename_i event hcaller
      obtain ⟨⟨b, d⟩, hnext, hb⟩ := Option.map_eq_some_iff.mp h
      cases hb
      have hstep := TimerDebouncer.step_next attempts m.debouncer _ b d hnext
      simp only [TimerDebouncer.Debouncer.next] at hnext
      split at hnext
      · cases hnext
        exact .ignored hcaller hstep
      · cases hnext
        exact .submit hcaller hstep
  | debounce move =>
    simp only [ClusterMonitor.next] at h
    split at h
    · cases h
    · rename_i x hnext
      split at h
      · rename_i hinternal
        cases h
        exact .debounce hinternal
          (TimerDebouncer.step_next attempts m.debouncer move x.1 x.2 hnext)
      · cases h

end ClusterReconcile
