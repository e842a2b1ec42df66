import EnvironmentAgent.LabelledRuns
import Mathlib.Data.Int.Notation
import Mathlib.Logic.Function.Basic

/-! # The status of a container

The monitor of `container/monitoring`. Deployments and Pods are read from the caches of their
informers, which are up to date when a callback runs; an index gives the objects of an instance in
no particular order. -/
namespace ContainerStatus

open LabelledRuns

/-- An object without the label has the empty instance ID. -/
structure Object (α : Type) where
  name : String
  instanceID : String
  state : α
  deriving DecidableEq, Repr

inductive PodPhase where
  | pending
  | running
  | succeeded
  | failed
  | unknown
  | other (text : String)
  deriving DecidableEq, Repr

def PodPhase.text : PodPhase → String
  | .pending => "Pending"
  | .running => "Running"
  | .succeeded => "Succeeded"
  | .failed => "Failed"
  | .unknown => "Unknown"
  | .other text => text

structure ContainerState where
  waiting : Option String
  terminated : Option String
  deriving DecidableEq, Repr

structure PodState where
  phase : PodPhase
  containerStatuses : List ContainerState
  deriving DecidableEq, Repr

inductive ConditionType where
  | progressing
  | replicaFailure
  | other (text : String)
  deriving DecidableEq, Repr

inductive ConditionStatus where
  | isTrue
  | isFalse
  | isUnknown
  deriving DecidableEq, Repr

structure Condition where
  type : ConditionType
  status : ConditionStatus
  reason : String
  message : String
  deriving DecidableEq, Repr

structure DeploymentState where
  replicas : Option ℤ
  conditions : List Condition
  deriving DecidableEq, Repr

abbrev Pod := Object PodState
abbrev Deployment := Object DeploymentState

inductive Status where
  | pending
  | running
  | failed
  | unknown
  | deleted
  deriving DecidableEq, Repr

structure StatusEvent where
  instanceID : String
  status : Status
  message : String
  deriving DecidableEq, Repr

def mapPodPhaseToStatus : PodPhase → Option Status
  | .pending => some .pending
  | .running => some .running
  | .failed => some .failed
  | .unknown => some .unknown
  | _ => none

def progressDeadlineExceededReason := "ProgressDeadlineExceeded"

def nonempty (reason : Option String) : Option String := reason.filter (· ≠ "")

def extractPodFailureReason (pod : Pod) : String :=
  (pod.state.containerStatuses.findSome? fun cs =>
    (nonempty cs.waiting).or (nonempty cs.terminated)).getD ""

def stuckRolloutStatus (deploy : Deployment) (pod : Option Pod) : Option (Status × String) :=
  match deploy.state.conditions.find? fun c => c.type = .progressing ∧ c.status = .isFalse ∧
      c.reason = progressDeadlineExceededReason with
  | none => none
  | some c =>
    let msg := if c.message = "" then progressDeadlineExceededReason else c.message
    match pod with
    | none => some (.failed, msg)
    | some pod =>
      let reason := extractPodFailureReason pod
      if reason ≠ "" then some (.failed, msg ++ " (" ++ reason ++ ")") else some (.failed, msg)

def podStatus (pod : Pod) : Option (Status × String) :=
  match mapPodPhaseToStatus pod.state.phase with
  | none => none
  | some status =>
    let reason := extractPodFailureReason pod
    if status = .failed ∧ reason ≠ "" then some (status, reason)
    else some (status, pod.state.phase.text)

def deploymentStatus (deploy : Deployment) : Option (Status × String) :=
  if deploy.state.replicas = some 0 then some (.failed, "deployment scaled to zero")
  else
    match deploy.state.conditions.find? fun c => c.type = .replicaFailure ∧ c.status = .isTrue with
    | some c => some (.failed, if c.message ≠ "" then c.message else "replica failure")
    | none => some (.pending, "waiting for pods")

def reconcileStatus : Option Deployment → Option Pod → Option (Status × String)
  | none, none => some (.deleted, "resource no longer exists")
  | none, some pod => podStatus pod
  | some deploy, none => (stuckRolloutStatus deploy none).or (deploymentStatus deploy)
  | some deploy, some pod => (stuckRolloutStatus deploy (some pod)).or (podStatus pod)

def podPhasePriority : PodPhase → ℤ
  | .failed => 4
  | .unknown => 3
  | .pending => 2
  | .running => 1
  | _ => 0

def worse (acc : Option Pod × ℤ) (pod : Pod) : Option Pod × ℤ :=
  if acc.2 < podPhasePriority pod.state.phase then (some pod, podPhasePriority pod.state.phase)
  else acc

def lookupPodByIndex (indexer : String → List Pod) (instanceID : String) : Option Pod :=
  match indexer instanceID with
  | [] => none
  | [pod] => some pod
  | items => (items.foldl worse (none, -1)).1

def lookupDeployByIndex (indexer : String → List Deployment) (instanceID : String) :
    Option Deployment := (indexer instanceID).head?

def reconcileAndSubmit (instanceID : String) (deploy : Option Deployment) (pod : Option Pod) :
    Option StatusEvent :=
  (reconcileStatus deploy pod).map fun r => ⟨instanceID, r.1, r.2⟩

def handleDeployEvent (obj : Deployment) (podIndexer : String → List Pod) : Option StatusEvent :=
  if obj.instanceID = "" then none
  else reconcileAndSubmit obj.instanceID (some obj) (lookupPodByIndex podIndexer obj.instanceID)

def handleDeployDelete (obj : Deployment) (podIndexer : String → List Pod) : Option StatusEvent :=
  if obj.instanceID = "" then none
  else reconcileAndSubmit obj.instanceID none (lookupPodByIndex podIndexer obj.instanceID)

def handlePodEvent (obj : Pod) (deployIndexer : String → List Deployment) : Option StatusEvent :=
  if obj.instanceID = "" then none
  else reconcileAndSubmit obj.instanceID (lookupDeployByIndex deployIndexer obj.instanceID)
    (some obj)

def handlePodDelete (obj : Pod) (deployIndexer : String → List Deployment)
    (podIndexer : String → List Pod) : Option StatusEvent :=
  if obj.instanceID = "" then none
  else reconcileAndSubmit obj.instanceID (lookupDeployByIndex deployIndexer obj.instanceID)
    (lookupPodByIndex podIndexer obj.instanceID)

section

variable {α : Type}

def upsert (cache : List (Object α)) (obj : Object α) : List (Object α) :=
  cache.filter (·.name ≠ obj.name) ++ [obj]

def evict (cache : List (Object α)) (obj : Object α) : List (Object α) :=
  cache.filter (·.name ≠ obj.name)

def Indexes (indexer : String → List (Object α)) (cache : List (Object α)) : Prop :=
  ∀ id, id ≠ "" → (indexer id).Perm (cache.filter (·.instanceID = id))

theorem mem_upsert {cache : List (Object α)} {obj x : Object α} :
    x ∈ upsert cache obj ↔ x ∈ evict cache obj ∨ x = obj := by
  rw [upsert, evict, List.mem_append, List.mem_singleton]

theorem mem_of_evict {cache : List (Object α)} {obj x : Object α} (h : x ∈ evict cache obj) :
    x ∈ cache := (List.mem_filter.mp h).1

end

inductive Event where
  | deployEvent (obj : Deployment)
  | deployDelete (obj : Deployment)
  | podEvent (obj : Pod)
  | podDelete (obj : Pod)
  deriving DecidableEq, Repr

structure Caches where
  deploys : List Deployment
  pods : List Pod
  deriving DecidableEq, Repr

def Caches.update (c : Caches) : Event → Caches
  | .deployEvent obj => { c with deploys := upsert c.deploys obj }
  | .deployDelete obj => { c with deploys := evict c.deploys obj }
  | .podEvent obj => { c with pods := upsert c.pods obj }
  | .podDelete obj => { c with pods := evict c.pods obj }

def handle (deployIndexer : String → List Deployment) (podIndexer : String → List Pod) :
    Event → Option StatusEvent
  | .deployEvent obj => handleDeployEvent obj podIndexer
  | .deployDelete obj => handleDeployDelete obj podIndexer
  | .podEvent obj => handlePodEvent obj deployIndexer
  | .podDelete obj => handlePodDelete obj deployIndexer podIndexer

structure Monitor where
  caches : Caches
  submitted : String → Option StatusEvent

def newMonitor : Monitor := ⟨⟨[], []⟩, fun _ => none⟩

def Monitor.submit (m : Monitor) : Option StatusEvent → Monitor
  | none => m
  | some event =>
    { m with submitted := Function.update m.submitted event.instanceID (some event) }

inductive Step (m : Monitor) (e : Event) : Monitor → Prop where
  | mk {deployIndexer : String → List Deployment} {podIndexer : String → List Pod}
      (hdeploys : Indexes deployIndexer (m.caches.update e).deploys)
      (hpods : Indexes podIndexer (m.caches.update e).pods) :
      Step m e ({ m with caches := m.caches.update e }.submit (handle deployIndexer podIndexer e))

def Monitor.next (m : Monitor) (e : Event) : Monitor :=
  { m with caches := m.caches.update e }.submit
    (handle (fun id => (m.caches.update e).deploys.filter (·.instanceID = id))
      (fun id => (m.caches.update e).pods.filter (·.instanceID = id)) e)

theorem step_next (m : Monitor) (e : Event) : Step m e (m.next e) :=
  .mk (fun _ _ => .refl _) (fun _ _ => .refl _)

theorem run_next (m : Monitor) (l : List Event) : Run Step m l (l.foldl Monitor.next m) := by
  induction l generalizing m with
  | nil => exact .nil
  | cons e l ih => exact (ih (m.next e)).cons (step_next m e)

@[simp] theorem submit_caches (m : Monitor) (o : Option StatusEvent) :
    (m.submit o).caches = m.caches := by
  cases o <;> rfl

theorem Step.caches {m m' : Monitor} {e : Event} (h : Step m e m') :
    m'.caches = m.caches.update e := by
  cases h
  exact submit_caches _ _

def priority (pod : Pod) : ℤ := podPhasePriority pod.state.phase

def Worst (pods : List Pod) : Option Pod → Prop
  | none => pods = []
  | some pod => pod ∈ pods ∧ ∀ q ∈ pods, priority q ≤ priority pod

theorem priority_nonneg (pod : Pod) : 0 ≤ priority pod := by
  unfold priority podPhasePriority
  split <;> decide

theorem Worst.perm {pods pods' : List Pod} (hp : ∀ q, q ∈ pods ↔ q ∈ pods') {o : Option Pod}
    (h : Worst pods o) : Worst pods' o := by
  cases o with
  | none =>
    have hnil : pods = [] := h
    subst hnil
    exact List.eq_nil_iff_forall_not_mem.mpr fun q hq => List.not_mem_nil ((hp q).mpr hq)
  | some pod => exact ⟨(hp pod).mp h.1, fun q hq => h.2 q ((hp q).mpr hq)⟩

theorem Worst.replaced {pods : List Pod} {o : Option Pod} {pod : Pod} (h : Worst pods o)
    (hlt : ∀ p, o = some p → priority p < priority pod) : Worst (pods ++ [pod]) (some pod) := by
  refine ⟨List.mem_append_right _ (List.mem_singleton_self pod), ?_⟩
  intro q hq
  rcases List.mem_append.mp hq with hq | hq
  · cases o with
    | none =>
      have hnil : pods = [] := h
      rw [hnil] at hq
      cases hq
    | some p =>
      have hle := h.2 q hq
      have hpod := hlt p rfl
      omega
  · exact Int.le_of_eq (congrArg priority (List.mem_singleton.mp hq))

theorem Worst.kept {pods : List Pod} {p pod : Pod} (h : Worst pods (some p))
    (hle : priority pod ≤ priority p) : Worst (pods ++ [pod]) (some p) := by
  refine ⟨List.mem_append_left _ h.1, ?_⟩
  intro q hq
  rcases List.mem_append.mp hq with hq | hq
  · exact h.2 q hq
  · rw [List.mem_singleton.mp hq]
    exact hle

theorem foldl_worse (pods : List Pod) :
    Worst pods (pods.foldl worse (none, -1)).1 ∧
      (pods.foldl worse (none, -1)).2 =
        ((pods.foldl worse (none, -1)).1.map priority).getD (-1) := by
  induction pods using List.reverseRecOn with
  | nil => exact ⟨rfl, rfl⟩
  | append_singleton pods pod ih =>
    obtain ⟨hworst, hprio⟩ := ih
    rw [List.foldl_append, List.foldl_cons, List.foldl_nil]
    generalize pods.foldl worse (none, -1) = acc at hworst hprio
    obtain ⟨o, n⟩ := acc
    dsimp only at hworst hprio
    subst hprio
    unfold worse
    split
    · next hlt =>
      refine ⟨hworst.replaced fun p hp => ?_, rfl⟩
      subst hp
      exact hlt
    · next hnot =>
      cases o with
      | none =>
        have hnonneg := priority_nonneg pod
        exact absurd (show (-1 : ℤ) < priority pod by omega) hnot
      | some p => exact ⟨hworst.kept (Int.not_lt.mp hnot), rfl⟩

theorem lookupPodByIndex_worst (indexer : String → List Pod) (id : String) :
    Worst (indexer id) (lookupPodByIndex indexer id) := by
  unfold lookupPodByIndex
  split
  · rename_i hnil
    exact hnil
  · rename_i pod hone
    rw [hone]
    refine ⟨List.mem_singleton_self pod, ?_⟩
    intro q hq
    exact Int.le_of_eq (congrArg priority (List.mem_singleton.mp hq))
  · exact (foldl_worse _).1

theorem mapPodPhaseToStatus_priority {a b : PodPhase}
    (h : podPhasePriority a = podPhasePriority b) :
    mapPodPhaseToStatus a = mapPodPhaseToStatus b := by
  cases a <;> cases b <;> first | rfl | exact absurd h (by simp [podPhasePriority])

theorem podStatus_fst (pod : Pod) :
    (podStatus pod).map Prod.fst = mapPodPhaseToStatus pod.state.phase := by
  unfold podStatus
  split
  · rename_i hnone
    exact hnone.symm
  · rename_i status hsome
    rw [hsome]
    dsimp only
    split <;> rfl

theorem stuckRolloutStatus_fst (deploy : Deployment) (pod : Option Pod) :
    (stuckRolloutStatus deploy pod).map Prod.fst =
      (stuckRolloutStatus deploy none).map Prod.fst := by
  unfold stuckRolloutStatus
  split
  · rfl
  · cases pod with
    | none => rfl
    | some pod =>
      dsimp only
      split <;> rfl

theorem reconcileStatus_priority (deploy : Option Deployment) {p q : Pod}
    (h : priority p = priority q) :
    (reconcileStatus deploy (some p)).map Prod.fst =
      (reconcileStatus deploy (some q)).map Prod.fst := by
  have hpods : (podStatus p).map Prod.fst = (podStatus q).map Prod.fst := by
    rw [podStatus_fst, podStatus_fst, mapPodPhaseToStatus_priority h]
  cases deploy with
  | none => exact hpods
  | some deploy =>
    rw [reconcileStatus, reconcileStatus, Option.map_or, Option.map_or, hpods,
      stuckRolloutStatus_fst deploy (some p), stuckRolloutStatus_fst deploy (some q)]

theorem Worst.status_eq (deploy : Option Deployment) {pods : List Pod} {o o' : Option Pod}
    (h : Worst pods o) (h' : Worst pods o') :
    (reconcileStatus deploy o).map Prod.fst = (reconcileStatus deploy o').map Prod.fst := by
  cases o with
  | none =>
    cases o' with
    | none => rfl
    | some q =>
      have hnil : pods = [] := h
      rw [hnil] at h'
      cases h'.1
  | some p =>
    cases o' with
    | none =>
      have hnil : pods = [] := h'
      rw [hnil] at h
      cases h.1
    | some q => exact reconcileStatus_priority deploy (Int.le_antisymm (h'.2 p h.1) (h.2 q h'.1))

def OfInstance (id deployName : String) : Event → Prop
  | .deployEvent obj => obj.instanceID = id ∧ obj.name = deployName
  | .deployDelete obj => obj.instanceID = id ∧ obj.name = deployName
  | .podEvent obj => obj.instanceID = id
  | .podDelete obj => obj.instanceID = id

def Leading (m : Monitor) : Event → Prop
  | .podEvent obj => ∀ q ∈ (m.caches.update (.podEvent obj)).pods, priority q ≤ priority obj
  | _ => True

instance (m : Monitor) : (e : Event) → Decidable (Leading m e)
  | .podEvent obj => inferInstanceAs (Decidable (∀ q ∈ (m.caches.update (.podEvent obj)).pods, _))
  | .podDelete _ => inferInstanceAs (Decidable True)
  | .deployEvent _ => inferInstanceAs (Decidable True)
  | .deployDelete _ => inferInstanceAs (Decidable True)

structure Own (id deployName : String) (c : Caches) : Prop where
  pods : ∀ p ∈ c.pods, p.instanceID = id
  deploys : ∀ d ∈ c.deploys, d.instanceID = id ∧ d.name = deployName
  single : c.deploys.length ≤ 1

/-- The last submission is that of the cached Deployment and the worst of the cached pods, if that
pair is to be published. -/
structure Truthful (id : String) (m : Monitor) : Prop where
  event : ∃ pod, Worst m.caches.pods pod ∧
    ∀ r, reconcileStatus m.caches.deploys.head? pod = some r →
      m.submitted id = some ⟨id, r.1, r.2⟩
  status : ∀ pod r, Worst m.caches.pods pod →
    reconcileStatus m.caches.deploys.head? pod = some r →
      (m.submitted id).map StatusEvent.status = some r.1

section

variable {id deployName : String} {m m' : Monitor} {c : Caches} {e : Event}

theorem Own.evict_deploys (h : Own id deployName c) {obj : Deployment}
    (hname : obj.name = deployName) : evict c.deploys obj = [] := by
  refine List.filter_eq_nil_iff.mpr ?_
  intro d hd
  simp [(h.deploys d hd).2, hname]

theorem Own.upsert_deploys (h : Own id deployName c) {obj : Deployment}
    (hname : obj.name = deployName) : upsert c.deploys obj = [obj] :=
  congrArg (· ++ [obj]) (h.evict_deploys hname)

theorem Own.update (h : Own id deployName c) (he : OfInstance id deployName e) :
    Own id deployName (c.update e) := by
  cases e with
  | deployEvent obj =>
    refine ⟨h.pods, ?_, ?_⟩
    · intro d hd
      rcases mem_upsert.mp hd with hd | rfl
      · exact h.deploys d (mem_of_evict hd)
      · exact he
    · exact Nat.le_of_eq (congrArg List.length (h.upsert_deploys he.2))
  | deployDelete obj =>
    refine ⟨h.pods, fun d hd => h.deploys d (mem_of_evict hd), ?_⟩
    have hnone : (c.update (.deployDelete obj)).deploys = [] := h.evict_deploys he.2
    rw [hnone]
    exact Nat.zero_le 1
  | podEvent obj =>
    refine ⟨?_, h.deploys, h.single⟩
    intro p hp
    rcases mem_upsert.mp hp with hp | rfl
    · exact h.pods p (mem_of_evict hp)
    · exact he
  | podDelete obj => exact ⟨fun p hp => h.pods p (mem_of_evict hp), h.deploys, h.single⟩

theorem Own.lookupDeploy (h : Own id deployName c) (hid : id ≠ "")
    {indexer : String → List Deployment} (hix : Indexes indexer c.deploys) :
    lookupDeployByIndex indexer id = c.deploys.head? := by
  have hall : c.deploys.filter (·.instanceID = id) = c.deploys :=
    List.filter_eq_self.mpr fun d hd => by simp [(h.deploys d hd).1]
  have hperm := hix id hid
  rw [hall] at hperm
  rw [lookupDeployByIndex]
  match hdeploys : c.deploys, h.single with
  | [], _ =>
    rw [hdeploys] at hperm
    rw [hperm.eq_nil]
  | [d], _ =>
    rw [hdeploys] at hperm
    rw [List.perm_singleton.mp hperm]

theorem Own.lookupPod (h : Own id deployName c) (hid : id ≠ "")
    {indexer : String → List Pod} (hix : Indexes indexer c.pods) :
    Worst c.pods (lookupPodByIndex indexer id) := by
  have hall : c.pods.filter (·.instanceID = id) = c.pods :=
    List.filter_eq_self.mpr fun p hp => by simp [h.pods p hp]
  have hperm := hix id hid
  rw [hall] at hperm
  exact (lookupPodByIndex_worst indexer id).perm fun q => hperm.mem_iff

theorem truthful_submit (m : Monitor) {pod : Option Pod} (hpod : Worst m.caches.pods pod) :
    Truthful id (m.submit (reconcileAndSubmit id m.caches.deploys.head? pod)) := by
  have hevent : ∀ r, reconcileStatus m.caches.deploys.head? pod = some r →
      (m.submit (reconcileAndSubmit id m.caches.deploys.head? pod)).submitted id =
        some ⟨id, r.1, r.2⟩ := by
    intro r hr
    rw [reconcileAndSubmit, hr]
    exact Function.update_self ..
  constructor
  · rw [submit_caches]
    exact ⟨pod, hpod, hevent⟩
  · rw [submit_caches]
    intro other r hother hr
    have hsame := hpod.status_eq m.caches.deploys.head? hother
    rw [hr] at hsame
    obtain ⟨r', hr', hfst⟩ := Option.map_eq_some_iff.mp hsame
    rw [hevent r' hr', Option.map_some, hfst]

theorem handle_worst (hid : id ≠ "") (hown : Own id deployName m.caches)
    (he : OfInstance id deployName e) (hlead : Leading m e)
    {deployIndexer : String → List Deployment} {podIndexer : String → List Pod}
    (hdeploys : Indexes deployIndexer (m.caches.update e).deploys)
    (hpods : Indexes podIndexer (m.caches.update e).pods) :
    ∃ pod, Worst (m.caches.update e).pods pod ∧ handle deployIndexer podIndexer e =
      reconcileAndSubmit id (m.caches.update e).deploys.head? pod := by
  have hown' := hown.update he
  have hworst := hown'.lookupPod hid hpods
  have hdeploy := hown'.lookupDeploy hid hdeploys
  cases e with
  | deployEvent obj =>
    obtain ⟨hobj, hname⟩ := he
    refine ⟨_, hworst, ?_⟩
    have hhead : (m.caches.update (.deployEvent obj)).deploys.head? = some obj :=
      congrArg List.head? (hown.upsert_deploys hname)
    rw [hhead, handle, handleDeployEvent, hobj, if_neg hid]
  | deployDelete obj =>
    obtain ⟨hobj, hname⟩ := he
    refine ⟨_, hworst, ?_⟩
    have hhead : (m.caches.update (.deployDelete obj)).deploys.head? = none :=
      congrArg List.head? (hown.evict_deploys hname)
    rw [hhead, handle, handleDeployDelete, hobj, if_neg hid]
  | podEvent obj =>
    have hobj : obj.instanceID = id := he
    refine ⟨some obj, ⟨mem_upsert.mpr (Or.inr rfl), hlead⟩, ?_⟩
    rw [← hdeploy, handle, handlePodEvent, hobj, if_neg hid]
  | podDelete obj =>
    have hobj : obj.instanceID = id := he
    refine ⟨_, hworst, ?_⟩
    rw [← hdeploy, handle, handlePodDelete, hobj, if_neg hid]

theorem Step.truthful (hid : id ≠ "") (hown : Own id deployName m.caches)
    (he : OfInstance id deployName e) (hlead : Leading m e) (h : Step m e m') :
    Truthful id m' := by
  cases h with
  | mk hdeploys hpods =>
    obtain ⟨pod, hworst, hhandle⟩ := handle_worst hid hown he hlead hdeploys hpods
    rw [hhandle]
    exact truthful_submit { m with caches := m.caches.update e } hworst

theorem run_own {l : List Event} (h : Run Step newMonitor l m)
    (hl : ∀ e ∈ l, OfInstance id deployName e) : Own id deployName m.caches := by
  induction h with
  | nil => exact ⟨List.forall_mem_nil _, List.forall_mem_nil _, Nat.zero_le 1⟩
  | snoc _ hstep ih =>
    obtain ⟨hbefore, hlast⟩ := List.forall_mem_append.mp hl
    rw [hstep.caches]
    exact (ih hbefore).update (hlast _ (List.mem_singleton_self _))

theorem run_truthful {l : List Event} (hid : id ≠ "")
    (h : Run (Guarded Step Leading) newMonitor l m) (hl : ∀ e ∈ l, OfInstance id deployName e)
    (hne : l ≠ []) : Truthful id m := by
  cases h with
  | nil => exact absurd rfl hne
  | snoc hrun hstep =>
    obtain ⟨hbefore, hlast⟩ := List.forall_mem_append.mp hl
    exact hstep.2.truthful hid (run_own hrun.of_guarded hbefore)
      (hlast _ (List.mem_singleton_self _)) hstep.1

end

/-- The last submission is the status of the cached Deployment and the worst cached pod, and two
runs that end with the same caches end with the same status. -/
theorem container_status_determined {id deployName : String} (hid : id ≠ "") {l l' : List Event}
    {m m' : Monitor} (h : Run (Guarded Step Leading) newMonitor l m)
    (h' : Run (Guarded Step Leading) newMonitor l' m')
    (hl : ∀ e ∈ l, OfInstance id deployName e) (hl' : ∀ e ∈ l', OfInstance id deployName e)
    (hne : l ≠ []) (hne' : l' ≠ []) :
    Truthful id m ∧
      (m.caches.deploys = m'.caches.deploys → (∀ p, p ∈ m.caches.pods ↔ p ∈ m'.caches.pods) →
        ∀ pod r, Worst m.caches.pods pod →
          reconcileStatus m.caches.deploys.head? pod = some r →
          (m.submitted id).map StatusEvent.status = (m'.submitted id).map StatusEvent.status) := by
  have htruthful := run_truthful hid h hl hne
  refine ⟨htruthful, ?_⟩
  intro hdeploys hpods pod r hworst hr
  rw [htruthful.status pod r hworst hr]
  rw [hdeploys] at hr
  exact ((run_truthful hid h' hl' hne').status pod r (hworst.perm hpods) hr).symm

def failedPod : Pod := ⟨"web-1", "c1", .failed, []⟩
def runningPod : Pod := ⟨"web-2", "c1", .running, []⟩
def readyDeployment : Deployment := ⟨"web", "c1", some 2, []⟩

/-- The pod that is worst reports after the other, so every event brings the worst. -/
theorem container_status_determined_worst_last :
    let m := [Event.deployEvent readyDeployment, .podEvent runningPod, .podEvent failedPod].foldl
      Monitor.next newMonitor
    Truthful "c1" m ∧ m.submitted "c1" = some ⟨"c1", .failed, "Failed"⟩ := by
  intro m
  have hleading : Run (Guarded Step Leading) newMonitor
      [Event.deployEvent readyDeployment, .podEvent runningPod, .podEvent failedPod] m :=
    ((Run.nil.snoc ⟨trivial, step_next _ _⟩).snoc ⟨by decide +kernel, step_next _ _⟩).snoc
      ⟨by decide +kernel, step_next _ _⟩
  have hinstance : ∀ e ∈ [Event.deployEvent readyDeployment, .podEvent runningPod,
      .podEvent failedPod], OfInstance "c1" "web" e := by
    simp [OfInstance, readyDeployment, runningPod, failedPod]
  exact ⟨(container_status_determined (by decide) hleading hleading hinstance hinstance
    (by simp) (by simp)).1, by decide +kernel⟩

/-- A Deployment, a failed pod and a running one: the status is that of the pod that reported
last. -/
theorem last_reporter_wins :
    let l := [Event.deployEvent readyDeployment, .podEvent failedPod, .podEvent runningPod]
    let l' := [Event.deployEvent readyDeployment, .podEvent runningPod, .podEvent failedPod]
    let m := l.foldl Monitor.next newMonitor
    let m' := l'.foldl Monitor.next newMonitor
    Run Step newMonitor l m ∧ Run Step newMonitor l' m' ∧
      m.caches.deploys = m'.caches.deploys ∧ (∀ p, p ∈ m.caches.pods ↔ p ∈ m'.caches.pods) ∧
      Worst m.caches.pods (some failedPod) ∧
      reconcileStatus m.caches.deploys.head? (some failedPod) = some (.failed, "Failed") ∧
      m.submitted "c1" = some ⟨"c1", .running, "Running"⟩ ∧
      m'.submitted "c1" = some ⟨"c1", .failed, "Failed"⟩ := by
  refine ⟨run_next _ _, run_next _ _, by decide +kernel, ?_, ?_, by decide +kernel,
    by decide +kernel, by decide +kernel⟩
  · intro p
    change p ∈ [failedPod, runningPod] ↔ p ∈ [runningPod, failedPod]
    simp [or_comm]
  · exact ⟨by decide +kernel, by decide +kernel⟩

end ContainerStatus
