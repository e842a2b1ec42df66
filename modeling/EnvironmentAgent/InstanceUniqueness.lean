import EnvironmentAgent.EmbeddedHandlers

/-! # One object per instance id

Requests reach the handlers one after another, and any call to the Kubernetes API may fail, with or
without having taken effect. -/
namespace InstanceUniqueness

open AtomicPrograms SequentialPrograms ObjectStore RoutingEffects EmbeddedHandlers

inductive Provider where
  | vm
  | container
  | cluster
  deriving DecidableEq, Repr

inductive Call where
  | create (p : Provider) (req : CreateResourceRequest)
  | delete (p : Provider) (req : DeleteResourceRequest)

variable (dec : Decoding) (cfg : ClusterConfig)

def handle : Call → Prog Kubernetes (Except SPError Unit)
  | .create .vm req => VMHandler.createResource dec req
  | .create .container req => ContainerHandler.createResource dec req
  | .create .cluster req => ClusterHandler.createResource dec cfg req
  | .delete .vm req => VMHandler.deleteResource req
  | .delete .container req => ContainerHandler.deleteResource req
  | .delete .cluster req => ClusterHandler.deleteResource req

def body (c : Call) : Prog (tagged Kubernetes Call) Unit := tag c do
  let _ ← handle dec cfg c

variable {dec cfg}

def Faulty (srv : Server) : Action (tagged Kubernetes Call) Cluster :=
  fun o w x v => Served srv o.2 w x v

/-- The lookup of a VM create fails only while no VirtualMachine carries its id. -/
def LooksUp (w : Cluster) : (o : Call × Op Kind Body) → (tagged Kubernetes Call).Ans o → Prop
  | (.create .vm req, .list _ _), .error _ =>
    ∀ o ∈ w.objects .virtualMachine, o.labels.lookup labelInstanceID ≠ some req.resourceID
  | _, _ => True

def Guarded (srv : Server) : Action (tagged Kubernetes Call) Cluster :=
  fun o w x v => Served srv o.2 w x v ∧ LooksUp w o x

def CreatesOnly (ks : List Kind) : Op Kind Body → Prop
  | .create k _ => k ∈ ks
  | _ => True

variable {ks : List Kind}

theorem getVirtualMachine_uses (id : String) :
    (getVirtualMachine id).Uses (S := Kubernetes) (CreatesOnly ks) := by
  apply Prog.Uses.perform_bind trivial
  intro x
  rcases x with e | (_ | _)
  · trivial
  · trivial
  · trivial

theorem deleteVirtualMachine_uses (id : String) :
    (deleteVirtualMachine id).Uses (S := Kubernetes) (CreatesOnly ks) := by
  apply (getVirtualMachine_uses id).bind
  intro r
  cases r with
  | error e => trivial
  | ok item => exact ⟨trivial, fun _ => trivial⟩

theorem createVirtualMachine_uses (hk : .virtualMachine ∈ ks) (m : Manifest Body) :
    (createVirtualMachine m).Uses (S := Kubernetes) (CreatesOnly ks) := by
  apply Prog.Uses.perform_bind hk
  intro x
  cases x with
  | error e => trivial
  | ok o => trivial

theorem vmCreate_uses (hk : .virtualMachine ∈ ks) (req : CreateResourceRequest) :
    (VMHandler.createResource dec req).Uses (S := Kubernetes) (CreatesOnly ks) := by
  rw [VMHandler.createResource]
  split
  · trivial
  apply (getVirtualMachine_uses req.resourceID).bind
  intro r
  cases r with
  | ok vm => trivial
  | error e =>
    apply (createVirtualMachine_uses hk (vmSpecToVirtualMachine req.resourceID)).bind
    intro r
    cases r with
    | error e => trivial
    | ok vm => trivial

theorem vmDelete_uses (req : DeleteResourceRequest) :
    (VMHandler.deleteResource req).Uses (S := Kubernetes) (CreatesOnly ks) := by
  apply (deleteVirtualMachine_uses req.resourceID).bind
  intro r
  cases r with
  | error e => trivial
  | ok _ => trivial

theorem exposeDeployment_uses (hk : .service ∈ ks) (spec : ContainerSpec) (labels : Labels)
    (deploy : Object Body) : (K8sContainerStore.exposeDeployment spec labels deploy).Uses
      (S := Kubernetes) (CreatesOnly ks) := by
  rw [K8sContainerStore.exposeDeployment]
  split
  · trivial
  apply Prog.Uses.perform_bind hk
  intro x
  cases x with
  | error e => exact ⟨trivial, fun _ => trivial⟩
  | ok svc => trivial

theorem containerStoreCreate_uses (hk : .deployment ∈ ks) (hk' : .service ∈ ks)
    (spec : ContainerSpec) (id : String) :
    (K8sContainerStore.create dec spec id).Uses (S := Kubernetes) (CreatesOnly ks) := by
  apply Prog.Uses.perform_bind trivial
  intro x
  rcases x with e | (_ | _)
  · trivial
  · dsimp only
    split
    · trivial
    apply Prog.Uses.perform_bind hk
    intro x
    cases x with
    | error e =>
      dsimp only
      split <;> trivial
    | ok deploy => exact exposeDeployment_uses hk' _ _ deploy
  · trivial

theorem containerCreate_uses (hk : .deployment ∈ ks) (hk' : .service ∈ ks)
    (req : CreateResourceRequest) :
    (ContainerHandler.createResource dec req).Uses (S := Kubernetes) (CreatesOnly ks) := by
  rw [ContainerHandler.createResource]
  split
  · trivial
  split
  · trivial
  apply (containerStoreCreate_uses hk hk' _ _).bind
  intro r
  cases r with
  | error e => trivial
  | ok _ => trivial

theorem findDeployment_uses (id : String) :
    (K8sContainerStore.findDeployment id).Uses (S := Kubernetes) (CreatesOnly ks) := by
  apply Prog.Uses.perform_bind trivial
  intro x
  rcases x with e | (_ | ⟨_, _ | _⟩)
  · trivial
  · trivial
  · trivial
  · trivial

theorem deleteServices_uses (svcs : List (Object Body)) :
    (K8sContainerStore.deleteServices svcs).Uses (S := Kubernetes) (CreatesOnly ks) := by
  induction svcs with
  | nil => trivial
  | cons svc rest ih =>
    apply Prog.Uses.perform_bind trivial
    intro x
    cases x with
    | error e => trivial
    | ok _ => exact ih

theorem containerStoreDelete_uses (id : String) :
    (K8sContainerStore.delete id).Uses (S := Kubernetes) (CreatesOnly ks) := by
  apply (findDeployment_uses id).bind
  intro r
  cases r with
  | error e => trivial
  | ok deploy =>
    apply Prog.Uses.perform_bind trivial
    intro x
    cases x with
    | error e => trivial
    | ok svcs =>
      apply (deleteServices_uses svcs).bind
      intro r
      cases r with
      | error e => trivial
      | ok _ =>
        apply Prog.Uses.perform_bind trivial
        intro x
        cases x with
        | error e => trivial
        | ok _ => trivial

theorem containerDelete_uses (req : DeleteResourceRequest) :
    (ContainerHandler.deleteResource req).Uses (S := Kubernetes) (CreatesOnly ks) := by
  apply (containerStoreDelete_uses req.resourceID).bind
  intro r
  cases r with
  | error e => trivial
  | ok _ => trivial

theorem resolveReleaseImage_uses (req : ClusterSpec) :
    (resolveReleaseImage cfg req).Uses (S := Kubernetes) (CreatesOnly ks) := by
  rw [resolveReleaseImage]
  split
  · trivial
  dsimp only
  split
  · trivial
  apply Prog.Uses.perform_bind trivial
  intro x
  cases x with
  | error e => trivial
  | ok items =>
    dsimp only
    split <;> trivial

theorem findByInstanceID_uses (id : String) :
    (findByInstanceID id).Uses (S := Kubernetes) (CreatesOnly ks) := by
  apply Prog.Uses.perform_bind trivial
  intro x
  rcases x with e | (_ | _)
  · trivial
  · trivial
  · trivial

theorem createNodePool_uses (hk : .nodePool ∈ ks) (req : ClusterSpec) (id : String)
    (hc : Object Body) :
    (createNodePool req id hc).Uses (S := Kubernetes) (CreatesOnly ks) := by
  apply Prog.Uses.perform_bind hk
  intro x
  cases x with
  | error e =>
    apply Prog.Uses.perform_bind trivial
    intro x
    cases x with
    | error e => trivial
    | ok _ => trivial
  | ok np => trivial

theorem createCluster_uses (hk : .hostedCluster ∈ ks) (hk' : .nodePool ∈ ks) (id : String)
    (req : ClusterSpec) : (createCluster cfg id req).Uses (S := Kubernetes) (CreatesOnly ks) := by
  rw [createCluster]
  split
  · trivial
  apply (resolveReleaseImage_uses req).bind
  intro r
  cases r with
  | error e => trivial
  | ok image =>
    apply (findByInstanceID_uses id).bind
    intro r
    cases r with
    | ok hc => trivial
    | error e =>
      dsimp only
      split
      · trivial
      apply Prog.Uses.perform_bind hk
      intro x
      cases x with
      | error e =>
        dsimp only
        split <;> trivial
      | ok hc => exact createNodePool_uses hk' req id hc

theorem dispatchCreate_uses (hk : .hostedCluster ∈ ks) (hk' : .nodePool ∈ ks) (id : String)
    (req : ClusterSpec) : (dispatchCreate cfg id req).Uses (S := Kubernetes) (CreatesOnly ks) := by
  rw [dispatchCreate]
  split
  · trivial
  split
  · exact createCluster_uses hk hk' id req
  · split
    · trivial
    · exact createCluster_uses hk hk' id req
  · trivial

theorem clusterCreate_uses (hk : .hostedCluster ∈ ks) (hk' : .nodePool ∈ ks)
    (req : CreateResourceRequest) :
    (ClusterHandler.createResource dec cfg req).Uses (S := Kubernetes) (CreatesOnly ks) := by
  rw [ClusterHandler.createResource]
  split
  · trivial
  apply (dispatchCreate_uses hk hk' _ _).bind
  intro r
  cases r with
  | error e => trivial
  | ok _ => trivial

theorem deleteEachNodePool_uses (nps : List (Object Body)) :
    (deleteEachNodePool nps).Uses (S := Kubernetes) (CreatesOnly ks) := by
  induction nps with
  | nil => trivial
  | cons np rest ih =>
    apply Prog.Uses.perform_bind trivial
    intro x
    cases x with
    | error e =>
      dsimp only
      split
      · exact ih
      · trivial
    | ok _ => exact ih

theorem deleteNodePools_uses (id : String) :
    (deleteNodePools id).Uses (S := Kubernetes) (CreatesOnly ks) := by
  apply Prog.Uses.perform_bind trivial
  intro x
  cases x with
  | error e => trivial
  | ok items => exact deleteEachNodePool_uses items

theorem deleteCluster_uses (id : String) :
    (deleteCluster id).Uses (S := Kubernetes) (CreatesOnly ks) := by
  apply (findByInstanceID_uses id).bind
  intro r
  cases r with
  | error e => trivial
  | ok hc =>
    apply (deleteNodePools_uses id).bind
    intro r
    cases r with
    | error e => trivial
    | ok _ =>
      apply Prog.Uses.perform_bind trivial
      intro x
      cases x with
      | error e => trivial
      | ok _ => trivial

theorem clusterDelete_uses (req : DeleteResourceRequest) :
    (ClusterHandler.deleteResource req).Uses (S := Kubernetes) (CreatesOnly ks) := by
  apply (deleteCluster_uses req.resourceID).bind
  intro r
  cases r with
  | error e => trivial
  | ok _ => trivial

/-- At most one object of the kind for each instance id, and a Deployment with an instance id is
labelled as managed, as the container store looks for that. -/
structure Sound (k : Kind) (w : Cluster) : Prop where
  single : Single labelInstanceID k w
  managed : k = .deployment → ∀ o ∈ w.objects k, (o.labels.lookup labelInstanceID).isSome →
    o.labels.lookup labelManagedBy = some valueManagedByDCM

variable {k : Kind} {w v : Cluster} {srv : Server} {m : Manifest Body} {id : String}

theorem Sound.of_sublist (h : Sound k w) (hsub : (v.objects k).Sublist (w.objects k)) :
    Sound k v where
  single := h.single.of_sublist hsub
  managed hk o ho := h.managed hk o (hsub.subset ho)

def Unused (srv : Server) (k : Kind) (m : Manifest Body) (id : String) (w : Cluster) : Prop :=
  (∀ l ∈ m.labels, srv.valid l = true) →
    ∀ o ∈ w.objects k, o.labels.lookup labelInstanceID ≠ some id

structure Labelled (m : Manifest Body) (id : String) : Prop where
  instanceID : m.labels.lookup labelInstanceID = some id
  managedBy : m.labels.lookup labelManagedBy = some valueManagedByDCM

theorem Sound.create {x : Kubernetes.Ans (.create k m)} (h : Sound k w)
    (hs : Served srv (.create k m) w x v) (hm : Labelled m id) (hunused : Unused srv k m id w) :
    Sound k v := by
  rcases served_create hs with rfl | ⟨o, ho⟩
  · exact h
  have hunused := hunused ho.valid
  rw [ho.stored]
  constructor
  · apply h.single.insert ho.fresh
    intro value hvalue
    rw [ho.labels, hm.instanceID] at hvalue
    exact Option.some.inj hvalue ▸ hunused
  · intro hk o' ho' hid
    rw [objects_insert] at ho'
    rcases List.mem_append.mp ho' with hold | hnew
    · exact h.managed hk o' hold hid
    · rw [List.mem_singleton.mp hnew, ho.labels]
      exact hm.managedBy

theorem buildDeployment_labels {spec : ContainerSpec} {labels : Labels}
    (h : buildDeployment dec spec labels = .ok m) : m.labels = labels := by
  rw [buildDeployment] at h
  split at h
  · cases h
  split at h
  · cases h
  split at h
  · cases h
  · cases h
    rfl

section Programs

variable {act : Action Kubernetes Cluster} {α β : Type}

abbrev Keeps (k : Kind) (v u : Cluster) : Prop := Sound k v → Sound k u

abbrev SoundAlong (act : Action Kubernetes Cluster) (k : Kind) (p : Prog Kubernetes α)
    (w : Cluster) : Prop :=
  Along act (Keeps k) p w fun _ u => Sound k u

theorem soundAlong_bind {p : Prog Kubernetes α} {f : α → Prog Kubernetes β}
    (hp : SoundAlong act k p w) (hf : ∀ a v, Sound k v → SoundAlong act k (f a) v) :
    SoundAlong act k (p >>= f) w := by
  apply along_bind.mpr
  apply hp.mono fun _ _ hr => hr
  intro r u hu
  cases r with
  | none => exact hu
  | some a => exact hf a u hu

variable (hact : ∀ o w x v, act o w x v → Served srv o w x v)
include hact

theorem soundAlong_other {p : Prog Kubernetes α} (hp : p.Uses (CreatesOnly ks)) (hk : k ∉ ks)
    (h : Sound k w) : SoundAlong act k p w := by
  apply Along.of_keeps hp _ h
  intro o ho v x u ha hv
  apply hv.of_sublist (served_sublist (hact o v x u ha) _)
  intro m hm
  subst hm
  exact hk ho

theorem along_list {j : Kind} {s : Selector} {f : Kubernetes.Ans (.list j s) → Prog Kubernetes α}
    {Q : Option α → Cluster → Prop}
    (hf : ∀ x, act (.list j s) w x w → Along act (Keeps k) (f x) w Q) :
    Along act (Keeps k) (list j s >>= f) w Q := by
  intro x v ha
  obtain rfl := served_list (hact _ _ _ _ ha)
  exact ⟨fun h => h, hf x ha⟩

theorem soundAlong_create {f : Kubernetes.Ans (.create k m) → Prog Kubernetes α}
    (h : Sound k w) (hm : Labelled m id) (hunused : Unused srv k m id w)
    (hf : ∀ x v, Sound k v → SoundAlong act k (f x) v) :
    SoundAlong act k (ObjectStore.create k m >>= f) w := by
  intro x v ha
  have hv := h.create (hact _ _ _ _ ha) hm hunused
  exact ⟨fun _ => hv, hf x v hv⟩

theorem soundAlong_storeVirtualMachine (h : Sound .virtualMachine w)
    (hunused : Unused srv .virtualMachine (vmSpecToVirtualMachine id) id w) :
    SoundAlong act .virtualMachine (VMHandler.storeVirtualMachine id) w := by
  have hm : Labelled (vmSpecToVirtualMachine id) id := ⟨rfl, rfl⟩
  apply soundAlong_bind
  · apply soundAlong_create hact h hm hunused
    intro x v hv
    cases x with
    | error e => exact hv
    | ok vm => exact hv
  · intro r v hv
    cases r with
    | error e => exact hv
    | ok vm => exact hv

theorem soundAlong_vmCreate (req : CreateResourceRequest) (h : Sound .virtualMachine w)
    (hlook : ∀ e, act (.list .virtualMachine (vmSelector req.resourceID)) w (.error e) w →
      ∀ o ∈ w.objects .virtualMachine, o.labels.lookup labelInstanceID ≠ some req.resourceID) :
    SoundAlong act .virtualMachine (VMHandler.createResource dec req) w := by
  rw [VMHandler.createResource]
  split
  · exact h
  apply along_bind.mpr
  apply along_list hact
  intro x hx
  rcases x with e | (_ | ⟨vm, rest⟩)
  · exact soundAlong_storeVirtualMachine hact h fun _ => hlook e hx
  · apply soundAlong_storeVirtualMachine hact h
    intro hvalid o ho hid
    apply served_list_nil (hact _ _ _ _ hx) _ o ho
    · simp [vmSelector, Selector.holds, hid]
    · intro r hr
      rw [List.mem_singleton.mp hr]
      exact hvalid _ (by simp [vmSpecToVirtualMachine])
  · exact h

theorem soundAlong_containerStoreCreate (spec : ContainerSpec) (h : Sound .deployment w) :
    SoundAlong act .deployment (K8sContainerStore.create dec spec id) w := by
  apply along_list hact
  intro x hx
  rcases x with e | (_ | ⟨deploy, rest⟩)
  · exact h
  · dsimp only
    split
    · exact h
    case h_2 deploy hbuild =>
      have hlabels := buildDeployment_labels hbuild
      have hm : Labelled deploy id := by
        constructor
        · rw [hlabels]
          rfl
        · rw [hlabels]
          rfl
      apply soundAlong_create hact h hm
      · intro hvalid o ho hid
        have hmanaged := h.managed rfl o ho (by simp [hid])
        apply served_list_nil (hact _ _ _ _ hx) _ o ho
        · simp [instanceSelector, Selector.holds, hid, hmanaged]
        · intro r hr
          apply hvalid r
          rw [hlabels]
          simp only [instanceSelector, List.mem_cons, List.not_mem_nil, or_false] at hr
          rcases hr with rfl | rfl
          · simp [mergeLabels, dcmLabels]
          · simp [mergeLabels, dcmLabels]
      · intro x v hv
        cases x with
        | error e =>
          dsimp only
          split
          · exact hv
          · exact hv
        | ok stored =>
          have hservice : Kind.service ∈ [Kind.service] := List.mem_singleton_self _
          exact soundAlong_other hact (exposeDeployment_uses hservice _ _ stored) (by simp) hv
  · exact h

theorem soundAlong_containerCreate (req : CreateResourceRequest) (h : Sound .deployment w) :
    SoundAlong act .deployment (ContainerHandler.createResource dec req) w := by
  rw [ContainerHandler.createResource]
  split
  · exact h
  split
  · exact h
  apply soundAlong_bind (soundAlong_containerStoreCreate hact _ h)
  intro r v hv
  cases r with
  | error e => exact hv
  | ok _ => exact hv

theorem soundAlong_createCluster (req : ClusterSpec) (h : Sound .hostedCluster w) :
    SoundAlong act .hostedCluster (createCluster cfg id req) w := by
  rw [createCluster]
  split
  · exact h
  apply soundAlong_bind (soundAlong_other hact (resolveReleaseImage_uses req) List.not_mem_nil h)
  intro r v hv
  cases r with
  | error e => exact hv
  | ok image =>
    apply along_bind.mpr
    apply along_list hact
    intro x hx
    rcases x with e | (_ | ⟨hc, rest⟩)
    · exact hv
    · have hm : Labelled (buildClusterObject req id) id := ⟨rfl, rfl⟩
      apply soundAlong_create hact hv hm
      · intro hvalid o ho hid
        apply served_list_nil (hact _ _ _ _ hx) _ o ho
        · simp [clusterSelector, Selector.holds, hid]
        · intro r hr
          rw [List.mem_singleton.mp hr]
          exact hvalid _ (by simp [buildClusterObject, clusterLabels])
      · intro x u hu
        cases x with
        | error e =>
          dsimp only
          split
          · exact hu
          · exact hu
        | ok hc =>
          have hpool : Kind.nodePool ∈ [Kind.nodePool] := List.mem_singleton_self _
          exact soundAlong_other hact (createNodePool_uses hpool req id hc) (by simp) hu
    · exact hv

theorem soundAlong_dispatchCreate (req : ClusterSpec) (h : Sound .hostedCluster w) :
    SoundAlong act .hostedCluster (dispatchCreate cfg id req) w := by
  rw [dispatchCreate]
  split
  · exact h
  split
  · exact soundAlong_createCluster hact req h
  · split
    · exact h
    · exact soundAlong_createCluster hact req h
  · exact h

theorem soundAlong_clusterCreate (req : CreateResourceRequest) (h : Sound .hostedCluster w) :
    SoundAlong act .hostedCluster (ClusterHandler.createResource dec cfg req) w := by
  rw [ClusterHandler.createResource]
  split
  · exact h
  apply soundAlong_bind (soundAlong_dispatchCreate hact _ h)
  intro r v hv
  cases r with
  | error e => exact hv
  | ok _ => exact hv

end Programs

def backing : List Kind := [.virtualMachine, .deployment, .hostedCluster]

theorem soundAlong_handle {act : Action (tagged Kubernetes Call) Cluster}
    (hact : ∀ o w x v, act o w x v → Served srv o.2 w x v)
    (hlook : k = .virtualMachine → ∀ o w x v, act o w x v → LooksUp w o x) (hk : k ∈ backing)
    (c : Call) (h : Sound k w) :
    SoundAlong (fun o => act (c, o)) k (handle dec cfg c) w := by
  have hact : ∀ o w x v, act (c, o) w x v → Served srv o w x v := fun o => hact (c, o)
  cases c with
  | create p req =>
    cases p with
    | vm =>
      by_cases hvm : k = .virtualMachine
      · subst hvm
        exact soundAlong_vmCreate hact req h fun e he => hlook rfl _ _ _ _ he
      · have huses : (VMHandler.createResource dec req).Uses (S := Kubernetes)
            (CreatesOnly [.virtualMachine]) := vmCreate_uses (by simp) req
        exact soundAlong_other hact huses (by simp [hvm]) h
    | container =>
      by_cases hdeploy : k = .deployment
      · subst hdeploy
        exact soundAlong_containerCreate hact req h
      · have huses : (ContainerHandler.createResource dec req).Uses (S := Kubernetes)
            (CreatesOnly [.deployment, .service]) := containerCreate_uses (by simp) (by simp) req
        exact soundAlong_other hact huses (by cases k <;> simp_all [backing]) h
    | cluster =>
      by_cases hcluster : k = .hostedCluster
      · subst hcluster
        exact soundAlong_clusterCreate hact req h
      · have huses : (ClusterHandler.createResource dec cfg req).Uses (S := Kubernetes)
            (CreatesOnly [.hostedCluster, .nodePool]) := clusterCreate_uses (by simp) (by simp) req
        exact soundAlong_other hact huses (by cases k <;> simp_all [backing]) h
  | delete p req =>
    have hnone : k ∉ ([] : List Kind) := List.not_mem_nil
    cases p with
    | vm => exact soundAlong_other hact (vmDelete_uses req) hnone h
    | container => exact soundAlong_other hact (containerDelete_uses req) hnone h
    | cluster => exact soundAlong_other hact (clusterDelete_uses req) hnone h

abbrev Requests (dec : Decoding) (cfg : ClusterConfig)
    (act : Action (tagged Kubernetes Call) Cluster) (w : Cluster) :
    Prog (tagged Kubernetes Call) Unit × Cluster → Prop :=
  Reached act (body dec cfg) (fun _ _ => True) (fun _ => False) w

theorem sound_requests {act : Action (tagged Kubernetes Call) Cluster}
    (hact : ∀ o w x v, act o w x v → Served srv o.2 w x v)
    (hlook : k = .virtualMachine → ∀ o w x v, act o w x v → LooksUp w o x) (hk : k ∈ backing)
    {p : Prog (tagged Kubernetes Call) Unit} {u : Cluster}
    (hrun : Requests dec cfg act w (p, u)) (h : Sound k w) : Sound k u := by
  apply (Reached.along hrun h (fun _ hv => hv) (R := Keeps k) (fun _ _ hr hv => hr hv) _).1
  intro c v hv _
  have hv : Sound k v := by
    rcases hv with hv | ⟨hcut, _⟩
    · exact hv
    · exact hcut.elim
  apply along_tag.mpr
  apply soundAlong_bind (soundAlong_handle hact hlook hk c hv)
  intro _ u hu
  exact hu

theorem one_object_per_instance (dec : Decoding) (cfg : ClusterConfig) (srv : Server) {w : Cluster}
    (hstart : ∀ k ∈ backing, Sound k w) :
    (∀ p u, Requests dec cfg (Faulty srv) w (p, u) →
      Single labelInstanceID .deployment u ∧ Single labelInstanceID .hostedCluster u) ∧
    ∀ p u, Requests dec cfg (Guarded srv) w (p, u) → Single labelInstanceID .virtualMachine u := by
  constructor
  · intro p u hrun
    have hact : ∀ o w x v, Faulty srv o w x v → Served srv o.2 w x v := fun _ _ _ _ h => h
    have hdeploy : Kind.deployment ∈ backing := by simp [backing]
    have hcluster : Kind.hostedCluster ∈ backing := by simp [backing]
    constructor
    · exact (sound_requests hact (by simp) hdeploy hrun (hstart _ hdeploy)).single
    · exact (sound_requests hact (by simp) hcluster hrun (hstart _ hcluster)).single
  · intro p u hrun
    have hact : ∀ o w x v, Guarded srv o w x v → Served srv o.2 w x v := fun _ _ _ _ h => h.1
    have hvm : Kind.virtualMachine ∈ backing := by simp [backing]
    exact (sound_requests hact (fun _ _ _ _ _ h => h.2) hvm hrun (hstart _ hvm)).single

def plainDecoding : Decoding where
  wrapper _ := .ok none
  vmSpec _ := .ok ⟨"web"⟩
  containerSpec _ := .ok ⟨"web", none, ⟨"1", "1", "1MB", "1MB"⟩, none⟩
  cluster _ := .ok ⟨"web", "1.30", none⟩
  quantity _ := .ok 1

def plainConfig : ClusterConfig := ⟨"example.com", [], "", ["kubevirt"]⟩

def openServer : Server := .strict fun _ => true

def createVM : CreateResourceRequest := ⟨"a", "vm", some .null, "e1"⟩

def storedVM (name : String) : Object Body :=
  ⟨name, (vmSpecToVirtualMachine "a").labels, ""⟩

def oneVM : Cluster := Store.empty.insert .virtualMachine (storedVM "dcm-1") (by decide)

def twoVMs : Cluster := oneVM.insert .virtualMachine (storedVM "dcm-2") (by decide)

theorem inserts_storedVM (rest : String)
    (h : (storedVM ("dcm-" ++ rest)).name ∉ w.names .virtualMachine) :
    Inserts openServer .virtualMachine (vmSpecToVirtualMachine "a") w (storedVM ("dcm-" ++ rest))
      (w.insert .virtualMachine (storedVM ("dcm-" ++ rest)) h) :=
  ⟨fun _ _ => rfl, ⟨rest, rfl⟩, rfl, rfl, h, rfl⟩

theorem sound_empty (k : Kind) : Sound k .empty where
  single _ := by simp [Store.empty]
  managed _ o ho := by simp [Store.empty] at ho

theorem createVM_reply_lost : Allows (Guarded openServer)
    (body plainDecoding plainConfig (.create .vm createVM)) .empty fun _ v => v = oneVM :=
  ⟨.ok [], .empty, ⟨⟨rfl, rfl, .nil⟩, trivial⟩, .error ⟨.other, none, "timeout"⟩, oneVM,
    ⟨Or.inr ⟨storedVM "dcm-1", inserts_storedVM "1" (by decide)⟩, trivial⟩, rfl⟩

theorem createVM_again : Allows (Faulty openServer)
    (body plainDecoding plainConfig (.create .vm createVM)) oneVM fun _ v => v = twoVMs :=
  ⟨.error ⟨.other, none, "timeout"⟩, oneVM, Or.inl rfl, .ok (storedVM "dcm-2"), twoVMs,
    inserts_storedVM "2" (by decide), rfl⟩

theorem one_object_per_instance_lost_reply :
    (∀ k ∈ backing, Sound k .empty) ∧
    ∃ p, Requests plainDecoding plainConfig (Guarded openServer) .empty (p, oneVM) ∧
      Single labelInstanceID .virtualMachine oneVM := by
  obtain ⟨r, u, hp, hu⟩ := allows_iff.mp createVM_reply_lost
  subst hu
  have hcalls : Calls (Guarded openServer) (body plainDecoding plainConfig) (fun _ _ => True)
      .empty [.create .vm createVM] oneVM := Calls.snoc (.nil _) trivial hp
  obtain ⟨p, _, hrun⟩ := hcalls.reached fun _ => False
  have hone := one_object_per_instance plainDecoding plainConfig openServer
    (fun k _ => sound_empty k)
  exact ⟨fun k _ => sound_empty k, p, hrun, hone.2 p oneVM hrun⟩

theorem failed_lookup_duplicates_vm :
    ∃ p, Requests plainDecoding plainConfig (Faulty openServer) .empty (p, twoVMs) ∧
      ¬ Single labelInstanceID .virtualMachine twoVMs := by
  obtain ⟨r, u, hp, hu⟩ := allows_iff.mp createVM_reply_lost
  subst hu
  obtain ⟨r', u, hp', hu⟩ := allows_iff.mp createVM_again
  subst hu
  have hfirst : Calls (Faulty openServer) (body plainDecoding plainConfig) (fun _ _ => True)
      .empty [.create .vm createVM] oneVM :=
    Calls.snoc (.nil _) trivial (hp.mono fun _ _ _ _ h => h.1)
  have hcalls := hfirst.snoc trivial hp'
  obtain ⟨p, _, hrun⟩ := hcalls.reached fun _ => False
  refine ⟨p, hrun, fun h => ?_⟩
  have htwo := h "a"
  revert htwo
  decide

end InstanceUniqueness
