import EnvironmentAgent.EmbeddedHandlers
import EnvironmentAgent.MemorySizes

/-! # Worker pools

`CreateCluster` with the builder of the KubeVirt platform, and with the bodies of the objects it
creates: what the workers of a request become in the NodePool. -/
namespace WorkerPools

open AtomicPrograms SequentialPrograms ObjectStore EmbeddedHandlers
open DecimalText Quantities

structure WorkerSpec where
  count : Option ℤ
  cpu : Option ℤ
  memory : Option String
  storage : Option String
  deriving DecidableEq, Repr

/-- Its count and storage are not mapped. -/
structure ControlPlaneSpec where
  cpu : Option ℤ
  memory : Option String
  deriving DecidableEq, Repr

structure ClusterNodes where
  controlPlane : Option ControlPlaneSpec
  workers : Option WorkerSpec
  deriving DecidableEq, Repr

structure ClusterRequest extends ClusterSpec where
  nodes : Option ClusterNodes
  deriving DecidableEq, Repr

structure ProviderConfig extends ClusterConfig where
  clusterNamespace : String
  pullSecretName : String
  deriving DecidableEq, Repr

def parseDCMMemory (s : String) : Except String Quantity :=
  if s = "" then .error "empty memory/storage value"
  else
    match MemorySizes.cutSuffix s.toList ['B'] with
    | none => .error ("unsupported memory/storage format: " ++ s)
    | some k8sValue =>
      match parseQuantity k8sValue with
      | .error e => .error ("invalid memory/storage value " ++ quoted s ++ ": " ++ e.message)
      | .ok q => .ok q

/-- `q, _ := ParseDCMMemory(s)`: the zero Quantity if there was an error. -/
def parsedOrZero (s : String) : Quantity :=
  match parseDCMMemory s with
  | .ok q => q
  | .error _ => ⟨0, .unset, []⟩

def uint32 (n : ℤ) : ℤ := n % 2 ^ 32

structure KubevirtCompute where
  memory : Option Quantity
  cores : Option ℤ
  deriving DecidableEq, Repr

structure KubevirtNodePoolPlatform where
  compute : Option KubevirtCompute
  rootVolume : Quantity
  deriving DecidableEq, Repr

structure NodePool where
  namespace_ : String
  clusterName : String
  releaseImage : String
  replicas : Option ℤ
  kubevirt : Option KubevirtNodePoolPlatform
  deriving DecidableEq, Repr

structure HostedCluster where
  namespace_ : String
  annotations : List (String × String)
  releaseImage : String
  baseDomain : String
  pullSecret : String
  deriving DecidableEq, Repr

def defaultSize : Quantity := ⟨32 * 2 ^ 30 * 10 ^ 9, .binarySI, "32Gi".toList⟩

theorem parseQuantity_defaultSize : parseQuantity "32Gi".toList = .ok defaultSize := by
  decide +kernel

def workerReplicas (w : WorkerSpec) : ℤ :=
  match w.count with
  | some count => int32 count
  | none => 1

def workerCompute (w : WorkerSpec) : Option KubevirtCompute :=
  let compute := w.memory.map fun memory => (⟨some (parsedOrZero memory), none⟩ : KubevirtCompute)
  match w.cpu with
  | some cpu => some { compute.getD ⟨none, none⟩ with cores := some (uint32 cpu) }
  | none => compute

def workerPlatform (w : WorkerSpec) : Option KubevirtNodePoolPlatform :=
  if w.memory.isSome || w.cpu.isSome || w.storage.isSome then
    some ⟨workerCompute w, (w.storage.map parsedOrZero).getD defaultSize⟩
  else none

def buildNodePool (cfg : ProviderConfig) (req : ClusterRequest) (releaseImage : String) :
    NodePool :=
  let workers := req.nodes.bind (·.workers)
  { namespace_ := cfg.clusterNamespace
    clusterName := req.metadataName
    releaseImage := releaseImage
    replicas := workers.map workerReplicas
    kubevirt := workers.bind workerPlatform }

def resourceRequestOverride := "resource-request-override.hypershift.openshift.io"

def resourceOverrides (req : ClusterRequest) : List (String × String) :=
  match req.nodes.bind (·.controlPlane) with
  | none => []
  | some cp =>
    let parts := (cp.cpu.map fun cpu => "cpu=" ++ String.ofList (intText cpu)).toList ++
      (cp.memory.map fun memory => "memory=" ++ String.ofList
        ((MemorySizes.cutSuffix memory.toList ['B']).getD memory.toList)).toList
    if parts.isEmpty then []
    else
      let value := ",".intercalate parts
      [(resourceRequestOverride ++ "/kube-apiserver.kube-apiserver", value),
        (resourceRequestOverride ++ "/etcd.etcd", value)]

def buildHostedCluster (cfg : ProviderConfig) (req : ClusterRequest)
    (baseDomain releaseImage : String) : HostedCluster where
  namespace_ := cfg.clusterNamespace
  annotations := resourceOverrides req
  releaseImage := releaseImage
  baseDomain := baseDomain
  pullSecret := cfg.pullSecretName

inductive ClusterBody where
  | imageSet (releaseImage : String)
  | hostedCluster (hc : HostedCluster)
  | nodePool (np : NodePool)
  deriving DecidableEq, Repr

abbrev ClusterAPI : Signature := api Kind ClusterBody

def ClusterBody.releaseImage : ClusterBody → String
  | .imageSet releaseImage => releaseImage
  | _ => ""

def hostedClusterManifest (cfg : ProviderConfig) (req : ClusterRequest) (id releaseImage : String) :
    Manifest ClusterBody :=
  ⟨.fixed req.metadataName, clusterLabels id, .hostedCluster
    (buildHostedCluster cfg req (resolveBaseDomain cfg.toClusterConfig req.toClusterSpec)
      releaseImage)⟩

def nodePoolManifest (cfg : ProviderConfig) (req : ClusterRequest) (id releaseImage : String) :
    Manifest ClusterBody :=
  ⟨.fixed req.metadataName, clusterLabels id, .nodePool (buildNodePool cfg req releaseImage)⟩

variable (cfg : ProviderConfig)

def resolveReleaseImage (req : ClusterRequest) : Prog ClusterAPI (Except DomainError String) :=
  match req.acm.bind (·.releaseImage) with
  | some image => return .ok image
  | none => do
    let matrix := if cfg.versionMatrix.isEmpty then defaultCompatibilityMatrix
      else cfg.versionMatrix
    match k8sToOCP matrix req.version with
    | .error e => return .error e
    | .ok ocpVersion =>
      match ← list .clusterImageSet [] with
      | .error _ => return .error ⟨.internal, "failed to list cluster image sets"⟩
      | .ok items =>
        match items.find? fun i =>
            i.body.releaseImage ≠ "" && extractOCPVersion i.body.releaseImage == ocpVersion with
        | some item => return .ok item.body.releaseImage
        | none =>
          return .error ⟨.unprocessableEntity,
            "no ClusterImageSet found for version " ++ req.version⟩

def findByInstanceID (id : String) : Prog ClusterAPI (Except DomainError (Object ClusterBody)) := do
  match ← list .hostedCluster (clusterSelector id) with
  | .error _ => return .error ⟨.internal, "failed to list clusters"⟩
  | .ok [] => return .error ⟨.notFound, "cluster " ++ id ++ " not found"⟩
  | .ok (item :: _) => return .ok item

def createNodePool (req : ClusterRequest) (id releaseImage : String) (hc : Object ClusterBody) :
    Prog ClusterAPI (Except DomainError Unit) := do
  match ← create .nodePool (nodePoolManifest cfg req id releaseImage) with
  | .error _ =>
    match ← delete .hostedCluster hc.name with
    | .error _ =>
      return .error
        ⟨.internal, "failed to create node pool and rollback of hosted cluster failed"⟩
    | .ok _ => return .error ⟨.internal, "failed to create cluster resources"⟩
  | .ok _ => return .ok ()

def createCluster (id : String) (req : ClusterRequest) :
    Prog ClusterAPI (Except DomainError Unit) := do
  if resolveBaseDomain cfg.toClusterConfig req.toClusterSpec = "" then
    return .error ⟨.invalidArgument, "base_domain is required"⟩
  match ← resolveReleaseImage cfg req with
  | .error e => return .error e
  | .ok releaseImage =>
    match ← findByInstanceID id with
    | .ok _ => return .error ⟨.alreadyExists, "cluster with this ID already exists"⟩
    | .error e =>
      if e.type ≠ .notFound then return .error e
      match ← create .hostedCluster (hostedClusterManifest cfg req id releaseImage) with
      | .error e =>
        if e.reason = .alreadyExists then
          return .error ⟨.alreadyExists,
            "cluster with name " ++ quoted req.metadataName ++ " already exists"⟩
        else return .error ⟨.internal, "failed to create cluster resources"⟩
      | .ok hc => createNodePool cfg req id releaseImage hc

variable {releaseImage : String} {hc : Object ClusterBody}

section

variable {cfg} {req : ClusterRequest} {id : String}

end

variable {m : Manifest ClusterBody} {s : String}

section

variable {cfg} {req : ClusterRequest} {id : String}

structure Faithful (w : WorkerSpec) (np : NodePool) : Prop where
  count : ∀ n, w.count = some n → np.replicas = some n
  cpu : ∀ n, w.cpu = some n → (np.kubevirt.bind (·.compute)).bind (·.cores) = some n
  memory : ∀ s, w.memory = some s → ∃ q, parseDCMMemory s = .ok q ∧
    (np.kubevirt.bind (·.compute)).bind (·.memory) = some q
  storage : ∀ s, w.storage = some s → ∃ q, parseDCMMemory s = .ok q ∧
    np.kubevirt.map (·.rootVolume) = some q

structure Representable (w : WorkerSpec) : Prop where
  count : ∀ n, w.count = some n → -2 ^ 31 ≤ n ∧ n < 2 ^ 31
  cpu : ∀ n, w.cpu = some n → 0 ≤ n ∧ n < 2 ^ 32
  memory : ∀ s, w.memory = some s → ∃ q, parseDCMMemory s = .ok q
  storage : ∀ s, w.storage = some s → ∃ q, parseDCMMemory s = .ok q

theorem int32_eq_self_iff {n : ℤ} : int32 n = n ↔ -2 ^ 31 ≤ n ∧ n < 2 ^ 31 := by
  constructor
  · intro h
    have hbounds := int32_bounds n
    rw [h] at hbounds
    omega
  · rintro ⟨hlo, hhi⟩
    exact int32_of_bounds hlo hhi

theorem uint32_eq_self_iff {n : ℤ} : uint32 n = n ↔ 0 ≤ n ∧ n < 2 ^ 32 := by
  unfold uint32
  omega

theorem parsedOrZero_of_ok {q : Quantity} (h : parseDCMMemory s = .ok q) :
    parsedOrZero s = q := by
  rw [parsedOrZero, h]

theorem workerPlatform_cpu {w : WorkerSpec} {n : ℤ} (h : w.cpu = some n) :
    ((workerPlatform w).bind (·.compute)).bind (·.cores) = some (uint32 n) := by
  rw [workerPlatform, if_pos (by simp [h]), workerCompute, h]
  rfl

theorem workerPlatform_memory {w : WorkerSpec} (h : w.memory = some s) :
    ((workerPlatform w).bind (·.compute)).bind (·.memory) = some (parsedOrZero s) := by
  rw [workerPlatform, if_pos (by simp [h]), workerCompute, h]
  cases w.cpu <;> rfl

theorem workerPlatform_storage {w : WorkerSpec} (h : w.storage = some s) :
    (workerPlatform w).map (·.rootVolume) = some (parsedOrZero s) := by
  rw [workerPlatform, if_pos (by simp [h]), h]
  rfl

theorem faithful_iff_representable {w : WorkerSpec} (h : req.nodes.bind (·.workers) = some w) :
    Faithful w (buildNodePool cfg req releaseImage) ↔ Representable w := by
  have hreplicas : ∀ n, w.count = some n →
      (buildNodePool cfg req releaseImage).replicas = some (int32 n) := by
    intro n hn
    rw [buildNodePool, h, Option.map_some, workerReplicas, hn]
  have hplatform : (buildNodePool cfg req releaseImage).kubevirt = workerPlatform w := by
    rw [buildNodePool, h, Option.bind_some]
  constructor
  · intro hf
    constructor
    · intro n hn
      have hcount := hf.count n hn
      rw [hreplicas n hn, Option.some.injEq] at hcount
      exact int32_eq_self_iff.mp hcount
    · intro n hn
      have hcpu := hf.cpu n hn
      rw [hplatform, workerPlatform_cpu hn, Option.some.injEq] at hcpu
      exact uint32_eq_self_iff.mp hcpu
    · intro s hs
      obtain ⟨q, hq, _⟩ := hf.memory s hs
      exact ⟨q, hq⟩
    · intro s hs
      obtain ⟨q, hq, _⟩ := hf.storage s hs
      exact ⟨q, hq⟩
  · intro hr
    constructor
    · intro n hn
      rw [hreplicas n hn, int32_eq_self_iff.mpr (hr.count n hn)]
    · intro n hn
      rw [hplatform, workerPlatform_cpu hn, uint32_eq_self_iff.mpr (hr.cpu n hn)]
    · intro s hs
      obtain ⟨q, hq⟩ := hr.memory s hs
      exact ⟨q, hq, by rw [hplatform, workerPlatform_memory hs, parsedOrZero_of_ok hq]⟩
    · intro s hs
      obtain ⟨q, hq⟩ := hr.storage s hs
      exact ⟨q, hq, by rw [hplatform, workerPlatform_storage hs, parsedOrZero_of_ok hq]⟩

/-! ## Outcomes

The API carries out every call or turns it down. -/

def versionMatrix (cfg : ProviderConfig) : List (String × String) :=
  if cfg.versionMatrix.isEmpty then defaultCompatibilityMatrix else cfg.versionMatrix

structure Reachable (cfg : ProviderConfig) (req : ClusterRequest) : Prop where
  baseDomain : resolveBaseDomain cfg.toClusterConfig req.toClusterSpec ≠ ""
  image : (req.acm.bind (·.releaseImage)).isSome ∨
    ∃ ocpVersion, k8sToOCP (versionMatrix cfg) req.version = .ok ocpVersion ∧
      ∃ image, image ≠ "" ∧ extractOCPVersion image = ocpVersion

variable {srv : Server} {admits : Kind → Manifest ClusterBody → Bool} {w : Store Kind ClusterBody}

theorem resolveReleaseImage_outcome :
    Ensures (Executes srv admits) (resolveReleaseImage cfg req) w fun r u =>
      u = w ∧ ∃ a, r = some a ∧ ∀ image, a = .ok image →
        (req.acm.bind (·.releaseImage)).isSome ∨
          ∃ ocpVersion, k8sToOCP (versionMatrix cfg) req.version = .ok ocpVersion ∧
            ∃ image, image ≠ "" ∧ extractOCPVersion image = ocpVersion := by
  have refused : ∀ {e : DomainError} {P : String → Prop},
      w = w ∧ ∃ a, some (Except.error e) = some a ∧ ∀ image, a = .ok image → P image :=
    ⟨rfl, _, rfl, fun _ h => by cases h⟩
  unfold resolveReleaseImage versionMatrix
  cases req.acm.bind (·.releaseImage) with
  | some image => exact ⟨rfl, _, rfl, fun _ _ => Or.inl rfl⟩
  | none =>
    dsimp only
    cases k8sToOCP (if cfg.versionMatrix.isEmpty then defaultCompatibilityMatrix
      else cfg.versionMatrix) req.version with
    | error e => exact refused
    | ok ocpVersion =>
      apply ensures_list_executes
      · exact fun e => refused
      intro items _ _
      dsimp only
      cases hfind : items.find? _ with
      | none => exact refused
      | some item =>
        have hpred := List.find?_some hfind
        rw [Bool.and_eq_true, decide_eq_true_eq, beq_iff_eq] at hpred
        exact ⟨rfl, _, rfl, fun _ _ => Or.inr ⟨ocpVersion, rfl, _, hpred⟩⟩

theorem findByInstanceID_outcome :
    Ensures (Executes srv admits) (findByInstanceID id) w fun r u => u = w ∧ ∃ a, r = some a := by
  apply ensures_list_executes
  · exact fun e => ⟨rfl, _, rfl⟩
  intro items _ _
  cases items with
  | nil => exact ⟨rfl, _, rfl⟩
  | cons item items => exact ⟨rfl, _, rfl⟩

def Outcome (cfg : ProviderConfig) (req : ClusterRequest) (w : Store Kind ClusterBody)
    (r : Option (Except DomainError Unit)) (u : Store Kind ClusterBody) : Prop :=
  (∃ e, r = some (.error e) ∧ ∀ k, u.objects k = w.objects k) ∨
    (r = some (.ok ()) ∧ ∃ releaseImage np,
      u.objects .nodePool = w.objects .nodePool ++ [np] ∧
        np.body = .nodePool (buildNodePool cfg req releaseImage))

theorem createNodePool_outcome {v : Store Kind ClusterBody}
    (h : Inserts srv .hostedCluster m w hc v) :
    Ensures (Executes srv admits) (createNodePool cfg req id releaseImage hc) v
      (Outcome cfg req w) := by
  apply ensures_create_executes
  · intro e
    apply ensures_delete_executes (List.mem_map_of_mem h.mem)
    exact Or.inl ⟨_, rfl, objects_remove_inserted h⟩
  · intro np u hnp
    refine Or.inr ⟨rfl, releaseImage, np, ?_, hnp.body⟩
    rw [hnp.stored, objects_insert, h.stored, objects_insert_of_ne h.fresh (by decide)]

theorem refused {P : Prop} (e : DomainError) :
    Outcome cfg req w (some (.error e)) w ∧ (some (Except.error e) = some (.ok ()) → P) :=
  ⟨Or.inl ⟨e, rfl, fun _ => rfl⟩, fun h => by cases h⟩

theorem createCluster_outcome :
    Ensures (Executes srv admits) (createCluster cfg id req) w fun r u =>
      Outcome cfg req w r u ∧ (r = some (.ok ()) → Reachable cfg req) := by
  unfold createCluster
  split
  · exact refused _
  rename_i hdomain
  apply ensures_bind.mpr
  refine resolveReleaseImage_outcome.mono ?_
  rintro _ _ ⟨rfl, image, rfl, himage⟩
  cases image with
  | error e => exact refused _
  | ok releaseImage =>
    apply ensures_bind.mpr
    refine findByInstanceID_outcome.mono ?_
    rintro _ _ ⟨rfl, found, rfl⟩
    cases found with
    | ok hc => exact refused _
    | error e =>
      dsimp only [andThen_some]
      split
      · exact refused _
      apply ensures_create_executes
      · intro e
        dsimp only
        split
        · exact refused _
        · exact refused _
      · intro hc v hinserts
        refine (createNodePool_outcome hinserts).mono ?_
        exact fun r u houtcome => ⟨houtcome, fun _ => ⟨hdomain, himage _ rfl⟩⟩

def openServer : Server := .strict fun _ => true

def admitAll : Kind → Manifest ClusterBody → Bool := fun _ _ => true

theorem exists_inserts {k : Kind} {name : String} (hname : m.name = .fixed name)
    (h : w.objects k = []) :
    ∃ o v, Inserts openServer k m w o v := by
  have hfresh : name ∉ w.names k := by
    rw [Store.names, h]
    exact List.not_mem_nil
  refine ⟨⟨name, m.labels, m.body⟩, w.insert k ⟨name, m.labels, m.body⟩ hfresh, fun _ _ => rfl, ?_,
    rfl, rfl, hfresh, rfl⟩
  rw [hname]
  rfl

theorem exists_image (h : Reachable cfg req) :
    ∃ (w : Store Kind ClusterBody) (image : String), w.objects .hostedCluster = [] ∧
      w.objects .nodePool = [] ∧
      Allows (Executes openServer admitAll) (resolveReleaseImage cfg req) w
        fun r u => r = some (.ok image) ∧ u = w := by
  unfold resolveReleaseImage
  cases himage : req.acm.bind (·.releaseImage) with
  | some image => exact ⟨.empty, image, rfl, rfl, rfl, rfl⟩
  | none =>
    obtain hhint | ⟨ocpVersion, hversion, image, hne, hocp⟩ := h.image
    · rw [himage] at hhint
      cases hhint
    let item : Object ClusterBody := ⟨"image", [], .imageSet image⟩
    let w : Store Kind ClusterBody :=
      Store.empty.insert .clusterImageSet item (by simp [Store.names, Store.empty])
    refine ⟨w, image, rfl, rfl, ?_⟩
    dsimp only
    rw [show (if cfg.versionMatrix.isEmpty then defaultCompatibilityMatrix else cfg.versionMatrix) =
      versionMatrix cfg from rfl, hversion]
    refine allows_perform_bind.mpr ⟨.ok [item], w, ⟨rfl, rfl, ?_⟩, ?_⟩
    · rw [matching_nil]
      exact List.Perm.refl _
    · have hfind : ([item].find? fun i => i.body.releaseImage ≠ "" &&
          extractOCPVersion i.body.releaseImage == ocpVersion) = some item := by
        simp [item, ClusterBody.releaseImage, hne, hocp]
      dsimp only
      rw [hfind]
      exact ⟨rfl, rfl⟩

theorem exists_success (id : String) (h : Reachable cfg req) :
    ∃ w u, Performs (Executes openServer admitAll) (createCluster cfg id req) w
      (some (.ok ())) u := by
  obtain ⟨w, releaseImage, hhc, hnp, himage⟩ := exists_image h
  obtain ⟨hc, v, hv⟩ : ∃ hc v, Inserts openServer .hostedCluster
      (hostedClusterManifest cfg req id releaseImage) w hc v := exists_inserts rfl hhc
  have hfree : v.objects .nodePool = [] := by
    rw [hv.stored, objects_insert_of_ne hv.fresh (by decide), hnp]
  obtain ⟨np, u, hu⟩ : ∃ np u, Inserts openServer .nodePool
      (nodePoolManifest cfg req id releaseImage) v np u := exists_inserts rfl hfree
  have hallows : Allows (Executes openServer admitAll) (createCluster cfg id req) w
      fun r u' => r = some (.ok ()) ∧ u' = u := by
    have hnone : matching openServer w .hostedCluster (clusterSelector id) = [] := by
      rw [matching, hhc]
      rfl
    rw [createCluster, if_neg h.baseDomain]
    refine allows_bind.mpr (himage.mono ?_)
    rintro _ v' ⟨rfl, hv'⟩
    rw [hv']
    exact ⟨.ok [], w, ⟨rfl, rfl, by rw [hnone]⟩, .ok hc, v, ⟨rfl, hv⟩, .ok np, u, ⟨rfl, hu⟩, rfl,
      rfl⟩
  obtain ⟨_, _, hp, rfl, rfl⟩ := allows_iff.mp hallows
  exact ⟨w, _, hp⟩

/-- The outcome that is asked of a request: an error and nothing created, or a NodePool as the
workers ask for it. -/
def Settles (req : ClusterRequest) (w : Store Kind ClusterBody)
    (r : Option (Except DomainError Unit)) (u : Store Kind ClusterBody) : Prop :=
  (∃ e, r = some (.error e) ∧ ∀ k, u.objects k = w.objects k) ∨
    (r = some (.ok ()) ∧ ∃ np body, u.objects .nodePool = w.objects .nodePool ++ [np] ∧
      np.body = .nodePool body ∧
        ∀ workers, req.nodes.bind (·.workers) = some workers → Faithful workers body)

/-- Every execution settles exactly if the workers are representable, unless the request never
gets as far as creating something. -/
theorem worker_pools_faithful_iff (cfg : ProviderConfig) (id : String) (req : ClusterRequest) :
    (∀ srv admits w r u, Performs (Executes srv admits) (createCluster cfg id req) w r u →
      Settles req w r u) ↔
      (Reachable cfg req → ∀ workers, req.nodes.bind (·.workers) = some workers →
        Representable workers) := by
  constructor
  · intro hall hreachable workers hworkers
    obtain ⟨w, u, hp⟩ := exists_success id hreachable
    rcases hall _ _ _ _ _ hp with ⟨e, he, _⟩ | ⟨_, np, body, hobjects, hbody, hfaithful⟩
    · cases he
    rcases (ensures_iff.mp createCluster_outcome _ _ hp).1 with
      ⟨e, he, _⟩ | ⟨_, releaseImage, np', hobjects', hbody'⟩
    · cases he
    -- both speak of the one NodePool that was added
    rw [hobjects, List.append_cancel_left_eq, List.singleton_inj] at hobjects'
    subst hobjects'
    rw [hbody, ClusterBody.nodePool.injEq] at hbody'
    subst hbody'
    exact (faithful_iff_representable hworkers).mp (hfaithful workers hworkers)
  · intro hrep srv admits w r u hp
    obtain ⟨houtcome, hreachable⟩ := ensures_iff.mp createCluster_outcome _ _ hp
    rcases houtcome with herror | ⟨hok, releaseImage, np, hobjects, hbody⟩
    · exact Or.inl herror
    · refine Or.inr ⟨hok, np, _, hobjects, hbody, ?_⟩
      intro workers hworkers
      exact (faithful_iff_representable hworkers).mpr (hrep (hreachable hok) workers hworkers)

def oversized : ClusterRequest where
  metadataName := "edge"
  version := "1.31"
  acm := some ⟨none, none, none, some "quay.io/ocp-release:4.18.3"⟩
  nodes := some ⟨none, some ⟨some (2 ^ 32 + 3), none, some "16Gi", none⟩⟩

def plainConfig : ProviderConfig where
  baseDomain := "example.com"
  versionMatrix := []
  defaultInfraEnv := ""
  enabledPlatforms := ["kubevirt"]
  clusterNamespace := "clusters"
  pullSecretName := "pull-secret"

/-- The request succeeds, with a NodePool of three workers that have no memory. -/
theorem oversized_pool_narrowed :
    ∃ w u np body, Performs (Executes openServer admitAll) (createCluster plainConfig "7" oversized)
        w (some (.ok ())) u ∧
      np ∈ u.objects .nodePool ∧ np.body = .nodePool body ∧ body.replicas = some 3 ∧
      parseDCMMemory "16Gi" = .error "unsupported memory/storage format: 16Gi" ∧
      (body.kubevirt.bind (·.compute)).bind (·.memory) = some ⟨0, .unset, []⟩ := by
  obtain ⟨w, u, hp⟩ := exists_success "7"
    (⟨by decide, Or.inl rfl⟩ : Reachable plainConfig oversized)
  rcases (ensures_iff.mp createCluster_outcome _ _ hp).1 with
    ⟨e, he, _⟩ | ⟨_, releaseImage, np, hobjects, hbody⟩
  · cases he
  have hread : parseDCMMemory "16Gi" = .error "unsupported memory/storage format: 16Gi" := by
    decide +kernel
  have hzero : parsedOrZero "16Gi" = ⟨0, .unset, []⟩ := by rw [parsedOrZero, hread]
  refine ⟨w, u, np, _, hp, ?_, hbody, rfl, hread, congrArg some hzero⟩
  rw [hobjects]
  exact List.mem_append_right _ (List.mem_singleton_self np)

end

end WorkerPools
