import EnvironmentAgent.ObjectStore
import EnvironmentAgent.RoutingForwarder
import Mathlib.Algebra.Order.Field.Rat
import Mathlib.Data.Rat.Defs

/-! # The embedded VM, container and cluster handlers

Each handler as a program over the Kubernetes API, with the client or store it calls. Of objects
and specs is kept what decides the outcome of a request or the labels and names of objects. -/
namespace EmbeddedHandlers

open AtomicPrograms ObjectStore RoutingCloudEvent RoutingEffects

inductive Kind where
  | virtualMachine
  | deployment
  | service
  | hostedCluster
  | nodePool
  | clusterImageSet
  deriving DecidableEq, Repr

/-- `spec.releaseImage`, empty for an object that has none. -/
abbrev Body := String

abbrev Kubernetes : Signature := api Kind Body

abbrev Cluster := Store Kind Body

def labelManagedBy := "dcm.project/managed-by"
def labelInstanceID := "dcm.project/dcm-instance-id"
def labelServiceType := "dcm.project/dcm-service-type"
def valueManagedByDCM := "dcm"

def quoted (s : String) : String := "\"" ++ s ++ "\""

structure VMSpec where
  metadataName : String
  deriving DecidableEq, Repr

inductive Visibility where
  | external
  | internal
  | none
  | unknown (text : String)
  deriving DecidableEq, Repr

structure ContainerResources where
  cpuMin : String
  cpuMax : String
  memoryMin : String
  memoryMax : String
  deriving DecidableEq, Repr

structure ContainerSpec where
  metadataName : String
  metadataLabels : Option Labels
  resources : ContainerResources
  ports : Option (List Visibility)
  deriving DecidableEq, Repr

inductive Platform where
  | kubevirt
  | baremetal
  | unknown (text : String)
  deriving DecidableEq, Repr

def Platform.text : Platform → String
  | .kubevirt => "kubevirt"
  | .baremetal => "baremetal"
  | .unknown text => text

structure ACMProviderHints where
  baseDomain : Option String
  infraEnv : Option String
  platform : Option Platform
  releaseImage : Option String
  deriving DecidableEq, Repr

structure ClusterSpec where
  metadataName : String
  version : String
  acm : Option ACMProviderHints
  deriving DecidableEq, Repr

/-- What `json.Unmarshal` and `resource.ParseQuantity` make of a text; an error is its message. -/
structure Decoding where
  wrapper : JsonValue → Except String (Option JsonValue)
  vmSpec : JsonValue → Except String VMSpec
  containerSpec : JsonValue → Except String ContainerSpec
  cluster : JsonValue → Except String ClusterSpec
  quantity : String → Except String ℚ

variable (dec : Decoding)

def specJSON (raw : Option JsonValue) : Except String JsonValue :=
  match raw with
  | none => .error "spec is required"
  | some raw =>
    match dec.wrapper raw with
    | .error e => .error ("invalid spec: " ++ e)
    | .ok (some spec) => .ok spec
    | .ok none => .ok raw

def parseVMSpec (raw : Option JsonValue) : Except String VMSpec := do
  let payload ← specJSON dec raw
  match dec.vmSpec payload with
  | .error e => throw ("invalid VM spec: " ++ e)
  | .ok spec =>
    if spec.metadataName = "" then throw "spec.metadata.name is required"
    return spec

def parseContainerSpec (raw : Option JsonValue) : Except String ContainerSpec := do
  let payload ← specJSON dec raw
  match dec.containerSpec payload with
  | .error e => throw ("invalid container spec: " ++ e)
  | .ok spec =>
    if spec.metadataName = "" then throw "spec.metadata.name is required"
    return spec

def parseCreateCluster (raw : Option JsonValue) : Except String ClusterSpec :=
  match raw with
  | none => .error "spec is required"
  | some raw =>
    match dec.cluster raw with
    | .error e => .error ("invalid cluster spec: " ++ e)
    | .ok cluster => .ok cluster

def ApiError.wrap (e : ApiError) (text : String) : ApiError :=
  { e with message := text ++ ": " ++ e.message }

def newNotFound (resource name : String) : ApiError :=
  ⟨.notFound, some 404, resource ++ " " ++ quoted name ++ " not found"⟩

def vmSelector (vmID : String) : Selector := [(labelInstanceID, vmID)]

def getVirtualMachine (vmID : String) : Prog Kubernetes (Except ApiError (Object Body)) := do
  match ← list .virtualMachine (vmSelector vmID) with
  | .error e => return .error (ApiError.wrap e "failed to get VirtualMachine by dcmlabelinstanceid")
  | .ok [] => return .error (newNotFound "virtualmachines.kubevirt.io" vmID)
  | .ok (item :: _) => return .ok item

def createVirtualMachine (vm : Manifest Body) :
    Prog Kubernetes (Except ApiError (Object Body)) := do
  match ← create .virtualMachine vm with
  | .error e => return .error (ApiError.wrap e "failed to create VirtualMachine")
  | .ok result => return .ok result

def deleteVirtualMachine (vmID : String) : Prog Kubernetes (Except ApiError Unit) := do
  match ← getVirtualMachine vmID with
  | .error e => return .error e
  | .ok item => delete .virtualMachine item.name

def vmSpecToVirtualMachine (vmID : String) : Manifest Body where
  name := .generate "dcm-"
  labels := [(labelManagedBy, valueManagedByDCM), (labelInstanceID, vmID)]
  body := ""

def mapKubeVirtError (e : ApiError) : SPError :=
  match e.code with
  | some code =>
    if code = 409 ∨ code = 422 ∨ code = 400 ∨ code = 404 then .response code e.message
    else .response 500 e.message
  | none => .response 500 e.message

namespace VMHandler

def storeVirtualMachine (vmID : String) : Prog Kubernetes (Except SPError Unit) := do
  match ← createVirtualMachine (vmSpecToVirtualMachine vmID) with
  | .error e => return .error (mapKubeVirtError e)
  | .ok _ => return .ok ()

def createResource (req : CreateResourceRequest) : Prog Kubernetes (Except SPError Unit) :=
  match parseVMSpec dec req.spec with
  | .error e => return .error (.response 400 e)
  | .ok _ => do
    -- A lookup that failed is taken for one that found nothing.
    match ← getVirtualMachine req.resourceID with
    | .ok _ =>
      return .error (.response 409 ("VM with instance ID " ++ req.resourceID ++ " already exists"))
    | .error _ => storeVirtualMachine req.resourceID

def deleteResource (req : DeleteResourceRequest) : Prog Kubernetes (Except SPError Unit) := do
  match ← deleteVirtualMachine req.resourceID with
  | .error e => return .error (mapKubeVirtError e)
  | .ok _ => return .ok ()

end VMHandler

/-- `NotFoundError`, `ConflictError`, `InvalidArgumentError`, or an error of the API. -/
inductive StoreError where
  | notFound (id : String)
  | conflict (message : String)
  | invalidArgument (message : String)
  | api (e : ApiError)
  deriving DecidableEq, Repr

def mapStoreError : StoreError → SPError
  | .notFound id => .response 404 ("container " ++ quoted id ++ " not found")
  | .conflict message => .response 409 message
  | .invalidArgument message => .response 400 message
  | .api e => .response 500 e.message

def cutSuffix (s rest : String) : Option String :=
  if rest.toList.isSuffixOf s.toList then
    some (String.ofList (s.toList.take (s.length - rest.length)))
  else none

def apiToK8s : List (String × String) := [("MB", "Mi"), ("GB", "Gi"), ("TB", "Ti")]

def convertMemory (memoryStr : String) : Except String ℚ :=
  match apiToK8s.findSome? fun u => (cutSuffix memoryStr u.1).map (· ++ u.2) with
  | some text => dec.quantity text
  | none => .error ("unsupported memory unit in " ++ quoted memoryStr)

/-- The bounds of one resource: both have to parse, and the lower not to exceed the upper. -/
def checkRange (parse : String → Except String ℚ) (field lo hi : String) : List String :=
  match parse lo, parse hi with
  | .ok a, .ok b =>
    if b < a then
      [field ++ ".min (" ++ lo ++ ") must not exceed " ++ field ++ ".max (" ++ hi ++ ")"]
    else []
  | a, b =>
    (match a with
      | .error e => ["invalid " ++ field ++ ".min " ++ quoted lo ++ ": " ++ e]
      | .ok _ => []) ++
    (match b with
      | .error e => ["invalid " ++ field ++ ".max " ++ quoted hi ++ ": " ++ e]
      | .ok _ => [])

def checkResources (res : ContainerResources) : List String :=
  checkRange dec.quantity "cpu" res.cpuMin res.cpuMax ++
    checkRange (convertMemory dec) "memory" res.memoryMin res.memoryMax

def reservedLabelKeys : List String := [labelInstanceID, labelServiceType, labelManagedBy]

def checkUserLabels (labels : Option Labels) : List String :=
  match labels with
  | none => []
  | some labels =>
    (reservedLabelKeys.filter fun key => (labels.lookup key).isSome).map fun key =>
      "label " ++ quoted key ++ " is reserved by DCM and cannot be set by the user"

def validateCreate (id : String) (spec : ContainerSpec) : Except StoreError Unit :=
  if id = "health" then
    .error (.invalidArgument ("container ID " ++ quoted id ++ " is reserved and cannot be used"))
  else
    match checkResources dec spec.resources ++ checkUserLabels spec.metadataLabels with
    | [] => .ok ()
    | detail :: _ => .error (.invalidArgument detail)

def dcmLabels (instanceID : String) : Labels :=
  [(labelManagedBy, valueManagedByDCM), (labelInstanceID, instanceID),
    (labelServiceType, "container")]

def instanceSelector (instanceID : String) : Selector :=
  [(labelInstanceID, instanceID), (labelManagedBy, valueManagedByDCM)]

def mergeLabels (base user : Labels) : Labels := base ++ user

def portsWithVisibility (spec : ContainerSpec) : List Visibility :=
  match spec.ports with
  | none => []
  | some ports => ports.filter (· ≠ .none)

def convertCPU (res : ContainerResources) : Except String (ℚ × ℚ) :=
  match dec.quantity res.cpuMin with
  | .error e => .error ("invalid cpu.min " ++ quoted res.cpuMin ++ ": " ++ e)
  | .ok requests =>
    match dec.quantity res.cpuMax with
    | .error e => .error ("invalid cpu.max " ++ quoted res.cpuMax ++ ": " ++ e)
    | .ok limits => .ok (requests, limits)

def buildDeployment (spec : ContainerSpec) (labels : Labels) : Except String (Manifest Body) :=
  match convertCPU dec spec.resources with
  | .error e => .error ("converting CPU resources: " ++ e)
  | .ok _ =>
    match convertMemory dec spec.resources.memoryMin with
    | .error e => .error ("converting memory.min: " ++ e)
    | .ok _ =>
      match convertMemory dec spec.resources.memoryMax with
      | .error e => .error ("converting memory.max: " ++ e)
      | .ok _ => .ok ⟨.generate (spec.metadataName ++ "-"), labels, ""⟩

def buildService (spec : ContainerSpec) (labels : Labels) : Manifest Body :=
  ⟨.generate (spec.metadataName ++ "-"), labels, ""⟩

namespace K8sContainerStore

def exposeDeployment (spec : ContainerSpec) (labels : Labels) (deploy : Object Body) :
    Prog Kubernetes (Except StoreError Unit) := do
  if (portsWithVisibility spec).isEmpty then return .ok ()
  match ← create .service (buildService spec labels) with
  | .error e =>
    let _ ← delete .deployment deploy.name
    return .error (.api e)
  | .ok _ => return .ok ()

def create (spec : ContainerSpec) (id : String) : Prog Kubernetes (Except StoreError Unit) := do
  let labels := mergeLabels (dcmLabels id) (spec.metadataLabels.getD [])
  match ← list .deployment (instanceSelector id) with
  | .error e => return .error (.api e)
  | .ok (_ :: _) =>
    return .error (.conflict ("container with instance ID " ++ quoted id ++ " already exists"))
  | .ok [] =>
    match buildDeployment dec spec labels with
    | .error e => return .error (.invalidArgument e)
    | .ok deploy =>
      match ← ObjectStore.create .deployment deploy with
      | .error e =>
        if e.reason = .alreadyExists then
          return .error (.conflict ("deployment " ++ quoted spec.metadataName ++ " already exists"))
        else return .error (.api e)
      | .ok deploy => exposeDeployment spec labels deploy

def findDeployment (containerID : String) :
    Prog Kubernetes (Except StoreError (Object Body)) := do
  match ← list .deployment (instanceSelector containerID) with
  | .error e => return .error (.api e)
  | .ok [] => return .error (.notFound containerID)
  | .ok [deploy] => return .ok deploy
  | .ok _ =>
    return .error (.conflict ("multiple deployments found for container " ++ quoted containerID))

def deleteServices : List (Object Body) → Prog Kubernetes (Except ApiError Unit)
  | [] => return .ok ()
  | svc :: rest => do
    match ← ObjectStore.delete .service svc.name with
    | .error e => return .error e
    | .ok _ => deleteServices rest

def delete (containerID : String) : Prog Kubernetes (Except StoreError Unit) := do
  match ← findDeployment containerID with
  | .error e => return .error e
  | .ok deploy =>
    match ← list .service (instanceSelector containerID) with
    | .error e => return .error (.api e)
    | .ok svcs =>
      match ← deleteServices svcs with
      | .error e => return .error (.api e)
      | .ok _ =>
        match ← ObjectStore.delete .deployment deploy.name with
        | .error e => return .error (.api e)
        | .ok _ => return .ok ()

end K8sContainerStore

namespace ContainerHandler

def createResource (req : CreateResourceRequest) : Prog Kubernetes (Except SPError Unit) :=
  match parseContainerSpec dec req.spec with
  | .error e => return .error (.response 400 e)
  | .ok spec =>
    match validateCreate dec req.resourceID spec with
    | .error e => return .error (mapStoreError e)
    | .ok _ => do
      match ← K8sContainerStore.create dec spec req.resourceID with
      | .error e => return .error (mapStoreError e)
      | .ok _ => return .ok ()

def deleteResource (req : DeleteResourceRequest) : Prog Kubernetes (Except SPError Unit) := do
  match ← K8sContainerStore.delete req.resourceID with
  | .error e => return .error (mapStoreError e)
  | .ok _ => return .ok ()

end ContainerHandler

inductive ErrorType where
  | invalidArgument
  | notFound
  | alreadyExists
  | unprocessableEntity
  | internal
  deriving DecidableEq, Repr

structure DomainError where
  type : ErrorType
  message : String
  deriving DecidableEq, Repr

def httpStatusForErrorType : ErrorType → ℤ
  | .invalidArgument => 400
  | .notFound => 404
  | .alreadyExists => 409
  | .unprocessableEntity => 422
  | .internal => 500

def mapServiceError (e : DomainError) : SPError :=
  .response (httpStatusForErrorType e.type)
    (if e.type = .internal then "an internal error occurred" else e.message)

structure ClusterConfig where
  baseDomain : String
  versionMatrix : List (String × String)
  defaultInfraEnv : String
  enabledPlatforms : List String
  deriving DecidableEq, Repr

variable (cfg : ClusterConfig)

def resolveBaseDomain (req : ClusterSpec) : String :=
  (req.acm.bind (·.baseDomain)).getD cfg.baseDomain

def defaultCompatibilityMatrix : List (String × String) :=
  [("4.14", "1.27"), ("4.15", "1.28"), ("4.16", "1.29"), ("4.17", "1.30"), ("4.18", "1.31"),
    ("4.19", "1.32"), ("4.20", "1.33"), ("4.21", "1.34")]

def extractOCPVersion (releaseImage : String) : String :=
  match (releaseImage.splitOn ":").reverse with
  | tag :: _ :: _ =>
    match tag.splitOn "." with
    | major :: minor :: _ => major ++ "." ++ minor
    | _ => ""
  | _ => ""

def k8sToOCP (matrix : List (String × String)) (k8sVersion : String) :
    Except DomainError String :=
  match matrix.find? (·.2 == k8sVersion) with
  | some entry => .ok entry.1
  | none => .error ⟨.unprocessableEntity, "unsupported Kubernetes version: " ++ k8sVersion⟩

def resolveReleaseImage (req : ClusterSpec) : Prog Kubernetes (Except DomainError String) :=
  match req.acm.bind (·.releaseImage) with
  | some image => return .ok image
  | none => do
    let matrix := if cfg.versionMatrix.isEmpty then defaultCompatibilityMatrix
      else cfg.versionMatrix
    match k8sToOCP matrix req.version with
    | .error e => return .error e
    | .ok ocpVersion =>
      match ← list .clusterImageSet [] with
      | .error _ => return .error ⟨.internal, "failed to list cluster image sets"⟩
      | .ok items =>
        match items.find? fun i => i.body ≠ "" && extractOCPVersion i.body == ocpVersion with
        | some item => return .ok item.body
        | none =>
          return .error ⟨.unprocessableEntity,
            "no ClusterImageSet found for version " ++ req.version⟩

def clusterSelector (id : String) : Selector := [(labelInstanceID, id)]

def findByInstanceID (id : String) : Prog Kubernetes (Except DomainError (Object Body)) := do
  match ← list .hostedCluster (clusterSelector id) with
  | .error _ => return .error ⟨.internal, "failed to list clusters"⟩
  | .ok [] => return .error ⟨.notFound, "cluster " ++ id ++ " not found"⟩
  | .ok (item :: _) => return .ok item

def clusterLabels (instanceID : String) : Labels :=
  [(labelManagedBy, valueManagedByDCM), (labelInstanceID, instanceID),
    (labelServiceType, "cluster")]

/-- The builders of both platforms give both objects this name and these labels. -/
def buildClusterObject (req : ClusterSpec) (id : String) : Manifest Body :=
  ⟨.fixed req.metadataName, clusterLabels id, ""⟩

def createNodePool (req : ClusterSpec) (id : String) (hc : Object Body) :
    Prog Kubernetes (Except DomainError Unit) := do
  match ← create .nodePool (buildClusterObject req id) with
  | .error _ =>
    match ← delete .hostedCluster hc.name with
    | .error _ =>
      return .error
        ⟨.internal, "failed to create node pool and rollback of hosted cluster failed"⟩
    | .ok _ => return .error ⟨.internal, "failed to create cluster resources"⟩
  | .ok _ => return .ok ()

def createCluster (id : String) (req : ClusterSpec) :
    Prog Kubernetes (Except DomainError Unit) := do
  if resolveBaseDomain cfg req = "" then
    return .error ⟨.invalidArgument, "base_domain is required"⟩
  match ← resolveReleaseImage cfg req with
  | .error e => return .error e
  | .ok _ =>
    match ← findByInstanceID id with
    | .ok _ => return .error ⟨.alreadyExists, "cluster with this ID already exists"⟩
    | .error e =>
      if e.type ≠ .notFound then return .error e
      match ← create .hostedCluster (buildClusterObject req id) with
      | .error e =>
        if e.reason = .alreadyExists then
          return .error ⟨.alreadyExists,
            "cluster with name " ++ quoted req.metadataName ++ " already exists"⟩
        else return .error ⟨.internal, "failed to create cluster resources"⟩
      | .ok hc => createNodePool req id hc

def deleteEachNodePool : List (Object Body) → Prog Kubernetes (Except DomainError Unit)
  | [] => return .ok ()
  | np :: rest => do
    match ← delete .nodePool np.name with
    | .error e =>
      if e.reason = .notFound then deleteEachNodePool rest
      else return .error ⟨.internal, "failed to delete node pool"⟩
    | .ok _ => deleteEachNodePool rest

def deleteNodePools (instanceID : String) : Prog Kubernetes (Except DomainError Unit) := do
  match ← list .nodePool (clusterSelector instanceID) with
  | .error _ => return .error ⟨.internal, "failed to list node pools for deletion"⟩
  | .ok items => deleteEachNodePool items

def deleteCluster (id : String) : Prog Kubernetes (Except DomainError Unit) := do
  match ← findByInstanceID id with
  | .error e => return .error e
  | .ok hc =>
    match ← deleteNodePools id with
    | .error e => return .error e
    | .ok _ =>
      match ← delete .hostedCluster hc.name with
      | .error _ => return .error ⟨.internal, "failed to delete cluster"⟩
      | .ok _ => return .ok ()

def dispatchCreate (id : String) (req : ClusterSpec) :
    Prog Kubernetes (Except DomainError Unit) :=
  let platform := (req.acm.bind (·.platform)).getD .kubevirt
  if platform.text ∉ cfg.enabledPlatforms then
    return .error ⟨.unprocessableEntity, "unsupported platform " ++ quoted platform.text⟩
  else
    match platform with
    | .kubevirt => createCluster cfg id req
    | .baremetal =>
      if (req.acm.bind (·.infraEnv)).isNone ∧ cfg.defaultInfraEnv = "" then
        return .error ⟨.invalidArgument,
          "infra_env is required: set provider_hints.acm.infra_env or SP_DEFAULT_INFRA_ENV"⟩
      else createCluster cfg id req
    | .unknown text =>
      return .error ⟨.unprocessableEntity, "unsupported platform " ++ quoted text⟩

namespace ClusterHandler

def createResource (req : CreateResourceRequest) : Prog Kubernetes (Except SPError Unit) :=
  match parseCreateCluster dec req.spec with
  | .error e => return .error (.response 400 e)
  | .ok cluster => do
    match ← dispatchCreate cfg req.resourceID cluster with
    | .error e => return .error (mapServiceError e)
    | .ok _ => return .ok ()

def deleteResource (req : DeleteResourceRequest) : Prog Kubernetes (Except SPError Unit) := do
  match ← deleteCluster req.resourceID with
  | .error e => return .error (mapServiceError e)
  | .ok _ => return .ok ()

end ClusterHandler

end EmbeddedHandlers
