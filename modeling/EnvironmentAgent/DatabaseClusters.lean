import EnvironmentAgent.EmbeddedHandlers
import EnvironmentAgent.MemorySizes

/-! # From a database spec to a CNPG cluster

The validation of a create request and `buildCluster`. A panic is `none`. -/
namespace DatabaseClusters

open DecimalText Quantities ObjectStore
open EmbeddedHandlers (quoted StoreError checkRange checkUserLabels labelManagedBy labelInstanceID
  labelServiceType valueManagedByDCM)

structure DatabaseCpu where
  min : String
  max : String
  deriving DecidableEq, Repr

structure DatabaseMemory where
  min : String
  max : String
  deriving DecidableEq, Repr

structure DatabaseResources where
  cpu : DatabaseCpu
  memory : DatabaseMemory
  storage : Option String
  deriving DecidableEq, Repr

structure DatabaseMetadata where
  labels : Option Labels
  name : String
  deriving DecidableEq, Repr

structure InitdbProviderHints where
  database : Option String
  password : Option String
  user : Option String
  deriving DecidableEq, Repr

structure StorageProviderHints where
  storageClass : Option String
  deriving DecidableEq, Repr

structure PostgresProviderHints where
  initdb : Option InitdbProviderHints
  storage : Option StorageProviderHints
  deriving DecidableEq, Repr

structure ProviderHints where
  postgres : Option PostgresProviderHints
  deriving DecidableEq, Repr

structure DatabaseNetwork where
  visibility : Option String
  deriving DecidableEq, Repr

structure DatabaseSpec where
  metadata : DatabaseMetadata
  network : Option DatabaseNetwork
  providerHints : Option ProviderHints
  replicas : Option ℤ
  resources : DatabaseResources
  version : Option String
  deriving DecidableEq, Repr

structure CnpgK8sConfig where
  externalServiceType : String
  imageCatalogName : String
  defaultStorageClass : String
  defaultVersion : String
  deriving DecidableEq, Repr

def parseCPU (s : String) : Except String Quantity :=
  (parseQuantity s.toList).mapError ParseError.message

def convertBytes (memoryStr : String) : Except String Quantity :=
  (MemorySizes.Database.convertBytes MemorySizes.Database.apiToK8s memoryStr.toList).mapError
    MemorySizes.ConvertError.message

def amount (parse : String → Except String Quantity) (s : String) : Except String ℚ :=
  (parse s).map fun q => (q.nanos : ℚ)

def checkResources (res : DatabaseResources) : List String :=
  checkRange (amount parseCPU) "cpu" res.cpu.min res.cpu.max ++
    checkRange (amount convertBytes) "memory" res.memory.min res.memory.max

def validateCreate (id : String) (spec : DatabaseSpec) : Except StoreError Unit :=
  if id = "health" then
    .error (.invalidArgument ("database ID " ++ quoted id ++ " is reserved and cannot be used"))
  else
    match checkResources spec.resources ++ checkUserLabels spec.metadata.labels with
    | [] => .ok ()
    | detail :: _ => .error (.invalidArgument detail)

def mustParse (s : String) : Option Quantity := (parseCPU s).toOption

def convertCPU (cpu : DatabaseCpu) : Option (Quantity × Quantity) := do
  let requests ← mustParse cpu.min
  let limits ← mustParse cpu.max
  return (requests, limits)

def resolveStorageClass (providerHints : Option ProviderHints) (defaultClass : String) : String :=
  match providerHints with
  | some ⟨some ⟨_, some ⟨some storageClass⟩⟩⟩ => storageClass
  | _ => defaultClass

def latestTag := "latest"
def imageRepo := "ghcr.io/cloudnative-pg/postgresql"
def imageType := "standard"
def imageOs := "trixie"

structure ImageCatalogRef where
  name : String
  major : ℤ
  deriving DecidableEq, Repr

structure Image where
  imageCatalogRef : Option ImageCatalogRef
  imageName : String
  deriving DecidableEq, Repr

def resolveVersion (spec : DatabaseSpec) (cfg : CnpgK8sConfig) : String :=
  match spec.version with
  | none => cfg.defaultVersion
  | some version => if version = latestTag then "" else version

def resolveImage (cfg : CnpgK8sConfig) (version : String) : Except StoreError Image :=
  if cfg.imageCatalogName ≠ "" then
    if version ≠ "" then
      match parseInt version.toList with
      | none => .error (.invalidArgument "version must be a valid integer major")
      | some major => .ok ⟨some ⟨cfg.imageCatalogName, major⟩, ""⟩
    else .ok ⟨some ⟨cfg.imageCatalogName, 0⟩, ""⟩
  else if version = "" then
    .error (.invalidArgument ("invalid version sepecified: " ++ version))
  else if version = latestTag then .ok ⟨none, imageRepo ++ ":" ++ version⟩
  else .ok ⟨none, imageRepo ++ ":" ++ version ++ "-" ++ imageType ++ "-" ++ imageOs⟩

def dcmLabels (instanceID : String) : Labels :=
  [(labelManagedBy, valueManagedByDCM), (labelInstanceID, instanceID),
    (labelServiceType, "database")]

structure ManagedService where
  name : String
  labels : Labels
  serviceType : String
  deriving DecidableEq, Repr

def clusterName (spec : DatabaseSpec) (id : String) : String := spec.metadata.name ++ "-" ++ id

def buildExternalManagedService (id : String) (spec : DatabaseSpec) (svcType : String) :
    ManagedService :=
  ⟨clusterName spec id ++ "-external-rw", dcmLabels id, svcType⟩

def additionalServices (spec : DatabaseSpec) (id : String) (cfg : CnpgK8sConfig) :
    List ManagedService :=
  match spec.network with
  | some ⟨some "external"⟩ => [buildExternalManagedService id spec cfg.externalServiceType]
  | _ => []

def credentialsSecretName (clusterName : String) : String := clusterName ++ "-credentials"

structure BootstrapInitDB where
  database : String
  owner : String
  secret : Option String
  deriving DecidableEq, Repr

def initdbHints (spec : DatabaseSpec) : Option InitdbProviderHints :=
  match spec.providerHints with
  | some ⟨some ⟨initdb, _⟩⟩ => initdb
  | _ => none

def buildBootstrap (spec : DatabaseSpec) (id : String) : Option BootstrapInitDB :=
  (initdbHints spec).map fun initdb =>
    { database := initdb.database.getD ""
      owner := initdb.user.getD ""
      secret := initdb.password.map fun _ => credentialsSecretName (clusterName spec id) }

structure CnpgCluster where
  name : String
  labels : Labels
  inheritedLabels : Labels
  instances : ℤ
  requestsCPU : Quantity
  requestsMemory : Quantity
  limitsCPU : Quantity
  limitsMemory : Quantity
  storageSize : String
  storageClass : String
  image : Image
  disabledDefaultServices : List String
  additional : List ManagedService
  bootstrap : Option BootstrapInitDB
  deriving DecidableEq, Repr

def buildCluster (spec : DatabaseSpec) (id : String) (cfg : CnpgK8sConfig) (labels : Labels) :
    Option (Except StoreError CnpgCluster) := do
  let (cpuReq, cpuLim) ← convertCPU spec.resources.cpu
  match convertBytes spec.resources.memory.min with
  | .error e => return .error (.invalidArgument ("invalid memory.min value: " ++ e))
  | .ok memReq =>
    match convertBytes spec.resources.memory.max with
    | .error e => return .error (.invalidArgument ("invalid memory.max value: " ++ e))
    | .ok memLim =>
      -- the pointer is not checked
      let storage ← spec.resources.storage
      match convertBytes storage with
      | .error e => return .error (.invalidArgument ("invalid storage value: " ++ e))
      | .ok storageSize =>
        match resolveImage cfg (resolveVersion spec cfg) with
        | .error e => return .error e
        | .ok image =>
          return .ok
            { name := clusterName spec id
              labels := labels
              inheritedLabels := labels
              instances := spec.replicas.getD 1
              requestsCPU := cpuReq
              requestsMemory := memReq
              limitsCPU := cpuLim
              limitsMemory := memLim
              storageSize := String.ofList storageSize.string
              storageClass := resolveStorageClass spec.providerHints cfg.defaultStorageClass
              image := image
              disabledDefaultServices := ["r", "ro"]
              additional := additionalServices spec id cfg
              bootstrap := buildBootstrap spec id }

theorem buildCluster_fields {spec : DatabaseSpec} {id : String} {cfg : CnpgK8sConfig}
    {labels : Labels} {cluster : CnpgCluster}
    (h : buildCluster spec id cfg labels = some (.ok cluster)) :
    cluster.name = clusterName spec id ∧ cluster.labels = labels ∧
      cluster.bootstrap = buildBootstrap spec id := by
  obtain ⟨cpu, _, h⟩ := Option.bind_eq_some_iff.mp h
  dsimp only at h
  split at h
  · cases h
  split at h
  · cases h
  obtain ⟨storage, _, h⟩ := Option.bind_eq_some_iff.mp h
  split at h
  · cases h
  split at h
  · cases h
  cases h
  exact ⟨rfl, rfl, rfl⟩

section

variable {spec : DatabaseSpec} {id : String} {cfg : CnpgK8sConfig} {labels : Labels}

theorem parses_of_checkRange {parse : String → Except String Quantity} {field lo hi : String}
    (h : checkRange (amount parse) field lo hi = []) :
    ∃ a b, parse lo = .ok a ∧ parse hi = .ok b ∧ a.nanos ≤ b.nanos := by
  unfold checkRange amount at h
  cases ha : parse lo with
  | error e =>
    rw [ha] at h
    cases hb : parse hi <;> simp [hb, Except.map] at h
  | ok a =>
    cases hb : parse hi with
    | error e =>
      rw [ha, hb] at h
      simp [Except.map] at h
    | ok b =>
      rw [ha, hb] at h
      refine ⟨a, b, rfl, rfl, ?_⟩
      by_contra hlt
      have hq : (b.nanos : ℚ) < a.nanos := by exact_mod_cast not_le.mp hlt
      simp [Except.map, hq] at h

theorem checked_of_validateCreate (h : validateCreate id spec = .ok ()) :
    checkResources spec.resources = [] := by
  unfold validateCreate at h
  split at h
  · cases h
  · split at h
    · rename_i hnil
      exact (List.append_eq_nil_iff.mp hnil).1
    · cases h

theorem sizes_of_validateCreate (h : validateCreate id spec = .ok ()) :
    ∃ cpu memReq memLim, convertCPU spec.resources.cpu = some cpu ∧
      convertBytes spec.resources.memory.min = .ok memReq ∧
      convertBytes spec.resources.memory.max = .ok memLim := by
  obtain ⟨hcpu, hmemory⟩ := List.append_eq_nil_iff.mp (checked_of_validateCreate h)
  obtain ⟨a, b, ha, hb, _⟩ := parses_of_checkRange hcpu
  obtain ⟨memReq, memLim, hreq, hlim, _⟩ := parses_of_checkRange hmemory
  refine ⟨(a, b), memReq, memLim, ?_, hreq, hlim⟩
  rw [convertCPU, mustParse, mustParse, ha, hb]
  rfl

theorem buildCluster_of_validateCreate (h : validateCreate id spec = .ok ())
    (cfg : CnpgK8sConfig) (labels : Labels) :
    (spec.resources.storage = none ∧ buildCluster spec id cfg labels = none) ∨
      ∃ storage, spec.resources.storage = some storage ∧
        ((∃ e, convertBytes storage = .error e ∧ buildCluster spec id cfg labels =
            some (.error (.invalidArgument ("invalid storage value: " ++ e)))) ∨
          ∃ size, convertBytes storage = .ok size ∧
            ((∃ e, resolveImage cfg (resolveVersion spec cfg) = .error e ∧
                buildCluster spec id cfg labels = some (.error e)) ∨
              ∃ cluster, buildCluster spec id cfg labels = some (.ok cluster))) := by
  obtain ⟨cpu, memReq, memLim, hcpu, hreq, hlim⟩ := sizes_of_validateCreate h
  cases hstorage : spec.resources.storage with
  | none =>
    refine Or.inl ⟨rfl, ?_⟩
    simp [buildCluster, hcpu, hreq, hlim, hstorage]
  | some storage =>
    refine Or.inr ⟨storage, rfl, ?_⟩
    cases hsize : convertBytes storage with
    | error e =>
      refine Or.inl ⟨e, rfl, ?_⟩
      simp [buildCluster, hcpu, hreq, hlim, hstorage, hsize]
    | ok size =>
      refine Or.inr ⟨size, rfl, ?_⟩
      cases himage : resolveImage cfg (resolveVersion spec cfg) with
      | error e =>
        refine Or.inl ⟨e, rfl, ?_⟩
        simp [buildCluster, hcpu, hreq, hlim, hstorage, hsize, himage]
      | ok image =>
        right
        simp [buildCluster, hcpu, hreq, hlim, hstorage, hsize, himage]

def AboutVersion (e : StoreError) : Prop :=
  e = .invalidArgument "version must be a valid integer major" ∨
    e = .invalidArgument "invalid version sepecified: "

theorem aboutVersion_of_resolveImage {version : String} {e : StoreError}
    (h : resolveImage cfg version = .error e) : AboutVersion e := by
  unfold resolveImage at h
  split at h
  · split at h
    · split at h <;> cases h
      exact Or.inl rfl
    · cases h
  · split at h
    · cases h
      rename_i hempty
      rw [hempty]
      exact Or.inr rfl
    · split at h <;> cases h

theorem not_aboutVersion_storage (e : String) :
    ¬ AboutVersion (.invalidArgument ("invalid storage value: " ++ e)) := by
  -- the ninth character tells them apart
  have hninth : ("invalid storage value: " ++ e).toList[8]? = some 's' := by
    rw [String.toList_append]
    rfl
  rintro (h | h)
  · rw [StoreError.invalidArgument.inj h] at hninth
    exact absurd hninth (by decide)
  · rw [StoreError.invalidArgument.inj h] at hninth
    exact absurd hninth (by decide)

/-- No panic, and no error but for the version. -/
def BuildsSafely (result : Option (Except StoreError CnpgCluster)) : Prop :=
  (∃ cluster, result = some (.ok cluster)) ∨ ∃ e, result = some (.error e) ∧ AboutVersion e

/-- A validated spec builds safely exactly if it has a storage size, and one that converts. -/
theorem validated_builds_safely_iff (h : validateCreate id spec = .ok ()) :
    BuildsSafely (buildCluster spec id cfg labels) ↔
      ∃ storage size, spec.resources.storage = some storage ∧ convertBytes storage = .ok size := by
  rcases buildCluster_of_validateCreate h cfg labels with
    ⟨hnone, hbuild⟩ | ⟨storage, hsome, ⟨e, herror, hbuild⟩ | ⟨size, hsize, hrest⟩⟩
  · rw [hbuild, hnone]
    simp [BuildsSafely]
  · rw [hbuild, hsome]
    constructor
    · rintro (⟨cluster, hok⟩ | ⟨e', he', habout⟩)
      · cases hok
      · cases he'
        exact absurd habout (not_aboutVersion_storage e)
    · rintro ⟨_, size, hs, hsize⟩
      cases hs
      rw [herror] at hsize
      cases hsize
  · refine iff_of_true ?_ ⟨storage, size, hsome, hsize⟩
    rcases hrest with ⟨e, himage, hbuild⟩ | ⟨cluster, hbuild⟩
    · exact Or.inr ⟨e, hbuild, aboutVersion_of_resolveImage himage⟩
    · exact Or.inl ⟨cluster, hbuild⟩

def plainSpec (storage : Option String) : DatabaseSpec where
  metadata := ⟨none, "orders"⟩
  network := none
  providerHints := none
  replicas := none
  resources := ⟨⟨"500m", "2"⟩, ⟨"512MB", "2GB"⟩, storage⟩
  version := none

def plainConfig : CnpgK8sConfig := ⟨"NodePort", "", "", "18"⟩

theorem validated_builds_safely_of_10GB :
    validateCreate "7" (plainSpec (some "10GB")) = .ok () ∧
      BuildsSafely (buildCluster (plainSpec (some "10GB")) "7" plainConfig []) :=
  ⟨by decide +kernel, (validated_builds_safely_iff (by decide +kernel)).mpr
    ⟨"10GB", ⟨10 * 2 ^ 30 * 10 ^ 9, .binarySI, "10Gi".toList⟩, rfl, by decide +kernel⟩⟩

/-- Validation does not ask for a storage size, nor for one that converts. -/
theorem validated_without_storage_panics :
    validateCreate "7" (plainSpec none) = .ok () ∧
      buildCluster (plainSpec none) "7" plainConfig [] = none ∧
      validateCreate "7" (plainSpec (some "10")) = .ok () ∧
      buildCluster (plainSpec (some "10")) "7" plainConfig [] = some (.error
        (.invalidArgument "invalid storage value: unsupported memory unit in \"10\"")) := by
  decide +kernel

end

end DatabaseClusters
