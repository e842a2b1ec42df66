import EnvironmentAgent.DatabaseClusters

/-! # The credentials of a database

`CnpgDatabaseStore.Create` stores two objects, the Secret with the credentials and then the Cluster
that refers to it. -/
namespace DatabaseCredentials

open AtomicPrograms SequentialPrograms ObjectStore DatabaseClusters
open EmbeddedHandlers (quoted StoreError ApiError.wrap mergeLabels instanceSelector)

inductive Kind where
  | cluster
  | secret
  deriving DecidableEq, Repr

structure Credentials where
  username : String
  password : String
  deriving DecidableEq, Repr

inductive Body where
  | cluster (c : CnpgCluster)
  | secret (c : Credentials)
  deriving DecidableEq, Repr

abbrev Kubernetes : Signature := api Kind Body

/-- The conversions of a Cluster to its unstructured form and back, by their errors. -/
structure Conversion where
  toUnstructured : CnpgCluster → Except String Unit
  fromUnstructured : Object Body → Except String Unit

def defaultUser := "app"

def databaseUserFromBootstrap (bootstrap : Option BootstrapInitDB) : String :=
  match bootstrap with
  | none => defaultUser
  | some initDB => if initDB.owner = "" then defaultUser else initDB.owner

def databasePasswordFromProviderHints (providerHints : Option ProviderHints) : Option String :=
  match providerHints with
  | some ⟨some ⟨some initdb, _⟩⟩ => initdb.password
  | _ => none

def newCredentialsSecret (clusterName username password : String) (labels : Labels) :
    Manifest Body :=
  ⟨.fixed (credentialsSecretName clusterName), labels, .secret ⟨username, password⟩⟩

def clusterManifest (cluster : CnpgCluster) : Manifest Body :=
  ⟨.fixed cluster.name, cluster.labels, .cluster cluster⟩

def internal (message : String) : StoreError := .api ⟨.other, none, message⟩

namespace CnpgDatabaseStore

variable (conv : Conversion)

def findCluster (databaseId : String) : Prog Kubernetes (Except StoreError (Object Body)) := do
  match ← list .cluster (instanceSelector databaseId) with
  | .error e => return .error (.api (ApiError.wrap e "failed to list clusters"))
  | .ok [] => return .error (.notFound databaseId)
  | .ok [cluster] =>
    match conv.fromUnstructured cluster with
    | .error e => return .error (internal ("decoding cluster for database " ++ quoted databaseId ++
        ": " ++ e))
    | .ok _ => return .ok cluster
  | .ok _ =>
    return .error (.conflict ("multiple clusters found for database " ++ quoted databaseId))

def createSecret (spec : DatabaseSpec) (id : String) (labels : Labels) (cluster : CnpgCluster) :
    Prog Kubernetes (Except StoreError Bool) :=
  match databasePasswordFromProviderHints spec.providerHints with
  | none => return .ok false
  | some password => do
    let username := databaseUserFromBootstrap cluster.bootstrap
    match ← ObjectStore.create .secret
        (newCredentialsSecret cluster.name username password labels) with
    | .ok _ => return .ok true
    | .error e =>
      if e.reason = .alreadyExists then return .ok false
      else return .error (.api (ApiError.wrap e ("creating credentials secret for database " ++
        quoted id)))

def deleteSecret (secretCreated : Bool) (cluster : CnpgCluster) : Prog Kubernetes Unit := do
  if secretCreated then
    let _ ← ObjectStore.delete .secret (credentialsSecretName cluster.name)
    return ()
  else return ()

def createCluster (spec : DatabaseSpec) (id : String) (cluster : CnpgCluster)
    (secretCreated : Bool) : Prog Kubernetes (Except StoreError Unit) :=
  match conv.toUnstructured cluster with
  | .error e => do
    deleteSecret secretCreated cluster
    return .error (internal ("encoding cluster for database " ++ quoted id ++ ": " ++ e))
  | .ok _ => do
    match ← ObjectStore.create .cluster (clusterManifest cluster) with
    | .error e =>
      deleteSecret secretCreated cluster
      if e.reason = .alreadyExists then
        return .error (.conflict ("cluster " ++ quoted spec.metadata.name ++ " already exists"))
      else return .error (.api (ApiError.wrap e ("creating cluster for database " ++ quoted id)))
    | .ok created =>
      match conv.fromUnstructured created with
      | .error e =>
        deleteSecret secretCreated cluster
        return .error (internal ("decoding created cluster for database " ++ quoted id ++ ": " ++
          e))
      | .ok _ => return .ok ()

def storeDatabase (cfg : CnpgK8sConfig) (spec : DatabaseSpec) (id : String) (labels : Labels) :
    Prog Kubernetes (Except StoreError Unit) :=
  match buildCluster spec id cfg labels with
  | none => .raise
  | some (.error e) => return .error e
  | some (.ok cluster) => do
    match ← createSecret spec id labels cluster with
    | .error e => return .error e
    | .ok secretCreated => createCluster conv spec id cluster secretCreated

def create (cfg : CnpgK8sConfig) (spec : DatabaseSpec) (id : String) :
    Prog Kubernetes (Except StoreError Unit) := do
  let labels := mergeLabels (dcmLabels id) (spec.metadata.labels.getD [])
  match ← findCluster conv id with
  | .ok _ =>
    return .error (.conflict ("database with instance ID " ++ quoted id ++ " already exists"))
  | .error (.notFound _) => storeDatabase conv cfg spec id labels
  -- the error is wrapped, which callers see through
  | .error e => return .error e

end CnpgDatabaseStore

structure Request (name : String) where
  spec : DatabaseSpec
  password : String
  named : spec.metadata.name = name
  hinted : databasePasswordFromProviderHints spec.providerHints = some password

variable {name id : String}

def databaseName (name id : String) : String := name ++ "-" ++ id

def Request.credentials (req : Request name) (id : String) : Credentials :=
  ⟨databaseUserFromBootstrap (buildBootstrap req.spec id), req.password⟩

def Refers (name id : String) (c : Credentials) (w : Store Kind Body) : Prop :=
  ∃ o ∈ w.objects .cluster, o.name = databaseName name id ∧
    ∃ cluster initDB secret, o.body = .cluster cluster ∧ cluster.bootstrap = some initDB ∧
      initDB.secret = some secret ∧ ∃ s ∈ w.objects .secret, s.name = secret ∧ s.body = .secret c

structure Consistent (id : String) (req : Request name) (r : Option (Except StoreError Unit))
    (w : Store Kind Body) : Prop where
  success : r = some (.ok ()) → Refers name id (req.credentials id) w
  failure : ∀ e, r = some (.error e) → databaseName name id ∉ w.names .cluster →
    credentialsSecretName (databaseName name id) ∉ w.names .secret

structure Attempt (name : String) where
  request : Request name
  result : Option (Except StoreError Unit)
  after : Store Kind Body

inductive Runs (srv : Server) (conv : Conversion) (cfg : CnpgK8sConfig) (name id : String) :
    Noted Kind Body → List (Attempt name) → Noted Kind Body → Prop where
  | nil (w : Noted Kind Body) : Runs srv conv cfg name id w [] w
  | cons {w v u : Noted Kind Body} {req : Request name} {r : Option (Except StoreError Unit)}
      {attempts : List (Attempt name)}
      (hp : Performs (Lossy srv) (CnpgDatabaseStore.create conv cfg req.spec id) w r v)
      (h : Runs srv conv cfg name id v attempts u) :
      Runs srv conv cfg name id w (⟨req, r, v.store⟩ :: attempts) u

variable {cluster : CnpgCluster} {r : Option (Except StoreError Unit)}
  {attempts : List (Attempt name)} {user : Labels}

section

variable {srv : Server} {conv : Conversion} {cfg : CnpgK8sConfig} {req : Request name}
  {w v u : Store Kind Body} {t : Noted Kind Body}

/-- A Secret only beside a Cluster, and a Cluster only where it is found. -/
structure Settled (srv : Server) (name id : String) (w : Store Kind Body) : Prop where
  paired : databaseName name id ∉ w.names .cluster →
    credentialsSecretName (databaseName name id) ∉ w.names .secret
  found : databaseName name id ∈ w.names .cluster →
    matching srv w .cluster (instanceSelector id) ≠ []

theorem Settled.congr (h : Settled srv name id w) (hobjects : ∀ k, v.objects k = w.objects k) :
    Settled srv name id v := by
  have hnames : ∀ k, v.names k = w.names k := by
    intro k
    rw [Store.names, hobjects k, Store.names]
  constructor
  · rw [hnames, hnames]
    exact h.paired
  · rw [hnames, matching_congr (hobjects .cluster)]
    exact h.found

def Leaves (srv : Server) (id : String) (req : Request name)
    (r : Option (Except StoreError Unit)) (u : Noted Kind Body) : Prop :=
  if Kind.secret ∈ u.lost then ¬ Consistent id req r u.store
  else Settled srv name id u.store ∧ Consistent id req r u.store

theorem Leaves.of_settled (h : Settled srv name id t.store) (hlost : .secret ∉ t.lost)
    (hr : r ≠ some (.ok ())) : Leaves srv id req r t := by
  rw [Leaves, if_neg hlost]
  exact ⟨h, fun hok => absurd hok hr, fun _ _ => h.paired⟩

theorem Leaves.of_cluster {e : StoreError} (hlost : .secret ∉ t.lost)
    (hcluster : databaseName name id ∈ t.store.names .cluster)
    (hfound : matching srv t.store .cluster (instanceSelector id) ≠ []) :
    Leaves srv id req (some (.error e)) t := by
  rw [Leaves, if_neg hlost]
  exact ⟨⟨fun habsent => absurd hcluster habsent, fun _ => hfound⟩, nofun,
    fun _ _ habsent => absurd hcluster habsent⟩

theorem ensures_deleteSecret {α : Type} {p : Prog Kubernetes α}
    {Q : Option α → Noted Kind Body → Prop}
    (hname : credentialsSecretName cluster.name ∈ t.store.names .secret)
    (hok : Ensures (Lossy srv) p
      ⟨t.store.remove .secret (credentialsSecretName cluster.name), t.lost⟩ Q) :
    Ensures (Lossy srv) (CnpgDatabaseStore.deleteSecret true cluster >>= fun _ => p) t Q := by
  rw [CnpgDatabaseStore.deleteSecret, if_pos rfl, bind_assoc]
  apply ensures_delete_lossy hname
  exact hok

theorem Request.clusterName_eq (req : Request name) (id : String) :
    clusterName req.spec id = databaseName name id := by
  rw [clusterName, req.named, databaseName]

theorem bootstrap_of_hinted {spec : DatabaseSpec} {password : String}
    (h : databasePasswordFromProviderHints spec.providerHints = some password) (id : String) :
    ∃ initDB, buildBootstrap spec id = some initDB ∧
      initDB.secret = some (credentialsSecretName (clusterName spec id)) := by
  unfold databasePasswordFromProviderHints at h
  split at h
  · rename_i initdb _ hhints
    rw [buildBootstrap, initdbHints, hhints]
    exact ⟨_, rfl, congrArg (Option.map _) h⟩
  · cases h

theorem found_of_inserts {o : Object Body}
    (hlabels : cluster.labels = mergeLabels (dcmLabels id) user)
    (h : Inserts srv .cluster (clusterManifest cluster) w o v) :
    matching srv v .cluster (instanceSelector id) ≠ [] := by
  apply List.ne_nil_of_mem
  apply matching_insert h
  · intro r hr
    rw [clusterManifest, hlabels]
    apply List.mem_append_left
    simp only [instanceSelector, List.mem_cons, List.not_mem_nil, or_false] at hr
    rcases hr with rfl | rfl <;> simp [dcmLabels]
  · rw [clusterManifest, hlabels]
    simp [Selector.holds, instanceSelector, mergeLabels, dcmLabels,
      EmbeddedHandlers.labelInstanceID, EmbeddedHandlers.labelManagedBy, List.lookup]

theorem createCluster_leaves {m : Manifest Body} {o : Object Body} {lost : List Kind}
    (hname : cluster.name = databaseName name id)
    (hlabels : cluster.labels = mergeLabels (dcmLabels id) user)
    (hbootstrap : cluster.bootstrap = buildBootstrap req.spec id)
    (hsecret : Inserts srv .secret m w o v)
    (ho : o.name = credentialsSecretName (databaseName name id))
    (hbody : o.body = .secret (req.credentials id)) (hsettled : Settled srv name id w)
    (hlost : .secret ∉ lost) :
    Ensures (Lossy srv) (CnpgDatabaseStore.createCluster conv req.spec id cluster true) ⟨v, lost⟩
      (Leaves srv id req) := by
  have hsecretName : credentialsSecretName cluster.name = o.name := by rw [hname, ho]
  have hthere : credentialsSecretName cluster.name ∈ v.names .secret := by
    rw [hsecretName]
    exact List.mem_map_of_mem hsecret.mem
  -- without the Cluster, all is as it was before
  have hback : ∀ e, Leaves srv id req (some (.error e))
      ⟨v.remove .secret (credentialsSecretName cluster.name), lost⟩ := by
    intro e
    refine Leaves.of_settled (hsettled.congr ?_) hlost nofun
    rw [hsecretName]
    exact objects_remove_inserted hsecret
  -- with it, the Secret goes and the Cluster stays
  have hstays : ∀ e c x lost', .secret ∉ lost' →
      Inserts srv .cluster (clusterManifest cluster) v c x →
      Leaves srv id req (some (.error e))
        ⟨x.remove .secret (credentialsSecretName cluster.name), lost'⟩ := by
    intro e c x lost' hlost' hinserts
    have hsame := objects_remove_of_ne (w := x) (credentialsSecretName cluster.name)
      (show Kind.cluster ≠ .secret by decide)
    refine Leaves.of_cluster hlost' ?_ ?_
    · rw [Store.names, hsame]
      have hc : c.name = databaseName name id := hinserts.granted.trans hname
      exact hc ▸ List.mem_map_of_mem hinserts.mem
    · rw [matching_congr hsame]
      exact found_of_inserts hlabels hinserts
  have hkept : ∀ c x, Inserts srv .cluster (clusterManifest cluster) v c x →
      x.objects .secret = v.objects .secret := by
    intro c x hinserts
    rw [hinserts.stored, objects_insert_of_ne hinserts.fresh (by decide)]
  unfold CnpgDatabaseStore.createCluster
  split
  · exact ensures_deleteSecret hthere (hback _)
  apply ensures_create_lossy
  · intro e _
    apply ensures_deleteSecret hthere
    split <;> exact hback _
  · intro e c x _ hinserts
    apply ensures_deleteSecret
    · rw [Store.names, hkept c x hinserts]
      exact hthere
    · split <;> exact hstays _ c x _ (by simp [hlost]) hinserts
  · intro c x hinserts
    dsimp only
    split
    · apply ensures_deleteSecret
      · rw [Store.names, hkept c x hinserts]
        exact hthere
      · exact hstays _ c x lost hlost hinserts
    · have hcluster : databaseName name id ∈ x.names .cluster := by
        have hc : c.name = databaseName name id := hinserts.granted.trans hname
        exact hc ▸ List.mem_map_of_mem hinserts.mem
      refine (if_neg hlost).mpr ⟨⟨fun habsent => absurd hcluster habsent,
        fun _ => found_of_inserts hlabels hinserts⟩, fun _ => ?_, nofun⟩
      obtain ⟨initDB, hinit, hrefers⟩ := bootstrap_of_hinted req.hinted id
      rw [req.clusterName_eq] at hrefers
      refine ⟨c, hinserts.mem, hinserts.granted.trans hname, cluster, initDB, _, hinserts.body,
        hbootstrap.trans hinit, hrefers, o, ?_, ho, hbody⟩
      rw [hkept c x hinserts]
      exact hsecret.mem

theorem storeDatabase_leaves (hsettled : Settled srv name id t.store) (hlost : .secret ∉ t.lost)
    (hnocluster : databaseName name id ∉ t.store.names .cluster) :
    Ensures (Lossy srv) (CnpgDatabaseStore.storeDatabase conv cfg req.spec id
      (mergeLabels (dcmLabels id) user)) t (Leaves srv id req) := by
  unfold CnpgDatabaseStore.storeDatabase
  split
  · exact Leaves.of_settled hsettled hlost nofun
  · exact Leaves.of_settled hsettled hlost nofun
  rename_i cluster hbuild
  obtain ⟨hname, hlabels, hbootstrap⟩ := buildCluster_fields hbuild
  rw [req.clusterName_eq] at hname
  rw [CnpgDatabaseStore.createSecret, req.hinted]
  dsimp only
  rw [bind_assoc]
  apply ensures_create_lossy
  · -- the name is free, so this is no complaint about it
    intro e htaken
    dsimp only
    split
    · rename_i hreason
      obtain ⟨taken, hmem, rfl⟩ := htaken hreason
      rw [hname] at hmem
      exact absurd hmem (hsettled.paired hnocluster)
    · exact Leaves.of_settled hsettled hlost nofun
  · -- the Secret stays, and nothing refers to it
    intro e o v hreason hinserts
    dsimp only
    rw [if_neg hreason]
    refine (if_pos (by simp)).mpr ?_
    intro hconsistent
    apply hconsistent.failure _ rfl
    · rw [Store.names, hinserts.stored, objects_insert_of_ne hinserts.fresh (by decide)]
      exact hnocluster
    · have ho : o.name = credentialsSecretName (databaseName name id) := by
        rw [← hname]
        exact hinserts.granted
      exact ho ▸ List.mem_map_of_mem hinserts.mem
  · intro o v hinserts
    refine createCluster_leaves hname hlabels hbootstrap hinserts ?_ ?_ hsettled hlost
    · rw [← hname]
      exact hinserts.granted
    · rw [hinserts.body, newCredentialsSecret, hbootstrap, Request.credentials]

theorem create_leaves (hsettled : Settled srv name id t.store) (hlost : .secret ∉ t.lost) :
    Ensures (Lossy srv) (CnpgDatabaseStore.create conv cfg req.spec id) t (Leaves srv id req) := by
  have hearly : ∀ r, r ≠ some (.ok ()) → Leaves srv id req r t :=
    fun r hr => Leaves.of_settled hsettled hlost hr
  unfold CnpgDatabaseStore.create CnpgDatabaseStore.findCluster
  rw [bind_assoc]
  apply ensures_list_lossy
  · exact fun e => hearly _ nofun
  intro items _ hperm
  match items with
  | [item] =>
    dsimp only
    split <;> exact hearly _ nofun
  | _ :: _ :: _ => exact hearly _ nofun
  | [] =>
    apply storeDatabase_leaves hsettled hlost
    exact fun hcluster => hsettled.found hcluster hperm.nil_eq.symm

theorem Runs.lost_subset {v : Noted Kind Body} (h : Runs srv conv cfg name id t attempts v) :
    t.lost ⊆ v.lost := by
  induction h with
  | nil w => exact List.Subset.refl _
  | cons hp _ ih => exact List.Subset.trans (ObjectStore.lost_subset hp) ih

theorem Runs.consistent_iff {v : Noted Kind Body} (h : Runs srv conv cfg name id t attempts v)
    (hsettled : Settled srv name id t.store) (hlost : .secret ∉ t.lost) :
    (∀ a ∈ attempts, Consistent id a.request a.result a.after) ↔ .secret ∉ v.lost := by
  induction h with
  | nil w => exact iff_of_true (by simp) hlost
  | @cons w x u req r rest hp hrest ih =>
    have hleaves : Leaves srv id req r x :=
      ensures_iff.mp (create_leaves hsettled hlost) r x hp
    rw [List.forall_mem_cons]
    by_cases hx : Kind.secret ∈ x.lost
    · rw [Leaves, if_pos hx] at hleaves
      refine iff_of_false (fun hall => hleaves hall.1) (not_not.mpr (hrest.lost_subset hx))
    · rw [Leaves, if_neg hx] at hleaves
      rw [← ih hleaves.1 hx]
      exact and_iff_right hleaves.2

/-- Over a run of requests, outcomes and credentials agree throughout exactly if no Secret was
stored by a create that failed. -/
theorem credentials_consistent_iff {attempts : List (Attempt name)} {v : Noted Kind Body}
    (hcluster : databaseName name id ∉ t.store.names .cluster)
    (hsecret : credentialsSecretName (databaseName name id) ∉ t.store.names .secret)
    (hlost : .secret ∉ t.lost) (hrun : Runs srv conv cfg name id t attempts v) :
    (∀ a ∈ attempts, Consistent id a.request a.result a.after) ↔ .secret ∉ v.lost :=
  hrun.consistent_iff ⟨fun _ => hsecret, fun h => absurd h hcluster⟩ hlost

def openServer : Server := .strict fun _ => true

def plainConversion : Conversion := ⟨fun _ => .ok (), fun _ => .ok ()⟩

def plainRequest (password : String) : Request "orders" where
  spec :=
    { plainSpec (some "10GB") with
      providerHints := some ⟨some ⟨some ⟨none, some password, none⟩, none⟩⟩ }
  password := password
  named := rfl
  hinted := rfl

def plainCluster : CnpgCluster where
  name := "orders-7"
  labels := dcmLabels "7"
  inheritedLabels := dcmLabels "7"
  instances := 1
  requestsCPU := ⟨5 * 10 ^ 8, .decimalSI, "500m".toList⟩
  requestsMemory := ⟨2 ^ 29 * 10 ^ 9, .binarySI, "512Mi".toList⟩
  limitsCPU := ⟨2 * 10 ^ 9, .decimalSI, "2".toList⟩
  limitsMemory := ⟨2 ^ 31 * 10 ^ 9, .binarySI, "2Gi".toList⟩
  storageSize := "10Gi"
  storageClass := ""
  image := ⟨none, "ghcr.io/cloudnative-pg/postgresql:18-standard-trixie"⟩
  disabledDefaultServices := ["r", "ro"]
  additional := []
  bootstrap := some ⟨"", "", some "orders-7-credentials"⟩

def plainSecret (password : String) : Object Body :=
  ⟨"orders-7-credentials", dcmLabels "7", .secret ⟨"app", password⟩⟩

def withSecret : Store Kind Body := Store.empty.insert .secret (plainSecret "first") (by decide)

def withCluster : Store Kind Body :=
  withSecret.insert .cluster ⟨"orders-7", dcmLabels "7", .cluster plainCluster⟩ (by decide)

def timeout : ApiError := ⟨.other, none, "timeout"⟩

theorem buildCluster_plain : ∀ password ∈ ["first", "second"],
    buildCluster (plainRequest password).spec "7" plainConfig
      (mergeLabels (dcmLabels "7") ((plainRequest password).spec.metadata.labels.getD [])) =
      some (.ok plainCluster) := by
  decide +kernel

theorem performs_create {w u : Noted Kind Body} {req : Request "orders"}
    (hunused : matching openServer w.store .cluster (instanceSelector "7") = [])
    (h : Allows (Lossy openServer) (CnpgDatabaseStore.storeDatabase plainConversion plainConfig
      req.spec "7" (mergeLabels (dcmLabels "7") (req.spec.metadata.labels.getD []))) w
        fun r' u' => r' = r ∧ u' = u) :
    Performs (Lossy openServer)
      (CnpgDatabaseStore.create plainConversion plainConfig req.spec "7") w r u := by
  have hallows : Allows (Lossy openServer)
      (CnpgDatabaseStore.create plainConversion plainConfig req.spec "7") w
      fun r' u' => r' = r ∧ u' = u := ⟨.ok [], w, ⟨rfl, rfl, by rw [hunused]⟩, h⟩
  obtain ⟨_, _, hp, rfl, rfl⟩ := allows_iff.mp hallows
  exact hp

theorem create_reply_lost : Performs (Lossy openServer)
    (CnpgDatabaseStore.create plainConversion plainConfig (plainRequest "first").spec "7")
    ⟨.empty, []⟩ (some (.error (.api (ApiError.wrap timeout
      "creating credentials secret for database \"7\"")))) ⟨withSecret, [.secret]⟩ := by
  apply performs_create rfl
  rw [CnpgDatabaseStore.storeDatabase, buildCluster_plain "first" (by simp)]
  exact ⟨.error timeout, ⟨withSecret, [.secret]⟩, Or.inr ⟨by decide, rfl, plainSecret "first",
    fun _ _ => rfl, rfl, rfl, rfl, by decide, rfl⟩, rfl, rfl⟩

theorem create_again : Performs (Lossy openServer)
    (CnpgDatabaseStore.create plainConversion plainConfig (plainRequest "second").spec "7")
    ⟨withSecret, [.secret]⟩ (some (.ok ())) ⟨withCluster, [.secret]⟩ := by
  apply performs_create rfl
  rw [CnpgDatabaseStore.storeDatabase, buildCluster_plain "second" (by simp)]
  refine ⟨.error ⟨.alreadyExists, some 409, "already exists"⟩, ⟨withSecret, [.secret]⟩,
    Or.inl ⟨rfl, fun _ => ⟨"orders-7-credentials", by decide, rfl⟩⟩, ?_⟩
  exact ⟨.ok ⟨"orders-7", dcmLabels "7", .cluster plainCluster⟩, ⟨withCluster, [.secret]⟩,
    ⟨rfl, fun _ _ => rfl, rfl, rfl, rfl, by decide, rfl⟩, rfl, rfl⟩

theorem create_succeeds : Performs (Lossy openServer)
    (CnpgDatabaseStore.create plainConversion plainConfig (plainRequest "first").spec "7")
    ⟨.empty, []⟩ (some (.ok ())) ⟨withCluster, []⟩ := by
  apply performs_create rfl
  rw [CnpgDatabaseStore.storeDatabase, buildCluster_plain "first" (by simp)]
  refine ⟨.ok (plainSecret "first"), ⟨withSecret, []⟩,
    ⟨rfl, fun _ _ => rfl, rfl, rfl, rfl, by decide, rfl⟩, ?_⟩
  exact ⟨.ok ⟨"orders-7", dcmLabels "7", .cluster plainCluster⟩, ⟨withCluster, []⟩,
    ⟨rfl, fun _ _ => rfl, rfl, rfl, rfl, by decide, rfl⟩, rfl, rfl⟩

theorem credentials_consistent_after_success :
    Runs openServer plainConversion plainConfig "orders" "7" ⟨.empty, []⟩
        [⟨plainRequest "first", some (.ok ()), withCluster⟩] ⟨withCluster, []⟩ ∧
      Refers "orders" "7" ⟨"app", "first"⟩ withCluster := by
  have hrun : Runs openServer plainConversion plainConfig "orders" "7" ⟨.empty, []⟩
      [⟨plainRequest "first", some (.ok ()), withCluster⟩] ⟨withCluster, []⟩ :=
    .cons create_succeeds (.nil _)
  have hall := (credentials_consistent_iff (by decide) (by decide) (by decide) hrun).mpr
    (by decide)
  exact ⟨hrun, (hall _ (List.mem_singleton_self _)).success rfl⟩

/-- The first request fails and leaves its Secret, the second succeeds with the first one's
password. -/
theorem stale_credentials_after_lost_reply :
    ∃ first second v, Runs openServer plainConversion plainConfig "orders" "7" ⟨.empty, []⟩
        [first, second] v ∧
      (∃ e, first.result = some (.error e)) ∧ first.after.names .cluster = [] ∧
      first.after.names .secret = ["orders-7-credentials"] ∧
      second.result = some (.ok ()) ∧
      second.request.credentials "7" = ⟨"app", "second"⟩ ∧
      (∀ s ∈ second.after.objects .secret, s.body = .secret ⟨"app", "first"⟩) ∧
      ¬ Consistent "7" second.request second.result second.after := by
  have hkept : ∀ s ∈ withCluster.objects .secret, s.body = .secret ⟨"app", "first"⟩ := by
    decide
  refine ⟨_, _, _, .cons create_reply_lost (.cons create_again (.nil _)), ⟨_, rfl⟩, rfl, rfl, rfl,
    rfl, hkept, ?_⟩
  intro h
  obtain ⟨_, _, _, _, _, _, _, _, _, s, hs, _, hbody⟩ := h.success rfl
  rw [hkept s hs] at hbody
  exact absurd hbody (by decide)

end

end DatabaseCredentials
