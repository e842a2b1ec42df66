import EnvironmentAgent.EmbeddedHandlers

/-! # Creates that fail when their request ends

A cluster is two objects and an exposed container too, so a create that fails half way has to take
the first one back. -/
namespace CreateRollback

open AtomicPrograms SequentialPrograms ObjectStore EmbeddedHandlers

def NothingLeft (kinds : List Kind) (w v : Cluster) : Prop :=
  ∀ k ∈ kinds, v.objects k ⊆ w.objects k

def CleanFailure {ε : Type} (kinds : List Kind) (w : Cluster) (r : Option (Except ε Unit))
    (u : Timed Kind Body) : Prop :=
  ∀ e, r = some (.error e) → NothingLeft kinds w u.store

theorem NothingLeft.refl {kinds : List Kind} {w : Cluster} : NothingLeft kinds w w :=
  fun _ _ _ ho => ho

theorem NothingLeft.of_eq {kinds : List Kind} {w v : Cluster}
    (h : ∀ k, v.objects k = w.objects k) : NothingLeft kinds w v := by
  intro k _ o ho
  rwa [h k] at ho

/-- Every call of `CreateCluster` is made with the request's context, its rollback too. -/
def clusterBound : Op Kind Body → Bool := fun _ => true

/-- `Create` of the container store deletes only to roll back, and does that with a context
detached from the request. -/
def containerBound : Op Kind Body → Bool
  | .delete _ _ => false
  | _ => true

variable {srv : Server} {admits : Kind → Manifest Body → Bool} {ends : ℕ} {w : Cluster}

section

variable (dec : Decoding) {spec : ContainerSpec} {t : Timed Kind Body}

theorem exposeDeployment_clean {labels : Labels} {m : Manifest Body} {deploy : Object Body}
    (hdeploy : Inserts srv .deployment m w deploy t.store) :
    Ensures (Limited srv admits containerBound ends)
      (K8sContainerStore.exposeDeployment spec labels deploy) t
      (CleanFailure [.deployment, .service] w) := by
  rw [K8sContainerStore.exposeDeployment]
  split
  · rintro e ⟨⟩
  apply ensures_create_limited
  · -- the Service is not there and the Deployment, which is, goes again
    intro e _
    apply ensures_delete_limited
    · rintro e' (⟨hbound, _⟩ | habsent)
      · cases hbound
      · exact absurd (List.mem_map_of_mem hdeploy.mem) habsent
    · intro _ _
      exact NothingLeft.of_eq (objects_remove_inserted hdeploy)
  · rintro o v _ _ _ e ⟨⟩

theorem create_clean (id : String) (w : Cluster) :
    Ensures (Limited srv admits containerBound ends) (K8sContainerStore.create dec spec id) ⟨w, 0⟩
      (CleanFailure [.deployment, .service] w) := by
  rw [K8sContainerStore.create]
  apply ensures_list_limited
  · exact fun e _ _ => NothingLeft.refl
  intro items _ _ _
  cases items with
  | cons item items => exact fun _ _ => NothingLeft.refl
  | nil =>
    dsimp only
    cases buildDeployment dec spec _ with
    | error e => exact fun _ _ => NothingLeft.refl
    | ok m =>
      dsimp only
      apply ensures_create_limited
      · intro e _
        dsimp only
        split <;> exact fun _ _ => NothingLeft.refl
      · intro o v _ _ hinserts
        exact exposeDeployment_clean hinserts

end

section

variable (srv admits w) (cfg : ClusterConfig) (id : String) (req : ClusterSpec)

def imageCalls : ℕ := if (req.acm.bind (·.releaseImage)).isSome then 0 else 1

def versionMatrix : List (String × String) :=
  if cfg.versionMatrix.isEmpty then defaultCompatibilityMatrix else cfg.versionMatrix

def ImageFound : Prop :=
  (req.acm.bind (·.releaseImage)).isSome ∨
    ∃ ocpVersion, k8sToOCP (versionMatrix cfg) req.version = .ok ocpVersion ∧
      ∃ i ∈ w.objects .clusterImageSet,
        (i.body ≠ "" && extractOCPVersion i.body == ocpVersion) = true

structure Creatable : Prop where
  baseDomain : resolveBaseDomain cfg req ≠ ""
  image : ImageFound w cfg req
  unused : matching srv w .hostedCluster (clusterSelector id) = []
  accepted : ¬ Refuses srv admits .hostedCluster (buildClusterObject req id) w

/-- The context ends between the creation of the HostedCluster and its deletion, before the
NodePool is there. -/
def LeftBehind (ends : ℕ) : Prop :=
  Creatable srv admits w cfg id req ∧
    (ends = imageCalls req + 2 ∨
      ends = imageCalls req + 3 ∧ Refuses srv admits .nodePool (buildClusterObject req id) w)

end

variable {hc : Object Body}

section

variable {cfg : ClusterConfig} {id : String} {req : ClusterSpec} {t : Timed Kind Body}

theorem resolveReleaseImage_spec :
    Ensures (Limited srv admits clusterBound ends) (resolveReleaseImage cfg req) t fun r u =>
      u.store = t.store ∧ ∃ a, r = some a ∧
        ∀ image, a = .ok image →
          ImageFound t.store cfg req ∧ u.calls = t.calls + imageCalls req := by
  rw [resolveReleaseImage]
  split
  · rename_i image himage
    refine ⟨rfl, _, rfl, fun _ _ => ⟨Or.inl (by rw [himage]; rfl), ?_⟩⟩
    simp [imageCalls, himage]
  rename_i hnone
  dsimp only
  split
  · exact ⟨rfl, _, rfl, fun _ h => by cases h⟩
  rename_i ocpVersion hversion
  apply ensures_list_limited
  · exact fun e => ⟨rfl, _, rfl, fun _ h => by cases h⟩
  intro items _ _ hperm
  dsimp only
  split
  · rename_i item hfind
    refine ⟨rfl, _, rfl, fun _ _ => ⟨Or.inr ⟨ocpVersion, hversion, item, ?_, ?_⟩, ?_⟩⟩
    · rw [matching_nil] at hperm
      exact hperm.mem_iff.mp (List.mem_of_find?_eq_some hfind)
    · have hpred := List.find?_some hfind
      exact hpred
    · simp [imageCalls, hnone]
  · exact ⟨rfl, _, rfl, fun _ h => by cases h⟩

theorem findByInstanceID_spec :
    Ensures (Limited srv admits clusterBound ends) (findByInstanceID id) t fun r u =>
      u = ⟨t.store, t.calls + 1⟩ ∧ ∃ a, r = some a ∧
        ∀ e, a = .error e → e.type = .notFound →
          matching srv t.store .hostedCluster (clusterSelector id) = [] := by
  rw [findByInstanceID]
  apply ensures_list_limited
  · intro e
    refine ⟨rfl, _, rfl, ?_⟩
    rintro e ⟨⟩ h
    cases h
  intro items _ _ hperm
  cases items with
  | nil => exact ⟨rfl, _, rfl, fun _ _ _ => hperm.nil_eq.symm⟩
  | cons item items =>
    refine ⟨rfl, _, rfl, ?_⟩
    rintro e ⟨⟩

theorem refuses_nodePool {m m' : Manifest Body} {v : Cluster}
    (h : Inserts srv .hostedCluster m w hc v) :
    Refuses srv admits .nodePool m' v ↔ Refuses srv admits .nodePool m' w := by
  have hnames : v.names .nodePool = w.names .nodePool := by
    rw [Store.names, Store.names, h.stored, objects_insert_of_ne h.fresh (by decide)]
  rw [Refuses, Refuses, hnames]

theorem createNodePool_clean
    (hhc : Inserts srv .hostedCluster (buildClusterObject req id) w hc t.store)
    (hends : ends ≠ t.calls)
    (hrefused : ends = t.calls + 1 → ¬ Refuses srv admits .nodePool (buildClusterObject req id) w)
    (hlive : t.calls ≤ ends) :
    Ensures (Limited srv admits clusterBound ends) (createNodePool req id hc) t
      (CleanFailure [.hostedCluster, .nodePool] w) := by
  rw [createNodePool]
  apply ensures_create_limited
  · intro e hfail
    rw [refuses_nodePool hhc] at hfail
    apply ensures_delete_limited
    · rintro e' (⟨_, hdead⟩ | habsent)
      · -- the context outlives the call before this one, so it ended just now
        dsimp only at hdead
        rcases hfail with ⟨_, hdead'⟩ | hfail
        · omega
        · exact absurd hfail (hrefused (by omega))
      · exact absurd (List.mem_map_of_mem hhc.mem) habsent
    · exact fun _ _ => NothingLeft.of_eq (objects_remove_inserted hhc)
  · rintro o v _ _ _ e ⟨⟩

theorem createCluster_clean (h : ¬ LeftBehind srv admits w cfg id req ends) :
    Ensures (Limited srv admits clusterBound ends) (createCluster cfg id req) ⟨w, 0⟩
      (CleanFailure [.hostedCluster, .nodePool] w) := by
  rw [createCluster]
  split
  · exact fun _ _ => NothingLeft.refl
  rename_i hdomain
  apply ensures_bind.mpr
  apply resolveReleaseImage_spec.mono
  rintro r ⟨store, calls⟩ ⟨hstore, a, rfl, hok⟩
  dsimp only at hstore hok
  subst store
  cases a with
  | error e => exact fun _ _ => NothingLeft.refl
  | ok image =>
    obtain ⟨himage, hcalls⟩ := hok image rfl
    apply ensures_bind.mpr
    apply findByInstanceID_spec.mono
    rintro r u ⟨rfl, a, rfl, hfound⟩
    cases a with
    | ok hc => exact fun _ _ => NothingLeft.refl
    | error e =>
      rw [andThen_some]
      dsimp only
      split
      · exact fun _ _ => NothingLeft.refl
      rename_i htype
      have hunused := hfound e rfl (not_not.mp htype)
      apply ensures_create_limited
      · intro e _
        dsimp only
        split <;> exact fun _ _ => NothingLeft.refl
      intro hc v hlive hadmits hinserts
      have hcreatable : Creatable srv admits w cfg id req :=
        ⟨hdomain, himage, hunused, hinserts.not_refuses hadmits⟩
      have hbound := hlive rfl
      dsimp only at hbound
      apply createNodePool_clean hinserts
      · intro hends
        exact h ⟨hcreatable, Or.inl (by dsimp only at hends; omega)⟩
      · intro hends hrefused
        exact h ⟨hcreatable, Or.inr ⟨by dsimp only at hends; omega, hrefused⟩⟩
      · dsimp only
        omega

theorem createNodePool_leaves (e : ApiError)
    (hhc : Inserts srv .hostedCluster (buildClusterObject req id) w hc t.store)
    (hends : ends = t.calls ∨
      ends = t.calls + 1 ∧ Refuses srv admits .nodePool (buildClusterObject req id) w) :
    Allows (Limited srv admits clusterBound ends) (createNodePool req id hc) t fun r u =>
      (∃ e, r = some (.error e)) ∧ hc ∈ u.store.objects .hostedCluster := by
  rw [createNodePool]
  have hfailed : Limited srv admits clusterBound ends
      (.create .nodePool (buildClusterObject req id)) t (.error e) ⟨t.store, t.calls + 1⟩ := by
    rcases hends with hends | ⟨hends, hrefused⟩
    · exact limited_dead e rfl (by omega)
    · exact limited_live (by omega) ⟨rfl, (refuses_nodePool hhc).mpr hrefused⟩
  refine ⟨.error e, _, hfailed, .error e, _, limited_dead e rfl ?_, ⟨_, rfl⟩, hhc.mem⟩
  dsimp only
  omega

theorem resolveReleaseImage_finds (h : ImageFound t.store cfg req)
    (hlive : t.calls + imageCalls req < ends) :
    Allows (Limited srv admits clusterBound ends) (resolveReleaseImage cfg req) t fun r u =>
      (∃ image, r = some (.ok image)) ∧ u = ⟨t.store, t.calls + imageCalls req⟩ := by
  rw [resolveReleaseImage]
  split
  · rename_i image himage
    refine ⟨⟨image, rfl⟩, ?_⟩
    simp [imageCalls, himage]
  · rename_i hnone
    rw [ImageFound, hnone] at h
    obtain ⟨ocpVersion, hversion, i, hi, hpred⟩ := h.resolve_left (by simp)
    have hcalls : imageCalls req = 1 := by simp [imageCalls, hnone]
    have hfound : ((t.store.objects .clusterImageSet).find? fun i =>
        i.body ≠ "" && extractOCPVersion i.body == ocpVersion).isSome :=
      List.find?_isSome.mpr ⟨i, hi, hpred⟩
    obtain ⟨item, hitem⟩ := Option.isSome_iff_exists.mp hfound
    rw [versionMatrix] at hversion
    dsimp only
    rw [hversion]
    refine ⟨.ok (t.store.objects .clusterImageSet), _, limited_live (by omega)
      ⟨rfl, ?_, by rw [matching_nil]⟩, ?_⟩
    · rw [srv.reads_valid [] (by simp)]
      rfl
    · dsimp only [Prog.bind]
      rw [hitem, hcalls]
      exact ⟨⟨item.body, rfl⟩, rfl⟩

theorem findByInstanceID_fails (hlive : t.calls < ends)
    (hvalid : ∀ l ∈ clusterLabels id, srv.valid l = true)
    (hunused : matching srv t.store .hostedCluster (clusterSelector id) = []) :
    Allows (Limited srv admits clusterBound ends) (findByInstanceID id) t fun r u =>
      (∃ e, r = some (.error e) ∧ e.type = .notFound) ∧ u = ⟨t.store, t.calls + 1⟩ := by
  rw [findByInstanceID]
  refine ⟨.ok [], _, limited_live hlive ⟨rfl, ?_, by rw [hunused]⟩, ⟨_, rfl, rfl⟩, rfl⟩
  have hselector : ∀ r ∈ clusterSelector id, srv.valid r = true := by
    intro r hr
    rw [List.mem_singleton.mp hr]
    exact hvalid _ (by simp [clusterLabels])
  rw [srv.reads_valid (clusterSelector id) hselector]
  rfl

theorem createCluster_leaves (h : LeftBehind srv admits w cfg id req ends) :
    Allows (Limited srv admits clusterBound ends) (createCluster cfg id req) ⟨w, 0⟩ fun r u =>
      (∃ e, r = some (.error e)) ∧ ¬ NothingLeft [.hostedCluster, .nodePool] w u.store := by
  obtain ⟨hcreatable, hends⟩ := h
  obtain ⟨hadmits, v, hinserts⟩ := inserts_of_not_refuses hcreatable.accepted
  rw [createCluster, if_neg hcreatable.baseDomain]
  apply allows_bind.mpr
  apply (resolveReleaseImage_finds (t := ⟨w, 0⟩) hcreatable.image (by dsimp only; omega)).mono
  rintro r u ⟨⟨image, rfl⟩, rfl⟩
  apply allows_bind.mpr
  apply (findByInstanceID_fails (by dsimp only; omega) hinserts.valid hcreatable.unused).mono
  rintro r u ⟨⟨e, rfl, htype⟩, rfl⟩
  rw [andThen_some]
  dsimp only
  rw [if_neg (not_not.mpr htype)]
  refine ⟨.ok _, _, limited_live (by dsimp only; omega) ⟨hadmits, hinserts⟩, ?_⟩
  have hcut : ends = 0 + imageCalls req + 1 + 1 ∨ ends = 0 + imageCalls req + 1 + 1 + 1 ∧
      Refuses srv admits .nodePool (buildClusterObject req id) w :=
    hends.imp (fun h => by omega) fun h => ⟨by omega, h.2⟩
  apply (createNodePool_leaves ⟨.other, none, ""⟩ hinserts hcut).mono
  rintro r u ⟨herror, hleft⟩
  refine ⟨herror, fun hnothing => hinserts.fresh ?_⟩
  exact List.mem_map_of_mem (hnothing .hostedCluster List.mem_cons_self hleft)

/-- A failed create leaves nothing behind: a cluster's exactly if the context does not end
between the creation of its HostedCluster and the end of the rollback, a container's always. -/
theorem failed_creates_iff (srv : Server) (admits : Kind → Manifest Body → Bool) (w : Cluster)
    (cfg : ClusterConfig) (req : ClusterSpec) (dec : Decoding) (spec : ContainerSpec) (id : String)
    (ends : ℕ) :
    (Ensures (Limited srv admits clusterBound ends) (createCluster cfg id req) ⟨w, 0⟩
        (CleanFailure [.hostedCluster, .nodePool] w) ↔
      ¬ LeftBehind srv admits w cfg id req ends) ∧
    Ensures (Limited srv admits containerBound ends) (K8sContainerStore.create dec spec id) ⟨w, 0⟩
      (CleanFailure [.deployment, .service] w) := by
  refine ⟨⟨?_, createCluster_clean⟩, create_clean dec id w⟩
  intro hclean hleft
  obtain ⟨r, u, hperforms, ⟨e, herror⟩, hremains⟩ := allows_iff.mp (createCluster_leaves hleft)
  exact hremains (ensures_iff.mp hclean r u hperforms e herror)

end

def exampleConfig : ClusterConfig := ⟨"example.com", [], "", ["kubevirt"]⟩

def exampleCluster : ClusterSpec :=
  ⟨"prod", "1.31", some ⟨none, none, some .kubevirt, some "registry/release:4.18.1"⟩⟩

def ended : ApiError := ⟨.other, none, "context canceled"⟩

/-- The context ends after the HostedCluster is created: the NodePool is not, and neither is
the HostedCluster deleted. -/
theorem ended_request_leaves_cluster :
    ∃ u, Performs (Limited (Server.strict fun _ => true) (fun _ _ => true) clusterBound 2)
        (createCluster exampleConfig "c1" exampleCluster) ⟨Store.empty, 0⟩
        (some (.error
          ⟨.internal, "failed to create node pool and rollback of hosted cluster failed"⟩)) u ∧
      u.store.objects .hostedCluster = [⟨"prod", clusterLabels "c1", ""⟩] ∧
      ¬ NothingLeft [.hostedCluster, .nodePool] Store.empty u.store := by
  have hfresh : "prod" ∉ (Store.empty : Cluster).names .hostedCluster := List.not_mem_nil
  have hstored : ((Store.empty : Cluster).insert .hostedCluster ⟨"prod", clusterLabels "c1", ""⟩
      hfresh).objects .hostedCluster = [⟨"prod", clusterLabels "c1", ""⟩] := objects_insert hfresh
  have hallows : Allows (Limited (Server.strict fun _ => true) (fun _ _ => true) clusterBound 2)
      (createCluster exampleConfig "c1" exampleCluster) ⟨Store.empty, 0⟩ fun r u =>
      r = some (.error
        ⟨.internal, "failed to create node pool and rollback of hosted cluster failed"⟩) ∧
      u = ⟨Store.empty.insert .hostedCluster ⟨"prod", clusterLabels "c1", ""⟩ hfresh, 4⟩ := by
    rw [createCluster, if_neg (by decide)]
    refine ⟨.ok [], _, limited_live (by decide) ⟨rfl, rfl, .refl _⟩,
      .ok ⟨"prod", clusterLabels "c1", ""⟩, _, limited_live (by decide)
        ⟨rfl, fun _ _ => rfl, rfl, rfl, rfl, hfresh, rfl⟩, ?_⟩
    exact ⟨.error ended, _, limited_dead ended rfl (le_refl 2),
      .error ended, _, limited_dead ended rfl (Nat.le_succ 2), rfl, rfl⟩
  obtain ⟨r, u, hperforms, rfl, rfl⟩ := allows_iff.mp hallows
  refine ⟨_, hperforms, hstored, ?_⟩
  intro hnothing
  have hmem := hnothing .hostedCluster List.mem_cons_self
  rw [hstored] at hmem
  exact List.not_mem_nil (hmem (List.mem_singleton_self _))

end CreateRollback
