import EnvironmentAgent.InstanceUniqueness

/-! # A request that is delivered again

After a lost acknowledgement the router hands an embedded handler the request it has handled
already. -/
namespace EmbeddedRedelivery

open AtomicPrograms SequentialPrograms ObjectStore RoutingEffects RoutingForwarder EmbeddedHandlers

abbrev Handling := Prog Kubernetes (Except SPError Unit)

variable {dec : Decoding} {srv : Server} {w v : Cluster} {p : Handling} {id : String}

abbrev Succeeded (r : Option (Except SPError Unit)) : Prop := r = some (.ok ())

def CanSucceed (srv : Server) (p : Handling) (w : Cluster) : Prop :=
  Allows (Reliable srv) p w fun r _ => Succeeded r

/-- Once it has succeeded, the request succeeds again and changes nothing. -/
def CreateRepeats (srv : Server) (p : Handling) (w : Cluster) : Prop :=
  Ensures (Reliable srv) p w fun r v => Succeeded r →
    Ensures (Reliable srv) p v fun r' u => Succeeded r' ∧ u = v

def DeleteRepeats (srv : Server) (p : Handling) (w : Cluster) : Prop :=
  Ensures (Reliable srv) p w fun r v => Succeeded r →
    Ensures (Reliable srv) p v fun r' _ => Succeeded r'

def CanFail (srv : Server) (p : Handling) (w : Cluster) : Prop :=
  Allows (Reliable srv) p w fun r _ => ∃ e, r = some (.error e)

theorem CanFail.not_ensures (h : CanFail srv p w) :
    ¬ Ensures (Reliable srv) p w fun r _ => Succeeded r := by
  intro hensures
  obtain ⟨r, u, hp, e, he⟩ := allows_iff.mp h
  have hr := ensures_iff.mp hensures r u hp
  rw [he] at hr
  cases hr

theorem createRepeats_iff
    (h : Ensures (Reliable srv) p w fun r v => Succeeded r → CanFail srv p v) :
    CreateRepeats srv p w ↔ ¬ CanSucceed srv p w := by
  constructor
  · intro hrepeats hcan
    obtain ⟨r, v, hp, hr⟩ := allows_iff.mp hcan
    have hagain := ensures_iff.mp hrepeats r v hp hr
    exact (ensures_iff.mp h r v hp hr).not_ensures (hagain.mono fun _ _ h => h.1)
  · intro hnever
    apply ensures_iff.mpr
    intro r v hp hr
    exact absurd (allows_iff.mpr ⟨r, v, hp, hr⟩) hnever

theorem not_deleteRepeats
    (hfirst : Allows (Reliable srv) p w fun r u => Succeeded r ∧ u = v) (hfail : CanFail srv p v) :
    ¬ DeleteRepeats srv p w := by
  intro hrepeats
  obtain ⟨r, u, hp, hr, hu⟩ := allows_iff.mp hfirst
  subst hu
  exact hfail.not_ensures (ensures_iff.mp hrepeats r u hp hr)

theorem vmSelector_holds : (vmSelector id).holds (vmSpecToVirtualMachine id).labels = true := by
  have hid : (vmSpecToVirtualMachine id).labels.lookup labelInstanceID = some id := rfl
  simp [vmSelector, Selector.holds, hid]

section Lookup

variable {Q : Option (Except ApiError (Object Body)) → Cluster → Prop}

theorem ensures_getVirtualMachine
    (hnone : matching srv w .virtualMachine (vmSelector id) = [] → ∀ e, Q (some (.error e)) w)
    (hsome : ∀ o ∈ matching srv w .virtualMachine (vmSelector id), Q (some (.ok o)) w) :
    Ensures (Reliable srv) (getVirtualMachine id) w Q := by
  apply ensures_list
  intro items _ hperm
  cases items with
  | nil => exact hnone hperm.nil_eq.symm _
  | cons o rest => exact hsome o (hperm.subset List.mem_cons_self)

theorem allows_getVirtualMachine {o : Object Body} {rest : List (Object Body)}
    (hfound : matching srv w .virtualMachine (vmSelector id) = o :: rest)
    (h : Q (some (.ok o)) w) : Allows (Reliable srv) (getVirtualMachine id) w Q := by
  have hread : (srv.reads (vmSelector id)).isSome :=
    reads_of_matching (hfound ▸ List.mem_cons_self)
  apply allows_list hread
  rw [hfound]
  exact h

theorem allows_getVirtualMachine_none (hread : (srv.reads (vmSelector id)).isSome)
    (hnone : matching srv w .virtualMachine (vmSelector id) = [])
    (h : ∀ e, Q (some (.error e)) w) : Allows (Reliable srv) (getVirtualMachine id) w Q := by
  apply allows_list hread
  rw [hnone]
  exact h _

end Lookup

theorem vmCreate_found (req : CreateResourceRequest) :
    Ensures (Reliable srv) (VMHandler.createResource dec req) w fun r v => Succeeded r →
      (∃ spec, parseVMSpec dec req.spec = .ok spec) ∧
        matching srv v .virtualMachine (vmSelector req.resourceID) ≠ [] := by
  rw [VMHandler.createResource]
  split
  · intro hr
    cases hr
  case h_2 spec hspec =>
    apply ensures_bind.mpr
    apply ensures_getVirtualMachine
    · intro _ e
      apply ensures_bind.mpr
      apply ensures_create
      intro o v hinserts _
      have hmem := matching_insert hinserts (by simp [vmSelector, vmSpecToVirtualMachine])
        vmSelector_holds
      exact ⟨⟨spec, hspec⟩, List.ne_nil_of_mem hmem⟩
    · intro o _ hr
      cases hr

theorem vmCreate_conflict (req : CreateResourceRequest) {spec : VMSpec}
    (hspec : parseVMSpec dec req.spec = .ok spec)
    (hfound : matching srv w .virtualMachine (vmSelector req.resourceID) ≠ []) :
    CanFail srv (VMHandler.createResource dec req) w := by
  obtain ⟨vm, rest, hitems⟩ := List.exists_cons_of_ne_nil hfound
  rw [CanFail, VMHandler.createResource, hspec]
  apply allows_bind.mpr
  exact allows_getVirtualMachine hitems ⟨_, rfl⟩

theorem vmCreate_repeats_iff (req : CreateResourceRequest) :
    CreateRepeats srv (VMHandler.createResource dec req) w ↔
      ¬ CanSucceed srv (VMHandler.createResource dec req) w := by
  apply createRepeats_iff
  apply (vmCreate_found req).mono
  intro r v h hr
  obtain ⟨⟨spec, hspec⟩, hfound⟩ := h hr
  exact vmCreate_conflict req hspec hfound

theorem vmDelete_ensures (req : DeleteResourceRequest)
    {Q : Option (Except SPError Unit) → Cluster → Prop}
    (hnone : matching srv w .virtualMachine (vmSelector req.resourceID) = [] →
      ∀ e, Q (some (.error e)) w)
    (hsome : ∀ o ∈ matching srv w .virtualMachine (vmSelector req.resourceID), ∀ v,
      v = w ∨ v = w.remove .virtualMachine o.name → Q (some (.ok ())) v) :
    Ensures (Reliable srv) (VMHandler.deleteResource req) w Q := by
  apply ensures_bind.mpr
  apply ensures_bind.mpr
  apply ensures_getVirtualMachine
  · intro hnil e
    exact hnone hnil _
  · intro o ho
    apply ensures_delete
    intro v hv
    exact hsome o ho v hv

theorem vmDelete_missing (req : DeleteResourceRequest)
    (hread : (srv.reads (vmSelector req.resourceID)).isSome)
    (hnone : matching srv w .virtualMachine (vmSelector req.resourceID) = []) :
    CanFail srv (VMHandler.deleteResource req) w := by
  apply allows_bind.mpr
  apply allows_bind.mpr
  apply allows_getVirtualMachine_none hread hnone
  intro e
  exact ⟨_, rfl⟩

theorem vmDelete_allows (req : DeleteResourceRequest) {o : Object Body}
    (hone : matching srv w .virtualMachine (vmSelector req.resourceID) = [o]) :
    Allows (Reliable srv) (VMHandler.deleteResource req) w fun r v =>
      Succeeded r ∧ v = w.remove .virtualMachine o.name := by
  have hname : o.name ∈ w.names .virtualMachine := names_of_matching (hone ▸ List.mem_cons_self)
  apply allows_bind.mpr
  apply allows_bind.mpr
  apply allows_getVirtualMachine hone
  exact allows_delete hname (Or.inr rfl) ⟨rfl, rfl⟩

theorem vmDelete_repeats_iff (req : DeleteResourceRequest) :
    DeleteRepeats srv (VMHandler.deleteResource req) w ↔
      (matching srv w .virtualMachine (vmSelector req.resourceID)).length ≠ 1 := by
  constructor
  · intro hrepeats hone
    obtain ⟨o, ho⟩ := List.length_eq_one_iff.mp hone
    have hread : (srv.reads (vmSelector req.resourceID)).isSome :=
      reads_of_matching (ho ▸ List.mem_cons_self)
    have hmissing := vmDelete_missing req hread (matching_remove_eq_nil ho)
    exact not_deleteRepeats (vmDelete_allows req ho) hmissing hrepeats
  · intro hne
    apply vmDelete_ensures
    · intro _ e hr
      cases hr
    · intro o ho v hv _
      apply vmDelete_ensures
      · intro hnil
        rcases hv with rfl | rfl
        · rw [hnil] at ho
          cases ho
        · exact absurd hnil (matching_remove_ne_nil ho hne o.name)
      · intro _ _ _ _
        rfl

theorem instanceSelector_holds (user : Labels) :
    (instanceSelector id).holds (mergeLabels (dcmLabels id) user) = true := by
  have hid : (mergeLabels (dcmLabels id) user).lookup labelInstanceID = some id := rfl
  have hmanaged : (mergeLabels (dcmLabels id) user).lookup labelManagedBy =
    some valueManagedByDCM := rfl
  simp [instanceSelector, Selector.holds, hid, hmanaged]

theorem instanceSelector_subset (user : Labels) :
    ∀ r ∈ instanceSelector id, r ∈ mergeLabels (dcmLabels id) user := by
  simp [instanceSelector, mergeLabels, dcmLabels]

theorem exposeDeployment_ensures {Q : Option (Except StoreError Unit) → Cluster → Prop}
    (spec : ContainerSpec) (labels : Labels) (deploy : Object Body)
    (h : ∀ r v, v.objects .deployment = w.objects .deployment → Q r v) :
    Ensures (Reliable srv) (K8sContainerStore.exposeDeployment spec labels deploy) w Q := by
  rw [K8sContainerStore.exposeDeployment]
  split
  · exact h _ _ rfl
  · apply ensures_create
    intro o v hinserts
    apply h
    rw [hinserts.stored, objects_insert_of_ne hinserts.fresh (by decide)]

theorem containerStoreCreate_found (spec : ContainerSpec) :
    Ensures (Reliable srv) (K8sContainerStore.create dec spec id) w fun r v =>
      r = some (.ok ()) → matching srv v .deployment (instanceSelector id) ≠ [] := by
  apply ensures_list
  intro items _ _
  cases items with
  | cons deploy rest =>
    intro hr
    cases hr
  | nil =>
    dsimp only
    split
    · intro hr
      cases hr
    case h_2 deploy hbuild =>
      apply ensures_create
      intro o v hinserts
      have hlabels := InstanceUniqueness.buildDeployment_labels hbuild
      have hmem := matching_insert (s := instanceSelector id) hinserts
        (hlabels ▸ instanceSelector_subset _) (hlabels ▸ instanceSelector_holds _)
      apply exposeDeployment_ensures
      intro r u hu _
      rw [matching_congr hu]
      exact List.ne_nil_of_mem hmem

theorem containerCreate_found (req : CreateResourceRequest) :
    Ensures (Reliable srv) (ContainerHandler.createResource dec req) w fun r v => Succeeded r →
      (∃ spec, parseContainerSpec dec req.spec = .ok spec ∧
        validateCreate dec req.resourceID spec = .ok ()) ∧
        matching srv v .deployment (instanceSelector req.resourceID) ≠ [] := by
  rw [ContainerHandler.createResource]
  split
  · intro hr
    cases hr
  case h_2 spec hspec =>
    split
    · intro hr
      cases hr
    case h_2 hvalid =>
      apply ensures_bind.mpr
      apply (containerStoreCreate_found spec).mono
      intro r v hfound
      cases r with
      | none => intro hr; cases hr
      | some r =>
        cases r with
        | error e => intro hr; cases hr
        | ok _ => exact fun _ => ⟨⟨spec, hspec, hvalid⟩, hfound rfl⟩

theorem containerCreate_conflict (req : CreateResourceRequest) {spec : ContainerSpec}
    (hspec : parseContainerSpec dec req.spec = .ok spec)
    (hvalid : validateCreate dec req.resourceID spec = .ok ())
    (hfound : matching srv w .deployment (instanceSelector req.resourceID) ≠ []) :
    CanFail srv (ContainerHandler.createResource dec req) w := by
  obtain ⟨deploy, rest, hitems⟩ := List.exists_cons_of_ne_nil hfound
  have hread : (srv.reads (instanceSelector req.resourceID)).isSome :=
    reads_of_matching (hitems ▸ List.mem_cons_self)
  simp only [CanFail, ContainerHandler.createResource, hspec, hvalid]
  apply allows_bind.mpr
  apply allows_list hread
  rw [hitems]
  exact ⟨_, rfl⟩

theorem containerCreate_repeats_iff (req : CreateResourceRequest) :
    CreateRepeats srv (ContainerHandler.createResource dec req) w ↔
      ¬ CanSucceed srv (ContainerHandler.createResource dec req) w := by
  apply createRepeats_iff
  apply (containerCreate_found req).mono
  intro r v h hr
  obtain ⟨⟨spec, hspec, hvalid⟩, hfound⟩ := h hr
  exact containerCreate_conflict req hspec hvalid hfound

section Lookup

variable {Q : Option (Except StoreError (Object Body)) → Cluster → Prop}

theorem ensures_findDeployment (herror : ∀ e, Q (some (.error e)) w)
    (hone : ∀ deploy, matching srv w .deployment (instanceSelector id) = [deploy] →
      Q (some (.ok deploy)) w) :
    Ensures (Reliable srv) (K8sContainerStore.findDeployment id) w Q := by
  apply ensures_list
  intro items _ hperm
  rcases items with _ | ⟨deploy, _ | ⟨second, rest⟩⟩
  · exact herror _
  · exact hone deploy (List.perm_singleton.mp hperm.symm)
  · exact herror _

theorem allows_findDeployment {deploy : Object Body}
    (hone : matching srv w .deployment (instanceSelector id) = [deploy])
    (h : Q (some (.ok deploy)) w) :
    Allows (Reliable srv) (K8sContainerStore.findDeployment id) w Q := by
  have hread : (srv.reads (instanceSelector id)).isSome :=
    reads_of_matching (hone ▸ List.mem_cons_self)
  apply allows_list hread
  rw [hone]
  exact h

theorem allows_findDeployment_none (hread : (srv.reads (instanceSelector id)).isSome)
    (hnone : matching srv w .deployment (instanceSelector id) = [])
    (h : ∀ e, Q (some (.error e)) w) :
    Allows (Reliable srv) (K8sContainerStore.findDeployment id) w Q := by
  apply allows_list hread
  rw [hnone]
  exact h _

end Lookup

theorem containerDelete_found (req : DeleteResourceRequest) :
    Ensures (Reliable srv) (ContainerHandler.deleteResource req) w fun r _ => Succeeded r →
      (matching srv w .deployment (instanceSelector req.resourceID)).length = 1 := by
  by_cases hlen : (matching srv w .deployment (instanceSelector req.resourceID)).length = 1
  · exact ensures_iff.mpr fun _ _ _ _ => hlen
  apply ensures_bind.mpr
  apply ensures_bind.mpr
  apply ensures_findDeployment
  · intro e hr
    cases hr
  · intro deploy hone
    rw [hone] at hlen
    exact absurd rfl hlen

theorem containerDelete_missing (req : DeleteResourceRequest)
    (hread : (srv.reads (instanceSelector req.resourceID)).isSome)
    (hnone : matching srv w .deployment (instanceSelector req.resourceID) = []) :
    CanFail srv (ContainerHandler.deleteResource req) w := by
  apply allows_bind.mpr
  apply allows_bind.mpr
  apply allows_findDeployment_none hread hnone
  intro e
  exact ⟨_, rfl⟩

theorem allows_deleteServices {svcs : List (Object Body)}
    (h : ∀ svc ∈ svcs, svc.name ∈ w.names .service) :
    Allows (Reliable srv) (K8sContainerStore.deleteServices svcs) w fun r u =>
      r = some (.ok ()) ∧ u = w := by
  induction svcs with
  | nil => exact ⟨rfl, rfl⟩
  | cons svc rest ih =>
    apply allows_delete (h svc List.mem_cons_self) (Or.inl rfl)
    exact ih fun other hother => h other (List.mem_cons_of_mem svc hother)

theorem containerDelete_allows (req : DeleteResourceRequest) {deploy : Object Body}
    (hone : matching srv w .deployment (instanceSelector req.resourceID) = [deploy]) :
    Allows (Reliable srv) (ContainerHandler.deleteResource req) w fun r v =>
      Succeeded r ∧ v = w.remove .deployment deploy.name := by
  have hread : (srv.reads (instanceSelector req.resourceID)).isSome :=
    reads_of_matching (hone ▸ List.mem_cons_self)
  have hname : deploy.name ∈ w.names .deployment := names_of_matching (hone ▸ List.mem_cons_self)
  apply allows_bind.mpr
  apply allows_bind.mpr
  apply allows_findDeployment hone
  apply allows_list hread
  apply allows_bind.mpr
  apply (allows_deleteServices fun svc hsvc => names_of_matching hsvc).mono
  intro r u hboth
  obtain ⟨hr, hu⟩ := hboth
  subst hr hu
  exact allows_delete hname (Or.inr rfl) ⟨rfl, rfl⟩

theorem containerDelete_repeats_iff (req : DeleteResourceRequest) :
    DeleteRepeats srv (ContainerHandler.deleteResource req) w ↔
      (matching srv w .deployment (instanceSelector req.resourceID)).length ≠ 1 := by
  constructor
  · intro hrepeats hone
    obtain ⟨deploy, hdeploy⟩ := List.length_eq_one_iff.mp hone
    have hread : (srv.reads (instanceSelector req.resourceID)).isSome :=
      reads_of_matching (hdeploy ▸ List.mem_cons_self)
    have hmissing := containerDelete_missing req hread (matching_remove_eq_nil hdeploy)
    exact not_deleteRepeats (containerDelete_allows req hdeploy) hmissing hrepeats
  · intro hne
    apply (containerDelete_found req).mono
    intro r v hfound hr
    exact absurd (hfound hr) hne

open InstanceUniqueness

def deleteVM : DeleteResourceRequest := ⟨"a", "vm", "e2"⟩

def duplicateError : SPError := .response 409 "VM with instance ID a already exists"

def missingError : SPError := .response 404 "virtualmachines.kubevirt.io \"a\" not found"

end EmbeddedRedelivery
