import EnvironmentAgent.EmbeddedHandlers
import EnvironmentAgent.VmMapper

/-! # The memory of a VirtualMachine

What the embedded VM handler makes of a memory size, over every execution of its create. -/
namespace VmMemory

open AtomicPrograms SequentialPrograms ObjectStore RoutingCloudEvent RoutingEffects
open EmbeddedHandlers (Kind Decoding specJSON vmSelector newNotFound mapKubeVirtError
  ApiError.wrap labelManagedBy labelInstanceID valueManagedByDCM)
open DecimalText Quantities VmMapper

structure VMDecoding extends Decoding where
  fullSpec : JsonValue → Except String VMSpec
  agrees : ∀ v, vmSpec v = (fullSpec v).map fun spec => ⟨spec.metadataName⟩

abbrev VMAPI : Signature := api Kind VirtualMachine

variable (lib : Library) (dec : VMDecoding)

def parseVMSpec (raw : Option JsonValue) : Except String VMSpec := do
  let payload ← specJSON dec.toDecoding raw
  match dec.fullSpec payload with
  | .error e => throw ("invalid VM spec: " ++ e)
  | .ok spec =>
    if spec.metadataName = "" then throw "spec.metadata.name is required"
    return spec

def getVirtualMachine (vmID : String) : Prog VMAPI (Except ApiError (Object VirtualMachine)) := do
  match ← list .virtualMachine (vmSelector vmID) with
  | .error e => return .error (ApiError.wrap e "failed to get VirtualMachine by dcmlabelinstanceid")
  | .ok [] => return .error (newNotFound "virtualmachines.kubevirt.io" vmID)
  | .ok (item :: _) => return .ok item

def createVirtualMachine (vm : Manifest VirtualMachine) :
    Prog VMAPI (Except ApiError (Object VirtualMachine)) := do
  match ← create .virtualMachine vm with
  | .error e => return .error (ApiError.wrap e "failed to create VirtualMachine")
  | .ok result => return .ok result

def vmManifest (vmID : String) (vm : VirtualMachine) : Manifest VirtualMachine where
  name := .generate "dcm-"
  labels := [(labelManagedBy, valueManagedByDCM), (labelInstanceID, vmID)]
  body := vm

def storeVirtualMachine (vmID : String) (vm : VirtualMachine) :
    Prog VMAPI (Except SPError Unit) := do
  match ← createVirtualMachine (vmManifest vmID vm) with
  | .error e => return .error (mapKubeVirtError e)
  | .ok _ => return .ok ()

def createResource (req : CreateResourceRequest) : Prog VMAPI (Except SPError Unit) :=
  match parseVMSpec dec req.spec with
  | .error e => return .error (.response 400 e)
  | .ok spec => do
    match ← getVirtualMachine req.resourceID with
    | .ok _ =>
      return .error (.response 409 ("VM with instance ID " ++ req.resourceID ++ " already exists"))
    | .error _ =>
      match vmSpecToVirtualMachine lib spec with
      | none => .raise
      | some vm => storeVirtualMachine req.resourceID vm

section

variable {lib dec}

end

def sizeText (spec : VMSpec) : Text := (RetryAfter.trimSpace spec.memorySize).toList

def BareInteger (t : Text) (n : ℤ) : Prop :=
  IsNumber (splitSign t).2 ∧ signed (splitSign t).1 (natOf (splitSign t).2) = n

def Suffixed (t : Text) (q : Quantity) : Prop :=
  '.' ∉ t ∧ parseQuantity t = .ok q ∧ ∀ n, ¬ BareInteger t n

structure AsAsked (t : Text) (m : Option Quantity) : Prop where
  present : m.isSome
  megabytes : ∀ n, BareInteger t n → 0 < n → ∃ q, m = some q ∧ q.nanos = n * 2 ^ 20 * 10 ^ 9
  quantity : ∀ q, Suffixed t q → ∃ q', m = some q' ∧ q'.nanos = q.nanos

def Reprints (q : Quantity) : Prop := ∃ q', parseQuantity q.string = .ok q' ∧ q'.nanos = q.nanos

structure Supported (spec : VMSpec) : Prop where
  noInteger : ∀ n, BareInteger (sizeText spec) n → n ≤ 0
  parses : ∃ t, parseMemorySize lib spec.memorySize = .ok t
  reprints : ∀ q, Suffixed (sizeText spec) q → Reprints q

variable {q : Quantity}

section

variable {lib dec} {spec : VMSpec} {requests : Requests}

theorem reprints_of_kept {t : Text} (h : parseQuantity t = .ok q) (hkept : q.text ≠ [] ∨ Lossless q)
    : Reprints q := by
  obtain ⟨q', hq', hsame⟩ := parseQuantity_string h
  by_cases htext : q.text = []
  · rw [Quantity.string, if_pos htext] at hq'
    refine ⟨q', by rwa [Quantity.string, if_pos htext], ?_⟩
    exact parseQuantity_canonicalize hq' (inRange_of_parseQuantity h)
      (hkept.resolve_left (not_not.mpr htext))
  · exact ⟨q', hq', by rw [hsame htext]⟩

theorem number_reprinted_le {t : Text} {n : ℤ} {q' : Quantity} (h : BareInteger t n)
    (hq : parseQuantity t = .ok q) (hq' : parseQuantity q.string = .ok q') :
    q'.nanos.natAbs ≤ n.natAbs * 10 ^ 9 := by
  obtain ⟨q₁, hq₁, hvalue⟩ := parseQuantity_number h.1
  rw [hq] at hq₁
  cases hq₁
  have hnanos : q.nanos.natAbs = n.natAbs * 10 ^ 9 := by
    rw [hvalue, h.2, Int.natAbs_mul]
    rfl
  rw [← hnanos]
  obtain ⟨q₂, hq₂, hsame⟩ := parseQuantity_string hq
  rw [hq'] at hq₂
  cases hq₂
  by_cases htext : q.text = []
  · by_cases hzero : q.nanos = 0
    · rw [Quantity.string, if_pos htext, canonicalize, if_pos hzero] at hq'
      cases hq'
      exact Nat.zero_le _
    · have hformat : q.format = .decimalSI := by
        refine (format_of_number h.1 hq).resolve_left ?_
        rw [htext]
        rintro rfl
        exact h.1.1 rfl
      obtain ⟨q₃, hq₃, hle⟩ := parseQuantity_canonicalize_le hzero hformat
      rw [Quantity.string, if_pos htext, hq₃] at hq'
      cases hq'
      exact hle
  · rw [hsame htext]

theorem parseMemorySize_of_quantity (h : parseQuantity (sizeText spec) = .ok q) :
    parseMemorySize lib spec.memorySize = .ok q.string := by
  unfold parseMemorySize
  dsimp only
  rw [show (RetryAfter.trimSpace spec.memorySize).toList = sizeText spec from rfl, h]

theorem buildResources_memory (h : buildResources lib spec = some requests) :
    requests.memory =
      match parseMemorySize lib spec.memorySize with
      | .error _ => none
      | .ok t => mustParse t := by
  obtain ⟨cpu, _, h⟩ := Option.bind_eq_some_iff.mp h
  cases hsize : parseMemorySize lib spec.memorySize with
  | error e =>
    rw [hsize] at h
    cases h
    rfl
  | ok t =>
    rw [hsize] at h
    obtain ⟨memory, hmemory, h⟩ := Option.bind_eq_some_iff.mp h
    cases h
    exact hmemory.symm

theorem memory_of_quantity (h : buildResources lib spec = some requests)
    (hq : parseQuantity (sizeText spec) = .ok q) :
    ∃ q', requests.memory = some q' ∧ parseQuantity q.string = .ok q' := by
  obtain ⟨q', hq', _⟩ := parseQuantity_string hq
  refine ⟨q', ?_, hq'⟩
  rw [buildResources_memory h, parseMemorySize_of_quantity hq]
  dsimp only
  rw [mustParse, hq']
  rfl

theorem asAsked_iff_supported (h : buildResources lib spec = some requests) :
    AsAsked (sizeText spec) requests.memory ↔ Supported lib spec := by
  constructor
  · intro hasked
    constructor
    · intro n hn
      by_contra hpos
      obtain ⟨q, hq, _⟩ := parseQuantity_number hn.1
      obtain ⟨q', hmemory, hq'⟩ := memory_of_quantity h hq
      obtain ⟨_, hsome, hvalue⟩ := hasked.megabytes n hn (by omega)
      rw [hmemory] at hsome
      cases hsome
      -- a number of bytes is requested, and not of megabytes
      have hle := number_reprinted_le hn hq hq'
      omega
    · have hpresent := hasked.present
      rw [buildResources_memory h] at hpresent
      cases hsize : parseMemorySize lib spec.memorySize with
      | error e =>
        rw [hsize] at hpresent
        cases hpresent
      | ok t => exact ⟨t, rfl⟩
    · intro q hq
      obtain ⟨q', hmemory, hq'⟩ := memory_of_quantity h hq.2.1
      obtain ⟨_, hsome, hvalue⟩ := hasked.quantity q hq
      rw [hmemory] at hsome
      cases hsome
      exact ⟨q', hq', hvalue⟩
  · intro hsupported
    constructor
    · obtain ⟨t, ht⟩ := hsupported.parses
      rw [buildResources_memory h, ht]
      exact mustParse_parseMemorySize lib ht
    · intro n hn hpos
      exact absurd (hsupported.noInteger n hn) (by omega)
    · intro q hq
      obtain ⟨q', hmemory, hq'⟩ := memory_of_quantity h hq.2.1
      obtain ⟨q₁, hq₁, hvalue⟩ := hsupported.reprints q hq
      rw [hq'] at hq₁
      cases hq₁
      exact ⟨q', hmemory, hvalue⟩

def memoryOf (vm : VirtualMachine) : Option Quantity := vm.template.bind (·.requests.memory)

/-- A VirtualMachine that is new requests what was asked for, and a size that cannot be parsed is
turned down. -/
structure Honoured (lib : Library) (spec : VMSpec) (w : Store Kind VirtualMachine)
    (r : Option (Except SPError Unit)) (u : Store Kind VirtualMachine) : Prop where
  created : ∀ o ∈ u.objects .virtualMachine, o ∉ w.objects .virtualMachine →
    AsAsked (sizeText spec) (memoryOf o.body)
  rejected : (∀ t, parseMemorySize lib spec.memorySize ≠ .ok t) →
    (∃ e, r = some (.error e)) ∧ u.objects .virtualMachine = w.objects .virtualMachine

variable {srv : Server} {w : Store Kind VirtualMachine} {req : CreateResourceRequest}

theorem getVirtualMachine_keeps (vmID : String) :
    Ensures (Served srv) (getVirtualMachine vmID) w fun r u => u = w ∧ ∃ a, r = some a := by
  intro x v hx
  rw [served_list hx]
  match x with
  | .error e => exact ⟨rfl, _, rfl⟩
  | .ok [] => exact ⟨rfl, _, rfl⟩
  | .ok (item :: items) => exact ⟨rfl, _, rfl⟩

theorem storeVirtualMachine_adds (vmID : String) (vm : VirtualMachine) :
    Ensures (Served srv) (storeVirtualMachine vmID vm) w fun _ u =>
      ∀ o ∈ u.objects .virtualMachine, o ∉ w.objects .virtualMachine → o.body = vm := by
  intro x v hx
  have hadds : ∀ o ∈ v.objects .virtualMachine, o ∉ w.objects .virtualMachine → o.body = vm := by
    intro o ho hnot
    rcases served_create hx with rfl | ⟨created, hinserts⟩
    · exact absurd ho hnot
    · rw [hinserts.stored, objects_insert, List.mem_append, List.mem_singleton] at ho
      rw [ho.resolve_left hnot]
      exact hinserts.body
  cases x with
  | error e => exact hadds
  | ok o => exact hadds

theorem createResource_adds (haccepted : parseVMSpec dec req.spec = .ok spec)
    (hrequests : buildResources lib spec = some requests) :
    Ensures (Served srv) (createResource lib dec req) w fun _ u =>
      ∀ o ∈ u.objects .virtualMachine, o ∉ w.objects .virtualMachine →
        memoryOf o.body = requests.memory := by
  obtain ⟨requests', hrequests', hvm⟩ := vmSpecToVirtualMachine_eq lib spec
  rw [hrequests] at hrequests'
  cases hrequests'
  unfold createResource
  rw [haccepted]
  apply ensures_bind.mpr
  refine (getVirtualMachine_keeps req.resourceID).mono ?_
  rintro _ _ ⟨rfl, found, rfl⟩
  cases found with
  | ok item => exact fun o ho hnot => absurd ho hnot
  | error e =>
    dsimp only [andThen_some]
    rw [hvm]
    refine (storeVirtualMachine_adds req.resourceID _).mono ?_
    intro _ u hadds o ho hnot
    rw [hadds o ho hnot]
    rfl

def openServer : Server := .strict fun _ => true

theorem exists_created (lib : Library) (haccepted : parseVMSpec dec req.spec = .ok spec) :
    ∃ u o, Performs (Served openServer) (createResource lib dec req) .empty (some (.ok ())) u ∧
      o ∈ u.objects .virtualMachine := by
  obtain ⟨requests, _, hvm⟩ := vmSpecToVirtualMachine_eq lib spec
  generalize VirtualMachine.mk _ = vm at hvm
  let o : Object VirtualMachine := ⟨"dcm-1", (vmManifest req.resourceID vm).labels, vm⟩
  have hfresh : o.name ∉ (Store.empty : Store Kind VirtualMachine).names .virtualMachine :=
    List.not_mem_nil
  have hinserts : Inserts openServer Kind.virtualMachine (vmManifest req.resourceID vm) .empty o
      (Store.empty.insert .virtualMachine o hfresh) :=
    ⟨fun _ _ => rfl, ⟨"1", rfl⟩, rfl, rfl, hfresh, rfl⟩
  have hallows : Allows (Served openServer) (createResource lib dec req) .empty
      fun r u => r = some (.ok ()) ∧ o ∈ u.objects .virtualMachine := by
    unfold createResource
    rw [haccepted]
    refine allows_bind.mpr ⟨.ok [], .empty, ⟨rfl, rfl, .nil⟩, ?_⟩
    change Allows _ (match vmSpecToVirtualMachine lib spec with
      | none => .raise
      | some vm => storeVirtualMachine req.resourceID vm) _ _
    rw [hvm]
    exact ⟨.ok o, _, hinserts, rfl, hinserts.mem⟩
  obtain ⟨_, u, hp, rfl, ho⟩ := allows_iff.mp hallows
  exact ⟨u, o, hp, ho⟩

def plainSpec (memorySize : String) : VMSpec := ⟨"vm", 2, memorySize, "fedora", ["boot"]⟩

def plainDecoding (memorySize : String) : VMDecoding where
  wrapper _ := .ok none
  vmSpec _ := .ok ⟨"vm"⟩
  containerSpec _ := .error ""
  cluster _ := .error ""
  quantity _ := .error ""
  fullSpec _ := .ok (plainSpec memorySize)
  agrees _ := rfl

def plainRequest : CreateResourceRequest := ⟨"a", "vm", some .null, "e1"⟩

theorem supported_4Gi : Supported plainLibrary (plainSpec "4Gi") := by
  have hsize : sizeText (plainSpec "4Gi") = "4Gi".toList := by decide +kernel
  constructor
  · intro n hn
    exact absurd hn.1 (by decide +kernel)
  · exact ⟨"4Gi".toList, by decide +kernel⟩
  · intro q hq
    have hparse : parseQuantity "4Gi".toList = .ok ⟨2 ^ 32 * 10 ^ 9, .binarySI, "4Gi".toList⟩ := by
      decide +kernel
    have hread := hq.2.1
    rw [hsize, hparse] at hread
    cases hread
    exact reprints_of_kept hparse (Or.inl (by decide))

theorem exists_requesting {memorySize : String}
    (h : buildResources plainLibrary (plainSpec memorySize) = some requests) :
    ∃ u o, Performs (Served openServer)
        (createResource plainLibrary (plainDecoding memorySize) plainRequest) .empty
        (some (.ok ())) u ∧
      o ∈ u.objects .virtualMachine ∧ memoryOf o.body = requests.memory := by
  have haccepted : parseVMSpec (plainDecoding memorySize) plainRequest.spec =
      .ok (plainSpec memorySize) := rfl
  obtain ⟨u, o, hp, ho⟩ := exists_created plainLibrary haccepted
  exact ⟨u, o, hp, ho, ensures_iff.mp (createResource_adds haccepted h) _ _ hp o ho
    List.not_mem_nil⟩

def twoCores (memory : Option Quantity) : Requests := ⟨some ⟨2 * 10 ^ 9, .decimalSI, ['2']⟩, memory⟩

end

end VmMemory
