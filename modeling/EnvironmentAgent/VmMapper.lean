import EnvironmentAgent.MemorySizes
import EnvironmentAgent.RetryAfter

/-! # From a VM spec to a VirtualMachine and back

The mapper of `kubevirtvm/kubevirt`. A panic is `none`; of a VirtualMachine the parts are kept that
depend on the spec. -/
namespace VmMapper

open DecimalText Quantities

/-- What is left open of the Go library: the case of characters beyond ASCII, and the arithmetic of
floating-point numbers. -/
structure Library where
  lower : Char → Char
  upper : Char → Char
  lower_ascii : ∀ c, c.toNat < 128 → lower c = c.toLower
  upper_ascii : ∀ c, c.toNat < 128 → upper c = c.toUpper
  Float64 : Type
  parseFloat : Text → Option Float64
  /-- `int64(num * 1000 * 1000 * 1000 / (1024 * 1024 * 1024) * 1024 * 1024 * 1024)` -/
  gigabytes : Float64 → ℤ
  /-- `int64(num * 1000 * 1000 / (1024 * 1024) * 1024 * 1024)` -/
  megabytes : Float64 → ℤ

structure VMSpec where
  metadataName : String
  vcpuCount : ℤ
  memorySize : String
  guestOSType : String
  diskNames : List String
  deriving DecidableEq, Repr

structure Disk where
  name : String
  bootOrder : Option ℕ
  deriving DecidableEq, Repr

inductive VolumeSource where
  | containerDisk (image : String)
  | emptyDisk (capacity : Quantity)
  deriving DecidableEq, Repr

structure Volume where
  name : String
  source : VolumeSource
  deriving DecidableEq, Repr

structure Requests where
  cpu : Option Quantity
  memory : Option Quantity
  deriving DecidableEq, Repr

structure Template where
  disks : List Disk
  volumes : List Volume
  requests : Requests
  deriving DecidableEq, Repr

structure VirtualMachine where
  template : Option Template
  deriving DecidableEq, Repr

variable (lib : Library)

def toLower (s : String) : String := String.ofList (s.toList.map lib.lower)

def toUpper (s : Text) : Text := s.map lib.upper

def osImageUbuntu := "quay.io/containerdisks/ubuntu:latest"
def osImageCentosStream := "quay.io/containerdisks/centos-stream:latest"
def osImageFedora := "quay.io/containerdisks/fedora:latest"
def osImageDebian := "quay.io/containerdisks/debian:latest"
def osImageCirros := "quay.io/kubevirt/cirros-container-disk-demo:latest"

def osImages : List (String × String) :=
  [("ubuntu", osImageUbuntu), ("centos", osImageCentosStream),
    ("centos-stream", osImageCentosStream), ("fedora", osImageFedora), ("cirros", osImageCirros),
    ("debian", osImageDebian)]

def defaultOSImage := osImageCirros

def getContainerDiskImage (guestOSType : String) : String :=
  (osImages.lookup (toLower lib guestOSType)).getD defaultOSImage

def isBoot (i : ℕ) (name : String) : Bool := i == 0 || name == "boot"

def buildDisks (spec : VMSpec) : List Disk :=
  let disks := spec.diskNames.mapIdx fun i name =>
    (⟨name, if isBoot i name then some 1 else none⟩ : Disk)
  if disks.isEmpty then [⟨"boot", some 1⟩] else disks

def emptyDiskCapacity : Quantity := ⟨10 * 2 ^ 30 * 10 ^ 9, .binarySI, "10Gi".toList⟩

theorem parseQuantity_emptyDiskCapacity :
    parseQuantity "10Gi".toList = .ok emptyDiskCapacity := by
  decide +kernel

def buildVolumes (spec : VMSpec) : List Volume :=
  let image := getContainerDiskImage lib spec.guestOSType
  let volumes := spec.diskNames.mapIdx fun i name =>
    (⟨name, if isBoot i name then .containerDisk image else .emptyDisk emptyDiskCapacity⟩ : Volume)
  if volumes.isEmpty then [⟨"boot", .containerDisk image⟩] else volumes

def parseMemorySize (sizeStr : String) : Except String Text :=
  let sizeStr := RetryAfter.trimSpace sizeStr
  match parseQuantity sizeStr.toList with
  | .ok quantity => .ok quantity.string
  | .error _ =>
    let upperStr := toUpper lib sizeStr.toList
    match MemorySizes.cutSuffix upperStr ['G', 'B'] with
    | some numStr =>
      match lib.parseFloat numStr with
      | none => .error ("invalid GB value: " ++ String.ofList numStr)
      | some num => .ok (newQuantity (lib.gigabytes num) .binarySI).string
    | none =>
      match MemorySizes.cutSuffix upperStr ['M', 'B'] with
      | some numStr =>
        match lib.parseFloat numStr with
        | none => .error ("invalid MB value: " ++ String.ofList numStr)
        | some num => .ok (newQuantity (lib.megabytes num) .binarySI).string
      | none =>
        -- never a number here: that is a quantity already
        match parseInt sizeStr.toList with
        | some num => .ok (newQuantity ((num * 1024 * 1024).bmod (2 ^ 64)) .binarySI).string
        | none => .error ("unable to parse memory size: " ++ sizeStr)

def mustParse (t : Text) : Option Quantity := (parseQuantity t).toOption

def buildResources (spec : VMSpec) : Option Requests := do
  let cpu ← mustParse (intText spec.vcpuCount)
  match parseMemorySize lib spec.memorySize with
  | .error _ => return ⟨some cpu, none⟩
  | .ok memorySize =>
    let memory ← mustParse memorySize
    return ⟨some cpu, some memory⟩

def vmSpecToVirtualMachine (spec : VMSpec) : Option VirtualMachine := do
  let requests ← buildResources lib spec
  return ⟨some ⟨buildDisks spec, buildVolumes lib spec, requests⟩⟩

def containsText (s sub : String) : Bool := decide (sub.toList <:+: s.toList)

def guestOSOfLower (image : String) : String :=
  if containsText image "ubuntu" then "ubuntu"
  else if containsText image "centos" then "centos"
  else if containsText image "fedora" then "fedora"
  else if containsText image "cirros" then "cirros"
  else "cirros"

def inferGuestOSFromImage (image : String) : String := guestOSOfLower (toLower lib image)

def inferGuestOS (volumes : List Volume) : String :=
  match volumes with
  | ⟨_, .containerDisk image⟩ :: _ => inferGuestOSFromImage lib image
  | _ => "cirros"

def virtualMachineToVMSpec (vm : VirtualMachine) : VMSpec :=
  match vm.template with
  | none => ⟨"", 0, "", "", []⟩
  | some template =>
    { metadataName := ""
      vcpuCount := (template.requests.cpu.bind fun q => parseInt q.string).getD 0
      memorySize := (template.requests.memory.map fun q => String.ofList q.string).getD ""
      guestOSType := inferGuestOS lib template.volumes
      diskNames :=
        let names := template.disks.map Disk.name
        if names.isEmpty then ["boot"] else names }

theorem mustParse_intText (n : ℤ) : (mustParse (intText n)).isSome := by
  obtain ⟨q, hq, _⟩ := parseQuantity_intText n denotes_nil
  rw [List.append_nil] at hq
  rw [mustParse, hq]
  rfl

theorem mustParse_newQuantity (n : ℤ) (format : Format) :
    (mustParse (newQuantity n format).string).isSome := by
  have hstring : (newQuantity n format).string = canonicalize (newQuantity n format) := rfl
  obtain ⟨q, hq⟩ := canonicalize_readable (newQuantity n format)
  rw [hstring, mustParse, hq]
  rfl

theorem mustParse_parseMemorySize {size : String} {t : Text}
    (h : parseMemorySize lib size = .ok t) : (mustParse t).isSome := by
  unfold parseMemorySize at h
  dsimp only at h
  split at h
  · rename_i q hq
    cases h
    obtain ⟨q', hq', _⟩ := parseQuantity_string hq
    rw [mustParse, hq']
    rfl
  · split at h
    · split at h <;> cases h
      exact mustParse_newQuantity _ _
    · split at h
      · split at h <;> cases h
        exact mustParse_newQuantity _ _
      · split at h <;> cases h
        exact mustParse_newQuantity _ _

theorem buildResources_isSome (spec : VMSpec) : (buildResources lib spec).isSome := by
  obtain ⟨cpu, hcpu⟩ := Option.isSome_iff_exists.mp (mustParse_intText spec.vcpuCount)
  rw [buildResources, hcpu]
  cases hsize : parseMemorySize lib spec.memorySize with
  | error e => rfl
  | ok t =>
    obtain ⟨memory, hmemory⟩ := Option.isSome_iff_exists.mp (mustParse_parseMemorySize lib hsize)
    rw [Option.bind_eq_bind, Option.bind_some]
    dsimp only
    rw [hmemory]
    rfl

theorem vmSpecToVirtualMachine_eq (spec : VMSpec) :
    ∃ requests, buildResources lib spec = some requests ∧
      vmSpecToVirtualMachine lib spec =
        some ⟨some ⟨buildDisks spec, buildVolumes lib spec, requests⟩⟩ := by
  obtain ⟨requests, hrequests⟩ := Option.isSome_iff_exists.mp (buildResources_isSome lib spec)
  refine ⟨requests, hrequests, ?_⟩
  rw [vmSpecToVirtualMachine, hrequests]
  rfl

/-- Names agree, and one disk is booted from: the one with the image. -/
structure OneBoot (template : Template) (image : String) : Prop where
  names : template.volumes.map Volume.name = template.disks.map Disk.name
  boot : ∃ i < template.disks.length,
    (∀ (j : ℕ) (d : Disk), template.disks[j]? = some d →
      d.bootOrder = if j = i then some 1 else none) ∧
    (∀ (j : ℕ) (v : Volume), template.volumes[j]? = some v →
      if j = i then v.source = .containerDisk image else ∃ c, v.source = .emptyDisk c)

variable {requests : Requests}

section

variable {lib} {spec : VMSpec}

theorem buildDisks_of_ne_nil (h : spec.diskNames ≠ []) :
    buildDisks spec = spec.diskNames.mapIdx fun i name =>
      (⟨name, if isBoot i name then some 1 else none⟩ : Disk) := by
  rw [buildDisks, if_neg]
  rw [List.isEmpty_iff, List.mapIdx_eq_nil_iff]
  exact h

theorem buildVolumes_of_ne_nil (h : spec.diskNames ≠ []) :
    buildVolumes lib spec = spec.diskNames.mapIdx fun i name =>
      (⟨name, if isBoot i name then .containerDisk (getContainerDiskImage lib spec.guestOSType)
        else .emptyDisk emptyDiskCapacity⟩ : Volume) := by
  rw [buildVolumes, if_neg]
  rw [List.isEmpty_iff, List.mapIdx_eq_nil_iff]
  exact h

theorem buildDisks_getElem? (h : spec.diskNames ≠ []) (j : ℕ) :
    (buildDisks spec)[j]? = spec.diskNames[j]?.map fun name =>
      ⟨name, if isBoot j name then some 1 else none⟩ := by
  rw [buildDisks_of_ne_nil h, List.getElem?_mapIdx]

theorem buildVolumes_getElem? (h : spec.diskNames ≠ []) (j : ℕ) :
    (buildVolumes lib spec)[j]? = spec.diskNames[j]?.map fun name =>
      ⟨name, if isBoot j name then .containerDisk (getContainerDiskImage lib spec.guestOSType)
        else .emptyDisk emptyDiskCapacity⟩ := by
  rw [buildVolumes_of_ne_nil h, List.getElem?_mapIdx]

theorem buildVolumes_names : (buildVolumes lib spec).map Volume.name =
    (buildDisks spec).map Disk.name := by
  by_cases h : spec.diskNames = []
  · rw [buildVolumes, buildDisks, h]
    rfl
  · apply List.ext_getElem?
    intro j
    rw [List.getElem?_map, List.getElem?_map, buildVolumes_getElem? h, buildDisks_getElem? h,
      Option.map_map, Option.map_map]
    rfl

theorem isBoot_iff {name : String} {j : ℕ} (hname : spec.diskNames[j]? = some name)
    (hboot : "boot" ∉ spec.diskNames.tail) : isBoot j name = true ↔ j = 0 := by
  cases j with
  | zero => simp [isBoot]
  | succ j =>
    have hmem : name ∈ spec.diskNames.tail := by
      rw [← List.getElem?_tail] at hname
      exact List.mem_of_getElem? hname
    have hne : name ≠ "boot" := fun h => hboot (h ▸ hmem)
    simp [isBoot, hne]

theorem oneBoot_of_notMem (h : spec.diskNames ≠ []) (hboot : "boot" ∉ spec.diskNames.tail) :
    OneBoot ⟨buildDisks spec, buildVolumes lib spec, requests⟩
      (getContainerDiskImage lib spec.guestOSType) := by
  refine ⟨buildVolumes_names, 0, ?_, ?_, ?_⟩
  · rw [buildDisks_of_ne_nil h, List.length_mapIdx]
    exact List.length_pos_of_ne_nil h
  · intro j d hd
    rw [buildDisks_getElem? h] at hd
    obtain ⟨name, hname, rfl⟩ := Option.map_eq_some_iff.mp hd
    simp only [isBoot_iff hname hboot]
  · intro j v hv
    rw [buildVolumes_getElem? h] at hv
    obtain ⟨name, hname, rfl⟩ := Option.map_eq_some_iff.mp hv
    simp only [isBoot_iff hname hboot]
    split
    · rfl
    · exact ⟨_, rfl⟩

theorem oneBoot_of_nil (h : spec.diskNames = []) :
    OneBoot ⟨buildDisks spec, buildVolumes lib spec, requests⟩
      (getContainerDiskImage lib spec.guestOSType) := by
  have hdisks : buildDisks spec = [⟨"boot", some 1⟩] := by
    rw [buildDisks, h]
    rfl
  have hvolumes : buildVolumes lib spec =
      [⟨"boot", .containerDisk (getContainerDiskImage lib spec.guestOSType)⟩] := by
    rw [buildVolumes, h]
    rfl
  rw [hdisks, hvolumes]
  refine ⟨rfl, 0, Nat.one_pos, ?_, ?_⟩
  · intro j d hd
    cases j with
    | zero =>
      cases hd
      rfl
    | succ j => simp at hd
  · intro j v hv
    cases j with
    | zero =>
      cases hv
      rfl
    | succ j => simp at hv

theorem notMem_of_oneBoot {image : String}
    (h : OneBoot ⟨buildDisks spec, buildVolumes lib spec, requests⟩ image) :
    "boot" ∉ spec.diskNames.tail := by
  intro hmem
  have hne : spec.diskNames ≠ [] := by
    intro hnil
    rw [hnil] at hmem
    cases hmem
  obtain ⟨i, _, hdisks, _⟩ := h.boot
  have horder : ∀ (j : ℕ) (name : String), spec.diskNames[j]? = some name →
      isBoot j name = true → j = i := by
    intro j name hname hboot
    have hd := hdisks j _ (by rw [buildDisks_getElem? hne, hname]; rfl)
    dsimp only at hd
    by_contra hj
    rw [if_neg hj, if_pos hboot] at hd
    cases hd
  obtain ⟨k, hk⟩ := List.mem_iff_getElem?.mp hmem
  rw [List.getElem?_tail] at hk
  have hzero : 0 = i := by
    refine horder 0 (spec.diskNames.head hne) ?_ rfl
    rw [← List.head?_eq_getElem?, List.head?_eq_some_head hne]
  have hlater : k + 1 = i := horder (k + 1) "boot" hk (by simp [isBoot])
  omega

end

/-- One disk is booted from exactly if none but the first is named `boot`. -/
theorem one_boot_disk_iff (lib : Library) (spec : VMSpec) :
    ∃ template, vmSpecToVirtualMachine lib spec = some ⟨some template⟩ ∧
      (OneBoot template (getContainerDiskImage lib spec.guestOSType) ↔
        "boot" ∉ spec.diskNames.tail) := by
  obtain ⟨requests, _, hvm⟩ := vmSpecToVirtualMachine_eq lib spec
  refine ⟨_, hvm, notMem_of_oneBoot, ?_⟩
  intro hboot
  by_cases h : spec.diskNames = []
  · exact oneBoot_of_nil h
  · exact oneBoot_of_notMem h hboot

def namedDisks (diskNames : List String) (guestOSType : String) : VMSpec :=
  ⟨"vm", 2, "4Gi", guestOSType, diskNames⟩

def plainLibrary : Library where
  lower := Char.toLower
  upper := Char.toUpper
  lower_ascii _ _ := rfl
  upper_ascii _ _ := rfl
  Float64 := ℤ
  parseFloat := parseInt
  gigabytes n := n * 10 ^ 9
  megabytes n := n * 10 ^ 6

theorem two_boot_disks :
    ["data", "boot"].Nodup ∧
      buildDisks (namedDisks ["data", "boot"] "fedora") =
        [⟨"data", some 1⟩, ⟨"boot", some 1⟩] ∧
      ∃ template, vmSpecToVirtualMachine plainLibrary
          (namedDisks ["data", "boot"] "fedora") = some ⟨some template⟩ ∧
        ¬ OneBoot template (getContainerDiskImage plainLibrary "fedora") := by
  obtain ⟨requests, _, hvm⟩ :=
    vmSpecToVirtualMachine_eq plainLibrary (namedDisks ["data", "boot"] "fedora")
  exact ⟨by decide, by decide, _, hvm, fun h => notMem_of_oneBoot h (by decide)⟩

def containerImage (v : Volume) : Option String :=
  match v.source with
  | .containerDisk image => some image
  | .emptyDisk _ => none

def bootImages (template : Template) : List String := template.volumes.filterMap containerImage

section

variable {lib}

def IsLower (s : String) : Prop := ∀ c ∈ s.toList, c.toNat < 128 ∧ c.toLower = c

instance (s : String) : Decidable (IsLower s) := List.decidableBAll _ s.toList

theorem toLower_eq_self {s : String} (h : IsLower s) : toLower lib s = s := by
  have hmap : s.toList.map lib.lower = s.toList := by
    rw [List.map_congr_left fun c hc => (lib.lower_ascii c (h c hc).1).trans (h c hc).2]
    exact List.map_id _
  rw [toLower, hmap, String.ofList_toList]

def imageOfLower (guestOSType : String) : String :=
  (osImages.lookup guestOSType).getD defaultOSImage

theorem images_inferred :
    (∀ image ∈ [osImageUbuntu, osImageCentosStream, osImageFedora, osImageCirros],
      IsLower image ∧ IsLower (guestOSOfLower image) ∧
        imageOfLower (guestOSOfLower image) = image) ∧
      IsLower osImageDebian ∧ IsLower (guestOSOfLower osImageDebian) ∧
        imageOfLower (guestOSOfLower osImageDebian) = osImageCirros := by
  decide +kernel

theorem getContainerDiskImage_eq (guestOSType : String) :
    getContainerDiskImage lib guestOSType = imageOfLower (toLower lib guestOSType) := rfl

theorem getContainerDiskImage_infer {image : String} (himage : IsLower image)
    (hguest : IsLower (guestOSOfLower image)) :
    getContainerDiskImage lib (inferGuestOSFromImage lib image) =
      imageOfLower (guestOSOfLower image) := by
  rw [getContainerDiskImage_eq, inferGuestOSFromImage, toLower_eq_self himage,
    toLower_eq_self hguest]

theorem imageOfLower_cases (name : String) :
    (imageOfLower name ∈ [osImageUbuntu, osImageCentosStream, osImageFedora, osImageCirros] ∧
      name ≠ "debian") ∨ (imageOfLower name = osImageDebian ∧ name = "debian") := by
  by_cases hname : name = "debian"
  · subst hname
    exact Or.inr ⟨by simp [imageOfLower, osImages, List.lookup], rfl⟩
  · refine Or.inl ⟨?_, hname⟩
    unfold imageOfLower
    cases hlookup : osImages.lookup name with
    | none => simp [defaultOSImage]
    | some image =>
      obtain ⟨l₁, l₂, hsplit, _⟩ := List.lookup_eq_some_iff.mp hlookup
      have hmem : (name, image) ∈ osImages := by
        rw [hsplit]
        simp
      simp only [osImages, List.mem_cons, Prod.mk.injEq, List.not_mem_nil, or_false] at hmem
      rcases hmem with ⟨_, rfl⟩ | ⟨_, rfl⟩ | ⟨_, rfl⟩ | ⟨_, rfl⟩ | ⟨_, rfl⟩ | ⟨hdebian, _⟩
      · simp
      · simp
      · simp
      · simp
      · simp
      · exact absurd hdebian hname

theorem image_restored_iff (guestOSType : String) :
    getContainerDiskImage lib (inferGuestOSFromImage lib (getContainerDiskImage lib guestOSType)) =
      getContainerDiskImage lib guestOSType ↔ toLower lib guestOSType ≠ "debian" := by
  rw [getContainerDiskImage_eq guestOSType]
  obtain ⟨hrestored, hdebian⟩ := images_inferred
  rcases imageOfLower_cases (toLower lib guestOSType) with ⟨hmem, hname⟩ | ⟨himage, hname⟩
  · obtain ⟨himage, hguest, heq⟩ := hrestored _ hmem
    exact iff_of_true ((getContainerDiskImage_infer himage hguest).trans heq) hname
  · rw [himage, getContainerDiskImage_infer hdebian.1 hdebian.2.1, hdebian.2.2]
    exact iff_of_false (by simp [osImageCirros, osImageDebian]) (not_not.mpr hname)

variable {spec : VMSpec}

theorem buildDisks_names (h : spec.diskNames ≠ []) :
    (buildDisks spec).map Disk.name = spec.diskNames := by
  apply List.ext_getElem?
  intro j
  rw [List.getElem?_map, buildDisks_getElem? h, Option.map_map]
  exact Option.map_id'

theorem inferGuestOS_buildVolumes (h : spec.diskNames ≠ []) :
    inferGuestOS lib (buildVolumes lib spec) =
      inferGuestOSFromImage lib (getContainerDiskImage lib spec.guestOSType) := by
  obtain ⟨name, names, hnames⟩ := List.exists_cons_of_ne_nil h
  rw [buildVolumes_of_ne_nil h, hnames, List.mapIdx_cons]
  rfl

theorem bootImages_eq_iff {spec' : VMSpec} {requests' : Requests} (h : spec.diskNames ≠ [])
    (hnames : spec'.diskNames = spec.diskNames) :
    bootImages ⟨buildDisks spec', buildVolumes lib spec', requests'⟩ =
        bootImages ⟨buildDisks spec, buildVolumes lib spec, requests⟩ ↔
      getContainerDiskImage lib spec'.guestOSType =
        getContainerDiskImage lib spec.guestOSType := by
  have h' : spec'.diskNames ≠ [] := by
    rw [hnames]
    exact h
  unfold bootImages
  dsimp only
  rw [buildVolumes_of_ne_nil h, buildVolumes_of_ne_nil h', hnames]
  constructor
  · intro heq
    obtain ⟨name, names, hcons⟩ := List.exists_cons_of_ne_nil h
    rw [hcons, List.mapIdx_cons, List.mapIdx_cons] at heq
    exact (List.cons.inj heq).1
  · intro heq
    rw [heq]

end

/-- The disk names come back as they were; the images do exactly if the OS is not Debian. -/
theorem spec_round_trip_iff (lib : Library) (spec : VMSpec) (h : spec.diskNames ≠ []) :
    ∃ template, vmSpecToVirtualMachine lib spec = some ⟨some template⟩ ∧
      (virtualMachineToVMSpec lib ⟨some template⟩).diskNames = spec.diskNames ∧
      ∃ template', vmSpecToVirtualMachine lib (virtualMachineToVMSpec lib ⟨some template⟩) =
          some ⟨some template'⟩ ∧
        (bootImages template' = bootImages template ↔
          toLower lib spec.guestOSType ≠ "debian") := by
  obtain ⟨requests, _, hvm⟩ := vmSpecToVirtualMachine_eq lib spec
  refine ⟨_, hvm, ?_⟩
  have hnames : (virtualMachineToVMSpec lib ⟨some ⟨buildDisks spec, buildVolumes lib spec,
      requests⟩⟩).diskNames = spec.diskNames := by
    dsimp only [virtualMachineToVMSpec]
    rw [buildDisks_names h, if_neg (by simpa using h)]
  obtain ⟨requests', _, hvm'⟩ := vmSpecToVirtualMachine_eq lib
    (virtualMachineToVMSpec lib ⟨some ⟨buildDisks spec, buildVolumes lib spec, requests⟩⟩)
  refine ⟨hnames, _, hvm', ?_⟩
  rw [bootImages_eq_iff h hnames, ← image_restored_iff]
  dsimp only [virtualMachineToVMSpec]
  rw [inferGuestOS_buildVolumes h]

theorem spec_round_trip_of_fedora :
    (namedDisks ["boot", "data"] "Fedora").diskNames ≠ [] ∧
    ∃ template template', vmSpecToVirtualMachine plainLibrary (namedDisks ["boot", "data"]
        "Fedora") = some ⟨some template⟩ ∧
      vmSpecToVirtualMachine plainLibrary (virtualMachineToVMSpec plainLibrary ⟨some template⟩) =
        some ⟨some template'⟩ ∧ bootImages template' = bootImages template := by
  refine ⟨by decide, ?_⟩
  obtain ⟨template, hvm, _, template', hvm', hiff⟩ :=
    spec_round_trip_iff plainLibrary (namedDisks ["boot", "data"] "Fedora") (by decide)
  exact ⟨template, template', hvm, hvm', hiff.mpr (by decide +kernel)⟩

def oneDisk (image : String) : Template where
  disks := [⟨"boot", some 1⟩]
  volumes := [⟨"boot", .containerDisk image⟩]
  requests := ⟨some ⟨2 * 10 ^ 9, .decimalSI, ['2']⟩,
    some ⟨4 * 2 ^ 30 * 10 ^ 9, .binarySI, ['4', 'G', 'i']⟩⟩

theorem debian_becomes_cirros :
    vmSpecToVirtualMachine plainLibrary (namedDisks ["boot"] "debian") =
        some ⟨some (oneDisk osImageDebian)⟩ ∧
      vmSpecToVirtualMachine plainLibrary (virtualMachineToVMSpec plainLibrary
        ⟨some (oneDisk osImageDebian)⟩) = some ⟨some (oneDisk osImageCirros)⟩ ∧
      bootImages (oneDisk osImageCirros) ≠ bootImages (oneDisk osImageDebian) := by
  decide +kernel

end VmMapper
