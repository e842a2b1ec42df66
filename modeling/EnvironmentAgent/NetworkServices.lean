import EnvironmentAgent.DecimalText
import EnvironmentAgent.EmbeddedHandlers
import EnvironmentAgent.StatusMonitoring

/-! # Services for networks

`ValidateCreate` of `network/validate` and `Create` of the Kubernetes store of networks, with the
conversions between a network spec and a Service. -/
namespace NetworkServices

open AtomicPrograms
open ObjectStore (Labels)
open EmbeddedHandlers (quoted labelManagedBy labelInstanceID labelServiceType valueManagedByDCM
  reservedLabelKeys mergeLabels)
open StatusMonitoring (NetworkStatus)

/-- A value outside the enumeration is kept as it was sent. -/
inductive Protocol where
  | tcp | udp
  | other (text : String)
  deriving DecidableEq, Repr

def Protocol.valid : Protocol → Bool
  | .tcp | .udp => true
  | .other _ => false

def Protocol.text : Protocol → String
  | .tcp => "TCP"
  | .udp => "UDP"
  | .other text => text

inductive RoutingLevel where
  | network | application
  | other (text : String)
  deriving DecidableEq, Repr

def RoutingLevel.valid : RoutingLevel → Bool
  | .network | .application => true
  | .other _ => false

def RoutingLevel.text : RoutingLevel → String
  | .network => "network"
  | .application => "application"
  | .other text => text

structure PortSpec where
  name : Option String
  nodePort : Option ℤ
  port : ℤ
  protocol : Option Protocol
  targetPort : Option ℤ
  deriving DecidableEq, Repr

structure NodePorts where
  entries : List (String × ℤ)
  distinct : (entries.map Prod.fst).Nodup
  deriving DecidableEq

structure KubernetesProviderHints where
  clusterIp : Option String
  nodePorts : Option NodePorts
  selector : Option Labels
  deriving DecidableEq

structure ProviderHints where
  kubernetes : Option KubernetesProviderHints
  deriving DecidableEq

structure NetworkMetadata where
  labels : Option Labels
  name : String
  namespaceName : Option String
  deriving DecidableEq

structure NetworkSpec where
  metadata : NetworkMetadata
  ports : List PortSpec
  providerHints : Option ProviderHints
  routingLevel : Option RoutingLevel
  serviceType : String
  deriving DecidableEq

def NetworkSpec.kubernetes (spec : NetworkSpec) : Option KubernetesProviderHints :=
  spec.providerHints.bind (·.kubernetes)

def NetworkSpec.nodePorts (spec : NetworkSpec) : List (String × ℤ) :=
  ((spec.kubernetes.bind (·.nodePorts)).map (·.entries)).getD []

inductive NetworkError where
  | invalidArgument (field message : String)
  | conflict (resource field value message : String)
  | failure (message : String)
  deriving DecidableEq, Repr

def isLowerOrDigit (c : Char) : Bool := ('a' ≤ c && c ≤ 'z') || ('0' ≤ c && c ≤ '9')

/-- `^[a-z0-9]([a-z0-9-]{0,61}[a-z0-9])?$` -/
def aep122IDPattern : List Char → Bool
  | [] => false
  | c :: rest =>
    isLowerOrDigit c && (rest.isEmpty || (rest.length ≤ 62 &&
      rest.all (fun c => isLowerOrDigit c || c == '-') && rest.getLast?.any isLowerOrDigit))

def validateNetworkID (id : String) : Except String Unit :=
  if id = "health" then
    .error ("network ID " ++ quoted id ++ " is reserved and cannot be used")
  else if aep122IDPattern id.toList then .ok ()
  else .error ("network ID " ++ quoted id ++ " must match AEP-122 pattern")

def outOfRange (n : ℤ) : Bool := n < 1 || 65535 < n

def validatePort (p : PortSpec) : Except String Unit :=
  if outOfRange p.port then .error ("port " ++ toString p.port ++ " out of range 1-65535")
  else
    match p.targetPort.filter outOfRange with
    | some targetPort => .error ("target_port " ++ toString targetPort ++ " out of range 1-65535")
    | none =>
      match p.protocol.filter (!·.valid) with
      | some protocol => .error ("unknown protocol " ++ quoted protocol.text)
      | none => .ok ()

def validatePorts (names : List String) : List PortSpec → Except String Unit
  | [] => .ok ()
  | p :: rest =>
    match validatePort p with
    | .error e => .error e
    | .ok () =>
      match p.name.filter (· ≠ "") with
      | none => validatePorts names rest
      | some name =>
        if name ∈ names then .error ("duplicate port name " ++ quoted name)
        else validatePorts (name :: names) rest

/-- Which of several errors is reported depends on the order of the map. -/
def validateNodePorts (spec : NetworkSpec) : Except String Unit :=
  match spec.nodePorts.find? fun entry => entry.2 < 30000 || 32767 < entry.2 with
  | some entry =>
    .error ("node_port " ++ toString entry.2 ++ " for " ++ quoted entry.1 ++
      " out of range 30000-32767")
  | none => .ok ()

def validateCreateSpec (spec : NetworkSpec) : Except String Unit :=
  if spec.serviceType ≠ "network" then .error ("service_type must be " ++ quoted "network")
  else if spec.metadata.name = "" then .error "metadata.name is required"
  else if spec.ports = [] then .error "at least one port is required"
  else
    match spec.routingLevel.filter (!·.valid) with
    | some level => .error ("unknown routing_level " ++ quoted level.text)
    | none =>
      match validatePorts [] spec.ports with
      | .error e => .error e
      | .ok () => validateNodePorts spec

def validateUserLabels (labels : Option Labels) : Except String Unit :=
  match (labels.getD []).find? fun label => label.1 ∈ reservedLabelKeys with
  | some label =>
    .error ("label " ++ quoted label.1 ++ " is reserved by DCM and cannot be set by the user")
  | none => .ok ()

def validateCreate (id : String) (spec : NetworkSpec) : Except NetworkError Unit :=
  (do
    validateNetworkID id
    validateCreateSpec spec
    validateUserLabels spec.metadata.labels).mapError (.invalidArgument "")

inductive IntOrString where
  | int (n : ℤ)
  | string (s : String)
  deriving DecidableEq, Repr

/-- A text that is a number counts as one, and one that does not fit is cut off. -/
def IntOrString.intValue : IntOrString → ℤ
  | .int n => n
  | .string s =>
    let (positive, digits) := DecimalText.splitSign s.toList
    if DecimalText.IsNumber digits then
      max (-2 ^ 63) (min (2 ^ 63 - 1) (DecimalText.signed positive (DecimalText.natOf digits)))
    else 0

structure ServicePort where
  name : String
  protocol : Protocol
  port : ℤ
  targetPort : IntOrString
  nodePort : ℤ
  deriving DecidableEq, Repr

inductive ServiceType where
  | clusterIP | nodePort | loadBalancer
  | other (text : String)
  deriving DecidableEq, Repr

structure Ingress where
  ip : String
  hostname : String
  deriving DecidableEq, Repr

/-- What the API server adds is zero or empty in a Service that is sent. -/
structure Service where
  name : String
  namespaceName : String
  labels : Labels
  creationTimestamp : ℤ
  type : ServiceType
  ports : List ServicePort
  clusterIP : String
  selector : Labels
  ingress : List Ingress
  deriving DecidableEq, Repr

structure K8sConfig where
  namespaceName : String
  deriving DecidableEq, Repr

def dcmLabels (instanceID : String) : Labels :=
  [(labelManagedBy, valueManagedByDCM), (labelInstanceID, instanceID),
    (labelServiceType, "network")]

def inferServiceType (spec : NetworkSpec) : ServiceType :=
  match spec.routingLevel with
  | none => if spec.nodePorts ≠ [] then .nodePort else .clusterIP
  | some _ => .loadBalancer

def resolvePort (p : PortSpec) : ServicePort where
  name := (p.name.filter (· ≠ "")).getD ""
  protocol := p.protocol.getD .tcp
  port := p.port
  targetPort := .int ((p.targetPort.filter (0 < ·)).getD p.port)
  nodePort := 0

def resolvePorts (specPorts : List PortSpec) : List ServicePort := specPorts.map resolvePort

def setNodePort (nodePorts : List (String × ℤ)) (p : ServicePort) : ServicePort :=
  match nodePorts.lookup p.name with
  | some nodePort => { p with nodePort := nodePort }
  | none => p

def buildService (spec : NetworkSpec) (cfg : K8sConfig) (labels : Labels) : Service where
  name := spec.metadata.name
  namespaceName := cfg.namespaceName
  labels := labels
  creationTimestamp := 0
  type := inferServiceType spec
  ports :=
    if spec.nodePorts ≠ [] then (resolvePorts spec.ports).map (setNodePort spec.nodePorts)
    else resolvePorts spec.ports
  clusterIP := (spec.kubernetes.bind (·.clusterIp)).getD ""
  selector := (spec.kubernetes.bind (·.selector)).getD []
  ingress := []

inductive KubernetesStateType where
  | clusterIP | nodePort | loadBalancer
  deriving DecidableEq, Repr

structure KubernetesState where
  type : KubernetesStateType
  clusterIp : Option String
  selector : Option Labels
  externalIps : Option (List String)
  deriving DecidableEq, Repr

structure Network where
  id : String
  path : String
  createTime : ℤ
  updateTime : ℤ
  spec : NetworkSpec
  status : NetworkStatus
  kubernetes : KubernetesState
  deriving DecidableEq

def int32 (n : ℤ) : ℤ := Int.bmod n (2 ^ 32)

def portFromService (p : ServicePort) : PortSpec where
  name := if p.name ≠ "" then some p.name else none
  nodePort := if 0 < p.nodePort then some p.nodePort else none
  port := p.port
  protocol := some p.protocol
  targetPort := if 0 < p.targetPort.intValue then some (int32 p.targetPort.intValue) else none

def portsFromService (service : Service) : List PortSpec := service.ports.map portFromService

def userLabelsFromService (service : Service) : Labels :=
  service.labels.filter fun label => label.1 ∉ reservedLabelKeys

def mapServiceStateToStatus (service : Service) : NetworkStatus :=
  if service.type = .loadBalancer ∧ service.ingress = [] then .pending else .ready

def convertServiceType : ServiceType → KubernetesStateType
  | .clusterIP => .clusterIP
  | .nodePort => .nodePort
  | .loadBalancer => .loadBalancer
  | .other _ => .clusterIP

def extractExternalIPs (ingress : List Ingress) : List String :=
  ingress.filterMap fun ing =>
    if ing.ip ≠ "" then some ing.ip else if ing.hostname ≠ "" then some ing.hostname else none

def nonEmpty {α : Type} (xs : List α) : Option (List α) := if xs.isEmpty then none else some xs

def buildKubernetesState (service : Service) : KubernetesState where
  type := convertServiceType service.type
  clusterIp := if service.clusterIP ≠ "" then some service.clusterIP else none
  selector := nonEmpty service.selector
  externalIps :=
    if service.type = .loadBalancer then nonEmpty (extractExternalIPs service.ingress) else none

def serviceToNetwork (service : Service) (instanceID : String) : Network where
  id := instanceID
  path := "networks/" ++ instanceID
  createTime := service.creationTimestamp
  updateTime := service.creationTimestamp
  spec :=
    { metadata :=
        { labels := nonEmpty (userLabelsFromService service)
          name := service.name
          namespaceName := some service.namespaceName }
      ports := portsFromService service
      providerHints := none
      routingLevel := if service.type = .loadBalancer then some .network else none
      serviceType := "network" }
  status := mapServiceStateToStatus service
  kubernetes := buildKubernetesState service

inductive Reason where
  | alreadyExists | invalid | other
  deriving DecidableEq, Repr

/-- `causes` are the messages of the details, if there are any. -/
structure ApiError where
  reason : Reason
  message : String
  causes : Option (List String)
  deriving DecidableEq, Repr

inductive Op where
  | createService (service : Service)

abbrev Kubernetes : Signature := ⟨Op, fun _ => Except ApiError Service⟩

def isNodePortAlreadyAllocated (e : ApiError) : Bool :=
  (e.causes.getD []).any fun message => "already allocated".toList <:+: message.toList

def portNames (nodePorts : List (String × ℤ)) : List PortSpec → Except NetworkError (List String)
  | [] => .ok []
  | p :: rest =>
    match p.name.filter (· ≠ "") with
    | none =>
      .error (.invalidArgument "ports" "all ports must have names when node_ports are specified")
    | some name =>
      if (nodePorts.lookup name).isNone then
        .error (.invalidArgument "ports"
          ("port name " ++ quoted name ++ " not found in node_ports map"))
      else (portNames nodePorts rest).map (name :: ·)

def checkNodePorts (spec : NetworkSpec) : Except NetworkError Unit :=
  if spec.nodePorts ≠ [] then
    match portNames spec.nodePorts spec.ports with
    | .error e => .error e
    | .ok names =>
      match spec.nodePorts.find? fun entry => entry.1 ∉ names with
      | some entry =>
        .error (.invalidArgument "provider_hints.kubernetes.node_ports"
          ("node_ports key " ++ quoted entry.1 ++ " does not match any port name"))
      | none => .ok ()
  else .ok ()

def checkCreate (spec : NetworkSpec) : Except NetworkError Unit :=
  if spec.routingLevel = some .application then
    .error (.invalidArgument "routing_level" ("unknown routing_level " ++ quoted "application"))
  else checkNodePorts spec

def serviceLabels (spec : NetworkSpec) (id : String) : Labels :=
  match spec.metadata.labels with
  | none => dcmLabels id
  | some labels => mergeLabels (dcmLabels id) labels

def createError (spec : NetworkSpec) (e : ApiError) : NetworkError :=
  match e.reason with
  | .alreadyExists => .conflict "network" "metadata.name" spec.metadata.name ""
  | .invalid =>
    if isNodePortAlreadyAllocated e then .conflict "network" "" "" e.message
    else .invalidArgument "" ("invalid service spec: " ++ e.message)
  | .other => .failure ("failed to create service: " ++ e.message)

def K8sNetworkStore.create (cfg : K8sConfig) (spec : NetworkSpec) (id : String) :
    Prog Kubernetes (Except NetworkError Network) := do
  match checkCreate spec with
  | .error e => return .error e
  | .ok () =>
    match ← Prog.perform (S := Kubernetes)
        (.createService (buildService spec cfg (serviceLabels spec id))) with
    | .error e => return .error (createError spec e)
    | .ok created => return .ok (serviceToNetwork created id)

def givenNames (ports : List PortSpec) : List String :=
  ports.filterMap fun p => p.name.filter (· ≠ "")

theorem eq_none_of_filter {α : Type} {o : Option α} {bad : α → Bool} (h : o.filter bad = none) :
    ∀ a, o = some a → bad a = false := by
  rintro a rfl
  simpa using h

theorem targetPort_of_validatePort {p : PortSpec} (h : validatePort p = .ok ()) :
    (0 < p.port ∧ p.port ≤ 65535) ∧ ∀ t, p.targetPort = some t → 0 < t ∧ t ≤ 65535 := by
  unfold validatePort at h
  split at h
  · cases h
  · rename_i hport
    split at h
    · cases h
    · rename_i htarget
      constructor
      · simp [outOfRange] at hport
        omega
      · intro t ht
        have hrange := eq_none_of_filter htarget t ht
        simp [outOfRange] at hrange
        omega

theorem ports_of_validatePorts {names : List String} {ports : List PortSpec}
    (h : validatePorts names ports = .ok ()) :
    (∀ p ∈ ports, validatePort p = .ok ()) ∧ (givenNames ports).Nodup ∧
      ∀ name ∈ givenNames ports, name ∉ names := by
  induction ports generalizing names with
  | nil => simp [givenNames]
  | cons p rest ih =>
    rw [validatePorts] at h
    cases hport : validatePort p with
    | error e =>
      rw [hport] at h
      cases h
    | ok u =>
      rw [hport] at h
      cases hname : p.name.filter (· ≠ "") with
      | none =>
        rw [hname] at h
        obtain ⟨hports, hnodup, hfresh⟩ := ih h
        have hnames : givenNames (p :: rest) = givenNames rest := List.filterMap_cons_none hname
        rw [hnames]
        exact ⟨List.forall_mem_cons.mpr ⟨hport, hports⟩, hnodup, hfresh⟩
      | some name =>
        rw [hname] at h
        dsimp only at h
        split at h
        · cases h
        · rename_i hnew
          obtain ⟨hports, hnodup, hfresh⟩ := ih h
          have hnames : givenNames (p :: rest) = name :: givenNames rest :=
            List.filterMap_cons_some hname
          rw [hnames]
          refine ⟨List.forall_mem_cons.mpr ⟨hport, hports⟩, List.nodup_cons.mpr ⟨?_, hnodup⟩, ?_⟩
          · intro hmem
            exact hfresh name hmem List.mem_cons_self
          · intro other hother
            rcases List.mem_cons.mp hother with hsame | hmem
            · rwa [hsame]
            · exact fun hin => hfresh other hmem (List.mem_cons_of_mem name hin)

theorem names_of_portNames {nodePorts : List (String × ℤ)} {ports : List PortSpec}
    {names : List String} (h : portNames nodePorts ports = .ok names) :
    ports.map (·.name) = names.map some ∧ givenNames ports = names ∧
      ∀ name ∈ names, (nodePorts.lookup name).isSome := by
  induction ports generalizing names with
  | nil =>
    cases h
    simp [givenNames]
  | cons p rest ih =>
    rw [portNames] at h
    cases hname : p.name.filter (· ≠ "") with
    | none =>
      rw [hname] at h
      cases h
    | some name =>
      rw [hname] at h
      dsimp only at h
      split at h
      · cases h
      · rename_i hknown
        cases hrest : portNames nodePorts rest with
        | error e =>
          rw [hrest] at h
          cases h
        | ok others =>
          rw [hrest] at h
          cases h
          obtain ⟨hmap, hgiven, hlookup⟩ := ih hrest
          have hsome : p.name = some name := (Option.filter_eq_some_iff.mp hname).1
          refine ⟨?_, ?_, List.forall_mem_cons.mpr ⟨?_, hlookup⟩⟩
          · rw [List.map_cons, hmap, hsome, List.map_cons]
          · rw [← hgiven]
            exact List.filterMap_cons_some hname
          · simpa using hknown

theorem nodePorts_distinct (spec : NetworkSpec) : (spec.nodePorts.map Prod.fst).Nodup := by
  unfold NetworkSpec.nodePorts
  cases spec.kubernetes.bind (·.nodePorts) with
  | none => exact List.nodup_nil
  | some nodePorts => exact nodePorts.distinct

structure Accepted (spec : NetworkSpec) : Prop where
  level : ∀ level, spec.routingLevel = some level → level = .network
  ports : ∀ p ∈ spec.ports, validatePort p = .ok ()
  range : ∀ entry ∈ spec.nodePorts, 30000 ≤ entry.2 ∧ entry.2 ≤ 32767
  names : spec.nodePorts ≠ [] →
    (spec.nodePorts.map fun entry => some entry.1).Perm (spec.ports.map (·.name))
  unreserved : ∀ label ∈ spec.metadata.labels.getD [], label.1 ∉ reservedLabelKeys

theorem parts_of_validateCreate {id : String} {spec : NetworkSpec}
    (h : validateCreate id spec = .ok ()) :
    validateCreateSpec spec = .ok () ∧ validateUserLabels spec.metadata.labels = .ok () := by
  unfold validateCreate at h
  cases hid : validateNetworkID id with
  | error e =>
    rw [hid] at h
    cases h
  | ok u =>
    rw [hid] at h
    cases hspec : validateCreateSpec spec with
    | error e =>
      rw [hspec] at h
      cases h
    | ok u =>
      rw [hspec] at h
      cases hlabels : validateUserLabels spec.metadata.labels with
      | error e =>
        rw [hlabels] at h
        cases h
      | ok u => exact ⟨rfl, rfl⟩

theorem parts_of_validateCreateSpec {spec : NetworkSpec} (h : validateCreateSpec spec = .ok ()) :
    (∀ level, spec.routingLevel = some level → level.valid = true) ∧
      validatePorts [] spec.ports = .ok () ∧ validateNodePorts spec = .ok () := by
  unfold validateCreateSpec at h
  split at h
  · cases h
  split at h
  · cases h
  split at h
  · cases h
  split at h
  · cases h
  rename_i hlevel
  cases hports : validatePorts [] spec.ports with
  | error e =>
    rw [hports] at h
    cases h
  | ok u =>
    rw [hports] at h
    refine ⟨?_, rfl, h⟩
    intro level hsome
    simpa using eq_none_of_filter hlevel level hsome

theorem names_of_checkNodePorts {spec : NetworkSpec} (hports : validatePorts [] spec.ports = .ok ())
    (h : checkNodePorts spec = .ok ()) (hgiven : spec.nodePorts ≠ []) :
    (spec.nodePorts.map fun entry => some entry.1).Perm (spec.ports.map (·.name)) := by
  unfold checkNodePorts at h
  rw [if_pos hgiven] at h
  cases hnames : portNames spec.nodePorts spec.ports with
  | error e =>
    rw [hnames] at h
    cases h
  | ok names =>
    rw [hnames] at h
    dsimp only at h
    split at h
    · cases h
    · rename_i hkeys
      obtain ⟨hmap, hsame, hknown⟩ := names_of_portNames hnames
      have hnodup : names.Nodup := by
        rw [← hsame]
        exact (ports_of_validatePorts hports).2.1
      have hperm : (spec.nodePorts.map Prod.fst).Perm names := by
        apply (List.perm_ext_iff_of_nodup (nodePorts_distinct spec) hnodup).mpr
        intro name
        constructor
        · intro hkey
          obtain ⟨entry, hentry, rfl⟩ := List.mem_map.mp hkey
          simpa using List.find?_eq_none.mp hkeys entry hentry
        · intro hname
          obtain ⟨nodePort, hlookup⟩ := Option.isSome_iff_exists.mp (hknown name hname)
          obtain ⟨before, after, hsplit, _⟩ := List.lookup_eq_some_iff.mp hlookup
          rw [hsplit]
          simp
      rw [hmap, ← Function.comp_def, ← List.map_map]
      exact hperm.map some

theorem accepted_of_checks {id : String} {spec : NetworkSpec}
    (hvalid : validateCreate id spec = .ok ()) (hcheck : checkCreate spec = .ok ()) :
    Accepted spec := by
  obtain ⟨hspec, hlabels⟩ := parts_of_validateCreate hvalid
  obtain ⟨hlevel, hports, hrange⟩ := parts_of_validateCreateSpec hspec
  unfold checkCreate at hcheck
  split at hcheck
  · cases hcheck
  rename_i happlication
  refine ⟨?_, (ports_of_validatePorts hports).1, ?_, names_of_checkNodePorts hports hcheck, ?_⟩
  · intro level hsome
    have hknown := hlevel level hsome
    cases level with
    | network => rfl
    | application => exact absurd hsome happlication
    | other text => cases hknown
  · intro entry hentry
    unfold validateNodePorts at hrange
    split at hrange
    · cases hrange
    · rename_i hnone
      have hin := List.find?_eq_none.mp hnone entry hentry
      simp at hin
      omega
  · intro label hlabel
    unfold validateUserLabels at hlabels
    split at hlabels
    · cases hlabels
    · rename_i hnone
      simpa using List.find?_eq_none.mp hnone label hlabel

structure PortBuilt (p : PortSpec) (built : ServicePort) : Prop where
  port : built.port = p.port
  name : built.name = p.name.getD ""
  protocol : built.protocol = p.protocol.getD .tcp
  targetPort : built.targetPort = .int (p.targetPort.getD p.port)

structure PortReturned (nodePorts : List (String × ℤ)) (p q : PortSpec) : Prop where
  port : q.port = p.port
  name : q.name = p.name.filter (· ≠ "")
  protocol : q.protocol = some (p.protocol.getD .tcp)
  targetPort : q.targetPort = some (p.targetPort.getD p.port)
  nodePort : q.nodePort = nodePorts.lookup (p.name.getD "")

section

variable {p : PortSpec} {nodePorts : List (String × ℤ)}

theorem name_resolvePort (p : PortSpec) : (resolvePort p).name = p.name.getD "" := by
  unfold resolvePort
  cases hname : p.name with
  | none => rfl
  | some name =>
    by_cases hempty : name = "" <;> simp [Option.filter, hempty]

theorem targetPort_resolvePort (h : validatePort p = .ok ()) :
    (resolvePort p).targetPort = .int (p.targetPort.getD p.port) := by
  unfold resolvePort
  cases htarget : p.targetPort with
  | none => rfl
  | some t =>
    have hpos := ((targetPort_of_validatePort h).2 t htarget).1
    simp [Option.filter, hpos]

theorem setNodePort_eq (nodePorts : List (String × ℤ)) (built : ServicePort) :
    setNodePort nodePorts built =
      { built with nodePort := (nodePorts.lookup built.name).getD built.nodePort } := by
  unfold setNodePort
  cases nodePorts.lookup built.name <;> rfl

theorem portBuilt_setNodePort (h : validatePort p = .ok ()) :
    PortBuilt p (setNodePort nodePorts (resolvePort p)) := by
  rw [setNodePort_eq]
  exact ⟨rfl, name_resolvePort p, rfl, targetPort_resolvePort h⟩

theorem portReturned (h : validatePort p = .ok ())
    (hrange : ∀ entry ∈ nodePorts, 30000 ≤ entry.2 ∧ entry.2 ≤ 32767) :
    PortReturned nodePorts p (portFromService (setNodePort nodePorts (resolvePort p))) := by
  obtain ⟨hport, htarget⟩ := targetPort_of_validatePort h
  have hvalue : 0 < p.targetPort.getD p.port ∧ p.targetPort.getD p.port ≤ 65535 := by
    cases hsome : p.targetPort with
    | none => exact hport
    | some t => exact htarget t hsome
  have hint : int32 (p.targetPort.getD p.port) = p.targetPort.getD p.port :=
    Int.bmod_eq_of_le (by omega) (by omega)
  rw [setNodePort_eq]
  refine ⟨rfl, ?_, rfl, ?_, ?_⟩
  · change (if (resolvePort p).name ≠ "" then some (resolvePort p).name else none) = _
    rw [name_resolvePort]
    cases hname : p.name with
    | none => rfl
    | some name =>
      by_cases hempty : name = "" <;> simp [Option.filter, hempty]
  · change (if 0 < (resolvePort p).targetPort.intValue then
      some (int32 (resolvePort p).targetPort.intValue) else none) = _
    rw [targetPort_resolvePort h, IntOrString.intValue, if_pos hvalue.1, hint]
  · change (if 0 < (nodePorts.lookup (resolvePort p).name).getD 0 then
      some ((nodePorts.lookup (resolvePort p).name).getD 0) else none) = _
    rw [name_resolvePort]
    cases hlookup : nodePorts.lookup (p.name.getD "") with
    | none => rfl
    | some nodePort =>
      obtain ⟨before, after, hsplit, _⟩ := List.lookup_eq_some_iff.mp hlookup
      have hentry : (p.name.getD "", nodePort) ∈ nodePorts := by
        rw [hsplit]
        simp
      have hpos := (hrange _ hentry).1
      exact if_pos (show 0 < nodePort by omega)

end

/-- The ports of the Service are those of the spec, and every port has the node port of its name,
where the keys of the map are the names, one each; without a map there are none. -/
structure Faithful (spec : NetworkSpec) (service : Service) : Prop where
  ports : List.Forall₂ PortBuilt spec.ports service.ports
  given : spec.nodePorts ≠ [] →
    (spec.nodePorts.map fun entry => some entry.1).Perm (spec.ports.map (·.name)) ∧
      List.Forall₂ (fun p built => spec.nodePorts.lookup (p.name.getD "") = some built.nodePort)
        spec.ports service.ports
  absent : spec.nodePorts = [] → ∀ built ∈ service.ports, built.nodePort = 0

structure Restored (spec : NetworkSpec) (network : Network) : Prop where
  ports : List.Forall₂ (PortReturned spec.nodePorts) spec.ports network.spec.ports
  routingLevel : network.spec.routingLevel = spec.routingLevel
  labels : network.spec.metadata.labels = spec.metadata.labels.bind nonEmpty

def Sends {α : Type} (p : Prog Kubernetes α) (service : Service) : Prop :=
  ∃ k, p = .call (.createService service) k ∧ ∀ x, ∃ r, k x = .ret r

section

variable {spec : NetworkSpec} {cfg : K8sConfig} {labels : Labels} {id : String}

theorem create_sends (h : checkCreate spec = .ok ()) :
    Sends (K8sNetworkStore.create cfg spec id)
      (buildService spec cfg (serviceLabels spec id)) := by
  unfold K8sNetworkStore.create
  rw [h]
  refine ⟨_, rfl, ?_⟩
  intro x
  cases x with
  | error e => exact ⟨_, rfl⟩
  | ok created => exact ⟨_, rfl⟩

theorem ports_buildService : (buildService spec cfg labels).ports =
    spec.ports.map fun p => setNodePort spec.nodePorts (resolvePort p) := by
  unfold buildService resolvePorts
  dsimp only
  by_cases hgiven : spec.nodePorts = []
  · rw [if_neg (not_not.mpr hgiven), hgiven]
    rfl
  · rw [if_pos hgiven, List.map_map]
    rfl

theorem faithful_buildService (h : Accepted spec) :
    Faithful spec (buildService spec cfg labels) where
  ports := by
    rw [ports_buildService, List.forall₂_map_right_iff]
    exact List.forall₂_same.mpr fun p hp => portBuilt_setNodePort (h.ports p hp)
  given hgiven := by
    refine ⟨h.names hgiven, ?_⟩
    rw [ports_buildService, List.forall₂_map_right_iff]
    apply List.forall₂_same.mpr
    intro p hp
    have hmem := (h.names hgiven).mem_iff.mpr (List.mem_map_of_mem hp)
    obtain ⟨entry, hentry, hname⟩ := List.mem_map.mp hmem
    obtain ⟨nodePort, hlookup⟩ : ∃ nodePort, spec.nodePorts.lookup entry.1 = some nodePort := by
      apply Option.isSome_iff_exists.mp
      exact List.lookup_isSome_iff.mpr ⟨entry, hentry, by simp⟩
    rw [setNodePort_eq, name_resolvePort, ← hname, Option.getD_some, hlookup]
    rfl
  absent habsent := by
    rw [ports_buildService, habsent]
    intro built hbuilt
    obtain ⟨p, _, rfl⟩ := List.mem_map.mp hbuilt
    rfl

theorem userLabels_buildService (h : Accepted spec) :
    userLabelsFromService (buildService spec cfg (serviceLabels spec id)) =
      spec.metadata.labels.getD [] := by
  have hdcm : (dcmLabels id).filter (fun label => label.1 ∉ reservedLabelKeys) = [] := by
    apply List.filter_eq_nil_iff.mpr
    simp [dcmLabels, reservedLabelKeys]
  have huser := h.unreserved
  change (serviceLabels spec id).filter _ = _
  unfold serviceLabels
  cases hlabels : spec.metadata.labels with
  | none => exact hdcm
  | some labels =>
    rw [hlabels] at huser
    dsimp only [mergeLabels]
    rw [List.filter_append, hdcm, List.nil_append]
    exact List.filter_eq_self.mpr fun label hlabel => decide_eq_true (huser label hlabel)

theorem routingLevel_buildService (h : Accepted spec) :
    (serviceToNetwork (buildService spec cfg labels) id).spec.routingLevel =
      spec.routingLevel := by
  change (if inferServiceType spec = .loadBalancer then some RoutingLevel.network else none) = _
  unfold inferServiceType
  cases hlevel : spec.routingLevel with
  | none =>
    by_cases hgiven : spec.nodePorts = []
    · simp [hgiven]
    · simp [hgiven]
  | some level =>
    rw [h.level level hlevel]
    rfl

theorem restored_buildService (h : Accepted spec) :
    Restored spec (serviceToNetwork (buildService spec cfg (serviceLabels spec id)) id) where
  ports := by
    change List.Forall₂ _ _ ((buildService spec cfg (serviceLabels spec id)).ports.map
      portFromService)
    rw [ports_buildService, List.map_map, List.forall₂_map_right_iff]
    exact List.forall₂_same.mpr fun p hp => portReturned (h.ports p hp) h.range
  routingLevel := routingLevel_buildService h
  labels := by
    change nonEmpty (userLabelsFromService _) = _
    rw [userLabels_buildService h]
    cases spec.metadata.labels with
    | none => rfl
    | some labels => rfl

end

/-- An accepted request creates one Service, which is as the spec asks and from which the spec can
be read back. -/
theorem network_service_faithful (cfg : K8sConfig) (id : String) (spec : NetworkSpec)
    (hvalid : validateCreate id spec = .ok ()) (hcheck : checkCreate spec = .ok ()) :
    ∃ service, Sends (K8sNetworkStore.create cfg spec id) service ∧ Faithful spec service ∧
      Restored spec (serviceToNetwork service id) :=
  have haccepted := accepted_of_checks hvalid hcheck
  ⟨_, create_sends hcheck, faithful_buildService haccepted, restored_buildService haccepted⟩

def webSpec : NetworkSpec where
  metadata := ⟨some [("app", "web")], "web", none⟩
  ports := [⟨some "http", none, 80, none, none⟩, ⟨some "dns", none, 53, some .udp, some 5353⟩]
  providerHints :=
    some ⟨some ⟨none, some ⟨[("dns", 30053), ("http", 30080)], by decide⟩, none⟩⟩
  routingLevel := some .network
  serviceType := "network"

theorem network_service_faithful_of_web :
    (validateCreate "web-1" webSpec = .ok () ∧ checkCreate webSpec = .ok ()) ∧
      ∃ service, Sends (K8sNetworkStore.create ⟨"dcm"⟩ webSpec "web-1") service ∧
        Faithful webSpec service ∧ Restored webSpec (serviceToNetwork service "web-1") :=
  ⟨⟨by decide +kernel, by decide +kernel⟩,
    network_service_faithful ⟨"dcm"⟩ "web-1" webSpec (by decide +kernel) (by decide +kernel)⟩

def blankSpec : NetworkSpec where
  metadata := ⟨some [], "web", none⟩
  ports := [⟨some "http", some 31000, 80, none, none⟩]
  providerHints := some ⟨some ⟨none, some ⟨[], by decide⟩, none⟩⟩
  routingLevel := none
  serviceType := "network"

/-- A map of node ports that is given but empty is accepted although it does not have the name of
the port. Neither the node port in the port nor the empty labels come back. -/
theorem empty_node_ports_accepted :
    validateCreate "web-1" blankSpec = .ok () ∧ checkCreate blankSpec = .ok () ∧
      (blankSpec.kubernetes.bind (·.nodePorts)).map (·.entries) = some [] ∧
      ¬ (blankSpec.nodePorts.map fun entry => some entry.1).Perm (blankSpec.ports.map (·.name)) ∧
      Sends (K8sNetworkStore.create ⟨"dcm"⟩ blankSpec "web-1")
        (buildService blankSpec ⟨"dcm"⟩ (serviceLabels blankSpec "web-1")) ∧
      (serviceToNetwork (buildService blankSpec ⟨"dcm"⟩ (serviceLabels blankSpec "web-1"))
        "web-1").spec.ports = [⟨some "http", none, 80, some .tcp, some 80⟩] ∧
      (serviceToNetwork (buildService blankSpec ⟨"dcm"⟩ (serviceLabels blankSpec "web-1"))
        "web-1").spec.metadata.labels = none := by
  refine ⟨by decide +kernel, by decide +kernel, rfl, ?_, create_sends (by decide +kernel), ?_, ?_⟩
  · intro hperm
    have hlength := hperm.length_eq
    cases hlength
  · decide +kernel
  · decide +kernel

end NetworkServices
