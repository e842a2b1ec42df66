import EnvironmentAgent.ProviderState
import EnvironmentAgent.ProviderValidation
import EnvironmentAgent.SequentialPrograms

/-! # Registration of providers

`provider/service/service.go`, one call at a time: external registrations hold the service's mutex
and the others run before any request is served. A store operation that fails leaves the file as
it was. -/
namespace ProviderService

open AtomicPrograms SequentialPrograms ProviderState ProviderValidation
open RoutingEffects (ProviderStatus)

inductive Op where
  | list
  | getByName (name : String)
  | getByID (id : String)
  | save (p : StoredProvider)
  | delete (name : String)
  | claim (providerName serviceType : String)
  | move (providerName oldType newType : String)
  | release (serviceType : String)
  | lookup (serviceType : String)
  | setState (id : String) (state : HealthState)
  | deleteState (id : String)
  | registerProvider (id : String) (entry : MonitorEntry) (initialState : ProviderStatus)
      (initialCheck : Bool)
  | deregisterProvider (id : String)
  | generateProviderID
  | now
  | restart
  deriving DecidableEq

/-- What `Monitor.RegisterProvider` did: nothing once the monitor has stopped, else the entry and
the result of the initial check, unless it was stopped meanwhile. -/
inductive Monitoring where
  | stopped
  | registered (checked : Option HealthState)
  deriving DecidableEq

/-- Reads answer `none` when they fail, `save` and `delete` whether they succeeded, `claim` and
`move` with the text of their error. -/
@[reducible] def Op.Ans : Op → Type
  | .list => Option Records
  | .getByName _ | .getByID _ => Option (Option StoredProvider)
  | .save _ | .delete _ => Bool
  | .claim _ _ | .move _ _ _ | .lookup _ => Option String
  | .registerProvider _ _ _ _ => Monitoring
  | .generateProviderID => String
  | .now => Time
  | .release _ | .setState _ _ | .deleteState _ | .deregisterProvider _ | .restart => Unit

abbrev registration : Signature := ⟨Op, Op.Ans⟩

abbrev Registration := Prog registration

abbrev op (o : Op) : Registration o.Ans := Prog.perform (S := registration) o

def Admits : (o : Op) → AgentState → o.Ans → Prop
  | .list, s, x => x = none ∨ x = some s.records
  | .getByName name, s, x => x = none ∨ x = some (s.records.getByName name)
  | .getByID id, s, x => x = none ∨ x = some (s.records.getByID id)
  | .save p, _, x => x = true → validateStoredProvider p = none
  | .claim name serviceType, s, x => x = (s.slots.claim name serviceType).1
  | .move name oldType newType, s, x => x = (s.slots.move name oldType newType).1
  | .lookup serviceType, s, x => x = s.slots serviceType
  | .registerProvider _ _ _ initialCheck, _, x =>
    ∀ state, x = .registered (some state) → initialCheck = true
  | .generateProviderID, s, x =>
    x ≠ "" ∧ (∀ p ∈ s.records, p.id ≠ x) ∧ s.states x = none ∧ s.monitored x = none
  | .now, _, x => x ≠ 0
  | _, _, _ => True

def effect : (o : Op) → AgentState → o.Ans → AgentState
  | .save p, s, x => if x then { s with records := s.records.save p } else s
  | .delete name, s, x => if x then { s with records := s.records.delete name } else s
  | .claim name serviceType, s, _ => { s with slots := (s.slots.claim name serviceType).2 }
  | .move name oldType newType, s, _ => { s with slots := (s.slots.move name oldType newType).2 }
  | .release serviceType, s, _ => { s with slots := s.slots.release serviceType }
  | .setState id state, s, _ =>
    if id = "" then s else { s with states := Function.update s.states id (some state) }
  | .deleteState id, s, _ => { s with states := Function.update s.states id none }
  | .registerProvider id entry _ _, s, x =>
    match x with
    | .stopped => s
    | .registered none => { s with monitored := Function.update s.monitored id (some entry) }
    | .registered (some state) =>
      { s with
        monitored := Function.update s.monitored id (some entry)
        states := if id = "" then s.states else Function.update s.states id (some state) }
  | .deregisterProvider id, s, _ => { s with monitored := Function.update s.monitored id none }
  | .restart, s, _ => .restarted s.records
  | _, s, _ => s

def act : Action registration AgentState := fun o s x u => Admits o s x ∧ u = effect o s x

inductive ErrCode where
  | conflict
  | validation
  | notFound
  deriving DecidableEq, Repr

inductive ServiceErr where
  | domain (code : ErrCode) (message : String)
  | store
  deriving DecidableEq, Repr

/-- Whether a monitor is attached, and the service types with a supplied checker. -/
structure ServiceConfig where
  mon : Bool
  embeddedCheckers : String → Bool

def trackExternalProvider (cfg : ServiceConfig) (id endpoint serviceType : String)
    (initialCheck : Bool) : Registration Unit := do
  op (.setState id ⟨.unhealthy, 0⟩)
  if cfg.mon then
    let _ ← op (.registerProvider id ⟨.external endpoint, serviceType⟩ .unhealthy initialCheck)

def ensureIDConsistency (existingID : String) (requestedID : Option String) : Option ServiceErr :=
  match requestedID with
  | none => none
  | some requested =>
    if requested = existingID then none
    else some (.domain .conflict ("provider already exists with ID '" ++ existingID ++
      "'; cannot re-register with different ID '" ++ requested ++ "'"))

def updated (existing : StoredProvider) (input : RegistrationInput) (now : Time) :
    StoredProvider :=
  { existing with
    endpoint := input.endpoint
    serviceType := input.serviceType
    schemaVersion := input.schemaVersion
    displayName := input.displayName
    operations := input.operations
    metadata := input.metadata
    updateTime := now }

def saveUpdate (cfg : ServiceConfig) (existing : StoredProvider) (input : RegistrationInput)
    (moved : Bool) : Registration (Except ServiceErr StoredProvider) := do
  let now ← op .now
  if ← op (.save (updated existing input now)) then
    if existing.endpoint ≠ input.endpoint ∨ moved then
      trackExternalProvider cfg existing.id input.endpoint input.serviceType true
      return .ok (updated existing input now)
    else return .ok (updated existing input now)
  else if moved then
    let _ ← op (.move existing.name input.serviceType existing.serviceType)
    return .error .store
  else return .error .store

def updateRegistration (cfg : ServiceConfig) (existing : StoredProvider)
    (input : RegistrationInput) : Registration (Except ServiceErr StoredProvider) :=
  if existing.serviceType ≠ input.serviceType then do
    match ← op (.move existing.name existing.serviceType input.serviceType) with
    | some message => return .error (.domain .conflict message)
    | none => saveUpdate cfg existing input true
  else saveUpdate cfg existing input false

def assignProviderID (requestedID : Option String) : Registration (Except ServiceErr String) :=
  match requestedID with
  | none => do return .ok (← op .generateProviderID)
  | some requested =>
    if requested = "" then return .error (.domain .validation "provider ID must not be empty")
    else do
      match ← op (.getByID requested) with
      | none => return .error .store
      | some (some holder) => return .error (.domain .conflict ("provider ID '" ++ requested ++
          "' is already used by provider '" ++ holder.name ++ "'"))
      | some none => return .ok requested

def externalRecord (id : String) (input : RegistrationInput) (now : Time) : StoredProvider :=
  ⟨id, input.name, input.endpoint, input.serviceType, input.schemaVersion, input.displayName,
    input.operations, input.metadata, .external, now, now⟩

def createRegistration (cfg : ServiceConfig) (id : String) (input : RegistrationInput) :
    Registration (Except ServiceErr StoredProvider) := do
  match ← op (.claim input.name input.serviceType) with
  | some message => return .error (.domain .conflict message)
  | none => do
    let now ← op .now
    if ← op (.save (externalRecord id input now)) then
      trackExternalProvider cfg id input.endpoint input.serviceType true
      return .ok (externalRecord id input now)
    else
      op (.release input.serviceType)
      return .error .store

def registerExisting (cfg : ServiceConfig) (existing : StoredProvider)
    (input : RegistrationInput) : Registration (Except ServiceErr (StoredProvider × Bool)) :=
  match ensureIDConsistency existing.id input.providerID with
  | some err => return .error err
  | none => do return (← updateRegistration cfg existing input).map fun p => (p, false)

def registerNew (cfg : ServiceConfig) (input : RegistrationInput) :
    Registration (Except ServiceErr (StoredProvider × Bool)) := do
  match ← assignProviderID input.providerID with
  | .error err => return .error err
  | .ok id => return (← createRegistration cfg id input).map fun p => (p, true)

def registerLocked (cfg : ServiceConfig) (input : RegistrationInput) :
    Registration (Except ServiceErr (StoredProvider × Bool)) := do
  match ← op (.getByName input.name) with
  | none => return .error .store
  | some (some existing) => registerExisting cfg existing input
  | some none => registerNew cfg input

def loadProvider (cfg : ServiceConfig) (p : StoredProvider) : Registration Unit :=
  if p.type ≠ .external then return
  else do
    match ← op (.claim p.name p.serviceType) with
    | some _ => return
    | none => trackExternalProvider cfg p.id p.endpoint p.serviceType false

def loadPersisted (cfg : ServiceConfig) : Registration (Option ServiceErr) := do
  match ← op .list with
  | none => return some .store
  | some providers => do
    Prog.each providers (loadProvider cfg)
    return none

def cleanupEmbeddedRecord (cfg : ServiceConfig) (p : StoredProvider) : Registration Unit := do
  let _ ← op (.delete p.name)
  op (.deleteState p.id)
  if cfg.mon then op (.deregisterProvider p.id)

def removeStale (cfg : ServiceConfig) (enabled : List String) (p : StoredProvider) :
    Registration Unit :=
  if p.type = .embedded ∧ p.serviceType ∉ enabled then do
    if (← op (.lookup p.serviceType)) = some p.name then
      op (.release p.serviceType)
      cleanupEmbeddedRecord cfg p
    else cleanupEmbeddedRecord cfg p
  else return

def removeStaleEmbedded (cfg : ServiceConfig) (enabled : List String) : Registration Unit := do
  match ← op .list with
  | none => return
  | some all => Prog.each all (removeStale cfg enabled)

def embeddedChecker (cfg : ServiceConfig) (serviceType : String) : Checker :=
  if cfg.embeddedCheckers serviceType then .supplied serviceType else .default serviceType

def resolveEmbeddedIdentity (existing : Option StoredProvider) (now : Time) :
    Registration (String × Time) :=
  match existing with
  | none => do return (← op .generateProviderID, now)
  | some p =>
    if p.type ≠ .embedded then do return (← op .generateProviderID, now)
    else do
      let id ← if p.id = "" then op .generateProviderID else pure p.id
      return (id, if p.createTime = 0 then now else p.createTime)

def embeddedRecord (st id : String) (createTime now : Time) : StoredProvider :=
  ⟨id, st, "embedded://" ++ st, st, "v1alpha1", none, none, [], .embedded, createTime, now⟩

def monitorEmbedded (cfg : ServiceConfig) (st id : String) (now : Time) : Registration Unit :=
  if cfg.mon then do
    let _ ← op (.registerProvider id ⟨embeddedChecker cfg st, st⟩ .ready true)
  else op (.setState id ⟨.ready, now⟩)

/-- The registration once the slot is claimed. A failed save keeps a provider that already has a
record. -/
def saveEmbedded (cfg : ServiceConfig) (st : String) (existing : Option StoredProvider) :
    Registration Unit := do
  let now ← op .now
  let (id, createTime) ← resolveEmbeddedIdentity existing now
  let persisted ← op (.save (embeddedRecord st id createTime now))
  if persisted = false ∧ existing = none then op (.release st)
  else monitorEmbedded cfg st id now

def registerEmbeddedType (cfg : ServiceConfig) (st : String) : Registration Unit := do
  match ← op (.getByName st) with
  | none => return
  | some existing =>
    if existing.any fun p => p.type = .external then return
    else do
      match ← op (.claim st st), existing with
      | some _, some p => cleanupEmbeddedRecord cfg p
      | some _, none => return
      | none, existing => saveEmbedded cfg st existing

def enabledTypes (serviceTypes : List String) : List String :=
  (serviceTypes.map trimSpace).filter fun st => st ≠ ""

def registerEmbedded (cfg : ServiceConfig) (serviceTypes : List String) : Registration Unit := do
  removeStaleEmbedded cfg (enabledTypes serviceTypes)
  Prog.each (enabledTypes serviceTypes) (registerEmbeddedType cfg)

def createProvider (cfg : ServiceConfig) (syn : URLSyntax) (request : CreateProviderRequest) :
    Registration Unit :=
  match validateRequest syn request with
  | .error _ => return
  | .ok input => do let _ ← registerLocked cfg input

/-- `restart` ends the process and starts another on the same file. -/
inductive Call where
  | restart
  | loadPersisted
  | registerEmbedded (serviceTypes : List String)
  | createProvider (request : CreateProviderRequest)

def Call.body (cfg : ServiceConfig) (syn : URLSyntax) : Call → Registration Unit
  | .restart => op .restart
  | .loadPersisted => do let _ ← ProviderService.loadPersisted cfg
  | .registerEmbedded serviceTypes => ProviderService.registerEmbedded cfg serviceTypes
  | .createProvider request => ProviderService.createProvider cfg syn request

def Writes : Op → Prop
  | .save _ | .delete _ => True
  | _ => False

theorem records_kept {o : Op} (ho : ¬ Writes o) {s u : AgentState} {x : o.Ans}
    (h : act o s x u) : u.records = s.records := by
  obtain ⟨_, rfl⟩ := h
  cases o with
  | save p => exact absurd trivial ho
  | delete name => exact absurd trivial ho
  | setState id state => simp only [effect]; split <;> rfl
  | registerProvider id entry st check => simp only [effect]; split <;> rfl
  | _ => rfl

structure Tracks (id : String) (s u : AgentState) : Prop where
  records : u.records = s.records
  slots : u.slots = s.slots
  states : ∀ other, other ≠ id → u.states other = s.states other
  monitored : ∀ other, other ≠ id → u.monitored other = s.monitored other

def TracksOp (id : String) : Op → Prop
  | .setState i _ => i = id
  | .registerProvider i _ _ _ => i = id
  | _ => False

theorem tracks_of_act {id : String} {o : Op} (ho : TracksOp id o) {s u : AgentState} {x : o.Ans}
    (h : act o s x u) : Tracks id s u := by
  obtain ⟨_, rfl⟩ := h
  cases o with
  | setState i state =>
    have hi : i = id := ho
    subst hi
    simp only [effect]
    split
    · exact ⟨rfl, rfl, fun _ _ => rfl, fun _ _ => rfl⟩
    · exact ⟨rfl, rfl, fun other hne => Function.update_of_ne hne _ _, fun _ _ => rfl⟩
  | registerProvider i entry st check =>
    have hi : i = id := ho
    subst hi
    simp only [effect]
    split
    · exact ⟨rfl, rfl, fun _ _ => rfl, fun _ _ => rfl⟩
    · exact ⟨rfl, rfl, fun _ _ => rfl, fun other hne => Function.update_of_ne hne _ _⟩
    · refine ⟨rfl, rfl, fun other hne => ?_, fun other hne => Function.update_of_ne hne _ _⟩
      dsimp only
      split
      · rfl
      · exact Function.update_of_ne hne _ _
  | _ => exact False.elim ho

theorem Tracks.refl (id : String) (s : AgentState) : Tracks id s s :=
  ⟨rfl, rfl, fun _ _ => rfl, fun _ _ => rfl⟩

theorem Tracks.trans {id : String} {s v u : AgentState} (h : Tracks id s v) (h' : Tracks id v u) :
    Tracks id s u :=
  ⟨h'.records.trans h.records, h'.slots.trans h.slots,
    fun other hne => (h'.states other hne).trans (h.states other hne),
    fun other hne => (h'.monitored other hne).trans (h.monitored other hne)⟩

theorem trackExternalProvider_uses (cfg : ServiceConfig) (id endpoint st : String) (b : Bool) :
    (trackExternalProvider cfg id endpoint st b).Uses (TracksOp id) := by
  refine ⟨rfl, fun _ => ?_⟩
  change Prog.Uses _ (if _ then _ else _)
  split
  · exact ⟨rfl, fun _ => trivial⟩
  · trivial

theorem trackExternalProvider_tracks (cfg : ServiceConfig) (id endpoint st : String) (b : Bool)
    {s : AgentState} :
    Ensures act (trackExternalProvider cfg id endpoint st b) s fun _ u => Tracks id s u :=
  Ensures.of_uses (trackExternalProvider_uses cfg id endpoint st b)
    (Tracks.refl id) (fun _ _ _ h h' => h.trans h')
    fun _ ho _ _ _ h => tracks_of_act ho h

end ProviderService
