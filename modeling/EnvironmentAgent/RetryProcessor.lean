import EnvironmentAgent.MessagingTopics
import EnvironmentAgent.RoutingRouter

/-! # The retry processor

`retry/processor.go`. A fetch is one operation, as the fetch mutex makes it for other fetches of
the same consumer; the order in which a map is ranged over is an answer of the runtime. -/
namespace RetryProcessor

open AtomicPrograms RoutingCloudEvent RoutingEffects MessagingTopics
open RoutingForwarder (resolveProvider publishOutcome publishError terminalProviderErrorData)

/-- `forwarder`, `claimedResourcesSet` and `inFlightSet` tell whether the nil-safe
dependency is set. -/
structure ProcessorConfig where
  unmarshalEvent : Bytes → Option RoutingCloudEvent.Event
  forwarder : Bool
  claimedResourcesSet : Bool
  inFlightSet : Bool
  retryMaxAttempts : ℤ
  agentName : String
  topics : TopicNames

structure CEResult where
  resourceID : String
  serviceType : String
  eventID : String
  ceType : String
  spec : Option JsonValue
  deriving DecidableEq, Repr

structure ParsedMessage where
  msg : Msg
  res : CEResult
  deriving DecidableEq, Repr

inductive ProcessorErr where
  | storeLookup (providerID cause : String)
  | fetch
  deriving DecidableEq, Repr

def responseCtx (cfg : ProcessorConfig) (resourceID : String) : ResponseContext :=
  ⟨resourceID, cfg.agentName, cfg.topics.main⟩

/-- Accepts creates, deletes and cancels; the ids are not checked. -/
def parseCE (cfg : ProcessorConfig) (data : Bytes) : Option CEResult := do
  let event ← cfg.unmarshalEvent data
  if event.type = typeRequestCreate ∨ event.type = typeRequestDelete ∨
      event.type = typeRequestCancel then
    let payload ← unmarshalPayload false event.data
    return ⟨payload.resourceID, payload.serviceType, event.id, event.type, payload.spec⟩
  else none

def parseMessages (cfg : ProcessorConfig) : List Msg → Routine (List ParsedMessage)
  | [] => pure []
  | m :: rest =>
    match parseCE cfg m.data with
    | none => do
      let _ ← term m
      parseMessages cfg rest
    | some res => do
      let items ← parseMessages cfg rest
      return ⟨m, res⟩ :: items

structure DedupEntry where
  creates : List ℕ
  deletes : List ℕ
  deriving DecidableEq, Repr

structure DedupMap where
  keys : List String
  entry : String → DedupEntry

def DedupMap.empty : DedupMap := ⟨[], fun _ => ⟨[], []⟩⟩

def DedupEntry.record (e : DedupEntry) (ceType : String) (i : ℕ) : DedupEntry :=
  if ceType = typeRequestCreate then { e with creates := e.creates ++ [i] }
  else if ceType = typeRequestDelete then { e with deletes := e.deletes ++ [i] }
  else e

def DedupMap.record (d : DedupMap) (item : ParsedMessage) (i : ℕ) : DedupMap where
  keys := if item.res.resourceID ∈ d.keys then d.keys else d.keys ++ [item.res.resourceID]
  entry := Function.update d.entry item.res.resourceID
    ((d.entry item.res.resourceID).record item.res.ceType i)

def dedupMap (items : List ParsedMessage) : DedupMap :=
  items.zipIdx.foldl (fun d p => d.record p.1 p.2) .empty

def ackIndices (items : List ParsedMessage) (idxs : List ℕ) : Routine Unit :=
  Prog.each idxs fun i =>
    match items[i]? with
    | some item => do let _ ← ack item.msg
    | none => .raise

def dedupEntries (cfg : ProcessorConfig) (items : List ParsedMessage) (d : DedupMap) :
    List String → List ℕ → Routine (List ℕ)
  | [], deduped => pure deduped
  | resID :: rest, deduped =>
    if (d.entry resID).creates ≠ [] ∧ (d.entry resID).deletes ≠ [] then do
      ackIndices items (d.entry resID).creates
      ackIndices items (d.entry resID).deletes
      publishOutcome typeDeletionAcked (.deletionAck (responseCtx cfg resID) "DELETED")
      dedupEntries cfg items d rest
        (deduped ++ ((d.entry resID).creates ++ (d.entry resID).deletes))
    else dedupEntries cfg items d rest deduped

def surviving (items : List ParsedMessage) (deduped : List ℕ) : List ParsedMessage :=
  (items.zipIdx.filter fun p => decide (p.2 ∉ deduped)).map Prod.fst

def dedupCreateDeletePairs (cfg : ProcessorConfig) (items : List ParsedMessage) :
    Routine (List ParsedMessage) := do
  let order ← rangeMap (dedupMap items).keys
  let deduped ← dedupEntries cfg items (dedupMap items) order.1 []
  if deduped = [] then return items
  return surviving items deduped

def publishAckCE (cfg : ProcessorConfig) (res : CEResult) : Routine Unit :=
  if res.ceType = typeRequestDelete then
    publishOutcome typeDeletionAcked (.deletionAck (responseCtx cfg res.resourceID) "DELETING")
  else
    publishOutcome typeCreationAcked
      (.creationAck (responseCtx cfg res.resourceID) "PROVISIONING")

def deniedCreate (res : CEResult) : Routine Bool :=
  if res.ceType = typeRequestCreate then contains .denyList res.resourceID else pure false

def forwardParams (res : CEResult) : RoutingForwarder.ForwardParams :=
  ⟨res.resourceID, res.serviceType, res.spec, res.eventID,
    decide (res.ceType ≠ typeRequestDelete)⟩

def claim (cfg : ProcessorConfig) (resourceID : String) : Routine Bool :=
  if cfg.claimedResourcesSet then addIfAbsent .claimedResourcesSet resourceID else pure false

def releaseClaim (newlyAdded : Bool) (resourceID : String) : Routine Unit :=
  if newlyAdded then remove .claimedResourcesSet resourceID else pure ()

theorem claim_uses {P : Op → Prop} (cfg : ProcessorConfig) (r : String)
    (h : P (.addIfAbsent .claimedResourcesSet r)) : (claim cfg r).Uses (S := routing) P := by
  unfold claim
  split
  · exact ⟨h, fun _ => trivial⟩
  · trivial

theorem releaseClaim_uses {P : Op → Prop} (newlyAdded : Bool) (r : String)
    (h : P (.remove .claimedResourcesSet r)) :
    (releaseClaim newlyAdded r).Uses (S := routing) P := by
  unfold releaseClaim
  split
  · exact ⟨h, fun _ => trivial⟩
  · trivial

/-- The part of a forward under the lock. The claim is undone on the error paths only, not
by a deferred call. -/
def claimAndForward (cfg : ProcessorConfig) (sp : StoredProvider) (res : CEResult) :
    Routine Bool := do
  let newlyAdded ← claim cfg res.resourceID
  if ← deniedCreate res then
    releaseClaim newlyAdded res.resourceID
    return true
  match ← RoutingForwarder.forwardWithRetry sp (forwardParams res) cfg.retryMaxAttempts with
  | none =>
    publishAckCE cfg res
    return true
  | some .context =>
    releaseClaim newlyAdded res.resourceID
    return false
  | some (.sp e) =>
    releaseClaim newlyAdded res.resourceID
    if ← ctxErr then return false
    publishOutcome typeError (.error (terminalProviderErrorData e
      res.serviceType (responseCtx cfg res.resourceID)))
    return true

def forwardRequest (cfg : ProcessorConfig) (sp : StoredProvider) (res : CEResult) :
    Routine Bool := do
  if !cfg.forwarder then
    publishError (responseCtx cfg res.resourceID) errorSPUnavailable "forwarder not configured"
    return true
  if cfg.inFlightSet then
    if !(← lockAddIfAbsent res.resourceID) then return false
    (claimAndForward cfg sp res).ensure fun _ => lockRemove res.resourceID
  else claimAndForward cfg sp res

/-- A message of the main topic moves by a copy and is acked only when the copy was published. -/
def requeueToRetryTopic (cfg : ProcessorConfig) (m : Msg) (fromRetryTopic : Bool) :
    Routine Unit := do
  if fromRetryTopic then
    let _ ← nakWithDelay m
  else if ← publish cfg.topics.retry m.data then
    let _ ← ack m

def rejectUnavailable (cfg : ProcessorConfig) (m : Msg) (res : CEResult) : Routine Unit := do
  publishError (responseCtx cfg res.resourceID) errorSPUnavailable
    ("provider unavailable for service type: " ++ res.serviceType)
  let _ ← ack m

def routeMessage (cfg : ProcessorConfig) (m : Msg) (res : CEResult) (fromRetryTopic : Bool) :
    Routine Unit := do
  match ← resolveProvider res.serviceType with
  | .error _ => do let _ ← nakWithDelay m
  | .ok none => requeueToRetryTopic cfg m fromRetryTopic
  | .ok (some (sp, .ready)) =>
    if ← forwardRequest cfg sp res then
      let _ ← ack m
    else requeueToRetryTopic cfg m fromRetryTopic
  | .ok (some (_, .unavailable)) => rejectUnavailable cfg m res
  | .ok (some (_, .unhealthy)) => requeueToRetryTopic cfg m fromRetryTopic

def heartbeatAll (msgs : List Msg) : Routine Unit :=
  Prog.each msgs fun m => do let _ ← inProgress m

/-- The status is resolved again, the provider is the one the transition was triggered for. -/
def processTransitionItem (cfg : ProcessorConfig) (sp : StoredProvider) (item : ParsedMessage) :
    Routine Unit := do
  if ← deniedCreate item.res then
    let _ ← ack item.msg
  else if item.res.serviceType ≠ sp.serviceType then
    let _ ← inProgress item.msg
    routeMessage cfg item.msg item.res true
  else
    match ← resolveProvider item.res.serviceType with
    | .error _ => do let _ ← nakWithDelay item.msg
    | .ok none => rejectUnavailable cfg item.msg item.res
    | .ok (some (_, .unavailable)) => rejectUnavailable cfg item.msg item.res
    | .ok (some (_, _)) =>
      let _ ← inProgress item.msg
      if ← forwardRequest cfg sp item.res then
        let _ ← ack item.msg
      else
        let _ ← nakWithDelay item.msg

def processTransitionItems (cfg : ProcessorConfig) (sp : StoredProvider)
    (items : List ParsedMessage) : Routine Unit := do
  heartbeatAll (items.map ParsedMessage.msg)
  Prog.each items (processTransitionItem cfg sp)

def processOnTransition (cfg : ProcessorConfig) (providerID : String) (toStatus : ProviderStatus) :
    Routine (Option ProcessorErr) := do
  if toStatus ≠ .ready ∧ toStatus ≠ .unavailable then return none
  match ← getByID providerID with
  | .error e => return some (.storeLookup providerID e)
  | .ok none => return none
  | .ok (some sp) =>
    let fetched ← fetchAll cfg.topics.retryStream cfg.topics.retryConsumer
    if fetched.failed then return some .fetch
    let items ← parseMessages cfg fetched.msgs
    let items ← dedupCreateDeletePairs cfg items
    processTransitionItems cfg sp items
    return none

def denyCancelled (cfg : ProcessorConfig) (m : Msg) : Routine Unit := do
  match parseCE cfg m.data with
  | none => do let _ ← term m
  | some res =>
    add .denyList res.resourceID
    let _ ← ack m

def drainCancelsToDenyList (cfg : ProcessorConfig) : Routine (Option ProcessorErr) := do
  let fetched ← fetchAll requestStreamName cfg.topics.cancelConsumer
  if fetched.failed then return some .fetch
  Prog.each fetched.msgs (denyCancelled cfg)
  return none

def drainMainMessage (cfg : ProcessorConfig) (m : Msg) : Routine Unit := do
  match parseCE cfg m.data with
  | none => do let _ ← term m
  | some res =>
    if ← deniedCreate res then
      let _ ← ack m
    else
      let _ ← inProgress m
      routeMessage cfg m res false

def drainMainTopic (cfg : ProcessorConfig) : Routine (Option ProcessorErr) := do
  let fetched ← fetchAll requestStreamName cfg.topics.mainConsumer
  if fetched.failed then return some .fetch
  heartbeatAll fetched.msgs
  Prog.each fetched.msgs (drainMainMessage cfg)
  return none

def drainRetryItem (cfg : ProcessorConfig) (item : ParsedMessage) : Routine Unit := do
  if ← deniedCreate item.res then
    let _ ← ack item.msg
  else
    let _ ← inProgress item.msg
    routeMessage cfg item.msg item.res true

def drainRetryTopicWithDedup (cfg : ProcessorConfig) : Routine (Option ProcessorErr) := do
  let fetched ← fetchAll cfg.topics.retryStream cfg.topics.retryConsumer
  if fetched.failed then return some .fetch
  let items ← parseMessages cfg fetched.msgs
  let items ← dedupCreateDeletePairs cfg items
  heartbeatAll (items.map ParsedMessage.msg)
  Prog.each items (drainRetryItem cfg)
  return none

/-- Cancels first, then the main topic, then the retry topic; the first failed fetch ends
the restart processing. -/
def processOnRestart (cfg : ProcessorConfig) : Routine (Option ProcessorErr) := do
  match ← drainCancelsToDenyList cfg with
  | some e => return some e
  | none =>
    match ← drainMainTopic cfg with
    | some e => return some e
    | none => drainRetryTopicWithDedup cfg

/-- Unparseable messages are terminated; of the others only the ids are passed on. -/
def retryMessages (cfg : ProcessorConfig) : List Msg → Routine (List RoutingRouter.RetryMessage)
  | [] => pure []
  | m :: rest =>
    match parseCE cfg m.data with
    | none => do
      let _ ← term m
      retryMessages cfg rest
    | some res => do
      let result ← retryMessages cfg rest
      return ⟨m, res.resourceID, res.serviceType⟩ :: result

def fetchRetryMessages (cfg : ProcessorConfig) : RoutingRouter.RetryFetcher := do
  let fetched ← fetchAll cfg.topics.retryStream cfg.topics.retryConsumer
  if fetched.failed then return none
  let result ← retryMessages cfg fetched.msgs
  return some result

end RetryProcessor
