import EnvironmentAgent.RoutingForwarder

/-! # The live path: requests and cancels

`router.go`. A handler returns `none` where the source returns a nil error. -/
namespace RoutingRouter

open AtomicPrograms RoutingCloudEvent RoutingEffects
open RoutingForwarder (resolveProvider publishOutcome publishError terminalProviderErrorData)

/-- `unmarshalEvent` is the CloudEvents SDK; `forwarder` tells whether one is configured. -/
structure RouterConfig where
  unmarshalEvent : Bytes → Option RoutingCloudEvent.Event
  forwarder : Bool
  retryMaxAttempts : ℤ
  agentName : String
  topicName : String
  retryTopic : String

inductive HandlerErr where
  | forwardInFlight
  | store (e : RoutingForwarder.StoreErr)
  | publish
  | context
  | fetch
  | ackCancelled
  | nakNonMatching
  deriving DecidableEq, Repr

def responseCtx (cfg : RouterConfig) (resourceID : String) : ResponseContext :=
  ⟨resourceID, cfg.agentName, cfg.topicName⟩

/-- `none` drops the message: malformed, of another type, or with unparseable data. -/
def parseRequestCE (cfg : RouterConfig) (msg : Bytes) : Option (Bool × InboundPayload) := do
  let event ← cfg.unmarshalEvent msg
  let isCreate ←
    if event.type = typeRequestCreate then some true
    else if event.type = typeRequestDelete then some false
    else none
  let payload ← unmarshalPayload true event.data
  return (isCreate, { payload with eventID := event.id })

def consumeDenied (isCreate : Bool) (resourceID : String) : Routine Bool :=
  if isCreate then consume .denyList resourceID else pure false

/-- The claimed part of a forward. The first component is the `success` flag that the
deferred undo of the claim reads. -/
def dispatch (cfg : RouterConfig) (sp : StoredProvider) (isCreate : Bool)
    (payload : InboundPayload) : Routine (Bool × Option HandlerErr) := do
  let fwdErr ← RoutingForwarder.forwardWithRetry sp
    ⟨payload.resourceID, payload.serviceType, payload.spec, payload.eventID, isCreate⟩
    cfg.retryMaxAttempts
  match fwdErr with
  | none =>
    if isCreate then
      publishOutcome typeCreationAcked
        (.creationAck (responseCtx cfg payload.resourceID) "PROVISIONING")
    else
      publishOutcome typeDeletionAcked
        (.deletionAck (responseCtx cfg payload.resourceID) "DELETING")
    return (true, none)
  | some .context => return (false, some .context)
  | some (.sp e) =>
    if ← ctxErr then return (false, some .context)
    publishOutcome typeError (.error (terminalProviderErrorData e
      payload.serviceType (responseCtx cfg payload.resourceID)))
    return (false, none)

def releaseClaim (newlyAdded : Bool) (resourceID : String)
    (out : Option (Bool × Option HandlerErr)) : Routine Unit :=
  if newlyAdded && !(out.any Prod.fst) then remove .claimedResourcesSet resourceID else pure ()

def claimAndDispatch (cfg : RouterConfig) (sp : StoredProvider) (isCreate : Bool)
    (payload : InboundPayload) : Routine (Option HandlerErr) := do
  let newlyAdded ← addIfAbsent .claimedResourcesSet payload.resourceID
  -- re-check after claiming: a cancel may have been accepted since the first check
  if ← consumeDenied isCreate payload.resourceID then
    if newlyAdded then remove .claimedResourcesSet payload.resourceID
    return none
  let out ← (dispatch cfg sp isCreate payload).ensure (releaseClaim newlyAdded payload.resourceID)
  return out.2

def forwardWithRetry (cfg : RouterConfig) (sp : StoredProvider) (isCreate : Bool)
    (payload : InboundPayload) : Routine (Option HandlerErr) := do
  if !(← lockAddIfAbsent payload.resourceID) then return some .forwardInFlight
  (claimAndDispatch cfg sp isCreate payload).ensure fun _ => lockRemove payload.resourceID

def handleRequest (cfg : RouterConfig) (msg : Bytes) : Routine (Option HandlerErr) :=
  match parseRequestCE cfg msg with
  | none => pure none
  | some (isCreate, payload) => do
    if payload.resourceID = "" ∨ payload.serviceType = "" then
      publishError (responseCtx cfg "") errorInvalidPayload
        "resourceId and serviceType are required"
      return none
    if ← consumeDenied isCreate payload.resourceID then return none
    match ← resolveProvider payload.serviceType with
    | .error e => return some (.store e)
    | .ok none =>
      publishError (responseCtx cfg payload.resourceID) errorUnsupportedServiceType
        ("provider not found for service type: " ++ payload.serviceType)
      return none
    | .ok (some (_, .unavailable)) =>
      publishError (responseCtx cfg payload.resourceID) errorSPUnavailable
        ("provider unavailable for service type: " ++ payload.serviceType)
      return none
    | .ok (some (_, .unhealthy)) =>
      if !(← publish cfg.retryTopic msg) then return some .publish
      publishOutcome typeRequestQueued
        (.requestQueued (responseCtx cfg payload.resourceID) payload.serviceType "QUEUED")
      return none
    | .ok (some (sp, .ready)) =>
      if !cfg.forwarder then
        publishError (responseCtx cfg payload.resourceID) errorSPUnavailable
          ("provider unavailable for service type: " ++ payload.serviceType)
        return none
      forwardWithRetry cfg sp isCreate payload

/-- A message of the retry topic as handed to the cancel path; its type is not passed on. -/
structure RetryMessage where
  msg : Msg
  resourceID : String
  serviceType : String
  deriving DecidableEq, Repr

abbrev RetryFetcher := Routine (Option (List RetryMessage))

/-- Acks the messages with the cancelled id and naks the others in place; the first failed
acknowledgement stops the purge. -/
def purgeMessages (resourceID : String) : List RetryMessage → Routine (Option HandlerErr)
  | [] => pure none
  | m :: rest => do
    if m.resourceID = resourceID then
      if !(← ack m.msg) then return some .ackCancelled
      purgeMessages resourceID rest
    else
      if !(← nakWithDelay m.msg) then return some .nakNonMatching
      purgeMessages resourceID rest

def purgeFromRetryTopic (rc : RetryFetcher) (resourceID : String) :
    Routine (Option HandlerErr) := do
  match ← rc with
  | none => return some .fetch
  | some messages => purgeMessages resourceID messages

def parseCancelCE (cfg : RouterConfig) (msg : Bytes) : Option InboundPayload := do
  let event ← cfg.unmarshalEvent msg
  if event.type ≠ typeRequestCancel then none
  let payload ← unmarshalPayload true event.data
  return { payload with eventID := event.id }

def handleCancel (cfg : RouterConfig) (rc : RetryFetcher) (msg : Bytes) :
    Routine (Option HandlerErr) :=
  match parseCancelCE cfg msg with
  | none => pure none
  | some payload => do
    if payload.resourceID = "" ∨ payload.serviceType = "" then
      publishError (responseCtx cfg "") errorInvalidPayload
        "resourceId and serviceType are required"
      return none
    if ← contains .claimedResourcesSet payload.resourceID then
      publishOutcome typeCancelRejected
        (.cancelRejected (responseCtx cfg payload.resourceID) "resource already claimed")
      return none
    let bound ← retryConsumer
    -- deny early: visible to concurrent transition processing before the purge
    add .denyList payload.resourceID
    let purged ← if bound then purgeFromRetryTopic rc payload.resourceID else pure none
    match purged with
    | some e => return some e
    | none =>
      publishOutcome typeCancelAcked
        (.cancelAck (responseCtx cfg payload.resourceID) payload.serviceType)
      return none

end RoutingRouter
