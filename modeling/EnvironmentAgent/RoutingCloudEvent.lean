import Mathlib.Data.Int.Notation
import Mathlib.Data.List.Basic

/-! # Inbound requests and outbound events

The CloudEvents SDK is the parameter `unmarshalEvent` of the programs. What follows the envelope is
the agent's own: the payload structs, their field matching and the two parsers that read them. A
payload is JSON text, kept down to the top level that the struct decoder looks at. -/
namespace RoutingCloudEvent

abbrev Bytes := List UInt8

def typeError := "dcm.agent.error"
def typeRequestQueued := "dcm.agent.request-queued"
def typeCancelAcked := "dcm.agent.cancel-acknowledged"
def typeCancelRejected := "dcm.agent.cancel-rejected"
def typeCreationAcked := "dcm.agent.creation-acknowledged"
def typeDeletionAcked := "dcm.agent.deletion-acknowledged"
def typeRequestCreate := "dcm.request.create"
def typeRequestDelete := "dcm.request.delete"
def typeRequestCancel := "dcm.request.cancel"

def errorUnsupportedServiceType := "UNSUPPORTED_SERVICE_TYPE"
def errorSPUnavailable := "SP_UNAVAILABLE"
def errorRetryExhausted := "RETRY_EXHAUSTED"
def errorNonRetryable := "NON_RETRYABLE_SP_ERROR"
def errorInvalidPayload := "INVALID_PAYLOAD"
def errorMaxDeliveryExceeded := "MAX_DELIVERY_EXCEEDED"

/-- A member value as the struct decoder distinguishes it. `raw` keeps the literal text of
a number, boolean, array or object. -/
inductive JsonValue where
  | null
  | str (s : String)
  | raw (text : String)
  deriving DecidableEq, Repr

inductive JsonText where
  | obj (members : List (String × JsonValue))
  | null
  | other (text : String)
  deriving DecidableEq, Repr

/-- `data` is `none` when the event carries no valid JSON text. -/
structure Event where
  type : String
  id : String
  data : Option JsonText
  deriving DecidableEq, Repr

def foldRune (c : Char) : Char :=
  if c = 'ſ' then 's' else if c = 'K' then 'k' else c.toLower

def matchesField (field key : String) : Bool :=
  key == field || key.toList.map foldRune == field.toList.map foldRune

structure InboundPayload where
  resourceID : String
  serviceType : String
  spec : Option JsonValue
  eventID : String
  deriving DecidableEq, Repr

/-- A string field: a string sets it, `null` leaves it, anything else is a type error. -/
def decodeString (old : String) : JsonValue → Option String
  | .str s => some s
  | .null => some old
  | .raw _ => none

/-- One member into `inboundPayload`. `eventIDField` is true for the router's struct, which has an
untagged field `EventID`. -/
def decodeMember (eventIDField : Bool) (p : InboundPayload) (key : String) (v : JsonValue) :
    Option InboundPayload :=
  if matchesField "resource_id" key then
    (decodeString p.resourceID v).map fun s => { p with resourceID := s }
  else if matchesField "service_type" key then
    (decodeString p.serviceType v).map fun s => { p with serviceType := s }
  else if matchesField "spec" key then some { p with spec := some v }
  else if eventIDField && matchesField "EventID" key then
    (decodeString p.eventID v).map fun s => { p with eventID := s }
  else some p

def decodeMembers (eventIDField : Bool) (p : InboundPayload) :
    List (String × JsonValue) → Option InboundPayload
  | [] => some p
  | (key, v) :: rest => (decodeMember eventIDField p key v).bind fun q =>
      decodeMembers eventIDField q rest

def unmarshalPayload (eventIDField : Bool) : Option JsonText → Option InboundPayload
  | some (.obj members) => decodeMembers eventIDField ⟨"", "", none, ""⟩ members
  | some .null => some ⟨"", "", none, ""⟩
  | some (.other _) => none
  | none => none

structure ResponseContext where
  resourceID : String
  agentName : String
  topicName : String
  deriving DecidableEq, Repr

structure ProviderErrorData where
  statusCode : ℤ
  message : String
  deriving DecidableEq, Repr

structure ErrorDetails where
  message : String
  providerError : Option ProviderErrorData := none
  deriving DecidableEq, Repr

structure ErrorData where
  ctx : ResponseContext
  error : String
  details : ErrorDetails
  deriving DecidableEq, Repr

inductive ResponseData where
  | error (d : ErrorData)
  | requestQueued (ctx : ResponseContext) (serviceType status : String)
  | creationAck (ctx : ResponseContext) (status : String)
  | deletionAck (ctx : ResponseContext) (status : String)
  | cancelAck (ctx : ResponseContext) (serviceType : String)
  | cancelRejected (ctx : ResponseContext) (reason : String)
  deriving DecidableEq, Repr

def ResponseData.ctx : ResponseData → ResponseContext
  | .error d => d.ctx
  | .requestQueued c _ _ => c
  | .creationAck c _ => c
  | .deletionAck c _ => c
  | .cancelAck c _ => c
  | .cancelRejected c _ => c

/-- A delivered message with its consumer sequence number, which every delivery gets anew:
it stands for the handle that is acknowledged. -/
structure Msg where
  seq : ℕ
  data : Bytes
  deriving DecidableEq, Repr

def requestText (ceType id resourceID serviceType : String) : String :=
  "\x7b\"specversion\":\"1.0\",\"source\":\"dcm\",\"type\":\"" ++ ceType ++ "\",\"id\":\"" ++ id ++
    "\",\"data\":\x7b\"resource_id\":\"" ++ resourceID ++ "\",\"service_type\":\"" ++ serviceType ++
    "\"\x7d\x7d"

def requestBytes (ceType id resourceID serviceType : String) : Bytes :=
  (requestText ceType id resourceID serviceType).toUTF8.data.toList

def requestEvent (ceType id resourceID serviceType : String) : Event :=
  ⟨ceType, id, some (.obj [("resource_id", .str resourceID), ("service_type", .str serviceType)])⟩

def decodeAmong (requests : List (String × String × String × String)) (data : Bytes) :
    Option Event :=
  (requests.map fun q => (requestBytes q.1 q.2.1 q.2.2.1 q.2.2.2,
    requestEvent q.1 q.2.1 q.2.2.1 q.2.2.2)).lookup data

example : unmarshalPayload true (some (.obj [("Resource_ID", .str "r"), ("service_type", .str "t"),
    ("eventid", .raw "7")])) = none := by decide
example : unmarshalPayload false (some (.obj [("Resource_ID", .str "r"), ("service_type", .str "t"),
    ("eventid", .raw "7")])) = some ⟨"r", "t", none, ""⟩ := by decide

end RoutingCloudEvent
