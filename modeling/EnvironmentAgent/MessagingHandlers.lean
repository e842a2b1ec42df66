import EnvironmentAgent.RoutingRouter

/-! # Message handlers

`messaging/handlers.go`: what happens to a delivered message around the handler call. -/
namespace MessagingHandlers

open AtomicPrograms RoutingCloudEvent RoutingEffects RoutingRouter

structure ClientConfig where
  maxDeliver : ℤ
  agentName : String
  topicName : String
  extractResourceID : Bytes → String

def validateMaxDeliver (maxDeliver : ℤ) : Option String :=
  if maxDeliver < 1 ∨ 100 < maxDeliver then
    some ("AGENT_MESSAGING_MAX_DELIVER: value " ++ toString maxDeliver ++
      " is outside valid range [1, 100]")
  else none

def publishMaxDeliverError (cfg : ClientConfig) (m : Msg) : Routine Unit := do
  let _ ← publishCE typeError (.error ⟨⟨cfg.extractResourceID m.data, cfg.agentName, cfg.topicName⟩,
    errorMaxDeliveryExceeded, ⟨"max delivery attempts exceeded", none⟩⟩)

def resolveHandled (m : Msg) (handler : Routine (Option HandlerErr)) : Routine Unit := do
  match ← handler with
  | some _ => do let _ ← nakWithDelay m
  | none => do let _ ← ack m

def mainMessageBody (cfg : ClientConfig) (handler : Bytes → Routine (Option HandlerErr))
    (m : Msg) : Routine Unit := do
  if 0 < cfg.maxDeliver then
    match ← metadata m with
    | none => do let _ ← nak m
    | some numDelivered =>
      if cfg.maxDeliver ≤ numDelivered then
        publishMaxDeliverError cfg m
        let _ ← term m
      else resolveHandled m (handler m.data)
  else resolveHandled m (handler m.data)

def handleMainMessage (cfg : ClientConfig) (handler : Bytes → Routine (Option HandlerErr))
    (m : Msg) : Routine Unit :=
  (mainMessageBody cfg handler m).recover do let _ ← nakWithDelay m

def handleCancelMessage (handler : Bytes → Routine (Option HandlerErr)) (m : Msg) :
    Routine Unit :=
  (resolveHandled m (handler m.data)).recover do let _ ← nakWithDelay m

end MessagingHandlers
