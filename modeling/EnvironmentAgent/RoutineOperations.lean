import EnvironmentAgent.RoutineRules

/-! # What a goroutine may do

A handler calls a provider for its own request and queues no other, and a batch of the retry topic
neither fetches nor publishes again. -/
namespace RoutineOperations

open AtomicPrograms RoutingCloudEvent RoutingEffects RoutingTraces RoutingRouter RetryProcessor
open MessagingHandlers RetryDedup RetryBatches
open RoutingForwarder (resolveProvider forwardAttempts publishOutcome spCallOf IsRead isRetryable)

def ForwardOp (call : SPCall) : Op → Prop
  | .sp c => c = call
  | o => IsForwarding o

theorem resolveProvider_within (serviceType : String) :
    (resolveProvider serviceType).Within (S := routing) IsRead := by
  refine ⟨trivial, fun name => ?_⟩
  match name with
  | none => trivial
  | some name =>
    refine ⟨trivial, fun found => ?_⟩
    match found with
    | .error e => trivial
    | .ok none => trivial
    | .ok (some sp) =>
      change Prog.Within _ (if sp.id = "" then _ else _)
      split
      · trivial
      · refine ⟨trivial, fun status => ?_⟩
        match status with
        | none => trivial
        | some status => trivial

theorem forwardAttempts_within (sp : StoredProvider) (params : RoutingForwarder.ForwardParams)
    (left attempt : ℕ) :
    (forwardAttempts sp params left attempt).Within (S := routing)
      (ForwardOp (spCallOf sp params)) := by
  induction left using Nat.strongRecOn generalizing attempt with
  | ind left ih =>
    unfold forwardAttempts
    refine ⟨rfl, fun x => ?_⟩
    cases x with
    | ok => trivial
    | panicked => trivial
    | err e =>
      refine ⟨trivial, fun ended => ?_⟩
      cases ended with
      | true => trivial
      | false =>
        change Prog.Within _ (if !isRetryable e then _ else _)
        split
        · trivial
        · cases left with
          | zero => trivial
          | succ left =>
            refine ⟨trivial, fun ended => ?_⟩
            cases ended with
            | true => trivial
            | false => exact ih left (Nat.lt_succ_self left) _

variable {o : Op}

section Requests

variable (cfg : RouterConfig) (sp : StoredProvider) (isCreate : Bool) (payload : InboundPayload)

def requestParams : RoutingForwarder.ForwardParams :=
  ⟨payload.resourceID, payload.serviceType, payload.spec, payload.eventID, isCreate⟩

theorem consumeDenied_within (r : String) (call : SPCall) :
    (consumeDenied isCreate r).Within (S := routing) (ForwardOp call) := by
  unfold consumeDenied
  split
  · exact .perform trivial
  · trivial

theorem publishOutcome_within {P : Op → Prop} (h : ∀ t d, P (.publishCE t d)) (t : String)
    (d : ResponseData) : (publishOutcome t d).Within (S := routing) P :=
  ⟨h t d, fun _ => trivial⟩

theorem dispatch_within : (dispatch cfg sp isCreate payload).Within (S := routing)
    (ForwardOp (spCallOf sp (requestParams isCreate payload))) := by
  refine (forwardAttempts_within sp _ _ _).bind fun fwdErr => ?_
  match fwdErr with
  | none =>
    cases isCreate with
    | true => exact (publishOutcome_within (fun _ _ => trivial) _ _).bind fun _ => trivial
    | false => exact (publishOutcome_within (fun _ _ => trivial) _ _).bind fun _ => trivial
  | some .context => trivial
  | some (.sp e) =>
    refine ⟨trivial, fun ended => ?_⟩
    cases ended with
    | true => trivial
    | false => exact (publishOutcome_within (fun _ _ => trivial) _ _).bind fun _ => trivial

theorem forwardWithRetry_within :
    (RoutingRouter.forwardWithRetry cfg sp isCreate payload).Within (S := routing)
      (ForwardOp (spCallOf sp (requestParams isCreate payload))) := by
  refine ⟨trivial, fun locked => ?_⟩
  cases locked with
  | false => trivial
  | true =>
    refine Prog.Within.ensure ⟨trivial, fun newlyAdded => ?_⟩ fun _ => .perform trivial
    refine (consumeDenied_within isCreate _ _).bind fun denied => ?_
    cases denied with
    | true =>
      cases newlyAdded with
      | true => exact ⟨trivial, fun _ => trivial⟩
      | false => trivial
    | false =>
      refine ((dispatch_within cfg sp isCreate payload).ensure fun out => ?_).bind fun _ => trivial
      unfold RoutingRouter.releaseClaim
      split
      · exact .perform trivial
      · trivial

/-- What a handler may do: it calls a provider for the request it was given, and queues that
request only. -/
def RequestOp (cfg : RouterConfig) (msg : Bytes) : Op → Prop
  | .sp c => ∃ isCreate payload sp, parseRequestCE cfg msg = some (isCreate, payload) ∧
    c = spCallOf sp (requestParams isCreate payload)
  | .publish _ data => data = msg
  | .fetchAll _ _ => False
  | _ => True

theorem requestOp_of_read {msg : Bytes} (h : IsRead o) : RequestOp cfg msg o := by
  cases o <;> first | exact h.elim | trivial

theorem handleRequest_within (msg : Bytes) :
    (handleRequest cfg msg).Within (S := routing) (RequestOp cfg msg) := by
  have published : ∀ t d, ((publishOutcome t d) >>= fun _ =>
      pure (none : Option HandlerErr)).Within (S := routing) (RequestOp cfg msg) := fun t d =>
    (publishOutcome_within (fun _ _ => trivial) t d).bind fun _ => trivial
  unfold handleRequest
  split
  · trivial
  rename_i isCreate payload hparse
  split
  · exact published _ _
  refine Prog.Within.bind (p := consumeDenied _ _) ?_ fun denied => ?_
  · unfold consumeDenied
    split
    · exact .perform trivial
    · trivial
  cases denied with
  | true => trivial
  | false =>
    refine Prog.Within.bind (p := resolveProvider _) ((resolveProvider_within _).mono fun o ho =>
      requestOp_of_read cfg ho) fun result => ?_
    match result with
    | .error e => trivial
    | .ok none => exact published _ _
    | .ok (some (_, .unavailable)) => exact published _ _
    | .ok (some (_, .unhealthy)) =>
      refine ⟨rfl, fun stored => ?_⟩
      cases stored with
      | false => trivial
      | true => exact published _ _
    | .ok (some (sp, .ready)) =>
      change Prog.Within _ (if !cfg.forwarder then _ else _)
      split
      · exact published _ _
      · refine (forwardWithRetry_within cfg sp isCreate payload).mono fun o ho => ?_
        cases o <;> first | exact ⟨isCreate, payload, sp, hparse, ho⟩ | exact ho.elim | trivial

theorem handleMainMessage_within (client : ClientConfig) (m : Msg) :
    (handleMainMessage client (handleRequest cfg) m).Within (S := routing)
      (RequestOp cfg m.data) := by
  have handled : (resolveHandled m (handleRequest cfg m.data)).Within (S := routing)
      (RequestOp cfg m.data) := by
    refine (handleRequest_within cfg m.data).bind fun err => ?_
    match err with
    | some _ => exact ⟨trivial, fun _ => trivial⟩
    | none => exact ⟨trivial, fun _ => trivial⟩
  refine Prog.Within.recover ?_ ⟨trivial, fun _ => trivial⟩
  unfold mainMessageBody
  split
  · refine ⟨trivial, fun count => ?_⟩
    match count with
    | none => exact ⟨trivial, fun _ => trivial⟩
    | some n =>
      change Prog.Within _ (if client.maxDeliver ≤ n then _ else _)
      split
      · exact ⟨trivial, fun _ => ⟨trivial, fun _ => trivial⟩⟩
      · exact handled
  · exact handled

end Requests

section Batches

variable (cfg : ProcessorConfig) (sp : StoredProvider)

theorem forwardRequest_within (res : CEResult) : (forwardRequest cfg sp res).Within (S := routing)
    (ForwardOp (spCallOf sp (forwardParams res))) := by
  have released : ∀ b, (RetryProcessor.releaseClaim b res.resourceID).Within (S := routing)
      (ForwardOp (spCallOf sp (forwardParams res))) := by
    intro b
    unfold RetryProcessor.releaseClaim
    split
    · exact .perform trivial
    · trivial
  have body : (claimAndForward cfg sp res).Within (S := routing)
      (ForwardOp (spCallOf sp (forwardParams res))) := by
    refine Prog.Within.bind (p := claim cfg _) ?_ fun newlyAdded => ?_
    · unfold claim
      split
      · exact .perform trivial
      · trivial
    refine Prog.Within.bind (p := deniedCreate res) ?_ fun denied => ?_
    · unfold deniedCreate
      split
      · exact .perform trivial
      · trivial
    cases denied with
    | true => exact (released newlyAdded).bind fun _ => trivial
    | false =>
      refine (forwardAttempts_within sp _ _ _).bind fun fwdErr => ?_
      match fwdErr with
      | none =>
        refine Prog.Within.bind (p := publishAckCE cfg res) ?_ fun _ => trivial
        unfold publishAckCE
        split <;> exact publishOutcome_within (fun _ _ => trivial) _ _
      | some .context => exact (released newlyAdded).bind fun _ => trivial
      | some (.sp e) =>
        refine (released newlyAdded).bind fun _ => ⟨trivial, fun ended => ?_⟩
        cases ended with
        | true => trivial
        | false => exact (publishOutcome_within (fun _ _ => trivial) _ _).bind fun _ => trivial
  unfold forwardRequest
  split
  · exact ⟨trivial, fun _ => trivial⟩
  · split
    · refine ⟨trivial, fun locked => ?_⟩
      cases locked with
      | false => trivial
      | true => exact body.ensure fun _ => .perform trivial
    · exact body

def BatchOp : Op → Prop
  | .fetchAll _ _ | .publish _ _ => False
  | _ => True

theorem batchOp_of_forward {call : SPCall} (h : ForwardOp call o) : BatchOp o := by
  cases o <;> first | exact h.elim | trivial

theorem batchOp_of_read (h : IsRead o) : BatchOp o := by
  cases o <;> first | exact h.elim | trivial

theorem rejectUnavailable_within (m : Msg) (res : CEResult) :
    (rejectUnavailable cfg m res).Within (S := routing) BatchOp :=
  ⟨trivial, fun _ => ⟨trivial, fun _ => trivial⟩⟩

theorem routeMessage_within (m : Msg) (res : CEResult) :
    (routeMessage cfg m res true).Within (S := routing) BatchOp := by
  have naked : (requeueToRetryTopic cfg m true).Within (S := routing) BatchOp :=
    ⟨trivial, fun _ => trivial⟩
  refine ((resolveProvider_within _).mono fun _ => batchOp_of_read).bind fun result => ?_
  match result with
  | .error e => exact ⟨trivial, fun _ => trivial⟩
  | .ok none => exact naked
  | .ok (some (_, .unavailable)) => exact rejectUnavailable_within cfg m res
  | .ok (some (_, .unhealthy)) => exact naked
  | .ok (some (sp, .ready)) =>
    refine ((forwardRequest_within cfg sp res).mono fun _ => batchOp_of_forward).bind fun done => ?_
    cases done with
    | true => exact ⟨trivial, fun _ => trivial⟩
    | false => exact naked

theorem processTransitionItem_within (item : ParsedMessage) :
    (processTransitionItem cfg sp item).Within (S := routing) BatchOp := by
  have forwarded : (do
      let _ ← inProgress item.msg
      if ← forwardRequest cfg sp item.res then
        let _ ← ack item.msg
      else
        let _ ← nakWithDelay item.msg).Within (S := routing) BatchOp := by
    refine ⟨trivial, fun _ => ?_⟩
    refine ((forwardRequest_within cfg sp _).mono fun _ => batchOp_of_forward).bind fun done => ?_
    cases done with
    | true => exact ⟨trivial, fun _ => trivial⟩
    | false => exact ⟨trivial, fun _ => trivial⟩
  refine Prog.Within.bind (p := deniedCreate item.res) ?_ fun denied => ?_
  · unfold deniedCreate
    split
    · exact .perform trivial
    · trivial
  cases denied with
  | true => exact ⟨trivial, fun _ => trivial⟩
  | false =>
    change Prog.Within _ (if item.res.serviceType ≠ sp.serviceType then _ else _)
    split
    · exact ⟨trivial, fun _ => routeMessage_within cfg item.msg item.res⟩
    · refine ((resolveProvider_within _).mono fun _ => batchOp_of_read).bind fun result => ?_
      match result with
      | .error e => exact ⟨trivial, fun _ => trivial⟩
      | .ok none => exact rejectUnavailable_within cfg _ _
      | .ok (some (_, .unavailable)) => exact rejectUnavailable_within cfg _ _
      | .ok (some (_, .unhealthy)) => exact forwarded
      | .ok (some (_, .ready)) => exact forwarded

theorem parseMessages_within (msgs : List Msg) :
    (parseMessages cfg msgs).Within (S := routing) BatchOp := by
  induction msgs with
  | nil => trivial
  | cons m rest ih =>
    unfold parseMessages
    split
    · exact ⟨trivial, fun _ => ih⟩
    · exact ih.bind fun _ => trivial

theorem dedup_within (items : List ParsedMessage) :
    (dedupCreateDeletePairs cfg items).Within (S := routing) BatchOp := by
  have acks : ∀ items, (ackItems items).Within (S := routing) BatchOp := fun items =>
    .each fun _ _ => ⟨trivial, fun _ => trivial⟩
  rw [dedupCreateDeletePairs_eq]
  refine ⟨trivial, fun order => ?_⟩
  refine Prog.Within.bind (p := Prog.each _ _) (.each fun r _ => ?_) fun _ => trivial
  exact (acks _).bind fun _ => (acks _).bind fun _ => publishOutcome_within (fun _ _ => trivial) _ _

theorem batch_within {f : ParsedMessage → Routine Unit}
    (hf : ∀ item, (f item).Within (S := routing) BatchOp) (msgs : List Msg) :
    (batch cfg f msgs).Within (S := routing) BatchOp := by
  refine (parseMessages_within cfg msgs).bind fun items => ?_
  refine (dedup_within cfg items).bind fun items => ?_
  refine Prog.Within.bind (p := heartbeatAll _) (.each fun _ _ => ⟨trivial, fun _ => trivial⟩)
    fun _ => .each fun item _ => hf item

def TransitionOp : Op → Prop
  | .publish _ _ => False
  | _ => True

theorem transitionOp_of_batch (h : BatchOp o) : TransitionOp o := by
  cases o <;> first | exact h.elim | trivial

theorem processOnTransition_within (providerID : String) (toStatus : ProviderStatus) :
    (processOnTransition cfg providerID toStatus).Within (S := routing) TransitionOp := by
  rw [processOnTransition_eq]
  split
  · trivial
  · refine ⟨trivial, fun found => ?_⟩
    match found with
    | .error _ => trivial
    | .ok none => trivial
    | .ok (some sp) =>
      refine ⟨trivial, fun fetched => ?_⟩
      change Prog.Within _ (if fetched.failed then _ else _)
      split
      · trivial
      · refine Prog.Within.bind (p := batch cfg _ _) ?_ fun _ => trivial
        exact (batch_within cfg (processTransitionItem_within cfg sp) _).mono
          fun _ => transitionOp_of_batch

end Batches

end RoutineOperations
