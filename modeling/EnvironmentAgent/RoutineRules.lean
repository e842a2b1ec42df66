import EnvironmentAgent.MessagingHandlers
import EnvironmentAgent.RetryBatches

/-! # Rules for whole goroutines

A property of what a goroutine does is stated by a monitor. -/
namespace RoutineRules

open AtomicPrograms RoutingCloudEvent RoutingEffects RoutingRouter RetryProcessor
open MessagingHandlers
open RoutingForwarder (IsRead resolveProvider publishOutcome)

def IsQuiet : Op → Prop
  | .addIfAbsent _ _ | .remove _ _ | .lockAddIfAbsent _ | .lockRemove _ | .sp _
  | .backoffTimer _ | .inProgress _ => False
  | .add .claimedResourcesSet _ | .consume .claimedResourcesSet _ => False
  | _ => True

theorem IsRead.quiet {o : Op} (h : IsRead o) : IsQuiet o := by
  cases o <;> first | exact h.elim | trivial

variable {M : Type} {A : Monitor routing M} {I : M → Prop}

def Quiet (A : Monitor routing M) (I : M → Prop) : Prop :=
  ∀ m o, IsQuiet o → I m → A.allowed m o ∧ ∀ x, I (A.next m ⟨o, x⟩)

theorem resolveProvider_preserves (serviceType : String)
    (reads : ∀ m o, IsRead o → I m → A.allowed m o ∧ ∀ x, I (A.next m ⟨o, x⟩)) :
    Preserves A I (resolveProvider serviceType) := by
  refine Preserves.bind (Preserves.perform fun m => reads m _ trivial) fun name => ?_
  match name with
  | none => exact Preserves.pure _
  | some name =>
    refine Preserves.bind (Preserves.perform fun m => reads m _ trivial) fun found => ?_
    match found with
    | .error e => exact Preserves.pure _
    | .ok none => exact Preserves.pure _
    | .ok (some sp) =>
      refine Preserves.ite (fun _ => Preserves.pure _) fun _ => ?_
      refine Preserves.bind (Preserves.perform fun m => reads m _ trivial) fun status => ?_
      match status with
      | none => exact Preserves.pure _
      | some status => exact Preserves.pure _

section Quiet

variable (quiet : Quiet A I)

include quiet

theorem quiet_perform {o : Op} (ho : IsQuiet o) : Preserves A I (Prog.perform (S := routing) o) :=
  Preserves.perform fun m => quiet m o ho

theorem quiet_last {o : Op} (ho : IsQuiet o) : Preserves A I (do
    let _ ← Prog.perform (S := routing) o) :=
  Preserves.bind (quiet_perform quiet ho) fun _ => Preserves.pure ()

theorem resolveProvider_quiet (serviceType : String) :
    Preserves A I (resolveProvider serviceType) :=
  resolveProvider_preserves serviceType fun m o ho => quiet m o (IsRead.quiet ho)

theorem consumeDenied_quiet (isCreate : Bool) (r : String) :
    Preserves A I (consumeDenied isCreate r) :=
  Preserves.ite (fun _ => quiet_perform quiet trivial) fun _ => Preserves.pure false

theorem handleRequest_preserves {cfg : RouterConfig} {msg : Bytes}
    (forward : ∀ sp isCreate payload, parseRequestCE cfg msg = some (isCreate, payload) →
      Preserves A I (RoutingRouter.forwardWithRetry cfg sp isCreate payload)) :
    Preserves A I (handleRequest cfg msg) := by
  have published : ∀ {t d}, Preserves A I (do
      publishOutcome t d
      return (none : Option HandlerErr)) := fun {t d} =>
    Preserves.bind (quiet_last quiet (o := .publishCE t d) trivial) fun _ => Preserves.pure none
  unfold handleRequest
  split
  · exact Preserves.pure none
  rename_i isCreate payload hparse
  refine Preserves.ite (fun _ => published) fun _ => ?_
  refine Preserves.bind (consumeDenied_quiet quiet isCreate _) fun denied => ?_
  refine Preserves.ite (fun _ => Preserves.pure none) fun _ => ?_
  refine Preserves.bind (resolveProvider_quiet quiet _) fun result => ?_
  match result with
  | .error e => exact Preserves.pure _
  | .ok none => exact published
  | .ok (some (_, .unavailable)) => exact published
  | .ok (some (_, .unhealthy)) =>
    refine Preserves.bind (quiet_perform quiet trivial) fun b => ?_
    exact Preserves.ite (fun _ => Preserves.pure _) fun _ => published
  | .ok (some (sp, .ready)) =>
    exact Preserves.ite (fun _ => published) fun _ => forward sp isCreate payload hparse

theorem resolveHandled_preserves {m : Msg} {handler : Routine (Option HandlerErr)}
    (h : Preserves A I handler) : Preserves A I (resolveHandled m handler) := by
  refine Preserves.bind h fun err => ?_
  match err with
  | some _ => exact quiet_last quiet trivial
  | none => exact quiet_last quiet trivial

theorem handleMainMessage_preserves {client : ClientConfig}
    {handler : Bytes → Routine (Option HandlerErr)} {m : Msg}
    (h : Preserves A I (handler m.data)) : Preserves A I (handleMainMessage client handler m) := by
  have handled : Preserves A I (resolveHandled m (handler m.data)) :=
    resolveHandled_preserves quiet h
  refine Preserves.recover ?_ (quiet_last quiet trivial)
  refine Preserves.ite (fun _ => ?_) fun _ => handled
  refine Preserves.bind (quiet_perform quiet trivial) fun count => ?_
  match count with
  | none => exact quiet_last quiet trivial
  | some n =>
    refine Preserves.ite (fun _ => ?_) fun _ => handled
    exact Preserves.bind (quiet_last quiet trivial) fun _ => quiet_last quiet trivial

theorem retryMessages_quiet (pcfg : ProcessorConfig) (msgs : List Msg) :
    Preserves A I (retryMessages pcfg msgs) := by
  induction msgs with
  | nil => exact Preserves.pure []
  | cons m msgs ih =>
    unfold retryMessages
    split
    · exact Preserves.bind (quiet_perform quiet trivial) fun _ => ih
    · exact Preserves.bind ih fun _ => Preserves.pure _

theorem purgeMessages_quiet (r : String) (msgs : List RetryMessage) :
    Preserves A I (purgeMessages r msgs) := by
  induction msgs with
  | nil => exact Preserves.pure none
  | cons m msgs ih =>
    refine Preserves.ite (fun _ => ?_) fun _ => ?_
    · exact Preserves.bind (quiet_perform quiet trivial) fun _ =>
        Preserves.ite (fun _ => Preserves.pure _) fun _ => ih
    · exact Preserves.bind (quiet_perform quiet trivial) fun _ =>
        Preserves.ite (fun _ => Preserves.pure _) fun _ => ih

theorem fetchRetryMessages_quiet (pcfg : ProcessorConfig) :
    Preserves A I (fetchRetryMessages pcfg) := by
  refine Preserves.bind (quiet_perform quiet trivial) fun fetched => ?_
  refine Preserves.ite (fun _ => Preserves.pure none) fun _ => ?_
  exact Preserves.bind (retryMessages_quiet quiet pcfg _) fun _ => Preserves.pure _

def answerPurged (cfg : RouterConfig) (payload : InboundPayload) :
    Option HandlerErr → Routine (Option HandlerErr)
  | some e => return some e
  | none => do
    publishOutcome typeCancelAcked
      (.cancelAck (RoutingRouter.responseCtx cfg payload.resourceID) payload.serviceType)
    return none

theorem handleCancel_quiet (cfg : RouterConfig) (pcfg : ProcessorConfig) (msg : Bytes) :
    Preserves A I (handleCancel cfg (fetchRetryMessages pcfg) msg) := by
  have published : ∀ {t d}, Preserves A I (do
      publishOutcome t d
      return (none : Option HandlerErr)) := fun {t d} =>
    Preserves.bind (quiet_last quiet (o := .publishCE t d) trivial) fun _ => Preserves.pure none
  unfold handleCancel
  split
  · exact Preserves.pure none
  rename_i payload _
  refine Preserves.ite (fun _ => published) fun _ => ?_
  refine Preserves.bind (quiet_perform quiet trivial) fun claimed => ?_
  refine Preserves.ite (fun _ => published) fun _ => ?_
  refine Preserves.bind (quiet_perform quiet trivial) fun bound => ?_
  refine Preserves.bind (quiet_perform quiet trivial) fun _ => ?_
  have ended : ∀ purged, Preserves A I (answerPurged cfg payload purged) := by
    intro purged
    cases purged with
    | some e => exact Preserves.pure _
    | none => exact published
  cases bound with
  | false => exact ended none
  | true =>
    refine Preserves.bind ?_ ended
    refine Preserves.bind (fetchRetryMessages_quiet quiet pcfg) fun messages => ?_
    cases messages with
    | none => exact Preserves.pure _
    | some messages => exact purgeMessages_quiet quiet _ messages

theorem deniedCreate_quiet (res : CEResult) : Preserves A I (deniedCreate res) :=
  Preserves.ite (fun _ => quiet_perform quiet trivial) fun _ => Preserves.pure false

theorem rejectUnavailable_quiet (pcfg : ProcessorConfig) (m : Msg) (res : CEResult) :
    Preserves A I (rejectUnavailable pcfg m res) :=
  Preserves.bind (quiet_last quiet trivial) fun _ => quiet_last quiet trivial

theorem requeueToRetryTopic_quiet (pcfg : ProcessorConfig) (m : Msg) (fromRetryTopic : Bool) :
    Preserves A I (requeueToRetryTopic pcfg m fromRetryTopic) := by
  refine Preserves.ite (fun _ => quiet_last quiet trivial) fun _ => ?_
  refine Preserves.bind (quiet_perform quiet trivial) fun published => ?_
  exact Preserves.ite (fun _ => quiet_last quiet trivial) fun _ => Preserves.pure ()

theorem parseMessages_quiet (pcfg : ProcessorConfig) (msgs : List Msg) :
    Preserves A I (parseMessages pcfg msgs) := by
  induction msgs with
  | nil => exact Preserves.pure []
  | cons m msgs ih =>
    unfold parseMessages
    split
    · exact Preserves.bind (quiet_perform quiet trivial) fun _ => ih
    · exact Preserves.bind ih fun _ => Preserves.pure _

theorem dedupCreateDeletePairs_quiet (pcfg : ProcessorConfig) (items : List ParsedMessage) :
    Preserves A I (dedupCreateDeletePairs pcfg items) := by
  have acks : ∀ l, Preserves A I (RetryDedup.ackItems l) := fun l =>
    Preserves.each fun _ _ => quiet_last quiet trivial
  rw [RetryDedup.dedupCreateDeletePairs_eq]
  refine Preserves.bind (quiet_perform quiet trivial) fun order => ?_
  refine Preserves.bind (Preserves.each fun r _ => ?_) fun _ => Preserves.pure _
  exact Preserves.bind (acks _) fun _ => Preserves.bind (acks _) fun _ => quiet_last quiet trivial

theorem drainCancelsToDenyList_quiet (pcfg : ProcessorConfig) :
    Preserves A I (drainCancelsToDenyList pcfg) := by
  refine Preserves.bind (quiet_perform quiet trivial) fun fetched => ?_
  refine Preserves.ite (fun _ => Preserves.pure _) fun _ => ?_
  refine Preserves.bind (Preserves.each fun m _ => ?_) fun _ => Preserves.pure none
  unfold denyCancelled
  split
  · exact quiet_last quiet trivial
  · exact Preserves.bind (quiet_perform quiet trivial) fun _ => quiet_last quiet trivial

end Quiet

/-- What a monitor has to allow for the forwards of the retry processor: `J g` holds from the
moment a message `g` is reported in progress until it is forwarded. -/
structure Batches (A : Monitor routing M) (cfg : ProcessorConfig) (I : M → Prop)
    (J : Msg → M → Prop) : Prop where
  quiet : Quiet A I
  progress : ∀ m g, I m → A.allowed m (.inProgress g) ∧ ∀ x, J g (A.next m ⟨.inProgress g, x⟩)
  idle : ∀ m g, J g m → I m
  reads : ∀ g m o, IsRead o → J g m → A.allowed m o ∧ ∀ x, J g (A.next m ⟨o, x⟩)
  forward : ∀ sp g res m, parseCE cfg g.data = some res → J g m →
    Follows A (forwardRequest cfg sp res) m fun _ m' => I m'

section Batches

variable {cfg : ProcessorConfig} {J : Msg → M → Prop} (rules : Batches A cfg I J)

include rules

theorem heartbeatAll_preserves (msgs : List Msg) : Preserves A I (heartbeatAll msgs) := by
  refine Preserves.each fun g _ => Preserves.bind (Preserves.perform fun m hm => ?_) fun _ =>
    Preserves.pure ()
  obtain ⟨hallowed, hnext⟩ := rules.progress m g hm
  exact ⟨hallowed, fun x => rules.idle _ g (hnext x)⟩

theorem routeMessage_follows {g : Msg} {res : CEResult} (hparse : parseCE cfg g.data = some res)
    (fromRetryTopic : Bool) {m : M} (hm : J g m) :
    Follows A (routeMessage cfg g res fromRetryTopic) m fun _ m' => I m' := by
  have requeue : Preserves A I (requeueToRetryTopic cfg g fromRetryTopic) :=
    requeueToRetryTopic_quiet rules.quiet cfg g fromRetryTopic
  refine follows_bind.mpr ((resolveProvider_preserves res.serviceType (rules.reads g) m hm).mono ?_)
  intro result m' hm'
  have hidle : I m' := rules.idle m' g hm'
  match result with
  | none => exact hidle
  | some (.error e) => exact quiet_last rules.quiet (o := .nakWithDelay g) trivial m' hidle
  | some (.ok none) => exact requeue m' hidle
  | some (.ok (some (sp, .ready))) =>
    refine follows_bind.mpr ((rules.forward sp g res m' hparse hm').mono ?_)
    intro done u hu
    match done with
    | none => exact hu
    | some true => exact quiet_last rules.quiet (o := .ack g) trivial u hu
    | some false => exact requeue u hu
  | some (.ok (some (_, .unavailable))) =>
    exact rejectUnavailable_quiet rules.quiet cfg g res m' hidle
  | some (.ok (some (_, .unhealthy))) => exact requeue m' hidle

theorem inProgress_route {g : Msg} {res : CEResult} (hparse : parseCE cfg g.data = some res)
    (fromRetryTopic : Bool) : Preserves A I (do
      let _ ← inProgress g
      routeMessage cfg g res fromRetryTopic) := by
  intro m hm
  obtain ⟨hallowed, hnext⟩ := rules.progress m g hm
  exact ⟨hallowed, fun x => routeMessage_follows rules hparse fromRetryTopic (hnext x)⟩

theorem processTransitionItem_preserves (sp : StoredProvider) {item : ParsedMessage}
    (hparse : parseCE cfg item.msg.data = some item.res) :
    Preserves A I (processTransitionItem cfg sp item) := by
  have forward : Preserves A I (do
      let _ ← inProgress item.msg
      if ← forwardRequest cfg sp item.res then
        let _ ← ack item.msg
      else
        let _ ← nakWithDelay item.msg) := by
    intro m hm
    obtain ⟨hallowed, hnext⟩ := rules.progress m item.msg hm
    refine ⟨hallowed, fun x => ?_⟩
    change Follows A (forwardRequest cfg sp item.res >>= _) _ _
    refine follows_bind.mpr ((rules.forward sp item.msg item.res _ hparse (hnext x)).mono ?_)
    intro done u hu
    match done with
    | none => exact hu
    | some true => exact quiet_last rules.quiet (o := .ack item.msg) trivial u hu
    | some false => exact quiet_last rules.quiet (o := .nakWithDelay item.msg) trivial u hu
  refine Preserves.bind (deniedCreate_quiet rules.quiet item.res) fun denied => ?_
  refine Preserves.ite (fun _ => quiet_last rules.quiet trivial) fun _ => ?_
  refine Preserves.ite (fun _ => inProgress_route rules hparse true) fun _ => ?_
  refine Preserves.bind (resolveProvider_quiet rules.quiet _) fun result => ?_
  match result with
  | .error e => exact quiet_last rules.quiet trivial
  | .ok none => exact rejectUnavailable_quiet rules.quiet cfg _ _
  | .ok (some (_, .unavailable)) => exact rejectUnavailable_quiet rules.quiet cfg _ _
  | .ok (some (_, .ready)) => exact forward
  | .ok (some (_, .unhealthy)) => exact forward

theorem drainRetryItem_preserves {item : ParsedMessage}
    (hparse : parseCE cfg item.msg.data = some item.res) :
    Preserves A I (drainRetryItem cfg item) := by
  refine Preserves.bind (deniedCreate_quiet rules.quiet item.res) fun denied => ?_
  exact Preserves.ite (fun _ => quiet_last rules.quiet trivial) fun _ =>
    inProgress_route rules hparse true

theorem drainMainMessage_preserves (g : Msg) : Preserves A I (drainMainMessage cfg g) := by
  unfold drainMainMessage
  split
  · exact quiet_last rules.quiet trivial
  · rename_i res hparse
    refine Preserves.bind (deniedCreate_quiet rules.quiet res) fun denied => ?_
    exact Preserves.ite (fun _ => quiet_last rules.quiet trivial) fun _ =>
      inProgress_route rules hparse false

theorem batch_preserves {f : ParsedMessage → Routine Unit} (msgs : List Msg)
    (hf : ∀ item, parseCE cfg item.msg.data = some item.res → Preserves A I (f item)) :
    Preserves A I (RetryBatches.batch cfg f msgs) := by
  refine Preserves.bind_yields (parseMessages_quiet rules.quiet cfg msgs)
    ((RetryBatches.parseMessages_yields msgs).mono fun r t h a ha =>
      Option.some.inj (ha.symm.trans h.1)) ?_
  rintro _ rfl
  refine Preserves.bind_yields (dedupCreateDeletePairs_quiet rules.quiet cfg _)
    ((RetryBatches.dedup_yields _).mono fun r t h a ha => Option.some.inj (ha.symm.trans h.1)) ?_
  rintro _ rfl
  refine Preserves.bind (heartbeatAll_preserves rules _) fun _ => Preserves.each fun item hitem => ?_
  exact hf item (RetryBatches.mem_parsed.mp (List.mem_of_mem_filter hitem)).2

theorem processOnTransition_preserves (providerID : String) (toStatus : ProviderStatus) :
    Preserves A I (processOnTransition cfg providerID toStatus) := by
  rw [RetryBatches.processOnTransition_eq]
  refine Preserves.ite (fun _ => Preserves.pure none) fun _ => ?_
  refine Preserves.bind (quiet_perform rules.quiet trivial) fun found => ?_
  match found with
  | .error e => exact Preserves.pure _
  | .ok none => exact Preserves.pure _
  | .ok (some sp) =>
    refine Preserves.bind (quiet_perform rules.quiet trivial) fun fetched => ?_
    refine Preserves.ite (fun _ => Preserves.pure _) fun _ => ?_
    exact Preserves.bind (batch_preserves rules _ fun item hitem =>
      processTransitionItem_preserves rules sp hitem) fun _ => Preserves.pure none

theorem drainMainTopic_preserves : Preserves A I (drainMainTopic cfg) := by
  refine Preserves.bind (quiet_perform rules.quiet trivial) fun fetched => ?_
  refine Preserves.ite (fun _ => Preserves.pure _) fun _ => ?_
  refine Preserves.bind (heartbeatAll_preserves rules _) fun _ => ?_
  exact Preserves.bind (Preserves.each fun g _ => drainMainMessage_preserves rules g) fun _ =>
    Preserves.pure none

theorem drainRetryTopic_preserves : Preserves A I (drainRetryTopicWithDedup cfg) := by
  rw [RetryBatches.drainRetryTopic_eq]
  refine Preserves.bind (quiet_perform rules.quiet trivial) fun fetched => ?_
  refine Preserves.ite (fun _ => Preserves.pure _) fun _ => ?_
  exact Preserves.bind (batch_preserves rules _ fun item hitem =>
    drainRetryItem_preserves rules hitem) fun _ => Preserves.pure none

theorem processOnRestart_preserves : Preserves A I (processOnRestart cfg) := by
  refine Preserves.bind (drainCancelsToDenyList_quiet rules.quiet cfg) fun failed => ?_
  match failed with
  | some e => exact Preserves.pure _
  | none =>
    refine Preserves.bind (drainMainTopic_preserves rules) fun failed => ?_
    match failed with
    | some e => exact Preserves.pure _
    | none => exact drainRetryTopic_preserves rules

end Batches

end RoutineRules
