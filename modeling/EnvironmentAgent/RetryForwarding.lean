import EnvironmentAgent.RetryProcessor
import EnvironmentAgent.RoutingTraces

/-! # What a forward of the retry processor does

The provider calls of `forwardRequest`, its response events and the reason for its result. -/
namespace RetryForwarding

open AtomicPrograms RoutingCloudEvent RoutingEffects RoutingTraces RetryProcessor
open RoutingForwarder (publishOutcome ForwardErr spCallOf forwardAttempts
  terminalProviderErrorData StoreErr Resolves)

section Forward

variable (cfg : ProcessorConfig) (sp : StoredProvider) (res : CEResult)

inductive Settled (t : List RoutingEvent) : Prop where
  | unconfigured (h : (typeError, ResponseData.error ⟨responseCtx cfg res.resourceID,
      errorSPUnavailable, ⟨"forwarder not configured", none⟩⟩) ∈ emissions t)
  | denied (create : res.ceType = typeRequestCreate)
      (h : (⟨.contains .denyList res.resourceID, true⟩ : RoutingEvent) ∈ t)
  | succeeded (h : (spCallOf sp (forwardParams res), .ok) ∈ callsIn t)
  | failed (e : SPError) (h : (spCallOf sp (forwardParams res), .err e) ∈ callsIn t)
      (hce : (typeError, ResponseData.error (terminalProviderErrorData e res.serviceType
        (responseCtx cfg res.resourceID))) ∈ emissions t)

/-- The events of `forwardRequest`. It resolves no message and never reports a deletion as
done, which only the dedup does. -/
structure Forward (t : List RoutingEvent) (out : Option Bool) : Prop where
  within : Forwarding t
  calls : ∀ c ∈ callsIn t, c.1 = spCallOf sp (forwardParams res)
  configured : cfg.forwarder = false → callsIn t = []
  undeleted : ∀ e ∈ emissions t, ∀ ctx, e.2 ≠ .deletionAck ctx "DELETED"
  outcome : match out with
    | none => (spCallOf sp (forwardParams res), .panicked) ∈ callsIn t
    | some false => emissions t = []
    | some true => Settled cfg sp res t

variable {cfg sp res} {t u : List RoutingEvent} {out : Option Bool}

theorem Settled.widen (h : Settled cfg sp res t) (before after : List RoutingEvent) :
    Settled cfg sp res (before ++ t ++ after) := by
  cases h with
  | unconfigured h => exact .unconfigured (by simp [h])
  | denied create h => exact .denied create (by simp [h])
  | succeeded h => exact .succeeded (by simp [h])
  | failed e h hce => exact .failed e (by simp [h]) (by simp [hce])

theorem Forward.widen (h : Forward cfg sp res t out) {before after : List RoutingEvent}
    (hb : Silent before) (ha : Silent after) : Forward cfg sp res (before ++ t ++ after) out where
  within := (hb.forwarding.append h.within).append ha.forwarding
  calls := by simpa [hb.no_calls, ha.no_calls] using h.calls
  configured := by simpa [hb.no_calls, ha.no_calls] using h.configured
  undeleted := by simpa [hb.no_emissions, ha.no_emissions] using h.undeleted
  outcome := by
    have h' := h.outcome
    match out with
    | none => simpa [hb.no_calls, ha.no_calls] using h'
    | some false => simpa [hb.no_emissions, ha.no_emissions] using h'
    | some true => exact Settled.widen h' before after

theorem Forward.after_silent (hb : Silent u) (h : Forward cfg sp res t out) :
    Forward cfg sp res (u ++ t) out := by
  have hnil : Silent [] := by simp [Silent]
  simpa using h.widen hb hnil

theorem forward_of_silent (ht : Silent t)
    (hout : match out with
      | none => False
      | some false => True
      | some true => Settled cfg sp res t) : Forward cfg sp res t out where
  within := ht.forwarding
  calls := by simp [ht.no_calls]
  configured := fun _ => ht.no_calls
  undeleted := by simp [ht.no_emissions]
  outcome := by
    match out with
    | none => exact hout.elim
    | some false => exact ht.no_emissions
    | some true => exact hout

theorem deniedCreate_yields : Yields (deniedCreate res) fun r t => Silent t ∧
    ∃ b, r = some b ∧ (b = true → res.ceType = typeRequestCreate ∧
      (⟨.contains .denyList res.resourceID, true⟩ : RoutingEvent) ∈ t) := by
  unfold deniedCreate
  split
  · rename_i hc
    refine fun b => ⟨?_, b, rfl, ?_⟩
    · simp [Silent, IsSilent]
    · rintro rfl
      exact ⟨hc, List.mem_singleton_self _⟩
  · exact ⟨by simp [Silent], false, rfl, by simp⟩

def ackOf (cfg : ProcessorConfig) (res : CEResult) : String × ResponseData :=
  if res.ceType = typeRequestDelete then
    (typeDeletionAcked, .deletionAck (responseCtx cfg res.resourceID) "DELETING")
  else (typeCreationAcked, .creationAck (responseCtx cfg res.resourceID) "PROVISIONING")

theorem publishAckCE_eq :
    publishAckCE cfg res = publishOutcome (ackOf cfg res).1 (ackOf cfg res).2 := by
  unfold publishAckCE ackOf
  split <;> rfl

theorem ackOf_undeleted (ctx : ResponseContext) :
    (ackOf cfg res).2 ≠ .deletionAck ctx "DELETED" := by
  unfold ackOf
  split
  · intro h
    injection h with _ h
    exact absurd h (by decide)
  · nofun

theorem forward_of_attempts {fwdErr : Option ForwardErr} {c : Option (String × ResponseData)}
    {b : Bool} (hf : cfg.forwarder = true)
    (h : Attempts (spCallOf sp (forwardParams res)) t (some fwdErr)) (hu : Silent u)
    (hce : ∀ e ∈ c, ∀ ctx, e.2 ≠ .deletionAck ctx "DELETED")
    {after : List RoutingEvent} (hafter : after = c.toList.map fun e => ⟨.publishCE e.1 e.2, b⟩)
    (hout : match out with
      | none => False
      | some false => c = none
      | some true => Settled cfg sp res (t ++ (u ++ after))) :
    Forward cfg sp res (t ++ (u ++ after)) out := by
  have hforwarding : Forwarding after := by
    subst hafter
    cases c <;> simp [Forwarding, IsForwarding]
  have hcalls : callsIn after = [] := by
    subst hafter
    cases c <;> simp
  have hemissions : emissions after = c.toList := by
    subst hafter
    cases c <;> simp
  refine ⟨h.forwarding.append (hu.forwarding.append hforwarding), ?_,
    fun hf' => by simp [hf] at hf', ?_, ?_⟩
  · simpa [hu.no_calls, hcalls] using h.calls
  · simpa [h.no_emissions, hu.no_emissions, hemissions] using hce
  · rcases out with _ | _ | _
    · exact hout.elim
    · obtain rfl : c = none := hout
      simp [h.no_emissions, hu.no_emissions, hemissions]
    · exact hout

def settleForward (cfg : ProcessorConfig) (res : CEResult) (newlyAdded : Bool) :
    Option ForwardErr → Routine Bool
  | none => do
    publishAckCE cfg res
    return true
  | some .context => do
    releaseClaim newlyAdded res.resourceID
    return false
  | some (.sp e) => do
    releaseClaim newlyAdded res.resourceID
    if ← ctxErr then return false
    publishOutcome typeError (.error (terminalProviderErrorData e
      res.serviceType (responseCtx cfg res.resourceID)))
    return true

theorem claimAndForward_yields (hf : cfg.forwarder = true) :
    Yields (claimAndForward cfg sp res) fun out t => Forward cfg sp res t out := by
  unfold claimAndForward
  refine (claim_uses (P := IsSilent) cfg res.resourceID trivial).yields.bind
    (fun newlyAdded t ht => ?_) fun _ h => absurd h.1 Bool.false_ne_true
  refine Yields.mono ?_ fun _ _ => Forward.after_silent ht.2
  refine deniedCreate_yields.bind ?_ fun _ h => (by simp at h)
  rintro b t ⟨hsilent, _, ⟨⟩, hdenied⟩
  have release := (releaseClaim_uses (P := IsSilent) newlyAdded res.resourceID trivial).yields
  have hnil : Silent [] := by simp [Silent]
  cases b with
  | true =>
    refine release.bind (fun _ u hu => ?_) fun _ h => absurd h.1 Bool.false_ne_true
    obtain ⟨hcreate, hmem⟩ := hdenied rfl
    exact forward_of_silent (hsilent.append (Silent.append hu.2 hnil))
      (.denied hcreate (by simp [hmem]))
  | false =>
    refine Yields.mono ?_ fun _ _ => Forward.after_silent hsilent
    refine (forwardAttempts_yields sp (forwardParams res) _ _).bind (fun fwdErr u hu => ?_) ?_
    · rcases fwdErr with _ | _ | e
      · rw [publishAckCE_eq]
        refine fun _ => forward_of_attempts hf hu hnil (c := some (ackOf cfg res)) ?_ rfl
          (.succeeded (by simp [hu.outcome]))
        simpa using ackOf_undeleted
      · refine release.bind (fun _ v hv => ?_) fun _ h => absurd h.1 Bool.false_ne_true
        exact forward_of_attempts hf hu hv.2 (b := true) (c := none) (by simp) rfl rfl
      · refine release.bind (fun _ v hv => ?_) fun _ h => absurd h.1 Bool.false_ne_true
        refine fun ended => ?_
        have hv' : Silent (v ++ [⟨.ctxErr, ended⟩]) :=
          Silent.append hv.2 (by simp [Silent, IsSilent])
        cases ended with
        | true =>
          show Forward cfg sp res (u ++ (v ++ [⟨.ctxErr, true⟩])) (some false)
          simpa using forward_of_attempts hf hu hv' (b := true) (c := none) (by simp) rfl rfl
        | false =>
          refine fun b => ?_
          have hfailed : Settled cfg sp res (u ++ ((v ++ [⟨.ctxErr, false⟩]) ++
              [⟨.publishCE typeError (.error (terminalProviderErrorData e res.serviceType
                (responseCtx cfg res.resourceID))), b⟩])) :=
            .failed e (by simp [hu.outcome]) (by simp)
          have hce : ∀ c ∈ some (typeError, ResponseData.error (terminalProviderErrorData e
              res.serviceType (responseCtx cfg res.resourceID))), ∀ ctx,
              c.2 ≠ .deletionAck ctx "DELETED" := by simp
          have h : Forward cfg sp res _ (some true) := forward_of_attempts hf hu hv' hce rfl hfailed
          rw [List.append_assoc] at h
          exact h
    · exact fun u hu => ⟨hu.forwarding, hu.calls, fun hf' => by simp [hf] at hf',
        by simp [hu.no_emissions], hu.outcome⟩

theorem forwardRequest_yields :
    Yields (forwardRequest cfg sp res) fun out t => Forward cfg sp res t out := by
  unfold forwardRequest
  split
  · refine fun b => ⟨?_, by simp, by simp, ?_, .unconfigured (by simp)⟩
    · simp [Forwarding, IsForwarding]
    · simp
  · rename_i hf
    have hf : cfg.forwarder = true := by simpa using hf
    split
    · refine fun free => ?_
      cases free with
      | false => exact forward_of_silent (by simp [Silent, IsSilent]) trivial
      | true =>
        refine Yields.ensure (claimAndForward_yields hf) fun r t ht _ => ⟨rfl, ?_⟩
        have hlock : ∀ b, Silent [⟨.lockAddIfAbsent res.resourceID, b⟩] := by
          simp [Silent, IsSilent]
        exact ht.widen (hlock true) (by simp [Silent, IsSilent])
    · exact claimAndForward_yields hf

theorem claim_may (r : String) : May (claim cfg r) fun out _ => ∃ b, out = some b := by
  unfold claim
  split
  · exact ⟨true, true, rfl⟩
  · exact ⟨false, rfl⟩

theorem deniedCreate_may : May (deniedCreate res) fun out _ => out = some false := by
  unfold deniedCreate
  split
  · exact ⟨false, rfl⟩
  · rfl

theorem claimAndForward_may : May (claimAndForward cfg sp res) fun out t =>
    out = some true ∧ emissions t ≠ [] ∧ (spCallOf sp (forwardParams res), .ok) ∈ callsIn t := by
  refine (claim_may res.resourceID).bind ?_
  rintro _ t ⟨b, rfl⟩
  refine ⟨b, rfl, deniedCreate_may.bind ?_⟩
  rintro _ u rfl
  refine ⟨false, rfl, ?_⟩
  change May (do let fwdErr ← forwardAttempts sp (forwardParams res) _ _; _) _
  unfold forwardAttempts
  rw [publishAckCE_eq]
  exact ⟨.ok, true, rfl, by simp, by simp⟩

theorem forwardRequest_may : May (forwardRequest cfg sp res) fun out t =>
    out = some true ∧ emissions t ≠ [] ∧
      (cfg.forwarder = true → (spCallOf sp (forwardParams res), .ok) ∈ callsIn t) := by
  unfold forwardRequest
  split
  · rename_i hf
    exact ⟨true, rfl, by simp, fun h => by simp [h] at hf⟩
  · split
    · refine ⟨true, claimAndForward_may.ensure ?_⟩
      rintro out t ⟨rfl, hce, hcall⟩
      exact ⟨(), rfl, rfl, by simp [hce], fun _ => by simp [hcall]⟩
    · exact claimAndForward_may.mono fun _ _ h => ⟨h.1, h.2.1, fun _ => h.2.2⟩

end Forward

section Items

variable (cfg : ProcessorConfig) (m : Msg) (res : CEResult)

inductive Requeued : Bool → List RoutingEvent → Prop where
  | naked (b : Bool) : Requeued true [⟨.nakWithDelay m, b⟩]
  | unpublished : Requeued false [⟨.publish cfg.topics.retry m.data, false⟩]
  | copied (b : Bool) :
      Requeued false [⟨.publish cfg.topics.retry m.data, true⟩, ⟨.ack m, b⟩]

inductive Rejected : List RoutingEvent → Prop where
  | published (b b' : Bool) : Rejected [⟨.publishCE typeError (.error
      ⟨responseCtx cfg res.resourceID, errorSPUnavailable,
        ⟨"provider unavailable for service type: " ++ res.serviceType, none⟩⟩), b⟩, ⟨.ack m, b'⟩]

inductive Routed (fromRetryTopic : Bool) :
    Except StoreErr (Option (StoredProvider × ProviderStatus)) → List RoutingEvent →
      Option Unit → Prop where
  | storeError (e : StoreErr) (b : Bool) :
      Routed fromRetryTopic (.error e) [⟨.nakWithDelay m, b⟩] (some ())
  | unregistered {t : List RoutingEvent} (h : Requeued cfg m fromRetryTopic t) :
      Routed fromRetryTopic (.ok none) t (some ())
  | unavailable (sp : StoredProvider) {t : List RoutingEvent} (h : Rejected cfg m res t) :
      Routed fromRetryTopic (.ok (some (sp, .unavailable))) t (some ())
  | unhealthy (sp : StoredProvider) {t : List RoutingEvent} (h : Requeued cfg m fromRetryTopic t) :
      Routed fromRetryTopic (.ok (some (sp, .unhealthy))) t (some ())
  | finished {sp : StoredProvider} {t : List RoutingEvent} (h : Forward cfg sp res t (some true))
      (b : Bool) : Routed fromRetryTopic (.ok (some (sp, .ready))) (t ++ [⟨.ack m, b⟩]) (some ())
  | deferred {sp : StoredProvider} {t u : List RoutingEvent}
      (h : Forward cfg sp res t (some false)) (hq : Requeued cfg m fromRetryTopic u) :
      Routed fromRetryTopic (.ok (some (sp, .ready))) (t ++ u) (some ())
  | panicked {sp : StoredProvider} {t : List RoutingEvent} (h : Forward cfg sp res t none) :
      Routed fromRetryTopic (.ok (some (sp, .ready))) t none

variable {cfg m res}

theorem requeue_yields (fromRetryTopic : Bool) :
    Yields (requeueToRetryTopic cfg m fromRetryTopic) fun out t =>
      out = some () ∧ Requeued cfg m fromRetryTopic t := by
  cases fromRetryTopic with
  | true => exact fun b => ⟨rfl, .naked b⟩
  | false =>
    refine fun published => ?_
    cases published with
    | true => exact fun b => ⟨rfl, .copied b⟩
    | false => exact ⟨rfl, .unpublished⟩

theorem reject_yields : Yields (rejectUnavailable cfg m res) fun out t =>
    out = some () ∧ Rejected cfg m res t :=
  fun b b' => ⟨rfl, .published b b'⟩

theorem routeMessage_yields (fromRetryTopic : Bool) :
    Yields (routeMessage cfg m res fromRetryTopic) fun out t => ∃ reads result rest,
      t = reads ++ rest ∧ Resolves res.serviceType reads result ∧
        Routed cfg m res fromRetryTopic result rest out := by
  refine (resolveProvider_yields res.serviceType).bind ?_ nofun
  rintro result reads ⟨_, ⟨⟩, hreads⟩
  have requeue : Yields (requeueToRetryTopic cfg m fromRetryTopic) _ :=
    requeue_yields fromRetryTopic
  match result with
  | .error e => exact fun b => ⟨reads, _, _, rfl, hreads, .storeError e b⟩
  | .ok none =>
    refine requeue.mono ?_
    rintro _ t ⟨rfl, h⟩
    exact ⟨reads, _, t, rfl, hreads, .unregistered h⟩
  | .ok (some (sp, .unavailable)) =>
    refine reject_yields.mono ?_
    rintro _ t ⟨rfl, h⟩
    exact ⟨reads, _, t, rfl, hreads, .unavailable sp h⟩
  | .ok (some (sp, .unhealthy)) =>
    refine requeue.mono ?_
    rintro _ t ⟨rfl, h⟩
    exact ⟨reads, _, t, rfl, hreads, .unhealthy sp h⟩
  | .ok (some (sp, .ready)) =>
    refine forwardRequest_yields.bind (fun done t ht => ?_) fun t ht =>
      ⟨reads, _, t, rfl, hreads, .panicked ht⟩
    cases done with
    | true => exact fun b => ⟨reads, _, _, rfl, hreads, .finished ht b⟩
    | false =>
      refine requeue.mono ?_
      rintro _ u ⟨rfl, h⟩
      exact ⟨reads, _, _, rfl, hreads, .deferred ht h⟩

inductive Passed (res : CEResult) : List RoutingEvent → Prop where
  | create (h : res.ceType = typeRequestCreate) :
      Passed res [⟨.contains .denyList res.resourceID, false⟩]
  | other (h : res.ceType ≠ typeRequestCreate) : Passed res []

theorem Passed.clear {t : List RoutingEvent} (h : Passed res t) : Clear t := by
  cases h <;> exact ⟨rfl, rfl, rfl⟩

inductive Denied (m : Msg) (res : CEResult) : List RoutingEvent → Prop where
  | acked (h : res.ceType = typeRequestCreate) (b : Bool) :
      Denied m res [⟨.contains .denyList res.resourceID, true⟩, ⟨.ack m, b⟩]

theorem checked_yields {α : Type} {p q : Routine α}
    {Q : Option α → List RoutingEvent → Prop}
    (denied : res.ceType = typeRequestCreate →
      Yields p fun out t => Q out (⟨.contains .denyList res.resourceID, true⟩ :: t))
    (passed : ∀ t, Passed res t → Yields q fun out u => Q out (t ++ u)) :
    Yields (do if ← deniedCreate res then p else q) Q := by
  unfold deniedCreate
  split
  · rename_i hc
    refine fun b => ?_
    cases b with
    | true => exact denied hc
    | false => exact passed _ (.create hc)
  · rename_i hc
    exact passed _ (.other hc)

/-- `processTransitionItem` after the resolution; unlike `routeMessage` it goes by the captured
provider. -/
inductive Captured (cfg : ProcessorConfig) (sp : StoredProvider) (item : ParsedMessage) :
    Except StoreErr (Option (StoredProvider × ProviderStatus)) → List RoutingEvent →
      Option Unit → Prop where
  | storeError (e : StoreErr) (b : Bool) :
      Captured cfg sp item (.error e) [⟨.nakWithDelay item.msg, b⟩] (some ())
  | unregistered {t : List RoutingEvent} (h : Rejected cfg item.msg item.res t) :
      Captured cfg sp item (.ok none) t (some ())
  | unavailable (holder : StoredProvider) {t : List RoutingEvent}
      (h : Rejected cfg item.msg item.res t) :
      Captured cfg sp item (.ok (some (holder, .unavailable))) t (some ())
  | forwarded (holder : StoredProvider) {status : ProviderStatus} (hs : status ≠ .unavailable)
      (b : Bool) {t : List RoutingEvent} {done : Bool}
      (h : Forward cfg sp item.res t (some done)) (b' : Bool) :
      Captured cfg sp item (.ok (some (holder, status)))
        (⟨.inProgress item.msg, b⟩ :: (t ++
          [if done then ⟨.ack item.msg, b'⟩ else ⟨.nakWithDelay item.msg, b'⟩])) (some ())
  | panicked (holder : StoredProvider) {status : ProviderStatus} (hs : status ≠ .unavailable)
      (b : Bool) {t : List RoutingEvent} (h : Forward cfg sp item.res t none) :
      Captured cfg sp item (.ok (some (holder, status))) (⟨.inProgress item.msg, b⟩ :: t) none

inductive Transitioned (cfg : ProcessorConfig) (sp : StoredProvider) (item : ParsedMessage) :
    List RoutingEvent → Option Unit → Prop where
  | denied {t : List RoutingEvent} (h : Denied item.msg item.res t) :
      Transitioned cfg sp item t (some ())
  | elsewhere (hne : item.res.serviceType ≠ sp.serviceType) {t reads u : List RoutingEvent}
      (ht : Passed item.res t) (b : Bool)
      {result : Except StoreErr (Option (StoredProvider × ProviderStatus))} {out : Option Unit}
      (hreads : Resolves item.res.serviceType reads result)
      (h : Routed cfg item.msg item.res true result u out) :
      Transitioned cfg sp item (t ++ ⟨.inProgress item.msg, b⟩ :: (reads ++ u)) out
  | captured (heq : item.res.serviceType = sp.serviceType) {t reads u : List RoutingEvent}
      (ht : Passed item.res t)
      {result : Except StoreErr (Option (StoredProvider × ProviderStatus))} {out : Option Unit}
      (hreads : Resolves item.res.serviceType reads result)
      (h : Captured cfg sp item result u out) :
      Transitioned cfg sp item (t ++ (reads ++ u)) out

def forwardCaptured (cfg : ProcessorConfig) (sp : StoredProvider) (item : ParsedMessage) :
    Routine Unit := do
  let _ ← inProgress item.msg
  if ← forwardRequest cfg sp item.res then
    let _ ← ack item.msg
  else
    let _ ← nakWithDelay item.msg

theorem captured_yields {sp : StoredProvider} {item : ParsedMessage} (holder : StoredProvider)
    {status : ProviderStatus} (hs : status ≠ .unavailable) :
    Yields (forwardCaptured cfg sp item) fun out t =>
      Captured cfg sp item (.ok (some (holder, status))) t out := by
  refine fun b => forwardRequest_yields.bind (fun done t ht => ?_) fun t ht =>
    .panicked holder hs b ht
  cases done with
  | true => exact fun b' => .forwarded holder hs b ht b'
  | false => exact fun b' => .forwarded holder hs b ht b'

theorem transitionItem_yields (sp : StoredProvider) (item : ParsedMessage) :
    Yields (processTransitionItem cfg sp item) fun out t => Transitioned cfg sp item t out := by
  refine checked_yields (fun hc b => .denied (.acked hc b)) fun t ht => ?_
  split
  · rename_i hne
    refine fun b => (routeMessage_yields true).mono ?_
    rintro out _ ⟨reads, result, u, rfl, hreads, h⟩
    exact .elsewhere hne ht b hreads h
  · rename_i heq
    refine (resolveProvider_yields item.res.serviceType).bind ?_ nofun
    rintro result reads ⟨_, ⟨⟩, hreads⟩
    refine Yields.mono (Q := fun out u => Captured cfg sp item result u out) ?_ fun out u h =>
      .captured (not_not.mp heq) ht hreads h
    match result with
    | .error e => exact fun b => .storeError e b
    | .ok none => exact reject_yields.mono fun _ _ h => h.1 ▸ .unregistered h.2
    | .ok (some (holder, .unavailable)) =>
      exact reject_yields.mono fun _ _ h => h.1 ▸ .unavailable holder h.2
    | .ok (some (holder, .ready)) => exact captured_yields holder nofun
    | .ok (some (holder, .unhealthy)) => exact captured_yields holder nofun

inductive Drained (cfg : ProcessorConfig) (m : Msg) (res : CEResult) (fromRetryTopic : Bool) :
    List RoutingEvent → Option Unit → Prop where
  | denied {t : List RoutingEvent} (h : Denied m res t) :
      Drained cfg m res fromRetryTopic t (some ())
  | routed {t reads u : List RoutingEvent} (ht : Passed res t) (b : Bool)
      {result : Except StoreErr (Option (StoredProvider × ProviderStatus))} {out : Option Unit}
      (hreads : Resolves res.serviceType reads result)
      (h : Routed cfg m res fromRetryTopic result u out) :
      Drained cfg m res fromRetryTopic (t ++ ⟨.inProgress m, b⟩ :: (reads ++ u)) out

theorem drainRetryItem_yields (item : ParsedMessage) :
    Yields (drainRetryItem cfg item) fun out t => Drained cfg item.msg item.res true t out := by
  refine checked_yields (fun hc b => .denied (.acked hc b)) fun t ht b => ?_
  refine (routeMessage_yields true).mono ?_
  rintro out _ ⟨reads, result, u, rfl, hreads, h⟩
  exact .routed ht b hreads h

theorem drainMainMessage_yields (hparse : parseCE cfg m.data = some res) :
    Yields (drainMainMessage cfg m) fun out t => Drained cfg m res false t out := by
  unfold drainMainMessage
  rw [hparse]
  refine checked_yields (fun hc b => .denied (.acked hc b)) fun t ht b => ?_
  refine (routeMessage_yields false).mono ?_
  rintro out _ ⟨reads, result, u, rfl, hreads, h⟩
  exact .routed ht b hreads h

end Items

end RetryForwarding
