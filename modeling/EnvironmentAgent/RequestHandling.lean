import EnvironmentAgent.RoutingRouter
import EnvironmentAgent.RoutingTraces

/-! # What a request handler of the router does

The executions of `handleRequest`, branch by branch: what is read, what is published and
forwarded, and the result. -/
namespace RequestHandling

open AtomicPrograms RoutingCloudEvent RoutingEffects RoutingTraces RoutingRouter
open RoutingForwarder (publishOutcome spCallOf ForwardParams
  terminalProviderErrorData StoreErr Resolves)

def paramsOf (isCreate : Bool) (payload : InboundPayload) : ForwardParams :=
  ⟨payload.resourceID, payload.serviceType, payload.spec, payload.eventID, isCreate⟩

variable {out : Option (Option HandlerErr)}

section Dispatch

variable (cfg : RouterConfig) (sp : StoredProvider) (isCreate : Bool) (payload : InboundPayload)

inductive Concluded (t : List RoutingEvent) : Prop where
  | denied (create : isCreate = true)
      (h : (⟨.consume .denyList payload.resourceID, true⟩ : RoutingEvent) ∈ t)
  | answered (h : (spCallOf sp (paramsOf isCreate payload), .ok) ∈ callsIn t)
  | failed (e : SPError) (h : (spCallOf sp (paramsOf isCreate payload), .err e) ∈ callsIn t)
      (hce : (typeError, ResponseData.error (terminalProviderErrorData e payload.serviceType
        (responseCtx cfg payload.resourceID))) ∈ emissions t)

structure Dispatched (t : List RoutingEvent) (out : Option (Option HandlerErr)) : Prop where
  within : Forwarding t
  calls : ∀ c ∈ callsIn t, c.1 = spCallOf sp (paramsOf isCreate payload)
  outcome : match out with
    | none => (spCallOf sp (paramsOf isCreate payload), .panicked) ∈ callsIn t
    | some none => Concluded cfg sp isCreate payload t
    | some (some e) => e = .context ∧ emissions t = []

variable {cfg sp isCreate payload} {t u : List RoutingEvent}

theorem Concluded.widen (h : Concluded cfg sp isCreate payload t)
    (before after : List RoutingEvent) :
    Concluded cfg sp isCreate payload (before ++ t ++ after) := by
  cases h with
  | denied create h => exact .denied create (by simp [h])
  | answered h => exact .answered (by simp [h])
  | failed e h hce => exact .failed e (by simp [h]) (by simp [hce])

theorem Dispatched.widen (h : Dispatched cfg sp isCreate payload t out)
    {before after : List RoutingEvent} (hb : Silent before) (ha : Silent after) :
    Dispatched cfg sp isCreate payload (before ++ t ++ after) out where
  within := (hb.forwarding.append h.within).append ha.forwarding
  calls := by simpa [hb.no_calls, ha.no_calls] using h.calls
  outcome := by
    have h' := h.outcome
    match out with
    | none => simpa [hb.no_calls, ha.no_calls] using h'
    | some none => exact Concluded.widen h' before after
    | some (some e) => simpa [hb.no_emissions, ha.no_emissions] using h'

theorem consumeDenied_yields : Yields (consumeDenied isCreate payload.resourceID) fun r t =>
    Silent t ∧ ∃ b, r = some b ∧ (b = true → isCreate = true ∧
      (⟨.consume .denyList payload.resourceID, true⟩ : RoutingEvent) ∈ t) := by
  cases isCreate with
  | true =>
    refine fun b => ⟨by simp [Silent, IsSilent], b, rfl, ?_⟩
    rintro rfl
    exact ⟨rfl, List.mem_singleton_self _⟩
  | false => exact ⟨by simp [Silent], false, rfl, by simp⟩

theorem dispatch_yields : Yields (dispatch cfg sp isCreate payload) fun out t =>
    Dispatched cfg sp isCreate payload t (out.map Prod.snd) := by
  refine (forwardAttempts_yields sp (paramsOf isCreate payload) _ _).bind (fun fwdErr t ht => ?_) ?_
  · match fwdErr with
    | none =>
      have hce : ∀ ceType d b, Dispatched cfg sp isCreate payload
          (t ++ [⟨.publishCE ceType d, b⟩]) (some none) := fun ceType d b =>
        ⟨ht.forwarding.append (by simp [Forwarding, IsForwarding]), by simpa using ht.calls,
          .answered (by simp [ht.outcome])⟩
      cases isCreate with
      | true => exact fun b => hce _ _ b
      | false => exact fun b => hce _ _ b
    | some .context =>
      exact ⟨by simpa using ht.forwarding, by simpa using ht.calls, rfl, by simp [ht.no_emissions]⟩
    | some (.sp e) =>
      refine fun ended => ?_
      cases ended with
      | true =>
        exact ⟨ht.forwarding.append (by simp [Forwarding, IsForwarding, IsSilent]),
          by simpa using ht.calls, rfl, by simp [ht.no_emissions]⟩
      | false =>
        exact fun b => ⟨ht.forwarding.append (by simp [Forwarding, IsForwarding, IsSilent]),
          by simpa using ht.calls, .failed e (by simp [ht.outcome]) (by simp)⟩
  · exact fun t ht => ⟨ht.forwarding, ht.calls, ht.outcome⟩

theorem releaseClaim_yields (newlyAdded : Bool) (r : String)
    (out : Option (Bool × Option HandlerErr)) :
    Yields (releaseClaim newlyAdded r out) fun u t => u = some () ∧ Silent t := by
  unfold releaseClaim
  split
  · exact fun _ => ⟨rfl, by simp [Silent, IsSilent]⟩
  · exact ⟨rfl, by simp [Silent]⟩

theorem claimAndDispatch_yields : Yields (claimAndDispatch cfg sp isCreate payload) fun out t =>
    Dispatched cfg sp isCreate payload t out := by
  refine fun newlyAdded => consumeDenied_yields.bind ?_ nofun
  rintro b t ⟨hsilent, _, ⟨⟩, hdenied⟩
  have hclaim : Silent (⟨.addIfAbsent .claimedResourcesSet payload.resourceID, newlyAdded⟩ :: t) :=
    List.forall_mem_cons.mpr ⟨trivial, hsilent⟩
  cases b with
  | true =>
    obtain ⟨hcreate, hmem⟩ := hdenied rfl
    have drop : ∀ {u}, Silent u → Dispatched cfg sp isCreate payload
        (⟨.addIfAbsent .claimedResourcesSet payload.resourceID, newlyAdded⟩ :: t ++ u)
          (some none) := fun hu =>
      have hall := hclaim.append hu
      ⟨hall.forwarding, by rw [hall.no_calls]; nofun, .denied hcreate (by simp [hmem])⟩
    cases newlyAdded with
    | true => exact fun _ => drop (by simp [Silent, IsSilent])
    | false => exact drop (by simp [Silent])
  | false =>
    have hdispatch : Yields ((dispatch cfg sp isCreate payload).ensure
        (releaseClaim newlyAdded payload.resourceID)) fun out u =>
          Dispatched cfg sp isCreate payload u (out.map Prod.snd) := by
      refine dispatch_yields.ensure fun out u hu => ?_
      refine (releaseClaim_yields newlyAdded payload.resourceID out).mono ?_
      rintro _ v ⟨rfl, hv⟩
      have hnil : Silent [] := by simp [Silent]
      exact ⟨rfl, by simpa using hu.widen hnil hv⟩
    have hnil : Silent [] := by simp [Silent]
    refine hdispatch.bind (fun out u hu => ?_) fun u hu => ?_
    · simpa using hu.widen hclaim hnil
    · simpa using hu.widen hclaim hnil

end Dispatch

section Handler

variable (cfg : RouterConfig) (msg : Bytes) (isCreate : Bool) (payload : InboundPayload)

inductive Decided : Except StoreErr (Option (StoredProvider × ProviderStatus)) →
    List RoutingEvent → Option (Option HandlerErr) → Prop where
  | storeError (e : StoreErr) : Decided (.error e) [] (some (some (.store e)))
  | unsupported (b : Bool) : Decided (.ok none)
      [⟨.publishCE typeError (.error ⟨responseCtx cfg payload.resourceID,
        errorUnsupportedServiceType,
        ⟨"provider not found for service type: " ++ payload.serviceType, none⟩⟩), b⟩] (some none)
  | rejected (sp : StoredProvider) {status : ProviderStatus}
      (h : status = .unavailable ∨ status = .ready ∧ cfg.forwarder = false) (b : Bool) :
      Decided (.ok (some (sp, status)))
        [⟨.publishCE typeError (.error ⟨responseCtx cfg payload.resourceID, errorSPUnavailable,
          ⟨"provider unavailable for service type: " ++ payload.serviceType, none⟩⟩), b⟩]
        (some none)
  | unpublished (sp : StoredProvider) : Decided (.ok (some (sp, .unhealthy)))
      [⟨.publish cfg.retryTopic msg, false⟩] (some (some .publish))
  | queued (sp : StoredProvider) (b : Bool) : Decided (.ok (some (sp, .unhealthy)))
      [⟨.publish cfg.retryTopic msg, true⟩, ⟨.publishCE typeRequestQueued (.requestQueued
        (responseCtx cfg payload.resourceID) payload.serviceType "QUEUED"), b⟩] (some none)
  | busy (sp : StoredProvider) (hf : cfg.forwarder = true) : Decided (.ok (some (sp, .ready)))
      [⟨.lockAddIfAbsent payload.resourceID, false⟩] (some (some .forwardInFlight))
  | forwarded {sp : StoredProvider} (hf : cfg.forwarder = true) {t : List RoutingEvent}
      {out : Option (Option HandlerErr)} (h : Dispatched cfg sp isCreate payload t out) :
      Decided (.ok (some (sp, .ready))) (⟨.lockAddIfAbsent payload.resourceID, true⟩ ::
        (t ++ [⟨.lockRemove payload.resourceID, ()⟩])) out

inductive Unconsumed (resourceID : String) : Bool → List RoutingEvent → Prop where
  | create : Unconsumed resourceID true [⟨.consume .denyList resourceID, false⟩]
  | delete : Unconsumed resourceID false []

inductive Handled : List RoutingEvent → Option (Option HandlerErr) → Prop where
  | dropped (h : parseRequestCE cfg msg = none) : Handled [] (some none)
  | invalid {isCreate : Bool} {payload : InboundPayload}
      (h : parseRequestCE cfg msg = some (isCreate, payload))
      (hids : payload.resourceID = "" ∨ payload.serviceType = "") (b : Bool) :
      Handled [⟨.publishCE typeError (.error ⟨responseCtx cfg "", errorInvalidPayload,
        ⟨"resourceId and serviceType are required", none⟩⟩), b⟩] (some none)
  | denied {payload : InboundPayload} (h : parseRequestCE cfg msg = some (true, payload))
      (hids : ¬ (payload.resourceID = "" ∨ payload.serviceType = "")) :
      Handled [⟨.consume .denyList payload.resourceID, true⟩] (some none)
  | decided {isCreate : Bool} {payload : InboundPayload}
      (h : parseRequestCE cfg msg = some (isCreate, payload))
      (hids : ¬ (payload.resourceID = "" ∨ payload.serviceType = ""))
      {t reads u : List RoutingEvent} (ht : Unconsumed payload.resourceID isCreate t)
      {result : Except StoreErr (Option (StoredProvider × ProviderStatus))}
      {out : Option (Option HandlerErr)} (hreads : Resolves payload.serviceType reads result)
      (hu : Decided cfg msg isCreate payload result u out) : Handled (t ++ (reads ++ u)) out

variable {cfg msg isCreate payload}

theorem forwardWithRetry_yields {sp : StoredProvider} (hf : cfg.forwarder = true) :
    Yields (forwardWithRetry cfg sp isCreate payload) fun out t =>
      Decided cfg msg isCreate payload (.ok (some (sp, .ready))) t out := by
  refine fun free => ?_
  cases free with
  | false => exact .busy sp hf
  | true => exact claimAndDispatch_yields.ensure fun out t ht _ => ⟨rfl, .forwarded hf ht⟩

def decideRequest (cfg : RouterConfig) (msg : Bytes) (isCreate : Bool) (payload : InboundPayload) :
    Routine (Option HandlerErr) := do
  match ← RoutingForwarder.resolveProvider payload.serviceType with
  | .error e => return some (.store e)
  | .ok none =>
    RoutingForwarder.publishError (responseCtx cfg payload.resourceID) errorUnsupportedServiceType
      ("provider not found for service type: " ++ payload.serviceType)
    return none
  | .ok (some (_, .unavailable)) =>
    RoutingForwarder.publishError (responseCtx cfg payload.resourceID) errorSPUnavailable
      ("provider unavailable for service type: " ++ payload.serviceType)
    return none
  | .ok (some (_, .unhealthy)) =>
    if !(← publish cfg.retryTopic msg) then return some .publish
    publishOutcome typeRequestQueued
      (.requestQueued (responseCtx cfg payload.resourceID) payload.serviceType "QUEUED")
    return none
  | .ok (some (sp, .ready)) =>
    if !cfg.forwarder then
      RoutingForwarder.publishError (responseCtx cfg payload.resourceID) errorSPUnavailable
        ("provider unavailable for service type: " ++ payload.serviceType)
      return none
    forwardWithRetry cfg sp isCreate payload

theorem handleRequest_eq (hparse : parseRequestCE cfg msg = some (isCreate, payload))
    (hids : ¬ (payload.resourceID = "" ∨ payload.serviceType = "")) :
    handleRequest cfg msg = (do
      if ← consumeDenied isCreate payload.resourceID then return none
      decideRequest cfg msg isCreate payload) := by
  unfold handleRequest
  rw [hparse]
  exact if_neg hids

theorem decideRequest_yields : Yields (decideRequest cfg msg isCreate payload) fun out t =>
    ∃ reads result u, t = reads ++ u ∧ Resolves payload.serviceType reads result ∧
      Decided cfg msg isCreate payload result u out := by
  refine (resolveProvider_yields payload.serviceType).bind ?_ nofun
  rintro result reads ⟨_, ⟨⟩, hreads⟩
  match result with
  | .error e => exact ⟨reads, _, [], rfl, hreads, .storeError e⟩
  | .ok none => exact fun b => ⟨reads, _, _, rfl, hreads, .unsupported b⟩
  | .ok (some (sp, .unavailable)) =>
    exact fun b => ⟨reads, _, _, rfl, hreads, .rejected sp (.inl rfl) b⟩
  | .ok (some (sp, .unhealthy)) =>
    refine fun published => ?_
    cases published with
    | false => exact ⟨reads, _, _, rfl, hreads, .unpublished sp⟩
    | true => exact fun b => ⟨reads, _, _, rfl, hreads, .queued sp b⟩
  | .ok (some (sp, .ready)) =>
    change Yields (if !cfg.forwarder then _ else _) _
    split
    · rename_i hf
      exact fun b => ⟨reads, _, _, rfl, hreads, .rejected sp (.inr ⟨rfl, by simpa using hf⟩) b⟩
    · rename_i hf
      exact (forwardWithRetry_yields (by simpa using hf)).mono fun out u hu =>
        ⟨reads, _, u, rfl, hreads, hu⟩

theorem handleRequest_yields :
    Yields (handleRequest cfg msg) fun out t => Handled cfg msg t out := by
  match hparse : parseRequestCE cfg msg with
  | none =>
    unfold handleRequest
    rw [hparse]
    exact .dropped hparse
  | some (isCreate, payload) =>
    by_cases hids : payload.resourceID = "" ∨ payload.serviceType = ""
    · unfold handleRequest
      rw [hparse]
      change Yields (if _ then _ else _) _
      rw [if_pos hids]
      exact fun b => .invalid hparse hids b
    · rw [handleRequest_eq hparse hids]
      have decided : ∀ t, Unconsumed payload.resourceID isCreate t →
          Yields (decideRequest cfg msg isCreate payload) fun out u =>
            Handled cfg msg (t ++ u) out := fun t ht =>
        decideRequest_yields.mono fun out _ ⟨reads, result, u, hu, hreads, h⟩ =>
          hu ▸ .decided hparse hids ht hreads h
      cases isCreate with
      | false => exact decided _ .delete
      | true =>
        refine fun denied => ?_
        cases denied with
        | true => exact .denied hparse hids
        | false => exact decided _ .create

theorem handled_unresolved {t : List RoutingEvent} (h : Handled cfg msg t out) :
    resolutions t = [] := by
  cases h with
  | dropped h => rfl
  | invalid h hids b => rfl
  | denied h hids => rfl
  | @decided isCreate payload h hids t reads u ht result out hreads hu =>
    have ht : resolutions t = [] := by cases ht <;> rfl
    have hu : resolutions u = [] := by
      cases hu with
      | forwarded hf h => simp [h.within.no_resolutions]
      | _ => rfl
    simp [ht, hu, (resolves_clear hreads).resolutions]

end Handler

end RequestHandling
