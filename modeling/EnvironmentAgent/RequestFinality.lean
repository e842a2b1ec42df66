import EnvironmentAgent.MessagingHandlers
import EnvironmentAgent.RequestHandling
import EnvironmentAgent.RoutingSharedState

/-! # What an acknowledgement stands for

A request is acked when its handler returns no error. -/
namespace RequestFinality

open AtomicPrograms RoutingCloudEvent RoutingEffects RoutingTraces RoutingRouter RequestHandling
open RoutingForwarder (spCallOf terminalProviderErrorData isRetryable forwardAttempts ForwardParams
  Registry)

def Responded : SPResult → Prop
  | .ok => True
  | .err (.response _ _) => True
  | _ => False

inductive Finalised (cfg : RouterConfig) (msg : Bytes) (isCreate : Bool) (payload : InboundPayload)
    (t : List RoutingEvent) : Prop where
  | responded (sp : StoredProvider) (result : SPResult) (hr : Responded result)
      (h : (spCallOf sp (paramsOf isCreate payload), result) ∈ callsIn t)
  | copied (h : (⟨.publish cfg.retryTopic msg, true⟩ : RoutingEvent) ∈ t)
  | denied (create : isCreate = true)
      (h : (⟨.consume .denyList payload.resourceID, true⟩ : RoutingEvent) ∈ t)
  | reported (d : ErrorData) (hid : d.ctx.resourceID = payload.resourceID)
      (h : (⟨.publishCE typeError (.error d), true⟩ : RoutingEvent) ∈ t)

def Publishes (pub : ErrorData → Bool) (t : List RoutingEvent) : Prop :=
  ∀ e ∈ t, match e with
    | ⟨.publishCE _ (.error d), b⟩ => b = pub d
    | _ => True

def unsupportedData (cfg : RouterConfig) (payload : InboundPayload) : ErrorData :=
  ⟨responseCtx cfg payload.resourceID, errorUnsupportedServiceType,
    ⟨"provider not found for service type: " ++ payload.serviceType, none⟩⟩

def unavailableData (cfg : RouterConfig) (payload : InboundPayload) : ErrorData :=
  ⟨responseCtx cfg payload.resourceID, errorSPUnavailable,
    ⟨"provider unavailable for service type: " ++ payload.serviceType, none⟩⟩

/-- The error events that a request may end with in a state of the registry when no response
comes from a provider. -/
def Due (cfg : RouterConfig) (reg : Registry) (payload : InboundPayload) (d : ErrorData) : Prop :=
  match reg.resolve payload.serviceType with
  | .error _ => False
  | .ok none => d = unsupportedData cfg payload
  | .ok (some (_, .unavailable)) => d = unavailableData cfg payload
  | .ok (some (_, .unhealthy)) => False
  | .ok (some (_, .ready)) =>
    if cfg.forwarder then ∃ e, ¬ Responded (.err e) ∧
      d = terminalProviderErrorData e payload.serviceType (responseCtx cfg payload.resourceID)
    else d = unavailableData cfg payload

variable {d : ErrorData}

section

variable {cfg : RouterConfig} {msg : Bytes} {isCreate : Bool} {payload : InboundPayload}
  {reg : Registry} {pub : ErrorData → Bool} {t u : List RoutingEvent}

theorem Publishes.append_right (h : Publishes pub (t ++ u)) : Publishes pub u :=
  fun e he => h e (List.mem_append_right _ he)

theorem Finalised.widen (h : Finalised cfg msg isCreate payload t)
    (before after : List RoutingEvent) :
    Finalised cfg msg isCreate payload (before ++ t ++ after) := by
  cases h with
  | responded sp result hr h => exact .responded sp result hr (by simp [h])
  | copied h => exact .copied (by simp [h])
  | denied create h => exact .denied create (by simp [h])
  | reported d hid h => exact .reported d hid (by simp [h])

theorem terminalProviderErrorData_ctx (e : SPError) (serviceType : String)
    (ctx : ResponseContext) : (terminalProviderErrorData e serviceType ctx).ctx = ctx := by
  unfold terminalProviderErrorData
  split <;> split <;> rfl

theorem reported_of_emission (hpub : Publishes pub t) (hd : pub d = true)
    (h : (typeError, ResponseData.error d) ∈ emissions t) :
    (⟨.publishCE typeError (.error d), true⟩ : RoutingEvent) ∈ t := by
  obtain ⟨⟨o, x⟩, he, hsome⟩ := List.mem_filterMap.mp h
  cases o with
  | publishCE ceType data =>
    cases hsome
    have hx : x = pub d := hpub _ he
    exact hd ▸ hx ▸ he
  | _ => cases hsome

theorem concluded_finalised {sp : StoredProvider} (hpub : Publishes pub t)
    (hdue : ∀ e, ¬ Responded (.err e) → pub (terminalProviderErrorData e payload.serviceType
      (responseCtx cfg payload.resourceID)) = true)
    (h : Concluded cfg sp isCreate payload t) : Finalised cfg msg isCreate payload t := by
  cases h with
  | denied create h => exact .denied create h
  | answered h => exact .responded sp .ok trivial h
  | failed e h hce =>
    by_cases hr : Responded (.err e)
    · exact .responded sp _ hr h
    · exact .reported _ (by rw [terminalProviderErrorData_ctx]; rfl)
        (reported_of_emission hpub (hdue e hr) hce)

theorem decided_finalised (hdue : ∀ d, Due cfg reg payload d → pub d = true)
    {result : Except RoutingForwarder.StoreErr (Option (StoredProvider × ProviderStatus))}
    (hres : reg.resolve payload.serviceType = result) (hpub : Publishes pub t)
    (h : Decided cfg msg isCreate payload result t (some none)) :
    Finalised cfg msg isCreate payload t := by
  have hdue : ∀ d, (match result with
      | .error _ => False
      | .ok none => d = unsupportedData cfg payload
      | .ok (some (_, .unavailable)) => d = unavailableData cfg payload
      | .ok (some (_, .unhealthy)) => False
      | .ok (some (_, .ready)) =>
        if cfg.forwarder then ∃ e, ¬ Responded (.err e) ∧
          d = terminalProviderErrorData e payload.serviceType (responseCtx cfg payload.resourceID)
        else d = unavailableData cfg payload) → pub d = true := fun d hd =>
    hdue d (by unfold Due; rw [hres]; exact hd)
  cases h with
  | unsupported b =>
    exact .reported (unsupportedData cfg payload) rfl
      (reported_of_emission hpub (hdue _ rfl) (List.mem_singleton.mpr rfl))
  | rejected sp hs b =>
    refine .reported (unavailableData cfg payload) rfl
      (reported_of_emission hpub (hdue _ ?_) (List.mem_singleton.mpr rfl))
    rcases hs with rfl | ⟨rfl, hf⟩
    · rfl
    · simp [hf]
  | queued sp b => exact .copied (by simp)
  | @forwarded sp hf t out h =>
    have hsub : Publishes pub t := fun e he => hpub e (by simp [he])
    have hfinal : Finalised cfg msg isCreate payload t :=
      concluded_finalised hsub (fun e he => hdue _ (by simpa [hf] using ⟨e, he, rfl⟩)) h.outcome
    simpa using hfinal.widen [⟨.lockAddIfAbsent payload.resourceID, true⟩]
      [⟨.lockRemove payload.resourceID, ()⟩]

theorem handled_finalised (hparse : parseRequestCE cfg msg = some (isCreate, payload))
    (hids : ¬ (payload.resourceID = "" ∨ payload.serviceType = ""))
    (hdue : ∀ d, Due cfg reg payload d → pub d = true) (hsees : reg.Sees t)
    (hpub : Publishes pub t) (h : Handled cfg msg t (some none)) :
    Finalised cfg msg isCreate payload t := by
  cases h with
  | dropped h => cases hparse.symm.trans h
  | invalid h hbad b =>
    cases hparse.symm.trans h
    exact absurd hbad hids
  | denied h _ =>
    cases hparse.symm.trans h
    exact .denied rfl (by simp)
  | @decided _ _ h _ t reads u ht result out hreads hu =>
    cases hparse.symm.trans h
    have hres := reg.resolves hreads fun e he => hsees e (by simp [he])
    have hu := decided_finalised hdue hres hpub.append_right.append_right hu
    simpa using hu.widen (t ++ reads) []

theorem forwardAttempts_may_fail (sp : StoredProvider) (params : ForwardParams) (e : SPError)
    (left attempt : ℕ) :
    May (forwardAttempts sp params left attempt) fun out t => out = some (some (.sp e)) ∧
      (∀ c ∈ callsIn t, c.2 = .err e) ∧ Attempts (spCallOf sp params) t out := by
  suffices h : May (forwardAttempts sp params left attempt) fun out t =>
      out = some (some (.sp e)) ∧ ∀ c ∈ callsIn t, c.2 = .err e from
    (h.and_yields (forwardAttempts_yields sp params left attempt)).mono fun _ _ h =>
      ⟨h.1.1, h.1.2, h.2⟩
  induction left using Nat.strongRecOn generalizing attempt with
  | ind left ih =>
    unfold forwardAttempts
    refine ⟨.err e, false, ?_⟩
    change May (if !isRetryable e then _ else _) _
    split
    · exact ⟨rfl, by simp⟩
    · cases left with
      | zero => exact ⟨rfl, by simp⟩
      | succ left =>
        refine ⟨false, (ih left (Nat.lt_succ_self left) _).mono ?_⟩
        rintro _ t ⟨rfl, ht⟩
        exact ⟨rfl, by simpa using ht⟩

structure Unfinalised (pub : ErrorData → Bool) (t : List RoutingEvent) : Prop where
  published : Publishes pub t
  calls : ∀ c ∈ callsIn t, ¬ Responded c.2
  copies : ∀ s d, (⟨.publish s d, true⟩ : RoutingEvent) ∉ t
  denials : ∀ l r, (⟨.consume l r, true⟩ : RoutingEvent) ∉ t
  reports : ∀ d, (⟨.publishCE typeError (.error d), true⟩ : RoutingEvent) ∉ t

theorem Unfinalised.not_finalised (h : Unfinalised pub t) :
    ¬ Finalised cfg msg isCreate payload t := by
  rintro (⟨sp, result, hr, hc⟩ | hc | ⟨-, hc⟩ | ⟨d, -, hc⟩)
  · exact h.calls _ hc hr
  · exact h.copies _ _ hc
  · exact h.denials _ _ hc
  · exact h.reports _ hc

theorem Unfinalised.append (ht : Unfinalised pub t) (hu : Unfinalised pub u) :
    Unfinalised pub (t ++ u) where
  published := fun e he => (List.mem_append.mp he).elim (ht.published e) (hu.published e)
  calls := fun c hc => by
    rw [callsIn_append] at hc
    exact (List.mem_append.mp hc).elim (ht.calls c) (hu.calls c)
  copies := fun s d h => (List.mem_append.mp h).elim (ht.copies s d) (hu.copies s d)
  denials := fun l r h => (List.mem_append.mp h).elim (ht.denials l r) (hu.denials l r)
  reports := fun d h => (List.mem_append.mp h).elim (ht.reports d) (hu.reports d)

def IsInert : Op → Prop
  | .sp _ | .publish _ _ | .publishCE _ _ | .consume _ _ => False
  | _ => True

theorem unfinalised_of_inert (h : ∀ e ∈ t, IsInert e.1) : Unfinalised pub t where
  published := by
    rintro ⟨o, x⟩ he
    cases o <;> first | trivial | exact (h _ he).elim
  calls := by
    intro c hc
    obtain ⟨⟨o, x⟩, he, hsome⟩ := List.mem_filterMap.mp hc
    cases o <;> first | exact (h _ he).elim | cases hsome
  copies := fun s d he => h _ he
  denials := fun l r he => h _ he
  reports := fun d he => h _ he

theorem attempts_unfinalised {call : SPCall} {e : SPError} (he : ¬ Responded (.err e))
    {out : Option (Option RoutingForwarder.ForwardErr)} (h : Attempts call t out)
    (hcalls : ∀ c ∈ callsIn t, c.2 = .err e) : Unfinalised pub t where
  published := by
    rintro ⟨o, x⟩ hx
    rcases h.within _ hx with ho | ho
    · subst ho
      trivial
    · cases o <;> trivial
  calls := fun c hc hr => he (hcalls c hc ▸ hr)
  copies := fun s d hx => (h.within _ hx).elim nofun id
  denials := fun l r hx => (h.within _ hx).elim nofun id
  reports := fun d hx => (h.within _ hx).elim nofun id

theorem unpublished_unfinalised (hd : pub d = false) :
    Unfinalised pub [⟨.publishCE typeError (.error d), false⟩] where
  published := by
    intro e he
    obtain rfl := List.mem_singleton.mp he
    exact hd.symm
  calls := by simp
  copies := by simp
  denials := by simp
  reports := by simp

theorem consumeDenied_may (pub : ErrorData → Bool) (resourceID : String) :
    May (consumeDenied isCreate resourceID) fun out t => out = some false ∧
      Unfinalised pub t ∧ Silent t := by
  cases isCreate with
  | false => exact ⟨rfl, unfinalised_of_inert (by simp), by simp [Silent]⟩
  | true =>
    refine ⟨false, rfl, ⟨?_, by simp, by simp, by simp, by simp⟩, by simp [Silent, IsSilent]⟩
    intro e he
    obtain rfl := List.mem_singleton.mp he
    trivial

theorem forwardWithRetry_may_fail {e : SPError} (he : ¬ Responded (.err e)) (sp : StoredProvider)
    (hd : pub (terminalProviderErrorData e payload.serviceType
      (responseCtx cfg payload.resourceID)) = false) :
    May (forwardWithRetry cfg sp isCreate payload) fun out t => out = some none ∧
      Unfinalised pub t := by
  have hdispatch : May (dispatch cfg sp isCreate payload) fun out t =>
      out = some (false, none) ∧ Unfinalised pub t := by
    refine (forwardAttempts_may_fail sp (paramsOf isCreate payload) e _ _).bind ?_
    rintro _ t ⟨rfl, hcalls, hattempts⟩
    refine ⟨_, rfl, false, false, rfl, ?_⟩
    refine (attempts_unfinalised he hattempts hcalls).append ?_
    exact Unfinalised.append (t := [_]) (unfinalised_of_inert (by simp [IsInert]))
      (unpublished_unfinalised hd)
  have hclaimed : May (claimAndDispatch cfg sp isCreate payload) fun out t =>
      out = some none ∧ Unfinalised pub t := by
    refine ⟨true, (consumeDenied_may pub payload.resourceID).bind ?_⟩
    rintro _ t ⟨rfl, ht, -⟩
    refine ⟨false, rfl, ?_⟩
    have hensured : May ((dispatch cfg sp isCreate payload).ensure
        (releaseClaim true payload.resourceID)) fun out u =>
          out = some (false, none) ∧ Unfinalised pub u := by
      refine hdispatch.ensure ?_
      rintro _ u ⟨rfl, hu⟩
      exact ⟨(), rfl, rfl, hu.append (unfinalised_of_inert (by simp [IsInert]))⟩
    refine hensured.bind ?_
    rintro _ u ⟨rfl, hu⟩
    refine ⟨_, rfl, rfl, ?_⟩
    have hadd : Unfinalised pub [⟨.addIfAbsent .claimedResourcesSet payload.resourceID, true⟩] :=
      unfinalised_of_inert (by simp [IsInert])
    simpa using hadd.append (ht.append hu)
  refine ⟨true, hclaimed.ensure ?_⟩
  rintro _ t ⟨rfl, ht⟩
  refine ⟨(), rfl, rfl, ?_⟩
  have hlock : Unfinalised pub [⟨.lockAddIfAbsent payload.resourceID, true⟩] :=
    unfinalised_of_inert (by simp [IsInert])
  exact hlock.append (ht.append (unfinalised_of_inert (by simp [IsInert])))

theorem reads_unfinalised (h : ∀ e ∈ t, RoutingForwarder.IsRead e.1) : Unfinalised pub t := by
  refine unfinalised_of_inert ?_
  rintro ⟨o, x⟩ he
  have ho := h _ he
  cases o <;> trivial

theorem forwardWithRetry_sees (reg : Registry) (sp : StoredProvider) :
    Yields (forwardWithRetry cfg sp isCreate payload) fun _ t => reg.Sees t := by
  refine fun free => ?_
  cases free with
  | false => exact Forwarding.sees (by simp [Forwarding, IsForwarding, IsSilent]) reg
  | true =>
    refine claimAndDispatch_yields.ensure fun out u hu _ => ⟨rfl, ?_⟩
    refine Forwarding.sees (Forwarding.append (t := [_]) ?_ (hu.within.append ?_)) reg
    · simp [Forwarding, IsForwarding, IsSilent]
    · simp [Forwarding, IsForwarding, IsSilent]

theorem handleRequest_may_lose (hparse : parseRequestCE cfg msg = some (isCreate, payload))
    (hids : ¬ (payload.resourceID = "" ∨ payload.serviceType = "")) (hdue : Due cfg reg payload d)
    (hd : pub d = false) :
    May (handleRequest cfg msg) fun out t => out = some none ∧ reg.Sees t ∧
      Unfinalised pub t := by
  rw [handleRequest_eq hparse hids]
  refine (consumeDenied_may pub payload.resourceID).bind ?_
  rintro _ t ⟨rfl, ht, hsilent⟩
  refine ⟨false, rfl, (reg.may_resolve payload.serviceType).bind ?_⟩
  rintro _ reads ⟨rfl, hreads, hsees⟩
  refine ⟨_, rfl, ?_⟩
  have finish : ∀ {u}, reg.Sees u → Unfinalised pub u →
      reg.Sees (t ++ (reads ++ u)) ∧ Unfinalised pub (t ++ (reads ++ u)) := fun hs hu =>
    ⟨Registry.sees_append.mpr ⟨hsilent.forwarding.sees reg, Registry.sees_append.mpr ⟨hsees, hs⟩⟩,
      ht.append ((reads_unfinalised hreads.isRead).append hu)⟩
  have lost : ∀ {d}, pub d = false →
      reg.Sees (t ++ (reads ++ [⟨.publishCE typeError (.error d), false⟩])) ∧
        Unfinalised pub (t ++ (reads ++ [⟨.publishCE typeError (.error d), false⟩])) := fun hd =>
    finish (Forwarding.sees (by simp [Forwarding, IsForwarding]) reg) (unpublished_unfinalised hd)
  unfold Due at hdue
  rcases hres : reg.resolve payload.serviceType with e | _ | ⟨sp, _ | _ | _⟩
  · simp [hres] at hdue
  · obtain rfl : d = unsupportedData cfg payload := by simpa [hres] using hdue
    exact ⟨false, rfl, lost hd⟩
  · change May (if !cfg.forwarder then _ else _) _
    cases hf : cfg.forwarder with
    | false =>
      obtain rfl : d = unavailableData cfg payload := by simpa [hres, hf] using hdue
      exact ⟨false, rfl, lost hd⟩
    | true =>
      obtain ⟨e, he, rfl⟩ : ∃ e, ¬ Responded (.err e) ∧ d = terminalProviderErrorData e
          payload.serviceType (responseCtx cfg payload.resourceID) := by simpa [hres, hf] using hdue
      refine ((forwardWithRetry_may_fail he sp hd).and_yields (forwardWithRetry_sees reg sp)).mono ?_
      rintro _ u ⟨⟨rfl, hu⟩, hs⟩
      exact ⟨rfl, finish hs hu⟩
  · simp [hres] at hdue
  · obtain rfl : d = unavailableData cfg payload := by simpa [hres] using hdue
    exact ⟨false, rfl, lost hd⟩

def AckedAfter (p : Routine (Option HandlerErr)) (m : Msg) (t : List RoutingEvent) : Prop :=
  (m, .ack) ∈ resolutions t → ∃ before u after, t = before ++ (u ++ after) ∧ Exec p u (some none)

theorem resolveHandled_acked (m : Msg) :
    Yields (MessagingHandlers.resolveHandled m (handleRequest cfg m.data)) fun _ t =>
      AckedAfter (handleRequest cfg m.data) m t := by
  refine yields_iff.mpr fun t out he hack => ?_
  obtain ⟨r, u, v, rfl, hu, hv⟩ | ⟨hu, rfl⟩ := exec_bind.mp he
  · have hquiet := handled_unresolved (handleRequest_yields.exec hu)
    match r with
    | none => exact ⟨[], u, v, rfl, hu⟩
    | some e =>
      obtain ⟨b, w, rfl, hw⟩ := exec_perform_bind.mp hv
      obtain ⟨rfl, -⟩ := exec_ret.mp hw
      simp [hquiet] at hack
  · simp [handled_unresolved (handleRequest_yields.exec hu)] at hack

theorem handleMainMessage_acked (client : MessagingHandlers.ClientConfig) (m : Msg) :
    Yields (MessagingHandlers.handleMainMessage client (handleRequest cfg) m) fun _ t =>
      AckedAfter (handleRequest cfg m.data) m t := by
  have hbody : Yields (MessagingHandlers.mainMessageBody client (handleRequest cfg) m) fun _ t =>
      AckedAfter (handleRequest cfg m.data) m t := by
    unfold MessagingHandlers.mainMessageBody
    split
    · refine fun numDelivered => ?_
      match numDelivered with
      | none => exact fun _ hack => by simp at hack
      | some n =>
        change Yields (if client.maxDeliver ≤ n then _ else _) _
        split
        · exact fun _ _ hack => by simp at hack
        · refine (resolveHandled_acked m).mono fun _ t h hack => ?_
          obtain ⟨before, u, after, rfl, hu⟩ := h (by simpa using hack)
          exact ⟨_ :: before, u, after, rfl, hu⟩
    · exact resolveHandled_acked m
  refine hbody.recover (fun _ _ h => h) fun t h b hack => ?_
  obtain ⟨before, u, after, rfl, hu⟩ := h (by simpa using hack)
  exact ⟨before, u, after ++ [⟨.nakWithDelay m, b⟩], by simp, hu⟩

/-- A program that resolves `m` once, or unwinds before it does. -/
def ResolvesOnce (m : Msg) (out : Option Unit) (t : List RoutingEvent) : Prop :=
  (out = some () ∧ ∃ k, resolutions t = [(m, k)]) ∨ out = none ∧ resolutions t = []

theorem resolveHandled_once (m : Msg) : Yields
    (MessagingHandlers.resolveHandled m (handleRequest cfg m.data)) (ResolvesOnce m) := by
  refine handleRequest_yields.bind (fun err t ht => ?_) fun t ht =>
    Or.inr ⟨rfl, handled_unresolved ht⟩
  match err with
  | none => exact fun _ => Or.inl ⟨rfl, .ack, by simp [handled_unresolved ht]⟩
  | some _ => exact fun _ => Or.inl ⟨rfl, .nakWithDelay, by simp [handled_unresolved ht]⟩

theorem handleMainMessage_once (client : MessagingHandlers.ClientConfig) (m : Msg) :
    Yields (MessagingHandlers.handleMainMessage client (handleRequest cfg) m)
      fun _ t => ∃ k, resolutions t = [(m, k)] := by
  have hbody : Yields (MessagingHandlers.mainMessageBody client (handleRequest cfg) m)
      (ResolvesOnce m) := by
    unfold MessagingHandlers.mainMessageBody
    split
    · refine fun numDelivered => ?_
      match numDelivered with
      | none => exact fun _ => Or.inl ⟨rfl, .nak, rfl⟩
      | some n =>
        change Yields (if client.maxDeliver ≤ n then _ else _) _
        split
        · exact fun _ _ => Or.inl ⟨rfl, .term, rfl⟩
        · exact (resolveHandled_once m).mono fun _ _ h => h
    · exact resolveHandled_once m
  refine hbody.recover (fun _ t h => ?_) fun t h b => ?_
  · exact (h.resolve_right fun hnone => by cases hnone.1).2
  · rcases h with ⟨hsome, -⟩ | ⟨-, hnone⟩
    · cases hsome
    · exact ⟨.nakWithDelay, by simp [hnone]⟩

/-- A handler that returns no error, after which the message is acked, has finalised the
request exactly as far as the error events that the state calls for are published. -/
theorem ack_finalised_iff (reg : Registry) (pub : ErrorData → Bool)
    (hparse : parseRequestCE cfg msg = some (isCreate, payload))
    (hids : ¬ (payload.resourceID = "" ∨ payload.serviceType = "")) :
    ((∀ t, Exec (handleRequest cfg msg) t (some none) → reg.Sees t → Publishes pub t →
      Finalised cfg msg isCreate payload t) ↔ ∀ d, Due cfg reg payload d → pub d = true) ∧
    ∀ client seq t out,
      Exec (MessagingHandlers.handleMainMessage client (handleRequest cfg) ⟨seq, msg⟩) t out →
        AckedAfter (handleRequest cfg msg) ⟨seq, msg⟩ t := by
  refine ⟨⟨fun h d hdue => ?_, fun hdue t he hsees hpub => ?_⟩, fun client seq t out he => ?_⟩
  · by_contra hd
    obtain ⟨t, _, he, rfl, hsees, hlost⟩ :=
      may_iff.mp (handleRequest_may_lose hparse hids hdue (by simpa using hd))
    exact hlost.not_finalised (h t he hsees hlost.published)
  · exact handled_finalised hparse hids hdue hsees hpub (handleRequest_yields.exec he)
  · exact (handleMainMessage_acked client ⟨seq, msg⟩).exec he

end

def createBytes : Bytes := requestBytes typeRequestCreate "e" "r" "vm"

def createRouter : RouterConfig where
  unmarshalEvent := decodeAmong [(typeRequestCreate, "e", "r", "vm")]
  forwarder := true
  retryMaxAttempts := 3
  agentName := "agent"
  topicName := "dcm.agent.agent"
  retryTopic := "agent.retry"

def emptyRegistry : Registry := ⟨fun _ => none, fun _ => .ok none, fun _ => none⟩

def createPayload : InboundPayload := ⟨"r", "vm", none, "e"⟩

theorem parse_createBytes :
    parseRequestCE createRouter createBytes = some (true, createPayload) := by
  decide +kernel

theorem ack_finalised_iff_unregistered :
    parseRequestCE createRouter createBytes = some (true, createPayload) ∧
    ∀ t, Exec (handleRequest createRouter createBytes) t (some none) → emptyRegistry.Sees t →
      Publishes (fun _ => true) t → Finalised createRouter createBytes true createPayload t :=
  ⟨parse_createBytes, (ack_finalised_iff emptyRegistry (fun _ => true) parse_createBytes
    (by decide)).1.mpr fun _ _ => rfl⟩

/-- The error event is lost, nothing else happened, and the message is acked. -/
theorem lost_error_event_acked :
    Exec (handleRequest createRouter createBytes)
      [⟨.consume .denyList "r", false⟩, ⟨.lookup "vm", none⟩,
        ⟨.publishCE typeError (.error (unsupportedData createRouter createPayload)), false⟩]
      (some none) ∧
    ∀ isCreate payload, ¬ Finalised createRouter createBytes isCreate payload
      [⟨.consume .denyList "r", false⟩, ⟨.lookup "vm", none⟩,
        ⟨.publishCE typeError (.error (unsupportedData createRouter createPayload)), false⟩] := by
  constructor
  · rw [handleRequest_eq parse_createBytes (by decide)]
    exact .call _ _ (.call _ _ (.call _ _ (.ret _)))
  · rintro isCreate payload (⟨sp, result, hr, hc⟩ | hc | ⟨-, hc⟩ | ⟨d, -, hc⟩) <;> simp at hc

end RequestFinality
