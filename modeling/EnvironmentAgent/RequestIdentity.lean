import EnvironmentAgent.RequestHandling
import EnvironmentAgent.RetryBatches

/-! # Operation and identity of forwarded requests

A provider call must have the operation, resource id, service type, event id and spec of the message
in hand. -/
namespace RequestIdentity

open AtomicPrograms RoutingCloudEvent RoutingEffects RoutingTraces RetryProcessor
  RetryForwarding RetryBatches
open RetryDedup (survivors vmProvider vmProcessor)
open RoutingSharedState (Answers SharedState singleProvider handler)
open RoutingRouter (RouterConfig parseRequestCE handleRequest)
open RoutingForwarder (spCallOf StoreErr Resolves)
open MessagingTopics (requestStreamName)

abbrev Decoder := Bytes → Option RoutingCloudEvent.Event

structure IsRequest (decode : Decoder) (data : Bytes) (ceType resourceID serviceType id : String)
    (spec : Option JsonValue) : Prop where
  decoded : ∃ event payload, decode data = some event ∧
    unmarshalPayload false event.data = some payload ∧ event.type = ceType ∧ event.id = id ∧
      payload.resourceID = resourceID ∧ payload.serviceType = serviceType ∧ payload.spec = spec
  named : resourceID ≠ ""
  typed : serviceType ≠ ""

def Matches (decode : Decoder) (data : Bytes) : SPCall → Prop
  | .create _ _ req =>
    IsRequest decode data typeRequestCreate req.resourceID req.serviceType req.eventID req.spec
  | .delete _ _ req => ∃ spec,
    IsRequest decode data typeRequestDelete req.resourceID req.serviceType req.eventID spec

def identity (decode : Decoder) : Monitor routing (Option Bytes) where
  allowed inHand o := match o with
    | .sp c => ∃ data, inHand = some data ∧ Matches decode data c
    | _ => True
  next inHand e := match e with
    | ⟨.inProgress m, _⟩ => some m.data
    | _ => inHand

theorem decodeMember_untagged {p q : InboundPayload} {key : String} {v : JsonValue} (id : String)
    (h : decodeMember true p key v = some q) :
    decodeMember false { p with eventID := id } key v = some { q with eventID := id } := by
  unfold decodeMember at h ⊢
  split at h
  · obtain ⟨s, hs, rfl⟩ := Option.map_eq_some_iff.mp h
    simp [*]
  · split at h
    · obtain ⟨s, hs, rfl⟩ := Option.map_eq_some_iff.mp h
      simp [*]
    · split at h
      · cases h
        simp [*]
      · split at h
        · obtain ⟨s, hs, rfl⟩ := Option.map_eq_some_iff.mp h
          simp [*]
        · cases h
          simp [*]

theorem decodeMembers_untagged {p q : InboundPayload} {members : List (String × JsonValue)}
    (id : String) (h : decodeMembers true p members = some q) :
    decodeMembers false { p with eventID := id } members = some { q with eventID := id } := by
  induction members generalizing p with
  | nil =>
    cases h
    rfl
  | cons kv rest ih =>
    obtain ⟨key, v⟩ := kv
    obtain ⟨p', hp', hrest⟩ := Option.bind_eq_some_iff.mp h
    exact Option.bind_eq_some_iff.mpr ⟨_, decodeMember_untagged id hp', ih hrest⟩

variable {payload : InboundPayload}

theorem unmarshalPayload_untagged {data : Option JsonText}
    (h : unmarshalPayload true data = some payload) :
    unmarshalPayload false data = some { payload with eventID := "" } := by
  match data with
  | some (.obj members) => exact decodeMembers_untagged "" h
  | some .null =>
    cases h
    rfl
  | some (.other _) => cases h
  | none => cases h

theorem matches_of_parseRequestCE {cfg : RouterConfig} {msg : Bytes} {isCreate : Bool}
    (h : parseRequestCE cfg msg = some (isCreate, payload)) (hnamed : payload.resourceID ≠ "")
    (htyped : payload.serviceType ≠ "") (sp : StoredProvider) :
    Matches cfg.unmarshalEvent msg (spCallOf sp ⟨payload.resourceID, payload.serviceType,
      payload.spec, payload.eventID, isCreate⟩) := by
  obtain ⟨event, hevent, h⟩ := Option.bind_eq_some_iff.mp h
  dsimp only at h
  split at h
  · obtain ⟨_, ⟨⟩, h⟩ := Option.bind_eq_some_iff.mp h
    obtain ⟨raw, hraw, ⟨⟩⟩ := Option.bind_eq_some_iff.mp h
    exact ⟨⟨event, _, hevent, unmarshalPayload_untagged hraw, ‹_›, rfl, rfl, rfl, rfl⟩,
      hnamed, htyped⟩
  · split at h
    · obtain ⟨_, ⟨⟩, h⟩ := Option.bind_eq_some_iff.mp h
      obtain ⟨raw, hraw, ⟨⟩⟩ := Option.bind_eq_some_iff.mp h
      exact ⟨raw.spec, ⟨event, _, hevent, unmarshalPayload_untagged hraw, ‹_›, rfl, rfl, rfl, rfl⟩,
        hnamed, htyped⟩
    · cases h

def WellFormed (res : CEResult) : Prop :=
  (res.ceType = typeRequestCreate ∨ res.ceType = typeRequestDelete) ∧
    res.resourceID ≠ "" ∧ res.serviceType ≠ ""

instance (res : CEResult) : Decidable (WellFormed res) := inferInstanceAs (Decidable (_ ∧ _))

theorem spCallOf_forwardParams (sp : StoredProvider) (res : CEResult) :
    spCallOf sp (forwardParams res) =
      if res.ceType = typeRequestDelete then
        .delete sp.endpoint (sp.type == "embedded") ⟨res.resourceID, res.serviceType, res.eventID⟩
      else .create sp.endpoint (sp.type == "embedded")
        ⟨res.resourceID, res.serviceType, res.spec, res.eventID⟩ := by
  by_cases h : res.ceType = typeRequestDelete <;> simp [spCallOf, forwardParams, h]

theorem matches_iff_wellFormed {cfg : ProcessorConfig} {data : Bytes} {res : CEResult}
    (h : parseCE cfg data = some res) (sp : StoredProvider) :
    Matches cfg.unmarshalEvent data (spCallOf sp (forwardParams res)) ↔ WellFormed res := by
  obtain ⟨event, hevent, h⟩ := Option.bind_eq_some_iff.mp h
  split at h
  · obtain ⟨payload, hpayload, ⟨⟩⟩ := Option.bind_eq_some_iff.mp h
    rw [spCallOf_forwardParams]
    split
    · rename_i hd
      constructor
      · rintro ⟨spec, hm⟩
        exact ⟨Or.inr hd, hm.named, hm.typed⟩
      · rintro ⟨-, hnamed, htyped⟩
        exact ⟨payload.spec, ⟨event, payload, hevent, hpayload, hd, rfl, rfl, rfl, rfl⟩, hnamed, htyped⟩
    · rename_i hd
      constructor
      · intro hm
        obtain ⟨event', payload', hevent', hpayload', htype, -⟩ := IsRequest.decoded hm
        cases hevent.symm.trans hevent'
        exact ⟨Or.inl htype, IsRequest.named hm, IsRequest.typed hm⟩
      · rintro ⟨htype, hnamed, htyped⟩
        exact ⟨⟨event, payload, hevent, hpayload, htype.resolve_right hd, rfl, rfl, rfl, rfl⟩,
          hnamed, htyped⟩
  · cases h

section Traces

variable {decode : Decoder} {inHand : Option Bytes} {t u : List RoutingEvent}

def IsSteady : Op → Prop
  | .inProgress _ | .fetchAll _ _ => False
  | _ => True

def Steady (t : List RoutingEvent) : Prop := ∀ e ∈ t, IsSteady e.1

theorem accepts_steady (h : Steady t) : (identity decode).Accepts inHand t ↔
    ∀ c ∈ callsIn t, ∃ data, inHand = some data ∧ Matches decode data c.1 := by
  induction t with
  | nil => simp [Monitor.Accepts]
  | cons e t ih =>
    obtain ⟨ho, ht⟩ := List.forall_mem_cons.mp h
    obtain ⟨o, x⟩ := e
    cases o with
    | inProgress m => exact ho.elim
    | sp c =>
      rw [callsIn_cons]
      simp only [callOf, Option.toList_some, List.singleton_append, List.forall_mem_cons]
      exact and_congr Iff.rfl (ih ht)
    | _ => exact (and_iff_right trivial).trans (ih ht)

theorem accepts_of_no_calls (h : callsIn t = []) : (identity decode).Accepts inHand t := by
  induction t generalizing inHand with
  | nil => trivial
  | cons e t ih =>
    rw [callsIn_cons, List.append_eq_nil_iff] at h
    obtain ⟨o, x⟩ := e
    cases o with
    | sp c => simp at h
    | _ => exact ⟨trivial, ih h.2⟩

theorem forwarding_steady (h : Forwarding t) : Steady t := by
  rintro ⟨o, x⟩ he
  have ho := h _ he
  cases o <;> trivial

theorem Steady.append (ht : Steady t) (hu : Steady u) : Steady (t ++ u) :=
  List.forall_mem_append.mpr ⟨ht, hu⟩

theorem steady_singleton {o : Op} (ho : IsSteady o) (x : o.Ans) : Steady [⟨o, x⟩] :=
  List.forall_mem_singleton.mpr ho

theorem resolves_steady {serviceType : String}
    {result : Except StoreErr (Option (StoredProvider × ProviderStatus))}
    (h : Resolves serviceType t result) : Steady t := by
  rintro ⟨o, x⟩ he
  have ho := h.isRead _ he
  cases o <;> trivial

theorem accepts_taken_up {before : List RoutingEvent} (hb : callsIn before = []) (m : Msg)
    (b : Bool) (hsteady : Steady t) : (identity decode).Accepts inHand
      (before ++ ⟨.inProgress m, b⟩ :: t) ↔ ∀ c ∈ callsIn t, Matches decode m.data c.1 := by
  rw [Monitor.accepts_append, and_iff_right (accepts_of_no_calls hb)]
  refine (and_iff_right trivial).trans ((accepts_steady hsteady).trans ?_)
  simp [identity]

end Traces

theorem handled_accepts {cfg : RouterConfig} {msg : Bytes} {t : List RoutingEvent}
    {out : Option (Option RoutingRouter.HandlerErr)} (h : RequestHandling.Handled cfg msg t out) :
    (identity cfg.unmarshalEvent).Accepts (some msg) t := by
  cases h with
  | dropped h => exact accepts_of_no_calls rfl
  | invalid h hids b => exact accepts_of_no_calls rfl
  | denied h hids => exact accepts_of_no_calls rfl
  | @decided isCreate payload h hids t reads u ht result out hreads hu =>
    have hnamed : payload.resourceID ≠ "" := fun e => hids (Or.inl e)
    have htyped : payload.serviceType ≠ "" := fun e => hids (Or.inr e)
    have ht : callsIn t = [] ∧ Steady t := by
      cases ht <;> exact ⟨rfl, by simp [Steady, IsSteady]⟩
    have hu : (∀ c ∈ callsIn u, Matches cfg.unmarshalEvent msg c.1) ∧ Steady u := by
      cases hu with
      | @forwarded sp hf t out h' =>
        refine ⟨fun c hc => ?_, ?_⟩
        · rw [h'.calls c (by simpa using hc)]
          exact matches_of_parseRequestCE h hnamed htyped sp
        · have hlock := steady_singleton (o := .lockAddIfAbsent payload.resourceID) trivial true
          have hunlock := steady_singleton (o := .lockRemove payload.resourceID) trivial ()
          exact hlock.append ((forwarding_steady h'.within).append hunlock)
      | _ => exact ⟨by simp, by simp [Steady, IsSteady]⟩
    refine (accepts_steady (ht.2.append ((resolves_steady hreads).append hu.2))).mpr ?_
    simp only [callsIn_append, ht.1, (resolves_clear hreads).calls, List.nil_append]
    exact fun c hc => ⟨msg, rfl, hu.1 c hc⟩

variable {fromRetryTopic : Bool}

section Items

variable (cfg : ProcessorConfig) (res : CEResult)

structure Forwards (t : List RoutingEvent) : Prop where
  steady : Steady t
  calls : ∀ c ∈ callsIn t, ∃ sp, c.1 = spCallOf sp (forwardParams res)
  configured : cfg.forwarder = false → callsIn t = []

inductive TakenUp (m : Msg) : List RoutingEvent → Prop where
  | idle {t : List RoutingEvent} (steady : Steady t) (calls : callsIn t = []) : TakenUp m t
  | active {before after : List RoutingEvent} (hb : Steady before) (hc : callsIn before = [])
      (b : Bool) (ha : Forwards cfg res after) : TakenUp m (before ++ ⟨.inProgress m, b⟩ :: after)

variable {cfg res} {m : Msg} {t u reads : List RoutingEvent} {out : Option Unit}
  {inHand : Option Bytes} {result : Except StoreErr (Option (StoredProvider × ProviderStatus))}

theorem forwards_of_no_calls (hs : Steady t) (hc : callsIn t = []) : Forwards cfg res t :=
  ⟨hs, by simp [hc], fun _ => hc⟩

theorem forwards_of_forward {sp : StoredProvider} {fwd : Option Bool}
    (h : Forward cfg sp res t fwd) : Forwards cfg res t :=
  ⟨forwarding_steady h.within, fun c hc => ⟨sp, h.calls c hc⟩, h.configured⟩

theorem Forwards.append (ht : Forwards cfg res t) (hu : Forwards cfg res u) :
    Forwards cfg res (t ++ u) where
  steady := ht.steady.append hu.steady
  calls := by
    simp only [callsIn_append, List.mem_append]
    exact fun c hc => hc.elim (ht.calls c) (hu.calls c)
  configured := fun hf => by simp [ht.configured hf, hu.configured hf]

theorem forwards_after_resolution (hreads : Resolves res.serviceType reads result)
    (h : Forwards cfg res t) : Forwards cfg res (reads ++ t) :=
  (forwards_of_no_calls (resolves_steady hreads) (resolves_clear hreads).calls).append h

theorem requeued_forwards (h : Requeued cfg m fromRetryTopic t) :
    Forwards cfg res t := by
  refine forwards_of_no_calls ?_ ?_
  · cases h <;> simp [Steady, IsSteady]
  · cases h <;> rfl

theorem rejected_forwards (h : Rejected cfg m res t) : Steady t ∧ callsIn t = [] := by
  cases h
  exact ⟨by simp [Steady, IsSteady], rfl⟩

theorem routed_forwards (h : Routed cfg m res fromRetryTopic result t out) :
    Forwards cfg res t := by
  cases h with
  | storeError e b => exact forwards_of_no_calls (by simp [Steady, IsSteady]) rfl
  | unregistered h => exact requeued_forwards h
  | unavailable sp h => exact forwards_of_no_calls (rejected_forwards h).1 (rejected_forwards h).2
  | unhealthy sp h => exact requeued_forwards h
  | finished h b =>
    exact (forwards_of_forward h).append (forwards_of_no_calls (by simp [Steady, IsSteady]) rfl)
  | deferred h hq => exact (forwards_of_forward h).append (requeued_forwards hq)
  | panicked h => exact forwards_of_forward h

theorem denied_takenUp (h : Denied m res t) : TakenUp cfg res m t := by
  cases h
  exact .idle (by simp [Steady, IsSteady]) rfl

theorem passed_steady (h : Passed res t) : Steady t := by
  cases h <;> simp [Steady, IsSteady]

theorem drained_takenUp (h : Drained cfg m res fromRetryTopic t out) :
    TakenUp cfg res m t := by
  cases h with
  | denied h => exact denied_takenUp h
  | routed ht b hreads h =>
    exact .active (passed_steady ht) ht.clear.calls b
      (forwards_after_resolution hreads (routed_forwards h))

theorem transitioned_takenUp {sp : StoredProvider} {item : ParsedMessage}
    (h : Transitioned cfg sp item t out) : TakenUp cfg item.res item.msg t := by
  cases h with
  | denied h => exact denied_takenUp h
  | elsewhere hne ht b hreads h =>
    exact .active (passed_steady ht) ht.clear.calls b
      (forwards_after_resolution hreads (routed_forwards h))
  | @captured heq t reads u ht result out hreads h =>
    have hsteady := (passed_steady ht).append (resolves_steady hreads)
    have hcalls : callsIn (t ++ reads) = [] := (ht.clear.append (resolves_clear hreads)).calls
    rw [← List.append_assoc]
    cases h with
    | storeError e b =>
      exact .idle (hsteady.append (by simp [Steady, IsSteady])) (by simpa using hcalls)
    | unregistered h =>
      exact .idle (hsteady.append (rejected_forwards h).1)
        (by rw [callsIn_append, hcalls, (rejected_forwards h).2]; rfl)
    | unavailable holder h =>
      exact .idle (hsteady.append (rejected_forwards h).1)
        (by rw [callsIn_append, hcalls, (rejected_forwards h).2]; rfl)
    | @forwarded holder status hs b t done h b' =>
      refine .active hsteady hcalls b ((forwards_of_forward h).append ?_)
      cases done <;> exact forwards_of_no_calls (by simp [Steady, IsSteady]) rfl
    | panicked holder hs b h => exact .active hsteady hcalls b (forwards_of_forward h)

theorem takenUp_accepts (hparse : parseCE cfg m.data = some res) (h : TakenUp cfg res m t) :
    (identity cfg.unmarshalEvent).Accepts inHand t ↔ callsIn t = [] ∨ WellFormed res := by
  cases h with
  | idle steady calls => exact iff_of_true (accepts_of_no_calls calls) (Or.inl calls)
  | @active before after hb hc b ha =>
    rw [accepts_taken_up hc m b ha.steady]
    simp only [callsIn_append, hc, callsIn_cons, callOf, Option.toList_none, List.nil_append]
    constructor
    · intro h
      refine or_iff_not_imp_left.mpr fun hne => ?_
      obtain ⟨c, hmem⟩ := List.exists_mem_of_ne_nil _ hne
      obtain ⟨sp, hsp⟩ := ha.calls c hmem
      exact (matches_iff_wellFormed hparse sp).mp (hsp ▸ h c hmem)
    · rintro (hnil | hwf) c hmem
      · simp [hnil] at hmem
      · obtain ⟨sp, hsp⟩ := ha.calls c hmem
        exact hsp ▸ (matches_iff_wellFormed hparse sp).mpr hwf

theorem TakenUp.configured (h : TakenUp cfg res m t) (hf : cfg.forwarder = false) :
    callsIn t = [] := by
  cases h with
  | idle steady calls => exact calls
  | active hb hc b ha => simp [hc, ha.configured hf]

structure Handles (cfg : ProcessorConfig) (m : Msg) (res : CEResult) (p : Routine Unit) :
    Prop where
  takenUp : Yields p fun _ t => TakenUp cfg res m t
  forwards : May p fun out t => out = some () ∧ (cfg.forwarder = true → callsIn t ≠ [])

theorem routeMessage_may (fromRetryTopic : Bool) :
    May (routeMessage cfg m res fromRetryTopic) fun out t => out = some () ∧
      (cfg.forwarder = true → callsIn t ≠ []) := by
  -- resolved to a provider that is Ready, whose first call succeeds
  refine ⟨some "p", .ok (some ⟨"p", "p", "", "", ""⟩), some .ready, forwardRequest_may.bind ?_⟩
  rintro _ t ⟨rfl, -, hcall⟩
  refine ⟨true, rfl, true, rfl, fun hf => ?_⟩
  have hne := List.ne_nil_of_mem (hcall hf)
  simp [hne]

theorem transitionItem_handles (sp : StoredProvider) (item : ParsedMessage) :
    Handles cfg item.msg item.res (processTransitionItem cfg sp item) where
  takenUp := (transitionItem_yields sp item).mono fun _ _ => transitioned_takenUp
  forwards := by
    refine deniedCreate_may.bind ?_
    rintro _ t rfl
    refine ⟨false, rfl, ?_⟩
    change May (if item.res.serviceType ≠ sp.serviceType then _ else _) _
    split
    · refine ⟨true, (routeMessage_may true).mono ?_⟩
      rintro _ u ⟨rfl, hcall⟩
      exact ⟨rfl, fun hf => by simp [hcall hf]⟩
    · refine ⟨some "p", .ok (some ⟨"p", "p", "", "", ""⟩), some .ready, true,
        forwardRequest_may.bind ?_⟩
      rintro _ u ⟨rfl, -, hcall⟩
      refine ⟨true, rfl, true, rfl, fun hf => ?_⟩
      have hne := List.ne_nil_of_mem (hcall hf)
      simp [hne]

theorem checked_may (fromRetryTopic : Bool) :
    May (do
      if ← deniedCreate res then
        let _ ← ack m
      else
        let _ ← inProgress m
        routeMessage cfg m res fromRetryTopic) fun out t => out = some () ∧
      (cfg.forwarder = true → callsIn t ≠ []) := by
  refine deniedCreate_may.bind ?_
  rintro _ t rfl
  refine ⟨false, rfl, true, (routeMessage_may fromRetryTopic).mono ?_⟩
  rintro _ u ⟨rfl, hcall⟩
  exact ⟨rfl, fun hf => by simp [hcall hf]⟩

theorem drainRetryItem_handles (item : ParsedMessage) :
    Handles cfg item.msg item.res (drainRetryItem cfg item) where
  takenUp := (drainRetryItem_yields item).mono fun _ _ => drained_takenUp
  forwards := checked_may true

theorem drainMainMessage_handles (hparse : parseCE cfg m.data = some res) :
    Handles cfg m res (drainMainMessage cfg m) where
  takenUp := (drainMainMessage_yields hparse).mono fun _ _ => drained_takenUp
  forwards := by
    unfold drainMainMessage
    rw [hparse]
    exact checked_may false

end Items

section Feed

def FedBy (feed : String → String → FetchResult) : RoutingEvent → Prop
  | ⟨.fetchAll stream consumer, x⟩ => x = feed stream consumer
  | _ => True

variable {feed : String → String → FetchResult} {cfg : ProcessorConfig} {m : Msg}
  {res : CEResult} {p : Routine Unit} {t : List RoutingEvent}

theorem fedBy_of_steady {o : Op} (ho : IsSteady o) (x : o.Ans) : FedBy feed ⟨o, x⟩ := by
  cases o <;> trivial

theorem takenUp_fedBy (h : TakenUp cfg res m t) : ∀ e ∈ t, FedBy feed e := by
  cases h with
  | idle steady calls => exact fun e he => fedBy_of_steady (steady e he) e.2
  | active hb hc b ha =>
    rw [List.forall_mem_append, List.forall_mem_cons]
    exact ⟨fun e he => fedBy_of_steady (hb e he) e.2, trivial,
      fun e he => fedBy_of_steady (ha.steady e he) e.2⟩

theorem Handles.complies (h : Handles cfg m res p) (hparse : parseCE cfg m.data = some res)
    (hok : cfg.forwarder = true → WellFormed res) :
    Complies (identity cfg.unmarshalEvent) (FedBy feed) p := by
  intro t out he _ inHand
  have ht := h.takenUp.exec he
  refine (takenUp_accepts hparse ht).mpr ?_
  cases hf : cfg.forwarder with
  | true => exact Or.inr (hok hf)
  | false => exact Or.inl (ht.configured hf)

theorem Handles.breaks (h : Handles cfg m res p) (hparse : parseCE cfg m.data = some res)
    (hf : cfg.forwarder = true) (hbad : ¬ WellFormed res) :
    Breaks (identity cfg.unmarshalEvent) (FedBy feed) p := by
  obtain ⟨t, out, he, -, hcalls⟩ := may_iff.mp h.forwards
  have ht := h.takenUp.exec he
  refine ⟨t, out, he, takenUp_fedBy ht, fun inHand hacc => ?_⟩
  exact ((takenUp_accepts hparse ht).mp hacc).elim (hcalls hf) hbad

theorem Handles.reaches (h : Handles cfg m res p) : Reaches (FedBy feed) p () := by
  obtain ⟨t, _, he, rfl, -⟩ := may_iff.mp h.forwards
  exact ⟨t, he, takenUp_fedBy (h.takenUp.exec he)⟩

theorem complies_of_no_calls {α : Type} {p : Routine α}
    (h : Yields p fun _ t => callsIn t = []) :
    Complies (identity cfg.unmarshalEvent) (FedBy feed) p :=
  fun _ _ he _ _ => accepts_of_no_calls (h.exec he)

def feedAnswer (feed : String → String → FetchResult) : (o : Op) → o.Ans :=
  { singleProvider vmProvider .ready .ok with fetchAll := feed }.answer

theorem fedBy_feedAnswer (feed : String → String → FetchResult) (o : Op) :
    FedBy feed ⟨o, feedAnswer feed o⟩ := by
  cases o <;> trivial

section Batches

variable {f : ParsedMessage → Routine Unit} {msgs : List Msg}

theorem batch_complies (hf : ∀ item, Handles cfg item.msg item.res (f item))
    (hok : cfg.forwarder = true → ∀ item ∈ survivors (parsed cfg msgs), WellFormed item.res) :
    Complies (identity cfg.unmarshalEvent) (FedBy feed) (batch cfg f msgs) := by
  have hparse : Yields (parseMessages cfg msgs) _ := parseMessages_yields msgs
  refine (complies_of_no_calls (hparse.mono fun _ _ h => h.2.calls)).bind fun items hitems => ?_
  obtain ⟨_, ⟨⟩, -⟩ := hitems.yields hparse
  have hdedup : Yields (dedupCreateDeletePairs cfg (parsed cfg msgs)) _ := dedup_yields _
  refine (complies_of_no_calls (hdedup.mono ?_)).bind fun items hitems => ?_
  · rintro _ _ ⟨-, order, -, h⟩
    exact h.calls
  obtain ⟨_, ⟨⟩, -⟩ := hitems.yields hdedup
  refine (complies_of_no_calls ((heartbeatAll_yields _).mono fun _ _ h => h.2.calls)).bind
    fun _ _ => ?_
  refine Complies.each fun item hitem => (hf item).complies ?_ fun h => hok h item hitem
  exact (mem_parsed.mp (List.mem_filter.mp hitem).1).2

theorem batch_breaks (hf : ∀ item, Handles cfg item.msg item.res (f item))
    (hforwarder : cfg.forwarder = true) {item : ParsedMessage}
    (hitem : item ∈ survivors (parsed cfg msgs)) (hbad : ¬ WellFormed item.res) :
    Breaks (identity cfg.unmarshalEvent) (FedBy feed) (batch cfg f msgs) := by
  have total := fedBy_feedAnswer feed
  refine ((parseMessages_yields msgs).reaches total fun _ _ h => h.1).breaks ?_
  refine ((dedup_yields _).reaches total fun _ _ h => h.1).breaks ?_
  refine ((heartbeatAll_yields _).reaches total fun _ _ h => h.1).breaks ?_
  refine Breaks.each total (fun other _ => (hf other).reaches) hitem ((hf item).breaks ?_ hforwarder hbad)
  exact (mem_parsed.mp (List.mem_filter.mp hitem).1).2

end Batches

theorem drainMainMessage_complies
    (hok : ∀ res, parseCE cfg m.data = some res → cfg.forwarder = true → WellFormed res) :
    Complies (identity cfg.unmarshalEvent) (FedBy feed) (drainMainMessage cfg m) := by
  cases hparse : parseCE cfg m.data with
  | some res => exact (drainMainMessage_handles hparse).complies hparse (hok res hparse)
  | none =>
    refine complies_of_no_calls ?_
    unfold drainMainMessage
    rw [hparse]
    exact fun b => rfl

theorem drainMainMessage_reaches (m : Msg) :
    Reaches (FedBy feed) (drainMainMessage cfg m) () := by
  cases hparse : parseCE cfg m.data with
  | some res => exact (drainMainMessage_handles hparse).reaches
  | none =>
    unfold drainMainMessage
    rw [hparse]
    exact ⟨[⟨.term m, true⟩], .call _ _ (.ret ()), List.forall_mem_singleton.mpr trivial⟩

theorem denyAll_yields (msgs : List Msg) :
    Yields (Prog.each msgs (denyCancelled cfg)) fun out t => out = some () ∧ callsIn t = [] := by
  have one : ∀ m, Yields (denyCancelled cfg m) fun out t => out = some () ∧ callsIn t = [] := by
    intro m
    unfold denyCancelled
    split
    · exact fun b => ⟨rfl, rfl⟩
    · exact fun _ b => ⟨rfl, rfl⟩
  induction msgs with
  | nil => exact ⟨rfl, rfl⟩
  | cons m rest ih =>
    refine Yields.bind (one m) ?_ nofun
    rintro _ t ⟨-, ht⟩
    exact ih.mono fun _ u hu => ⟨hu.1, by simp [ht, hu.2]⟩

theorem drainCancels_yields (feed : String → String → FetchResult) :
    Yields (drainCancelsToDenyList cfg) fun out t =>
    callsIn t = [] ∧ ((∀ e ∈ t, FedBy feed e) → out = some
      (if (feed requestStreamName cfg.topics.cancelConsumer).failed then some .fetch else none)) := by
  refine fun fetched => ?_
  change Yields (if fetched.failed then _ else _) _
  split
  · rename_i hfailed
    refine ⟨rfl, fun hfed => ?_⟩
    have hfed : fetched = _ := hfed _ List.mem_cons_self
    rw [← hfed, hfailed]
    rfl
  · rename_i hfailed
    refine (denyAll_yields fetched.msgs).bind ?_ nofun
    rintro _ t ⟨-, ht⟩
    refine ⟨by simp [ht], fun hfed => ?_⟩
    have hfed : fetched = _ := hfed _ List.mem_cons_self
    rw [← hfed]
    simp [hfailed]

/-- What is forwarded from the retry topic is well formed: every fetched request that no pair
drops. -/
def RetrySafe (cfg : ProcessorConfig) (fetched : FetchResult) : Prop :=
  fetched.failed = false → cfg.forwarder = true →
    ∀ item ∈ survivors (parsed cfg fetched.msgs), WellFormed item.res

def MainSafe (cfg : ProcessorConfig) (fetched : FetchResult) : Prop :=
  fetched.failed = false → cfg.forwarder = true →
    ∀ item ∈ parsed cfg fetched.msgs, WellFormed item.res

instance (cfg : ProcessorConfig) (fetched : FetchResult) : Decidable (RetrySafe cfg fetched) :=
  inferInstanceAs (Decidable (_ → _))

instance (cfg : ProcessorConfig) (fetched : FetchResult) : Decidable (MainSafe cfg fetched) :=
  inferInstanceAs (Decidable (_ → _))

def fetchBatch (cfg : ProcessorConfig) (f : ParsedMessage → Routine Unit) :
    Routine (Option ProcessorErr) := do
  let fetched ← fetchAll cfg.topics.retryStream cfg.topics.retryConsumer
  if fetched.failed then return some .fetch
  batch cfg f fetched.msgs
  return none

section Fetches

variable {f : ParsedMessage → Routine Unit}

theorem fetchBatch_complies (hf : ∀ item, Handles cfg item.msg item.res (f item))
    (hok : RetrySafe cfg (feed cfg.topics.retryStream cfg.topics.retryConsumer)) :
    Complies (identity cfg.unmarshalEvent) (FedBy feed) (fetchBatch cfg f) := by
  refine Complies.call (fun _ => trivial) fun fetched hfed => ?_
  obtain rfl : fetched = _ := hfed
  change Complies _ _ (if FetchResult.failed _ then _ else _)
  split
  · exact complies_of_no_calls rfl
  · rename_i hfailed
    exact (batch_complies hf (hok (by simpa using hfailed))).bind fun _ _ =>
      complies_of_no_calls rfl

theorem fetchBatch_breaks (hf : ∀ item, Handles cfg item.msg item.res (f item))
    (hbad : ¬ RetrySafe cfg (feed cfg.topics.retryStream cfg.topics.retryConsumer)) :
    Breaks (identity cfg.unmarshalEvent) (FedBy feed) (fetchBatch cfg f) := by
  unfold RetrySafe at hbad
  push Not at hbad
  obtain ⟨hfailed, hforwarder, item, hitem, hbad⟩ := hbad
  refine Breaks.call rfl ?_
  change Breaks _ _ (if FetchResult.failed _ then _ else _)
  rw [if_neg (by simp [hfailed])]
  exact Breaks.bind (fedBy_feedAnswer feed) (batch_breaks hf hforwarder hitem hbad) _

end Fetches

theorem drainMainTopic_complies
    (hok : MainSafe cfg (feed requestStreamName cfg.topics.mainConsumer)) :
    Complies (identity cfg.unmarshalEvent) (FedBy feed) (drainMainTopic cfg) := by
  refine Complies.call (fun _ => trivial) fun fetched hfed => ?_
  obtain rfl : fetched = _ := hfed
  change Complies _ _ (if FetchResult.failed _ then _ else _)
  split
  · exact complies_of_no_calls rfl
  · rename_i hfailed
    refine (complies_of_no_calls ((heartbeatAll_yields _).mono fun _ _ h => h.2.calls)).bind
      fun _ _ => ?_
    refine Complies.bind (Complies.each fun m hm => drainMainMessage_complies ?_) fun _ _ =>
      complies_of_no_calls rfl
    exact fun res hparse hf =>
      hok (by simpa using hfailed) hf ⟨m, res⟩ (mem_parsed.mpr ⟨hm, hparse⟩)

theorem drainMainTopic_breaks
    (hbad : ¬ MainSafe cfg (feed requestStreamName cfg.topics.mainConsumer)) :
    Breaks (identity cfg.unmarshalEvent) (FedBy feed) (drainMainTopic cfg) := by
  have total := fedBy_feedAnswer feed
  unfold MainSafe at hbad
  push Not at hbad
  obtain ⟨hfailed, hforwarder, item, hitem, hbad⟩ := hbad
  obtain ⟨hmem, hparse⟩ := mem_parsed.mp hitem
  refine Breaks.call rfl ?_
  change Breaks _ _ (if FetchResult.failed _ then _ else _)
  rw [if_neg (by simp [hfailed])]
  refine ((heartbeatAll_yields _).reaches total fun _ _ h => h.1).breaks ?_
  refine Breaks.bind total (Breaks.each total (fun m _ => drainMainMessage_reaches m) hmem ?_) _
  exact (drainMainMessage_handles hparse).breaks hparse hforwarder hbad

theorem drainMainTopic_reaches :
    Reaches (FedBy feed) (drainMainTopic cfg) none ↔
      (feed requestStreamName cfg.topics.mainConsumer).failed = false := by
  constructor
  · rintro ⟨t, he, hfed⟩
    obtain ⟨fetched, u, rfl, hu⟩ := exec_call.mp he
    obtain rfl : fetched = _ := hfed _ List.mem_cons_self
    by_contra hfailed
    change Exec (if FetchResult.failed _ then _ else _) _ _ at hu
    rw [if_pos (by simpa using hfailed)] at hu
    cases (exec_ret.mp hu).2
  · intro hfailed
    refine Reaches.bind (a := feed requestStreamName cfg.topics.mainConsumer)
      (Reaches.perform (by exact rfl)) ?_
    rw [if_neg (by simp [hfailed])]
    refine ((heartbeatAll_yields _).reaches (fedBy_feedAnswer feed) fun _ _ h => h.1).bind ?_
    exact Reaches.bind (Reaches.each fun m _ => drainMainMessage_reaches m) ⟨[], .ret _, nofun⟩

theorem drainCancels_reaches {result : Option ProcessorErr} :
    Reaches (FedBy feed) (drainCancelsToDenyList cfg) result ↔ result =
      if (feed requestStreamName cfg.topics.cancelConsumer).failed then some .fetch else none := by
  constructor
  · rintro ⟨t, he, hfed⟩
    exact Option.some.inj (((drainCancels_yields feed).exec he).2 hfed)
  · rintro rfl
    obtain ⟨t, r, he, hfed⟩ := exists_exec (fedBy_feedAnswer feed) (drainCancelsToDenyList cfg)
    exact ⟨t, ((drainCancels_yields feed).exec he).2 hfed ▸ he, hfed⟩

end Feed

def CallsMatch (decode : Decoder) (feed : String → String → FetchResult) (inHand : Option Bytes)
    {α : Type} (p : Routine α) : Prop :=
  ∀ t out, Exec p t out → (∀ e ∈ t, FedBy feed e) → (identity decode).Accepts inHand t

section EntryPoints

variable {decode : Decoder} {feed : String → String → FetchResult} {cfg : ProcessorConfig}
  {α : Type} {p : Routine α}

theorem callsMatch_of_complies {inHand : Option Bytes}
    (h : Complies (identity decode) (FedBy feed) p) : CallsMatch decode feed inHand p :=
  fun t out he hfed => h t out he hfed inHand

theorem not_callsMatch_of_breaks {inHand : Option Bytes}
    (h : Breaks (identity decode) (FedBy feed) p) : ¬ CallsMatch decode feed inHand p := by
  obtain ⟨t, out, he, hfed, hbad⟩ := h
  exact fun hmatch => hbad inHand (hmatch t out he hfed)

theorem transition_callsMatch (providerID : String) (toStatus : ProviderStatus) :
    CallsMatch cfg.unmarshalEvent feed none (processOnTransition cfg providerID toStatus) ↔
      (toStatus = .ready ∨ toStatus = .unavailable →
        RetrySafe cfg (feed cfg.topics.retryStream cfg.topics.retryConsumer)) := by
  rw [processOnTransition_eq]
  split
  · rename_i hskip
    refine iff_of_true (callsMatch_of_complies (complies_of_no_calls rfl)) fun h => ?_
    exact absurd h (not_or.mpr hskip)
  · rename_i hrun
    have hrun : toStatus = .ready ∨ toStatus = .unavailable := by
      by_contra h
      exact hrun (not_or.mp h)
    constructor
    · intro h _
      by_contra hbad
      refine not_callsMatch_of_breaks ?_ h
      refine Breaks.call (x := .ok (some vmProvider)) trivial ?_
      exact fetchBatch_breaks (transitionItem_handles vmProvider) hbad
    · intro h
      refine callsMatch_of_complies (Complies.call (fun _ => trivial) fun found _ => ?_)
      match found with
      | .error e => exact complies_of_no_calls rfl
      | .ok none => exact complies_of_no_calls rfl
      | .ok (some sp) => exact fetchBatch_complies (transitionItem_handles sp) (h hrun)

theorem restart_callsMatch :
    CallsMatch cfg.unmarshalEvent feed none (processOnRestart cfg) ↔
      ((feed requestStreamName cfg.topics.cancelConsumer).failed = false →
        MainSafe cfg (feed requestStreamName cfg.topics.mainConsumer) ∧
        ((feed requestStreamName cfg.topics.mainConsumer).failed = false →
          RetrySafe cfg (feed cfg.topics.retryStream cfg.topics.retryConsumer))) := by
  constructor
  · intro h hcancels
    have cancels : Reaches (FedBy feed) (drainCancelsToDenyList cfg) none :=
      drainCancels_reaches.mpr (by simp [hcancels])
    refine ⟨?_, fun hmain => ?_⟩
    · by_contra hbad
      refine not_callsMatch_of_breaks (cancels.breaks ?_) h
      exact Breaks.bind (fedBy_feedAnswer feed) (drainMainTopic_breaks hbad) _
    · by_contra hbad
      refine not_callsMatch_of_breaks (cancels.breaks ?_) h
      refine (drainMainTopic_reaches.mpr hmain).breaks ?_
      change Breaks _ _ (drainRetryTopicWithDedup cfg)
      rw [drainRetryTopic_eq]
      exact fetchBatch_breaks drainRetryItem_handles hbad
  · intro h
    refine callsMatch_of_complies (Complies.bind
      (complies_of_no_calls ((drainCancels_yields feed).mono fun _ _ h => h.1)) fun result hresult => ?_)
    match result with
    | some e => exact complies_of_no_calls rfl
    | none =>
      have hcancels : (feed requestStreamName cfg.topics.cancelConsumer).failed = false := by
        simpa using drainCancels_reaches.mp hresult
      refine Complies.bind (drainMainTopic_complies (h hcancels).1) fun result hresult => ?_
      match result with
      | some e => exact complies_of_no_calls rfl
      | none =>
        change Complies _ _ (drainRetryTopicWithDedup cfg)
        rw [drainRetryTopic_eq]
        exact fetchBatch_complies drainRetryItem_handles
          ((h hcancels).2 (drainMainTopic_reaches.mp hresult))

end EntryPoints

theorem calls_match_messages (rcfg : RouterConfig) (cfg : ProcessorConfig)
    (feed : String → String → FetchResult) :
    (∀ msg, CallsMatch rcfg.unmarshalEvent feed (some msg) (handleRequest rcfg msg)) ∧
    (∀ providerID toStatus,
      CallsMatch cfg.unmarshalEvent feed none (processOnTransition cfg providerID toStatus) ↔
        (toStatus = .ready ∨ toStatus = .unavailable →
          RetrySafe cfg (feed cfg.topics.retryStream cfg.topics.retryConsumer))) ∧
    (CallsMatch cfg.unmarshalEvent feed none (processOnRestart cfg) ↔
      ((feed requestStreamName cfg.topics.cancelConsumer).failed = false →
        MainSafe cfg (feed requestStreamName cfg.topics.mainConsumer) ∧
        ((feed requestStreamName cfg.topics.mainConsumer).failed = false →
          RetrySafe cfg (feed cfg.topics.retryStream cfg.topics.retryConsumer)))) :=
  ⟨fun _ _ _ he _ => handled_accepts (RequestHandling.handleRequest_yields.exec he),
    transition_callsMatch, restart_callsMatch⟩

def strayCancel : String × String × String × String := (typeRequestCancel, "e", "r", "vm")
def strayCreate : String × String × String × String := (typeRequestCreate, "e", "", "vm")

def strayProcessor : ProcessorConfig :=
  { vmProcessor with unmarshalEvent := decodeAmong [strayCancel, strayCreate] }

def strayFeed (consumer : String) (q : String × String × String × String) :
    String → String → FetchResult := fun _ c =>
  if c = consumer then ⟨[⟨1, requestBytes q.1 q.2.1 q.2.2.1 q.2.2.2⟩], List.nodup_singleton 1, false⟩
  else ⟨[], List.nodup_nil, false⟩

def strayRun {α : Type} (feed : String → String → FetchResult) (p : Routine α) :
    List RoutingEvent × Option α × SharedState :=
  p.eval (handler { singleProvider vmProvider .ready .ok with fetchAll := feed })
    ⟨.new 10, .new 10, .new⟩

theorem eval_fedBy {α : Type} (a : Answers) (p : Routine α) (w : SharedState) :
    ∀ e ∈ (p.eval (handler a) w).1, FedBy a.fetchAll e := by
  induction p generalizing w with
  | ret x => exact List.forall_mem_nil _
  | raise => exact List.forall_mem_nil _
  | call o k ih =>
    refine List.forall_mem_cons.mpr ⟨?_, ih _ _⟩
    cases o <;> trivial

theorem strayRun_exec {α : Type} (feed : String → String → FetchResult) (p : Routine α) {a : α}
    (h : (strayRun feed p).2.1 = some a) :
    Exec p (strayRun feed p).1 (some a) ∧ ∀ e ∈ (strayRun feed p).1, FedBy feed e :=
  ⟨h ▸ Prog.exec_eval _ p _, eval_fedBy _ p _⟩

/-- Both are forwarded as creates, by a transition and by a restart. -/
theorem stray_requests_forwarded :
    (¬ CallsMatch strayProcessor.unmarshalEvent
        (strayFeed strayProcessor.topics.retryConsumer strayCancel) none
        (processOnTransition strayProcessor "p1" .ready) ∧
      ∃ t, Exec (processOnTransition strayProcessor "p1" .ready) t (some none) ∧
        (∀ e ∈ t, FedBy (strayFeed strayProcessor.topics.retryConsumer strayCancel) e) ∧
        callsIn t = [(.create "http://p" false ⟨"r", "vm", none, "e"⟩, .ok)]) ∧
    (¬ CallsMatch strayProcessor.unmarshalEvent
        (strayFeed strayProcessor.topics.mainConsumer strayCreate) none
        (processOnRestart strayProcessor) ∧
      ∃ t, Exec (processOnRestart strayProcessor) t (some none) ∧
        (∀ e ∈ t, FedBy (strayFeed strayProcessor.topics.mainConsumer strayCreate) e) ∧
        callsIn t = [(.create "http://p" false ⟨"", "vm", none, "e"⟩, .ok)]) := by
  have cancelRun := strayRun_exec (strayFeed strayProcessor.topics.retryConsumer strayCancel)
    (processOnTransition strayProcessor "p1" .ready) (a := none) (by decide +kernel)
  have createRun := strayRun_exec (strayFeed strayProcessor.topics.mainConsumer strayCreate)
    (processOnRestart strayProcessor) (a := none) (by decide +kernel)
  refine ⟨⟨?_, _, cancelRun.1, cancelRun.2, by decide +kernel⟩,
    ⟨?_, _, createRun.1, createRun.2, by decide +kernel⟩⟩
  · rw [transition_callsMatch]
    decide +kernel
  · rw [restart_callsMatch]
    decide +kernel

end RequestIdentity
