import EnvironmentAgent.CancelPurge
import EnvironmentAgent.MessagingHandlers
import EnvironmentAgent.RequestIdentity

/-! # Answers to cancels

The handler of the router reports on each cancel that it acks, and denies only what an unclaimed
cancel names; the drain of a restart takes up the same messages. -/
namespace CancelAnswers

open AtomicPrograms RoutingCloudEvent RoutingEffects RoutingSharedState RetryProcessor
open RoutingRouter (RouterConfig HandlerErr RetryMessage parseCancelCE handleCancel purgeMessages
  purgeFromRetryTopic)
open MessagingHandlers (handleCancelMessage resolveHandled)
open RequestIdentity (Decoder IsRequest unmarshalPayload_untagged)

def IsCancel (decode : Decoder) (data : Bytes) (r : String) : Prop :=
  ∃ serviceType id spec, IsRequest decode data typeRequestCancel r serviceType id spec

def reports (r : String) : RoutingEvent → Bool
  | ⟨.publishCE ceType d, published⟩ =>
    published && (ceType == typeCancelAcked || ceType == typeCancelRejected) &&
      d.ctx.resourceID == r
  | _ => false

/-- Only a cancel denies, and only the unclaimed resource it names; a cancel that is acked has
one report. -/
structure Answered (decode : Decoder) (m : Msg) (w : SharedState) (t : List RoutingEvent)
    (w' : SharedState) : Prop where
  denies : ∀ r, r ∉ w.denyList → r ∈ w'.denyList → IsCancel decode m.data r ∧ r ∉ w.claimed
  reported : ∀ r, IsCancel decode m.data r → ⟨.ack m, true⟩ ∈ t → t.countP (reports r) = 1

inductive Path where
  | handler
  | restart
  deriving DecidableEq, Repr

structure Consumer where
  router : RouterConfig
  processor : ProcessorConfig
  sameDecoder : router.unmarshalEvent = processor.unmarshalEvent

def Consumer.routine (c : Consumer) : Path → Msg → Routine Unit
  | .handler, m => handleCancelMessage (handleCancel c.router (fetchRetryMessages c.processor)) m
  | .restart, m => denyCancelled c.processor m

/-- Publishes and the acknowledgement of `m` end as given. The retry topic does not hold `m`. -/
def ending (m : Msg) (published acked : Bool) : Environment
  | .publishCE _ _, b => b = published
  | .ack m', b => m' = m → b = acked
  | .fetchAll _ _, x => m ∉ x.msgs
  | _, _ => True

def Answerable (c : Consumer) (m : Msg) (w : SharedState) (published acked : Bool) : Path → Prop
  | .handler => ∀ r, IsCancel c.router.unmarshalEvent m.data r → acked = true →
    (parseCancelCE c.router m.data).isSome = true ∧ published = true
  | .restart => ∀ res, parseCE c.processor m.data = some res →
    (res.resourceID ∈ w.denyList ∨
      IsCancel c.router.unmarshalEvent m.data res.resourceID ∧ res.resourceID ∉ w.claimed) ∧
    ∀ r, IsCancel c.router.unmarshalEvent m.data r → acked = false

section Parsers

variable {cfg : RouterConfig} {pcfg : ProcessorConfig} {data : Bytes} {payload : InboundPayload}

theorem isCancel_of_parseCancelCE (h : parseCancelCE cfg data = some payload)
    (hids : ¬ (payload.resourceID = "" ∨ payload.serviceType = "")) :
    IsCancel cfg.unmarshalEvent data payload.resourceID := by
  obtain ⟨event, hevent, h⟩ := Option.bind_eq_some_iff.mp h
  dsimp only at h
  split at h
  · cases h
  · rename_i htype
    obtain ⟨raw, hraw, ⟨⟩⟩ := Option.bind_eq_some_iff.mp h
    obtain ⟨hnamed, htyped⟩ := not_or.mp hids
    exact ⟨raw.serviceType, event.id, raw.spec, ⟨event, _, hevent, unmarshalPayload_untagged hraw,
      not_not.mp htype, rfl, rfl, rfl, rfl⟩, hnamed, htyped⟩

theorem payload_of_isCancel {r : String} (hcancel : IsCancel cfg.unmarshalEvent data r)
    (h : parseCancelCE cfg data = some payload) :
    payload.resourceID = r ∧ ¬ (payload.resourceID = "" ∨ payload.serviceType = "") := by
  obtain ⟨_, _, _, ⟨event, plain, hevent, hplain, -, -, rfl, rfl, -⟩, hnamed, htyped⟩ := hcancel
  obtain ⟨event', hevent', h⟩ := Option.bind_eq_some_iff.mp h
  obtain rfl : event = event' := Option.some.inj (hevent.symm.trans hevent')
  dsimp only at h
  split at h
  · cases h
  · obtain ⟨raw, hraw, ⟨⟩⟩ := Option.bind_eq_some_iff.mp h
    obtain rfl := Option.some.inj (hplain.symm.trans (unmarshalPayload_untagged hraw))
    exact ⟨rfl, not_or.mpr ⟨hnamed, htyped⟩⟩

end Parsers

section Handler

variable {cfg : RouterConfig} {pcfg : ProcessorConfig} {r : String} {m : Msg}

def Resolves (msgs : List Msg) : Op → Prop
  | .ack m | .nakWithDelay m | .term m => m ∈ msgs
  | _ => False

theorem purgeMessages_uses {fetched : List Msg} (msgs : List RetryMessage)
    (h : ∀ q ∈ msgs, q.msg ∈ fetched) : (purgeMessages r msgs).Uses (Resolves fetched) := by
  induction msgs with
  | nil => trivial
  | cons q rest ih =>
    obtain ⟨hq, hrest⟩ := List.forall_mem_cons.mp h
    unfold purgeMessages
    split
    · refine ⟨hq, fun acked => ?_⟩
      cases acked with
      | true => exact ih hrest
      | false => trivial
    · refine ⟨hq, fun naked => ?_⟩
      cases naked with
      | true => exact ih hrest
      | false => trivial

theorem retryMessages_resolves (msgs : List Msg) :
    Yields (retryMessages pcfg msgs) fun out t =>
      (∃ items, out = some items ∧ ∀ q ∈ items, q.msg ∈ msgs) ∧
        ∀ e ∈ t, Resolves msgs e.1 := by
  have widen : ∀ {q : Msg} {rest : List Msg} {o : Op}, Resolves rest o →
      Resolves (q :: rest) o := by
    intro q rest o ho
    cases o with
    | ack | nakWithDelay | term => exact List.mem_cons_of_mem _ ho
    | _ => exact ho
  induction msgs with
  | nil => exact ⟨⟨[], rfl, nofun⟩, nofun⟩
  | cons q rest ih =>
    unfold retryMessages
    cases parseCE pcfg q.data with
    | none =>
      refine fun b => ih.mono ?_
      rintro out t ⟨⟨items, rfl, hitems⟩, ht⟩
      refine ⟨⟨items, rfl, fun i hi => List.mem_cons_of_mem _ (hitems i hi)⟩, ?_⟩
      exact List.forall_mem_cons.mpr ⟨List.mem_cons_self, fun e he => widen (ht e he)⟩
    | some res =>
      refine ih.bind ?_ ?_
      · rintro items t ⟨⟨_, ⟨⟩, hitems⟩, ht⟩
        refine ⟨⟨_, rfl, List.forall_mem_cons.mpr ⟨List.mem_cons_self, ?_⟩⟩, ?_⟩
        · exact fun i hi => List.mem_cons_of_mem _ (hitems i hi)
        · intro e he
          exact widen (ht e (by simpa using he))
      · rintro t ⟨⟨_, ⟨⟩, _⟩, _⟩

def Purge (pcfg : ProcessorConfig) (t : List RoutingEvent) : Prop :=
  ∃ fetched u, t = ⟨.fetchAll pcfg.topics.retryStream pcfg.topics.retryConsumer, fetched⟩ :: u ∧
    ∀ e ∈ u, Resolves fetched.msgs e.1

theorem purge_shape : Yields (purgeFromRetryTopic (fetchRetryMessages pcfg) r) fun out t =>
    (∃ result, out = some result) ∧ Purge pcfg t := by
  refine fun fetched => ?_
  change Yields ((if fetched.failed then _ else _) >>= _) _
  split
  · exact ⟨⟨_, rfl⟩, fetched, [], rfl, nofun⟩
  · rw [bind_assoc]
    refine (retryMessages_resolves fetched.msgs).bind ?_ ?_
    · rintro items t ⟨⟨_, ⟨⟩, hitems⟩, ht⟩
      refine (purgeMessages_uses items hitems).yields.mono fun out u hu => ?_
      refine ⟨Option.isSome_iff_exists.mp hu.1, fetched, t ++ u, rfl, ?_⟩
      exact List.forall_mem_append.mpr ⟨ht, hu.2⟩
    · rintro t ⟨⟨_, ⟨⟩, _⟩, _⟩

abbrev rejection (cfg : RouterConfig) (payload : InboundPayload) : Op :=
  .publishCE typeCancelRejected
    (.cancelRejected (RoutingRouter.responseCtx cfg payload.resourceID) "resource already claimed")

abbrev acknowledgement (cfg : RouterConfig) (payload : InboundPayload) : Op :=
  .publishCE typeCancelAcked
    (.cancelAck (RoutingRouter.responseCtx cfg payload.resourceID) payload.serviceType)

/-- A cancel with both ids is rejected as claimed, or denied with or without its purge. -/
inductive Handling (cfg : RouterConfig) (pcfg : ProcessorConfig) (payload : InboundPayload) :
    Option (Option HandlerErr) → List RoutingEvent → Prop
  | rejected (b : Bool) : Handling cfg pcfg payload (some none)
      [⟨.contains .claimedResourcesSet payload.resourceID, true⟩, ⟨rejection cfg payload, b⟩]
  | failed (e : HandlerErr) (u : List RoutingEvent) (hu : Purge pcfg u) :
      Handling cfg pcfg payload (some (some e))
        (⟨.contains .claimedResourcesSet payload.resourceID, false⟩ :: ⟨.retryConsumer, true⟩ ::
          ⟨.add .denyList payload.resourceID, ()⟩ :: u)
  | accepted (bound b : Bool) (u : List RoutingEvent) (hu : u = [] ∨ Purge pcfg u) :
      Handling cfg pcfg payload (some none)
        (⟨.contains .claimedResourcesSet payload.resourceID, false⟩ :: ⟨.retryConsumer, bound⟩ ::
          ⟨.add .denyList payload.resourceID, ()⟩ :: (u ++ [⟨acknowledgement cfg payload, b⟩]))

theorem handleCancel_handling {data : Bytes} {payload : InboundPayload}
    (hparse : parseCancelCE cfg data = some payload)
    (hids : ¬ (payload.resourceID = "" ∨ payload.serviceType = "")) :
    Yields (handleCancel cfg (fetchRetryMessages pcfg) data) (Handling cfg pcfg payload) := by
  unfold handleCancel
  rw [hparse]
  change Yields (if _ then _ else _) _
  rw [if_neg hids]
  intro claimed
  cases claimed with
  | true => exact fun b => .rejected b
  | false =>
    intro bound u
    cases bound with
    | false => exact fun b => .accepted false b [] (Or.inl rfl)
    | true =>
      refine purge_shape.bind ?_ ?_
      · rintro result t ⟨-, ht⟩
        cases result with
        | some e => simpa using Handling.failed e t ht
        | none => exact fun b => .accepted true b t (Or.inr ht)
      · rintro t ⟨⟨_, ⟨⟩⟩, _⟩

inductive Resolved (m : Msg) : Option (Option HandlerErr) → RoutingEvent → Prop
  | acked (b : Bool) : Resolved m (some none) ⟨.ack m, b⟩
  | delayed (e : HandlerErr) (b : Bool) : Resolved m (some (some e)) ⟨.nakWithDelay m, b⟩

theorem handleCancelMessage_yields {handler : Bytes → Routine (Option HandlerErr)}
    {P : Option (Option HandlerErr) → List RoutingEvent → Prop} (h : Yields (handler m.data) P)
    (hreturns : ∀ t, ¬ P none t) :
    Yields (handleCancelMessage handler m) fun _ t =>
      ∃ out u e, P out u ∧ Resolved m out e ∧ t = u ++ [e] := by
  have resolved : Yields (resolveHandled m (handler m.data)) fun result t => result = some () ∧
      ∃ out u e, P out u ∧ Resolved m out e ∧ t = u ++ [e] := by
    refine h.bind ?_ fun t ht => absurd ht (hreturns t)
    intro result t ht
    cases result with
    | none => exact fun b => ⟨rfl, _, t, _, ht, .acked b, rfl⟩
    | some e => exact fun b => ⟨rfl, _, t, _, ht, .delayed e b, rfl⟩
  exact resolved.recover (fun _ _ ht => ht.2) fun _ ht => nomatch ht.1

end Handler

section Live

variable {cfg : RouterConfig} {pcfg : ProcessorConfig} {m : Msg} {payload : InboundPayload}
  {out : Option (Option HandlerErr)} {e : RoutingEvent} {t u : List RoutingEvent}
  {w w' : SharedState} {published acked : Bool}

theorem Purge.outside (h : Purge pcfg u) : ∀ e ∈ u, Outside e.1 := by
  obtain ⟨fetched, u, rfl, hu⟩ := h
  refine List.forall_mem_cons.mpr ⟨trivial, fun e he => ?_⟩
  have := hu e he
  obtain ⟨o, x⟩ := e
  cases o <;> first | exact this.elim | trivial

theorem Purge.quiet (h : Purge pcfg u) (r : String) : u.countP (reports r) = 0 := by
  obtain ⟨fetched, u, rfl, hu⟩ := h
  refine List.countP_eq_zero.mpr (List.forall_mem_cons.mpr ⟨Bool.false_ne_true, fun e he => ?_⟩)
  have := hu e he
  obtain ⟨o, x⟩ := e
  cases o <;> first | exact this.elim | exact Bool.false_ne_true

theorem Purge.not_acked (h : Purge pcfg u) (henv : ∀ e ∈ u, ending m published acked e.1 e.2)
    (b : Bool) : ⟨.ack m, b⟩ ∉ u := by
  obtain ⟨fetched, u, rfl, hu⟩ := h
  intro hmem
  rcases List.mem_cons.mp hmem with h | hmem
  · cases h
  · exact henv _ List.mem_cons_self (hu _ hmem)

theorem Resolved.outside (h : Resolved m out e) : Outside e.1 := by
  cases h <;> trivial

theorem denied_of_acts {env : Environment} {r : String} {bound : Bool}
    (hacts : Acts env w (⟨.contains .claimedResourcesSet r, false⟩ :: ⟨.retryConsumer, bound⟩ ::
      ⟨.add .denyList r, ()⟩ :: u) w') (hu : ∀ e ∈ u, Outside e.1) :
    ∀ x ∈ w'.denyList, x ∈ w.denyList ∨ x = r ∧ r ∉ w.claimed := by
  obtain ⟨v, hcontains, hacts⟩ := acts_cons.mp hacts
  obtain ⟨v', hbound, hacts⟩ := acts_cons.mp hacts
  obtain ⟨v'', hadd, hacts⟩ := acts_cons.mp hacts
  obtain rfl := hacts.eq_of_outside hu
  obtain ⟨-, rfl⟩ := act_outside (o := .retryConsumer) trivial hbound
  obtain ⟨-, rfl⟩ := Prod.mk.inj hadd
  obtain ⟨hclaimed, hsame⟩ := act_contains hcontains
  have unclaimed : r ∉ w.claimed := fun h => Bool.false_ne_true (hclaimed.mpr h)
  intro x hx
  rcases RoutingResourceSet.ResourceSet.mem_of_mem_insertId hx with rfl | hx
  · exact Or.inr ⟨rfl, unclaimed⟩
  · exact Or.inl ((hsame .denyList x).mp hx)

structure Facts (m : Msg) (r : String) (published : Bool) (w : SharedState)
    (t : List RoutingEvent) (w' : SharedState) : Prop where
  denied : ∀ x ∈ w'.denyList, x ∈ w.denyList ∨ x = r ∧ r ∉ w.claimed
  reported : ⟨.ack m, true⟩ ∈ t → t.countP (reports r) = if published then 1 else 0
  resolved : ⟨.retryConsumer, true⟩ ∉ t → ∃ b, ⟨.ack m, b⟩ ∈ t

theorem Handling.facts (h : Handling cfg pcfg payload out u) (he : Resolved m out e)
    (hacts : Acts (ending m published acked) w (u ++ [e]) w') :
    Facts m payload.resourceID published w (u ++ [e]) w' := by
  cases h with
  | rejected b =>
    obtain ⟨b', rfl⟩ : ∃ b', e = ⟨.ack m, b'⟩ := by cases he; exact ⟨_, rfl⟩
    obtain rfl : b = published := hacts.answered (e := ⟨rejection cfg payload, b⟩) (by simp) trivial
    obtain ⟨v, hcontains, hacts⟩ := acts_cons.mp hacts
    obtain rfl := hacts.eq_of_outside (by simp [Outside, rejection])
    refine ⟨fun x hx => Or.inl (((act_contains hcontains).2 .denyList x).mp hx), fun _ => ?_,
      fun _ => ⟨b', by simp⟩⟩
    cases b <;> simp [reports, ResponseData.ctx, RoutingRouter.responseCtx]
  | failed err u hu =>
    obtain ⟨b', rfl⟩ : ∃ b', e = ⟨.nakWithDelay m, b'⟩ := by cases he; exact ⟨_, rfl⟩
    have outside : ∀ e ∈ u ++ [⟨.nakWithDelay m, b'⟩], Outside e.1 :=
      List.forall_mem_append.mpr ⟨hu.outside, by simp [Outside]⟩
    refine ⟨denied_of_acts hacts outside, fun hacked => ?_, fun h => absurd (by simp) h⟩
    have hmem : ⟨.ack m, true⟩ ∈ u := by simpa using hacked
    have henv := fun e he => hacts.answered (e := e) (by simp [he]) (hu.outside e he)
    exact absurd hmem (hu.not_acked henv true)
  | accepted bound b u hu =>
    obtain ⟨b', rfl⟩ : ∃ b', e = ⟨.ack m, b'⟩ := by cases he; exact ⟨_, rfl⟩
    obtain rfl : b = published :=
      hacts.answered (e := ⟨acknowledgement cfg payload, b⟩) (by simp) trivial
    have purge : (∀ e ∈ u, Outside e.1) ∧ u.countP (reports payload.resourceID) = 0 := by
      rcases hu with rfl | hu
      · exact ⟨List.forall_mem_nil _, rfl⟩
      · exact ⟨hu.outside, hu.quiet _⟩
    have outside : ∀ e ∈ u ++ [⟨acknowledgement cfg payload, b⟩] ++ [⟨.ack m, b'⟩],
        Outside e.1 := by
      simp only [List.forall_mem_append, List.forall_mem_singleton]
      exact ⟨⟨purge.1, trivial⟩, trivial⟩
    refine ⟨denied_of_acts hacts outside, fun _ => ?_, fun _ => ⟨b', by simp⟩⟩
    cases b <;> simp [reports, ResponseData.ctx, RoutingRouter.responseCtx, purge.2]

theorem handleCancelMessage_unparsed (hparse : parseCancelCE cfg m.data = none) :
    Yields (handleCancelMessage (handleCancel cfg (fetchRetryMessages pcfg)) m) fun _ t =>
      ∃ b, t = [⟨.ack m, b⟩] := by
  have handled : Yields (handleCancel cfg (fetchRetryMessages pcfg) m.data) fun out t =>
      out = some none ∧ t = [] := by
    unfold handleCancel
    rw [hparse]
    exact ⟨rfl, rfl⟩
  refine (handleCancelMessage_yields handled fun _ h => nomatch h.1).mono ?_
  rintro _ _ ⟨_, _, _, ⟨rfl, rfl⟩, ⟨b⟩, rfl⟩
  exact ⟨b, rfl⟩

theorem handleCancelMessage_incomplete (hparse : parseCancelCE cfg m.data = some payload)
    (hids : payload.resourceID = "" ∨ payload.serviceType = "") :
    Yields (handleCancelMessage (handleCancel cfg (fetchRetryMessages pcfg)) m) fun _ t =>
      ∀ e ∈ t, Outside e.1 := by
  have handled : Yields (handleCancel cfg (fetchRetryMessages pcfg) m.data) fun out t =>
      out = some none ∧ ∀ e ∈ t, Outside e.1 := by
    unfold handleCancel
    rw [hparse]
    change Yields (if _ then _ else _) _
    rw [if_pos hids]
    exact fun b => ⟨rfl, List.forall_mem_singleton.mpr trivial⟩
  refine (handleCancelMessage_yields handled fun _ h => nomatch h.1).mono ?_
  rintro _ _ ⟨_, u, _, ⟨-, hu⟩, he, rfl⟩
  exact List.forall_mem_append.mpr ⟨hu, List.forall_mem_singleton.mpr he.outside⟩

theorem handleCancelMessage_facts (hparse : parseCancelCE cfg m.data = some payload)
    (hids : ¬ (payload.resourceID = "" ∨ payload.serviceType = "")) :
    Yields (handleCancelMessage (handleCancel cfg (fetchRetryMessages pcfg)) m) fun _ t =>
      ∀ w', Acts (ending m published acked) w t w' →
        Facts m payload.resourceID published w t w' := by
  refine (handleCancelMessage_yields (handleCancel_handling hparse hids) ?_).mono ?_
  · intro t h
    cases h
  · rintro _ _ ⟨out, u, e, hu, he, rfl⟩ w' hacts
    exact hu.facts he hacts

end Live

section Paths

variable {c : Consumer} {m : Msg} {w : SharedState} {published acked : Bool}

def prompt (published acked : Bool) : Answers :=
  { singleProvider RetryDedup.vmProvider .ready .ok with
    publishCE := published, acknowledged := acked }

theorem ending_prompt (m : Msg) (published acked : Bool) (o : Op) :
    ending m published acked o ((prompt published acked).answer o) := by
  cases o <;> first | trivial | exact fun _ => rfl | exact List.not_mem_nil

theorem exists_prompt (p : Routine Unit) (w : SharedState) (m : Msg) (published acked : Bool) :
    ∃ t out w', Exec p t out ∧ Acts (ending m published acked) w t w' ∧
      ∀ e ∈ t, Outside e.1 → e.2 = (prompt published acked).answer e.1 := by
  have hacts := @acts_eval _ _ (fun o x => x = (prompt published acked).answer o)
    (fun _ => rfl) p w
  refine ⟨_, _, _, Prog.exec_eval (handler (prompt published acked)) p w, hacts.mono ?_, ?_⟩
  · rintro o _ rfl
    exact ending_prompt m published acked o
  · exact fun e he ho => hacts.answered he ho

theorem denyCancelled_yields {pcfg : ProcessorConfig} :
    Yields (denyCancelled pcfg m) fun _ t =>
      (parseCE pcfg m.data = none ∧ ∃ b, t = [⟨.term m, b⟩]) ∨
        ∃ res b, parseCE pcfg m.data = some res ∧
          t = [⟨.add .denyList res.resourceID, ()⟩, ⟨.ack m, b⟩] := by
  unfold denyCancelled
  cases hparse : parseCE pcfg m.data with
  | none => exact fun b => Or.inl ⟨rfl, b, rfl⟩
  | some res => exact fun _ b => Or.inr ⟨res, b, rfl, rfl⟩

theorem handler_answered (h : Answerable c m w published acked .handler) {t : List RoutingEvent}
    {out : Option Unit} {w' : SharedState} (hexec : Exec (c.routine .handler m) t out)
    (hacts : Acts (ending m published acked) w t w') :
    Answered c.router.unmarshalEvent m w t w' := by
  have answer : ⟨.ack m, true⟩ ∈ t → acked = true := fun hmem =>
    (hacts.answered hmem trivial rfl).symm
  cases hparse : parseCancelCE c.router m.data with
  | none =>
    obtain ⟨b, rfl⟩ := (handleCancelMessage_unparsed hparse).exec hexec
    obtain rfl := hacts.eq_of_outside (List.forall_mem_singleton.mpr trivial)
    refine ⟨fun r hr hr' => absurd hr' hr, fun r hcancel hmem => ?_⟩
    have hsome := (h r hcancel (answer hmem)).1
    rw [hparse] at hsome
    cases hsome
  | some payload =>
    by_cases hids : payload.resourceID = "" ∨ payload.serviceType = ""
    · obtain rfl := hacts.eq_of_outside ((handleCancelMessage_incomplete hparse hids).exec hexec)
      exact ⟨fun r hr hr' => absurd hr' hr, fun r hcancel _ =>
        absurd hids (payload_of_isCancel hcancel hparse).2⟩
    · have facts := (handleCancelMessage_facts hparse hids).exec hexec w' hacts
      constructor
      · intro r hr hr'
        rcases facts.denied r hr' with hmem | ⟨rfl, hclaimed⟩
        · exact absurd hmem hr
        · exact ⟨isCancel_of_parseCancelCE hparse hids, hclaimed⟩
      · intro r hcancel hmem
        obtain ⟨rfl, -⟩ := payload_of_isCancel hcancel hparse
        rw [facts.reported hmem, (h _ hcancel (answer hmem)).2]
        rfl

theorem handler_answerable
    (h : ∀ t out w', Exec (c.routine .handler m) t out →
      Acts (ending m published acked) w t w' → Answered c.router.unmarshalEvent m w t w') :
    Answerable c m w published acked .handler := by
  intro r hcancel hacked
  subst hacked
  obtain ⟨t, out, w', hexec, hacts, hprompt⟩ :=
    exists_prompt (c.routine .handler m) w m published true
  have counted := (h t out w' hexec hacts).reported r hcancel
  cases hparse : parseCancelCE c.router m.data with
  | none =>
    obtain ⟨b, rfl⟩ := (handleCancelMessage_unparsed hparse).exec hexec
    obtain rfl : b = true := hprompt _ List.mem_cons_self trivial
    exact absurd (counted List.mem_cons_self) Nat.zero_ne_one
  | some payload =>
    obtain ⟨rfl, hids⟩ := payload_of_isCancel hcancel hparse
    have facts := (handleCancelMessage_facts hparse hids).exec hexec w' hacts
    obtain ⟨b, hmem⟩ := facts.resolved fun hmem => nomatch hprompt _ hmem trivial
    obtain rfl : b = true := hprompt _ hmem trivial
    refine ⟨rfl, ?_⟩
    by_contra hlost
    have hone := counted hmem
    rw [facts.reported hmem, if_neg hlost] at hone
    cases hone

theorem restart_answered (h : Answerable c m w published acked .restart) {t : List RoutingEvent}
    {out : Option Unit} {w' : SharedState} (hexec : Exec (c.routine .restart m) t out)
    (hacts : Acts (ending m published acked) w t w') :
    Answered c.router.unmarshalEvent m w t w' := by
  rcases denyCancelled_yields.exec hexec with ⟨-, b, rfl⟩ | ⟨res, b, hparse, rfl⟩
  · obtain rfl := hacts.eq_of_outside (List.forall_mem_singleton.mpr trivial)
    exact ⟨fun r hr hr' => absurd hr' hr, fun _ _ hmem => by simp at hmem⟩
  · obtain ⟨hdenied, hacked⟩ := h res hparse
    constructor
    · intro r hr hr'
      obtain ⟨v, hadd, hack⟩ := acts_cons.mp hacts
      obtain rfl := hack.eq_of_outside (List.forall_mem_singleton.mpr trivial)
      obtain ⟨-, rfl⟩ := Prod.mk.inj hadd
      rcases RoutingResourceSet.ResourceSet.mem_of_mem_insertId hr' with rfl | hmem
      · exact hdenied.resolve_left hr
      · exact absurd hmem hr
    · intro r hcancel hmem
      have htrue : true = acked := hacts.answered hmem trivial rfl
      rw [hacked r hcancel] at htrue
      cases htrue

theorem restart_answerable
    (h : ∀ t out w', Exec (c.routine .restart m) t out →
      Acts (ending m published acked) w t w' → Answered c.router.unmarshalEvent m w t w') :
    Answerable c m w published acked .restart := by
  intro res hparse
  obtain ⟨t, out, w', hexec, hacts, hprompt⟩ :=
    exists_prompt (c.routine .restart m) w m published acked
  have answered := h t out w' hexec hacts
  rcases denyCancelled_yields.exec hexec with ⟨hnone, -⟩ | ⟨res', b, hparse', rfl⟩
  · rw [hnone] at hparse
    cases hparse
  · obtain rfl := Option.some.inj (hparse.symm.trans hparse')
    constructor
    · by_cases hr : res.resourceID ∈ w.denyList
      · exact Or.inl hr
      · obtain ⟨v, hadd, hack⟩ := acts_cons.mp hacts
        obtain rfl := hack.eq_of_outside (List.forall_mem_singleton.mpr trivial)
        exact Or.inr (answered.denies _ hr (act_add hadd).1)
    · intro r hcancel
      obtain rfl : b = acked := hprompt ⟨.ack m, b⟩ (by simp) trivial
      by_contra hb
      rw [Bool.not_eq_false] at hb
      subst hb
      exact absurd (answered.reported r hcancel (by simp)) Nat.zero_ne_one

/-- Every handling of a message of the cancel topic answers it as it should exactly when, on the
handler's path, a cancel is read and its report published, and on the restart's path the message is
no cancel and denies nothing new. -/
theorem cancels_answered_iff (c : Consumer) (path : Path) (m : Msg) (w : SharedState)
    (published acked : Bool) :
    (∀ t out w', Exec (c.routine path m) t out → Acts (ending m published acked) w t w' →
      Answered c.router.unmarshalEvent m w t w') ↔ Answerable c m w published acked path := by
  cases path with
  | handler => exact ⟨handler_answerable, fun h _ _ _ => handler_answered h⟩
  | restart => exact ⟨restart_answerable, fun h _ _ _ => restart_answered h⟩

end Paths

def restarted : Consumer where
  router := CancelPurge.cancelRouter
  processor :=
    { RetryDedup.vmProcessor with unmarshalEvent := CancelPurge.cancelRouter.unmarshalEvent }
  sameDecoder := rfl

def waiting : Msg := ⟨1, CancelPurge.cancelBytes⟩

/-- The drain denies the resource and acks the cancel, and nobody is told. -/
theorem drained_cancel_unreported :
    IsCancel restarted.router.unmarshalEvent waiting.data "r" ∧
    ∃ t w', Exec (restarted.routine .restart waiting) t (some ()) ∧
      Acts (ending waiting true true) ⟨.new 10, .new 10, .new⟩ t w' ∧
      ⟨.ack waiting, true⟩ ∈ t ∧ t.countP (reports "r") = 0 := by
  have hparse : parseCancelCE restarted.router waiting.data = some CancelPurge.cancelPayload :=
    CancelPurge.parse_cancelBytes
  refine ⟨isCancel_of_parseCancelCE hparse (by decide), [⟨.add .denyList "r", ()⟩,
    ⟨.ack waiting, true⟩], _, ?_, .cons rfl (.cons ⟨fun _ => rfl, rfl⟩ (.nil _)), by decide,
    by decide⟩
  have hres : parseCE restarted.processor waiting.data =
      some ⟨"r", "vm", "e5", typeRequestCancel, none⟩ := by decide +kernel
  change Exec (denyCancelled restarted.processor waiting) _ _
  unfold denyCancelled
  rw [hres]
  exact exec_perform_bind.mpr ⟨(), _, rfl, exec_perform_pure (S := routing) (.ack waiting) true ()⟩

end CancelAnswers
