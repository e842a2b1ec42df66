import EnvironmentAgent.RetryBatches

/-! # What a cancel removes from the retry topic

An accepted cancel acks what carries its resource id. The type of a queued request is lost on the
way, so a delete of that resource goes as well. -/
namespace CancelPurge

open AtomicPrograms RoutingCloudEvent RoutingEffects RoutingTraces RetryProcessor RetryBatches
open RoutingRouter (RouterConfig RetryMessage parseCancelCE handleCancel purgeMessages
  purgeFromRetryTopic responseCtx)
open RoutingSharedState (singleProvider)
open RetryDedup (vmProcessor vmProvider)

structure RetryTopic where
  fetched : FetchResult
  held : List Bytes

/-- The run finds the retry topic as given; `bound` tells whether a retry consumer is set. -/
def Served (bound : Bool) (topic : RetryTopic) : RoutingEvent → Prop
  | ⟨.retryConsumer, b⟩ => b = bound
  | ⟨.fetchAll _ _, x⟩ => x = topic.fetched
  | _ => True

def IsCreateOf (r : String) (res : CEResult) : Prop :=
  res.ceType = typeRequestCreate ∧ res.resourceID = r

instance (r : String) (res : CEResult) : Decidable (IsCreateOf r res) :=
  inferInstanceAs (Decidable (_ ∧ _))

def Removed (t : List RoutingEvent) (m : Msg) : Prop :=
  (m, .ack) ∈ resolutions t ∨ (m, .term) ∈ resolutions t

structure RemovesCreates (cfg : ProcessorConfig) (r : String) (topic : RetryTopic)
    (t : List RoutingEvent) : Prop where
  only : ∀ m, Removed t m → m ∈ topic.fetched.msgs
  fetched : ∀ m ∈ topic.fetched.msgs, ∀ res, parseCE cfg m.data = some res →
    (Removed t m ↔ IsCreateOf r res)
  held : ∀ data ∈ topic.held, ∀ res, parseCE cfg data = some res → ¬ IsCreateOf r res

/-- Every request of `r` that is handed out is a create, and every create of `r` is handed
out. -/
def CreatesOnly (cfg : ProcessorConfig) (r : String) (bound : Bool) (topic : RetryTopic) : Prop :=
  (∀ data ∈ topic.held, ∀ res, parseCE cfg data = some res → ¬ IsCreateOf r res) ∧
    ∀ item ∈ parsed cfg topic.fetched.msgs, ((bound = true ∧ item.res.resourceID = r) ↔
      IsCreateOf r item.res)

section Programs

variable {pcfg : ProcessorConfig} {cfg : RouterConfig} {r : String}

def retryMessageOf (item : ParsedMessage) : RetryMessage :=
  ⟨item.msg, item.res.resourceID, item.res.serviceType⟩

theorem retryMessages_eq (msgs : List Msg) : retryMessages pcfg msgs =
    parseMessages pcfg msgs >>= fun items => pure (items.map retryMessageOf) := by
  induction msgs with
  | nil => rfl
  | cons m rest ih =>
    unfold retryMessages parseMessages
    cases parseCE pcfg m.data with
    | none => simp only [ih, bind_assoc]
    | some res => simp only [ih, bind_assoc, pure_bind]; rfl

def purgeResolution (r : String) (m : RetryMessage) : Msg × Resolution :=
  (m.msg, if m.resourceID = r then .ack else .nakWithDelay)

theorem purgeMessages_yields (msgs : List RetryMessage) :
    Yields (purgeMessages r msgs) fun out t => emissions t = [] ∧ ∃ result, out = some result ∧
      (result = none → resolutions t = msgs.map (purgeResolution r)) := by
  induction msgs with
  | nil => exact ⟨rfl, none, rfl, fun _ => rfl⟩
  | cons m rest ih =>
    have more : ∀ (o : Op) (x : o.Ans), emissionOf ⟨o, x⟩ = none →
        resolutionOf ⟨o, x⟩ = some (purgeResolution r m) →
        Yields (purgeMessages r rest) fun out t => emissions (⟨o, x⟩ :: t) = [] ∧
          ∃ result, out = some result ∧ (result = none →
            resolutions (⟨o, x⟩ :: t) = (m :: rest).map (purgeResolution r)) := by
      intro o x he hr
      refine ih.mono ?_
      rintro out t ⟨hce, result, rfl, hres⟩
      refine ⟨by rw [emissions_cons, he, hce]; rfl, result, rfl, fun hnone => ?_⟩
      rw [resolutions_cons, hr, hres hnone]
      rfl
    unfold purgeMessages
    split
    · rename_i hr
      refine fun acked => ?_
      cases acked with
      | true => exact more (.ack m.msg) true rfl (by simp [purgeResolution, hr])
      | false => exact ⟨rfl, _, rfl, nofun⟩
    · rename_i hr
      refine fun naked => ?_
      cases naked with
      | true => exact more (.nakWithDelay m.msg) true rfl (by simp [purgeResolution, hr])
      | false => exact ⟨rfl, _, rfl, nofun⟩

theorem purgeMessages_reaches {bound : Bool} {topic : RetryTopic} (msgs : List RetryMessage) :
    Reaches (Served bound topic) (purgeMessages r msgs) none := by
  induction msgs with
  | nil => exact ⟨[], .ret none, nofun⟩
  | cons m rest ih =>
    unfold purgeMessages
    split
    · exact Reaches.bind (a := true) (Reaches.perform trivial) ih
    · exact Reaches.bind (a := true) (Reaches.perform trivial) ih

def purged (pcfg : ProcessorConfig) (r : String) (msgs : List Msg) : List (Msg × Resolution) :=
  (unparsed pcfg msgs).map (fun m => (m, .term)) ++
    (parsed pcfg msgs).map fun item => purgeResolution r (retryMessageOf item)

theorem purge_yields : Yields (purgeFromRetryTopic (fetchRetryMessages pcfg) r) fun out t =>
    emissions t = [] ∧ ∃ fetched rest result,
      t = ⟨.fetchAll pcfg.topics.retryStream pcfg.topics.retryConsumer, fetched⟩ :: rest ∧
      out = some result ∧ (result = none → fetched.failed = false ∧
        resolutions t = purged pcfg r fetched.msgs) := by
  refine fun fetched => ?_
  change Yields ((if fetched.failed then _ else _) >>= _) _
  split
  · exact ⟨rfl, fetched, [], _, rfl, rfl, nofun⟩
  · rename_i hfailed
    have hfailed : fetched.failed = false := by simpa using hfailed
    rw [retryMessages_eq]
    simp only [bind_assoc, pure_bind]
    refine (parseMessages_yields fetched.msgs).bind ?_ nofun
    rintro _ terms ⟨⟨⟩, hterms⟩
    refine (purgeMessages_yields _).mono ?_
    rintro _ t ⟨hce, result, rfl, hres⟩
    refine ⟨by simp [hterms.emissions, hce], fetched, _, result, rfl, rfl, fun hnone => ?_⟩
    exact ⟨hfailed, by simp [hterms.resolutions, hres hnone, purged]⟩

def servedAnswer (bound : Bool) (topic : RetryTopic) : (o : Op) → o.Ans :=
  { singleProvider vmProvider .ready .ok with
    retryConsumer := bound, fetchAll := fun _ _ => topic.fetched }.answer

theorem served_servedAnswer (bound : Bool) (topic : RetryTopic) (o : Op) :
    Served bound topic ⟨o, servedAnswer bound topic o⟩ := by
  cases o <;> trivial

theorem purge_reaches {bound : Bool} {topic : RetryTopic} (hfailed : topic.fetched.failed = false) :
    Reaches (Served bound topic) (purgeFromRetryTopic (fetchRetryMessages pcfg) r) none := by
  unfold purgeFromRetryTopic fetchRetryMessages
  rw [bind_assoc]
  refine Reaches.bind (a := topic.fetched) (Reaches.perform (by exact rfl)) ?_
  rw [if_neg (by simp [hfailed]), retryMessages_eq]
  simp only [bind_assoc, pure_bind]
  refine ((parseMessages_yields _).reaches (served_servedAnswer bound topic) fun _ _ h => h.1).bind ?_
  exact purgeMessages_reaches _

end Programs

section Cancel

variable {pcfg : ProcessorConfig} {cfg : RouterConfig} {msg : Bytes} {payload : InboundPayload}
  {bound : Bool} {topic : RetryTopic}

theorem handleCancel_resolutions (hparse : parseCancelCE cfg msg = some payload)
    (hids : ¬ (payload.resourceID = "" ∨ payload.serviceType = "")) :
    Yields (handleCancel cfg (fetchRetryMessages pcfg) msg) fun _ t =>
      (∀ e ∈ t, Served bound topic e) → (∃ d, (typeCancelAcked, d) ∈ emissions t) →
        if bound then topic.fetched.failed = false ∧
          resolutions t = purged pcfg payload.resourceID topic.fetched.msgs
        else resolutions t = [] := by
  unfold handleCancel
  rw [hparse]
  change Yields (if _ then _ else _) _
  rw [if_neg hids]
  refine fun claimed => ?_
  cases claimed with
  | true =>
    refine fun b hserved hacked => ?_
    simp [typeCancelAcked, typeCancelRejected] at hacked
  | false =>
    refine fun isBound _ => ?_
    cases isBound with
    | false =>
      refine fun b hserved _ => ?_
      obtain rfl : false = bound := hserved ⟨.retryConsumer, false⟩ (by simp)
      rfl
    | true =>
      refine purge_yields.bind ?_ nofun
      rintro result t ⟨hce, fetched, rest, _, rfl, ⟨⟩, hres⟩
      match result with
      | some e =>
        refine fun hserved hacked => ?_
        simp at hce
        simp [hce] at hacked
      | none =>
        refine fun b hserved _ => ?_
        obtain rfl : true = bound := hserved ⟨.retryConsumer, true⟩ (by simp)
        obtain rfl : fetched = topic.fetched := hserved ⟨.fetchAll _ _, fetched⟩ (by simp)
        obtain ⟨hfailed, hres⟩ := hres rfl
        exact ⟨hfailed, by simpa using hres⟩

def cancelAcked (cfg : RouterConfig) (payload : InboundPayload) : RoutingEvent :=
  ⟨.publishCE typeCancelAcked
    (.cancelAck (responseCtx cfg payload.resourceID) payload.serviceType), true⟩

theorem handleCancel_accepts (hparse : parseCancelCE cfg msg = some payload)
    (hids : ¬ (payload.resourceID = "" ∨ payload.serviceType = ""))
    (hfailed : bound = true → topic.fetched.failed = false) :
    ∃ t, Exec (handleCancel cfg (fetchRetryMessages pcfg) msg) t (some none) ∧
      (∀ e ∈ t, Served bound topic e) ∧ cancelAcked cfg payload ∈ t := by
  have purge : ∃ t, Exec (if bound then purgeFromRetryTopic (fetchRetryMessages pcfg)
      payload.resourceID else pure none) t (some none) ∧ ∀ e ∈ t, Served bound topic e := by
    cases bound with
    | true => exact purge_reaches (hfailed rfl)
    | false => exact ⟨[], .ret none, nofun⟩
  obtain ⟨t, ht, hserved⟩ := purge
  refine ⟨⟨.contains .claimedResourcesSet payload.resourceID, false⟩ :: ⟨.retryConsumer, bound⟩ ::
    ⟨.add .denyList payload.resourceID, ()⟩ :: (t ++ [cancelAcked cfg payload]), ?_, ?_, by simp⟩
  · unfold handleCancel
    rw [hparse]
    change Exec (if _ then _ else _) _ _
    rw [if_neg hids]
    refine exec_perform_bind.mpr ⟨false, _, rfl, ?_⟩
    refine exec_perform_bind.mpr ⟨bound, _, rfl, ?_⟩
    refine exec_perform_bind.mpr ⟨(), _, rfl, ?_⟩
    cases bound with
    | true =>
      refine exec_bind.mpr (Or.inl ⟨none, t, _, rfl, ht, ?_⟩)
      exact exec_perform_bind.mpr ⟨true, _, rfl, .ret none⟩
    | false =>
      obtain ⟨rfl, -⟩ := exec_ret.mp ht
      exact exec_perform_bind.mpr ⟨true, _, rfl, .ret none⟩
  · simp only [List.forall_mem_cons, List.forall_mem_append]
    exact ⟨trivial, rfl, trivial, hserved, trivial, nofun⟩

theorem mem_purged {r : String} {m : Msg} {msgs : List Msg} {k : Resolution} :
    (m, k) ∈ purged pcfg r msgs ↔ m ∈ msgs ∧ match parseCE pcfg m.data with
      | none => k = .term
      | some res => k = if res.resourceID = r then .ack else .nakWithDelay := by
  simp only [purged, unparsed, List.mem_append, List.mem_map, List.mem_filter, mem_parsed,
    purgeResolution, retryMessageOf, Prod.mk.injEq]
  constructor
  · rintro (⟨_, ⟨hm, hparse⟩, rfl, rfl⟩ | ⟨item, ⟨hm, hparse⟩, rfl, rfl⟩)
    · exact ⟨hm, by rw [Option.isNone_iff_eq_none.mp hparse]⟩
    · exact ⟨hm, by rw [hparse]; rfl⟩
  · rintro ⟨hm, h⟩
    split at h
    · exact Or.inl ⟨m, ⟨hm, by simp [*]⟩, rfl, h.symm⟩
    · rename_i res hparse
      exact Or.inr ⟨⟨m, res⟩, ⟨hm, hparse⟩, rfl, h.symm⟩

theorem removed_iff {r : String} {t : List RoutingEvent} {msgs : List Msg}
    (ht : resolutions t = purged pcfg r msgs) (m : Msg) :
    Removed t m ↔ m ∈ msgs ∧ ∀ res, parseCE pcfg m.data = some res → res.resourceID = r := by
  simp only [Removed, ht, mem_purged]
  cases parseCE pcfg m.data with
  | none => simp
  | some res => by_cases hr : res.resourceID = r <;> simp [hr]

/-- Of the messages of the retry topic an acknowledged cancel removes the creates it cancels
and no other, exactly when nothing but creates of its resource carries the resource id. -/
theorem cancel_removes_creates_iff (bound : Bool) (topic : RetryTopic)
    (hparse : parseCancelCE cfg msg = some payload)
    (hids : ¬ (payload.resourceID = "" ∨ payload.serviceType = "")) :
    (∀ t out, Exec (handleCancel cfg (fetchRetryMessages pcfg) msg) t out →
      (∀ e ∈ t, Served bound topic e) → cancelAcked cfg payload ∈ t →
        RemovesCreates pcfg payload.resourceID topic t) ↔
      ((bound = true → topic.fetched.failed = false) →
        CreatesOnly pcfg payload.resourceID bound topic) := by
  -- the messages an accepting run removes
  have removed : ∀ {t out}, Exec (handleCancel cfg (fetchRetryMessages pcfg) msg) t out →
      (∀ e ∈ t, Served bound topic e) → cancelAcked cfg payload ∈ t →
      (bound = true → topic.fetched.failed = false) ∧ ∀ m, Removed t m ↔ bound = true ∧
        m ∈ topic.fetched.msgs ∧
          ∀ res, parseCE pcfg m.data = some res → res.resourceID = payload.resourceID := by
    intro t out he hserved hacked
    have hemitted : ∃ d, (typeCancelAcked, d) ∈ emissions t :=
      ⟨_, List.mem_filterMap.mpr ⟨_, hacked, rfl⟩⟩
    have hres := (handleCancel_resolutions hparse hids).exec he hserved hemitted
    cases bound with
    | true => exact ⟨fun _ => hres.1, fun m => by simp [removed_iff hres.2]⟩
    | false =>
      have hres : resolutions t = [] := hres
      exact ⟨nofun, fun m => by simp [Removed, hres]⟩
  constructor
  · intro h hfailed
    obtain ⟨t, he, hserved, hacked⟩ := handleCancel_accepts hparse hids hfailed
    have hremoves := h t _ he hserved hacked
    refine ⟨hremoves.held, fun item hitem => ?_⟩
    obtain ⟨hm, hitem⟩ := mem_parsed.mp hitem
    rw [← hremoves.fetched item.msg hm item.res hitem, (removed he hserved hacked).2]
    simp [hm, hitem]
  · intro h t out he hserved hacked
    obtain ⟨hfailed, hremoved⟩ := removed he hserved hacked
    obtain ⟨hheld, hfetched⟩ := h hfailed
    refine ⟨fun m hm => ((hremoved m).mp hm).2.1, fun m hm res hres => ?_, hheld⟩
    rw [hremoved, ← hfetched ⟨m, res⟩ (mem_parsed.mpr ⟨hm, hres⟩)]
    simp [hm, hres]

end Cancel

def queued : List (String × String × String × String) :=
  [(typeRequestCreate, "e1", "r", "vm"), (typeRequestCreate, "e2", "a", "vm"),
    (typeRequestDelete, "e3", "a", "vm"), (typeRequestDelete, "e4", "r", "vm")]

def cancel : String × String × String × String := (typeRequestCancel, "e5", "r", "vm")

def cancelBytes : Bytes := requestBytes cancel.1 cancel.2.1 cancel.2.2.1 cancel.2.2.2

def cancelPayload : InboundPayload := ⟨"r", "vm", none, "e5"⟩

def cancelRouter : RouterConfig where
  unmarshalEvent := decodeAmong [cancel]
  forwarder := true
  retryMaxAttempts := 3
  agentName := "agent"
  topicName := "dcm.agent.agent"
  retryTopic := "agent.retry"

def queueProcessor : ProcessorConfig := { vmProcessor with unmarshalEvent := decodeAmong queued }

def queueOf (n : Fin 5) : RetryTopic where
  fetched :=
    { msgs := (queued.take n).mapIdx fun i q => ⟨i, requestBytes q.1 q.2.1 q.2.2.1 q.2.2.2⟩
      distinct := by revert n; decide
      failed := false }
  held := []

theorem parse_cancelBytes : parseCancelCE cancelRouter cancelBytes = some cancelPayload := by
  decide +kernel

theorem cancel_removes_creates_iff_others :
    parseCancelCE cancelRouter cancelBytes = some cancelPayload ∧
    ∀ t out, Exec (handleCancel cancelRouter (fetchRetryMessages queueProcessor) cancelBytes) t out →
      (∀ e ∈ t, Served true (queueOf 3) e) → cancelAcked cancelRouter cancelPayload ∈ t →
        RemovesCreates queueProcessor "r" (queueOf 3) t :=
  ⟨parse_cancelBytes, (cancel_removes_creates_iff true (queueOf 3) parse_cancelBytes
    (by decide)).mpr fun _ => ⟨nofun, by decide +kernel⟩⟩

/-- The delete of the cancelled resource is removed together with its create. -/
theorem cancel_removes_delete :
    ∃ t, Exec (handleCancel cancelRouter (fetchRetryMessages queueProcessor) cancelBytes) t
        (some none) ∧
      (∀ e ∈ t, Served true (queueOf 4) e) ∧ cancelAcked cancelRouter cancelPayload ∈ t ∧
      ∃ m ∈ (queueOf 4).fetched.msgs, Removed t m ∧
        parseCE queueProcessor m.data = some ⟨"r", "vm", "e4", typeRequestDelete, none⟩ := by
  obtain ⟨t, he, hserved, hacked⟩ :
      ∃ t, Exec (handleCancel cancelRouter (fetchRetryMessages queueProcessor) cancelBytes) t
        (some none) ∧ (∀ e ∈ t, Served true (queueOf 4) e) ∧
          cancelAcked cancelRouter cancelPayload ∈ t :=
    handleCancel_accepts parse_cancelBytes (by decide) fun _ => rfl
  refine ⟨t, he, hserved, hacked, ⟨3, requestBytes typeRequestDelete "e4" "r" "vm"⟩,
    by decide +kernel, ?_, by decide +kernel⟩
  have hres := (handleCancel_resolutions parse_cancelBytes (by decide)).exec he hserved
    ⟨_, List.mem_filterMap.mpr ⟨_, hacked, rfl⟩⟩
  refine (removed_iff hres.2 _).mpr ?_
  decide +kernel

end CancelPurge
