import EnvironmentAgent.RetryDedup
import EnvironmentAgent.RetryForwarding

/-! # Batches of the retry topic

The fetched messages are parsed, the unparseable ones terminated, create and delete pairs resolved,
the rest reported in progress and handled one by one. -/
namespace RetryBatches

open AtomicPrograms RoutingCloudEvent RoutingEffects RoutingTraces RetryProcessor
  RetryForwarding RetryDedup

def parsed (cfg : ProcessorConfig) (msgs : List Msg) : List ParsedMessage :=
  msgs.filterMap fun m => (parseCE cfg m.data).map fun res => ⟨m, res⟩

def unparsed (cfg : ProcessorConfig) (msgs : List Msg) : List Msg :=
  msgs.filter fun m => (parseCE cfg m.data).isNone

def pairedIds (items : List ParsedMessage) (order : List String) : List String :=
  order.filter fun r => decide (Paired items r)

def pairItems (items : List ParsedMessage) (r : String) : List ParsedMessage :=
  requestsOf typeRequestCreate r items ++ requestsOf typeRequestDelete r items

def deletedAck (cfg : ProcessorConfig) (r : String) : String × ResponseData :=
  (typeDeletionAcked, .deletionAck (responseCtx cfg r) "DELETED")

variable {cfg : ProcessorConfig}

theorem mem_parsed {msgs : List Msg} {item : ParsedMessage} :
    item ∈ parsed cfg msgs ↔ item.msg ∈ msgs ∧ parseCE cfg item.msg.data = some item.res := by
  unfold parsed
  constructor
  · intro h
    obtain ⟨m, hm, hitem⟩ := List.mem_filterMap.mp h
    obtain ⟨res, hres, rfl⟩ := Option.map_eq_some_iff.mp hitem
    exact ⟨hm, hres⟩
  · rintro ⟨hm, hres⟩
    exact List.mem_filterMap.mpr ⟨item.msg, hm, by simp [hres]⟩

theorem parseMessages_yields (msgs : List Msg) :
    Yields (parseMessages cfg msgs) fun out t => out = some (parsed cfg msgs) ∧
      Shows t [] [] ((unparsed cfg msgs).map fun m => (m, .term)) := by
  induction msgs with
  | nil => exact ⟨rfl, rfl, rfl, rfl⟩
  | cons m rest ih =>
    unfold parseMessages
    cases hparse : parseCE cfg m.data with
    | none =>
      refine fun b => ih.mono ?_
      rintro out t ⟨rfl, ht⟩
      refine ⟨by simp [parsed, hparse], by simp [ht.calls], by simp [ht.emissions], ?_⟩
      simp [unparsed, hparse, ht.resolutions]
    | some res =>
      refine ih.bind ?_ nofun
      rintro items t ⟨⟨⟩, ht⟩
      refine ⟨by simp [parsed, hparse], by simp [ht.calls], by simp [ht.emissions], ?_⟩
      simp [unparsed, hparse, ht.resolutions]

theorem ackItems_yields (items : List ParsedMessage) :
    Yields (ackItems items) fun out t => out = some () ∧
      Shows t [] [] (items.map fun item => (item.msg, .ack)) := by
  induction items with
  | nil => exact ⟨rfl, rfl, rfl, rfl⟩
  | cons item rest ih =>
    refine fun b => ih.mono ?_
    rintro out t ⟨rfl, ht⟩
    exact ⟨rfl, by simp [ht.calls], by simp [ht.emissions], by simp [ht.resolutions]⟩

theorem heartbeatAll_yields (msgs : List Msg) :
    Yields (heartbeatAll msgs) fun out t => out = some () ∧ Clear t := by
  induction msgs with
  | nil => exact ⟨rfl, rfl, rfl, rfl⟩
  | cons m rest ih =>
    refine fun b => ih.mono ?_
    rintro out t ⟨rfl, ht⟩
    exact ⟨rfl, by simp [ht.calls], by simp [ht.emissions], by simp [ht.resolutions]⟩

theorem resolvePair_yields (items : List ParsedMessage) (r : String) :
    Yields (resolvePair cfg items r) fun out t => out = some () ∧
      Shows t [] [deletedAck cfg r] ((pairItems items r).map fun item => (item.msg, .ack)) := by
  refine (ackItems_yields _).bind ?_ nofun
  rintro _ t ⟨-, ht⟩
  refine (ackItems_yields _).bind ?_ nofun
  rintro _ u ⟨-, hu⟩
  refine fun b => ⟨rfl, ?_⟩
  have hce : Shows [⟨.publishCE typeDeletionAcked (.deletionAck (responseCtx cfg r) "DELETED"), b⟩]
      [] [deletedAck cfg r] [] := ⟨rfl, rfl, rfl⟩
  simpa [pairItems] using ht.append (hu.append hce)

theorem resolvePairs_yields (items : List ParsedMessage) (rs : List String) :
    Yields (Prog.each rs (resolvePair cfg items)) fun out t => out = some () ∧
      Shows t [] (rs.map (deletedAck cfg))
        (rs.flatMap fun r => (pairItems items r).map fun item => (item.msg, .ack)) := by
  induction rs with
  | nil => exact ⟨rfl, rfl, rfl, rfl⟩
  | cons r rest ih =>
    refine Yields.bind (resolvePair_yields items r) ?_ nofun
    rintro _ t ⟨-, ht⟩
    refine ih.mono ?_
    rintro out u ⟨rfl, hu⟩
    exact ⟨rfl, by simpa using ht.append hu⟩

theorem dedup_yields (items : List ParsedMessage) :
    Yields (dedupCreateDeletePairs cfg items) fun out t => out = some (survivors items) ∧
      ∃ order, order.Perm (dedupMap items).keys ∧
        Shows t [] ((pairedIds items order).map (deletedAck cfg))
          ((pairedIds items order).flatMap fun r =>
            (pairItems items r).map fun item => (item.msg, .ack)) := by
  rw [dedupCreateDeletePairs_eq]
  refine fun order => (resolvePairs_yields items (pairedIds items order.1)).bind ?_ nofun
  rintro _ t ⟨-, ht⟩
  refine ⟨rfl, order.1, order.2, ?_⟩
  exact ⟨by simp [ht.calls], by simp [ht.emissions], by simp [ht.resolutions]⟩

def batch (cfg : ProcessorConfig) (f : ParsedMessage → Routine Unit) (msgs : List Msg) :
    Routine Unit := do
  let items ← parseMessages cfg msgs
  let items ← dedupCreateDeletePairs cfg items
  heartbeatAll (items.map ParsedMessage.msg)
  Prog.each items f

structure Batch (cfg : ProcessorConfig) (f : ParsedMessage → Routine Unit) (msgs : List Msg)
    (order : List String) (before : List RoutingEvent) (segs : List (List RoutingEvent))
    (out : Option Unit) : Prop where
  perm : order.Perm (dedupMap (parsed cfg msgs)).keys
  resolved : Shows before [] ((pairedIds (parsed cfg msgs) order).map (deletedAck cfg))
    ((unparsed cfg msgs).map (fun m => (m, .term)) ++
      (pairedIds (parsed cfg msgs) order).flatMap fun r =>
        (pairItems (parsed cfg msgs) r).map fun item => (item.msg, .ack))
  segments : Segments f (survivors (parsed cfg msgs)) segs out

theorem batch_yields (f : ParsedMessage → Routine Unit) (msgs : List Msg) :
    Yields (batch cfg f msgs) fun out t => ∃ order before segs, t = before ++ segs.flatten ∧
      Batch cfg f msgs order before segs out := by
  refine (parseMessages_yields msgs).bind ?_ nofun
  rintro _ terms ⟨⟨⟩, hterms⟩
  refine (dedup_yields _).bind ?_ nofun
  rintro _ pairs ⟨⟨⟩, order, horder, hpairs⟩
  refine (heartbeatAll_yields _).bind ?_ nofun
  rintro _ beats ⟨-, hbeats⟩
  refine yields_iff.mpr fun t out ht => ?_
  obtain ⟨segs, rfl, hsegs⟩ := exec_each.mp ht
  refine ⟨order, terms ++ (pairs ++ beats), segs, by simp, horder, ?_, hsegs⟩
  simpa using hterms.append (hpairs.append hbeats)

theorem batch_then_yields {f : ParsedMessage → Routine Unit} {msgs : List Msg}
    {Q : Option (Option ProcessorErr) → List RoutingEvent → Prop}
    (h : ∀ order before segs out, Batch cfg f msgs order before segs out →
      Q (out.map fun _ => none) (before ++ segs.flatten)) :
    Yields (do
      batch cfg f msgs
      return none) Q := by
  refine (batch_yields f msgs).bind ?_ ?_
  · rintro u _ ⟨order, before, segs, rfl, hb⟩
    simpa using h order before segs (some u) hb
  · rintro _ ⟨order, before, segs, rfl, hb⟩
    exact h order before segs none hb

theorem processOnTransition_eq (providerID : String) (toStatus : ProviderStatus) :
    processOnTransition cfg providerID toStatus = do
      if toStatus ≠ .ready ∧ toStatus ≠ .unavailable then return none
      match ← getByID providerID with
      | .error e => return some (.storeLookup providerID e)
      | .ok none => return none
      | .ok (some sp) =>
        let fetched ← fetchAll cfg.topics.retryStream cfg.topics.retryConsumer
        if fetched.failed then return some .fetch
        batch cfg (processTransitionItem cfg sp) fetched.msgs
        return none := by
  unfold processOnTransition
  by_cases h : toStatus ≠ .ready ∧ toStatus ≠ .unavailable
  · rw [if_pos h, if_pos h]
  · rw [if_neg h, if_neg h]
    refine congrArg (getByID providerID >>= ·) (funext fun found => ?_)
    match found with
    | .error e => rfl
    | .ok none => rfl
    | .ok (some sp) => simp only [batch, processTransitionItems, bind_assoc]

theorem drainRetryTopic_eq : drainRetryTopicWithDedup cfg = do
    let fetched ← fetchAll cfg.topics.retryStream cfg.topics.retryConsumer
    if fetched.failed then return some .fetch
    batch cfg (drainRetryItem cfg) fetched.msgs
    return none := by
  simp only [drainRetryTopicWithDedup, batch, bind_assoc]

inductive OnTransition (cfg : ProcessorConfig) (providerID : String) (toStatus : ProviderStatus) :
    List RoutingEvent → Option (Option ProcessorErr) → Prop where
  | skipped (h : toStatus ≠ .ready ∧ toStatus ≠ .unavailable) :
      OnTransition cfg providerID toStatus [] (some none)
  | storeError (e : String) : OnTransition cfg providerID toStatus
      [⟨.getByID providerID, .error e⟩] (some (some (.storeLookup providerID e)))
  | missing : OnTransition cfg providerID toStatus [⟨.getByID providerID, .ok none⟩] (some none)
  | unfetched (sp : StoredProvider) (fetched : FetchResult) (h : fetched.failed = true) :
      OnTransition cfg providerID toStatus [⟨.getByID providerID, .ok (some sp)⟩,
        ⟨.fetchAll cfg.topics.retryStream cfg.topics.retryConsumer, fetched⟩] (some (some .fetch))
  | handled (sp : StoredProvider) {fetched : FetchResult} (h : fetched.failed = false)
      {order : List String} {before : List RoutingEvent} {segs : List (List RoutingEvent)}
      {out : Option Unit}
      (hb : Batch cfg (processTransitionItem cfg sp) fetched.msgs order before segs out) :
      OnTransition cfg providerID toStatus (⟨.getByID providerID, .ok (some sp)⟩ ::
        ⟨.fetchAll cfg.topics.retryStream cfg.topics.retryConsumer, fetched⟩ ::
          (before ++ segs.flatten)) (out.map fun _ => none)

theorem processOnTransition_yields (providerID : String) (toStatus : ProviderStatus) :
    Yields (processOnTransition cfg providerID toStatus) fun out t =>
      OnTransition cfg providerID toStatus t out := by
  rw [processOnTransition_eq]
  split
  · exact .skipped ‹_›
  · refine fun found => ?_
    match found with
    | .error e => exact .storeError e
    | .ok none => exact .missing
    | .ok (some sp) =>
      refine fun fetched => ?_
      change Yields (if fetched.failed then _ else _) _
      split
      · exact .unfetched sp fetched ‹_›
      · rename_i hfailed
        have hfailed : fetched.failed = false := by simpa using hfailed
        exact batch_then_yields fun _ _ _ _ hb => .handled sp hfailed hb

inductive RetryDrained (cfg : ProcessorConfig) :
    List RoutingEvent → Option (Option ProcessorErr) → Prop where
  | unfetched (fetched : FetchResult) (h : fetched.failed = true) : RetryDrained cfg
      [⟨.fetchAll cfg.topics.retryStream cfg.topics.retryConsumer, fetched⟩] (some (some .fetch))
  | handled {fetched : FetchResult} (h : fetched.failed = false)
      {order : List String} {before : List RoutingEvent} {segs : List (List RoutingEvent)}
      {out : Option Unit}
      (hb : Batch cfg (drainRetryItem cfg) fetched.msgs order before segs out) :
      RetryDrained cfg (⟨.fetchAll cfg.topics.retryStream cfg.topics.retryConsumer, fetched⟩ ::
        (before ++ segs.flatten)) (out.map fun _ => none)

theorem drainRetryTopic_yields :
    Yields (drainRetryTopicWithDedup cfg) fun out t => RetryDrained cfg t out := by
  rw [drainRetryTopic_eq]
  refine fun fetched => ?_
  change Yields (if fetched.failed then _ else _) _
  split
  · exact .unfetched fetched ‹_›
  · rename_i hfailed
    have hfailed : fetched.failed = false := by simpa using hfailed
    exact batch_then_yields fun _ _ _ _ hb => .handled hfailed hb

end RetryBatches
