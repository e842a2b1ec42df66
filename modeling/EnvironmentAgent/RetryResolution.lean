import EnvironmentAgent.RetryBatches

/-! # Every fetched message is resolved once

A fetched message has to be acked, naked or terminated, or it stays held until its ack wait ends. -/
namespace RetryResolution

open AtomicPrograms RoutingCloudEvent RoutingEffects RoutingTraces RetryProcessor
  RetryForwarding RetryDedup
open RetryBatches RoutingSharedState
open RoutingForwarder (spCallOf terminalProviderErrorData StoreErr)

def resolutionsOf (m : Msg) (t : List RoutingEvent) : List Resolution :=
  ((resolutions t).filter fun x => decide (x.1 = m)).map Prod.snd

inductive Accounted (cfg : ProcessorConfig) (m : Msg) (res : CEResult) (t : List RoutingEvent) :
    Prop where
  | answered (sp : StoredProvider) (h : (spCallOf sp (forwardParams res), .ok) ∈ callsIn t)
  | failed (sp : StoredProvider) (e : SPError)
      (h : (spCallOf sp (forwardParams res), .err e) ∈ callsIn t)
      (hce : (typeError, ResponseData.error (terminalProviderErrorData e res.serviceType
        (responseCtx cfg res.resourceID))) ∈ emissions t)
  | rejected (error : String) (details : ErrorDetails)
      (h : (typeError, ResponseData.error ⟨responseCtx cfg res.resourceID, error, details⟩) ∈
        emissions t)
  | denied (create : res.ceType = typeRequestCreate)
      (h : (⟨.contains .denyList res.resourceID, true⟩ : RoutingEvent) ∈ t)
  | copied (h : (⟨.publish cfg.topics.retry m.data, true⟩ : RoutingEvent) ∈ t)

/-- The ack of a message is accounted for by a stretch of the run in which nothing else is
resolved, or by the pair it is part of. -/
inductive Justified (cfg : ProcessorConfig) (msgs : List Msg) (m : Msg) (res : CEResult)
    (t : List RoutingEvent) : Prop where
  | handled (seg : List RoutingEvent) (hseg : seg <:+: t) (hres : resolutions seg = [(m, .ack)])
      (h : Accounted cfg m res seg)
  | paired (h : Paired (parsed cfg msgs) res.resourceID)
      (hone : (emissions t).count (deletedAck cfg res.resourceID) = 1)

/-- What became of a message. Only a message of the main topic may be left as it is, when
its copy could not be published. -/
inductive Outcome (cfg : ProcessorConfig) (mainTopic : Bool) (msgs : List Msg)
    (t : List RoutingEvent) (m : Msg) : Prop where
  | terminated (hparse : parseCE cfg m.data = none) (h : resolutionsOf m t = [.term])
  | naked (hparse : parseCE cfg m.data ≠ none) (h : resolutionsOf m t = [.nakWithDelay])
  | acked (res : CEResult) (hparse : parseCE cfg m.data = some res)
      (h : resolutionsOf m t = [.ack]) (hwhy : Justified cfg msgs m res t)
  | left (hmain : mainTopic = true) (hparse : parseCE cfg m.data ≠ none)
      (h : resolutionsOf m t = [])
      (hcopy : (⟨.publish cfg.topics.retry m.data, false⟩ : RoutingEvent) ∈ t)

structure ResolvedOnce (cfg : ProcessorConfig) (mainTopic : Bool) (msgs : List Msg)
    (t : List RoutingEvent) : Prop where
  only : ∀ x ∈ resolutions t, x.1 ∈ msgs
  each : ∀ m ∈ msgs, Outcome cfg mainTopic msgs t m

theorem ResolvedOnce.resolved {cfg : ProcessorConfig} {msgs : List Msg} {t : List RoutingEvent}
    {m : Msg} (h : ResolvedOnce cfg false msgs t) (hm : m ∈ msgs) :
    ∃ x ∈ resolutions t, x.1 = m := by
  have hne : resolutionsOf m t ≠ [] := by
    cases h.each m hm with
    | terminated _ h => simp [h]
    | naked _ h => simp [h]
    | acked _ _ h _ => simp [h]
    | left hmain => cases hmain
  obtain ⟨k, hk⟩ := List.exists_mem_of_ne_nil _ hne
  obtain ⟨x, hx, -⟩ := List.mem_map.mp hk
  obtain ⟨hx, heq⟩ := List.mem_filter.mp hx
  exact ⟨x, hx, of_decide_eq_true heq⟩

variable {item : ParsedMessage} {mainTopic : Bool}
  {result : Except StoreErr (Option (StoredProvider × ProviderStatus))} {sp : StoredProvider}
  {fromRetryTopic : Bool}

section Item

variable {cfg : ProcessorConfig} {m : Msg} {res : CEResult} {t u : List RoutingEvent}

inductive ItemOutcome (cfg : ProcessorConfig) (mainTopic : Bool) (m : Msg) (res : CEResult)
    (t : List RoutingEvent) : Prop where
  | naked (h : resolutions t = [(m, .nakWithDelay)])
  | acked (h : resolutions t = [(m, .ack)]) (hwhy : Accounted cfg m res t)
  | left (hmain : mainTopic = true) (h : resolutions t = [])
      (hcopy : (⟨.publish cfg.topics.retry m.data, false⟩ : RoutingEvent) ∈ t)

def Undeleted (t : List RoutingEvent) : Prop :=
  ∀ e ∈ emissions t, ∀ ctx, e.2 ≠ .deletionAck ctx "DELETED"

theorem Accounted.widen (h : Accounted cfg m res t) (before after : List RoutingEvent) :
    Accounted cfg m res (before ++ (t ++ after)) := by
  cases h with
  | answered sp h => exact .answered sp (by simp [h])
  | failed sp e h hce => exact .failed sp e (by simp [h]) (by simp [hce])
  | rejected error details h => exact .rejected error details (by simp [h])
  | denied create h => exact .denied create (by simp [h])
  | copied h => exact .copied (by simp [h])

theorem accounted_of_settled (h : Settled cfg sp res t) :
    Accounted cfg m res t := by
  cases h with
  | unconfigured h => exact .rejected _ _ h
  | denied create h => exact .denied create h
  | succeeded h => exact .answered sp h
  | failed e h hce => exact .failed sp e h hce

theorem ItemOutcome.widen (h : ItemOutcome cfg mainTopic m res t) {before : List RoutingEvent}
    (hb : resolutions before = []) :
    ItemOutcome cfg mainTopic m res (before ++ t) := by
  cases h with
  | naked h => exact .naked (by simp [hb, h])
  | acked h hwhy => exact .acked (by simp [hb, h]) (by simpa using hwhy.widen before [])
  | left hmain h hcopy => exact .left hmain (by simp [hb, h]) (by simp [hcopy])

theorem requeued_outcome (h : Requeued cfg m fromRetryTopic t) :
    ItemOutcome cfg (!fromRetryTopic) m res t ∧ Undeleted t := by
  cases h with
  | naked b => exact ⟨.naked rfl, by simp [Undeleted]⟩
  | unpublished => exact ⟨.left rfl rfl (by simp), by simp [Undeleted]⟩
  | copied b => exact ⟨.acked rfl (.copied (by simp)), by simp [Undeleted]⟩

theorem rejected_outcome (h : Rejected cfg m res t) :
    ItemOutcome cfg mainTopic m res t ∧ Undeleted t := by
  cases h with
  | published b b' =>
    exact ⟨.acked rfl (.rejected _ _ (List.mem_singleton.mpr rfl)), by simp [Undeleted]⟩

theorem denied_outcome (h : Denied m res t) :
    ItemOutcome cfg mainTopic m res t ∧ Undeleted t := by
  cases h with
  | acked hc b => exact ⟨.acked rfl (.denied hc (by simp)), by simp [Undeleted]⟩

theorem forward_unresolved {out : Option Bool} (h : Forward cfg sp res t out) :
    resolutions t = [] :=
  h.within.no_resolutions

theorem Undeleted.append (ht : Undeleted t) (hu : Undeleted u) : Undeleted (t ++ u) := by
  intro e he
  rw [emissions_append] at he
  exact (List.mem_append.mp he).elim (ht e) (hu e)

theorem clear_undeleted (h : Clear t) : Undeleted t := by
  simp [Undeleted, h.emissions]

theorem routed_outcome (h : Routed cfg m res fromRetryTopic result t (some ())) :
    ItemOutcome cfg (!fromRetryTopic) m res t ∧ Undeleted t := by
  cases h with
  | storeError e b => exact ⟨.naked rfl, by simp [Undeleted]⟩
  | unregistered h => exact requeued_outcome h
  | unavailable sp h => exact rejected_outcome h
  | unhealthy sp h => exact requeued_outcome h
  | @finished sp t h b =>
    refine ⟨.acked (by simp [forward_unresolved h]) ?_, by simpa [Undeleted] using h.undeleted⟩
    exact (accounted_of_settled h.outcome).widen [] [⟨.ack m, b⟩]
  | @deferred sp t u h hq =>
    have hout : ItemOutcome cfg (!fromRetryTopic) m res u ∧ Undeleted u := requeued_outcome hq
    exact ⟨hout.1.widen (forward_unresolved h), Undeleted.append h.undeleted hout.2⟩

theorem captured_outcome (h : Captured cfg sp item result t (some ())) :
    ItemOutcome cfg false item.msg item.res t ∧ Undeleted t := by
  cases h with
  | storeError e b => exact ⟨.naked rfl, by simp [Undeleted]⟩
  | unregistered h => exact rejected_outcome h
  | unavailable holder h => exact rejected_outcome h
  | @forwarded holder status hs b t done h b' =>
    refine ⟨?_, ?_⟩
    · cases done with
      | true =>
        refine .acked (by simp [forward_unresolved h]) ?_
        exact (accounted_of_settled h.outcome).widen [_] [_]
      | false => exact .naked (by simp [forward_unresolved h])
    · cases done <;> simpa [Undeleted] using h.undeleted

theorem transitioned_outcome (h : Transitioned cfg sp item t (some ())) :
    ItemOutcome cfg false item.msg item.res t ∧ Undeleted t := by
  cases h with
  | denied h => exact denied_outcome h
  | @elsewhere hne t reads u ht b result out hreads h =>
    have hclear : Clear ((t ++ [⟨.inProgress item.msg, b⟩]) ++ reads) :=
      (ht.clear.append ⟨rfl, rfl, rfl⟩).append (resolves_clear hreads)
    have hout := routed_outcome h
    simpa using And.intro (hout.1.widen hclear.resolutions)
      ((clear_undeleted hclear).append hout.2)
  | @captured heq t reads u ht result out hreads h =>
    have hclear : Clear (t ++ reads) := ht.clear.append (resolves_clear hreads)
    have hout := captured_outcome h
    simpa using And.intro (hout.1.widen hclear.resolutions)
      ((clear_undeleted hclear).append hout.2)

theorem drained_outcome (h : Drained cfg m res fromRetryTopic t (some ())) :
    ItemOutcome cfg (!fromRetryTopic) m res t ∧ Undeleted t := by
  cases h with
  | denied h => exact denied_outcome h
  | @routed t reads u ht b result out hreads h =>
    have hclear : Clear ((t ++ [⟨.inProgress m, b⟩]) ++ reads) :=
      (ht.clear.append ⟨rfl, rfl, rfl⟩).append (resolves_clear hreads)
    have hout := routed_outcome h
    simpa using And.intro (hout.1.widen hclear.resolutions)
      ((clear_undeleted hclear).append hout.2)

end Item

variable {seg : List RoutingEvent}

section Runs

variable {cfg : ProcessorConfig}

variable {t : List RoutingEvent}

theorem resolutionsOf_eq {m : Msg} {k : Resolution} (hnodup : ((resolutions t).map Prod.fst).Nodup)
    (h : (m, k) ∈ resolutions t) :
    resolutionsOf m t = [k] := by
  unfold resolutionsOf
  generalize resolutions t = l at hnodup h
  induction l with
  | nil => simp at h
  | cons x l ih =>
    obtain ⟨hx, hl⟩ := List.nodup_cons.mp hnodup
    rcases List.mem_cons.mp h with rfl | h
    · have hnone : l.filter (fun x => decide (x.1 = m)) = [] := by
        refine List.filter_eq_nil_iff.mpr fun y hy hym => hx ?_
        exact List.mem_map.mpr ⟨y, hy, of_decide_eq_true hym⟩
      simp [hnone]
    · have hne : x.1 ≠ m := fun e => hx (List.mem_map.mpr ⟨(m, k), h, e.symm⟩)
      simpa [hne] using ih hl h

theorem resolutionsOf_nil {m : Msg} (h : ∀ k, (m, k) ∉ resolutions t) : resolutionsOf m t = [] := by
  rw [resolutionsOf, List.map_eq_nil_iff, List.filter_eq_nil_iff]
  rintro ⟨m', k⟩ hx hm
  exact h k (of_decide_eq_true hm ▸ hx)

abbrev Completed {β : Type} (f : β → Routine Unit) (xs : List β)
    (segs : List (List RoutingEvent)) : Prop :=
  List.Forall₂ (fun x seg => Exec (f x) seg (some ())) xs segs

variable {β : Type} {f : β → Routine Unit} {xs : List β} {segs : List (List RoutingEvent)}

theorem completed_sublist (h : Completed f xs segs) (msg : β → Msg)
    (hf : ∀ x seg, Exec (f x) seg (some ()) → ((resolutions seg).map Prod.fst).Sublist [msg x]) :
    ((resolutions segs.flatten).map Prod.fst).Sublist (xs.map msg) := by
  induction h with
  | nil => exact List.Sublist.slnil
  | cons hx hs ih =>
    simp only [List.flatten_cons, resolutions_append, List.map_append, List.map_cons]
    exact (hf _ _ hx).append ih

theorem completed_item (h : Completed f xs segs) {x : β} (hx : x ∈ xs) :
    ∃ seg ∈ segs, Exec (f x) seg (some ()) := by
  induction h with
  | nil => simp at hx
  | cons he hs ih =>
    rcases List.mem_cons.mp hx with rfl | hx
    · exact ⟨_, List.mem_cons_self, he⟩
    · obtain ⟨seg, hseg, h⟩ := ih hx
      exact ⟨seg, List.mem_cons_of_mem _ hseg, h⟩

theorem completed_segment (h : Completed f xs segs) (hseg : seg ∈ segs) :
    ∃ x ∈ xs, Exec (f x) seg (some ()) := by
  induction h with
  | nil => simp at hseg
  | cons he hs ih =>
    rcases List.mem_cons.mp hseg with rfl | hseg
    · exact ⟨_, List.mem_cons_self, he⟩
    · obtain ⟨x, hx, h⟩ := ih hseg
      exact ⟨x, List.mem_cons_of_mem _ hx, h⟩

theorem resolutionsOf_append (m : Msg) (t u : List RoutingEvent) :
    resolutionsOf m (t ++ u) = resolutionsOf m t ++ resolutionsOf m u := by
  simp [resolutionsOf]

theorem resolutionsOf_foreign {m m' : Msg} (hne : m' ≠ m)
    (h : ((resolutions t).map Prod.fst).Sublist [m']) : resolutionsOf m t = [] := by
  refine resolutionsOf_nil fun k hk => hne ?_
  exact (List.mem_singleton.mp (h.subset (List.mem_map_of_mem hk))).symm

theorem resolutionsOf_own {m : Msg} (h : ((resolutions t).map Prod.fst).Sublist [m]) :
    resolutionsOf m t = (resolutions t).map Prod.snd := by
  unfold resolutionsOf
  rw [List.filter_eq_self.mpr fun x hx =>
    decide_eq_true (List.mem_singleton.mp (h.subset (List.mem_map_of_mem hx)))]

theorem completed_resolutionsOf (h : Completed f xs segs) (msg : β → Msg)
    (hf : ∀ x seg, Exec (f x) seg (some ()) → ((resolutions seg).map Prod.fst).Sublist [msg x])
    (hnodup : (xs.map msg).Nodup) {x : β} (hx : x ∈ xs) :
    ∃ seg ∈ segs, Exec (f x) seg (some ()) ∧
      resolutionsOf (msg x) segs.flatten = (resolutions seg).map Prod.snd := by
  induction h with
  | nil => simp at hx
  | @cons y seg ys segs he hs ih =>
    obtain ⟨hy, hys⟩ := List.nodup_cons.mp hnodup
    rw [List.flatten_cons]
    rcases List.mem_cons.mp hx with rfl | hx
    · refine ⟨seg, List.mem_cons_self, he, ?_⟩
      have hrest : resolutionsOf (msg x) segs.flatten = [] := resolutionsOf_nil fun k hk =>
        hy ((completed_sublist hs msg hf).subset (List.mem_map_of_mem hk))
      rw [resolutionsOf_append, hrest, List.append_nil, resolutionsOf_own (hf _ _ he)]
    · obtain ⟨seg', hseg', he', hres⟩ := ih hys hx
      refine ⟨seg', List.mem_cons_of_mem _ hseg', he', ?_⟩
      have hne : msg y ≠ msg x := fun e => hy (List.mem_map.mpr ⟨x, hx, e.symm⟩)
      rw [resolutionsOf_append, resolutionsOf_foreign hne (hf _ _ he), List.nil_append, hres]

theorem segment_flatten (h : seg ∈ segs) : seg <:+: segs.flatten := by
  obtain ⟨before, after, rfl⟩ := List.append_of_mem h
  exact ⟨before.flatten, after.flatten, by simp⟩

theorem resolutions_within (h : seg <:+: t) {x : Msg × Resolution} (hx : x ∈ resolutions seg) :
    x ∈ resolutions t := by
  obtain ⟨before, after, rfl⟩ := h
  simp [hx]

end Runs

section Batches

variable {cfg : ProcessorConfig} {msgs : List Msg} {items : List ParsedMessage}
  {order : List String}

theorem parsed_sublist (msgs : List Msg) :
    ((parsed cfg msgs).map ParsedMessage.msg).Sublist msgs := by
  induction msgs with
  | nil => exact List.Sublist.slnil
  | cons m rest ih =>
    unfold parsed at ih ⊢
    cases hparse : parseCE cfg m.data with
    | none => simpa [hparse] using ih.cons m
    | some res => simpa [hparse] using ih

theorem mem_pairs (horder : order.Perm (dedupMap items).keys) :
    item ∈ (pairedIds items order).flatMap (pairItems items) ↔
      item ∈ items ∧ Dropped items item := by
  simp only [pairedIds, pairItems, requestsOf, List.mem_flatMap, List.mem_filter, List.mem_append,
    decide_eq_true_eq]
  constructor
  · rintro ⟨r, ⟨-, hpaired⟩, ⟨hitem, rfl, htype⟩ | ⟨hitem, rfl, htype⟩⟩
    · exact ⟨hitem, hpaired, Or.inl htype⟩
    · exact ⟨hitem, hpaired, Or.inr htype⟩
  · rintro ⟨hitem, hpaired, htype⟩
    refine ⟨item.res.resourceID, ⟨?_, hpaired⟩, ?_⟩
    · exact horder.mem_iff.mpr ((mem_dedupMap_keys items _).mpr ⟨item, hitem, rfl⟩)
    · rcases htype with h | h
      · exact Or.inl ⟨hitem, rfl, h⟩
      · exact Or.inr ⟨hitem, rfl, h⟩

theorem pairItems_nodup (h : items.Nodup) (r : String) : (pairItems items r).Nodup := by
  refine List.nodup_append.mpr ⟨h.filter _, h.filter _, ?_⟩
  rintro a ha b hb rfl
  have hc := (of_decide_eq_true (List.mem_filter.mp ha).2).2
  have hd := (of_decide_eq_true (List.mem_filter.mp hb).2).2
  exact absurd (hc.symm.trans hd) (by decide)

theorem mem_pairItems {r : String} (h : item ∈ pairItems items r) :
    item.res.resourceID = r := by
  rcases List.mem_append.mp h with h | h
  · exact (of_decide_eq_true (List.mem_filter.mp h).2).1
  · exact (of_decide_eq_true (List.mem_filter.mp h).2).1

theorem pairs_nodup (h : items.Nodup) (horder : order.Nodup) :
    ((pairedIds items order).flatMap (pairItems items)).Nodup := by
  refine List.nodup_flatMap.mpr ⟨fun r _ => pairItems_nodup h r, ?_⟩
  refine (horder.filter _).imp fun hne => ?_
  intro item hr hr'
  exact hne ((mem_pairItems hr).symm.trans (mem_pairItems hr'))

theorem deletedAck_injective (cfg : ProcessorConfig) : Function.Injective (deletedAck cfg) := by
  intro r r' h
  simpa [deletedAck, responseCtx] using h

variable {f : ParsedMessage → Routine Unit} {before : List RoutingEvent}
  {segs : List (List RoutingEvent)}

theorem outcome_sublist {m : Msg} {res : CEResult} {t : List RoutingEvent}
    (h : ItemOutcome cfg mainTopic m res t) : ((resolutions t).map Prod.fst).Sublist [m] := by
  cases h with
  | naked h => simp [h]
  | acked h hwhy => simp [h]
  | left hmain h hcopy => simp [h]

theorem batch_firsts (hb : Batch cfg f msgs order before segs (some ()))
    (hf : ∀ item seg, Exec (f item) seg (some ()) →
      ItemOutcome cfg false item.msg item.res seg ∧ Undeleted seg) :
    ((resolutions (before ++ segs.flatten)).map Prod.fst).Sublist
      (unparsed cfg msgs ++ (((pairedIds (parsed cfg msgs) order).flatMap
        (pairItems (parsed cfg msgs))).map ParsedMessage.msg ++
          (survivors (parsed cfg msgs)).map ParsedMessage.msg)) := by
  have hloop := completed_sublist hb.segments.forall₂ ParsedMessage.msg
    fun item seg he => outcome_sublist (hf item seg he).1
  rw [resolutions_append, hb.resolved.resolutions, List.map_append, List.map_append,
    List.map_flatMap, List.append_assoc]
  simp only [List.map_map, Function.comp_def, List.map_id', List.map_flatMap]
  exact (List.Sublist.refl _).append ((List.Sublist.refl _).append hloop)

theorem batch_nodup (hmsgs : msgs.Nodup) (hperm : order.Perm (dedupMap (parsed cfg msgs)).keys) :
    (unparsed cfg msgs ++ (((pairedIds (parsed cfg msgs) order).flatMap
      (pairItems (parsed cfg msgs))).map ParsedMessage.msg ++
        (survivors (parsed cfg msgs)).map ParsedMessage.msg)).Nodup := by
  have hparsed : ((parsed cfg msgs).map ParsedMessage.msg).Nodup :=
    hmsgs.sublist (parsed_sublist msgs)
  have hinj := List.inj_on_of_nodup_map hparsed
  have hpairs : ∀ item ∈ (pairedIds (parsed cfg msgs) order).flatMap (pairItems (parsed cfg msgs)),
      item ∈ parsed cfg msgs ∧ Dropped (parsed cfg msgs) item :=
    fun item h => (mem_pairs hperm).mp h
  have hsurvivors : ∀ item ∈ survivors (parsed cfg msgs),
      item ∈ parsed cfg msgs ∧ ¬ Dropped (parsed cfg msgs) item := fun item h =>
    ⟨(List.mem_filter.mp h).1, of_decide_eq_true (List.mem_filter.mp h).2⟩
  have hunparsed : ∀ item ∈ parsed cfg msgs, item.msg ∉ unparsed cfg msgs := by
    intro item hitem h
    have hnone := (List.mem_filter.mp h).2
    rw [(mem_parsed.mp hitem).2] at hnone
    simp at hnone
  refine List.nodup_append.mpr ⟨hmsgs.filter _, List.nodup_append.mpr ⟨?_, ?_, ?_⟩, ?_⟩
  · refine (pairs_nodup (hparsed.of_map _) (hperm.nodup_iff.mpr (dedupMap_keys_nodup _))).map_on ?_
    exact fun a ha b hb => hinj (hpairs a ha).1 (hpairs b hb).1
  · exact hparsed.sublist (List.filter_sublist.map _)
  · rintro _ ha _ hb rfl
    obtain ⟨a, ha, hm⟩ := List.mem_map.mp ha
    obtain ⟨b, hb, hm'⟩ := List.mem_map.mp hb
    obtain rfl := hinj (hpairs a ha).1 (hsurvivors b hb).1 (hm.trans hm'.symm)
    exact (hsurvivors a hb).2 (hpairs a ha).2
  · rintro m hm _ hrest rfl
    rcases List.mem_append.mp hrest with h | h
    · obtain ⟨item, hitem, rfl⟩ := List.mem_map.mp h
      exact hunparsed item (hpairs item hitem).1 hm
    · obtain ⟨item, hitem, rfl⟩ := List.mem_map.mp h
      exact hunparsed item (hsurvivors item hitem).1 hm

theorem batch_deletedAcks (hb : Batch cfg f msgs order before segs (some ()))
    (hf : ∀ item seg, Exec (f item) seg (some ()) →
      ItemOutcome cfg false item.msg item.res seg ∧ Undeleted seg) (hitem : item ∈ parsed cfg msgs)
    (hpaired : Paired (parsed cfg msgs) item.res.resourceID) :
    (emissions (before ++ segs.flatten)).count (deletedAck cfg item.res.resourceID) = 1 := by
  have hloop : deletedAck cfg item.res.resourceID ∉ emissions segs.flatten := by
    intro h
    obtain ⟨e, he, hsome⟩ := List.mem_filterMap.mp h
    obtain ⟨seg, hseg, he⟩ := List.mem_flatten.mp he
    obtain ⟨x, -, hx⟩ := completed_segment hb.segments.forall₂ hseg
    exact (hf x seg hx).2 _ (List.mem_filterMap.mpr ⟨e, he, hsome⟩) _ rfl
  have hkey : item.res.resourceID ∈ pairedIds (parsed cfg msgs) order :=
    List.mem_filter.mpr ⟨hb.perm.mem_iff.mpr ((mem_dedupMap_keys _ _).mpr ⟨item, hitem, rfl⟩),
      decide_eq_true hpaired⟩
  have hids : (pairedIds (parsed cfg msgs) order).Nodup :=
    (hb.perm.nodup_iff.mpr (dedupMap_keys_nodup _)).filter _
  rw [emissions_append, hb.resolved.emissions, List.count_append,
    List.count_eq_zero_of_not_mem hloop, List.count_map_of_injective _ _ (deletedAck_injective cfg),
    List.count_eq_one_of_mem hids hkey]

theorem batch_resolvedOnce (hmsgs : msgs.Nodup)
    (hb : Batch cfg f msgs order before segs (some ()))
    (hf : ∀ item seg, Exec (f item) seg (some ()) →
      ItemOutcome cfg false item.msg item.res seg ∧ Undeleted seg) :
    ResolvedOnce cfg false msgs (before ++ segs.flatten) := by
  have hfirsts := batch_firsts hb hf
  have hnodup := (batch_nodup hmsgs hb.perm).sublist hfirsts
  have hbefore : ∀ x ∈ resolutions before, x ∈ resolutions (before ++ segs.flatten) := by
    simp +contextual
  constructor
  · intro x hx
    have hmem := hfirsts.subset (List.mem_map_of_mem hx)
    simp only [List.mem_append, List.mem_map] at hmem
    rcases hmem with h | ⟨item, hitem, hm⟩ | ⟨item, hitem, hm⟩
    · exact (List.mem_filter.mp h).1
    · exact hm ▸ (mem_parsed.mp ((mem_pairs hb.perm).mp hitem).1).1
    · exact hm ▸ (mem_parsed.mp (List.mem_filter.mp hitem).1).1
  · intro m hm
    cases hparse : parseCE cfg m.data with
    | none =>
      refine .terminated hparse (resolutionsOf_eq hnodup (hbefore _ ?_))
      rw [hb.resolved.resolutions]
      exact List.mem_append_left _ (List.mem_map.mpr ⟨m, List.mem_filter.mpr ⟨hm, by simp [hparse]⟩,
        rfl⟩)
    | some res =>
      have hitem : (⟨m, res⟩ : ParsedMessage) ∈ parsed cfg msgs := mem_parsed.mpr ⟨hm, hparse⟩
      by_cases hdrop : Dropped (parsed cfg msgs) ⟨m, res⟩
      · -- acked by the dedup
        have hpair := (mem_pairs hb.perm).mpr ⟨hitem, hdrop⟩
        obtain ⟨r, hr, hmem⟩ := List.mem_flatMap.mp hpair
        refine .acked res hparse (resolutionsOf_eq hnodup (hbefore _ ?_))
          (.paired hdrop.1 (batch_deletedAcks hb hf hitem hdrop.1))
        rw [hb.resolved.resolutions]
        exact List.mem_append_right _ (List.mem_flatMap.mpr ⟨r, hr, List.mem_map.mpr ⟨_, hmem, rfl⟩⟩)
      · -- handled in the loop
        have hsurvives : (⟨m, res⟩ : ParsedMessage) ∈ survivors (parsed cfg msgs) :=
          List.mem_filter.mpr ⟨hitem, decide_eq_true hdrop⟩
        obtain ⟨seg, hseg, he⟩ := completed_item hb.segments.forall₂ hsurvives
        have hwithin : seg <:+: before ++ segs.flatten :=
          (segment_flatten hseg).trans (List.suffix_append _ _).isInfix
        cases (hf _ seg he).1 with
        | naked h =>
          exact .naked (by simp [hparse])
            (resolutionsOf_eq hnodup (resolutions_within hwithin (by simp [h])))
        | acked h hwhy =>
          exact .acked res hparse
            (resolutionsOf_eq hnodup (resolutions_within hwithin (by simp [h])))
            (.handled seg hwithin h hwhy)
        | left hmain => cases hmain

theorem ResolvedOnce.after_clear {t p : List RoutingEvent} (h : ResolvedOnce cfg mainTopic msgs t)
    (hp : Clear p) :
    ResolvedOnce cfg mainTopic msgs (p ++ t) := by
  have hsame : ∀ m, resolutionsOf m (p ++ t) = resolutionsOf m t := fun m => by
    simp [resolutionsOf, hp.resolutions]
  refine ⟨by simpa [hp.resolutions] using h.only, fun m hm => ?_⟩
  cases h.each m hm with
  | terminated hparse h => exact .terminated hparse ((hsame m).trans h)
  | naked hparse h => exact .naked hparse ((hsame m).trans h)
  | acked res hparse h hwhy =>
    refine .acked res hparse ((hsame m).trans h) ?_
    cases hwhy with
    | handled seg hseg hres h =>
      exact .handled seg (hseg.trans (List.suffix_append _ _).isInfix) hres h
    | paired h hone => exact .paired h (by simpa [hp.emissions] using hone)
  | left hmain hparse h hcopy => exact .left hmain hparse ((hsame m).trans h) (by simp [hcopy])

end Batches

section Main

variable {cfg : ProcessorConfig} {msgs : List Msg} {segs : List (List RoutingEvent)}

theorem drainMainMessage_term {m : Msg} (hparse : parseCE cfg m.data = none) :
    Yields (drainMainMessage cfg m) fun _ t => resolutions t = [(m, .term)] := by
  unfold drainMainMessage
  rw [hparse]
  exact fun _ => rfl

theorem main_resolvedOnce (hmsgs : msgs.Nodup) (h : Completed (drainMainMessage cfg) msgs segs) :
    ResolvedOnce cfg true msgs segs.flatten := by
  have parsed : ∀ {m res seg}, parseCE cfg m.data = some res →
      Exec (drainMainMessage cfg m) seg (some ()) → ItemOutcome cfg true m res seg :=
    fun hparse he => (drained_outcome ((drainMainMessage_yields hparse).exec he)).1
  have own : ∀ m seg, Exec (drainMainMessage cfg m) seg (some ()) →
      ((resolutions seg).map Prod.fst).Sublist [id m] := by
    intro m seg he
    cases hparse : parseCE cfg m.data with
    | none => simp [(drainMainMessage_term hparse).exec he]
    | some res => exact outcome_sublist (parsed hparse he)
  refine ⟨fun x hx => ?_, fun m hm => ?_⟩
  · simpa using (completed_sublist h id own).subset (List.mem_map_of_mem hx)
  · obtain ⟨seg, hseg, he, hres⟩ := completed_resolutionsOf h id own (by simpa using hmsgs) hm
    have hwithin := segment_flatten hseg
    cases hparse : parseCE cfg m.data with
    | none =>
      refine .terminated hparse (hres.trans ?_)
      simp [(drainMainMessage_term hparse).exec he]
    | some res =>
      cases parsed hparse he with
      | naked h => exact .naked (by simp [hparse]) (hres.trans (by simp [h]))
      | acked h hwhy =>
        exact .acked res hparse (hres.trans (by simp [h])) (.handled seg hwithin h hwhy)
      | left hmain hnone hcopy =>
        exact .left rfl (by simp [hparse]) (hres.trans (by simp [hnone])) (hwithin.subset hcopy)

theorem drainMainTopic_yields : Yields (drainMainTopic cfg) fun out t => ∃ fetched rest,
    t = ⟨.fetchAll MessagingTopics.requestStreamName cfg.topics.mainConsumer, fetched⟩ :: rest ∧
      (fetched.failed = false → ∀ r, out = some r → ∃ beats segs, rest = beats ++ segs.flatten ∧
        Clear beats ∧ Completed (drainMainMessage cfg) fetched.msgs segs) := by
  refine fun fetched => ?_
  change Yields (if fetched.failed then _ else _) _
  split
  · rename_i hfailed
    exact ⟨fetched, [], rfl, fun h => by simp [hfailed] at h⟩
  · refine (heartbeatAll_yields fetched.msgs).bind ?_ nofun
    rintro _ beats ⟨-, hbeats⟩
    refine yields_iff.mpr fun t r ht => ⟨fetched, _, rfl, fun _ res hr => ?_⟩
    obtain ⟨u, t₁, t₂, rfl, hloop, hret⟩ | ⟨-, rfl⟩ := exec_bind.mp ht
    · obtain ⟨segs, rfl, hsegs⟩ := exec_each.mp hloop
      obtain ⟨rfl, -⟩ := exec_ret.mp hret
      exact ⟨beats, segs, by simp, hbeats, hsegs.forall₂⟩
    · cases hr

end Main

def fetchedIn (t : List RoutingEvent) : Option FetchResult :=
  t.findSome? fun
    | ⟨.fetchAll _ _, fetched⟩ => some fetched
    | _ => none

theorem fetch_nodup (fetched : FetchResult) : fetched.msgs.Nodup :=
  fetched.distinct.of_map _

def queuedRequests : List (String × String × String × String) :=
  [(typeRequestCreate, "e1", "a", "vm"), (typeRequestCreate, "e2", "r", "vm"),
    (typeRequestDelete, "e3", "r", "vm")]

def queuedProcessor : ProcessorConfig :=
  { vmProcessor with unmarshalEvent := decodeAmong queuedRequests }

def queuedMessages : FetchResult where
  msgs := ⟨0, []⟩ :: queuedRequests.mapIdx fun i q =>
    ⟨i + 1, requestBytes q.1 q.2.1 q.2.2.1 q.2.2.2⟩
  distinct := by decide
  failed := false

def queuedRun {α : Type} (p : Routine α) : List RoutingEvent × Option α × SharedState :=
  p.eval (handler { singleProvider vmProvider .ready .ok with fetchAll := fun _ _ => queuedMessages })
    ⟨.new 10, .new 10, .new⟩

theorem queuedRun_exec {α : Type} {p : Routine α} {a : α} (h : (queuedRun p).2.1 = some a) :
    Exec p (queuedRun p).1 (some a) :=
  h ▸ Prog.exec_eval _ p _

end RetryResolution
