import EnvironmentAgent.RetryProcessor
import EnvironmentAgent.RoutingSharedState
import Mathlib.Data.Finset.Basic
import Mathlib.Data.List.Find

/-! # Create and delete pairs of a batch

`dedupCreateDeletePairs` groups the indices of a batch by resource id in a map and acks by index. -/
namespace RetryDedup

open AtomicPrograms RoutingCloudEvent RoutingEffects RetryProcessor RoutingSharedState
open RoutingForwarder (publishOutcome)

def requestsOf (ceType r : String) (items : List ParsedMessage) : List ParsedMessage :=
  items.filter fun item => decide (item.res.resourceID = r ∧ item.res.ceType = ceType)

def Paired (items : List ParsedMessage) (r : String) : Prop :=
  requestsOf typeRequestCreate r items ≠ [] ∧ requestsOf typeRequestDelete r items ≠ []

instance (items : List ParsedMessage) (r : String) : Decidable (Paired items r) :=
  inferInstanceAs (Decidable (_ ∧ _))

def Dropped (items : List ParsedMessage) (item : ParsedMessage) : Prop :=
  Paired items item.res.resourceID ∧
    (item.res.ceType = typeRequestCreate ∨ item.res.ceType = typeRequestDelete)

instance (items : List ParsedMessage) (item : ParsedMessage) : Decidable (Dropped items item) :=
  inferInstanceAs (Decidable (_ ∧ _))

def survivors (items : List ParsedMessage) : List ParsedMessage :=
  items.filter fun item => decide (¬ Dropped items item)

def ackItems (items : List ParsedMessage) : Routine Unit :=
  Prog.each items fun item => do let _ ← ack item.msg

def resolvePair (cfg : ProcessorConfig) (items : List ParsedMessage) (r : String) :
    Routine Unit := do
  ackItems (requestsOf typeRequestCreate r items)
  ackItems (requestsOf typeRequestDelete r items)
  publishOutcome typeDeletionAcked (.deletionAck (responseCtx cfg r) "DELETED")

abbrev Indexed := List (ParsedMessage × ℕ)

def recordAll (d : DedupMap) (l : Indexed) : DedupMap := l.foldl (fun d p => d.record p.1 p.2) d

def indicesOf (ceType r : String) (l : Indexed) : List ℕ :=
  (l.filter fun p => decide (p.1.res.resourceID = r ∧ p.1.res.ceType = ceType)).map Prod.snd

theorem record_entry (d : DedupMap) (item : ParsedMessage) (i : ℕ) (r : String) :
    ((d.record item i).entry r).creates =
      (d.entry r).creates ++ indicesOf typeRequestCreate r [(item, i)] ∧
    ((d.record item i).entry r).deletes =
      (d.entry r).deletes ++ indicesOf typeRequestDelete r [(item, i)] := by
  have hne : typeRequestCreate ≠ typeRequestDelete := by decide
  by_cases hr : item.res.resourceID = r
  · subst hr
    by_cases hc : item.res.ceType = typeRequestCreate
    · simp [DedupMap.record, DedupEntry.record, indicesOf, hc, hne]
    · by_cases hd : item.res.ceType = typeRequestDelete
      · simp [DedupMap.record, DedupEntry.record, indicesOf, hd, hne.symm]
      · simp [DedupMap.record, DedupEntry.record, indicesOf, hc, hd]
  · simp [DedupMap.record, indicesOf, hr, Function.update_of_ne (Ne.symm hr)]

theorem recordAll_entry (d : DedupMap) (l : Indexed) (r : String) :
    ((recordAll d l).entry r).creates = (d.entry r).creates ++ indicesOf typeRequestCreate r l ∧
    ((recordAll d l).entry r).deletes = (d.entry r).deletes ++ indicesOf typeRequestDelete r l := by
  induction l generalizing d with
  | nil => simp [recordAll, indicesOf]
  | cons p l ih =>
    obtain ⟨hc, hd⟩ := ih (d.record p.1 p.2)
    obtain ⟨hc', hd'⟩ := record_entry d p.1 p.2 r
    have hsplit : ∀ t, indicesOf t r (p :: l) = indicesOf t r [(p.1, p.2)] ++ indicesOf t r l := by
      intro t
      simp [indicesOf, ← List.map_append, ← List.filter_append]
    exact ⟨by rw [hsplit, ← List.append_assoc, ← hc']; exact hc,
      by rw [hsplit, ← List.append_assoc, ← hd']; exact hd⟩

theorem mem_recordAll_keys (d : DedupMap) (l : Indexed) (r : String) :
    r ∈ (recordAll d l).keys ↔ r ∈ d.keys ∨ ∃ p ∈ l, p.1.res.resourceID = r := by
  induction l generalizing d with
  | nil => simp [recordAll]
  | cons p l ih =>
    have hkeys : r ∈ (d.record p.1 p.2).keys ↔ r ∈ d.keys ∨ p.1.res.resourceID = r := by
      unfold DedupMap.record
      by_cases hm : p.1.res.resourceID ∈ d.keys
      · simp only [hm, if_true]
        exact ⟨Or.inl, fun h => h.elim id fun e => e ▸ hm⟩
      · simp [hm, eq_comm]
    calc r ∈ (recordAll (d.record p.1 p.2) l).keys
        ↔ r ∈ (d.record p.1 p.2).keys ∨ ∃ p ∈ l, p.1.res.resourceID = r := ih _
      _ ↔ r ∈ d.keys ∨ ∃ p' ∈ p :: l, p'.1.res.resourceID = r := by
        rw [hkeys, or_assoc]
        simp

theorem recordAll_keys_nodup {d : DedupMap} (h : d.keys.Nodup) (l : Indexed) :
    (recordAll d l).keys.Nodup := by
  induction l generalizing d with
  | nil => exact h
  | cons p l ih =>
    refine ih ?_
    unfold DedupMap.record
    by_cases hm : p.1.res.resourceID ∈ d.keys
    · simpa [hm] using h
    · simpa [hm] using List.nodup_append.mpr ⟨h, List.nodup_singleton _, by
        rintro a ha b hb rfl
        exact hm (List.mem_singleton.mp hb ▸ ha)⟩

theorem dedupMap_keys_nodup (items : List ParsedMessage) : (dedupMap items).keys.Nodup :=
  recordAll_keys_nodup List.nodup_nil _

theorem mem_dedupMap_keys (items : List ParsedMessage) (r : String) :
    r ∈ (dedupMap items).keys ↔ ∃ item ∈ items, item.res.resourceID = r := by
  refine (mem_recordAll_keys .empty items.zipIdx r).trans ?_
  constructor
  · rintro (h | ⟨p, hp, hr⟩)
    · simp [DedupMap.empty] at h
    · exact ⟨p.1, (List.of_mem_zip (by simpa [List.zipIdx_eq_zip_range'] using hp)).1, hr⟩
  · rintro ⟨item, hitem, hr⟩
    obtain ⟨i, hi⟩ := List.mem_iff_getElem?.mp hitem
    exact Or.inr ⟨(item, i), List.mem_zipIdx_iff_getElem?.mpr hi, hr⟩

theorem dedupMap_entry (items : List ParsedMessage) (r : String) :
    ((dedupMap items).entry r).creates = indicesOf typeRequestCreate r items.zipIdx ∧
    ((dedupMap items).entry r).deletes = indicesOf typeRequestDelete r items.zipIdx :=
  recordAll_entry .empty items.zipIdx r

theorem filter_zipIdx_fst (P : ParsedMessage → Bool) (items : List ParsedMessage) (n : ℕ) :
    ((items.zipIdx n).filter fun p => P p.1).map Prod.fst = items.filter P := by
  induction items generalizing n with
  | nil => rfl
  | cons item items ih =>
    cases hp : P item <;> simp [List.zipIdx_cons, hp, ih]

theorem indicesOf_eq_nil (ceType r : String) (items : List ParsedMessage) :
    indicesOf ceType r items.zipIdx = [] ↔ requestsOf ceType r items = [] := by
  rw [requestsOf, ← filter_zipIdx_fst _ items 0]
  simp [indicesOf]

theorem ackIndices_eq {items : List ParsedMessage} {l : Indexed}
    (hl : ∀ p ∈ l, items[p.2]? = some p.1) :
    ackIndices items (l.map Prod.snd) = ackItems (l.map Prod.fst) := by
  induction l with
  | nil => rfl
  | cons p l ih =>
    have hp := hl p (by simp)
    have hrest := ih fun p' hp' => hl p' (by simp [hp'])
    simp only [ackIndices, ackItems, List.map_cons, Prog.each, hp] at hrest ⊢
    rw [hrest]

theorem ackIndices_indicesOf (ceType r : String) (items : List ParsedMessage) :
    ackIndices items (indicesOf ceType r items.zipIdx) = ackItems (requestsOf ceType r items) := by
  rw [requestsOf, ← filter_zipIdx_fst _ items 0]
  refine ackIndices_eq fun p hp => ?_
  exact List.mem_zipIdx_iff_getElem?.mp (List.mem_filter.mp hp).1

def indicesOfPair (items : List ParsedMessage) (r : String) : List ℕ :=
  indicesOf typeRequestCreate r items.zipIdx ++ indicesOf typeRequestDelete r items.zipIdx

theorem dedupEntries_eq (cfg : ProcessorConfig) (items : List ParsedMessage)
    (order : List String) (deduped : List ℕ) :
    dedupEntries cfg items (dedupMap items) order deduped = do
      Prog.each (order.filter fun r => decide (Paired items r)) (resolvePair cfg items)
      return deduped ++ (order.filter fun r => decide (Paired items r)).flatMap
        (indicesOfPair items) := by
  induction order generalizing deduped with
  | nil => simp [dedupEntries, Prog.each, pure, bind, Prog.bind]
  | cons r order ih =>
    obtain ⟨hc, hd⟩ := dedupMap_entry items r
    have hcond : ((dedupMap items).entry r).creates ≠ [] ∧
        ((dedupMap items).entry r).deletes ≠ [] ↔ Paired items r := by
      rw [hc, hd, Paired, Ne, Ne, indicesOf_eq_nil, indicesOf_eq_nil]
    by_cases hr : Paired items r
    · rw [dedupEntries, if_pos (hcond.mpr hr), hc, hd, ackIndices_indicesOf,
        ackIndices_indicesOf, ih, List.filter_cons_of_pos (by simpa using hr)]
      change _ = (resolvePair cfg items r >>= fun _ => Prog.each _ _) >>= _
      simp only [resolvePair, indicesOfPair, bind_assoc, List.flatMap_cons, List.append_assoc]
    · rw [dedupEntries, if_neg (fun h => hr (hcond.mp h)), ih,
        List.filter_cons_of_neg (by simpa using hr)]

variable {r : String}

theorem mem_indicesOfPair {items : List ParsedMessage} {i : ℕ} :
    i ∈ indicesOfPair items r ↔ ∃ item, items[i]? = some item ∧ item.res.resourceID = r ∧
      (item.res.ceType = typeRequestCreate ∨ item.res.ceType = typeRequestDelete) := by
  have hmem : ∀ t, i ∈ indicesOf t r items.zipIdx ↔ ∃ item, items[i]? = some item ∧
      item.res.resourceID = r ∧ item.res.ceType = t := by
    intro t
    simp [indicesOf, List.mem_zipIdx_iff_getElem?]
  rw [indicesOfPair, List.mem_append, hmem, hmem, ← exists_or]
  exact exists_congr fun item => by rw [← and_or_left, ← and_or_left]

theorem mem_deduped {items : List ParsedMessage} {order : List String}
    (hperm : order.Perm (dedupMap items).keys) {i : ℕ} {item : ParsedMessage}
    (hi : items[i]? = some item) :
    i ∈ (order.filter fun r => decide (Paired items r)).flatMap (indicesOfPair items) ↔
      Dropped items item := by
  simp only [List.mem_flatMap, List.mem_filter, decide_eq_true_eq, mem_indicesOfPair]
  constructor
  · rintro ⟨r, ⟨-, hr⟩, item', hi', rfl, ht⟩
    obtain rfl : item = item' := Option.some.inj (hi.symm.trans hi')
    exact ⟨hr, ht⟩
  · rintro ⟨hr, ht⟩
    refine ⟨item.res.resourceID, ⟨hperm.mem_iff.mpr ?_, hr⟩, item, hi, rfl, ht⟩
    exact (mem_dedupMap_keys items _).mpr ⟨item, List.mem_of_getElem? hi, rfl⟩

theorem surviving_eq {items : List ParsedMessage} {order : List String}
    (hperm : order.Perm (dedupMap items).keys) :
    surviving items ((order.filter fun r => decide (Paired items r)).flatMap
      (indicesOfPair items)) = survivors items := by
  rw [surviving, survivors, ← filter_zipIdx_fst _ items 0]
  refine congrArg (List.map Prod.fst) (List.filter_congr fun p hp => ?_)
  rw [decide_eq_decide, mem_deduped hperm (List.mem_zipIdx_iff_getElem?.mp hp)]

theorem dedupCreateDeletePairs_eq (cfg : ProcessorConfig) (items : List ParsedMessage) :
    dedupCreateDeletePairs cfg items = do
      let order ← rangeMap (dedupMap items).keys
      Prog.each (order.1.filter fun r => decide (Paired items r)) (resolvePair cfg items)
      return survivors items := by
  refine congrArg (Prog.bind _) (funext fun order => ?_)
  rw [dedupEntries_eq, bind_assoc]
  refine congrArg (Prog.bind _) (funext fun _ => ?_)
  change (if _ = [] then _ else _) = _
  rw [List.nil_append, surviving_eq order.2]
  split
  · rename_i hnone
    have hkeep : survivors items = items := by
      refine List.filter_eq_self.mpr fun item hitem => ?_
      obtain ⟨i, hi⟩ := List.mem_iff_getElem?.mp hitem
      have hnot := (mem_deduped order.2 hi).not.mp (by simp [hnone])
      simpa using hnot
    rw [hkeep]
  · rfl

def existStep (existing : Finset String) : RoutingEvent → Finset String
  | ⟨.sp (.create _ _ req), .ok⟩ => insert req.resourceID existing
  | ⟨.sp (.delete _ _ req), .ok⟩ => existing.erase req.resourceID
  | _ => existing

def existsAfter (existing : Finset String) (t : List RoutingEvent) : Finset String :=
  t.foldl existStep existing

def smooth : RoutingEvent → Bool
  | ⟨.sp _, x⟩ => decide (x = .ok)
  | ⟨.lockAddIfAbsent _, b⟩ => b
  | ⟨.contains .denyList _, b⟩ => !b
  | _ => true

def existMonitor : Monitor routing (Finset String) where
  allowed _ _ := True
  next := existStep

abbrev existTracking : Monitor routing (Finset String × Bool) := existMonitor.tracking smooth

def forwardAll (cfg : ProcessorConfig) (sp : StoredProvider) (items : List ParsedMessage) :
    Routine Unit :=
  Prog.each items fun item => do let _ ← forwardRequest cfg sp item.res

def applyRequest (existing : Finset String) (res : CEResult) : Finset String :=
  if res.ceType = typeRequestDelete then existing.erase res.resourceID
  else insert res.resourceID existing

def Now (existing : Finset String) (m : Finset String × Bool) : Prop :=
  m.2 = true → m.1 = existing

def IsNotCall : Op → Prop
  | .sp _ => False
  | _ => True

theorem now_step {existing : Finset String} {m : Finset String × Bool} {o : Op}
    (ho : IsNotCall o) (h : Now existing m) :
    existTracking.allowed m o ∧ ∀ x, Now existing (existTracking.next m ⟨o, x⟩) := by
  refine ⟨trivial, fun x hb => ?_⟩
  have hsame : existStep m.1 ⟨o, x⟩ = m.1 := by cases o <;> first | exact ho.elim | rfl
  exact hsame.trans (h (Bool.and_eq_true_iff.mp hb).1)

section Forward

variable (cfg : ProcessorConfig) (sp : StoredProvider) (res : CEResult) {existing : Finset String}
  {m : Finset String × Bool}

theorem uses_now {α : Type} {p : Routine α} (hp : p.Uses (S := routing) IsNotCall)
    (hm : Now existing m) :
    Follows existTracking p m fun out m' => out.isSome = true ∧ Now existing m' :=
  hp.invariant (Now existing) (fun _ _ ho h => now_step ho h) hm

theorem existStep_forward (existing : Finset String) :
    existStep existing ⟨.sp (RoutingForwarder.spCallOf sp (forwardParams res)), .ok⟩ =
      applyRequest existing res := by
  by_cases hd : res.ceType = typeRequestDelete
  · have hcall : RoutingForwarder.spCallOf sp (forwardParams res) =
        .delete sp.endpoint (sp.type == "embedded")
          ⟨res.resourceID, res.serviceType, res.eventID⟩ := by
      simp [RoutingForwarder.spCallOf, forwardParams, hd]
    rw [hcall, applyRequest, if_pos hd]
    rfl
  · have hcall : RoutingForwarder.spCallOf sp (forwardParams res) =
        .create sp.endpoint (sp.type == "embedded")
          ⟨res.resourceID, res.serviceType, res.spec, res.eventID⟩ := by
      simp [RoutingForwarder.spCallOf, forwardParams, hd]
    rw [hcall, applyRequest, if_neg hd]
    rfl

theorem forward_now (n : ℤ) (hm : Now existing m) :
    Follows existTracking (RoutingForwarder.forwardWithRetry sp (forwardParams res) n) m
      fun _ m' => Now (applyRequest existing res) m' := by
  have unfair : ∀ {m : Finset String × Bool} {x : SPResult} {c : SPCall}, x ≠ .ok →
      (existTracking.next m ⟨.sp c, x⟩).2 = false := fun hx => by
    simp [existTracking, Monitor.tracking, smooth, hx]
  have ended : ∀ {m : Finset String × Bool} {s : Finset String}, m.2 = false → Now s m :=
    fun h hb => by simp [h] at hb
  refine RoutingForwarder.forwardAttempts_follows (Now existing) (fun _ m => m.2 = false)
    (fun _ _ => trivial) ?_ ?_ ?_ ?_ ?_ ?_ ?_ _ _ hm
  · intro m hm hb
    rw [← hm (Bool.and_eq_true_iff.mp hb).1]
    exact existStep_forward sp res m.1
  · exact fun m hm => ended (unfair (by simp))
  · exact fun m e hm => unfair (by simp)
  · exact fun m e o ho hm => ⟨trivial, fun x => by simp [existTracking, Monitor.tracking, hm]⟩
  · exact fun m e hm => ended hm
  · exact fun m e hm => ended hm
  · exact fun m e hm _ => ended hm

theorem publishAckCE_uses : (publishAckCE cfg res).Uses (S := routing) IsNotCall := by
  unfold publishAckCE
  split <;> exact ⟨trivial, fun _ => trivial⟩

theorem deniedCreate_now (hm : Now existing m) :
    Follows existTracking (deniedCreate res) m fun out m' =>
      (out = some false ∧ Now existing m') ∨ (out = some true ∧ m'.2 = false) := by
  unfold deniedCreate
  split
  · refine ⟨trivial, fun x => ?_⟩
    cases x with
    | false => exact Or.inl ⟨rfl, fun hb => hm (Bool.and_eq_true_iff.mp hb).1⟩
    | true => exact Or.inr ⟨rfl, Bool.and_false _⟩
  · exact Or.inl ⟨rfl, hm⟩

theorem claimAndForward_now (hm : Now existing m) :
    Follows existTracking (claimAndForward cfg sp res) m fun _ m' =>
      Now (applyRequest existing res) m' := by
  refine follows_bind.mpr (Follows.mono (uses_now (claim_uses cfg _ trivial) hm) ?_)
  rintro (_ | newlyAdded) m ⟨hret, hm⟩
  · simp at hret
  refine follows_bind.mpr (Follows.mono (deniedCreate_now res hm) ?_)
  rintro (_ | _ | _) m hout
  · simp at hout
  · have hm : Now existing m := by simpa using hout
    refine follows_bind.mpr (Follows.mono (forward_now sp res _ hm) ?_)
    rintro (_ | _ | _ | e) m hm
    · exact hm
    · refine follows_bind.mpr (Follows.mono (uses_now (publishAckCE_uses cfg res) hm) ?_)
      rintro (_ | _) m ⟨-, hm⟩ <;> exact hm
    · refine follows_bind.mpr (Follows.mono (uses_now (releaseClaim_uses newlyAdded _ trivial) hm) ?_)
      rintro (_ | _) m ⟨-, hm⟩ <;> exact hm
    · refine follows_bind.mpr (Follows.mono (uses_now (releaseClaim_uses newlyAdded _ trivial) hm) ?_)
      rintro (_ | _) m ⟨hret, hm⟩
      · simp at hret
      refine ⟨trivial, ?_⟩
      rintro (_ | _)
      · exact ⟨trivial, fun x => (now_step (o := .publishCE _ _) trivial
          ((now_step (o := .ctxErr) trivial hm).2 false)).2 x⟩
      · exact (now_step (o := .ctxErr) trivial hm).2 true
  · have hm : Now (applyRequest existing res) m := fun hb => by simp [hb] at hout
    refine follows_bind.mpr (Follows.mono (uses_now (releaseClaim_uses newlyAdded _ trivial) hm) ?_)
    rintro (_ | _) m ⟨-, hm⟩ <;> exact hm

theorem forwardRequest_now (hf : cfg.forwarder = true) (hm : Now existing m) :
    Follows existTracking (forwardRequest cfg sp res) m fun _ m' =>
      Now (applyRequest existing res) m' := by
  simp only [forwardRequest, hf, Bool.not_true, Bool.false_eq_true, if_false]
  split
  · refine ⟨trivial, ?_⟩
    rintro (_ | _)
    · exact fun hb => absurd (Bool.and_eq_true_iff.mp hb).2 Bool.false_ne_true
    · refine follows_ensure.mpr (Follows.mono (claimAndForward_now cfg sp res
        (fun hb => hm (Bool.and_eq_true_iff.mp hb).1)) ?_)
      intro out m hm
      exact ⟨trivial, fun x => (now_step (o := .lockRemove _) trivial hm).2 x⟩
  · exact claimAndForward_now cfg sp res hm

def applyAll (existing : Finset String) (items : List ParsedMessage) : Finset String :=
  items.foldl (fun s item => applyRequest s item.res) existing

theorem forwardAll_now (hf : cfg.forwarder = true) (items : List ParsedMessage)
    (hm : Now existing m) :
    Follows existTracking (forwardAll cfg sp items) m fun out m' =>
      out = some () → Now (applyAll existing items) m' := by
  refine follows_each (fun rest m => ∃ s, Now s m ∧ applyAll s rest = applyAll existing items)
    _ ?_ ?_ ⟨existing, hm, rfl⟩
  · rintro item rest m ⟨s, hs, hrest⟩
    refine follows_bind.mpr (Follows.mono (forwardRequest_now cfg sp item.res hf hs) ?_)
    rintro (_ | _) m hm
    · simp
    · exact ⟨_, hm, hrest⟩
  · rintro m ⟨s, hs, hrest⟩ -
    rw [← hrest]
    exact hs

theorem dedup_now (items : List ParsedMessage) (hm : Now existing m) :
    Follows existTracking (dedupCreateDeletePairs cfg items) m fun out m' =>
      out = some (survivors items) ∧ Now existing m' := by
  have acks : ∀ l, (ackItems l).Uses (S := routing) IsNotCall := by
    intro l
    induction l with
    | nil => trivial
    | cons item l ih => exact ⟨trivial, fun _ => ih⟩
  have pair : ∀ r, (resolvePair cfg items r).Uses (S := routing) IsNotCall := fun r =>
    (acks _).bind fun _ => (acks _).bind fun _ => ⟨trivial, fun _ => trivial⟩
  rw [dedupCreateDeletePairs_eq]
  refine ⟨trivial, fun order => ?_⟩
  refine (follows_bind (p := Prog.each _ _)).mpr (follows_each (fun _ m => Now existing m) _ ?_ ?_
    ((now_step (o := .rangeMap _) trivial hm).2 order))
  · intro r rest m hm
    refine Follows.mono (uses_now (pair r) hm) ?_
    rintro (_ | _) m ⟨hret, hm⟩
    · simp at hret
    · exact hm
  · exact fun m hm => ⟨rfl, hm⟩

end Forward

def LastIsCreate (items : List ParsedMessage) (r : String) : Prop :=
  ∃ item, (items.reverse.find? fun item => decide (item.res.resourceID = r)) = some item ∧
    item.res.ceType = typeRequestCreate

theorem applyAll_append (existing : Finset String) (items items' : List ParsedMessage) :
    applyAll existing (items ++ items') = applyAll (applyAll existing items) items' :=
  List.foldl_append

theorem mem_applyRequest {existing : Finset String} {res : CEResult} :
    r ∈ applyRequest existing res ↔
      if res.resourceID = r then res.ceType ≠ typeRequestDelete else r ∈ existing := by
  unfold applyRequest
  by_cases hr : res.resourceID = r
  · by_cases hd : res.ceType = typeRequestDelete <;> simp [hd, hr]
  · by_cases hd : res.ceType = typeRequestDelete <;> simp [hd, hr, Ne.symm hr]

theorem mem_applyAll (existing : Finset String) (items : List ParsedMessage) (r : String) :
    r ∈ applyAll existing items ↔
      match items.reverse.find? fun item => decide (item.res.resourceID = r) with
      | some item => item.res.ceType ≠ typeRequestDelete
      | none => r ∈ existing := by
  induction items using List.reverseRecOn with
  | nil => rfl
  | append_singleton items item ih =>
    rw [applyAll_append, List.reverse_append]
    change r ∈ applyRequest _ item.res ↔ _
    rw [mem_applyRequest]
    by_cases hr : item.res.resourceID = r <;> simp [hr, ih]

section Effect

variable {items : List ParsedMessage} (hitems : ∀ item ∈ items,
  item.res.ceType = typeRequestCreate ∨ item.res.ceType = typeRequestDelete)
include hitems

theorem find_survivors (r : String) :
    (survivors items).reverse.find? (fun item => decide (item.res.resourceID = r)) =
      if Paired items r then none
      else items.reverse.find? fun item => decide (item.res.resourceID = r) := by
  rw [survivors, ← List.filter_reverse, List.find?_filter]
  by_cases hr : Paired items r
  · rw [if_pos hr, List.find?_eq_none]
    intro item hitem hcond
    simp only [decide_not, Bool.not_eq_true', decide_eq_false_iff_not, decide_eq_true_eq] at hcond
    exact hcond.1 ⟨hcond.2 ▸ hr, hitems item (List.mem_reverse.mp hitem)⟩
  · rw [if_neg hr]
    refine List.find?_congr fun item _ => ?_
    by_cases hid : item.res.resourceID = r
    · have hkeep : ¬ Dropped items item := fun hd => hr (hid ▸ hd.1)
      simp [hid, hkeep]
    · simp [hid]

theorem mem_applyAll_survivors (existing : Finset String) (r : String) :
    r ∈ applyAll existing (survivors items) ↔
      if Paired items r then r ∈ existing else r ∈ applyAll existing items := by
  rw [mem_applyAll, find_survivors hitems]
  by_cases hr : Paired items r
  · simp [hr]
  · simp only [hr, if_false]
    exact (mem_applyAll existing items r).symm

theorem paired_mem_applyAll (hr : Paired items r) (existing : Finset String) :
    r ∈ applyAll existing items ↔ LastIsCreate items r := by
  have hne : typeRequestCreate ≠ typeRequestDelete := by decide
  rw [mem_applyAll, LastIsCreate]
  obtain ⟨item, hitem⟩ := List.exists_mem_of_ne_nil _ hr.1
  obtain ⟨hmem, hid⟩ := List.mem_filter.mp hitem
  cases hlast : items.reverse.find? fun item => decide (item.res.resourceID = r) with
  | none =>
    have hnone := List.find?_eq_none.mp hlast item (List.mem_reverse.mpr hmem)
    simp only [decide_eq_true_eq] at hid hnone
    exact absurd hid.1 hnone
  | some last =>
    have hlastMem : last ∈ items := List.mem_reverse.mp (List.mem_of_find?_eq_some hlast)
    rcases hitems last hlastMem with ht | ht <;> simp [ht, hne, hne.symm]

end Effect

/-- Smooth executions of a batch: an id with both kinds of request keeps its old state, every other
id gets the state of forwarding the whole batch in order. The two agree exactly when each paired id
existed before if its last request is a create, and did not if it is a delete. -/
theorem dedup_effect (cfg : ProcessorConfig) (hf : cfg.forwarder = true) (sp : StoredProvider)
    (items : List ParsedMessage)
    (hitems : ∀ item ∈ items,
      item.res.ceType = typeRequestCreate ∨ item.res.ceType = typeRequestDelete)
    (existing : Finset String) {t t' : List RoutingEvent}
    (h : Exec (do
      let items ← dedupCreateDeletePairs cfg items
      forwardAll cfg sp items) t (some ()))
    (h' : Exec (forwardAll cfg sp items) t' (some ()))
    (hsmooth : t.all smooth = true) (hsmooth' : t'.all smooth = true) :
    (∀ r, r ∈ existsAfter existing t ↔
      if Paired items r then r ∈ existing else r ∈ existsAfter existing t') ∧
    (existsAfter existing t = existsAfter existing t' ↔
      ∀ r, Paired items r → (r ∈ existing ↔ LastIsCreate items r)) := by
  have hdedup : existsAfter existing t = applyAll existing (survivors items) := by
    have hfollows : Follows existTracking (do
        let items ← dedupCreateDeletePairs cfg items
        forwardAll cfg sp items) (existing, true) fun out m =>
          out = some () → Now (applyAll existing (survivors items)) m := by
      refine follows_bind.mpr (Follows.mono (dedup_now cfg items fun _ => rfl) ?_)
      rintro out m ⟨rfl, hm⟩
      exact forwardAll_now cfg sp hf _ hm
    have hnow := (hfollows.exec h).2 rfl
    rw [Monitor.tracking_after] at hnow
    exact hnow (by simpa using hsmooth)
  have hplain : existsAfter existing t' = applyAll existing items := by
    have hnow := ((forwardAll_now cfg sp hf items (m := (existing, true))
      fun _ => rfl).exec h').2 rfl
    rw [Monitor.tracking_after] at hnow
    exact hnow (by simpa using hsmooth')
  have hmem := mem_applyAll_survivors hitems existing
  rw [hdedup, hplain]
  refine ⟨hmem, ?_⟩
  constructor
  · intro heq r hr
    rw [← paired_mem_applyAll hitems hr existing, ← heq, hmem r, if_pos hr]
  · intro hall
    ext r
    rw [hmem r]
    split
    · rename_i hr
      rw [hall r hr, paired_mem_applyAll hitems hr]
    · rfl

def vmProcessor : ProcessorConfig :=
  ⟨fun _ => none, true, true, true, 3, "agent", MessagingTopics.deriveTopicNames "agent" ""⟩
def vmProvider : StoredProvider := ⟨"p1", "p", "http://p", "vm", "external"⟩

def vmItem (seq : ℕ) (ceType r : String) : ParsedMessage :=
  ⟨⟨seq, []⟩, ⟨r, "vm", "e", ceType, none⟩⟩

def alone {α : Type} (p : Routine α) : List RoutingEvent × Option α × SharedState :=
  p.eval (handler (singleProvider vmProvider .ready .ok)) ⟨.new 10, .new 10, .new⟩

theorem alone_exec {α : Type} {p : Routine α} {a : α} (h : (alone p).2.1 = some a) :
    Exec p (alone p).1 (some a) :=
  h ▸ Prog.exec_eval _ p _

def dedupAndForward (items : List ParsedMessage) : Routine Unit := do
  let items ← dedupCreateDeletePairs vmProcessor items
  forwardAll vmProcessor vmProvider items

def mixedBatch : List ParsedMessage :=
  [vmItem 1 typeRequestCreate "a", vmItem 2 typeRequestCreate "r", vmItem 3 typeRequestDelete "r"]

theorem dedup_effect_mixedBatch :
    (∀ r, r ∈ existsAfter ∅ (alone (dedupAndForward mixedBatch)).1 ↔
      if Paired mixedBatch r then r ∈ (∅ : Finset String)
      else r ∈ existsAfter ∅ (alone (forwardAll vmProcessor vmProvider mixedBatch)).1) ∧
    existsAfter ∅ (alone (dedupAndForward mixedBatch)).1 = {"a"} :=
  ⟨(dedup_effect vmProcessor rfl vmProvider mixedBatch (by decide) ∅
    (alone_exec (by decide +kernel)) (alone_exec (by decide +kernel)) (by decide +kernel)
    (by decide +kernel)).1,
    by decide +kernel⟩

/-- A delete queued before a create of a resource that does not exist, and a create queued
before a delete of one that does. -/
theorem dedup_changes_effect :
    (existsAfter ∅ (alone (dedupAndForward
        [vmItem 1 typeRequestDelete "r", vmItem 2 typeRequestCreate "r"])).1 = ∅ ∧
      existsAfter ∅ (alone (forwardAll vmProcessor vmProvider
        [vmItem 1 typeRequestDelete "r", vmItem 2 typeRequestCreate "r"])).1 = {"r"}) ∧
    (existsAfter {"r"} (alone (dedupAndForward
        [vmItem 1 typeRequestCreate "r", vmItem 2 typeRequestDelete "r"])).1 = {"r"} ∧
      existsAfter {"r"} (alone (forwardAll vmProcessor vmProvider
        [vmItem 1 typeRequestCreate "r", vmItem 2 typeRequestDelete "r"])).1 = ∅) := by
  decide +kernel

end RetryDedup
