import EnvironmentAgent.AgentRuntime
import EnvironmentAgent.RequestHandling
import EnvironmentAgent.RetryResolution
import EnvironmentAgent.RoutineOperations

/-! # The order of a create and a later delete

A create that waits on the retry topic has been accepted, and the delete of the same resource may be
delivered after it. -/
namespace OperationOrder

open AtomicPrograms LabelledRuns RoutingCloudEvent RoutingEffects RoutingTraces RoutingRouter
open RetryProcessor RetryDedup RetryBatches RetryForwarding RetryResolution RoutineOperations
open AgentRuntime AgentRuntime.RetryTopic
open RoutingSharedState (act_outside sharedSemantics)
open InFlightExclusion (Wiring Invocation)
open RoutingForwarder (spCallOf)

def createCall : Action → Option (String × String)
  | .turn _ ⟨.sp (.create _ _ req), _⟩ => some (req.resourceID, req.eventID)
  | _ => none

def deleteCall : Action → Option (String × String)
  | .turn _ ⟨.sp (.delete _ _ req), _⟩ => some (req.resourceID, req.eventID)
  | _ => none

def delivery : Action → Option Msg
  | .deliver m => some m
  | _ => none

section Statement

variable (a : Wiring) (resourceID createID deleteID : String)

def Creates (data : Bytes) : Prop :=
  (∃ req ∈ parseRequestCE a.router data, req.1 = true ∧ req.2.resourceID = resourceID ∧
    req.2.eventID = createID) ∨
  ∃ res ∈ parseCE a.processor data, res.ceType ≠ typeRequestDelete ∧
    res.resourceID = resourceID ∧ res.eventID = createID

instance (data : Bytes) : Decidable (Creates a resourceID createID data) :=
  inferInstanceAs (Decidable (_ ∨ _))

def InOrder (l : List Action) : Prop :=
  l.Pairwise fun x y => deleteCall x = some (resourceID, deleteID) →
    createCall y ≠ some (resourceID, createID)

def DeliveredFirst (l : List Action) : Prop :=
  l.Pairwise fun x y => deleteCall x = some (resourceID, deleteID) →
    ∀ m ∈ delivery y, ¬ Creates a resourceID createID m.data

instance (l : List Action) : Decidable (InOrder resourceID createID deleteID l) :=
  inferInstanceAs (Decidable (List.Pairwise _ _))

instance (l : List Action) : Decidable (DeliveredFirst a resourceID createID deleteID l) :=
  inferInstanceAs (Decidable (List.Pairwise _ _))

/-- Nothing is left of the create: it does not wait on the retry topic, it is in the hand of no
goroutine, and its handlers have ended. -/
structure Gone (u : Agent) : Prop where
  waiting : ∀ m ∈ u.topic.msgs, ¬ Creates a resourceID createID m.data
  inHand : ∀ x ∈ u.topic.inHand, ¬ Creates a resourceID createID x.2.data
  handled : ∀ (i : ℕ) (m : Msg) p, u.calls[i]? = some (.mainMessage m) →
    Creates a resourceID createID m.data → u.threads[i]? = some p → Ended p

def handling : Invocation → Option Msg
  | .mainMessage m => some m
  | _ => none

instance (u : Agent) : Decidable (Gone a resourceID createID u) :=
  decidable_of_iff ((∀ m ∈ u.topic.msgs, ¬ Creates a resourceID createID m.data) ∧
      (∀ x ∈ u.topic.inHand, ¬ Creates a resourceID createID x.2.data) ∧
      ∀ x ∈ u.calls.zip u.threads, ∀ m ∈ handling x.1, Creates a resourceID createID m.data →
        Ended x.2) <| by
    constructor
    · intro h
      refine ⟨h.1, h.2.1, fun i m p hi hm hp => ?_⟩
      have hmem : (.mainMessage m, p) ∈ u.calls.zip u.threads :=
        List.mem_of_getElem? (List.getElem?_zip_eq_some.mpr ⟨hi, hp⟩)
      exact h.2.2 _ hmem m rfl hm
    · intro h
      refine ⟨h.waiting, h.inHand, fun x hx m hm hcreates => ?_⟩
      obtain ⟨i, hi⟩ := List.mem_iff_getElem?.mp hx
      obtain ⟨hcall, hp⟩ := List.getElem?_zip_eq_some.mp hi
      have hown : x.1 = .mainMessage m := by
        cases hcase : x.1 <;> rw [hcase] at hm <;> cases hm
        rfl
      exact h.handled i m x.2 (hown ▸ hcall) hcreates hp

def Unqueued (u : Agent) (e : Action) : Prop :=
  deleteCall e = some (resourceID, deleteID) → Gone a resourceID createID u

instance (u : Agent) (e : Action) :
    Decidable (Unqueued a resourceID createID deleteID u e) :=
  inferInstanceAs (Decidable (_ → _))

end Statement

variable {item : ParsedMessage} {sp : StoredProvider} {x : SPResult} {c : SPCall}

section Transition

variable {cfg : ProcessorConfig} {t : List RoutingEvent}

def CallsFirst (t : List RoutingEvent) : Prop :=
  ∃ body rest, t = body ++ rest ∧ resolutions body = [] ∧ callsIn rest = []

theorem CallsFirst.before {before after : List RoutingEvent}
    (h : CallsFirst (before ++ ⟨.sp c, x⟩ :: after)) : resolutions before = [] := by
  obtain ⟨body, rest, heq, hbody, hrest⟩ := h
  rcases List.append_eq_append_iff.mp heq with ⟨more, rfl, -⟩ | ⟨more, -, rfl⟩
  · exact (List.append_eq_nil_iff.mp (resolutions_append before more ▸ hbody)).1
  · -- the call would be among what follows the last call
    simp at hrest

theorem CallsFirst.of_no_calls (h : callsIn t = []) : CallsFirst t := ⟨[], t, rfl, rfl, h⟩

theorem CallsFirst.append {body rest : List RoutingEvent} (hbody : resolutions body = [])
    (hrest : CallsFirst rest) : CallsFirst (body ++ rest) := by
  obtain ⟨inner, last, rfl, hinner, hlast⟩ := hrest
  exact ⟨body ++ inner, last, (List.append_assoc _ _ _).symm, by simp [hbody, hinner], hlast⟩

structure Handles (item : ParsedMessage) (t : List RoutingEvent) : Prop where
  resolves : ((resolutions t).map Prod.fst).Sublist [item.msg]
  callsFirst : CallsFirst t
  calls : ∀ c ∈ callsIn t, ∃ sp, c.1 = spCallOf sp (forwardParams item.res)

theorem Handles.of_no_calls (h : ((resolutions t).map Prod.fst).Sublist [item.msg])
    (hc : callsIn t = []) :
    Handles item t :=
  ⟨h, .of_no_calls hc, by simp [hc]⟩

theorem Handles.after {before : List RoutingEvent} (hb : Clear before) (h : Handles item t) :
    Handles item (before ++ t) :=
  ⟨by simpa [hb.resolutions] using h.resolves, .append hb.resolutions h.callsFirst,
    by simpa [hb.calls] using h.calls⟩

theorem Handles.after_progress {m : Msg} {b : Bool} (h : Handles item t) :
    Handles item (⟨.inProgress m, b⟩ :: t) := by
  have hclear : Clear [(⟨.inProgress m, b⟩ : RoutingEvent)] := ⟨rfl, rfl, rfl⟩
  exact .after hclear h

theorem handles_forward {out : Option Bool} {rest : List RoutingEvent}
    (h : Forward cfg sp item.res t out)
    (hrest : ((resolutions rest).map Prod.fst).Sublist [item.msg]) (hc : callsIn rest = []) :
    Handles item (t ++ rest) :=
  ⟨by simpa [h.within.no_resolutions] using hrest,
    .append h.within.no_resolutions (.of_no_calls hc),
    fun c hmem => ⟨sp, h.calls c (by simpa [hc] using hmem)⟩⟩

theorem handles_unfinished {out : Option Bool} (h : Forward cfg sp item.res t out) :
    Handles item t := by
  have hend : Handles item (t ++ []) := handles_forward h (by simp) rfl
  rwa [List.append_nil] at hend

theorem handles_requeued {b : Bool} (h : Requeued cfg item.msg b t) :
    ((resolutions t).map Prod.fst).Sublist [item.msg] ∧ callsIn t = [] := by
  cases h <;> simp [callsIn]

theorem handles_rejected (h : Rejected cfg item.msg item.res t) :
    Handles item t := by
  cases h
  exact .of_no_calls (by simp) rfl

theorem handles_transitioned {out : Option Unit} (h : Transitioned cfg sp item t out) :
    Handles item t := by
  cases h with
  | denied h =>
    cases h
    exact .of_no_calls (by simp) rfl
  | elsewhere _ ht b hreads h =>
    refine .after ht.clear (.after_progress (.after (resolves_clear hreads) ?_))
    cases h with
    | storeError => exact .of_no_calls (by simp) rfl
    | unregistered h => exact .of_no_calls (handles_requeued h).1 (handles_requeued h).2
    | unavailable _ h => exact handles_rejected h
    | unhealthy _ h => exact .of_no_calls (handles_requeued h).1 (handles_requeued h).2
    | finished h => exact handles_forward h (by simp) rfl
    | deferred h hq => exact handles_forward h (handles_requeued hq).1 (handles_requeued hq).2
    | panicked h => exact handles_unfinished h
  | captured _ ht hreads h =>
    refine .after ht.clear (.after (resolves_clear hreads) ?_)
    cases h with
    | storeError => exact .of_no_calls (by simp) rfl
    | unregistered h => exact handles_rejected h
    | unavailable _ h => exact handles_rejected h
    | @forwarded _ _ _ _ _ done h =>
      refine .after_progress (handles_forward h ?_ ?_)
      · cases done <;> simp
      · cases done <;> rfl
    | panicked _ _ _ h =>
      exact .after_progress (handles_unfinished h)

theorem segments_call {f : ParsedMessage → Routine Unit} {items : List ParsedMessage}
    {segs : List (List RoutingEvent)} {out : Option Unit} (h : Segments f items segs out)
    (hf : ∀ item seg out, Exec (f item) seg out → Handles item seg)
    (hnodup : (items.map ParsedMessage.msg).Nodup) {before after : List RoutingEvent}
    (hsplit : segs.flatten = before ++ ⟨.sp c, x⟩ :: after) :
    ∃ item ∈ items, (∃ sp, c = spCallOf sp (forwardParams item.res)) ∧
      ∀ y ∈ resolutions before, y.1 ≠ item.msg := by
  have own : ∀ {item : ParsedMessage} {seg before after : List RoutingEvent} {out : Option Unit},
      Exec (f item) seg out → seg = before ++ ⟨.sp c, x⟩ :: after →
      (∃ sp, c = spCallOf sp (forwardParams item.res)) ∧
        ∀ y ∈ resolutions before, y.1 ≠ item.msg := by
    intro item seg before after out he heq
    subst heq
    have hitem := hf item _ _ he
    refine ⟨hitem.calls (c, x) (by simp), ?_⟩
    rw [hitem.callsFirst.before]
    exact List.forall_mem_nil _
  induction h generalizing before with
  | nil => simp at hsplit
  | @cons item items seg segs out he hs ih =>
    obtain ⟨hhead, htail⟩ := List.nodup_cons.mp hnodup
    have later : ∀ more, before = seg ++ more → segs.flatten = more ++ ⟨.sp c, x⟩ :: after →
        ∃ item' ∈ item :: items, (∃ sp, c = spCallOf sp (forwardParams item'.res)) ∧
          ∀ y ∈ resolutions before, y.1 ≠ item'.msg := by
      intro more hmore hrest
      obtain ⟨item', hitem', hcall, hbefore⟩ := ih htail hrest
      refine ⟨item', List.mem_cons_of_mem _ hitem', hcall, fun y hy hym => ?_⟩
      rw [hmore, resolutions_append] at hy
      rcases List.mem_append.mp hy with hy | hy
      · have hown := (hf item seg _ he).resolves.subset (List.mem_map_of_mem hy)
        rw [List.mem_singleton, hym] at hown
        exact hhead (hown ▸ List.mem_map_of_mem hitem')
      · exact hbefore y hy hym
    rw [List.flatten_cons] at hsplit
    rcases List.append_eq_append_iff.mp hsplit with ⟨more, hmore, hrest⟩ | ⟨more, hseg, hrest⟩
    · exact later more hmore hrest
    · cases more with
      | nil => exact later [] (by simpa using hseg.symm) hrest.symm
      | cons e more =>
        obtain ⟨rfl, -⟩ := List.cons.inj hrest
        obtain ⟨hcall, hbefore⟩ := own he hseg
        exact ⟨item, List.mem_cons_self, hcall, hbefore⟩
  | @stop item items seg he =>
    obtain ⟨hcall, hbefore⟩ := own he (by simpa using hsplit)
    exact ⟨item, List.mem_cons_self, hcall, hbefore⟩

theorem transition_call {providerID : String} {toStatus : ProviderStatus}
    {after : List RoutingEvent} {r : Option (Option ProcessorErr)}
    (he : Exec (processOnTransition cfg providerID toStatus) (t ++ ⟨.sp c, x⟩ :: after) r) :
    ∃ before e f rest sp, ∃ item : ParsedMessage, t = before ++ e :: rest ∧
      delivered cfg.topics e = some f ∧ item.msg ∈ f.msgs ∧
      (∀ y ∈ resolutions rest, y.1 ≠ item.msg) ∧ parseCE cfg item.msg.data = some item.res ∧
      c = spCallOf sp (forwardParams item.res) := by
  generalize hall : t ++ ⟨.sp c, x⟩ :: after = all at he
  have hmem : (⟨.sp c, x⟩ : RoutingEvent) ∈ all :=
    hall ▸ List.mem_append_right _ List.mem_cons_self
  cases (processOnTransition_yields providerID toStatus).exec he with
  | skipped => cases hmem
  | storeError | missing => simp at hmem
  | unfetched => simp at hmem
  | @handled sp fetched hfetched order pairs segs out hb =>
    match t, hall with
    | [], hall => simp at hall
    | [_], hall => simp at hall
    | g :: e :: rest, hall =>
      obtain ⟨-, htail⟩ := List.cons.inj hall
      obtain ⟨rfl, hloop⟩ := List.cons.inj htail
      -- nothing is called before the loop
      obtain ⟨later, rfl, hsegs⟩ : ∃ later, rest = pairs ++ later ∧
          segs.flatten = later ++ ⟨.sp c, x⟩ :: after := by
        rcases List.append_eq_append_iff.mp hloop with ⟨more, hmore, hrest⟩ | ⟨later, hpairs, hsegs⟩
        · cases more with
          | nil => exact ⟨[], by simpa using hmore.symm, hrest.symm⟩
          | cons e more =>
            obtain ⟨rfl, -⟩ := List.cons.inj hrest
            have hcalls := hb.resolved.calls
            simp [hmore] at hcalls
        · exact ⟨later, hpairs, hsegs⟩
      have hmsgs := batch_nodup (fetch_nodup fetched) hb.perm
      rw [← List.append_assoc] at hmsgs
      obtain ⟨-, hsurvivors, hapart⟩ := List.nodup_append.mp hmsgs
      obtain ⟨item, hitem, ⟨sp', hcall⟩, hlater⟩ := segments_call hb.segments
        (fun item seg out hseg => handles_transitioned ((transitionItem_yields sp item).exec hseg))
        hsurvivors hsegs
      have hparsed := mem_parsed.mp (List.mem_filter.mp hitem).1
      refine ⟨[g], _, fetched, pairs ++ later, sp', item, rfl, by simp [delivered], hparsed.1, ?_,
        hparsed.2, hcall⟩
      intro y hy hym
      rw [resolutions_append] at hy
      rcases List.mem_append.mp hy with hy | hy
      · refine hapart y.1 ?_ _ (List.mem_map_of_mem hitem) hym
        rw [hb.resolved.resolutions] at hy
        have hfst := List.mem_map_of_mem (f := Prod.fst) hy
        simpa [List.map_flatMap, Function.comp_def] using hfst
      · exact hlater y hy hym

end Transition

variable {e : RoutingEvent} {i : ℕ} {data : Bytes}

section Steps

variable {a : Wiring} {resourceID createID : String} {s u v : Agent} {l : List Action}

theorem creates_of_request {isCreate : Bool} {payload : InboundPayload}
    (hparse : parseRequestCE a.router data = some (isCreate, payload))
    (h : createCall (.turn i ⟨.sp (spCallOf sp (requestParams isCreate payload)), x⟩) =
      some (resourceID, createID)) : Creates a resourceID createID data := by
  cases isCreate with
  | true =>
    cases h
    exact .inl ⟨_, hparse, rfl, rfl, rfl⟩
  | false => cases h

theorem creates_of_retry {res : CEResult} (hparse : parseCE a.processor data = some res)
    (h : createCall (.turn i ⟨.sp (spCallOf sp (forwardParams res)), x⟩) =
      some (resourceID, createID)) : Creates a resourceID createID data := by
  cases hcreate : (forwardParams res).isCreate with
  | true =>
    rw [spCallOf, hcreate] at h
    cases h
    exact .inr ⟨res, hparse, of_decide_eq_true hcreate, rfl, rfl⟩
  | false =>
    rw [spCallOf, hcreate] at h
    cases h

theorem Gone.start (h : Gone a resourceID createID u) (hlength : u.threads.length = u.calls.length)
    {call : Invocation}
    (hcall : ∀ m, call = .mainMessage m → ¬ Creates a resourceID createID m.data) :
    Gone a resourceID createID (u.start a call) := by
  refine ⟨h.waiting, h.inHand, fun i m p hi hm hp => ?_⟩
  by_cases hold : i < u.calls.length
  · refine h.handled i m p ?_ hm ?_
    · rwa [Agent.start, List.getElem?_append_left hold] at hi
    · rwa [Agent.start, List.getElem?_append_left (hlength ▸ hold)] at hp
  · rw [Agent.start, List.getElem?_append_right (Nat.le_of_not_lt hold)] at hi
    obtain rfl := List.mem_singleton.mp (List.mem_of_getElem? hi)
    exact absurd hm (hcall m rfl)

theorem turn_unended (h : Step a u (.turn i e) v) :
    ∃ p, u.threads[i]? = some p ∧ ¬ Ended p := by
  cases h with
  | turn hturn =>
    cases hturn with
    | mk hi _ => exact ⟨_, hi, id⟩

theorem turn_exec (hs : Idle s) (hrun : Run (Step a) s l u) (h : Step a u (.turn i e) v) :
    ∃ call t r, u.calls[i]? = some call ∧ IsStarted call ∧
      Exec (a.routine call) (eventsAt i l ++ e :: t) r := by
  have hnext := hrun.snoc h
  obtain ⟨call, hcall⟩ := started_of_event (e := e) hs.threads_eq hnext (i := i) (by simp)
  obtain ⟨t, r, hexec⟩ := run_begins hs.threads_eq hnext hcall
  have hkind := run_calls (hs.calls ▸ List.forall_mem_nil _) hnext call (List.mem_of_getElem? hcall)
  have hsame : v.calls = u.calls := by
    cases h with
    | turn => rfl
  exact ⟨call, t, r, hsame ▸ hcall, hkind, by simpa using hexec⟩

theorem Gone.handler (h : Gone a resourceID createID u) (hstep : Step a u (.turn i e) v) {m : Msg}
    (hi : u.calls[i]? = some (.mainMessage m)) :
    ¬ Creates a resourceID createID m.data := by
  intro hm
  obtain ⟨p, hp, hended⟩ := turn_unended hstep
  exact hended (h.handled i m p hi hm hp)

theorem Gone.unstored (h : Gone a resourceID createID u) (hs : Idle s) (hrun : Run (Step a) s l u)
    (hstep : Step a u (.turn i e) v) (hdata : stored a.processor.topics e = some data) :
    ¬ Creates a resourceID createID data := by
  obtain ⟨call, t, r, hi, hkind, hexec⟩ := turn_exec hs hrun hstep
  have hmem : e ∈ eventsAt i l ++ e :: t := List.mem_append_right _ List.mem_cons_self
  obtain ⟨o, x⟩ := e
  cases o with
  | publish subject msg =>
    obtain ⟨-, rfl⟩ : _ ∧ msg = data := by simpa [stored] using hdata
    cases call with
    | mainMessage m =>
      have hown : msg = m.data := (handleMainMessage_within a.router a.client m).exec hexec _ hmem
      exact hown ▸ h.handler hstep hi
    | transition providerID toStatus =>
      obtain ⟨out, hexec⟩ := transition_exec hexec
      exact ((processOnTransition_within a.processor providerID toStatus).exec hexec _ hmem).elim
    | _ => exact hkind.elim
  | _ => cases hdata

theorem Gone.uncalled (h : Gone a resourceID createID u) (hs : Idle s) (hrun : Run (Step a) s l u)
    (hstep : Step a u (.turn i e) v) :
    createCall (.turn i e) ≠ some (resourceID, createID) := by
  intro hcreate
  obtain ⟨call, t, r, hi, hkind, hexec⟩ := turn_exec hs hrun hstep
  have hmem : e ∈ eventsAt i l ++ e :: t := List.mem_append_right _ List.mem_cons_self
  obtain ⟨o, x⟩ := e
  cases o with
  | sp c =>
    cases call with
    | mainMessage m =>
      obtain ⟨isCreate, payload, sp, hparse, rfl⟩ :=
        (handleMainMessage_within a.router a.client m).exec hexec _ hmem
      exact h.handler hstep hi (creates_of_request hparse hcreate)
    | transition providerID toStatus =>
      obtain ⟨out, hexec⟩ := transition_exec hexec
      obtain ⟨before, e, f, rest, sp, item, hevents, hdel, hm, hrest, hparse, rfl⟩ :=
        transition_call hexec
      have hhand := (run_inHand hs.inHand hrun i item.msg).mpr
        ⟨before, e, f, rest, hevents, hdel, hm, hrest⟩
      exact h.inHand _ hhand (creates_of_retry hparse hcreate)
    | _ => exact hkind.elim
  | _ => cases hcreate

theorem delivered_mem (h : Step a u (.turn i e) v) {f : FetchResult}
    (hdel : delivered a.processor.topics e = some f) : f.msgs ⊆ u.topic.msgs := by
  obtain ⟨o, x⟩ := e
  cases o with
  | fetchAll stream consumer =>
    obtain ⟨hnames, rfl⟩ : _ ∧ x = f := by simpa [delivered] using hdel
    cases h with
    | turn hturn =>
      cases hturn with
      | mk _ ha =>
        intro m hm
        have hanswer := (act_outside (o := .fetchAll stream consumer) trivial ha).1 m hm
        rwa [if_pos hnames] at hanswer
  | _ => cases hdel

theorem Gone.step (h : Gone a resourceID createID u) (hs : Idle s) (hrun : Run (Step a) s l u)
    {e : Action} (hstep : Step a u e v)
    (hdeliver : ∀ m ∈ delivery e, ¬ Creates a resourceID createID m.data) :
    Gone a resourceID createID v := by
  have hlength := run_length hs.threads_eq hrun
  cases hstep with
  | @deliver m hseq =>
    refine h.start hlength fun m' hm' => ?_
    obtain rfl := Invocation.mainMessage.inj hm'
    exact hdeliver m rfl
  | @callback c hc =>
    exact Gone.start (u := { u with callbacks := u.callbacks.erase c })
      ⟨h.waiting, h.inHand, h.handled⟩ hlength nofun
  | register | check => exact ⟨h.waiting, h.inHand, h.handled⟩
  | @turn i e threads shared hturn =>
    have hstep : Step a u (.turn i e)
      { u with threads, shared, topic := u.topic.after a.processor.topics i e } := .turn hturn
    have hhandled : ∀ (j : ℕ) (m : Msg) p, u.calls[j]? = some (.mainMessage m) →
        Creates a resourceID createID m.data → threads[j]? = some p → Ended p := by
      intro j m p hj hm hp
      by_cases hij : j = i
      · subst hij
        exact absurd hm (h.handler hstep hj)
      · cases hturn with
        | mk _ _ =>
          refine h.handled j m p hj hm ?_
          simpa [sharedSemantics, List.getElem?_set_ne (Ne.symm hij)] using hp
    have heffect := effect_after u.topic a.processor.topics i e
    have hnew : ∀ data, stored a.processor.topics e = some data →
        ¬ Creates a resourceID createID data := fun _ => h.unstored hs hrun hstep
    have hfetched : ∀ f, delivered a.processor.topics e = some f → f.msgs ⊆ u.topic.msgs :=
      fun _ => delivered_mem hstep
    generalize u.topic.after a.processor.topics i e = topic at heffect
    refine ⟨?_, ?_, hhandled⟩
    · cases heffect with
      | published data hdata =>
        refine List.forall_mem_append.mpr ⟨h.waiting, ?_⟩
        exact List.forall_mem_singleton.mpr (hnew data hdata)
      | removed => exact fun m hm => h.waiting m (List.mem_filter.mp hm).1
      | fetched | returned | none => exact h.waiting
    · cases heffect with
      | fetched f hf =>
        refine List.forall_mem_append.mpr ⟨h.inHand, fun x hx => ?_⟩
        obtain ⟨m, hm, rfl⟩ := List.mem_map.mp hx
        exact h.waiting m (hfetched f hf hm)
      | removed | returned => exact fun x hx => h.inHand x (List.mem_filter.mp hx).1
      | published | none => exact h.inHand

theorem run_inOrder {deleteID : String} (hs : Idle s)
    (h : Run (Guarded (Step a) (Unqueued a resourceID createID deleteID)) s l u)
    (hfirst : DeliveredFirst a resourceID createID deleteID l) :
    InOrder resourceID createID deleteID l ∧
      ((∃ x ∈ l, deleteCall x = some (resourceID, deleteID)) → Gone a resourceID createID u) := by
  induction h with
  | nil => exact ⟨.nil, fun hx => absurd hx.choose_spec.1 List.not_mem_nil⟩
  | @snoc l u v e hrun hstep ih =>
    obtain ⟨hguard, hstep⟩ := hstep
    obtain ⟨hbefore, -, hlast⟩ := List.pairwise_append.mp hfirst
    obtain ⟨horder, hgone⟩ := ih hbefore
    constructor
    · refine List.pairwise_append.mpr ⟨horder, List.pairwise_singleton _ _, fun x hx y hy hd => ?_⟩
      obtain rfl := List.mem_singleton.mp hy
      cases hstep with
      | turn hturn => exact (hgone ⟨x, hx, hd⟩).uncalled hs hrun.of_guarded (.turn hturn)
      | deliver | register | check | callback => simp [createCall]
    · intro hx
      obtain ⟨x, hx, hd⟩ := hx
      rcases List.mem_append.mp hx with hx | hx
      · exact (hgone ⟨x, hx, hd⟩).step hs hrun.of_guarded hstep
          (hlast x hx e (List.mem_singleton_self e) hd)
      · obtain rfl := List.mem_singleton.mp hx
        refine (hguard hd).step hs hrun.of_guarded hstep fun m hm => ?_
        cases x <;> cases hm
        cases hd

end Steps

/-- Where the delete is called only when nothing is left of the create, no call of the create
comes after it. -/
theorem creates_precede_delete (a : Wiring) {resourceID createID deleteID : String} {s u : Agent}
    {l : List Action} (hs : Idle s)
    (hrun : Run (Guarded (Step a) (Unqueued a resourceID createID deleteID)) s l u)
    (hfirst : DeliveredFirst a resourceID createID deleteID l) :
    InOrder resourceID createID deleteID l :=
  (run_inOrder hs hrun hfirst).1

def queuedMoves : List Move :=
  [.deliver vmCreate] ++ List.replicate 8 (.go 0) ++ [.check "p1" .healthy]

def orderedPlay : List Action × Agent :=
  (vmAgent .unhealthy (.empty 10)).play vmWiring (Unqueued vmWiring "r" "e1" "e2")
    (queuedMoves ++ [.callback] ++ List.replicate 16 (.go 1) ++ [.deliver vmDelete] ++
      List.replicate 10 (.go 2))

theorem creates_precede_delete_vm :
    orderedPlay.1.filterMap createCall = [("r", "e1")] ∧
    orderedPlay.1.filterMap deleteCall = [("r", "e2")] ∧ InOrder "r" "e1" "e2" orderedPlay.1 :=
  ⟨by decide +kernel, by decide +kernel, creates_precede_delete vmWiring
    (vmAgent_idle .unhealthy _ rfl) (run_play vmWiring _ _ _) (by decide +kernel)⟩

def queuedPlay : List Action × Agent :=
  (vmAgent .unhealthy (.empty 10)).play vmWiring (fun _ _ => True) queuedMoves

def overtakenPlay : List Action × Agent :=
  queuedPlay.2.play vmWiring (fun _ _ => True)
    ([.deliver vmDelete] ++ List.replicate 10 (.go 1) ++ [.callback] ++ List.replicate 16 (.go 2))

theorem vm_create_overtaken :
    Idle (vmAgent .unhealthy (.empty 10)) ∧
    Run (Step vmWiring) (vmAgent .unhealthy (.empty 10)) queuedPlay.1 queuedPlay.2 ∧
    resolutions (eventsAt 0 queuedPlay.1) = [(vmCreate, .ack)] ∧
    Run (Step vmWiring) queuedPlay.2 overtakenPlay.1 overtakenPlay.2 ∧
    overtakenPlay.1.filterMap delivery = [vmDelete] ∧
    (callsIn ((turns overtakenPlay.1).map Prod.snd)).map Prod.snd = [.ok, .ok] ∧
    Quiescent overtakenPlay.2 ∧
    ¬ InOrder "r" "e1" "e2" (queuedPlay.1 ++ overtakenPlay.1) :=
  ⟨vmAgent_idle .unhealthy _ rfl, (run_play vmWiring _ _ _).of_guarded, by decide +kernel,
    (run_play vmWiring _ _ _).of_guarded, by decide +kernel, by decide +kernel,
    by decide +kernel, by decide +kernel⟩

end OperationOrder
