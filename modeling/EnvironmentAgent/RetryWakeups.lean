import EnvironmentAgent.AgentRuntime
import EnvironmentAgent.RetryResolution
import EnvironmentAgent.RoutineOperations

/-! # Who wakes up a queued request

Nothing polls the retry topic: it is fetched by the goroutine that the change of a provider's health
starts. -/
namespace RetryWakeups

open AtomicPrograms LabelledRuns RoutingCloudEvent RoutingEffects RoutingTraces RetryProcessor
open AgentRuntime AgentRuntime.RetryTopic RetryBatches RetryForwarding RetryResolution
open RoutineOperations
open InFlightExclusion (Wiring)
open HealthMonitor (StateMachine HealthCheckResult Transition)
open ProviderState (Time)
open RoutingForwarder (spCallOf)

def Requests (a : Wiring) (serviceType : String) (data : Bytes) : Prop :=
  ∃ res ∈ parseCE a.processor data, res.serviceType = serviceType ∧
    (res.ceType = typeRequestCreate ∨ res.ceType = typeRequestDelete)

instance (a : Wiring) (serviceType : String) (data : Bytes) :
    Decidable (Requests a serviceType data) :=
  inferInstanceAs (Decidable (∃ res ∈ parseCE a.processor data, _))

/-- The provider's requests go to the retry topic, or back to it, only while it is not ready. -/
def Timely (a : Wiring) (serviceType id : String) (u : Agent) : Action → Prop
  | .turn _ e =>
    (∀ data ∈ stored a.processor.topics e, Requests a serviceType data →
      u.status id ≠ some .ready) ∧
    ∀ m ∈ returned e, m ∈ u.topic.msgs → Requests a serviceType m.data →
      u.status id ≠ some .ready
  | _ => True

def Succeeds : RoutingEvent → Prop
  | ⟨.getByID _, x⟩ => x.isOk = true
  | ⟨.sp _, x⟩ => x ≠ .panicked
  | ⟨.fetchAll _ _, fetched⟩ => fetched.failed = false
  | _ => True

/-- The store and the streams serve the goroutines: a fetch of the retry topic returns every
message that nobody else has. -/
def Served (a : Wiring) (u : Agent) : Action → Prop
  | .turn _ e => Succeeds e ∧ ∀ f ∈ delivered a.processor.topics e,
    ∀ m ∈ u.topic.msgs, u.topic.Waiting m → m ∈ f.msgs
  | _ => True

instance (a : Wiring) (serviceType id : String) (u : Agent) :
    (e : Action) → Decidable (Timely a serviceType id u e)
  | .turn _ e => inferInstanceAs (Decidable ((∀ data ∈ stored a.processor.topics e, _) ∧
      ∀ m ∈ returned e, _))
  | .deliver _ | .register _ | .check _ _ _ | .callback _ _ => isTrue trivial

instance (e : RoutingEvent) : Decidable (Succeeds e) := by
  obtain ⟨o, x⟩ := e
  cases o <;> unfold Succeeds <;> infer_instance

instance (a : Wiring) (u : Agent) : (e : Action) → Decidable (Served a u e)
  | .turn _ e => inferInstanceAs (Decidable (Succeeds e ∧
      ∀ f ∈ delivered a.processor.topics e, ∀ m ∈ u.topic.msgs, u.topic.Waiting m → m ∈ f.msgs))
  | .deliver _ | .register _ | .check _ _ _ | .callback _ _ => isTrue trivial

def Pending (a : Wiring) (id : String) (l : List Action) (u : Agent) : Prop :=
  (∃ t, (id, t) ∈ u.callbacks ∧ t.2 = .ready) ∨
    ∃ i, u.calls[i]? = some (.transition id .ready) ∧
      ∀ e ∈ eventsAt i l, delivered a.processor.topics e = none

def Woken (a : Wiring) (serviceType id : String) (l : List Action) (u : Agent) : Prop :=
  ∀ m, u.topic.Waiting m → Requests a serviceType m.data → u.status id = some .ready →
    Pending a id l u

section Steps

variable {a : Wiring} {serviceType id : String} {s u v : Agent} {l : List Action} {e : Action}

theorem Pending.silent (h : Pending a id l u) (hstep : Step a u e v) (he : turns [e] = [])
    (hcallbacks : u.callbacks ⊆ v.callbacks) : Pending a id (l ++ [e]) v := by
  rcases h with ⟨t, ht, hready⟩ | ⟨i, hi, hnone⟩
  · exact .inl ⟨t, hcallbacks ht, hready⟩
  · refine .inr ⟨i, step_call hstep hi, ?_⟩
    rw [eventsAt_silent i l he]
    exact hnone

theorem Pending.turn {j : ℕ} {e : RoutingEvent} (h : Pending a id l u)
    (hstep : Step a u (.turn j e) v) (hcallbacks : v.callbacks = u.callbacks)
    (hdel : delivered a.processor.topics e = none) : Pending a id (l ++ [.turn j e]) v := by
  rcases h with ⟨t, ht, hready⟩ | ⟨i, hi, hnone⟩
  · exact .inl ⟨t, hcallbacks ▸ ht, hready⟩
  · refine .inr ⟨i, step_call hstep hi, ?_⟩
    by_cases hij : i = j
    · subst hij
      intro e' he'
      rw [eventsAt_own] at he'
      rcases List.mem_append.mp he' with he' | he'
      · exact hnone e' he'
      · exact List.mem_singleton.mp he' ▸ hdel
    · rw [eventsAt_other (Ne.symm hij)]
      exact hnone

theorem woken_turn {i : ℕ} {e : RoutingEvent} (h : Woken a serviceType id l u)
    (hstep : Step a u (.turn i e) v) (htimely : Timely a serviceType id u (.turn i e))
    (hserved : Served a u (.turn i e)) : Woken a serviceType id (l ++ [.turn i e]) v := by
  cases hstep with
  | @turn _ _ threads shared hturn =>
    have hstep' : Step a u (.turn i e)
        { u with threads, shared, topic := u.topic.after a.processor.topics i e } := .turn hturn
    have heffect := effect_after u.topic a.processor.topics i e
    generalize u.topic.after a.processor.topics i e = topic at heffect hstep'
    have pending : delivered a.processor.topics e = none → ∀ m, u.topic.Waiting m →
        Requests a serviceType m.data → u.status id = some .ready →
        Pending a id (l ++ [.turn i e]) { u with threads, shared, topic } :=
      fun hdel m hm hreq hready => (h m hm hreq hready).turn hstep' rfl hdel
    intro m hm hreq hready
    cases heffect with
    | published data hstored hres hdel =>
      rcases List.mem_append.mp hm.1 with hold | hnew
      · exact pending hdel m ⟨hold, hm.2⟩ hreq hready
      · obtain rfl := List.mem_singleton.mp hnew
        exact absurd hready (htimely.1 data hstored hreq)
    | fetched f hdel hres =>
      have hold : u.topic.Waiting m := ⟨hm.1, fun x hx => hm.2 x (List.mem_append_left _ hx)⟩
      have hf := hserved.2 f hdel m hm.1 hold
      exact absurd rfl (hm.2 (i, m) (List.mem_append_right _ (List.mem_map_of_mem hf)))
    | @removed m₀ k hres hdel =>
      obtain ⟨hmem, hseq⟩ := List.mem_filter.mp hm.1
      have hne : m ≠ m₀ := fun heq => of_decide_eq_true hseq (congrArg Msg.seq heq)
      exact pending hdel m (Waiting.of_settle ⟨hmem, hm.2⟩ hne) hreq hready
    | @returned m₀ k hret hres hdel =>
      by_cases hne : m = m₀
      · subst hne
        exact absurd hready (htimely.2 m hret hm.1 hreq)
      · exact pending hdel m (Waiting.of_settle hm hne) hreq hready
    | none hres hdel => exact pending hdel m hm hreq hready

theorem woken_check {id' : String} {sm : StateMachine} {result : HealthCheckResult} {now : Time}
    (h : Woken a serviceType id l u) (hid : u.providers.monitored id' ≠ none)
    (hstate : u.status id' = some sm.state) :
    Woken a serviceType id (l ++ [.check id' result (sm.transition result)])
      (u.record id' (sm.transition result) now) := by
  have hstep : Step a u _ (u.record id' (sm.transition result) now) := .check result now hid hstate
  have hgrows : u.callbacks ⊆ (u.record id' (sm.transition result) now).callbacks := by
    unfold Agent.record
    split
    · exact List.Subset.refl _
    · exact List.subset_append_left _ _
  intro m hm hreq hready
  by_cases hbefore : u.status id = some .ready
  · exact (h m hm hreq hbefore).silent hstep rfl hgrows
  · rcases Agent.status_record u id' id (sm.transition result) now with hsame | ⟨rfl, hnew⟩
    · exact absurd (hsame ▸ hready) hbefore
    · have hto : (sm.transition result).2 = .ready := Option.some.inj (hnew ▸ hready)
      have hchanged : (sm.transition result).1 ≠ (sm.transition result).2 := fun heq =>
        hbefore (hstate.trans (congrArg some (heq.trans hto)))
      refine .inl ⟨sm.transition result, ?_, hto⟩
      rw [Agent.record, if_neg hchanged]
      exact List.mem_append_right _ (List.mem_singleton_self _)

theorem woken_callback {c : String × Transition} (hs : s.threads = s.calls.map a.routine)
    (hrun : Run (Step a) s l u) (h : Woken a serviceType id l u) (hc : c ∈ u.callbacks) :
    Woken a serviceType id (l ++ [.callback c.1 c.2])
      (Agent.start a { u with callbacks := u.callbacks.erase c } (.transition c.1 c.2.2)) := by
  have hstep : Step a u _ _ := .callback hc
  intro m hm hreq hready
  rcases h m hm hreq hready with ⟨t, ht, hto⟩ | ⟨i, hi, hnone⟩
  · by_cases heq : (id, t) = c
    · -- the goroutine that is started now has done nothing yet
      subst heq
      refine .inr ⟨u.calls.length, ?_, ?_⟩
      · simp [Agent.start, hto]
      · rw [eventsAt_silent _ l rfl, eventsAt_unstarted hs hrun (Nat.le_refl _)]
        exact List.forall_mem_nil _
    · exact .inl ⟨t, (List.mem_erase_of_ne heq).mpr ht, hto⟩
  · refine .inr ⟨i, step_call hstep hi, ?_⟩
    rw [eventsAt_silent i l rfl]
    exact hnone

theorem woken_deliver {m : Msg} (h : Woken a serviceType id l u) (hm : m.seq < u.topic.base) :
    Woken a serviceType id (l ++ [.deliver m]) (u.start a (.mainMessage m)) :=
  fun m' hm' hreq hready =>
    (h m' hm' hreq hready).silent (.deliver hm) rfl (List.Subset.refl _)

end Steps

variable {r : Option (Option ProcessorErr)} {providerID : String} {toStatus : ProviderStatus}

section Executions

variable {cfg : ProcessorConfig} {t : List RoutingEvent}

theorem delivered_of_batchOp {names : MessagingTopics.TopicNames} {e : RoutingEvent}
    (h : BatchOp e.1) : delivered names e = none := by
  obtain ⟨o, x⟩ := e
  cases o <;> first | exact h.elim | rfl

theorem not_panicked (hok : ∀ e ∈ t, Succeeds e) (c : SPCall) : (c, .panicked) ∉ callsIn t := by
  intro hc
  obtain ⟨⟨o, x⟩, he, hsome⟩ := List.mem_filterMap.mp hc
  cases o <;> cases hsome
  exact hok _ he rfl

theorem transitioned_panicked {sp : StoredProvider} {item : ParsedMessage}
    (h : Transitioned cfg sp item t none) : ∃ c, (c, .panicked) ∈ callsIn t := by
  cases h with
  | elsewhere _ _ _ _ hrouted =>
    cases hrouted with
    | @panicked sp _ hf =>
      have hc : (spCallOf sp (forwardParams item.res), SPResult.panicked) ∈ callsIn _ := hf.outcome
      exact ⟨spCallOf sp (forwardParams item.res), by simp [hc]⟩
  | captured _ _ _ hcaptured =>
    cases hcaptured with
    | panicked _ _ _ hf =>
      have hc : (spCallOf sp (forwardParams item.res), SPResult.panicked) ∈ callsIn _ := hf.outcome
      exact ⟨spCallOf sp (forwardParams item.res), by simp [hc]⟩

theorem segments_panicked {β : Type} {f : β → Routine Unit} {xs : List β}
    {segs : List (List RoutingEvent)} (h : Segments f xs segs none)
    (hf : ∀ x seg, Exec (f x) seg none → ∃ c, (c, .panicked) ∈ callsIn seg) :
    ∃ c, (c, .panicked) ∈ callsIn segs.flatten := by
  generalize hout : (none : Option Unit) = out at h
  induction h with
  | nil => cases hout
  | cons _ _ ih =>
    obtain ⟨c, hc⟩ := ih hout
    exact ⟨c, by simp [hc]⟩
  | stop he => simpa using hf _ _ he

theorem transition_tail {g e : RoutingEvent}
    (he : Exec (processOnTransition cfg providerID toStatus) (g :: e :: t) r) :
    ∀ x ∈ t, BatchOp x.1 := by
  rw [processOnTransition_eq] at he
  split at he
  · cases he
  · obtain ⟨found, rest, hrest, he⟩ := exec_perform_bind.mp he
    obtain rfl := (List.cons.inj hrest).2
    match found with
    | .error _ => cases he
    | .ok none => cases he
    | .ok (some sp) =>
      obtain ⟨fetched, rest, hrest, he⟩ := exec_perform_bind.mp he
      obtain rfl := (List.cons.inj hrest).2
      refine Prog.Within.exec ?_ he
      split
      · trivial
      · exact (batch_within cfg (processTransitionItem_within cfg sp) _).bind fun _ => trivial

theorem transition_resolves {m : Msg} {before rest : List RoutingEvent} {e : RoutingEvent}
    {f : FetchResult}
    (he : Exec (processOnTransition cfg providerID toStatus) (before ++ e :: rest) r)
    (hok : ∀ x ∈ before ++ e :: rest, Succeeds x) (hdel : delivered cfg.topics e = some f)
    (hm : m ∈ f.msgs) : ∃ x ∈ resolutions rest, x.1 = m := by
  have htail := fun g e' t' (ht : before ++ e :: rest = g :: e' :: t') =>
    transition_tail (ht ▸ he)
  generalize hall : before ++ e :: rest = all at he
  have hmem : e ∈ all := hall ▸ List.mem_append_right _ List.mem_cons_self
  have hget : ∀ id x, e ≠ ⟨.getByID id, x⟩ := by
    intro id x heq
    rw [heq] at hdel
    cases hdel
  cases (processOnTransition_yields providerID toStatus).exec he with
  | skipped => cases hmem
  | storeError _ => exact absurd (List.mem_singleton.mp hmem) (hget _ _)
  | missing => exact absurd (List.mem_singleton.mp hmem) (hget _ _)
  | unfetched _ fetched hfailed =>
    have hfetch := hok _ (hall ▸ List.mem_cons_of_mem _ List.mem_cons_self)
    exact absurd (hfetch.symm.trans hfailed) Bool.false_ne_true
  | @handled sp fetched hfetched order pairs segs out hb =>
    have hpos : before = [⟨.getByID providerID, .ok (some sp)⟩] := by
      match before, hall with
      | [], hall => exact absurd (List.cons.inj hall).1 (hget _ _)
      | [g], hall => rw [(List.cons.inj hall).1]
      | g :: g' :: later, hall =>
        have hlater : e ∈ later ++ e :: rest := List.mem_append_right _ List.mem_cons_self
        rw [delivered_of_batchOp (htail g g' _ rfl e hlater)] at hdel
        cases hdel
    subst hpos
    obtain ⟨-, hall⟩ := List.cons.inj hall
    obtain ⟨rfl, rfl⟩ := List.cons.inj hall
    obtain rfl : fetched = f := by simpa [delivered] using hdel
    cases out with
    | none =>
      obtain ⟨c, hc⟩ := segments_panicked hb.segments fun item seg hseg =>
        transitioned_panicked ((transitionItem_yields sp item).exec hseg)
      exact absurd (by simp [hc]) (not_panicked hok c)
    | some _ =>
      have honce := batch_resolvedOnce (fetch_nodup fetched) hb fun item seg hseg =>
        transitioned_outcome ((transitionItem_yields sp item).exec hseg)
      exact honce.resolved hm

theorem transition_fetches (he : Exec (processOnTransition cfg providerID .ready) t r)
    (hfound : ∀ x, (⟨.getByID providerID, x⟩ : RoutingEvent) ∈ t → ∃ sp, x = .ok (some sp)) :
    ∃ e ∈ t, delivered cfg.topics e ≠ none := by
  cases (processOnTransition_yields providerID .ready).exec he with
  | skipped h => exact absurd rfl h.1
  | storeError e =>
    obtain ⟨sp, hsp⟩ := hfound _ List.mem_cons_self
    cases hsp
  | missing =>
    obtain ⟨sp, hsp⟩ := hfound _ List.mem_cons_self
    cases hsp
  | unfetched sp fetched =>
    exact ⟨_, List.mem_cons_of_mem _ List.mem_cons_self, by simp [delivered]⟩
  | handled sp =>
    exact ⟨_, List.mem_cons_of_mem _ List.mem_cons_self, by simp [delivered]⟩

end Executions

structure Serves (s : Agent) (serviceType : String) (p : ProviderState.StoredProvider) : Prop where
  slot : s.providers.slots serviceType = some p.name
  record : s.providers.records.getByName p.name = some p

section Runs

variable {a : Wiring} {serviceType id : String} {s u : Agent} {l : List Action}

theorem run_woken (hs : Idle s)
    (hstart : ∀ m ∈ s.topic.msgs, Requests a serviceType m.data → s.status id ≠ some .ready)
    (h : Run (Guarded (Step a) fun u e => Timely a serviceType id u e ∧ Served a u e) s l u) :
    Woken a serviceType id l u := by
  induction h with
  | nil => exact fun m hm hreq hready => absurd hready (hstart m hm.1 hreq)
  | @snoc l u v e hrun hstep ih =>
    obtain ⟨⟨htimely, hserved⟩, hstep⟩ := hstep
    cases hstep with
    | deliver hm => exact woken_deliver ih hm
    | turn hturn => exact woken_turn ih (.turn hturn) htimely hserved
    | check result now hid hstate => exact woken_check ih hid hstate
    | callback hc => exact woken_callback hs.threads_eq hrun.of_guarded ih hc
    | register hcall =>
      have hended := (run_registry hs.main hrun.of_guarded).1
      rw [hcall] at hended
      exact hended.elim

theorem owed_absurd (hs : Idle s) (hrun : Run (Step a) s l u) (hq : Quiescent u)
    (hok : ∀ i, ∀ e ∈ eventsAt i l, Succeeds e) {i : ℕ} {m : Msg} (h : Owes a i m l) : False := by
  obtain ⟨before, e, f, rest, hevents, hdel, hm, hrest⟩ := h
  have he : e ∈ eventsAt i l := hevents ▸ List.mem_append_right _ List.mem_cons_self
  obtain ⟨call, hcall⟩ := started_of_event hs.threads_eq hrun he
  obtain ⟨r, hexec⟩ := quiescent_exec hs.threads_eq hrun hq hcall
  have hkind := run_calls (hs.calls ▸ List.forall_mem_nil _) hrun call (List.mem_of_getElem? hcall)
  cases call with
  | mainMessage msg =>
    have hop := (handleMainMessage_within a.router a.client msg).exec hexec e he
    obtain ⟨o, x⟩ := e
    cases o <;> first | exact hop.elim | cases hdel
  | transition providerID toStatus =>
    obtain ⟨out, hexec⟩ := transition_exec hexec
    obtain ⟨x, hx, hxm⟩ := transition_resolves (hevents ▸ hexec) (hevents ▸ hok i) hdel hm
    exact hrest x hx hxm
  | _ => exact hkind

theorem pending_absurd (hs : Idle s) (hrun : Run (Step a) s l u) (hq : Quiescent u)
    (hok : ∀ i, ∀ e ∈ eventsAt i l, Succeeds e)
    (hrecord : s.providers.records.getByID id ≠ none) (h : Pending a id l u) : False := by
  rcases h with ⟨t, ht, -⟩ | ⟨i, hi, hnone⟩
  · rw [hq.2.1] at ht
    cases ht
  · obtain ⟨r, hexec⟩ := quiescent_exec hs.threads_eq hrun hq hi
    have hfound : ∀ x, (⟨.getByID id, x⟩ : RoutingEvent) ∈ eventsAt i l →
        ∃ sp, x = .ok (some sp) := by
      intro x hx
      have hread := hok i _ hx
      match x with
      | .error _ => cases hread
      | .ok found =>
        obtain ⟨p, hp⟩ := Option.ne_none_iff_exists'.mp hrecord
        exact ⟨view p, by rw [run_getByID hs.main hrun hx, hp]; rfl⟩
    obtain ⟨out, hexec⟩ := transition_exec hexec
    obtain ⟨e, he, hdel⟩ := transition_fetches hexec hfound
    exact hdel (hnone e he)

end Runs

/-- Where requests go to the retry topic only while their provider is not ready, and the store
and the streams serve the goroutines, no request of a ready provider is left on the topic when
the agent comes to rest. -/
theorem queued_requests_woken (a : Wiring) {serviceType : String}
    {p : ProviderState.StoredProvider} {s u : Agent} {l : List Action} (hs : Idle s)
    (hserves : Serves s serviceType p)
    (hstart : ∀ m ∈ s.topic.msgs, Requests a serviceType m.data → s.status p.id ≠ some .ready)
    (hrun : Run (Guarded (Step a) fun u e => Timely a serviceType p.id u e ∧ Served a u e) s l u)
    (hq : Quiescent u) (hready : u.status p.id = some .ready) :
    ∀ m ∈ u.topic.msgs, ¬ Requests a serviceType m.data := by
  have hwoken := run_woken hs hstart hrun
  have hok : ∀ i, ∀ e ∈ eventsAt i l, Succeeds e := fun i e he =>
    hrun.events (P := fun | .turn _ e => Succeeds e | _ => True)
      (fun s e hguard => by cases e <;> first | trivial | exact hguard.2.1) _ (mem_eventsAt.mp he)
  have hrecord : s.providers.records.getByID p.id ≠ none := fun hnone =>
    ProviderState.getByID_none hnone (ProviderState.getByName_some hserves.record).1 rfl
  intro m hm hreq
  by_cases hhand : ∃ x ∈ u.topic.inHand, x.2 = m
  · obtain ⟨x, hx, -⟩ := hhand
    exact owed_absurd hs hrun.of_guarded hq hok ((run_inHand hs.inHand hrun.of_guarded _ _).mp hx)
  · have hwaiting : u.topic.Waiting m := ⟨hm, fun x hx hxm => hhand ⟨x, hx, hxm⟩⟩
    exact pending_absurd hs hrun.of_guarded hq hok hrecord (hwoken m hwaiting hreq hready)

def dbTopic : RetryTopic := (RetryTopic.empty 10).publish dbCreate

def wokenPlay : List Action × Agent :=
  (vmAgent .unhealthy dbTopic).play vmWiring
    (fun u e => Timely vmWiring "vm" "p1" u e ∧ Served vmWiring u e)
    ([.deliver vmCreate] ++ List.replicate 8 (.go 0) ++ [.check "p1" .healthy, .callback] ++
      List.replicate 21 (.go 1))

theorem queued_requests_woken_vm :
    wokenPlay.2.topic.msgs = [⟨10, dbCreate⟩] ∧
      ∀ m ∈ wokenPlay.2.topic.msgs, ¬ Requests vmWiring "vm" m.data :=
  ⟨by decide +kernel, queued_requests_woken vmWiring (p := vmRecord)
    (vmAgent_idle .unhealthy dbTopic rfl) ⟨rfl, rfl⟩ (by decide +kernel)
    (run_play vmWiring _ _ _) (by decide +kernel) (by decide +kernel)⟩

def lostPlay : List Action × Agent :=
  (vmAgent .unhealthy (.empty 10)).play vmWiring (Served vmWiring)
    ([.deliver vmCreate] ++ List.replicate 5 (.go 0) ++ [.check "p1" .healthy, .callback] ++
      List.replicate 3 (.go 1) ++ List.replicate 3 (.go 0))

theorem vm_wakeup_lost :
    Idle (vmAgent .unhealthy (.empty 10)) ∧ Serves (vmAgent .unhealthy (.empty 10)) "vm" vmRecord ∧
    Run (Guarded (Step vmWiring) (Served vmWiring)) (vmAgent .unhealthy (.empty 10)) lostPlay.1
      lostPlay.2 ∧
    Quiescent lostPlay.2 ∧ lostPlay.2.status "p1" = some .ready ∧
    ∃ m ∈ lostPlay.2.topic.msgs, Requests vmWiring "vm" m.data :=
  ⟨vmAgent_idle .unhealthy _ rfl, ⟨rfl, rfl⟩, run_play vmWiring _ _ _, by decide +kernel,
    by decide +kernel, by decide +kernel⟩

end RetryWakeups
