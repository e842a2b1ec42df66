import EnvironmentAgent.RequestFinality
import EnvironmentAgent.RequestIdentity

/-! # The restart drain of the main topic and the live path

The same message can be handled by `handleMainMessage` or, after a restart, by `drainMainTopic`. -/
namespace RestartAgreement

open AtomicPrograms RoutingCloudEvent RoutingEffects RoutingTraces RoutingSharedState
open RoutingResourceSet (ResourceSet KeyLock)
open RoutingRouter (RouterConfig parseRequestCE handleRequest HandlerErr)
open RetryProcessor (ProcessorConfig CEResult parseCE drainMainMessage drainMainTopic)
open RoutingForwarder (Registry ForwardErr ForwardParams Resolves StoreErr spCallOf
  terminalProviderErrorData_error)
open MessagingHandlers (ClientConfig handleMainMessage)

/-- One state of the registry, the outcomes of the provider calls in turn, whether the context has
ended at each look, and the outcome of publishes and acknowledgements. -/
structure Circumstances where
  registry : Registry
  attempt : ℕ → SPResult
  ended : ℕ → Bool
  published : Bool
  publishedCE : Bool
  acknowledged : Bool
  numDelivered : Option ℕ
  fetched : FetchResult

def Circumstances.answer (c : Circumstances) (n : ℕ) : (o : Op) → o.Ans
  | .add _ _ | .remove _ _ | .lockRemove _ => ()
  | .addIfAbsent _ _ | .contains _ _ | .consume _ _ | .lockAddIfAbsent _ => false
  | .lookup serviceType => c.registry.lookup serviceType
  | .getByName name => c.registry.getByName name
  | .getByID _ => .ok none
  | .getState id => c.registry.getState id
  | .sp _ => c.attempt n
  | .ctxErr | .backoffTimer _ => c.ended n
  | .publish _ _ => c.published
  | .publishCE _ _ => c.publishedCE
  | .retryConsumer => false
  | .fetchAll _ _ => c.fetched
  | .inProgress _ | .ack _ | .nak _ | .nakWithDelay _ | .term _ => c.acknowledged
  | .metadata _ => c.numDelivered
  | .rangeMap keys => ⟨keys, List.Perm.refl keys⟩

def IsAttempt : Op → Bool
  | .sp _ | .ctxErr | .backoffTimer _ => true
  | _ => false

def Circumstances.handler (c : Circumstances) : Handler routing (SharedState × ℕ) := fun o s =>
  match s.1.method o with
  | some p => (p.1, p.2, s.2)
  | none => (c.answer s.2 o, s.1, if IsAttempt o then s.2 + 1 else s.2)

section Handler

variable {c : Circumstances} {α : Type}

theorem eval_frame (p : Routine α) (w w' : SharedState) (n : ℕ)
    (h : ∀ e ∈ (p.eval c.handler (w, n)).1, Outside e.1) :
    p.eval c.handler (w', n) = ((p.eval c.handler (w, n)).1, (p.eval c.handler (w, n)).2.1, w',
      (p.eval c.handler (w, n)).2.2.2) := by
  induction p generalizing n with
  | ret a => rfl
  | raise => rfl
  | call o k ih =>
    obtain ⟨ho, hrest⟩ := List.forall_mem_cons.mp h
    have step : ∀ v : SharedState, c.handler o (v, n) =
        (c.answer n o, v, if IsAttempt o then n + 1 else n) := by
      intro v
      cases o <;> first | exact ho.elim | rfl
    rw [step w] at hrest
    simp only [Prog.eval, step, ih _ _ hrest]

theorem eval_passive (p : Routine α) (s : SharedState × ℕ)
    (h : ∀ e ∈ (p.eval c.handler s).1, Outside e.1 ∧ IsAttempt e.1 = false) :
    (p.eval c.handler s).2.2 = s := by
  induction p generalizing s with
  | ret a => rfl
  | raise => rfl
  | call o k ih =>
    obtain ⟨⟨ho, hattempt⟩, hrest⟩ := List.forall_mem_cons.mp h
    refine (ih _ _ hrest).trans ?_
    cases o <;> first | exact ho.elim | exact Bool.noConfusion hattempt | rfl

theorem eval_registry (p : Routine α) (s : SharedState × ℕ) :
    c.registry.Sees (p.eval c.handler s).1 := by
  induction p generalizing s with
  | ret x => exact List.forall_mem_nil _
  | raise => exact List.forall_mem_nil _
  | call o k ih =>
    refine List.forall_mem_cons.mpr ⟨?_, ih _ _⟩
    cases o <;> trivial

theorem resolveProvider_runs (serviceType : String) (s : SharedState × ℕ) :
    Runs c.handler (RoutingForwarder.resolveProvider serviceType) s fun t out s' =>
      out = some (c.registry.resolve serviceType) ∧ s' = s ∧
        Resolves serviceType t (c.registry.resolve serviceType) := by
  obtain ⟨result, hout, hres⟩ := (resolveProvider_yields serviceType).exec
    (Prog.exec_eval c.handler _ s)
  rw [runs_iff, c.registry.resolves hres (eval_registry _ _)]
  refine ⟨hout, eval_passive _ s fun e he => ?_, hres⟩
  have hread := hres.isRead e he
  obtain ⟨o, x⟩ := e
  cases o <;> first | exact hread.elim | exact ⟨trivial, rfl⟩

theorem forwardWithRetry_eval (sp : StoredProvider) (params : ForwardParams) (maxAttempts : ℤ)
    (n : ℕ) : ∃ t out n', Attempts (spCallOf sp params) t out ∧ ∀ w,
      (RoutingForwarder.forwardWithRetry sp params maxAttempts).eval c.handler (w, n) =
        (t, out, w, n') := by
  have hattempts := fun w => (forwardAttempts_yields sp params ((max 1 maxAttempts).toNat - 1)
    0).exec (Prog.exec_eval c.handler _ (w, n))
  have outside : ∀ w, ∀ e ∈ ((RoutingForwarder.forwardWithRetry sp params maxAttempts).eval
      c.handler (w, n)).1, Outside e.1 := by
    rintro w ⟨o, x⟩ he
    rcases (hattempts w).within _ he with ho | ho
    · cases ho
      trivial
    · cases o <;> first | exact ho.elim | trivial
  exact ⟨_, _, _, hattempts ⟨.new 0, .new 0, .new⟩, fun w => eval_frame _ _ w n (outside _)⟩

end Handler

inductive Ending where
  | succeeded
  | failed (error : String)
  | cutOff
  | panicked
  deriving DecidableEq, Repr

inductive Decision where
  | denied
  | storeError
  | unregistered
  | unavailable
  | unhealthy
  | inFlight
  | forwarded (calls : List (SPCall × SPResult)) (ending : Ending)
  deriving DecidableEq, Repr

/-- What can be told from outside: the provider calls, the error codes, whether a copy went to the
retry topic, and whether the message is done with. -/
structure Verdict where
  calls : List (SPCall × SPResult)
  errors : List String
  moved : Bool
  finalised : Bool
  deriving DecidableEq, Repr

def errorCode : String × ResponseData → Option String
  | (_, .error d) => some d.error
  | _ => none

def isCopy : RoutingEvent → Bool
  | ⟨.publish _ _, b⟩ => b
  | _ => false

def isFinal : Msg × Resolution → Bool
  | (_, .ack) | (_, .term) => true
  | _ => false

def verdict (t : List RoutingEvent) : Verdict where
  calls := callsIn t
  errors := (emissions t).filterMap errorCode
  moved := t.any isCopy
  finalised := (resolutions t).any isFinal

def requeued (calls : List (SPCall × SPResult)) (published : Bool) : Verdict :=
  ⟨calls, [], published, published⟩

def Decision.live (published : Bool) : Decision → Verdict
  | .denied => ⟨[], [], false, true⟩
  | .storeError => ⟨[], [], false, false⟩
  | .unregistered => ⟨[], [errorUnsupportedServiceType], false, true⟩
  | .unavailable => ⟨[], [errorSPUnavailable], false, true⟩
  | .unhealthy => requeued [] published
  | .inFlight => ⟨[], [], false, false⟩
  | .forwarded calls .succeeded => ⟨calls, [], false, true⟩
  | .forwarded calls (.failed error) => ⟨calls, [error], false, true⟩
  | .forwarded calls .cutOff => ⟨calls, [], false, false⟩
  | .forwarded calls .panicked => ⟨calls, [], false, false⟩

/-- The drain moves what it cannot forward now, also where no provider is registered. -/
def Decision.drain (published : Bool) : Decision → Verdict
  | .unregistered => requeued [] published
  | .inFlight => requeued [] published
  | .forwarded calls .cutOff => requeued calls published
  | d => d.live published

variable {out : Option (Option ForwardErr)}

section Verdicts

instance : Append Verdict :=
  ⟨fun v v' => ⟨v.calls ++ v'.calls, v.errors ++ v'.errors, v.moved || v'.moved,
    v.finalised || v'.finalised⟩⟩

variable {t u : List RoutingEvent}

-- A verdict is read off the trace, so the lemmas about it unfold all three.
attribute [local simp] verdict isCopy isFinal

@[simp] theorem append_mk (calls calls' : List (SPCall × SPResult)) (errors errors' : List String)
    (moved moved' finalised finalised' : Bool) :
    (⟨calls, errors, moved, finalised⟩ : Verdict) ++ (⟨calls', errors', moved', finalised'⟩ : Verdict) =
      ⟨calls ++ calls', errors ++ errors', moved || moved', finalised || finalised'⟩ := rfl

theorem verdict_append (t u : List RoutingEvent) : verdict (t ++ u) = verdict t ++ verdict u := by
  simp

theorem verdict_silent (h : Silent t) : verdict t = ⟨[], [], false, false⟩ := by
  have hcopy : t.any isCopy = false := by
    refine List.any_eq_false.mpr ?_
    rintro ⟨o, x⟩ he
    have ho := h _ he
    cases o <;> first | exact ho.elim | simp
  simp [h.no_calls, h.no_emissions, hcopy, h.forwarding.no_resolutions]

theorem verdict_silent_append (ht : Silent t) (u : List RoutingEvent) :
    verdict (t ++ u) = verdict u := by
  rw [verdict_append, verdict_silent ht]
  simp

theorem verdict_append_silent (t : List RoutingEvent) (hu : Silent u) :
    verdict (t ++ u) = verdict t := by
  rw [verdict_append, verdict_silent hu]
  simp

theorem verdict_publish (subject : String) (data : Bytes) (b : Bool) {finalised : Bool}
    (hu : verdict u = ⟨[], [], false, finalised⟩) :
    verdict (⟨.publish subject data, b⟩ :: u) = ⟨[], [], b, finalised⟩ := by
  rw [← List.singleton_append, verdict_append, hu]
  simp

theorem verdict_nak (t : List RoutingEvent) (m : Msg) (b : Bool) :
    verdict (t ++ [⟨.nakWithDelay m, b⟩]) = verdict t := by
  simp

theorem verdict_ack (t : List RoutingEvent) (m : Msg) (b : Bool) :
    verdict (t ++ [⟨.ack m, b⟩]) = { verdict t with finalised := true } := by
  simp

theorem verdict_inProgress (m : Msg) (b : Bool) (t : List RoutingEvent) :
    verdict (⟨.inProgress m, b⟩ :: t) = verdict t := by
  simp

theorem verdict_attempts {call : SPCall} (h : Attempts call t out) :
    verdict t = ⟨callsIn t, [], false, false⟩ := by
  have hcopy : t.any isCopy = false := by
    refine List.any_eq_false.mpr ?_
    rintro ⟨o, x⟩ he
    have ho := h.forwarding _ he
    cases o <;> first | exact ho.elim | simp
  simp [h.no_emissions, hcopy, h.forwarding.no_resolutions]

theorem verdict_reads_append {serviceType : String}
    {result : Except StoreErr (Option (StoredProvider × ProviderStatus))}
    (h : Resolves serviceType t result) (u : List RoutingEvent) : verdict (t ++ u) = verdict u := by
  have ht : verdict t = ⟨[], [], false, false⟩ := by cases h <;> rfl
  rw [verdict_append, ht]
  simp

end Verdicts

/-- The claimed set after a decision; a claim that this forward made is undone unless the
forward succeeded. -/
def claimAfter (claimed : ResourceSet) (r : String) : Decision → ResourceSet
  | .forwarded _ .succeeded => (claimed.addIfAbsent r).2
  | .forwarded _ _ =>
    if (claimed.addIfAbsent r).1 then (claimed.addIfAbsent r).2.remove r
    else (claimed.addIfAbsent r).2
  | _ => claimed

def endingOf (c : Circumstances) (n : ℕ) : Option (Option ForwardErr) → Ending
  | none => .panicked
  | some none => .succeeded
  | some (some .context) => .cutOff
  | some (some (.sp e)) =>
    if c.ended n then .cutOff
    else .failed (if RoutingForwarder.isRetryable e then errorRetryExhausted else errorNonRetryable)

def Ending.errors : Ending → List String
  | .failed error => [error]
  | _ => []

variable {r : String}

theorem consume_of_not_mem {s : ResourceSet} (h : r ∉ s) :
    s.consume r = (false, s) := if_neg h

theorem contains_of_not_mem {s : ResourceSet} (h : r ∉ s) :
    s.contains r = (false, s) := dif_neg h

theorem lock_of_not_mem {k : KeyLock} (h : r ∉ k.items) :
    (k.addIfAbsent r).1 = true ∧ (k.addIfAbsent r).2.remove r = k := by
  unfold KeyLock.addIfAbsent KeyLock.remove
  rw [if_neg h]
  exact ⟨rfl, by simp [Finset.erase_insert h]⟩

theorem lock_of_mem {k : KeyLock} (h : r ∈ k.items) :
    k.addIfAbsent r = (false, k) := if_pos h

def Forwards (c : Circumstances) (n : ℕ) (sp : StoredProvider) (params : ForwardParams)
    (maxAttempts : ℤ) (calls : List (SPCall × SPResult)) (ending : Ending) : Prop :=
  ∀ w, Runs c.handler (RoutingForwarder.forwardWithRetry sp params maxAttempts) (w, n)
    fun t out s => verdict t = ⟨calls, [], false, false⟩ ∧ s.1 = w ∧ endingOf c s.2 out = ending

def readyDecision (cfg : RouterConfig) (c : Circumstances) (w : SharedState) (isCreate : Bool)
    (payload : InboundPayload) (sp : StoredProvider) : Decision :=
  if !cfg.forwarder then .unavailable
  else if payload.resourceID ∈ w.inFlight.items then .inFlight
  else
    let run := (RoutingForwarder.forwardWithRetry sp (RequestHandling.paramsOf isCreate payload)
      cfg.retryMaxAttempts).eval c.handler (w, 0)
    .forwarded (callsIn run.1) (endingOf c run.2.2.2 run.2.1)

def decisionOf (cfg : RouterConfig) (c : Circumstances) (w : SharedState) (isCreate : Bool)
    (payload : InboundPayload) : Decision :=
  if isCreate = true ∧ payload.resourceID ∈ w.denyList then .denied
  else match c.registry.resolve payload.serviceType with
    | .error _ => .storeError
    | .ok none => .unregistered
    | .ok (some (_, .unavailable)) => .unavailable
    | .ok (some (_, .unhealthy)) => .unhealthy
    | .ok (some (sp, .ready)) => readyDecision cfg c w isCreate payload sp

theorem forwards_eval (c : Circumstances) (sp : StoredProvider) (params : ForwardParams)
    (maxAttempts : ℤ) (w : SharedState) :
    Forwards c 0 sp params maxAttempts
      (callsIn ((RoutingForwarder.forwardWithRetry sp params maxAttempts).eval c.handler (w, 0)).1)
      (endingOf c
        ((RoutingForwarder.forwardWithRetry sp params maxAttempts).eval c.handler (w, 0)).2.2.2
        ((RoutingForwarder.forwardWithRetry sp params maxAttempts).eval c.handler (w, 0)).2.1) := by
  obtain ⟨t, out, n, ht, hrun⟩ := forwardWithRetry_eval (c := c) sp params maxAttempts 0
  intro w'
  rw [runs_iff, hrun w, hrun w']
  exact ⟨verdict_attempts ht, rfl, rfl⟩

variable {s : SharedState × ℕ}

section Live

variable {c : Circumstances} {w : SharedState} {n : ℕ} {cfg : RouterConfig} {isCreate : Bool}
  {payload : InboundPayload}

theorem consumeDenied_runs (h : ¬ (isCreate = true ∧ r ∈ w.denyList)) :
    Runs c.handler (RoutingRouter.consumeDenied isCreate r) (w, n) fun t x s =>
      x = some false ∧ s = (w, n) ∧ Silent t := by
  cases isCreate with
  | false => exact ⟨rfl, rfl, by simp [Silent]⟩
  | true =>
    have hr : w.denyList.consume r = (false, w.denyList) := consume_of_not_mem fun hr => h ⟨rfl, hr⟩
    refine ⟨?_, ?_, by simp [Silent, IsSilent]⟩
    · exact congrArg (fun x => some x.1) hr
    · exact congrArg (fun x => (({ w with denyList := x.2 } : SharedState), n)) hr

def liveResult : Ending → Option (Option HandlerErr)
  | .succeeded | .failed _ => some none
  | .cutOff => some (some .context)
  | .panicked => none

def dispatchResult : Ending → Option (Bool × Option HandlerErr)
  | .succeeded => some (true, none)
  | .failed _ => some (false, none)
  | .cutOff => some (false, some .context)
  | .panicked => none

variable {sp : StoredProvider} {calls : List (SPCall × SPResult)} {ending : Ending}

theorem dispatch_runs
    (hrun : Forwards c n sp (RequestHandling.paramsOf isCreate payload) cfg.retryMaxAttempts calls
      ending) :
    Runs c.handler (RoutingRouter.dispatch cfg sp isCreate payload) (w, n) fun t out s =>
      verdict t = ⟨calls, ending.errors, false, false⟩ ∧ s.1 = w ∧
        out = dispatchResult ending := by
  refine (hrun w).bind ?_ ?_
  · rintro t out ⟨_, n'⟩ ⟨ht, rfl, rfl⟩
    match out with
    | none =>
      have ack : ∀ ceType d b, errorCode (ceType, d) = none →
          verdict (t ++ [⟨.publishCE ceType d, b⟩]) = ⟨calls, [], false, false⟩ := by
        intro ceType d b hd
        rw [verdict_append, ht]
        simp [verdict, hd, isCopy]
      cases isCreate with
      | true => exact ⟨ack _ _ _ rfl, rfl, rfl⟩
      | false => exact ⟨ack _ _ _ rfl, rfl, rfl⟩
    | some .context => exact ⟨by simpa [endingOf, Ending.errors] using ht, rfl, rfl⟩
    | some (.sp e) =>
      change Runs c.handler (if c.ended n' then _ else _) (_, n' + 1) _
      split
      · rename_i hended
        have hcut : endingOf c n' (some (some (.sp e))) = .cutOff := if_pos hended
        rw [hcut]
        refine ⟨?_, rfl, rfl⟩
        rw [verdict_append, ht]
        simp [verdict, isCopy, Ending.errors]
      · rename_i hended
        have hfailed : endingOf c n' (some (some (.sp e))) = .failed _ := if_neg hended
        rw [hfailed, ← terminalProviderErrorData_error e payload.serviceType
          (RoutingRouter.responseCtx cfg payload.resourceID)]
        refine ⟨?_, rfl, rfl⟩
        rw [verdict_append, ht]
        simp [verdict, isCopy, Ending.errors, errorCode]
  · rintro t ⟨_, n'⟩ ⟨ht, rfl, rfl⟩
    exact ⟨ht, rfl, rfl⟩

theorem releaseClaim_runs (newlyAdded : Bool) (r : String)
    (out : Option (Bool × Option HandlerErr)) :
    Runs c.handler (RoutingRouter.releaseClaim newlyAdded r out) (w, n) fun t x s =>
      x = some () ∧ Silent t ∧ s = ({ w with claimed :=
        if newlyAdded && !(out.any Prod.fst) then w.claimed.remove r else w.claimed }, n) := by
  unfold RoutingRouter.releaseClaim
  split
  · exact ⟨rfl, by simp [Silent, IsSilent], rfl⟩
  · exact ⟨rfl, by simp [Silent], rfl⟩

theorem claimAndDispatch_runs (hpass : ¬ (isCreate = true ∧ payload.resourceID ∈ w.denyList))
    (hrun : Forwards c n sp (RequestHandling.paramsOf isCreate payload) cfg.retryMaxAttempts calls
      ending) :
    Runs c.handler (RoutingRouter.claimAndDispatch cfg sp isCreate payload) (w, n) fun t out s =>
      verdict t = ⟨calls, ending.errors, false, false⟩ ∧ out = liveResult ending ∧ s.1 =
        { w with claimed := claimAfter w.claimed payload.resourceID (.forwarded calls ending) } := by
  let claiming : SharedState :=
    { w with claimed := (w.claimed.addIfAbsent payload.resourceID).2 }
  have hcheck : Runs c.handler (RoutingRouter.consumeDenied isCreate payload.resourceID)
    (claiming, n) _ := consumeDenied_runs hpass
  refine hcheck.bind ?_ nofun
  rintro t _ _ ⟨⟨⟩, rfl, ht⟩
  have hclaim : Silent (⟨.addIfAbsent .claimedResourcesSet payload.resourceID,
      (w.claimed.addIfAbsent payload.resourceID).1⟩ :: t) :=
    List.forall_mem_cons.mpr ⟨trivial, ht⟩
  have hdispatch : Runs c.handler ((RoutingRouter.dispatch cfg sp isCreate payload).ensure
      (RoutingRouter.releaseClaim (w.claimed.addIfAbsent payload.resourceID).1 payload.resourceID))
      (claiming, n) fun u out s =>
        verdict u = ⟨calls, ending.errors, false, false⟩ ∧ out = dispatchResult ending ∧ s.1 =
          { w with claimed :=
            claimAfter w.claimed payload.resourceID (.forwarded calls ending) } := by
    refine (dispatch_runs hrun).ensure ?_
    rintro u out ⟨_, n'⟩ ⟨hu, rfl, rfl⟩
    refine (releaseClaim_runs _ _ _).mono ?_
    rintro u' _ _ ⟨rfl, hu', rfl⟩
    refine ⟨rfl, ?_, rfl, ?_⟩
    · exact (verdict_append_silent u hu').trans hu
    · cases ending <;> simp [claiming, dispatchResult, claimAfter]
  refine hdispatch.bind ?_ ?_
  · rintro u out s ⟨hu, hout, hs⟩
    refine ⟨?_, ?_, hs⟩
    · rw [List.append_nil]
      exact (verdict_silent_append hclaim u).trans hu
    · cases ending <;> cases hout <;> rfl
  · rintro u s ⟨hu, hout, hs⟩
    refine ⟨(verdict_silent_append hclaim u).trans hu, ?_, hs⟩
    cases ending with
    | panicked => rfl
    | _ => cases hout

theorem forwardWithRetry_runs (hpass : ¬ (isCreate = true ∧ payload.resourceID ∈ w.denyList))
    (hfree : payload.resourceID ∉ w.inFlight.items)
    (hrun : Forwards c n sp (RequestHandling.paramsOf isCreate payload) cfg.retryMaxAttempts calls
      ending) :
    Runs c.handler (RoutingRouter.forwardWithRetry cfg sp isCreate payload) (w, n) fun t out s =>
      verdict t = ⟨calls, ending.errors, false, false⟩ ∧ out = liveResult ending ∧ s.1 =
        { w with claimed := claimAfter w.claimed payload.resourceID (.forwarded calls ending) } := by
  obtain ⟨hlocked, hunlocked⟩ := lock_of_not_mem hfree
  let locked : SharedState := { w with inFlight := (w.inFlight.addIfAbsent payload.resourceID).2 }
  change Runs c.handler (if !(w.inFlight.addIfAbsent payload.resourceID).1 then _ else _)
    (locked, n) _
  rw [if_neg (by simp [hlocked])]
  have hclaim : Runs c.handler (RoutingRouter.claimAndDispatch cfg sp isCreate payload)
    (locked, n) _ := claimAndDispatch_runs hpass hrun
  refine hclaim.ensure ?_
  rintro t out ⟨_, n'⟩ ⟨ht, rfl, rfl⟩
  refine ⟨rfl, ?_, rfl, ?_⟩
  · have hlock : ∀ b, Silent [⟨.lockAddIfAbsent payload.resourceID, b⟩] := by
      simp [Silent, IsSilent]
    refine (verdict_silent_append (hlock _) _).trans (.trans ?_ ht)
    exact verdict_append_silent t (by simp [Silent, IsSilent])
  · exact congrArg (fun k => ({ w with
      claimed := claimAfter w.claimed payload.resourceID (.forwarded calls ending)
      inFlight := k } : SharedState)) hunlocked

def liveDenyList (w : SharedState) (isCreate : Bool) (r : String) : ResourceSet :=
  if isCreate = true ∧ r ∈ w.denyList then (w.denyList.consume r).2 else w.denyList

def Returns (finalised : Bool) : Option (Option HandlerErr) → Prop
  | some none => finalised = true
  | _ => finalised = false

structure LiveEnd (c : Circumstances) (denyList : ResourceSet) (w : SharedState) (r : String)
    (d : Decision) (v : Verdict) (out : Option (Option HandlerErr)) (s : SharedState × ℕ) :
    Prop where
  verdict : v = { d.live c.published with finalised := false }
  returns : Returns (d.live c.published).finalised out
  state : s.1 = { w with denyList := denyList, claimed := claimAfter w.claimed r d }

theorem liveEnd_forwarded {v : Verdict} {out : Option (Option HandlerErr)}
    (hv : v = ⟨calls, ending.errors, false, false⟩) (hout : out = liveResult ending)
    (hs : s.1 = { w with
      claimed := claimAfter w.claimed payload.resourceID (.forwarded calls ending) }) :
    LiveEnd c w.denyList w payload.resourceID (.forwarded calls ending) v out s := by
  subst hv hout
  refine ⟨?_, ?_, hs⟩
  · cases ending <;> rfl
  · cases ending <;> rfl

theorem ready_runs (hpass : ¬ (isCreate = true ∧ payload.resourceID ∈ w.denyList))
    (hf : cfg.forwarder = true) :
    Runs c.handler (RoutingRouter.forwardWithRetry cfg sp isCreate payload) (w, 0) fun t out s =>
      LiveEnd c w.denyList w payload.resourceID (readyDecision cfg c w isCreate payload sp)
        (verdict t) out s := by
  unfold readyDecision
  rw [if_neg (by simp [hf])]
  split
  · rename_i hheld
    have hlock := lock_of_mem hheld
    change Runs c.handler (if !(w.inFlight.addIfAbsent payload.resourceID).1 then _ else _) _ _
    rw [hlock]
    exact ⟨rfl, rfl,
      congrArg (fun k : Bool × KeyLock => ({ w with inFlight := k.2 } : SharedState)) hlock⟩
  · rename_i hfree
    refine (forwardWithRetry_runs hpass hfree (forwards_eval c sp _ _ w)).mono ?_
    rintro t out s ⟨ht, hout, hs⟩
    exact liveEnd_forwarded ht hout hs

theorem handleRequest_runs {msg : Bytes}
    (hparse : parseRequestCE cfg msg = some (isCreate, payload))
    (hids : ¬ (payload.resourceID = "" ∨ payload.serviceType = "")) :
    Runs c.handler (handleRequest cfg msg) (w, 0) fun t out s =>
      LiveEnd c (liveDenyList w isCreate payload.resourceID) w payload.resourceID
        (decisionOf cfg c w isCreate payload) (verdict t) out s := by
  rw [RequestHandling.handleRequest_eq hparse hids]
  unfold decisionOf liveDenyList
  split
  · rename_i hdenied
    obtain ⟨rfl, hr⟩ := hdenied
    change Runs c.handler (if (w.denyList.consume payload.resourceID).1 then _ else _) _ _
    rw [if_pos ((ResourceSet.consume_fst _ _).mpr hr)]
    exact ⟨rfl, rfl, rfl⟩
  · rename_i hpass
    refine (consumeDenied_runs hpass).bind ?_ nofun
    rintro t _ _ ⟨⟨⟩, rfl, ht⟩
    refine Runs.mono ?_ fun u out s h => (verdict_silent_append ht u).symm ▸ h
    refine (resolveProvider_runs payload.serviceType _).bind ?_ nofun
    rintro reads _ _ ⟨⟨⟩, rfl, hreads⟩
    refine Runs.mono ?_ fun u out s h => (verdict_reads_append hreads u).symm ▸ h
    match c.registry.resolve payload.serviceType with
    | .error e => exact ⟨rfl, rfl, rfl⟩
    | .ok none => exact ⟨rfl, rfl, rfl⟩
    | .ok (some (_, .unavailable)) => exact ⟨rfl, rfl, rfl⟩
    | .ok (some (_, .unhealthy)) =>
      change Runs c.handler (if !c.published then _ else _) _ _
      split
      · rename_i hpub
        have hpub : c.published = false := by simpa using hpub
        exact ⟨verdict_publish _ _ _ rfl, hpub, rfl⟩
      · rename_i hpub
        have hpub : c.published = true := by simpa using hpub
        exact ⟨verdict_publish _ _ _ rfl, hpub, rfl⟩
    | .ok (some (sp, .ready)) =>
      change Runs c.handler (if !cfg.forwarder then _ else _) _ fun t out s =>
        LiveEnd c w.denyList w payload.resourceID (readyDecision cfg c w isCreate payload sp)
          (verdict t) out s
      split
      · rename_i hf
        have hd : readyDecision cfg c w isCreate payload sp = .unavailable := if_pos hf
        rw [hd]
        exact ⟨rfl, rfl, rfl⟩
      · rename_i hf
        exact ready_runs hpass (by simpa using hf)

def Deliverable (client : ClientConfig) (c : Circumstances) : Prop :=
  client.maxDeliver ≤ 0 ∨ ∃ k, c.numDelivered = some k ∧ (k : ℤ) < client.maxDeliver

theorem resolveHandled_runs {m : Msg} {handler : Routine (Option HandlerErr)} {d : Decision}
    {denyList : ResourceSet}
    (h : Runs c.handler handler s fun t out s' => LiveEnd c denyList w r d (verdict t) out s') :
    Runs c.handler (MessagingHandlers.resolveHandled m handler) s fun t _ s' =>
      verdict t = d.live c.published ∧
        s'.1 = { w with denyList := denyList, claimed := claimAfter w.claimed r d } := by
  have unfinalised : (d.live c.published).finalised = false →
      { d.live c.published with finalised := false } = d.live c.published := fun hfinal => by
    rw [← hfinal]
  refine h.bind ?_ fun t s' hend => ⟨hend.verdict.trans (unfinalised hend.returns), hend.state⟩
  rintro t out s' hend
  match out with
  | some e =>
    refine ⟨?_, hend.state⟩
    rw [verdict_nak, hend.verdict, unfinalised hend.returns]
  | none =>
    refine ⟨?_, hend.state⟩
    have hfinal : (d.live c.published).finalised = true := hend.returns
    rw [verdict_ack, hend.verdict, ← hfinal]

theorem handleMainMessage_runs {client : ClientConfig} {m : Msg}
    (hparse : parseRequestCE cfg m.data = some (isCreate, payload))
    (hids : ¬ (payload.resourceID = "" ∨ payload.serviceType = ""))
    (hdeliver : Deliverable client c) :
    Runs c.handler (handleMainMessage client (handleRequest cfg) m) (w, 0) fun t _ s =>
      verdict t = (decisionOf cfg c w isCreate payload).live c.published ∧ s.1 = { w with
        denyList := liveDenyList w isCreate payload.resourceID
        claimed := claimAfter w.claimed payload.resourceID
          (decisionOf cfg c w isCreate payload) } := by
  have hhandled := resolveHandled_runs (m := m) (handleRequest_runs hparse hids (c := c) (w := w))
  have hbody : Runs c.handler (MessagingHandlers.mainMessageBody client (handleRequest cfg) m)
      (w, 0) fun t _ s => verdict t = (decisionOf cfg c w isCreate payload).live c.published ∧
        s.1 = { w with
          denyList := liveDenyList w isCreate payload.resourceID
          claimed := claimAfter w.claimed payload.resourceID
            (decisionOf cfg c w isCreate payload) } := by
    unfold MessagingHandlers.mainMessageBody
    split
    · rename_i hmax
      obtain ⟨k, hk, hlt⟩ := hdeliver.resolve_left (not_le.mpr hmax)
      apply Runs.call (x := some k) (u := (w, 0)) (by rw [← hk]; rfl)
      change Runs c.handler (if client.maxDeliver ≤ k then _ else _) (w, 0) _
      rw [if_neg (not_le.mpr hlt)]
      exact hhandled
    · exact hhandled
  refine hbody.recover (fun t _ s h => h) fun t s h => ⟨?_, h.2⟩
  exact (verdict_nak t m _).trans h.1

end Live

section Drain

variable {c : Circumstances} {w : SharedState} {n : ℕ} {cfg : ProcessorConfig} {res : CEResult}
  {sp : StoredProvider} {calls : List (SPCall × SPResult)} {ending : Ending}

theorem deniedCreate_runs (h : ¬ (res.ceType = typeRequestCreate ∧ res.resourceID ∈ w.denyList)) :
    Runs c.handler (RetryProcessor.deniedCreate res) (w, n) fun t x s =>
      x = some false ∧ s = (w, n) ∧ Silent t := by
  unfold RetryProcessor.deniedCreate
  split
  · rename_i hcreate
    have hr : w.denyList.contains res.resourceID = (false, w.denyList) :=
      contains_of_not_mem fun hr => h ⟨hcreate, hr⟩
    refine ⟨?_, ?_, by simp [Silent, IsSilent]⟩
    · exact congrArg (fun x => some x.1) hr
    · exact congrArg (fun x => (({ w with denyList := x.2 } : SharedState), n)) hr
  · exact ⟨rfl, rfl, by simp [Silent]⟩

def drainResult : Ending → Option Bool
  | .succeeded | .failed _ => some true
  | .cutOff => some false
  | .panicked => none

/-- The claimed set after the drain: no deferred call undoes the claim of a forward that
unwinds. -/
def drainClaim (claimed : ResourceSet) (r : String) : Decision → ResourceSet
  | .forwarded _ .panicked => (claimed.addIfAbsent r).2
  | d => claimAfter claimed r d

theorem release_runs (newlyAdded : Bool) (r : String) :
    Runs c.handler (RetryProcessor.releaseClaim newlyAdded r) (w, n) fun t x s =>
      x = some () ∧ Silent t ∧
        s = ({ w with claimed := if newlyAdded then w.claimed.remove r else w.claimed }, n) := by
  unfold RetryProcessor.releaseClaim
  split
  · exact ⟨rfl, by simp [Silent, IsSilent], rfl⟩
  · exact ⟨rfl, by simp [Silent], rfl⟩

theorem claimAndForward_runs (hset : cfg.claimedResourcesSet = true)
    (hpass : ¬ (res.ceType = typeRequestCreate ∧ res.resourceID ∈ w.denyList))
    (hrun : Forwards c n sp (RetryProcessor.forwardParams res) cfg.retryMaxAttempts calls ending) :
    Runs c.handler (RetryProcessor.claimAndForward cfg sp res) (w, n) fun t out s =>
      verdict t = ⟨calls, ending.errors, false, false⟩ ∧ out = drainResult ending ∧ s.1 =
        { w with claimed := drainClaim w.claimed res.resourceID (.forwarded calls ending) } := by
  unfold RetryProcessor.claimAndForward RetryProcessor.claim
  rw [if_pos hset]
  let claiming : SharedState := { w with claimed := (w.claimed.addIfAbsent res.resourceID).2 }
  have hcheck : Runs c.handler (RetryProcessor.deniedCreate res) (claiming, n) _ :=
    deniedCreate_runs hpass
  refine hcheck.bind ?_ nofun
  rintro t _ _ ⟨⟨⟩, rfl, ht⟩
  have hclaim : Silent (⟨.addIfAbsent .claimedResourcesSet res.resourceID,
      (w.claimed.addIfAbsent res.resourceID).1⟩ :: t) := List.forall_mem_cons.mpr ⟨trivial, ht⟩
  refine (hrun claiming).bind ?_ ?_
  · rintro u out ⟨_, n'⟩ ⟨hu, rfl, rfl⟩
    have hshown : ∀ v, verdict (⟨.addIfAbsent .claimedResourcesSet res.resourceID,
        (w.claimed.addIfAbsent res.resourceID).1⟩ :: (t ++ (u ++ v))) =
          ⟨calls, [], false, false⟩ ++ verdict v := fun v => by
      rw [← hu, ← verdict_append]
      exact verdict_silent_append hclaim (u ++ v)
    match out with
    | none =>
      rw [RetryForwarding.publishAckCE_eq]
      refine ⟨(hshown _).trans ?_, rfl, rfl⟩
      have hack : errorCode (RetryForwarding.ackOf cfg res) = none := by
        unfold RetryForwarding.ackOf
        split <;> rfl
      simp [verdict, isCopy, hack, endingOf, Ending.errors]
    | some .context =>
      refine (release_runs _ _).bind ?_ nofun
      rintro v _ _ ⟨⟨⟩, hv, rfl⟩
      refine ⟨(hshown _).trans ?_, rfl, rfl⟩
      rw [verdict_silent_append hv]
      simp [verdict, endingOf, Ending.errors]
    | some (.sp e) =>
      refine (release_runs _ _).bind ?_ nofun
      rintro v _ _ ⟨⟨⟩, hv, rfl⟩
      change Runs c.handler (if c.ended n' then _ else _) (_, n' + 1) _
      split
      · rename_i hended
        have hcut : endingOf c n' (some (some (.sp e))) = .cutOff := if_pos hended
        rw [hcut]
        refine ⟨(hshown _).trans ?_, rfl, rfl⟩
        rw [verdict_silent_append hv]
        simp [verdict, isCopy, Ending.errors]
      · rename_i hended
        have hfailed : endingOf c n' (some (some (.sp e))) = .failed _ := if_neg hended
        rw [hfailed, ← terminalProviderErrorData_error e res.serviceType
          (RetryProcessor.responseCtx cfg res.resourceID)]
        refine ⟨(hshown _).trans ?_, rfl, rfl⟩
        rw [verdict_silent_append hv]
        simp [verdict, isCopy, Ending.errors, errorCode]
  · rintro u ⟨_, n'⟩ ⟨hu, rfl, rfl⟩
    exact ⟨(verdict_silent_append hclaim u).trans hu, rfl, rfl⟩

theorem forwardRequest_runs (hset : cfg.claimedResourcesSet = true)
    (hlocks : cfg.inFlightSet = true) (hf : cfg.forwarder = true)
    (hpass : ¬ (res.ceType = typeRequestCreate ∧ res.resourceID ∈ w.denyList))
    (hfree : res.resourceID ∉ w.inFlight.items)
    (hrun : Forwards c n sp (RetryProcessor.forwardParams res) cfg.retryMaxAttempts calls ending) :
    Runs c.handler (RetryProcessor.forwardRequest cfg sp res) (w, n) fun t out s =>
      verdict t = ⟨calls, ending.errors, false, false⟩ ∧ out = drainResult ending ∧ s.1 =
        { w with claimed := drainClaim w.claimed res.resourceID (.forwarded calls ending) } := by
  obtain ⟨hlocked, hunlocked⟩ := lock_of_not_mem hfree
  unfold RetryProcessor.forwardRequest
  rw [if_neg (by simp [hf]), if_pos hlocks]
  let locked : SharedState := { w with inFlight := (w.inFlight.addIfAbsent res.resourceID).2 }
  change Runs c.handler (if !(w.inFlight.addIfAbsent res.resourceID).1 then _ else _) (locked, n) _
  rw [if_neg (by simp [hlocked])]
  have hclaim : Runs c.handler (RetryProcessor.claimAndForward cfg sp res) (locked, n) _ :=
    claimAndForward_runs hset hpass hrun
  refine hclaim.ensure ?_
  rintro t out ⟨_, n'⟩ ⟨ht, rfl, rfl⟩
  refine ⟨rfl, ?_, rfl, ?_⟩
  · have hlock : ∀ b, Silent [⟨.lockAddIfAbsent res.resourceID, b⟩] := by simp [Silent, IsSilent]
    refine (verdict_silent_append (hlock _) _).trans (.trans ?_ ht)
    exact verdict_append_silent t (by simp [Silent, IsSilent])
  · exact congrArg (fun k => ({ w with
      claimed := drainClaim w.claimed res.resourceID (.forwarded calls ending)
      inFlight := k } : SharedState)) hunlocked

theorem forwardRequest_held (hlocks : cfg.inFlightSet = true) (hf : cfg.forwarder = true)
    (hheld : res.resourceID ∈ w.inFlight.items) :
    Runs c.handler (RetryProcessor.forwardRequest cfg sp res) (w, n) fun t out s =>
      Silent t ∧ out = some false ∧ s = (w, n) := by
  have hlock := lock_of_mem hheld
  unfold RetryProcessor.forwardRequest
  rw [if_neg (by simp [hf]), if_pos hlocks]
  change Runs c.handler (if !(w.inFlight.addIfAbsent res.resourceID).1 then _ else _) _ _
  rw [hlock]
  exact ⟨by simp [Silent, IsSilent], rfl,
    congrArg (fun k : Bool × KeyLock => (({ w with inFlight := k.2 } : SharedState), n)) hlock⟩

def drainDenyList (w : SharedState) (isCreate : Bool) (r : String) : ResourceSet :=
  if isCreate = true ∧ r ∈ w.denyList then (w.denyList.contains r).2 else w.denyList

structure DrainEnd (c : Circumstances) (denyList : ResourceSet) (w : SharedState) (r : String)
    (d : Decision) (v : Verdict) (out : Option Unit) (s : SharedState × ℕ) : Prop where
  verdict : v = d.drain c.published
  state : s.1 = { w with denyList := denyList, claimed := drainClaim w.claimed r d }
  unwinds : out = none → ∃ calls, d = .forwarded calls .panicked

theorem requeue_runs {m : Msg} :
    Runs c.handler (RetryProcessor.requeueToRetryTopic cfg m false) s fun t out s' =>
      out = some () ∧ s' = s ∧ verdict t = requeued [] c.published := by
  change Runs c.handler (if c.published then _ else _) s fun t out s' =>
    out = some () ∧ s' = s ∧ verdict (⟨.publish _ _, c.published⟩ :: t) = _
  cases hpub : c.published with
  | true => exact ⟨rfl, rfl, verdict_publish _ _ _ rfl⟩
  | false => exact ⟨rfl, rfl, verdict_publish _ _ _ rfl⟩

variable {rcfg : RouterConfig} {isCreate : Bool} {payload : InboundPayload} {m : Msg}

structure Wired (rcfg : RouterConfig) (cfg : ProcessorConfig) : Prop where
  unmarshalEvent : cfg.unmarshalEvent = rcfg.unmarshalEvent
  forwarder : cfg.forwarder = rcfg.forwarder
  retryMaxAttempts : cfg.retryMaxAttempts = rcfg.retryMaxAttempts
  claimedResourcesSet : cfg.claimedResourcesSet = true
  inFlightSet : cfg.inFlightSet = true

def requestOf (isCreate : Bool) (payload : InboundPayload) : CEResult :=
  ⟨payload.resourceID, payload.serviceType, payload.eventID,
    if isCreate then typeRequestCreate else typeRequestDelete, payload.spec⟩

theorem requestOf_isCreate :
    (requestOf isCreate payload).ceType = typeRequestCreate ↔ isCreate = true := by
  cases isCreate <;> simp [requestOf, typeRequestCreate, typeRequestDelete]

theorem forwardParams_requestOf :
    RetryProcessor.forwardParams (requestOf isCreate payload) =
      RequestHandling.paramsOf isCreate payload := by
  cases isCreate <;>
    simp [RetryProcessor.forwardParams, requestOf, RequestHandling.paramsOf, typeRequestCreate,
      typeRequestDelete]

theorem parseCE_of_parseRequestCE (hwired : Wired rcfg cfg) {data : Bytes}
    (hparse : parseRequestCE rcfg data = some (isCreate, payload)) :
    parseCE cfg data = some (requestOf isCreate payload) := by
  obtain ⟨event, hevent, h⟩ := Option.bind_eq_some_iff.mp hparse
  unfold parseCE
  rw [hwired.unmarshalEvent, hevent]
  dsimp only at h
  split at h
  · obtain ⟨_, ⟨⟩, h⟩ := Option.bind_eq_some_iff.mp h
    obtain ⟨raw, hraw, ⟨⟩⟩ := Option.bind_eq_some_iff.mp h
    simp [requestOf, *, RequestIdentity.unmarshalPayload_untagged hraw]
  · split at h
    · obtain ⟨_, ⟨⟩, h⟩ := Option.bind_eq_some_iff.mp h
      obtain ⟨raw, hraw, ⟨⟩⟩ := Option.bind_eq_some_iff.mp h
      simp [requestOf, *, RequestIdentity.unmarshalPayload_untagged hraw]
    · cases h

def routeReady (cfg : ProcessorConfig) (m : Msg) (res : CEResult) (sp : StoredProvider) :
    Routine Unit := do
  if ← RetryProcessor.forwardRequest cfg sp res then
    let _ ← ack m
  else RetryProcessor.requeueToRetryTopic cfg m false

theorem routed_forwarded {t : List RoutingEvent} {done : Bool}
    (ht : verdict t = ⟨calls, ending.errors, false, false⟩) (hout : some done = drainResult ending)
    (hs : s.1 = { w with claimed := drainClaim w.claimed r (.forwarded calls ending) }) :
    Runs c.handler (if done then do let _ ← ack m
        else RetryProcessor.requeueToRetryTopic cfg m false) s fun u out s' =>
      DrainEnd c w.denyList w r (.forwarded calls ending) (verdict (t ++ u)) out s' := by
  cases ending with
  | succeeded =>
    cases hout
    refine ⟨?_, hs, nofun⟩
    rw [verdict_ack, ht]
    rfl
  | failed error =>
    cases hout
    refine ⟨?_, hs, nofun⟩
    rw [verdict_ack, ht]
    rfl
  | cutOff =>
    cases hout
    refine requeue_runs.mono ?_
    rintro u _ _ ⟨rfl, rfl, hu⟩
    refine ⟨?_, hs, nofun⟩
    rw [verdict_append, ht, hu]
    simp [requeued, Ending.errors, Decision.drain]
  | panicked => cases hout

theorem unwound_forwarded {t : List RoutingEvent}
    (ht : verdict t = ⟨calls, ending.errors, false, false⟩) (hout : none = drainResult ending)
    (hs : s.1 = { w with claimed := drainClaim w.claimed r (.forwarded calls ending) }) :
    DrainEnd c w.denyList w r (.forwarded calls ending) (verdict t) none s := by
  cases ending with
  | panicked => exact ⟨ht, hs, fun _ => ⟨calls, rfl⟩⟩
  | _ => cases hout

theorem routeReady_runs (hwired : Wired rcfg cfg)
    (hpass : ¬ (isCreate = true ∧ payload.resourceID ∈ w.denyList)) :
    Runs c.handler (routeReady cfg m (requestOf isCreate payload) sp) (w, 0) fun t out s =>
      DrainEnd c w.denyList w payload.resourceID (readyDecision rcfg c w isCreate payload sp)
        (verdict t) out s := by
  unfold readyDecision
  split
  · rename_i hf
    unfold routeReady RetryProcessor.forwardRequest
    rw [hwired.forwarder, if_pos hf]
    exact ⟨rfl, rfl, nofun⟩
  · rename_i hf
    have hf : cfg.forwarder = true := by rw [hwired.forwarder]; simpa using hf
    split
    · rename_i hheld
      refine (forwardRequest_held hwired.inFlightSet hf hheld).bind ?_ nofun
      rintro t _ _ ⟨ht, ⟨⟩, rfl⟩
      refine requeue_runs.mono ?_
      rintro u _ _ ⟨rfl, rfl, hu⟩
      exact ⟨(verdict_silent_append ht u).trans hu, rfl, nofun⟩
    · rename_i hfree
      have hrun := forwards_eval c sp (RequestHandling.paramsOf isCreate payload)
        rcfg.retryMaxAttempts w
      rw [← forwardParams_requestOf, ← hwired.retryMaxAttempts] at hrun
      have hpass' : ¬ ((requestOf isCreate payload).ceType = typeRequestCreate ∧
          (requestOf isCreate payload).resourceID ∈ w.denyList) := by
        rwa [requestOf_isCreate]
      refine (forwardRequest_runs hwired.claimedResourcesSet hwired.inFlightSet hf hpass' hfree
        hrun).bind ?_ ?_
      · rintro t done s ⟨ht, hout, hs⟩
        rw [forwardParams_requestOf, hwired.retryMaxAttempts] at ht hout hs
        exact routed_forwarded ht hout hs
      · rintro t s ⟨ht, hout, hs⟩
        rw [forwardParams_requestOf, hwired.retryMaxAttempts] at ht hout hs
        exact unwound_forwarded ht hout hs

def drainRequest (cfg : ProcessorConfig) (m : Msg) (res : CEResult) : Routine Unit := do
  if ← RetryProcessor.deniedCreate res then
    let _ ← ack m
  else
    let _ ← inProgress m
    RetryProcessor.routeMessage cfg m res false

theorem drainMainMessage_eq (h : parseCE cfg m.data = some res) :
    drainMainMessage cfg m = drainRequest cfg m res := by
  unfold drainMainMessage
  rw [h]
  rfl

theorem drainRequest_runs (hwired : Wired rcfg cfg) :
    Runs c.handler (drainRequest cfg m (requestOf isCreate payload)) (w, 0) fun t out s =>
      DrainEnd c (drainDenyList w isCreate payload.resourceID) w payload.resourceID
        (decisionOf rcfg c w isCreate payload) (verdict t) out s := by
  unfold decisionOf drainDenyList
  split
  · rename_i hdenied
    obtain ⟨rfl, hr⟩ := hdenied
    change Runs c.handler (if (w.denyList.contains payload.resourceID).1 then _ else _) _ _
    rw [if_pos ((ResourceSet.contains_fst _ _).mpr hr)]
    exact ⟨rfl, rfl, nofun⟩
  · rename_i hpass
    have hpass' : ¬ ((requestOf isCreate payload).ceType = typeRequestCreate ∧
        (requestOf isCreate payload).resourceID ∈ w.denyList) := by
      rwa [requestOf_isCreate]
    refine (deniedCreate_runs hpass').bind ?_ nofun
    rintro t _ _ ⟨⟨⟩, rfl, ht⟩
    refine Runs.mono ?_ fun u out s h => (verdict_silent_append ht u).symm ▸ h
    change Runs c.handler (RetryProcessor.routeMessage cfg m (requestOf isCreate payload) false)
      (w, 0) fun t out s => DrainEnd c w.denyList w payload.resourceID _
        (verdict (⟨.inProgress m, c.acknowledged⟩ :: t)) out s
    refine Runs.mono ?_ fun u out s h => (verdict_inProgress m _ u).symm ▸ h
    refine (resolveProvider_runs payload.serviceType _).bind ?_ nofun
    rintro reads _ _ ⟨⟨⟩, rfl, hreads⟩
    refine Runs.mono ?_ fun u out s h => (verdict_reads_append hreads u).symm ▸ h
    match c.registry.resolve payload.serviceType with
    | .error e => exact ⟨rfl, rfl, nofun⟩
    | .ok none =>
      refine requeue_runs.mono ?_
      rintro u _ _ ⟨rfl, rfl, hu⟩
      exact ⟨hu, rfl, nofun⟩
    | .ok (some (_, .unavailable)) => exact ⟨rfl, rfl, nofun⟩
    | .ok (some (_, .unhealthy)) =>
      refine requeue_runs.mono ?_
      rintro u _ _ ⟨rfl, rfl, hu⟩
      exact ⟨hu, rfl, nofun⟩
    | .ok (some (sp, .ready)) => exact routeReady_runs hwired hpass

def drainFetched (cfg : ProcessorConfig) (msgs : List Msg) :
    Routine (Option RetryProcessor.ProcessorErr) := do
  RetryProcessor.heartbeatAll msgs
  Prog.each msgs (drainMainMessage cfg)
  return none

theorem drainMainTopic_runs (hwired : Wired rcfg cfg)
    (hparse : parseRequestCE rcfg m.data = some (isCreate, payload))
    (hfetched : c.fetched.msgs = [m]) (hcomplete : c.fetched.failed = false) :
    Runs c.handler (drainMainTopic cfg) (w, 0) fun t _ s =>
      verdict t = (decisionOf rcfg c w isCreate payload).drain c.published ∧ s.1 = { w with
        denyList := drainDenyList w isCreate payload.resourceID
        claimed := drainClaim w.claimed payload.resourceID
          (decisionOf rcfg c w isCreate payload) } := by
  change Runs c.handler (if c.fetched.failed then _ else drainFetched cfg c.fetched.msgs) (w, 0)
    fun t _ s => verdict (⟨.fetchAll _ _, c.fetched⟩ :: t) = _ ∧ s.1 = _
  rw [if_neg (by simp [hcomplete]), hfetched]
  have hmsg : Runs c.handler (drainMainMessage cfg m) (w, 0) fun t out s =>
      DrainEnd c (drainDenyList w isCreate payload.resourceID) w payload.resourceID
        (decisionOf rcfg c w isCreate payload) (verdict t) out s := by
    rw [drainMainMessage_eq (parseCE_of_parseRequestCE hwired hparse)]
    exact drainRequest_runs hwired
  have hloop : Runs c.handler (Prog.each [m] (drainMainMessage cfg)) (w, 0) fun t _ s =>
      verdict t = (decisionOf rcfg c w isCreate payload).drain c.published ∧ s.1 = { w with
        denyList := drainDenyList w isCreate payload.resourceID
        claimed := drainClaim w.claimed payload.resourceID
          (decisionOf rcfg c w isCreate payload) } := by
    exact Runs.map (b := ()) hmsg fun t _ s h => ⟨h.verdict, h.state⟩
  have before : ∀ t, verdict (⟨.fetchAll MessagingTopics.requestStreamName cfg.topics.mainConsumer,
      c.fetched⟩ :: ⟨.inProgress m, c.acknowledged⟩ :: t) = verdict t := fun t => by
    simp [verdict, isCopy]
  exact Runs.map (p := Prog.each [m] (drainMainMessage cfg)) (b := none) hloop
    fun t _ s h => ⟨(before t).trans h.1, h.2⟩

end Drain

theorem forwardAttempts_disturbed {c : Circumstances} (sp : StoredProvider)
    (params : ForwardParams) (left attempt : ℕ) (s : SharedState × ℕ) :
    Runs c.handler (RoutingForwarder.forwardAttempts sp params left attempt) s fun _ out _ =>
      (out = none → ∃ n, c.attempt n = .panicked) ∧
        (out = some (some .context) → ∃ n, c.ended n = true) := by
  induction left using Nat.strongRecOn generalizing attempt s with
  | ind left ih =>
    unfold RoutingForwarder.forwardAttempts
    cases hx : c.attempt s.2 with
    | ok => exact Runs.call (x := .ok) (u := (s.1, s.2 + 1)) (by rw [← hx]; rfl) ⟨by simp, by simp⟩
    | panicked =>
      exact Runs.call (x := .panicked) (u := (s.1, s.2 + 1)) (by rw [← hx]; rfl)
        ⟨fun _ => ⟨_, hx⟩, by simp⟩
    | err e =>
      refine Runs.call (x := .err e) (u := (s.1, s.2 + 1)) (by rw [← hx]; rfl) ?_
      change Runs c.handler (if c.ended (s.2 + 1) then _ else _) (s.1, s.2 + 2) _
      split
      · exact ⟨by simp, fun _ => ⟨_, ‹_›⟩⟩
      · change Runs c.handler (if !RoutingForwarder.isRetryable e then _ else _) (s.1, s.2 + 2) _
        split
        · exact ⟨by simp, by simp⟩
        · cases left with
          | zero => exact ⟨by simp, by simp⟩
          | succ left =>
            change Runs c.handler (if c.ended (s.2 + 2) then _ else _) (s.1, s.2 + 3) _
            split
            · exact ⟨by simp, fun _ => ⟨_, ‹_›⟩⟩
            · exact ih left (Nat.lt_succ_self left) (attempt + 1) _

section Agreement

variable {rcfg : RouterConfig} {c : Circumstances} {w : SharedState} {isCreate : Bool}
  {payload : InboundPayload}

def Denied (w : SharedState) (isCreate : Bool) (r : String) : Prop :=
  isCreate = true ∧ r ∈ w.denyList

theorem decisionOf_unregistered :
    decisionOf rcfg c w isCreate payload = .unregistered ↔
      ¬ Denied w isCreate payload.resourceID ∧
        c.registry.resolve payload.serviceType = .ok none := by
  unfold decisionOf
  split
  · simp [Denied, *]
  · rename_i hpass
    match hres : c.registry.resolve payload.serviceType with
    | .error e => simp
    | .ok none => simpa [Denied] using hpass
    | .ok (some (_, .unavailable)) => simp
    | .ok (some (_, .unhealthy)) => simp
    | .ok (some (sp, .ready)) =>
      simp only [readyDecision, Except.ok.injEq, reduceCtorEq, and_false, iff_false]
      split
      · simp
      · split <;> simp

theorem decisionOf_ready {d : Decision} (hd : decisionOf rcfg c w isCreate payload = d)
    (hready : d = .inFlight ∨ ∃ calls ending, d = .forwarded calls ending) :
    ∃ sp, readyDecision rcfg c w isCreate payload sp = d := by
  unfold decisionOf at hd
  split at hd
  · subst hd; simp at hready
  · split at hd <;> first | exact ⟨_, hd⟩ | (subst hd; simp at hready)

theorem decisionOf_inFlight (hd : decisionOf rcfg c w isCreate payload = .inFlight) :
    payload.resourceID ∈ w.inFlight.items := by
  obtain ⟨sp, hsp⟩ := decisionOf_ready hd (Or.inl rfl)
  unfold readyDecision at hsp
  split at hsp
  · cases hsp
  · split at hsp
    · assumption
    · cases hsp

theorem endingOf_disturbed {n : ℕ}
    (h : (out = none → ∃ n, c.attempt n = .panicked) ∧
      (out = some (some .context) → ∃ n, c.ended n = true)) :
    (endingOf c n out = .panicked → ∃ n, c.attempt n = .panicked) ∧
      (endingOf c n out = .cutOff → ∃ n, c.ended n = true) := by
  match out with
  | none => exact ⟨fun _ => h.1 rfl, nofun⟩
  | some none => exact ⟨nofun, nofun⟩
  | some (some .context) => exact ⟨nofun, fun _ => h.2 rfl⟩
  | some (some (.sp e)) =>
    by_cases hended : c.ended n = true
    · exact ⟨by simp [endingOf, hended], fun _ => ⟨n, hended⟩⟩
    · exact ⟨by simp [endingOf, hended], by simp [endingOf, hended]⟩

theorem decisionOf_forwarded {calls : List (SPCall × SPResult)} {ending : Ending}
    (hd : decisionOf rcfg c w isCreate payload = .forwarded calls ending) :
    (ending = .panicked → ∃ n, c.attempt n = .panicked) ∧
      (ending = .cutOff → ∃ n, c.ended n = true) := by
  obtain ⟨sp, hsp⟩ := decisionOf_ready hd (Or.inr ⟨_, _, rfl⟩)
  unfold readyDecision at hsp
  split at hsp
  · cases hsp
  · split at hsp
    · cases hsp
    · obtain ⟨-, rfl⟩ := Decision.forwarded.inj hsp
      exact endingOf_disturbed (runs_iff.mp (forwardAttempts_disturbed sp
        (RequestHandling.paramsOf isCreate payload) ((max 1 rcfg.retryMaxAttempts).toNat - 1) 0
        (w, 0)))

/-- Another forward of the resource is in flight, or the context of this one has ended: the live
path leaves the message for redelivery, the drain moves it. -/
def Deferred (c : Circumstances) (w : SharedState) (r : String) (live drain : Verdict) : Prop :=
  (r ∈ w.inFlight.items ∨ ∃ n, c.ended n = true) ∧
    ∃ calls, live = ⟨calls, [], false, false⟩ ∧ drain = requeued calls c.published

structure Agree (c : Circumstances) (w : SharedState) (isCreate : Bool) (payload : InboundPayload)
    (live drain : List RoutingEvent) (liveSets drainSets : SharedState) : Prop where
  unregistered : ¬ Denied w isCreate payload.resourceID →
    c.registry.resolve payload.serviceType = .ok none →
    verdict live = ⟨[], [errorUnsupportedServiceType], false, true⟩ ∧
      verdict drain = requeued [] c.published
  decision : Denied w isCreate payload.resourceID ∨
      c.registry.resolve payload.serviceType ≠ .ok none →
    verdict drain = verdict live ∨
      Deferred c w payload.resourceID (verdict live) (verdict drain)
  claimed : (∀ n, c.attempt n ≠ .panicked) → drainSets.claimed = liveSets.claimed
  inFlight : liveSets.inFlight = w.inFlight ∧ drainSets.inFlight = w.inFlight
  passed : ¬ Denied w isCreate payload.resourceID →
    liveSets.denyList = w.denyList ∧ drainSets.denyList = w.denyList
  usedUp : Denied w isCreate payload.resourceID →
    payload.resourceID ∉ liveSets.denyList ∧ payload.resourceID ∈ drainSets.denyList ∧
      ∀ x ≠ payload.resourceID, x ∈ drainSets.denyList ↔ x ∈ liveSets.denyList

theorem decision_compare (hdecision : Denied w isCreate payload.resourceID ∨
      c.registry.resolve payload.serviceType ≠ .ok none) :
    (decisionOf rcfg c w isCreate payload).drain c.published =
        (decisionOf rcfg c w isCreate payload).live c.published ∨
      Deferred c w payload.resourceID ((decisionOf rcfg c w isCreate payload).live c.published)
        ((decisionOf rcfg c w isCreate payload).drain c.published) := by
  cases hd : decisionOf rcfg c w isCreate payload with
  | unregistered =>
    obtain ⟨hpass, hres⟩ := decisionOf_unregistered.mp hd
    exact (hdecision.elim hpass fun h => h hres).elim
  | inFlight => exact Or.inr ⟨Or.inl (decisionOf_inFlight hd), [], rfl, rfl⟩
  | forwarded calls ending =>
    cases ending with
    | cutOff => exact Or.inr ⟨Or.inr ((decisionOf_forwarded hd).2 rfl), calls, rfl, rfl⟩
    | _ => exact Or.inl rfl
  | _ => exact Or.inl rfl

theorem claim_compare (h : ∀ n, c.attempt n ≠ .panicked) :
    drainClaim w.claimed payload.resourceID (decisionOf rcfg c w isCreate payload) =
      claimAfter w.claimed payload.resourceID (decisionOf rcfg c w isCreate payload) := by
  cases hd : decisionOf rcfg c w isCreate payload with
  | forwarded calls ending =>
    cases ending with
    | panicked =>
      obtain ⟨n, hn⟩ := (decisionOf_forwarded hd).1 rfl
      exact (h n hn).elim
    | _ => rfl
  | _ => rfl

/-- The drain of the main topic and the live path on the same request, from the same sets and
in the same circumstances. -/
theorem drain_agrees_with_live {cfg : ProcessorConfig} {client : ClientConfig} {m : Msg}
    (hwired : Wired rcfg cfg) (hparse : parseRequestCE rcfg m.data = some (isCreate, payload))
    (hids : ¬ (payload.resourceID = "" ∨ payload.serviceType = ""))
    (hdeliver : Deliverable client c) (hfetched : c.fetched.msgs = [m])
    (hcomplete : c.fetched.failed = false) :
    Agree c w isCreate payload
      ((handleMainMessage client (handleRequest rcfg) m).eval c.handler (w, 0)).1
      ((drainMainTopic cfg).eval c.handler (w, 0)).1
      ((handleMainMessage client (handleRequest rcfg) m).eval c.handler (w, 0)).2.2.1
      ((drainMainTopic cfg).eval c.handler (w, 0)).2.2.1 := by
  obtain ⟨hlive, hliveSets⟩ := runs_iff.mp (handleMainMessage_runs (w := w) hparse hids hdeliver)
  obtain ⟨hdrain, hdrainSets⟩ := runs_iff.mp
    (drainMainTopic_runs (w := w) hwired hparse hfetched hcomplete)
  constructor
  · intro hpass hres
    have hd : decisionOf rcfg c w isCreate payload = .unregistered :=
      decisionOf_unregistered.mpr ⟨hpass, hres⟩
    rw [hlive, hdrain, hd]
    exact ⟨rfl, rfl⟩
  · intro h
    rw [hlive, hdrain]
    exact decision_compare h
  · intro h
    rw [hliveSets, hdrainSets]
    exact claim_compare h
  · rw [hliveSets, hdrainSets]
    exact ⟨rfl, rfl⟩
  · intro hpass
    rw [hliveSets, hdrainSets]
    exact ⟨if_neg hpass, if_neg hpass⟩
  · intro hdenied
    rw [hliveSets, hdrainSets]
    have hl : liveDenyList w isCreate payload.resourceID = _ := if_pos hdenied
    have hd : drainDenyList w isCreate payload.resourceID = _ := if_pos hdenied
    simp only [hl, hd, ResourceSet.mem_consume, ResourceSet.mem_contains]
    exact ⟨fun h => h.1 rfl, hdenied.2, fun x hx => ⟨fun h => ⟨hx, h⟩, And.right⟩⟩

end Agreement

def createProcessor : ProcessorConfig :=
  { RetryDedup.vmProcessor with unmarshalEvent := RequestFinality.createRouter.unmarshalEvent }

def createMsg : Msg := ⟨1, RequestFinality.createBytes⟩

def fiveDeliveries : ClientConfig := ⟨5, "agent", "dcm.agent.agent", fun _ => ""⟩

def smooth (registry : Registry) : Circumstances :=
  ⟨registry, fun _ => .ok, fun _ => false, true, true, true, some 1,
    ⟨[createMsg], List.nodup_singleton _, false⟩⟩

def vmReady : Registry := (singleProvider RetryDedup.vmProvider .ready .ok).registry

def liveRun (registry : Registry) (w : SharedState) :
    List RoutingEvent × Option Unit × SharedState × ℕ :=
  (handleMainMessage fiveDeliveries (handleRequest RequestFinality.createRouter) createMsg).eval
    (smooth registry).handler (w, 0)

def drainRun (registry : Registry) (w : SharedState) :
    List RoutingEvent × Option (Option RetryProcessor.ProcessorErr) × SharedState × ℕ :=
  (drainMainTopic createProcessor).eval (smooth registry).handler (w, 0)

theorem createProcessor_wired : Wired RequestFinality.createRouter createProcessor :=
  ⟨rfl, rfl, rfl, rfl, rfl⟩

theorem drain_agrees_with_live_ready :
    Agree (smooth vmReady) ⟨.new 10, .new 10, .new⟩ true RequestFinality.createPayload
      (liveRun vmReady ⟨.new 10, .new 10, .new⟩).1 (drainRun vmReady ⟨.new 10, .new 10, .new⟩).1
      (liveRun vmReady ⟨.new 10, .new 10, .new⟩).2.2.1
      (drainRun vmReady ⟨.new 10, .new 10, .new⟩).2.2.1 ∧
    (verdict (drainRun vmReady ⟨.new 10, .new 10, .new⟩).1).calls =
      [(.create "http://p" false ⟨"r", "vm", none, "e"⟩, .ok)] :=
  ⟨drain_agrees_with_live createProcessor_wired RequestFinality.parse_createBytes (by decide)
    (Or.inr ⟨1, rfl, by decide⟩) rfl rfl, by decide +kernel⟩

/-- Where nobody serves the type the live path rejects what the drain moves; of a denied create
only the live path uses up the entry. -/
theorem drain_differs_from_live :
    (verdict (liveRun RequestFinality.emptyRegistry ⟨.new 10, .new 10, .new⟩).1 =
        ⟨[], [errorUnsupportedServiceType], false, true⟩ ∧
      verdict (drainRun RequestFinality.emptyRegistry ⟨.new 10, .new 10, .new⟩).1 =
        ⟨[], [], true, true⟩) ∧
    ("r" ∉ (liveRun vmReady ⟨(ResourceSet.new 10).add "r", .new 10, .new⟩).2.2.1.denyList ∧
      "r" ∈ (drainRun vmReady ⟨(ResourceSet.new 10).add "r", .new 10, .new⟩).2.2.1.denyList) := by
  decide +kernel

end RestartAgreement
