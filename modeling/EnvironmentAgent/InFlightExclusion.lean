import EnvironmentAgent.RoutineRules

/-! # One forward per resource

Every forward of the router and of the retry processor runs between an `AddIfAbsent` that answered
true and the deferred `Remove` of the same resource id. -/
namespace InFlightExclusion

open AtomicPrograms ProgramInterleavings RoutingCloudEvent RoutingEffects RoutingSharedState
open RoutingResourceSet MessagingTopics RoutingRouter RetryProcessor MessagingHandlers
open RoutineRules
open RoutingForwarder (publishOutcome)

def heldStep (held : Finset String) : RoutingEvent → Finset String
  | ⟨.lockAddIfAbsent r, true⟩ => insert r held
  | ⟨.lockRemove r, _⟩ => held.erase r
  | _ => held

def heldBy (events : List RoutingEvent) : Finset String := events.foldl heldStep ∅

def lockMonitor : Monitor routing (Finset String) where
  allowed held
    | .lockRemove r => r ∈ held
    | .sp c => c.resourceID ∈ held
    | _ => True
  next := heldStep

def LockFree : Op → Prop
  | .lockAddIfAbsent _ | .lockRemove _ | .sp _ => False
  | _ => True

theorem lockMonitor_ignores : lockMonitor.Ignores LockFree := by
  intro held o ho
  cases o <;> first | exact ho.elim | exact ⟨trivial, fun _ => rfl⟩

abbrev Releases {α : Type} (p : Routine α) : Prop := Restores lockMonitor ∅ p

variable {payload : InboundPayload}

section Forwards

variable {held : Finset String} (cfg : RouterConfig) (pcfg : ProcessorConfig)
  (sp : StoredProvider)

theorem forwardWithRetry_restores {params : RoutingForwarder.ForwardParams} (n : ℤ)
    (h : params.resourceID ∈ held) :
    Restores lockMonitor held (RoutingForwarder.forwardWithRetry sp params n) := by
  refine RoutingForwarder.forwardAttempts_follows (· = held) (fun _ m => m = held)
    ?_ ?_ ?_ ?_ ?_ ?_ ?_ ?_ _ _ rfl
  · rintro m rfl
    simpa [lockMonitor, RoutingForwarder.spCallOf_resourceID] using h
  · exact fun _ hm => hm
  · exact fun _ hm => hm
  · exact fun _ _ hm => hm
  · intro m e o ho hm
    cases o <;> first | exact ho.elim | exact ⟨trivial, fun _ => hm⟩
  · exact fun _ _ hm => hm
  · exact fun _ _ hm => hm
  · exact fun _ _ hm _ => hm

theorem publishOutcome_restores (ceType : String) (data : ResponseData) :
    Restores lockMonitor held (publishOutcome ceType data) := ⟨trivial, fun _ => rfl⟩

theorem dispatch_restores (isCreate : Bool) (h : payload.resourceID ∈ held) :
    Restores lockMonitor held (dispatch cfg sp isCreate payload) := by
  refine (forwardWithRetry_restores sp cfg.retryMaxAttempts h).bind ?_
  rintro (_ | _ | e)
  · cases isCreate <;> exact (publishOutcome_restores _ _).bind fun _ => rfl
  · rfl
  · refine ⟨trivial, ?_⟩
    rintro (_ | _)
    · exact (publishOutcome_restores _ _).bind fun _ => rfl
    · rfl

theorem consumeDenied_restores (isCreate : Bool) (r : String) :
    Restores lockMonitor held (consumeDenied isCreate r) := by
  cases isCreate
  · rfl
  · exact ⟨trivial, fun _ => rfl⟩

theorem claimAndDispatch_restores (isCreate : Bool) (h : payload.resourceID ∈ held) :
    Restores lockMonitor held (claimAndDispatch cfg sp isCreate payload) := by
  refine ⟨trivial, fun newlyAdded => (consumeDenied_restores isCreate _).bind ?_⟩
  rintro (_ | _)
  · refine ((dispatch_restores cfg sp isCreate h).ensure fun out => ?_).bind fun _ => rfl
    unfold RoutingRouter.releaseClaim
    split
    · exact ⟨trivial, fun _ => rfl⟩
    · rfl
  · cases newlyAdded
    · rfl
    · exact ⟨trivial, fun _ => rfl⟩

theorem locked_releases {α : Type} {r : String} {body : Routine α}
    (h : Restores lockMonitor {r} body) :
    Follows lockMonitor (body.ensure fun _ => lockRemove r) {r} fun _ held => held = ∅ := by
  refine follows_ensure.mpr (Follows.mono h ?_)
  rintro out m rfl
  refine ⟨Finset.mem_singleton_self r, fun _ => ?_⟩
  exact Finset.erase_singleton r

theorem forwardWithRetry_releases (isCreate : Bool) (payload : InboundPayload) :
    Releases (RoutingRouter.forwardWithRetry cfg sp isCreate payload) := by
  refine ⟨trivial, ?_⟩
  rintro (_ | _)
  · rfl
  · exact locked_releases (claimAndDispatch_restores cfg sp isCreate (Finset.mem_singleton_self _))

theorem deniedCreate_restores (res : CEResult) :
    Restores lockMonitor held (deniedCreate res) := by
  unfold deniedCreate
  split
  · exact ⟨trivial, fun _ => rfl⟩
  · rfl

theorem claim_restores (r : String) : Restores lockMonitor held (claim pcfg r) := by
  unfold claim
  split
  · exact ⟨trivial, fun _ => rfl⟩
  · rfl

theorem releaseClaim_restores (newlyAdded : Bool) (r : String) :
    Restores lockMonitor held (RetryProcessor.releaseClaim newlyAdded r) := by
  cases newlyAdded
  · rfl
  · exact ⟨trivial, fun _ => rfl⟩

theorem claimAndForward_restores {res : CEResult} (h : res.resourceID ∈ held) :
    Restores lockMonitor held (claimAndForward pcfg sp res) := by
  refine (claim_restores pcfg _).bind fun newlyAdded => (deniedCreate_restores res).bind ?_
  rintro (_ | _)
  · refine (forwardWithRetry_restores sp pcfg.retryMaxAttempts h).bind ?_
    rintro (_ | _ | e)
    · unfold publishAckCE
      refine Restores.bind ?_ fun _ => rfl
      split <;> exact publishOutcome_restores _ _
    · exact (releaseClaim_restores newlyAdded _).bind fun _ => rfl
    · refine (releaseClaim_restores newlyAdded _).bind fun _ => ⟨trivial, ?_⟩
      rintro (_ | _)
      · exact (publishOutcome_restores _ _).bind fun _ => rfl
      · rfl
  · exact (releaseClaim_restores newlyAdded _).bind fun _ => rfl

theorem forwardRequest_releases (hset : pcfg.inFlightSet = true) (res : CEResult) :
    Releases (forwardRequest pcfg sp res) := by
  unfold forwardRequest
  simp only [hset, if_true]
  cases pcfg.forwarder
  · exact (publishOutcome_restores _ _).bind fun _ => rfl
  · refine ⟨trivial, ?_⟩
    rintro (_ | _)
    · rfl
    · exact locked_releases (claimAndForward_restores pcfg sp (Finset.mem_singleton_self _))

end Forwards

theorem lockMonitor_quiet : Quiet lockMonitor (· = ∅) := by
  intro held o ho hheld
  have hfree : LockFree o := by cases o <;> first | exact ho.elim | trivial
  obtain ⟨hallowed, hnext⟩ := lockMonitor_ignores held o hfree
  exact ⟨hallowed, fun x => (hnext x).trans hheld⟩

theorem lockMonitor_batches {pcfg : ProcessorConfig} (hset : pcfg.inFlightSet = true) :
    Batches lockMonitor pcfg (· = ∅) fun _ held => held = ∅ where
  quiet := lockMonitor_quiet
  progress _ _ hheld := ⟨trivial, fun _ => hheld⟩
  idle _ _ hheld := hheld
  reads _ held o ho := lockMonitor_quiet held o (IsRead.quiet ho)
  forward sp _ res held _ hheld := by
    subst hheld
    exact forwardRequest_releases pcfg sp hset res

/-- The parts as the agent wires them: the retry processor is given the router's lock. -/
structure Wiring where
  router : RouterConfig
  processor : ProcessorConfig
  client : ClientConfig
  sharedLock : processor.inFlightSet = true

/-- What a goroutine of the agent runs. `forward` is a `forwardRequest` on its own. -/
inductive Invocation where
  | request (msg : Bytes)
  | forward (sp : StoredProvider) (res : CEResult)
  | mainMessage (m : Msg)
  | cancel (msg : Bytes)
  | transition (providerID : String) (toStatus : ProviderStatus)
  | restart

def Wiring.routine (a : Wiring) : Invocation → Routine Unit
  | .request msg => do let _ ← handleRequest a.router msg
  | .forward sp res => do let _ ← forwardRequest a.processor sp res
  | .mainMessage m => handleMainMessage a.client (handleRequest a.router) m
  | .cancel msg => do let _ ← handleCancel a.router (fetchRetryMessages a.processor) msg
  | .transition providerID toStatus => do
    let _ ← processOnTransition a.processor providerID toStatus
  | .restart => do let _ ← processOnRestart a.processor

variable {a : Wiring}

theorem routine_preserves {M : Type} {A : Monitor routing M} {I : M → Prop} {J : Msg → M → Prop}
    (batches : Batches A a.processor I J)
    (live : ∀ sp isCreate payload,
      Preserves A I (RoutingRouter.forwardWithRetry a.router sp isCreate payload))
    (alone : ∀ sp res, Preserves A I (forwardRequest a.processor sp res)) (call : Invocation) :
    Preserves A I (a.routine call) := by
  have request : ∀ msg, Preserves A I (handleRequest a.router msg) := fun msg =>
    handleRequest_preserves batches.quiet fun sp isCreate payload _ => live sp isCreate payload
  cases call with
  | request msg => exact (request msg).bind fun _ => Preserves.pure ()
  | forward sp res => exact (alone sp res).bind fun _ => Preserves.pure ()
  | mainMessage m => exact handleMainMessage_preserves batches.quiet (request m.data)
  | cancel msg =>
    exact (handleCancel_quiet batches.quiet a.router a.processor msg).bind fun _ =>
      Preserves.pure ()
  | transition providerID toStatus =>
    exact (processOnTransition_preserves batches providerID toStatus).bind fun _ =>
      Preserves.pure ()
  | restart => exact (processOnRestart_preserves batches).bind fun _ => Preserves.pure ()

theorem routine_releases (a : Wiring) (call : Invocation) : Releases (a.routine call) := by
  refine routine_preserves (lockMonitor_batches a.sharedLock) ?_ ?_ call ∅ rfl
  · intro sp isCreate payload held hheld
    subst hheld
    exact forwardWithRetry_releases a.router sp isCreate payload
  · intro sp res held hheld
    subst hheld
    exact forwardRequest_releases a.processor sp a.sharedLock res

variable {env : Environment}

theorem act_inFlight {w w' : SharedState} {o : Op} {x : o.Ans} (h : act env o w x w') :
    w'.inFlight.items = heldStep w.inFlight.items ⟨o, x⟩ ∧
      ∀ r, (⟨o, x⟩ : RoutingEvent) = ⟨.lockAddIfAbsent r, true⟩ → r ∉ w.inFlight.items := by
  unfold act at h
  cases o with
  | lockAddIfAbsent r =>
    obtain ⟨rfl, rfl⟩ := Prod.mk.inj h
    by_cases hr : r ∈ w.inFlight.items
    · simp [KeyLock.addIfAbsent, hr, heldStep]
    · simp [KeyLock.addIfAbsent, hr, heldStep]
  | lockRemove r =>
    obtain ⟨rfl, rfl⟩ := Prod.mk.inj h
    exact ⟨rfl, fun r' he => by simp at he⟩
  | add | addIfAbsent | contains | consume | remove =>
    obtain ⟨rfl, rfl⟩ := Prod.mk.inj h
    exact ⟨by simp [heldStep], fun r' he => by simp at he⟩
  | _ =>
    obtain ⟨-, rfl⟩ := h
    exact ⟨rfl, fun r' he => by simp at he⟩

structure Exclusive (log : Log routing) (lock : KeyLock) : Prop where
  owned : ∀ r, r ∈ lock.items ↔ ∃ i, r ∈ heldBy (eventsOf i log)
  unique : ∀ i j r, r ∈ heldBy (eventsOf i log) → r ∈ heldBy (eventsOf j log) → i = j

theorem heldBy_append (t : List RoutingEvent) (e : RoutingEvent) :
    heldBy (t ++ [e]) = heldStep (heldBy t) e := by
  simp [heldBy]

theorem heldBy_snoc (log : Log routing) (i j : ℕ) (e : RoutingEvent) :
    heldBy (eventsOf j (log ++ [(i, e)])) =
      if i = j then heldStep (heldBy (eventsOf j log)) e else heldBy (eventsOf j log) := by
  by_cases h : i = j
  · subst h
    simp [heldBy_append]
  · simp [eventsOf_other h, h]

variable {log : Log routing}

theorem exclusive_step {lock lock' : KeyLock} {i : ℕ} {e : RoutingEvent} (h : Exclusive log lock)
    (hlock : lock'.items = heldStep lock.items e)
    (hfree : ∀ r, e = ⟨.lockAddIfAbsent r, true⟩ → r ∉ lock.items)
    (hheld : ∀ r, e = ⟨.lockRemove r, ()⟩ → r ∈ heldBy (eventsOf i log)) :
    Exclusive (log ++ [(i, e)]) lock' := by
  have cases : (∃ r, e = ⟨.lockAddIfAbsent r, true⟩) ∨ (∃ r, e = ⟨.lockRemove r, ()⟩) ∨
      ∀ held, heldStep held e = held := by
    obtain ⟨o, x⟩ := e
    cases o with
    | lockAddIfAbsent r =>
      cases x
      · exact Or.inr (Or.inr fun _ => rfl)
      · exact Or.inl ⟨r, rfl⟩
    | lockRemove r => exact Or.inr (Or.inl ⟨r, rfl⟩)
    | _ => exact Or.inr (Or.inr fun _ => rfl)
  rcases cases with ⟨r, rfl⟩ | ⟨r, rfl⟩ | hsame
  · -- a fresh id enters the lock set and the set of this goroutine only
    have hr : ∀ j, r ∉ heldBy (eventsOf j log) := fun j hj =>
      hfree r rfl ((h.owned r).mpr ⟨j, hj⟩)
    have hmem : ∀ j s, s ∈ heldBy (eventsOf j (log ++ [(i, ⟨.lockAddIfAbsent r, true⟩)])) ↔
        s ∈ heldBy (eventsOf j log) ∨ (s = r ∧ i = j) := by
      intro j s
      rw [heldBy_snoc]
      split <;> simp_all [heldStep, or_comm]
    constructor
    · intro s
      simp only [hlock, hmem, heldStep, Finset.mem_insert, h.owned s, exists_or,
        exists_and_left, exists_eq', and_true, or_comm]
    · intro j k s hj hk
      rcases (hmem j s).mp hj with hj | ⟨hsr, hij⟩ <;> rcases (hmem k s).mp hk with hk | ⟨hsr', hik⟩
      · exact h.unique j k s hj hk
      · exact absurd (hsr' ▸ hj) (hr j)
      · exact absurd (hsr ▸ hk) (hr k)
      · exact hij.symm.trans hik
  · -- the released id is held by this goroutine, so by no other
    have hmem : ∀ j s, s ∈ heldBy (eventsOf j (log ++ [(i, ⟨.lockRemove r, ()⟩)])) ↔
        s ∈ heldBy (eventsOf j log) ∧ s ≠ r := by
      intro j s
      rw [heldBy_snoc]
      split
      · simp [heldStep, and_comm]
      · rename_i hij
        refine ⟨fun hs => ⟨hs, ?_⟩, And.left⟩
        rintro rfl
        exact hij (h.unique i j s (hheld s rfl) hs)
    constructor
    · intro s
      simp only [hlock, hmem, heldStep, Finset.mem_erase, h.owned s, exists_and_right]
      exact and_comm
    · intro j k s hj hk
      exact h.unique j k s ((hmem j s).mp hj).1 ((hmem k s).mp hk).1
  · constructor
    · intro s
      simp only [hlock, hsame, heldBy_snoc, ite_self]
      exact h.owned s
    · intro j k s
      simp only [hsame, heldBy_snoc, ite_self]
      exact h.unique j k s

variable {d : Config routing SharedState Unit} {calls : List Invocation}

theorem run_follows {w : SharedState}
    (hrun : Run (sharedSemantics env) ⟨calls.map a.routine, w⟩ log d) :
    ∀ i p, d.threads[i]? = some p →
      Follows lockMonitor p (heldBy (eventsOf i log)) fun _ held => held = ∅ := by
  refine hrun.follows_all ?_ fun _ _ hp => absurd hp (List.not_mem_nil)
  intro p hp
  obtain ⟨call, -, rfl⟩ := List.mem_map.mp hp
  exact routine_releases a call

theorem run_exclusive {w : SharedState} (hw : w.inFlight = KeyLock.new)
    (hrun : Run (sharedSemantics env) ⟨calls.map a.routine, w⟩ log d) :
    Exclusive log d.world.inFlight := by
  induction hrun with
  | nil =>
    constructor
    · intro r
      simp [hw, KeyLock.new, heldBy]
    · intro i j r hi
      simp [heldBy] at hi
  | @snoc log d u e hr hs ih =>
    cases hs with
    | @mk i o k x w' hi ha =>
      obtain ⟨hlock, hfree⟩ := act_inFlight ha
      refine exclusive_step ih hlock hfree ?_
      intro r he
      cases he
      exact (run_follows hr i _ hi).1

def Calling (d : Config routing SharedState Unit) (i : ℕ) (c : SPCall) : Prop :=
  ∃ k : SPResult → Routine Unit, d.threads[i]? = some (.call (.sp c) k)

/-- In every interleaving of the agent's goroutines: an id is held by one goroutine at most,
provider calls for one resource never overlap, the lock set is exactly what is held, and a
goroutine that ended holds nothing. -/
theorem forward_exclusion (a : Wiring) (env : Environment) (calls : List Invocation)
    {w : SharedState} (hw : w.inFlight = KeyLock.new) {log : Log routing}
    {d : Config routing SharedState Unit}
    (hrun : Run (sharedSemantics env) ⟨calls.map a.routine, w⟩ log d) :
    (∀ i j r, r ∈ heldBy (eventsOf i log) → r ∈ heldBy (eventsOf j log) → i = j) ∧
    (∀ i j c c', Calling d i c → Calling d j c' → c.resourceID = c'.resourceID → i = j) ∧
    (∀ r, r ∈ d.world.inFlight.items ↔ ∃ i, r ∈ heldBy (eventsOf i log)) ∧
    (∀ i p, d.threads[i]? = some p → Ended p → heldBy (eventsOf i log) = ∅) ∧
    (Quiescent d → d.world.inFlight.items = ∅) := by
  have hex := run_exclusive hw hrun
  have hfollows := run_follows hrun
  have hended : ∀ i p, d.threads[i]? = some p → Ended p → heldBy (eventsOf i log) = ∅ := by
    intro i p hp hend
    have hf := hfollows i p hp
    cases p with
    | ret _ => exact hf
    | raise => exact hf
    | call _ _ => exact hend.elim
  refine ⟨hex.unique, ?_, hex.owned, hended, ?_⟩
  · rintro i j c c' ⟨k, hi⟩ ⟨k', hj⟩ hcc
    have hci : c.resourceID ∈ heldBy (eventsOf i log) := (hfollows i _ hi).1
    have hcj : c'.resourceID ∈ heldBy (eventsOf j log) := (hfollows j _ hj).1
    exact hex.unique i j _ hci (hcc ▸ hcj)
  · intro hq
    refine Finset.eq_empty_of_forall_notMem fun r hr => ?_
    obtain ⟨i, hi⟩ := (hex.owned r).mp hr
    cases hp : d.threads[i]? with
    | none =>
      rw [hrun.no_events (List.getElem?_eq_none_iff.mp hp)] at hi
      simp [heldBy] at hi
    | some p => simp [hended i p hp (hq p (List.mem_of_getElem? hp))] at hi

def contendedWiring : Wiring where
  router := ⟨fun _ => none, true, 1, "agent", "main", "retry"⟩
  processor := ⟨fun _ => none, true, true, true, 1, "agent", deriveTopicNames "agent" ""⟩
  client := ⟨5, "agent", "main", fun _ => ""⟩
  sharedLock := rfl

def contendedProvider : StoredProvider := ⟨"id", "p", "http://p", "vm", "external"⟩

def contendedStart : Config routing SharedState Unit :=
  let call := Invocation.forward contendedProvider ⟨"r", "vm", "e", typeRequestCreate, none⟩
  ⟨[call, call].map contendedWiring.routine, ⟨.new 10, .new 10, .new⟩⟩

def contendedPlay : Log routing × Config routing SharedState Unit :=
  play (handler (singleProvider contendedProvider .ready .ok)) (fun _ => []) contendedStart
    [0, 0, 1, 0]

theorem forward_exclusion_contended :
    contendedPlay.1 = [(0, ⟨.lockAddIfAbsent "r", true⟩),
      (0, ⟨.addIfAbsent .claimedResourcesSet "r", true⟩), (1, ⟨.lockAddIfAbsent "r", false⟩),
      (0, ⟨.contains .denyList "r", false⟩)] ∧
    (∀ r, r ∈ contendedPlay.2.world.inFlight.items ↔
      ∃ i, r ∈ heldBy (eventsOf i contendedPlay.1)) :=
  ⟨rfl, (forward_exclusion contendedWiring (fun _ _ => True) _ rfl
    (run_handler (fun _ => trivial) contendedStart [0, 0, 1, 0])).2.2.1⟩

end InFlightExclusion
