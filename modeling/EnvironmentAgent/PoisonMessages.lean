import EnvironmentAgent.RequestFinality

/-! # Deliveries of a message of the main topic

JetStream delivers a message with delivery counts that go up by one until it is acked or terminated,
at most `maxDeliver` times. -/
namespace PoisonMessages

open AtomicPrograms RoutingCloudEvent RoutingEffects RoutingTraces
open RoutingRouter (HandlerErr RouterConfig handleRequest)
open MessagingHandlers (ClientConfig handleMainMessage mainMessageBody resolveHandled
  publishMaxDeliverError validateMaxDeliver)

def isDeliveryError : String × ResponseData → Bool
  | (_, .error d) => d.error == errorMaxDeliveryExceeded
  | _ => false

def deliveryErrors (t : List RoutingEvent) : List (String × ResponseData) :=
  (emissions t).filter isDeliveryError

@[simp] theorem deliveryErrors_append (t u : List RoutingEvent) :
    deliveryErrors (t ++ u) = deliveryErrors t ++ deliveryErrors u := by
  simp [deliveryErrors]

/-- The handler is given the bytes only, so it does not resolve the message. -/
structure MainHandler where
  run : Bytes → Routine (Option HandlerErr)
  unresolved : ∀ data, Yields (run data) fun _ t => resolutions t = []
  otherErrors : ∀ data, Yields (run data) fun _ t => deliveryErrors t = []

def IsDeliveryError : Op → Prop
  | .publishCE _ (.error d) => d.error = errorMaxDeliveryExceeded
  | _ => False

def others : Monitor routing Unit where
  allowed _ o := ¬ IsDeliveryError o
  next _ _ := ()

theorem others_perform {o : Op} (h : ¬ IsDeliveryError o) :
    Restores others () (Prog.perform (S := routing) o) :=
  Restores.perform h fun _ => rfl

theorem others_pure {α : Type} (a : α) : Restores others () (pure a : Routine α) := rfl

theorem others_publishOutcome {ceType : String} {d : ResponseData}
    (h : ¬ IsDeliveryError (.publishCE ceType d)) :
    Restores others () (RoutingForwarder.publishOutcome ceType d) :=
  Restores.bind (others_perform h) fun _ => others_pure ()

theorem others_publishError {ctx : ResponseContext} {error message : String}
    (h : error ≠ errorMaxDeliveryExceeded) :
    Restores others () (RoutingForwarder.publishError ctx error message) :=
  others_publishOutcome h

theorem others_resolveProvider (serviceType : String) :
    Restores others () (RoutingForwarder.resolveProvider serviceType) := by
  apply RoutingForwarder.resolveProvider_follows_ignored serviceType
  · intro m o ho
    refine ⟨fun hd => ?_, fun _ => rfl⟩
    cases o <;> first | exact ho | exact hd
  · intro res
    rfl

theorem others_forwardWithRetry (sp : StoredProvider) (params : RoutingForwarder.ForwardParams)
    (maxAttempts : ℤ) :
    Restores others () (RoutingForwarder.forwardWithRetry sp params maxAttempts) := by
  apply RoutingForwarder.forwardAttempts_follows (fun _ => True) (fun _ _ => True)
  · intro m _ hd
    exact hd
  · intro m _
    rfl
  · intro m _
    rfl
  · intro m e _
    trivial
  · intro m e o ho _
    refine ⟨fun hd => ?_, fun _ => trivial⟩
    cases o <;> first | exact ho | exact hd
  · intro m e _
    rfl
  · intro m e _
    rfl
  · intro m e _ _
    trivial
  · trivial

theorem others_consumeDenied (isCreate : Bool) (r : String) :
    Restores others () (RoutingRouter.consumeDenied isCreate r) := by
  cases isCreate with
  | true => exact others_perform id
  | false => exact others_pure false

theorem terminal_not_deliveryError (e : SPError) (serviceType : String) (ctx : ResponseContext) :
    ¬ IsDeliveryError (.publishCE typeError
      (.error (RoutingForwarder.terminalProviderErrorData e serviceType ctx))) := by
  change ¬ (RoutingForwarder.terminalProviderErrorData e serviceType ctx).error = _
  rw [RoutingForwarder.terminalProviderErrorData_error]
  split <;> decide

section Router

variable (cfg : RouterConfig) (sp : StoredProvider) (isCreate : Bool) (payload : InboundPayload)

theorem others_dispatch : Restores others () (RoutingRouter.dispatch cfg sp isCreate payload) := by
  apply Restores.bind (others_forwardWithRetry _ _ _)
  intro fwdErr
  match fwdErr with
  | none =>
    cases isCreate with
    | true => exact Restores.bind (others_publishOutcome id) fun _ => others_pure _
    | false => exact Restores.bind (others_publishOutcome id) fun _ => others_pure _
  | some .context => exact others_pure _
  | some (.sp e) =>
    apply Restores.bind (others_perform id)
    intro ended
    cases ended with
    | true => exact others_pure _
    | false =>
      exact Restores.bind (others_publishOutcome (terminal_not_deliveryError e _ _))
        fun _ => others_pure _

theorem others_claimAndDispatch :
    Restores others () (RoutingRouter.claimAndDispatch cfg sp isCreate payload) := by
  apply Restores.bind (others_perform id)
  intro newlyAdded
  apply Restores.bind (others_consumeDenied isCreate _)
  intro denied
  cases denied with
  | true =>
    cases newlyAdded with
    | true => exact Restores.bind (others_perform id) fun _ => others_pure _
    | false => exact others_pure _
  | false =>
    refine Restores.bind (Restores.ensure (others_dispatch cfg sp isCreate payload) ?_)
      fun _ => others_pure _
    intro out
    unfold RoutingRouter.releaseClaim
    split
    · exact others_perform id
    · exact others_pure ()

theorem others_forward :
    Restores others () (RoutingRouter.forwardWithRetry cfg sp isCreate payload) := by
  apply Restores.bind (others_perform id)
  intro free
  cases free with
  | false => exact others_pure _
  | true =>
    exact Restores.ensure (others_claimAndDispatch cfg sp isCreate payload)
      fun _ => others_perform id

theorem others_decideRequest (msg : Bytes) :
    Restores others () (RequestHandling.decideRequest cfg msg isCreate payload) := by
  apply Restores.bind (others_resolveProvider _)
  intro result
  match result with
  | .error e => exact others_pure _
  | .ok none => exact Restores.bind (others_publishError (by decide)) fun _ => others_pure _
  | .ok (some (_, .unavailable)) =>
    exact Restores.bind (others_publishError (by decide)) fun _ => others_pure _
  | .ok (some (_, .unhealthy)) =>
    apply Restores.bind (others_perform id)
    intro published
    cases published with
    | false => exact others_pure _
    | true => exact Restores.bind (others_publishOutcome id) fun _ => others_pure _
  | .ok (some (sp, .ready)) =>
    change Restores others () (if !cfg.forwarder then _ else _)
    split
    · exact Restores.bind (others_publishError (by decide)) fun _ => others_pure _
    · exact others_forward cfg sp isCreate payload

theorem others_handleRequest (msg : Bytes) : Restores others () (handleRequest cfg msg) := by
  match hparse : RoutingRouter.parseRequestCE cfg msg with
  | none =>
    unfold handleRequest
    rw [hparse]
    exact others_pure _
  | some (isCreate, payload) =>
    by_cases hids : payload.resourceID = "" ∨ payload.serviceType = ""
    · unfold handleRequest
      rw [hparse]
      change Restores others () (if _ then _ else _)
      rw [if_pos hids]
      exact Restores.bind (others_publishError (by decide)) fun _ => others_pure _
    · rw [RequestHandling.handleRequest_eq hparse hids]
      apply Restores.bind (others_consumeDenied isCreate _)
      intro denied
      cases denied with
      | true => exact others_pure _
      | false => exact others_decideRequest cfg isCreate payload msg

end Router

theorem others_accepts {m : Unit} {t : List RoutingEvent} (h : others.Accepts m t) :
    deliveryErrors t = [] := by
  induction t with
  | nil => rfl
  | cons e t ih =>
    have htail := ih h.2
    have hhead : deliveryErrors [e] = [] := by
      obtain ⟨o, x⟩ := e
      cases o with
      | publishCE ceType d =>
        cases d with
        | error d =>
          have hne : d.error ≠ errorMaxDeliveryExceeded := h.1
          simp [deliveryErrors, isDeliveryError, hne]
        | _ => rfl
      | _ => rfl
    rw [← List.singleton_append, deliveryErrors_append, hhead, htail]
    rfl

def routerHandler (cfg : RouterConfig) : MainHandler where
  run := handleRequest cfg
  unresolved _ :=
    RequestHandling.handleRequest_yields.mono fun _ _ h => RequestHandling.handled_unresolved h
  otherErrors data := yields_iff.mpr fun _ _ he =>
    others_accepts (Follows.exec (others_handleRequest cfg data) he).1

inductive Outcome where
  | returnedNil
  | returnedError
  | panicked
  | metadataFailed
  deriving DecidableEq, Repr

def outcomeOf : Option (Option HandlerErr) → Outcome
  | some none => .returnedNil
  | some (some _) => .returnedError
  | none => .panicked

def resolving (m : Msg) : Option (Option HandlerErr) → RoutingEvent
  | some none => ⟨.ack m, true⟩
  | _ => ⟨.nakWithDelay m, true⟩

def exceededEvent (client : ClientConfig) (m : Msg) : RoutingEvent :=
  ⟨.publishCE typeError (.error ⟨⟨client.extractResourceID m.data, client.agentName,
    client.topicName⟩, errorMaxDeliveryExceeded, ⟨"max delivery attempts exceeded", none⟩⟩), true⟩

structure Delivery where
  invocation : Option (Option (Option HandlerErr))
  events : List RoutingEvent

/-- The delivery of `m` with count `k`. The outcome of a handler is moot when the count has
reached the limit: it is not called. -/
inductive Delivered (client : ClientConfig) (handler : MainHandler) (k : ℕ) (m : Msg) :
    Outcome → Delivery → Prop where
  | unreadable : Delivered client handler k m .metadataFailed
      ⟨none, [⟨.metadata m, none⟩, ⟨.nak m, true⟩]⟩
  | exceeded {o : Outcome} (ho : o ≠ .metadataFailed) (hk : client.maxDeliver ≤ k) :
      Delivered client handler k m o
        ⟨none, [⟨.metadata m, some k⟩, exceededEvent client m, ⟨.term m, true⟩]⟩
  | handled {r : Option (Option HandlerErr)} {h : List RoutingEvent}
      (hk : (k : ℤ) < client.maxDeliver) (he : Exec (handler.run m.data) h r) :
      Delivered client handler k m (outcomeOf r)
        ⟨some r, ⟨.metadata m, some k⟩ :: (h ++ [resolving m r])⟩

/-- JetStream during a delivery with count `k`: the count may be unreadable, and everything
else it is asked for succeeds. -/
def Served (k : ℕ) : RoutingEvent → Prop
  | ⟨.metadata _, x⟩ => x = none ∨ x = some k
  | ⟨.ack _, b⟩ | ⟨.nak _, b⟩ | ⟨.nakWithDelay _, b⟩ | ⟨.term _, b⟩ => b = true
  | ⟨.publishCE _ (.error d), b⟩ => d.error = errorMaxDeliveryExceeded → b = true
  | _ => True

variable {d : Delivery}

section Delivery

variable {client : ClientConfig} {handler : MainHandler} {k : ℕ} {m : Msg}

theorem resolveHandled_delivered (hk : (k : ℤ) < client.maxDeliver) :
    Yields (resolveHandled m (handler.run m.data)) fun r t => (∀ e ∈ t, Served k e) →
      match r with
      | some _ => ∃ o c, Delivered client handler k m o ⟨c, ⟨.metadata m, some k⟩ :: t⟩
      | none => Exec (handler.run m.data) t none := by
  refine yields_iff.mpr fun t r he hserved => ?_
  rcases exec_bind.mp he with ⟨out, h, u, rfl, hh, hu⟩ | ⟨hh, rfl⟩
  · match out with
    | none =>
      obtain ⟨b, v, rfl, hv⟩ := exec_perform_bind.mp hu
      obtain ⟨rfl, rfl⟩ := exec_ret.mp hv
      obtain rfl : b = true := hserved ⟨.ack m, b⟩ (by simp)
      exact ⟨_, _, .handled hk hh⟩
    | some e =>
      obtain ⟨b, v, rfl, hv⟩ := exec_perform_bind.mp hu
      obtain ⟨rfl, rfl⟩ := exec_ret.mp hv
      obtain rfl : b = true := hserved ⟨.nakWithDelay m, b⟩ (by simp)
      exact ⟨_, _, .handled hk hh⟩
  · exact hh

theorem handleMainMessage_delivered (hmax : 0 < client.maxDeliver) :
    Yields (handleMainMessage client handler.run m) fun _ t => (∀ e ∈ t, Served k e) →
      ∃ o c, Delivered client handler k m o ⟨c, t⟩ := by
  have hbody : Yields (mainMessageBody client handler.run m) fun r t => (∀ e ∈ t, Served k e) →
      match r with
      | some _ => ∃ o c, Delivered client handler k m o ⟨c, t⟩
      | none => (k : ℤ) < client.maxDeliver ∧ ∃ h, Exec (handler.run m.data) h none ∧
          t = ⟨.metadata m, some k⟩ :: h := by
    unfold mainMessageBody
    rw [if_pos hmax]
    intro count
    match count with
    | none =>
      intro b hserved
      obtain rfl : b = true := hserved ⟨.nak m, b⟩ (by simp)
      exact ⟨_, _, .unreadable⟩
    | some n =>
      by_cases hn : n = k
      · subst hn
        change Yields (if client.maxDeliver ≤ n then _ else _) _
        split
        · rename_i hk
          intro b b' hserved
          obtain rfl : b' = true := hserved ⟨.term m, b'⟩ (by simp)
          have hpub : b = true := hserved ⟨.publishCE typeError _, b⟩ (by simp) rfl
          subst hpub
          exact ⟨.returnedNil, _, .exceeded (by decide) hk⟩
        · rename_i hk
          refine (resolveHandled_delivered (Int.not_le.mp hk)).mono fun r t h hserved => ?_
          have h := h fun e he => hserved e (List.mem_cons_of_mem _ he)
          match r with
          | some _ => exact h
          | none => exact ⟨Int.not_le.mp hk, t, h, rfl⟩
      · refine yields_iff.mpr fun t r he hserved => ?_
        have hcount : some n = none ∨ some n = some k := hserved ⟨.metadata m, some n⟩ (by simp)
        simp [hn] at hcount
  refine hbody.recover (fun _ t h => h) fun t h b hserved => ?_
  obtain ⟨hk, u, hu, rfl⟩ := h fun e he => hserved e (List.mem_append_left _ he)
  obtain rfl : b = true := hserved ⟨.nakWithDelay m, b⟩ (by simp)
  exact ⟨_, _, .handled hk hu⟩

theorem exec_counted (hmax : 0 < client.maxDeliver) {t : List RoutingEvent} {r : Option Unit}
    (h : Exec (do
      match ← metadata m with
      | none => do let _ ← nak m
      | some numDelivered =>
        if client.maxDeliver ≤ numDelivered then
          publishMaxDeliverError client m
          let _ ← term m
        else resolveHandled m (handler.run m.data)) t r) :
    Exec (mainMessageBody client handler.run m) t r := by
  unfold mainMessageBody
  rw [if_pos hmax]
  exact h

theorem Delivered.exec {o : Outcome} (hmax : 0 < client.maxDeliver)
    (h : Delivered client handler k m o d) :
    ∃ r, Exec (handleMainMessage client handler.run m) d.events r := by
  cases h with
  | unreadable =>
    refine ⟨_, exec_recover.mpr (Or.inl ⟨(), rfl, exec_counted hmax (exec_perform_bind.mpr
      ⟨none, _, rfl, ?_⟩)⟩)⟩
    exact exec_perform_pure (S := routing) (.nak m) true ()
  | exceeded ho hk =>
    refine ⟨_, exec_recover.mpr (Or.inl ⟨(), rfl, exec_counted hmax (exec_perform_bind.mpr
      ⟨some k, _, rfl, ?_⟩)⟩)⟩
    change Exec (if client.maxDeliver ≤ k then _ else _) _ _
    rw [if_pos hk]
    refine exec_bind.mpr (Or.inl ⟨(), [exceededEvent client m], _, rfl, ?_, ?_⟩)
    · exact exec_perform_pure (S := routing) (.publishCE typeError _) true ()
    · exact exec_perform_pure (S := routing) (.term m) true ()
  | @handled r h hk he =>
    have hcount : ∀ {u out}, Exec (resolveHandled m (handler.run m.data)) u out →
        Exec (mainMessageBody client handler.run m) (⟨.metadata m, some k⟩ :: u) out := by
      intro u out hu
      refine exec_counted hmax (exec_perform_bind.mpr ⟨some k, _, rfl, ?_⟩)
      change Exec (if client.maxDeliver ≤ k then _ else _) _ _
      rw [if_neg (Int.not_le.mpr hk)]
      exact hu
    rcases r with _ | _ | e
    · refine ⟨_, exec_recover.mpr (Or.inr ⟨⟨.metadata m, some k⟩ :: h, _, rfl, hcount ?_,
        exec_perform_pure (S := routing) (.nakWithDelay m) true ()⟩)⟩
      exact exec_bind.mpr (Or.inr ⟨he, rfl⟩)
    · refine ⟨_, exec_recover.mpr (Or.inl ⟨(), rfl, hcount ?_⟩)⟩
      exact exec_bind.mpr (Or.inl ⟨none, h, _, rfl, he,
        exec_perform_pure (S := routing) (.ack m) true ()⟩)
    · refine ⟨_, exec_recover.mpr (Or.inl ⟨(), rfl, hcount ?_⟩)⟩
      exact exec_bind.mpr (Or.inl ⟨some e, h, _, rfl, he,
        exec_perform_pure (S := routing) (.nakWithDelay m) true ()⟩)

structure Delivery.Facts (client : ClientConfig) (k : ℕ) (m : Msg) (o : Outcome)
    (d : Delivery) : Prop where
  invoked : d.invocation ≠ none ↔ (k : ℤ) < client.maxDeliver ∧ o ≠ .metadataFailed
  returned : d.invocation = some (some none) ↔ (k : ℤ) < client.maxDeliver ∧ o = .returnedNil
  acked : (m, .ack) ∈ resolutions d.events ↔ d.invocation = some (some none)
  terminated : (m, .term) ∈ resolutions d.events ↔ client.maxDeliver ≤ k ∧ o ≠ .metadataFailed
  errors : (deliveryErrors d.events).length =
    if client.maxDeliver ≤ k ∧ o ≠ .metadataFailed then 1 else 0

theorem Delivered.facts {o : Outcome} (h : Delivered client handler k m o d) :
    d.Facts client k m o := by
  cases h with
  | unreadable => constructor <;> simp [deliveryErrors]
  | exceeded ho hk =>
    have hlimit : ¬ (k : ℤ) < client.maxDeliver := Int.not_lt.mpr hk
    constructor <;> simp [ho, hk, hlimit, exceededEvent, deliveryErrors, isDeliveryError]
  | @handled r h hk he =>
    have hquiet : resolutions h = [] := (handler.unresolved m.data).exec he
    have hlimit : ¬ client.maxDeliver ≤ k := Int.not_le.mpr hk
    have herrors : deliveryErrors (⟨.metadata m, some k⟩ :: (h ++ [resolving m r])) = [] := by
      have hh : deliveryErrors h = [] := (handler.otherErrors m.data).exec he
      have hlast : deliveryErrors [resolving m r] = [] := by
        unfold resolving
        split <;> rfl
      rw [← List.singleton_append, deliveryErrors_append, deliveryErrors_append, hh, hlast]
      rfl
    refine ⟨?_, ?_, ?_, ?_, by simp [herrors, hlimit]⟩ <;>
      match r with
      | none => simp [hquiet, hk, hlimit, outcomeOf, resolving]
      | some none => simp [hquiet, hk, hlimit, outcomeOf, resolving]
      | some (some e) => simp [hquiet, hk, hlimit, outcomeOf, resolving]

end Delivery

def Finished (m : Msg) (d : Delivery) : Prop :=
  (m, .ack) ∈ resolutions d.events ∨ (m, .term) ∈ resolutions d.events

inductive Protocol (client : ClientConfig) (handler : MainHandler) (m : Msg) (o : ℕ → Outcome) :
    ℕ → List Delivery → Prop where
  | exceeded {k : ℕ} (hk : client.maxDeliver < k) : Protocol client handler m o k []
  | final {k : ℕ} {d : Delivery} (hk : k ≤ client.maxDeliver)
      (h : Delivered client handler k m (o k) d) (hd : Finished m d) :
      Protocol client handler m o k [d]
  | again {k : ℕ} {d : Delivery} {ds : List Delivery} (hk : k ≤ client.maxDeliver)
      (h : Delivered client handler k m (o k) d) (hd : ¬ Finished m d)
      (rest : Protocol client handler m o (k + 1) ds) : Protocol client handler m o k (d :: ds)

def SomeBelow (client : ClientConfig) (P : ℕ → Prop) (k : ℕ) : Prop :=
  ∃ j, k ≤ j ∧ (j : ℤ) < client.maxDeliver ∧ P j

section Protocol

variable {client : ClientConfig} {handler : MainHandler} {m : Msg} {o : ℕ → Outcome} {k : ℕ}
  {ds : List Delivery}

theorem someBelow_step {P : ℕ → Prop} :
    SomeBelow client P k ↔ ((k : ℤ) < client.maxDeliver ∧ P k) ∨ SomeBelow client P (k + 1) := by
  constructor
  · rintro ⟨j, hkj, hj, hP⟩
    rcases Nat.eq_or_lt_of_le hkj with rfl | hlt
    · exact Or.inl ⟨hj, hP⟩
    · exact Or.inr ⟨j, hlt, hj, hP⟩
  · rintro (⟨hk, hP⟩ | ⟨j, hkj, hj, hP⟩)
    · exact ⟨k, Nat.le_refl k, hk, hP⟩
    · exact ⟨j, Nat.le_of_succ_le hkj, hj, hP⟩

theorem not_someBelow {P : ℕ → Prop} (hk : client.maxDeliver ≤ k) : ¬ SomeBelow client P k := by
  rintro ⟨j, hkj, hj, -⟩
  omega

theorem Delivered.finished_iff {o : Outcome} (h : Delivered client handler k m o d) : Finished m d ↔
      ((k : ℤ) < client.maxDeliver ∧ o = .returnedNil) ∨
        (client.maxDeliver ≤ k ∧ o ≠ .metadataFailed) := by
  unfold Finished
  rw [h.facts.acked, h.facts.returned, h.facts.terminated]

theorem Protocol.exists_iff {C : Delivery → Prop} {P : Outcome → Prop}
    (hC : ∀ {k o d}, Delivered client handler k m o d →
      (C d ↔ (k : ℤ) < client.maxDeliver ∧ P o))
    (hnil : P .returnedNil) (h : Protocol client handler m o k ds) :
    (∃ d ∈ ds, C d) ↔ SomeBelow client (fun j => P (o j)) k := by
  induction h with
  | exceeded hk => simpa using not_someBelow (Int.le_of_lt hk)
  | @final k d hk h hd =>
    rw [someBelow_step, List.exists_mem_cons_iff, hC h]
    rcases h.finished_iff.mp hd with ⟨hlt, ho⟩ | ⟨hle, -⟩
    · have hP : (k : ℤ) < client.maxDeliver ∧ P (o k) := ⟨hlt, ho ▸ hnil⟩
      exact iff_of_true (Or.inl hP) (Or.inl hP)
    · have hlater : ¬ SomeBelow client (fun j => P (o j)) (k + 1) := not_someBelow (by omega)
      simp [hlater]
  | again hk h hd rest ih => rw [someBelow_step, List.exists_mem_cons_iff, hC h, ih]

theorem Protocol.invoked_iff (h : Protocol client handler m o k ds) :
    (∃ d ∈ ds, d.invocation ≠ none) ↔ SomeBelow client (fun j => o j ≠ .metadataFailed) k :=
  h.exists_iff (P := (· ≠ .metadataFailed)) (fun hd => hd.facts.invoked) (by decide)

theorem Protocol.returned_iff (h : Protocol client handler m o k ds) :
    (∃ d ∈ ds, d.invocation = some (some none)) ↔
      SomeBelow client (fun j => o j = .returnedNil) k :=
  h.exists_iff (P := (· = .returnedNil)) (fun hd => hd.facts.returned) rfl

theorem Protocol.acked (h : Protocol client handler m o k ds) (hd : d ∈ ds)
    (hack : (m, .ack) ∈ resolutions d.events) : d.invocation = some (some none) := by
  induction h with
  | exceeded hk => cases hd
  | final hk h hfin =>
    obtain rfl := List.mem_singleton.mp hd
    exact h.facts.acked.mp hack
  | again hk h hfin rest ih =>
    rcases List.mem_cons.mp hd with rfl | hd
    · exact h.facts.acked.mp hack
    · exact ih hd

structure Poisoned (m : Msg) (ds : List Delivery) : Prop where
  reported : (ds.flatMap fun d => deliveryErrors d.events).length = 1
  terminated : ∃ d ∈ ds, (m, .term) ∈ resolutions d.events

theorem not_poisoned_nil (m : Msg) : ¬ Poisoned m [] := by
  intro h
  simpa using h.reported

theorem poisoned_cons (herrors : (deliveryErrors d.events).length = 0)
    (hterm : (m, .term) ∉ resolutions d.events) : Poisoned m (d :: ds) ↔ Poisoned m ds := by
  constructor
  · intro h
    constructor
    · simpa [herrors] using h.reported
    · simpa [hterm] using h.terminated
  · intro h
    constructor
    · simpa [herrors] using h.reported
    · simpa [hterm] using h.terminated

theorem Protocol.poisoned_iff (h : Protocol client handler m o k ds)
    (hk : (k : ℤ) ≤ client.maxDeliver)
    (hnil : ¬ SomeBelow client (fun j => o j = .returnedNil) k) :
    Poisoned m ds ↔ o client.maxDeliver.toNat ≠ .metadataFailed := by
  induction h with
  | exceeded hover => omega
  | @final k d _ h hd =>
    rw [someBelow_step] at hnil
    rcases h.finished_iff.mp hd with hreturned | hexceeded
    · exact absurd (Or.inl hreturned) hnil
    · obtain rfl : client.maxDeliver.toNat = k := by omega
      have herrors := h.facts.errors
      rw [if_pos hexceeded] at herrors
      exact iff_of_true ⟨by simpa using herrors, d, List.mem_singleton_self d,
        h.facts.terminated.mpr hexceeded⟩ hexceeded.2
  | @again k d ds _ h hd rest ih =>
    rw [someBelow_step] at hnil
    have hlimit : ¬ (client.maxDeliver ≤ k ∧ o k ≠ .metadataFailed) := fun hexceeded =>
      hd (h.finished_iff.mpr (Or.inr hexceeded))
    have herrors : (deliveryErrors d.events).length = 0 := by
      rw [h.facts.errors, if_neg hlimit]
    rw [poisoned_cons herrors fun hterm => hlimit (h.facts.terminated.mp hterm)]
    by_cases hlast : client.maxDeliver ≤ k
    · -- the last delivery, and it could not be counted: nothing follows it
      obtain rfl : client.maxDeliver.toNat = k := by omega
      have hfailed : o client.maxDeliver.toNat = .metadataFailed := by
        by_contra hne
        exact hlimit ⟨hlast, hne⟩
      cases rest with
      | exceeded _ => exact iff_of_false (not_poisoned_nil m) (fun hne => hne hfailed)
      | final hle _ _ => omega
      | again hle _ _ _ => omega
    · exact ih (by omega) fun hlater => hnil (Or.inr hlater)

end Protocol

structure NoSilentDrop (m : Msg) (ds : List Delivery) : Prop where
  offered : ∃ d ∈ ds, d.invocation ≠ none
  acked : ∀ d ∈ ds, (m, .ack) ∈ resolutions d.events → d.invocation = some (some none)
  poisoned : (¬ ∃ d ∈ ds, d.invocation = some (some none)) → Poisoned m ds

/-- Some delivery below the limit can be counted, and unless one of those returns nil the
last one can be counted too. -/
def Countable (client : ClientConfig) (o : ℕ → Outcome) : Prop :=
  SomeBelow client (fun k => o k ≠ .metadataFailed) 1 ∧
    (SomeBelow client (fun k => o k = .returnedNil) 1 ∨
      o client.maxDeliver.toNat ≠ .metadataFailed)

theorem maxDeliver_pos {n : ℤ} (h : validateMaxDeliver n = none) : 1 ≤ n := by
  unfold validateMaxDeliver at h
  split at h
  · cases h
  · omega

/-- The deliveries are those of the handler around the router, and no message is dropped in
silence exactly when its deliveries can be counted where it matters. -/
theorem no_silent_drop_iff (client : ClientConfig) (handler : MainHandler) (m : Msg)
    (hmax : validateMaxDeliver client.maxDeliver = none) :
    (∀ k t r, Exec (handleMainMessage client handler.run m) t r → (∀ e ∈ t, Served k e) →
      ∃ o c, Delivered client handler k m o ⟨c, t⟩) ∧
    (∀ k o d, Delivered client handler k m o d →
      ∃ r, Exec (handleMainMessage client handler.run m) d.events r) ∧
    ∀ (o : ℕ → Outcome) (ds : List Delivery), Protocol client handler m o 1 ds →
      (NoSilentDrop m ds ↔ Countable client o) := by
  have hpos : 1 ≤ client.maxDeliver := maxDeliver_pos hmax
  refine ⟨fun k t r he => (handleMainMessage_delivered (by omega)).exec he,
    fun k o d h => h.exec (by omega), fun o ds h => ?_⟩
  constructor
  · intro hdrop
    refine ⟨h.invoked_iff.mp hdrop.offered, ?_⟩
    by_cases hnil : SomeBelow client (fun k => o k = .returnedNil) 1
    · exact Or.inl hnil
    · exact Or.inr ((h.poisoned_iff (by simpa using hpos) hnil).mp
        (hdrop.poisoned fun hreturned => hnil (h.returned_iff.mp hreturned)))
  · rintro ⟨hoffered, hcounted⟩
    refine ⟨h.invoked_iff.mpr hoffered, fun d hd => h.acked hd, fun hnone => ?_⟩
    have hnil : ¬ SomeBelow client (fun k => o k = .returnedNil) 1 :=
      fun hreturned => hnone (h.returned_iff.mpr hreturned)
    exact (h.poisoned_iff (by simpa using hpos) hnil).mpr (hcounted.resolve_left hnil)

def limited (maxDeliver : ℤ) : ClientConfig :=
  ⟨maxDeliver, "agent", "dcm.agent.agent", fun _ => "r"⟩

def createMessage : Msg := ⟨1, RequestFinality.createBytes⟩

def unreadableStore : List RoutingEvent :=
  [⟨.consume .denyList "r", false⟩, ⟨.lookup "vm", some "p"⟩, ⟨.getByName "p", .error "io"⟩]

def failing (k : ℕ) : Delivery :=
  ⟨some (some (some (.store ⟨"p", "io"⟩))),
    ⟨.metadata createMessage, some k⟩ :: (unreadableStore ++ [⟨.nakWithDelay createMessage, true⟩])⟩

def exceeding (client : ClientConfig) (k : ℕ) : Delivery :=
  ⟨none, [⟨.metadata createMessage, some k⟩, exceededEvent client createMessage,
    ⟨.term createMessage, true⟩]⟩

def uncounted : Delivery := ⟨none, [⟨.metadata createMessage, none⟩, ⟨.nak createMessage, true⟩]⟩

theorem failing_delivered {client : ClientConfig} {k : ℕ} (hk : (k : ℤ) < client.maxDeliver) :
    Delivered client (routerHandler RequestFinality.createRouter) k createMessage .returnedError
      (failing k) := by
  refine Delivered.handled (r := some (some (.store ⟨"p", "io"⟩))) hk ?_
  change Exec (handleRequest RequestFinality.createRouter RequestFinality.createBytes) _ _
  rw [RequestHandling.handleRequest_eq RequestFinality.parse_createBytes (by decide)]
  exact .call _ _ (.call _ _ (.call _ _ (.ret _)))

theorem failing_unfinished (k : ℕ) : ¬ Finished createMessage (failing k) := by
  simp [Finished, failing, unreadableStore]

def failingOutcomes : ℕ → Outcome := fun _ => .returnedError

theorem no_silent_drop_iff_third :
    NoSilentDrop createMessage [failing 1, failing 2, exceeding (limited 3) 3] ∧
      Countable (limited 3) failingOutcomes := by
  have hrun : Protocol (limited 3) (routerHandler RequestFinality.createRouter) createMessage
      failingOutcomes 1 [failing 1, failing 2, exceeding (limited 3) 3] :=
    .again (by decide) (failing_delivered (by decide)) (failing_unfinished 1)
      (.again (by decide) (failing_delivered (by decide)) (failing_unfinished 2)
        (.final (by decide) (.exceeded (by decide) (by decide)) (Or.inr (by simp [exceeding]))))
  have hcountable : Countable (limited 3) failingOutcomes :=
    ⟨⟨1, by decide, by decide, by decide⟩, Or.inr (by decide)⟩
  exact ⟨((no_silent_drop_iff (limited 3) (routerHandler RequestFinality.createRouter)
    createMessage (by decide)).2.2 _ _ hrun).mpr hcountable, hcountable⟩

def lastUncounted : ℕ → Outcome := fun k => if k = 3 then .metadataFailed else .returnedError

/-- With one delivery the handler is never called; and where the count of the last delivery
cannot be read, the message is dropped without an error event. -/
theorem dropped_in_silence :
    (validateMaxDeliver (limited 1).maxDeliver = none ∧
      Protocol (limited 1) (routerHandler RequestFinality.createRouter) createMessage
        failingOutcomes 1 [exceeding (limited 1) 1] ∧
      ¬ ∃ d ∈ [exceeding (limited 1) 1], d.invocation ≠ none) ∧
    (validateMaxDeliver (limited 3).maxDeliver = none ∧
      Protocol (limited 3) (routerHandler RequestFinality.createRouter) createMessage
        lastUncounted 1 [failing 1, failing 2, uncounted] ∧
      (∀ d ∈ [failing 1, failing 2, uncounted],
        d.invocation ≠ some (some none) ∧ deliveryErrors d.events = [])) := by
  refine ⟨⟨by decide, ?_, by simp [exceeding]⟩, by decide, ?_, ?_⟩
  · exact .final (by decide) (.exceeded (by decide) (by decide)) (Or.inr (by simp [exceeding]))
  · exact .again (by decide) (failing_delivered (by decide)) (failing_unfinished 1)
      (.again (by decide) (failing_delivered (by decide)) (failing_unfinished 2)
        (.again (by decide) .unreadable (by simp [Finished, uncounted]) (.exceeded (by decide))))
  · simp [failing, uncounted, unreadableStore, deliveryErrors]

end PoisonMessages
