import EnvironmentAgent.HealthMonitor
import EnvironmentAgent.InFlightExclusion
import EnvironmentAgent.ProviderService

/-! # The agent at run time

Goroutines of the router and the retry processor over the shared sets, the retry topic, the
registry with the health of the providers, and the goroutine that registers embedded providers. A
step is one atomic operation, a delivery, a recorded health check, or the callback of a change,
which starts `ProcessOnTransition`. Deliveries, check results and answers are arbitrary. -/
namespace AgentRuntime

open AtomicPrograms LabelledRuns RoutingCloudEvent RoutingEffects RoutingSharedState
open MessagingTopics (TopicNames)
open InFlightExclusion (Wiring Invocation)
open HealthMonitor (StateMachine HealthCheckResult Transition)
open ProviderState (AgentState HealthState ProviderType Time)
open ProviderService (Registration registration)
open ProgramInterleavings (Log eventsOf)
open RoutingTraces (Resolution resolutionOf resolutions resolutions_append)

/-- A message is on the topic until it is acked or terminated; a fetch hands it out to a goroutine.
Messages are numbered from `base` on, those of the request stream below it. -/
structure RetryTopic where
  base : ℕ
  next : ℕ
  msgs : List Msg
  inHand : List (ℕ × Msg)
  started : base ≤ next
  numbered : ∀ m ∈ msgs, base ≤ m.seq ∧ m.seq < next
  distinct : (msgs.map Msg.seq).Nodup

variable {i : ℕ} {t : RetryTopic}

namespace RetryTopic

def empty (base : ℕ) : RetryTopic where
  base
  next := base
  msgs := []
  inHand := []
  started := Nat.le_refl base
  numbered := List.forall_mem_nil _
  distinct := List.nodup_nil

def publish (t : RetryTopic) (data : Bytes) : RetryTopic where
  base := t.base
  next := t.next + 1
  msgs := t.msgs ++ [⟨t.next, data⟩]
  inHand := t.inHand
  started := Nat.le_succ_of_le t.started
  numbered := by
    intro m hm
    rcases List.mem_append.mp hm with hm | hm
    · have := t.numbered m hm
      omega
    · obtain rfl := List.mem_singleton.mp hm
      have := t.started
      exact ⟨this, Nat.lt_succ_self _⟩
  distinct := by
    rw [List.map_append, List.map_singleton]
    refine List.nodup_append.mpr ⟨t.distinct, List.nodup_singleton _, ?_⟩
    intro n hn n' hn' heq
    obtain rfl := List.mem_singleton.mp hn'
    obtain ⟨m, hm, rfl⟩ := List.mem_map.mp hn
    exact Nat.ne_of_lt (t.numbered m hm).2 heq

def handOut (t : RetryTopic) (i : ℕ) (msgs : List Msg) : RetryTopic :=
  { t with inHand := t.inHand ++ msgs.map fun m => (i, m) }

def settle (t : RetryTopic) (i : ℕ) (m : Msg) : RetryTopic :=
  { t with inHand := t.inHand.filter fun x => decide (x ≠ (i, m)) }

def remove (t : RetryTopic) (m : Msg) : RetryTopic :=
  { t with
    msgs := t.msgs.filter fun x => decide (x.seq ≠ m.seq)
    numbered := fun x hx => t.numbered x (List.mem_filter.mp hx).1
    distinct := t.distinct.sublist (List.filter_sublist.map _) }

/-- A Nak, and an acknowledgement that did not arrive, leave the message on the topic. -/
def after (t : RetryTopic) (names : TopicNames) (i : ℕ) : RoutingEvent → RetryTopic
  | ⟨.publish subject data, published⟩ =>
    if published = true ∧ subject = names.retry then t.publish data else t
  | ⟨.fetchAll stream consumer, fetched⟩ =>
    if stream = names.retryStream ∧ consumer = names.retryConsumer then t.handOut i fetched.msgs
    else t
  | ⟨.ack m, acked⟩ | ⟨.term m, acked⟩ =>
    if acked then (t.settle i m).remove m else t.settle i m
  | ⟨.nak m, _⟩ | ⟨.nakWithDelay m, _⟩ => t.settle i m
  | _ => t

def Waiting (t : RetryTopic) (m : Msg) : Prop := m ∈ t.msgs ∧ ∀ x ∈ t.inHand, x.2 ≠ m

instance (t : RetryTopic) (m : Msg) : Decidable (t.Waiting m) :=
  inferInstanceAs (Decidable (_ ∧ _))

theorem Waiting.of_settle {m m' : Msg} (h : (t.settle i m').Waiting m) (hne : m ≠ m') :
    t.Waiting m := by
  refine ⟨h.1, fun x hx hxm => ?_⟩
  have hother : x ≠ (i, m') := fun heq => hne (hxm.symm.trans (congrArg Prod.snd heq))
  exact h.2 x (List.mem_filter.mpr ⟨hx, decide_eq_true hother⟩) hxm

def stored (names : TopicNames) : RoutingEvent → Option Bytes
  | ⟨.publish subject data, published⟩ =>
    if published = true ∧ subject = names.retry then some data else none
  | _ => none

def returned : RoutingEvent → Option Msg
  | ⟨.ack m, acked⟩ | ⟨.term m, acked⟩ => if acked then none else some m
  | ⟨.nak m, _⟩ | ⟨.nakWithDelay m, _⟩ => some m
  | _ => none

def delivered (names : TopicNames) : RoutingEvent → Option FetchResult
  | ⟨.fetchAll stream consumer, fetched⟩ =>
    if stream = names.retryStream ∧ consumer = names.retryConsumer then some fetched else none
  | _ => none

inductive Effect (t : RetryTopic) (names : TopicNames) (i : ℕ) (e : RoutingEvent) :
    RetryTopic → Prop where
  | published (data : Bytes) (h : stored names e = some data) (hres : resolutionOf e = none)
      (hdel : delivered names e = none) : Effect t names i e (t.publish data)
  | fetched (f : FetchResult) (h : delivered names e = some f) (hres : resolutionOf e = none) :
      Effect t names i e (t.handOut i f.msgs)
  | removed {m : Msg} {k : Resolution} (hres : resolutionOf e = some (m, k))
      (hdel : delivered names e = none) : Effect t names i e ((t.settle i m).remove m)
  | returned {m : Msg} {k : Resolution} (h : returned e = some m)
      (hres : resolutionOf e = some (m, k)) (hdel : delivered names e = none) :
      Effect t names i e (t.settle i m)
  | none (hres : resolutionOf e = none) (hdel : delivered names e = none) : Effect t names i e t

theorem effect_after (t : RetryTopic) (names : TopicNames) (i : ℕ) (e : RoutingEvent) :
    Effect t names i e (t.after names i e) := by
  obtain ⟨o, x⟩ := e
  cases o with
  | publish subject data =>
    by_cases h : x = true ∧ subject = names.retry
    · rw [after, if_pos h]
      exact .published data (if_pos h) rfl rfl
    · rw [after, if_neg h]
      exact .none rfl rfl
  | fetchAll stream consumer =>
    by_cases h : stream = names.retryStream ∧ consumer = names.retryConsumer
    · rw [after, if_pos h]
      exact .fetched x (if_pos h) rfl
    · rw [after, if_neg h]
      exact .none rfl (if_neg h)
  | ack m =>
    cases x with
    | true => exact .removed rfl rfl
    | false => exact .returned rfl rfl rfl
  | term m =>
    cases x with
    | true => exact .removed rfl rfl
    | false => exact .returned rfl rfl rfl
  | nak m | nakWithDelay m => exact .returned rfl rfl rfl
  | _ => exact .none rfl rfl

end RetryTopic

def typeName : ProviderType → String
  | .external => "external"
  | .embedded => "embedded"

def view (p : ProviderState.StoredProvider) : StoredProvider :=
  ⟨p.id, p.name, p.endpoint, p.serviceType, typeName p.type⟩

/-- `threads` is what each of the `calls` has left to do and `main` what is left to register;
`callbacks` are the recorded changes whose callback has not been made. -/
structure Agent where
  providers : AgentState
  shared : SharedState
  topic : RetryTopic
  calls : List Invocation
  threads : List (Routine Unit)
  callbacks : List (String × Transition)
  main : Registration Unit

inductive Action where
  | deliver (m : Msg)
  | turn (i : ℕ) (e : RoutingEvent)
  | register (e : AtomicPrograms.Event registration)
  | check (id : String) (result : HealthCheckResult) (t : Transition)
  | callback (id : String) (t : Transition)

namespace Agent

def status (u : Agent) (id : String) : Option ProviderStatus :=
  (u.providers.states id).map HealthState.status

/-- A read of the store may fail, and a fetch may fail or return less than there is. -/
def answers (a : Wiring) (u : Agent) : Environment
  | .lookup serviceType, x => x = u.providers.slots serviceType
  | .getByName name, x => ∀ found, x = .ok found →
    found = (u.providers.records.getByName name).map view
  | .getByID id, x => ∀ found, x = .ok found →
    found = (u.providers.records.getByID id).map view
  | .getState id, x => x = u.status id
  | .fetchAll stream consumer, x => ∀ m ∈ x.msgs,
    if stream = a.processor.topics.retryStream ∧ consumer = a.processor.topics.retryConsumer then
      m ∈ u.topic.msgs
    else m.seq < u.topic.base
  | _, _ => True

def start (a : Wiring) (u : Agent) (call : Invocation) : Agent :=
  { u with calls := u.calls ++ [call], threads := u.threads ++ [a.routine call] }

/-- The section of `checkProvider` under the lock; a change of the status calls for the callback. -/
def record (u : Agent) (id : String) (t : Transition) (now : Time) : Agent :=
  { u with
    providers := { u.providers with
      states := HealthMonitor.setState u.providers.states id t.2 now }
    callbacks := if t.1 = t.2 then u.callbacks else u.callbacks ++ [(id, t)] }

theorem status_record (u : Agent) (id other : String) (t : Transition) (now : Time) :
    (u.record id t now).status other = u.status other ∨
      other = id ∧ (u.record id t now).status other = some t.2 := by
  by_cases heq : other = id
  · subst heq
    by_cases hid : other = ""
    · exact .inl (by simp [status, record, HealthMonitor.setState, hid])
    · exact .inr ⟨rfl, congrArg _ (HealthMonitor.tracker_setState hid)⟩
  · exact .inl (congrArg _ (HealthMonitor.tracker_setState_ne heq))

end Agent

def initialChange : (o : ProviderService.Op) → o.Ans → List (String × Transition)
  | .registerProvider id _ initialState _, .registered (some state) =>
    if initialState = state.status then [] else [(id, (initialState, state.status))]
  | _, _ => []

/-- The failure counter is not kept, so a failed check may or may not reach the threshold. -/
inductive Step (a : Wiring) : Agent → Action → Agent → Prop where
  | deliver {u : Agent} {m : Msg} (h : m.seq < u.topic.base) :
      Step a u (.deliver m) (u.start a (.mainMessage m))
  | turn {u : Agent} {i : ℕ} {e : RoutingEvent} {threads : List (Routine Unit)}
      {shared : SharedState}
      (h : ProgramInterleavings.Step (sharedSemantics (u.answers a)) ⟨u.threads, u.shared⟩ (i, e)
        ⟨threads, shared⟩) :
      Step a u (.turn i e)
        { u with threads, shared, topic := u.topic.after a.processor.topics i e }
  | register {u : Agent} {o : ProviderService.Op} {k : o.Ans → Registration Unit} {x : o.Ans}
      {providers : AgentState} (h : u.main = .call o k)
      (ha : ProviderService.act o u.providers x providers) :
      Step a u (.register ⟨o, x⟩)
        { u with main := k x, providers, callbacks := u.callbacks ++ initialChange o x }
  | check {u : Agent} {id : String} {sm : StateMachine} (result : HealthCheckResult) (now : Time)
      (hid : u.providers.monitored id ≠ none) (h : u.status id = some sm.state) :
      Step a u (.check id result (sm.transition result))
        (u.record id (sm.transition result) now)
  | callback {u : Agent} {c : String × Transition} (h : c ∈ u.callbacks) :
      Step a u (.callback c.1 c.2)
        ({ u with callbacks := u.callbacks.erase c }.start a (.transition c.1 c.2.2))

def Quiescent (u : Agent) : Prop :=
  (∀ p ∈ u.threads, Ended p) ∧ u.callbacks = [] ∧ Ended u.main

instance (u : Agent) : Decidable (Quiescent u) := inferInstanceAs (Decidable (_ ∧ _ ∧ _))

structure Idle (u : Agent) : Prop where
  calls : u.calls = []
  threads : u.threads = []
  callbacks : u.callbacks = []
  inHand : u.topic.inHand = []
  main : Ended u.main

theorem Idle.threads_eq {a : Wiring} {u : Agent} (h : Idle u) :
    u.threads = u.calls.map a.routine := by
  rw [h.threads, h.calls]
  rfl

def turns (l : List Action) : Log routing :=
  l.filterMap fun
    | .turn i e => some (i, e)
    | _ => none

def eventsAt (i : ℕ) (l : List Action) : List RoutingEvent := eventsOf i (turns l)

variable {call : Invocation}

section Runs

variable {a : Wiring} {s u v : Agent} {l : List Action} {e : Action}

@[simp] theorem turns_append (l l' : List Action) : turns (l ++ l') = turns l ++ turns l' :=
  List.filterMap_append

theorem eventsAt_append (i : ℕ) (l l' : List Action) :
    eventsAt i (l ++ l') = eventsAt i l ++ eventsAt i l' := by
  simp [eventsAt]

@[simp] theorem eventsAt_own (i : ℕ) (l : List Action) (e : RoutingEvent) :
    eventsAt i (l ++ [.turn i e]) = eventsAt i l ++ [e] := by
  rw [eventsAt_append]
  exact congrArg _ (ProgramInterleavings.eventsOf_own i e)

theorem eventsAt_other {j : ℕ} (h : j ≠ i) (l : List Action) (e : RoutingEvent) :
    eventsAt i (l ++ [.turn j e]) = eventsAt i l := by
  rw [eventsAt_append]
  exact (congrArg _ (ProgramInterleavings.eventsOf_other h e)).trans (List.append_nil _)

theorem eventsAt_silent (i : ℕ) (l : List Action) (h : turns [e] = []) :
    eventsAt i (l ++ [e]) = eventsAt i l := by
  simp [eventsAt, h]

theorem step_calls (h : Step a u e v) : u.calls <+: v.calls := by
  cases h with
  | deliver | callback => exact List.prefix_append _ _
  | turn | register | check => exact List.prefix_rfl

theorem step_call (h : Step a u e v) (hi : u.calls[i]? = some call) :
    v.calls[i]? = some call := by
  obtain ⟨more, hmore⟩ := step_calls h
  rw [← hmore, List.getElem?_append_left (List.getElem?_eq_some_iff.mp hi).1]
  exact hi

theorem run_goroutines (hs : s.threads = s.calls.map a.routine) (h : Run (Step a) s l u) :
    ProgramInterleavings.Run (sharedSemantics fun _ _ => True)
      ⟨u.calls.map a.routine, s.shared⟩ (turns l) ⟨u.threads, u.shared⟩ := by
  have started : ∀ {u : Agent} {l : List Action} (call : Invocation),
      ProgramInterleavings.Run (sharedSemantics fun _ _ => True)
        ⟨u.calls.map a.routine, s.shared⟩ (turns l) ⟨u.threads, u.shared⟩ →
      ProgramInterleavings.Run (sharedSemantics fun _ _ => True)
        ⟨(u.calls ++ [call]).map a.routine, s.shared⟩ (turns l)
        ⟨u.threads ++ [a.routine call], u.shared⟩ := by
    intro u l call hrun
    simpa using hrun.add_threads (fun _ => rfl) [a.routine call]
  induction h with
  | nil =>
    rw [hs]
    exact .nil
  | @snoc l u v e _ hstep ih =>
    rw [turns_append]
    cases hstep with
    | deliver | callback =>
      rw [show turns [_] = [] from rfl, List.append_nil]
      exact started _ ih
    | register | check =>
      rw [show turns [_] = [] from rfl, List.append_nil]
      exact ih
    | turn hturn =>
      refine ih.snoc ?_
      cases hturn with
      | mk hi ha => exact .mk hi (act_mono (fun _ _ _ => trivial) ha)

theorem run_length (hs : s.threads = s.calls.map a.routine) (h : Run (Step a) s l u) :
    u.threads.length = u.calls.length := by
  simpa using (run_goroutines hs h).length_eq fun _ => rfl

theorem eventsAt_unstarted (hs : s.threads = s.calls.map a.routine) (h : Run (Step a) s l u)
    (hi : u.calls.length ≤ i) : eventsAt i l = [] :=
  (run_goroutines hs h).no_events (by simpa [run_length hs h] using hi)

theorem run_exec (hs : s.threads = s.calls.map a.routine) (h : Run (Step a) s l u)
    (hi : u.calls[i]? = some call) :
    ∃ q, u.threads[i]? = some q ∧
      ∀ t r, Exec q t r → Exec (a.routine call) (eventsAt i l ++ t) r :=
  (run_goroutines hs h).exec (by simp [hi])

theorem run_begins (hs : s.threads = s.calls.map a.routine) (h : Run (Step a) s l u)
    (hi : u.calls[i]? = some call) :
    ∃ t r, Exec (a.routine call) (eventsAt i l ++ t) r := by
  obtain ⟨q, -, hexec⟩ := run_exec hs h hi
  obtain ⟨t, r, ht, -⟩ := @exists_exec _ _ (fun _ => True)
    (singleProvider RetryDedup.vmProvider .ready .ok).answer (fun _ => trivial) q
  exact ⟨t, r, hexec t r ht⟩

theorem quiescent_exec (hs : s.threads = s.calls.map a.routine) (h : Run (Step a) s l u)
    (hq : Quiescent u) (hi : u.calls[i]? = some call) :
    ∃ r, Exec (a.routine call) (eventsAt i l) r := by
  obtain ⟨q, hqi, hexec⟩ := run_exec hs h hi
  have hended := hq.1 q (List.mem_of_getElem? hqi)
  match q with
  | .ret x => exact ⟨some x, by simpa using hexec [] _ (.ret x)⟩
  | .raise => exact ⟨none, by simpa using hexec [] _ .raise⟩
  | .call _ _ => exact hended.elim

theorem transition_exec {id : String} {toStatus : ProviderStatus} {t : List RoutingEvent}
    {r : Option Unit} (h : Exec (a.routine (.transition id toStatus)) t r) :
    ∃ out, Exec (RetryProcessor.processOnTransition a.processor id toStatus) t out := by
  obtain ⟨out, t₁, t₂, rfl, hexec, hret⟩ | ⟨hexec, -⟩ := exec_bind.mp h
  · obtain ⟨rfl, -⟩ := exec_ret.mp hret
    exact ⟨some out, by rwa [List.append_nil]⟩
  · exact ⟨none, hexec⟩

theorem started_of_event (hs : s.threads = s.calls.map a.routine) (h : Run (Step a) s l u)
    {e : RoutingEvent} (he : e ∈ eventsAt i l) : ∃ call, u.calls[i]? = some call := by
  by_cases hi : i < u.calls.length
  · exact ⟨u.calls[i], List.getElem?_eq_getElem hi⟩
  · rw [eventsAt_unstarted hs h (Nat.le_of_not_lt hi)] at he
    cases he

theorem mem_eventsAt {e : RoutingEvent} : e ∈ eventsAt i l ↔ .turn i e ∈ l := by
  rw [eventsAt, ProgramInterleavings.mem_eventsOf, turns, List.mem_filterMap]
  constructor
  · intro h
    obtain ⟨act, hact, hsome⟩ := h
    cases act <;> cases hsome
    exact hact
  · intro h
    exact ⟨_, h, rfl⟩

def Owes (a : Wiring) (i : ℕ) (m : Msg) (l : List Action) : Prop :=
  ∃ before e f rest, eventsAt i l = before ++ e :: rest ∧
    RetryTopic.delivered a.processor.topics e = some f ∧ m ∈ f.msgs ∧
    ∀ x ∈ resolutions rest, x.1 ≠ m

theorem owes_silent (i : ℕ) (m : Msg) (he : turns [e] = []) :
    Owes a i m (l ++ [e]) ↔ Owes a i m l := by
  unfold Owes
  rw [eventsAt_silent i l he]

theorem owes_other {j : ℕ} (h : j ≠ i) (m : Msg) (e : RoutingEvent) :
    Owes a i m (l ++ [.turn j e]) ↔ Owes a i m l := by
  unfold Owes
  rw [eventsAt_other h]

theorem owes_own {m : Msg} {e : RoutingEvent} :
    Owes a i m (l ++ [.turn i e]) ↔
      (∃ f, RetryTopic.delivered a.processor.topics e = some f ∧ m ∈ f.msgs) ∨
        Owes a i m l ∧ ∀ x ∈ resolutionOf e, x.1 ≠ m := by
  unfold Owes
  rw [eventsAt_own]
  constructor
  · intro h
    obtain ⟨before, e', f, rest, hevents, hdel, hm, hrest⟩ := h
    induction rest using List.reverseRecOn with
    | nil =>
      obtain ⟨-, he⟩ := List.append_inj' hevents rfl
      obtain rfl := List.singleton_inj.mp he
      exact .inl ⟨f, hdel, hm⟩
    | append_singleton rest last _ =>
      rw [← List.cons_append, ← List.append_assoc] at hevents
      obtain ⟨hinit, hlast⟩ := List.append_inj' hevents rfl
      obtain rfl := List.singleton_inj.mp hlast
      rw [resolutions_append] at hrest
      refine .inr ⟨⟨before, e', f, rest, hinit, hdel, hm, fun x hx =>
        hrest x (List.mem_append_left _ hx)⟩, fun x hx => hrest x (List.mem_append_right _ ?_)⟩
      exact List.mem_filterMap.mpr ⟨e, List.mem_singleton_self e, hx⟩
  · intro h
    rcases h with ⟨f, hdel, hm⟩ | ⟨⟨before, e', f, rest, hevents, hdel, hm, hrest⟩, hlast⟩
    · exact ⟨eventsAt i l, e, f, [], rfl, hdel, hm, List.forall_mem_nil _⟩
    · refine ⟨before, e', f, rest ++ [e], by simp [hevents], hdel, hm, fun x hx => ?_⟩
      rcases List.mem_append.mp (resolutions_append rest [e] ▸ hx) with hx | hx
      · exact hrest x hx
      · obtain ⟨last, hmem, hresolved⟩ := List.mem_filterMap.mp hx
        obtain rfl := List.mem_singleton.mp hmem
        exact hlast x hresolved

theorem mem_settle {j : ℕ} {m m' : Msg} :
    (j, m) ∈ (t.settle i m').inHand ↔ (j, m) ∈ t.inHand ∧ ¬ (j = i ∧ m = m') := by
  simp [RetryTopic.settle, imp_iff_not_or]

theorem owes_unresolved {j : ℕ} {m : Msg} {e : RoutingEvent} (hres : resolutionOf e = none)
    (hdel : RetryTopic.delivered a.processor.topics e = none) :
    Owes a i m (l ++ [.turn j e]) ↔ Owes a i m l := by
  by_cases hij : j = i
  · subst hij
    rw [owes_own, hres, hdel]
    simp
  · exact owes_other hij m e

theorem settle_inHand {j : ℕ} {m m' : Msg} {k : Resolution} {e : RoutingEvent}
    (hres : resolutionOf e = some (m', k)) (hdel : RetryTopic.delivered a.processor.topics e = none)
    (ih : (j, m) ∈ t.inHand ↔ Owes a j m l) :
    (j, m) ∈ (t.settle i m').inHand ↔ Owes a j m (l ++ [.turn i e]) := by
  rw [mem_settle, ih]
  by_cases hij : i = j
  · subst hij
    rw [owes_own, hres, hdel]
    simp [eq_comm]
  · rw [owes_other hij]
    simp [Ne.symm hij]

theorem run_inHand (hs : s.topic.inHand = []) (h : Run (Step a) s l u) (i : ℕ) (m : Msg) :
    (i, m) ∈ u.topic.inHand ↔ Owes a i m l := by
  induction h with
  | nil =>
    rw [hs]
    refine iff_of_false List.not_mem_nil fun howes => ?_
    obtain ⟨before, e, f, rest, hevents, -⟩ := howes
    exact List.append_ne_nil_of_right_ne_nil before (List.cons_ne_nil e rest) hevents.symm
  | @snoc l u v e _ hstep ih =>
    cases hstep with
    | deliver | register | check | callback => exact ih.trans (owes_silent i m rfl).symm
    | @turn j e threads shared hturn =>
      have heffect := RetryTopic.effect_after u.topic a.processor.topics j e
      dsimp only
      generalize u.topic.after a.processor.topics j e = topic at heffect ⊢
      cases heffect with
      | published _ _ hres hdel => exact ih.trans (owes_unresolved hres hdel).symm
      | none hres hdel => exact ih.trans (owes_unresolved hres hdel).symm
      | removed hres hdel => exact settle_inHand hres hdel ih
      | returned _ hres hdel => exact settle_inHand hres hdel ih
      | fetched f hdel hres =>
        rw [RetryTopic.handOut, List.mem_append, ih]
        by_cases hij : j = i
        · subst hij
          rw [owes_own, hres, hdel]
          simp [or_comm]
        · rw [owes_other hij]
          simp [hij]

theorem run_registry (hmain : Ended s.main) (h : Run (Step a) s l u) :
    Ended u.main ∧ u.providers.records = s.providers.records ∧
      u.providers.slots = s.providers.slots := by
  refine h.preserves (I := fun u => Ended u.main ∧ u.providers.records = s.providers.records ∧
    u.providers.slots = s.providers.slots) ⟨hmain, rfl, rfl⟩ fun u e v hu hstep => ?_
  cases hstep with
  | register hcall =>
    rw [hcall] at hu
    exact hu.1.elim
  | _ => exact hu

theorem run_getByID (hmain : Ended s.main) (h : Run (Step a) s l u) {id : String}
    {found : Option StoredProvider} (he : (⟨.getByID id, .ok found⟩ : RoutingEvent) ∈ eventsAt i l)
    :
    found = (s.providers.records.getByID id).map view := by
  induction h with
  | nil => cases he
  | @snoc l u v e hrun hstep ih =>
    rcases List.mem_append.mp (mem_eventsAt.mp he) with hl | hlast
    · exact ih (mem_eventsAt.mpr hl)
    · obtain rfl := List.mem_singleton.mp hlast
      cases hstep with
      | turn hturn =>
        cases hturn with
        | mk _ ha =>
          have hanswer := (act_outside (o := .getByID id) trivial ha).1 found rfl
          rw [(run_registry hmain hrun).2.1] at hanswer
          exact hanswer

def IsStarted : Invocation → Prop
  | .mainMessage _ | .transition _ _ => True
  | _ => False

theorem run_calls (hs : ∀ call ∈ s.calls, IsStarted call) (h : Run (Step a) s l u) :
    ∀ call ∈ u.calls, IsStarted call := by
  refine h.preserves (I := fun u => ∀ call ∈ u.calls, IsStarted call) hs fun u e v hu hstep => ?_
  cases hstep with
  | deliver | callback =>
    exact List.forall_mem_append.mpr ⟨hu, List.forall_mem_singleton.mpr trivial⟩
  | _ => exact hu

end Runs

def Agent.standard (a : Wiring) (u : Agent) : Answers where
  lookup := u.providers.slots
  getByName name := .ok ((u.providers.records.getByName name).map view)
  getByID id := .ok ((u.providers.records.getByID id).map view)
  getState := u.status
  sp _ := .ok
  contextEnded := false
  publish := true
  publishCE := true
  retryConsumer := true
  fetchAll stream consumer :=
    if stream = a.processor.topics.retryStream ∧ consumer = a.processor.topics.retryConsumer then
      { msgs := u.topic.msgs.filter fun m => decide (∀ x ∈ u.topic.inHand, x.2 ≠ m)
        distinct := u.topic.distinct.sublist (List.filter_sublist.map _)
        failed := false }
    else ⟨[], List.nodup_nil, false⟩
  acknowledged := true
  numDelivered := some 1

theorem standard_answers (a : Wiring) (u : Agent) (o : Op) :
    u.answers a o ((u.standard a).answer o) := by
  cases o with
  | lookup | getState => rfl
  | getByName | getByID =>
    intro found hfound
    exact (Except.ok.inj hfound).symm
  | fetchAll stream consumer =>
    intro m hm
    by_cases h : stream = a.processor.topics.retryStream ∧
        consumer = a.processor.topics.retryConsumer
    · rw [if_pos h]
      simp only [Answers.answer, Agent.standard, if_pos h] at hm
      exact (List.mem_filter.mp hm).1
    · simp only [Answers.answer, Agent.standard, if_neg h] at hm
      cases hm
  | _ => trivial

inductive Move where
  | deliver (m : Msg)
  | go (i : ℕ)
  | check (id : String) (result : HealthCheckResult)
  | callback

def Agent.move (a : Wiring) (u : Agent) : Move → Option (Action × Agent)
  | .deliver m =>
    if m.seq < u.topic.base then some (.deliver m, u.start a (.mainMessage m)) else none
  | .go i =>
    match u.threads[i]? with
    | some (.call o k) =>
      let r := handler (u.standard a) o u.shared
      some (.turn i ⟨o, r.1⟩, { u with
        threads := u.threads.set i (k r.1)
        shared := r.2
        topic := u.topic.after a.processor.topics i ⟨o, r.1⟩ })
    | _ => none
  | .check id result =>
    match u.providers.monitored id, u.status id with
    | some _, some status =>
      let t := (HealthMonitor.newStateMachine 1 status).transition result
      some (.check id result t, u.record id t 1)
    | _, _ => none
  | .callback =>
    match u.callbacks with
    | c :: rest => some (.callback c.1 c.2,
        { u with callbacks := rest }.start a (.transition c.1 c.2.2))
    | [] => none

theorem step_move {a : Wiring} {u v : Agent} {move : Move} {e : Action}
    (h : u.move a move = some (e, v)) : Step a u e v := by
  cases move with
  | deliver m =>
    obtain ⟨hm, rfl, rfl⟩ : m.seq < u.topic.base ∧ _ = e ∧ _ = v := by
      simpa [Agent.move] using h
    exact .deliver hm
  | go i =>
    simp only [Agent.move] at h
    split at h
    · rename_i o k hi
      obtain ⟨rfl, rfl⟩ := Prod.mk.inj (Option.some.inj h)
      have hturn : ProgramInterleavings.Step (sharedSemantics (u.answers a)) ⟨u.threads, u.shared⟩
          (i, ⟨o, (handler (u.standard a) o u.shared).1⟩) _ :=
        .mk hi (handler_act (standard_answers a u) o u.shared)
      exact .turn (by simpa [sharedSemantics] using hturn)
    · cases h
  | check id result =>
    simp only [Agent.move] at h
    split at h
    · rename_i entry status hentry hstatus
      obtain ⟨rfl, rfl⟩ := Prod.mk.inj (Option.some.inj h)
      exact .check result 1 (by simp [hentry]) hstatus
    · cases h
  | callback =>
    simp only [Agent.move] at h
    split at h
    · rename_i c rest hcallbacks
      obtain ⟨rfl, rfl⟩ := Prod.mk.inj (Option.some.inj h)
      have hstep : Step a u _ _ := .callback (c := c) (hcallbacks ▸ List.mem_cons_self)
      simpa [hcallbacks] using hstep
    · cases h

def Agent.play (a : Wiring) (guard : Agent → Action → Prop) [∀ u e, Decidable (guard u e)] :
    Agent → List Move → List Action × Agent
  | u, [] => ([], u)
  | u, move :: rest =>
    match u.move a move with
    | some (e, v) =>
      if guard u e then (e :: (v.play a guard rest).1, (v.play a guard rest).2) else ([], u)
    | none => ([], u)

theorem run_play (a : Wiring) (guard : Agent → Action → Prop) [∀ u e, Decidable (guard u e)]
    (u : Agent) (moves : List Move) :
    Run (Guarded (Step a) guard) u (u.play a guard moves).1 (u.play a guard moves).2 := by
  induction moves generalizing u with
  | nil => exact .nil
  | cons move rest ih =>
    unfold Agent.play
    split
    · rename_i e v hmove
      split
      · rename_i hguard
        exact .cons ⟨hguard, step_move hmove⟩ (ih v)
      · exact .nil
    · exact .nil

def vmRequests : List (String × String × String × String) :=
  [(typeRequestCreate, "e1", "r", "vm"), (typeRequestDelete, "e2", "r", "vm"),
    (typeRequestCreate, "e3", "q", "db")]

def vmWiring : Wiring where
  router := ⟨decodeAmong vmRequests, true, 1, "agent", "dcm.agent.agent", "agent.retry"⟩
  processor := { RetryDedup.vmProcessor with unmarshalEvent := decodeAmong vmRequests }
  client := ⟨5, "agent", "dcm.agent.agent", fun _ => ""⟩
  sharedLock := rfl

def vmRecord : ProviderState.StoredProvider :=
  ⟨"p1", "p", "http://p", "vm", "v1", none, none, [], .external, 1, 1⟩

def vmAgent (status : ProviderStatus) (topic : RetryTopic) : Agent where
  providers :=
    { records := [vmRecord]
      slots := fun t => if t = "vm" then some "p" else none
      states := fun id => if id = "p1" then some ⟨status, 0⟩ else none
      monitored := fun id => if id = "p1" then some ⟨.external "http://p", "vm"⟩ else none }
  shared := ⟨.new 10, .new 10, .new⟩
  topic
  calls := []
  threads := []
  callbacks := []
  main := .ret ()

theorem vmAgent_idle (status : ProviderStatus) (topic : RetryTopic) (h : topic.inHand = []) :
    Idle (vmAgent status topic) :=
  ⟨rfl, rfl, rfl, h, trivial⟩

def vmCreate : Msg := ⟨1, requestBytes typeRequestCreate "e1" "r" "vm"⟩
def vmDelete : Msg := ⟨2, requestBytes typeRequestDelete "e2" "r" "vm"⟩
def dbCreate : Bytes := requestBytes typeRequestCreate "e3" "q" "db"

end AgentRuntime
