import EnvironmentAgent.AgentRuntime
import EnvironmentAgent.RequestFinality
import EnvironmentAgent.RoutineOperations

/-! # What becomes of a delivered request

For each time it is delivered, a request is resolved once and copied to the retry topic at most
once; the goroutines that read that topic never write to it. -/
namespace DeliveredRequests

open AtomicPrograms LabelledRuns RoutingCloudEvent RoutingEffects RoutingTraces RoutingRouter
open AgentRuntime AgentRuntime.RetryTopic MessagingHandlers RequestHandling RoutineOperations
open InFlightExclusion (Wiring)
open MessagingTopics (TopicNames)

def copies (names : TopicNames) (t : List RoutingEvent) : List Bytes := t.filterMap (stored names)

section Handlers

variable {names : TopicNames} {cfg : RouterConfig} {t : List RoutingEvent}

@[simp] theorem copies_append (t u : List RoutingEvent) :
    copies names (t ++ u) = copies names t ++ copies names u := List.filterMap_append

theorem copies_forwarding (h : Forwarding t) : copies names t = [] := by
  refine List.filterMap_eq_nil_iff.mpr ?_
  rintro ⟨o, x⟩ he
  cases o <;> first | rfl | exact (h _ he).elim

theorem copies_publish (names : TopicNames) (subject : String) (data : Bytes) (b : Bool)
    (t : List RoutingEvent) (h : copies names t = []) :
    (copies names (⟨.publish subject data, b⟩ :: t)).length ≤ 1 := by
  have hfirst := List.length_filterMap_le (stored names) [⟨.publish subject data, b⟩]
  rw [← List.singleton_append, copies_append, h, List.append_nil]
  exact hfirst

theorem copies_unstored {e : RoutingEvent} (h : stored names e = none) :
    copies names (t ++ [e]) = copies names t := by
  have hlast : copies names [e] = [] := by simp [copies, h]
  rw [copies_append, hlast, List.append_nil]

theorem handled_copies {msg : Bytes} {out : Option (Option HandlerErr)}
    (h : Handled cfg msg t out) : (copies names t).length ≤ 1 := by
  cases h with
  | dropped | invalid | denied => exact Nat.zero_le 1
  | @decided isCreate payload h hids t reads u ht result out hreads hu =>
    have ht : copies names t = [] := by cases ht <;> rfl
    have hreads : copies names reads = [] := by cases hreads <;> rfl
    rw [copies_append, copies_append, ht, hreads]
    cases hu with
    | unpublished => exact copies_publish names cfg.retryTopic msg false [] rfl
    | queued => exact copies_publish names cfg.retryTopic msg true [_] rfl
    | forwarded hf h =>
      rw [← List.singleton_append, List.nil_append, List.nil_append, copies_append, copies_append,
        copies_forwarding h.within]
      exact Nat.zero_le 1
    | _ => exact Nat.zero_le 1

theorem resolveHandled_copies (m : Msg) : Yields (resolveHandled m (handleRequest cfg m.data))
    fun _ t => (copies names t).length ≤ 1 := by
  refine handleRequest_yields.bind (fun err t ht => ?_) fun t ht => handled_copies ht
  have resolved : ∀ e, stored names e = none → (copies names (t ++ [e])).length ≤ 1 := by
    intro e he
    rw [copies_unstored he]
    exact handled_copies ht
  match err with
  | none => exact fun _ => resolved _ rfl
  | some _ => exact fun _ => resolved _ rfl

theorem handleMainMessage_copies (names : TopicNames) (client : ClientConfig) (m : Msg) :
    Yields (handleMainMessage client (handleRequest cfg) m)
      fun _ t => (copies names t).length ≤ 1 := by
  have hbody : Yields (mainMessageBody client (handleRequest cfg) m)
      fun _ t => (copies names t).length ≤ 1 := by
    unfold mainMessageBody
    split
    · refine fun numDelivered => ?_
      match numDelivered with
      | none => exact fun _ => Nat.zero_le 1
      | some n =>
        change Yields (if client.maxDeliver ≤ n then _ else _) _
        split
        · exact fun _ _ => Nat.zero_le 1
        · exact (resolveHandled_copies m).mono fun _ _ h => h
    · exact resolveHandled_copies m
  refine hbody.recover (fun _ _ h => h) fun t h b => ?_
  change (copies names (t ++ [⟨.nakWithDelay m, b⟩])).length ≤ 1
  rw [copies_unstored rfl]
  exact h

end Handlers

section Runs

variable {a : Wiring} {s u v : Agent} {l : List Action} {i : ℕ} {e : RoutingEvent} {data : Bytes}
  {names : TopicNames}

theorem stored_publish (h : stored names e = some data) :
    ∃ subject b, e = ⟨.publish subject data, b⟩ := by
  obtain ⟨o, x⟩ := e
  cases o with
  | publish subject d =>
    simp only [stored, Option.ite_none_right_eq_some, Option.some.injEq] at h
    exact ⟨subject, x, by rw [h.2]⟩
  | _ => cases h

theorem stored_delivered (hs : Idle s) (h : Run (Step a) s l u) (he : e ∈ eventsAt i l)
    (hdata : stored names e = some data) :
    ∃ m, u.calls[i]? = some (.mainMessage m) ∧ m.data = data := by
  obtain ⟨call, hcall⟩ := started_of_event hs.threads_eq h he
  obtain ⟨t, r, hexec⟩ := run_begins hs.threads_eq h hcall
  obtain ⟨subject, b, rfl⟩ := stored_publish hdata
  have hkind := run_calls (hs.calls ▸ List.forall_mem_nil _) h call (List.mem_of_getElem? hcall)
  cases call with
  | mainMessage m =>
    have hop := (handleMainMessage_within a.router a.client m).exec hexec _
      (List.mem_append_left t he)
    exact ⟨m, hcall, hop.symm⟩
  | transition providerID toStatus =>
    obtain ⟨out, hexec⟩ := transition_exec hexec
    exact ((processOnTransition_within a.processor providerID toStatus).exec hexec _
      (List.mem_append_left t he)).elim
  | _ => exact hkind.elim

theorem stored_once (hs : Idle s) (h : Run (Step a) s (l ++ [.turn i e]) u)
    (hlast : stored names e = some data) {e' : RoutingEvent} (he' : e' ∈ eventsAt i l) :
    stored names e' = none := by
  by_contra hsome
  obtain ⟨data', hdata'⟩ := Option.ne_none_iff_exists'.mp hsome
  obtain ⟨m, hcall, -⟩ := stored_delivered hs h
    (by rw [eventsAt_own]; exact List.mem_append_right _ (List.mem_singleton_self e)) hlast
  obtain ⟨t, r, hexec⟩ := run_begins hs.threads_eq h hcall
  have hone := (handleMainMessage_copies names a.client m).exec hexec
  have hfirst : 0 < (copies names (eventsAt i l)).length :=
    List.length_pos_of_mem (List.mem_filterMap.mpr ⟨e', he', hdata'⟩)
  have hsecond : copies names [e] = [data] := by simp [copies, hlast]
  rw [eventsAt_own, copies_append, copies_append, hsecond, List.length_append, List.length_append,
    List.length_singleton] at hone
  omega

/-- `made` are the copies since `s` in their order, each with the goroutine that made it. -/
structure Traced (names : TopicNames) (s u : Agent) (l : List Action)
    (made : List (ℕ × Bytes)) : Prop where
  next : u.topic.next = s.topic.next + made.length
  apart : (made.map Prod.fst).Nodup
  events : ∀ x ∈ made, ∃ e ∈ eventsAt x.1 l, stored names e = some x.2
  msgs : ∀ m ∈ u.topic.msgs, m ∈ s.topic.msgs ∨
    ∃ k i, made[k]? = some (i, m.data) ∧ m.seq = s.topic.next + k

variable {made : List (ℕ × Bytes)}

theorem Traced.log (h : Traced names s u l made) (act : Action) :
    ∀ x ∈ made, ∃ e ∈ eventsAt x.1 (l ++ [act]), stored names e = some x.2 := by
  intro x hx
  obtain ⟨e, he, hdata⟩ := h.events x hx
  rw [eventsAt_append]
  exact ⟨e, List.mem_append_left _ he, hdata⟩

theorem Traced.shrink (h : Traced names s u l made) (act : Action)
    (hnext : v.topic.next = u.topic.next) (hmsgs : v.topic.msgs ⊆ u.topic.msgs) :
    Traced names s v (l ++ [act]) made :=
  ⟨hnext.trans h.next, h.apart, h.log act, fun m hm => h.msgs m (hmsgs hm)⟩

theorem Traced.publish (h : Traced names s u l made) (htopic : v.topic = u.topic.publish data)
    (hdata : stored names e = some data)
    (honce : ∀ e' ∈ eventsAt i l, stored names e' = none) :
    Traced names s v (l ++ [.turn i e]) (made ++ [(i, data)]) where
  next := by
    rw [htopic, List.length_append, ← Nat.add_assoc, ← h.next]
    rfl
  apart := by
    rw [List.map_append]
    refine List.nodup_append.mpr ⟨h.apart, List.nodup_singleton i, ?_⟩
    rintro j hj k hk rfl
    obtain ⟨x, hx, rfl⟩ := List.mem_map.mp hj
    obtain ⟨e', he', hdata'⟩ := h.events x hx
    rw [List.mem_singleton.mp hk] at he'
    rw [honce e' he'] at hdata'
    cases hdata'
  events := by
    refine List.forall_mem_append.mpr ⟨h.log _, List.forall_mem_singleton.mpr ⟨e, ?_, hdata⟩⟩
    rw [eventsAt_own]
    exact List.mem_append_right _ (List.mem_singleton_self e)
  msgs m hm := by
    rw [htopic] at hm
    rcases List.mem_append.mp hm with hm | hm
    · refine (h.msgs m hm).imp_right fun ⟨k, j, hk, hseq⟩ => ⟨k, j, ?_, hseq⟩
      rw [List.getElem?_append_left (List.getElem?_eq_some_iff.mp hk).1]
      exact hk
    · rw [List.mem_singleton.mp hm]
      exact Or.inr ⟨made.length, i, List.getElem?_concat_length, h.next⟩

theorem run_traced (hs : Idle s) (h : Run (Step a) s l u) :
    ∃ made, Traced a.processor.topics s u l made := by
  induction h with
  | nil => exact ⟨[], rfl, List.nodup_nil, List.forall_mem_nil _, fun m hm => Or.inl hm⟩
  | @snoc l u v act hrun hstep ih =>
    obtain ⟨made, htraced⟩ := ih
    have hrun' := hrun.snoc hstep
    cases hstep with
    | deliver | register | check | callback => exact ⟨made, htraced.shrink _ rfl fun _ h => h⟩
    | @turn i e threads shared hturn =>
      have heffect := RetryTopic.effect_after u.topic a.processor.topics i e
      generalize u.topic.after a.processor.topics i e = topic at heffect hrun' ⊢
      cases heffect with
      | published data hdata =>
        exact ⟨_, htraced.publish rfl hdata fun e' he' => stored_once hs hrun' hdata he'⟩
      | removed => exact ⟨made, htraced.shrink _ rfl fun _ h => (List.mem_filter.mp h).1⟩
      | fetched | returned | none => exact ⟨made, htraced.shrink _ rfl fun _ h => h⟩

end Runs

def copiedPlay : List Action × Agent :=
  (vmAgent .unhealthy (.empty 10)).play vmWiring (fun _ _ => True)
    (.deliver vmCreate :: List.replicate 8 (.go 0))

theorem copiedPlay_run :
    Run (Step vmWiring) (vmAgent .unhealthy (.empty 10)) copiedPlay.1 copiedPlay.2 :=
  (run_play vmWiring _ _ _).of_guarded

end DeliveredRequests
