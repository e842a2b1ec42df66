import EnvironmentAgent.RoutingTraces

/-! # The retry loop of a forward

`ForwardWithRetry` over every sequence of provider outcomes and every moment at which its context
ends. -/
namespace ForwardRetries

open AtomicPrograms RoutingCloudEvent RoutingEffects RoutingTraces
open RoutingForwarder (ForwardErr ForwardParams forwardAttempts forwardWithRetry isRetryable
  spCallOf terminalProviderErrorData terminalProviderErrorData_error)

inductive Rounds (call : SPCall) :
    ℕ → ℕ → List RoutingEvent → Option (Option ForwardErr) → Prop where
  | succeeded {left attempt : ℕ} : Rounds call left attempt [⟨.sp call, .ok⟩] (some none)
  | panicked {left attempt : ℕ} : Rounds call left attempt [⟨.sp call, .panicked⟩] none
  | ended {left attempt : ℕ} (e : SPError) : Rounds call left attempt
      [⟨.sp call, .err e⟩, ⟨.ctxErr, true⟩] (some (some .context))
  | rejected {left attempt : ℕ} {e : SPError} (h : isRetryable e = false) :
      Rounds call left attempt [⟨.sp call, .err e⟩, ⟨.ctxErr, false⟩] (some (some (.sp e)))
  | exhausted {attempt : ℕ} {e : SPError} (h : isRetryable e = true) :
      Rounds call 0 attempt [⟨.sp call, .err e⟩, ⟨.ctxErr, false⟩] (some (some (.sp e)))
  | interrupted {left attempt : ℕ} {e : SPError} (h : isRetryable e = true) :
      Rounds call (left + 1) attempt
        [⟨.sp call, .err e⟩, ⟨.ctxErr, false⟩, ⟨.backoffTimer attempt, true⟩]
        (some (some .context))
  | again {left attempt : ℕ} {e : SPError} {t : List RoutingEvent}
      {out : Option (Option ForwardErr)} (h : isRetryable e = true)
      (rest : Rounds call left (attempt + 1) t out) :
      Rounds call (left + 1) attempt
        (⟨.sp call, .err e⟩ :: ⟨.ctxErr, false⟩ :: ⟨.backoffTimer attempt, false⟩ :: t) out

theorem forwardAttempts_rounds (sp : StoredProvider) (params : ForwardParams)
    (left attempt : ℕ) : Yields (forwardAttempts sp params left attempt) fun out t =>
      Rounds (spCallOf sp params) left attempt t out := by
  induction left using Nat.strongRecOn generalizing attempt with
  | ind left ih =>
    unfold forwardAttempts
    refine fun x => ?_
    cases x with
    | ok => exact .succeeded
    | panicked => exact .panicked
    | err e =>
      refine fun ended => ?_
      cases ended with
      | true => exact .ended e
      | false =>
        change Yields (if !isRetryable e then _ else _) _
        split
        · rename_i hr
          exact .rejected (by simpa using hr)
        · rename_i hr
          have hr : isRetryable e = true := by simpa using hr
          cases left with
          | zero => exact .exhausted hr
          | succ left =>
            refine fun ended => ?_
            cases ended with
            | true => exact .interrupted hr
            | false => exact (ih left (Nat.lt_succ_self left) _).mono fun _ _ h => .again hr h

theorem Rounds.exec {sp : StoredProvider} {params : ForwardParams} {left attempt : ℕ}
    {t : List RoutingEvent} {out : Option (Option ForwardErr)}
    (h : Rounds (spCallOf sp params) left attempt t out) :
    Exec (forwardAttempts sp params left attempt) t out := by
  induction h with
  | succeeded =>
    unfold forwardAttempts
    exact .call _ _ (.ret _)
  | panicked =>
    unfold forwardAttempts
    exact .call _ _ .raise
  | ended e =>
    unfold forwardAttempts
    exact .call _ _ (.call _ _ (.ret _))
  | rejected hr =>
    unfold forwardAttempts
    refine .call _ _ (.call _ _ ?_)
    change Exec (if !isRetryable _ then _ else _) _ _
    rw [hr]
    exact .ret _
  | exhausted hr =>
    unfold forwardAttempts
    refine .call _ _ (.call _ _ ?_)
    change Exec (if !isRetryable _ then _ else _) _ _
    rw [hr]
    exact .ret _
  | interrupted hr =>
    unfold forwardAttempts
    refine .call _ _ (.call _ _ ?_)
    change Exec (if !isRetryable _ then _ else _) _ _
    rw [hr]
    exact .call _ _ (.ret _)
  | again hr _ ih =>
    unfold forwardAttempts
    refine .call _ _ (.call _ _ ?_)
    change Exec (if !isRetryable _ then _ else _) _ _
    rw [hr]
    exact .call _ _ ih

def Returns : Option (Option ForwardErr) → SPResult → Prop
  | none, result => result = .panicked
  | some none, result => result = .ok
  | some (some .context), result => ∃ e, result = .err e
  | some (some (.sp e)), result => result = .err e

def Retried (call : SPCall) (c : SPCall × SPResult) : Prop :=
  c.1 = call ∧ ∃ e, c.2 = .err e ∧ isRetryable e = true

/-- The calls of a loop: some that are retried, and a last one that decides what is returned. -/
structure Calls (call : SPCall) (left : ℕ) (calls : List (SPCall × SPResult))
    (out : Option (Option ForwardErr)) : Prop where
  split : ∃ before result, calls = before ++ [(call, result)] ∧ (∀ c ∈ before, Retried call c) ∧
    Returns out result
  length : calls.length ≤ left + 1
  exhausted : ∀ e, out = some (some (.sp e)) → isRetryable e = true → calls.length = left + 1

section

variable {call : SPCall} {left attempt : ℕ} {cs : List (SPCall × SPResult)}
  {t : List RoutingEvent} {out : Option (Option ForwardErr)} {result : SPResult} {e : SPError}

theorem calls_last (hout : Returns out result)
    (hexhausted : ∀ e, out = some (some (.sp e)) → isRetryable e = true → left = 0) :
    Calls call left [(call, result)] out where
  split := ⟨[], result, rfl, by simp, hout⟩
  length := by simp
  exhausted e he hr := by simp [hexhausted e he hr]

theorem Calls.again (h : Calls call left cs out) (he : isRetryable e = true) :
    Calls call (left + 1) ((call, .err e) :: cs) out where
  split := by
    obtain ⟨before, result, hsplit, hbefore, hout⟩ := h.split
    refine ⟨(call, .err e) :: before, result, by rw [hsplit]; rfl, ?_, hout⟩
    exact List.forall_mem_cons.mpr ⟨⟨rfl, e, rfl, he⟩, hbefore⟩
  length := Nat.succ_le_succ h.length
  exhausted e' hout hr := congrArg (· + 1) (h.exhausted e' hout hr)

theorem Rounds.calls (h : Rounds call left attempt t out) : Calls call left (callsIn t) out := by
  induction h with
  | succeeded => exact calls_last rfl nofun
  | panicked => exact calls_last rfl nofun
  | ended e => exact calls_last ⟨e, rfl⟩ nofun
  | rejected hr =>
    refine calls_last rfl fun e' he' hr' => ?_
    cases he'
    rw [hr] at hr'
    cases hr'
  | exhausted hr => exact calls_last rfl fun _ _ _ => rfl
  | interrupted hr => exact calls_last ⟨_, rfl⟩ nofun
  | again hr _ ih => exact ih.again hr

theorem Calls.same (h : Calls call left cs out) : ∀ c ∈ cs, c.1 = call := by
  obtain ⟨before, result, rfl, hbefore, _⟩ := h.split
  simp only [List.mem_append, List.mem_singleton]
  rintro c (hc | rfl)
  · exact (hbefore c hc).1
  · rfl

theorem Calls.stops (h : Calls call left cs out) {before after : List (SPCall × SPResult)}
    {c : SPCall × SPResult} (hsplit : cs = before ++ c :: after) (hafter : after ≠ []) :
    Retried call c := by
  obtain ⟨init, result, hcs, hinit, _⟩ := h.split
  have hdrop : init = before ++ c :: after.dropLast := by
    have hlast := congrArg List.dropLast (hcs.symm.trans hsplit)
    rwa [List.dropLast_concat, List.dropLast_append_of_ne_nil (List.cons_ne_nil c after),
      List.dropLast_cons_of_ne_nil hafter] at hlast
  exact hinit c (by simp [hdrop])

theorem Calls.last (h : Calls call left cs out) : ∃ result,
    cs.getLast? = some (call, result) ∧ Returns out result := by
  obtain ⟨before, result, rfl, _, hout⟩ := h.split
  exact ⟨result, by simp, hout⟩

theorem Calls.succeeded_iff (h : Calls call left cs out) :
    out = some none ↔ cs.getLast? = some (call, .ok) := by
  obtain ⟨result, hlast, hout⟩ := h.last
  rw [hlast]
  rcases out with _ | _ | _ | e <;> simp_all [Returns]
  obtain ⟨e, rfl⟩ := hout
  simp

theorem Calls.failed (h : Calls call left cs (some (some (.sp e)))) :
    cs.getLast? = some (call, .err e) := by
  obtain ⟨result, hlast, hout⟩ := h.last
  rw [hlast, hout]

end

/-! ## The context

A timeline tells after each event whether the context has ended by then. -/

structure Moment where
  event : RoutingEvent
  ended : Bool

def Reports (now : Bool) (m : Moment) : Prop :=
  match m.event with
  | ⟨.ctxErr, answer⟩ => if answer then m.ended = true else now = false
  | ⟨.backoffTimer _, true⟩ => m.ended = true
  | _ => True

def Consistent : Bool → List Moment → Prop
  | _, [] => True
  | now, m :: ms => (now = true → m.ended = true) ∧ Reports now m ∧ Consistent m.ended ms

def events (ms : List Moment) : List RoutingEvent := ms.map Moment.event

def endedBy (now : Bool) (ms : List Moment) : Bool := ms.foldl (fun _ m => m.ended) now

def callTimes : Bool → List Moment → List Bool
  | _, [] => []
  | now, m :: ms => ((callOf m.event).map fun _ => now).toList ++ callTimes m.ended ms

/-- Whenever the timer is what ends a wait, the context has not ended by then. -/
def InTime (ms : List Moment) : Prop :=
  ∀ m ∈ ms, ∀ attempt, m.event = ⟨.backoffTimer attempt, false⟩ → m.ended = false

theorem events_eq_nil {ms : List Moment} : events ms = [] ↔ ms = [] := List.map_eq_nil_iff

theorem events_eq_cons {ms : List Moment} {e : RoutingEvent} {t : List RoutingEvent} :
    events ms = e :: t ↔ ∃ ended rest, ms = ⟨e, ended⟩ :: rest ∧ events rest = t := by
  constructor
  · intro h
    obtain ⟨m, rest, rfl, rfl, ht⟩ := List.map_eq_cons_iff.mp h
    exact ⟨m.ended, rest, rfl, ht⟩
  · rintro ⟨ended, rest, rfl, rfl⟩
    rfl

theorem inTime_cons {m : Moment} {ms : List Moment} :
    InTime (m :: ms) ↔
      (∀ attempt, m.event = ⟨.backoffTimer attempt, false⟩ → m.ended = false) ∧ InTime ms :=
  List.forall_mem_cons

section

variable {call : SPCall} {left attempt : ℕ} {now : Bool} {t : List RoutingEvent}
  {ms : List Moment} {out : Option (Option ForwardErr)}

theorem Rounds.context (h : Rounds call left attempt t out) (ht : events ms = t)
    (hc : Consistent now ms) (hout : out = some (some .context)) : endedBy now ms = true := by
  induction h generalizing ms now with
  | succeeded => cases hout
  | panicked => cases hout
  | rejected => cases hout
  | exhausted => cases hout
  | ended e =>
    obtain ⟨_, _, rfl, ht₁⟩ := events_eq_cons.mp ht
    obtain ⟨_, _, rfl, ht₂⟩ := events_eq_cons.mp ht₁
    obtain rfl := events_eq_nil.mp ht₂
    exact hc.2.2.2.1
  | interrupted hr =>
    obtain ⟨_, _, rfl, ht₁⟩ := events_eq_cons.mp ht
    obtain ⟨_, _, rfl, ht₂⟩ := events_eq_cons.mp ht₁
    obtain ⟨_, _, rfl, ht₃⟩ := events_eq_cons.mp ht₂
    obtain rfl := events_eq_nil.mp ht₃
    exact hc.2.2.2.2.2.1
  | again hr _ ih =>
    obtain ⟨_, _, rfl, ht₁⟩ := events_eq_cons.mp ht
    obtain ⟨_, _, rfl, ht₂⟩ := events_eq_cons.mp ht₁
    obtain ⟨_, _, rfl, ht₃⟩ := events_eq_cons.mp ht₂
    have hrest := ih ht₃ hc.2.2.2.2.2.2 hout
    exact hrest

theorem callTimes_last {result : SPResult} {after : List RoutingEvent}
    (ht : events ms = ⟨.sp call, result⟩ :: after)
    (hafter : ∀ e ∈ after, callOf e = none ∧ ∀ attempt, e ≠ ⟨.backoffTimer attempt, false⟩) :
    ∃ further, callTimes now ms = now :: further ∧ ((∀ b ∈ further, b = false) ↔ InTime ms) := by
  obtain ⟨ended, rest, rfl, rfl⟩ := events_eq_cons.mp ht
  have hquiet : ∀ m ∈ rest, callOf m.event = none ∧
      ∀ attempt, m.event ≠ ⟨.backoffTimer attempt, false⟩ :=
    fun m hm => hafter m.event (List.mem_map_of_mem hm)
  have hnone : ∀ now, callTimes now rest = [] := by
    clear hafter ht
    induction rest with
    | nil => exact fun _ => rfl
    | cons m rest ih =>
      obtain ⟨hm, hrest⟩ := List.forall_mem_cons.mp hquiet
      intro now
      rw [callTimes, hm.1, ih hrest]
      rfl
  refine ⟨[], by simp [callTimes, hnone], iff_of_true (by simp) ?_⟩
  refine inTime_cons.mpr ⟨by simp, fun m hm attempt hevent => ?_⟩
  exact absurd hevent ((hquiet m hm).2 attempt)

theorem Rounds.times (h : Rounds call left attempt t out) (now : Bool) (ht : events ms = t) :
    ∃ further, callTimes now ms = now :: further ∧ ((∀ b ∈ further, b = false) ↔ InTime ms) := by
  induction h generalizing ms now with
  | succeeded => exact callTimes_last ht (by simp)
  | panicked => exact callTimes_last ht (by simp)
  | ended e => exact callTimes_last ht (by simp)
  | rejected hr => exact callTimes_last ht (by simp)
  | exhausted hr => exact callTimes_last ht (by simp)
  | interrupted hr => exact callTimes_last ht (by simp)
  | again hr _ ih =>
    obtain ⟨_, _, rfl, ht₁⟩ := events_eq_cons.mp ht
    obtain ⟨_, _, rfl, ht₂⟩ := events_eq_cons.mp ht₁
    obtain ⟨ended, rest, rfl, ht₃⟩ := events_eq_cons.mp ht₂
    obtain ⟨further, htimes, hiff⟩ := ih ended ht₃
    refine ⟨ended :: further, by simp [callTimes, htimes], ?_⟩
    rw [List.forall_mem_cons, hiff]
    simp [inTime_cons]

end

def answerOf : SPError → Option ProviderErrorData
  | .response statusCode message => some ⟨statusCode, message⟩
  | _ => none

theorem providerError_eq (e : SPError) (serviceType : String) (ctx : ResponseContext) :
    (terminalProviderErrorData e serviceType ctx).details.providerError = answerOf e := by
  unfold terminalProviderErrorData
  dsimp only
  cases e <;> split <;> rfl

structure Reported (attempts : ℕ) (calls : ℕ) (e : SPError) (d : ErrorData) : Prop where
  exhausted : d.error = errorRetryExhausted ↔ calls = attempts ∧ isRetryable e = true
  rejected : d.error = errorNonRetryable ↔ isRetryable e = false
  providerError : d.details.providerError = answerOf e

/-- Apart from the context: as many equal calls as the policy allows, none after a success or an
error that is not to be retried, and the last of them returned. -/
structure Bounded (attempts : ℕ) (call : SPCall) (now : Bool) (ms : List Moment)
    (out : Option (Option ForwardErr)) : Prop where
  atMost : (callsIn (events ms)).length ≤ attempts
  same : ∀ c ∈ callsIn (events ms), c.1 = call
  succeeded : out = some none ↔ (callsIn (events ms)).getLast? = some (call, .ok)
  stops : ∀ before c after, callsIn (events ms) = before ++ c :: after → after ≠ [] →
    ∃ e, c.2 = .err e ∧ isRetryable e = true
  context : out = some (some .context) → endedBy now ms = true
  failed : ∀ e, out = some (some (.sp e)) →
    (callsIn (events ms)).getLast? = some (call, .err e) ∧
      ∀ serviceType ctx, Reported attempts (callsIn (events ms)).length e
        (terminalProviderErrorData e serviceType ctx)

theorem reported_of_calls {call : SPCall} {left : ℕ} {cs : List (SPCall × SPResult)}
    {e : SPError} (h : Calls call left cs (some (some (.sp e)))) (serviceType : String)
    (ctx : ResponseContext) :
    Reported (left + 1) cs.length e (terminalProviderErrorData e serviceType ctx) := by
  have hne : errorRetryExhausted ≠ errorNonRetryable := by decide
  have hprovider := providerError_eq e serviceType ctx
  cases hr : isRetryable e with
  | true =>
    have hlength := h.exhausted e rfl hr
    refine ⟨?_, ?_, hprovider⟩
    · simp [terminalProviderErrorData_error, hr, hlength]
    · simp [terminalProviderErrorData_error, hr, hne]
  | false =>
    refine ⟨?_, ?_, hprovider⟩
    · simp [terminalProviderErrorData_error, hr, hne.symm]
    · simp [terminalProviderErrorData_error, hr]

section

variable {sp : StoredProvider} {params : ForwardParams} {maxAttempts : ℤ} {now : Bool}
  {ms : List Moment} {out : Option (Option ForwardErr)}

theorem forward_bounded (he : Exec (forwardWithRetry sp params maxAttempts) (events ms) out)
    (hc : Consistent now ms) :
    Bounded (max 1 maxAttempts).toNat (spCallOf sp params) now ms out := by
  have hrounds := (forwardAttempts_rounds sp params _ _).exec he
  have hcalls := hrounds.calls
  have hattempts : (max 1 maxAttempts).toNat - 1 + 1 = (max 1 maxAttempts).toNat := by omega
  refine ⟨?_, hcalls.same, hcalls.succeeded_iff, ?_, hrounds.context rfl hc, ?_⟩
  · have hlength := hcalls.length
    omega
  · intro before c after hsplit hafter
    exact (hcalls.stops hsplit hafter).2
  · rintro e rfl
    refine ⟨hcalls.failed, fun serviceType ctx => ?_⟩
    rw [← hattempts]
    exact reported_of_calls hcalls serviceType ctx

end

def NoFurtherCall (now : Bool) (ms : List Moment) : Prop :=
  ∀ b ∈ (callTimes now ms).tail, b = false

def NoCall (now : Bool) (ms : List Moment) : Prop := ∀ b ∈ callTimes now ms, b = false

/-- A forward retries as it should exactly if no timer ends a wait after the end of the context;
if the first call counts as well, the context also has to be live at the start. -/
theorem retry_semantics_iff (sp : StoredProvider) (params : ForwardParams) (maxAttempts : ℤ)
    (now : Bool) (ms : List Moment) (out : Option (Option ForwardErr))
    (he : Exec (forwardWithRetry sp params maxAttempts) (events ms) out)
    (hc : Consistent now ms) :
    (Bounded (max 1 maxAttempts).toNat (spCallOf sp params) now ms out ∧ NoFurtherCall now ms ↔
        InTime ms) ∧
      (Bounded (max 1 maxAttempts).toNat (spCallOf sp params) now ms out ∧ NoCall now ms ↔
        now = false ∧ InTime ms) := by
  have hbounded := forward_bounded he hc
  obtain ⟨further, htimes, hiff⟩ :=
    ((forwardAttempts_rounds sp params _ _).exec he).times now rfl
  constructor
  · rw [NoFurtherCall, htimes, List.tail_cons, hiff]
    simp [hbounded]
  · rw [NoCall, htimes, List.forall_mem_cons, hiff]
    simp [hbounded]

def vmProvider : StoredProvider := ⟨"p", "vms", "http://sp/api/vms", "vm", "external"⟩

def createParams : ForwardParams := ⟨"r", "vm", none, "e", true⟩

def retriedTimeline (ended : Bool) : List Moment :=
  [⟨⟨.sp (spCallOf vmProvider createParams), .err (.response 503 "busy")⟩, false⟩,
    ⟨⟨.ctxErr, false⟩, false⟩, ⟨⟨.backoffTimer 0, false⟩, ended⟩,
    ⟨⟨.sp (spCallOf vmProvider createParams), .ok⟩, ended⟩]

theorem retriedTimeline_exec (ended : Bool) :
    Exec (forwardWithRetry vmProvider createParams 2) (events (retriedTimeline ended))
      (some none) := by
  have hround : Rounds (spCallOf vmProvider createParams) 1 0 (events (retriedTimeline ended))
      (some none) := .again rfl .succeeded
  exact hround.exec

theorem retriedTimeline_consistent (ended : Bool) : Consistent false (retriedTimeline ended) := by
  cases ended <;> simp [retriedTimeline, Consistent, Reports]

theorem retry_semantics_iff_retried :
    Bounded 2 (spCallOf vmProvider createParams) false (retriedTimeline false) (some none) ∧
      NoFurtherCall false (retriedTimeline false) :=
  (retry_semantics_iff vmProvider createParams 2 false (retriedTimeline false) (some none)
    (retriedTimeline_exec false) (retriedTimeline_consistent false)).1.mpr
      (by simp [retriedTimeline, InTime])

/-- The context has ended during the wait, and the provider is called all the same. -/
theorem call_after_context_end :
    Exec (forwardWithRetry vmProvider createParams 2) (events (retriedTimeline true)) (some none) ∧
      Consistent false (retriedTimeline true) ∧ callTimes false (retriedTimeline true) =
        [false, true] ∧ ¬ NoFurtherCall false (retriedTimeline true) := by
  refine ⟨retriedTimeline_exec true, retriedTimeline_consistent true, rfl, ?_⟩
  intro h
  exact absurd (h true (by simp [callTimes, retriedTimeline])) (by decide)

end ForwardRetries
