import EnvironmentAgent.RequestHandling
import EnvironmentAgent.RetryForwarding

/-! # One outcome event for each processing

How many response events a call of `handleRequest` or `forwardRequest` attempts, over all its exits.
-/
namespace OutcomeEvents

open AtomicPrograms RoutingCloudEvent RoutingEffects RoutingTraces
open RoutingForwarder (spCallOf)
open RoutingRouter (RouterConfig HandlerErr)
open RetryProcessor (ProcessorConfig CEResult)

section

variable {α : Type} {deniable : Prop} {denial : RoutingEvent} {due : Option α → ℕ}
  {denied out : Option α} {t u : List RoutingEvent}

/-- A call came upon the denial, said nothing and ended with `denied`, or it attempted what is due
for its outcome. -/
inductive Accounted (deniable : Prop) (denial : RoutingEvent) (due : Option α → ℕ)
    (denied : Option α) (t : List RoutingEvent) (out : Option α) : Prop where
  | denied (hcreate : deniable) (h : denial ∈ t) (hout : out = denied) (hce : emissions t = [])
  | due (h : denial ∉ t) (hce : (emissions t).length = due out)

theorem Accounted.widen (h : Accounted deniable denial due denied t out)
    {before after : List RoutingEvent}
    (hb : emissions before = []) (hb' : denial ∉ before)
    (ha : emissions after = []) (ha' : denial ∉ after) :
    Accounted deniable denial due denied (before ++ t ++ after) out := by
  cases h with
  | denied hcreate h hout hce => exact .denied hcreate (by simp [h]) hout (by simp [hce, hb, ha])
  | due h hce => exact .due (by simp [h, hb', ha']) (by simpa [hb, ha] using hce)

theorem Accounted.after (h : Accounted deniable denial due denied t out) (hu : emissions u = [])
    (hu' : denial ∉ u) : Accounted deniable denial due denied (u ++ t) out := by
  simpa using h.widen hu hu' emissions_nil List.not_mem_nil

theorem Accounted.length_le (h : Accounted deniable denial due denied t out) (hdue : due out ≤ 1) :
    (emissions t).length ≤ 1 := by
  cases h with
  | denied _ _ _ hce => simp [hce]
  | due _ hce => omega

theorem Accounted.nil (h : Accounted deniable denial due denied t out) (hdue : due out = 0) :
    emissions t = [] := by
  cases h with
  | denied _ _ _ hce => exact hce
  | due _ hce => exact List.length_eq_zero_iff.mp (by omega)

theorem Accounted.one_iff (h : Accounted deniable denial due denied t out) (hdue : due out = 1) :
    (emissions t).length = 1 ↔ ¬ (deniable ∧ denial ∈ t) := by
  cases h with
  | denied hcreate h _ hce => simp [hcreate, h, hce]
  | due h hce => simp [h, hce, hdue]

end

theorem attempts_not_mem {call : SPCall} {t : List RoutingEvent}
    {out : Option (Option RoutingForwarder.ForwardErr)} (h : Attempts call t out)
    {e : RoutingEvent} (hcall : e.1 ≠ .sp call) (hctx : ¬ RoutingForwarder.IsContext e.1) :
    e ∉ t := by
  intro he
  rcases h.within e he with ho | ho
  · exact hcall ho
  · exact hctx ho

namespace Router

def denial (resourceID : String) : RoutingEvent := ⟨.consume .denyList resourceID, true⟩

def due : Option (Option HandlerErr) → ℕ
  | some none => 1
  | _ => 0

abbrev Answered (isCreate : Bool) (resourceID : String) (t : List RoutingEvent)
    (out : Option (Option HandlerErr)) : Prop :=
  Accounted (isCreate = true) (denial resourceID) due (some none) t out

variable {cfg : RouterConfig} {msg : Bytes} {sp : StoredProvider} {isCreate : Bool}
  {payload : InboundPayload}

theorem dispatch_answered : Yields (RoutingRouter.dispatch cfg sp isCreate payload) fun out t =>
    denial payload.resourceID ∉ t ∧ (emissions t).length = due (out.map Prod.snd) := by
  refine (forwardAttempts_yields sp (RequestHandling.paramsOf isCreate payload) _ _).bind
    (fun fwdErr t ht => ?_) ?_
  · have hnot : ⟨.consume .denyList payload.resourceID, true⟩ ∉ t :=
      attempts_not_mem ht (by simp) (by simp [RoutingForwarder.IsContext])
    rcases fwdErr with _ | _ | e
    · cases isCreate with
      | true => exact fun _ => ⟨by simp [hnot, denial], by simp [ht.no_emissions, due]⟩
      | false => exact fun _ => ⟨by simp [hnot, denial], by simp [ht.no_emissions, due]⟩
    · exact ⟨by simp [hnot, denial], by simp [ht.no_emissions, due]⟩
    · refine fun ended => ?_
      cases ended with
      | true => exact ⟨by simp [hnot, denial], by simp [ht.no_emissions, due]⟩
      | false => exact fun _ => ⟨by simp [hnot, denial], by simp [ht.no_emissions, due]⟩
  · intro t ht
    have hnot : denial payload.resourceID ∉ t :=
      attempts_not_mem ht (by simp [denial]) (by simp [denial, RoutingForwarder.IsContext])
    exact ⟨hnot, by simp [ht.no_emissions, due]⟩

theorem releaseClaim_yields (newlyAdded : Bool) (r : String)
    (out : Option (Bool × Option HandlerErr)) :
    Yields (RoutingRouter.releaseClaim newlyAdded r out) fun u t =>
      u.isSome = true ∧ Silent t ∧ denial r ∉ t := by
  unfold RoutingRouter.releaseClaim
  split
  · exact fun _ => ⟨rfl, by simp [Silent, IsSilent], by simp [denial]⟩
  · exact ⟨rfl, by simp [Silent], List.not_mem_nil⟩

theorem ensured_answered (newlyAdded : Bool) :
    Yields (RoutingRouter.dispatch cfg sp isCreate payload |>.ensure
      (RoutingRouter.releaseClaim newlyAdded payload.resourceID)) fun out t =>
        denial payload.resourceID ∉ t ∧ (emissions t).length = due (out.map Prod.snd) := by
  refine Yields.ensure dispatch_answered fun out t ht => ?_
  refine (releaseClaim_yields newlyAdded payload.resourceID out).mono ?_
  rintro u v ⟨hu, hsilent, hnot⟩
  exact ⟨hu, by simp [ht.1, hnot], by simpa [hsilent.no_emissions] using ht.2⟩

theorem claimAndDispatch_answered :
    Yields (RoutingRouter.claimAndDispatch cfg sp isCreate payload) fun out t =>
      Answered isCreate payload.resourceID t out := by
  refine fun newlyAdded => ?_
  have hclaim :
      emissions [⟨.addIfAbsent .claimedResourcesSet payload.resourceID, newlyAdded⟩] = [] := rfl
  have hdispatched : Yields (do
      let out ← RoutingRouter.dispatch cfg sp isCreate payload |>.ensure
        (RoutingRouter.releaseClaim newlyAdded payload.resourceID)
      return out.2) fun out t => Answered isCreate payload.resourceID t out :=
    (ensured_answered newlyAdded).bind (fun out t ht => .due (by simpa using ht.1)
      (by simpa using ht.2)) fun t ht => .due ht.1 ht.2
  have hpass : Yields (do
      let out ← RoutingRouter.dispatch cfg sp isCreate payload |>.ensure
        (RoutingRouter.releaseClaim newlyAdded payload.resourceID)
      return out.2) fun out t => Answered isCreate payload.resourceID
        (⟨.addIfAbsent .claimedResourcesSet payload.resourceID, newlyAdded⟩ :: t) out :=
    hdispatched.mono fun _ _ h => h.after hclaim (by simp [denial])
  cases isCreate with
  | false => exact hpass
  | true =>
    refine fun denied => ?_
    cases denied with
    | false =>
      refine hdispatched.mono fun out t h => ?_
      have hlook : emissions [⟨.addIfAbsent .claimedResourcesSet payload.resourceID, newlyAdded⟩,
          ⟨.consume .denyList payload.resourceID, false⟩] = [] := rfl
      exact h.after hlook (by simp [denial])
    | true =>
      cases newlyAdded with
      | true => exact fun _ => .denied rfl (by simp [denial]) rfl rfl
      | false => exact .denied rfl (by simp [denial]) rfl rfl

theorem forwardWithRetry_answered :
    Yields (RoutingRouter.forwardWithRetry cfg sp isCreate payload) fun out t =>
      Answered isCreate payload.resourceID t out := by
  refine fun free => ?_
  cases free with
  | false => exact .due (by simp [denial]) rfl
  | true =>
    refine Yields.ensure claimAndDispatch_answered fun out t h _ => ⟨rfl, ?_⟩
    have hlock : emissions [⟨.lockAddIfAbsent payload.resourceID, true⟩] = [] := rfl
    exact h.widen hlock (by simp [denial]) rfl (by simp [denial])

theorem Answered.after_reads {t reads : List RoutingEvent} {out : Option (Option HandlerErr)}
    {serviceType : String}
    {result : Except RoutingForwarder.StoreErr (Option (StoredProvider × ProviderStatus))}
    (hreads : RoutingForwarder.Resolves serviceType reads result)
    (h : Answered isCreate payload.resourceID t out) :
    Answered isCreate payload.resourceID (reads ++ t) out := by
  have hnot : denial payload.resourceID ∉ reads := fun hmem => hreads.isRead _ hmem
  exact h.after (resolves_clear hreads).emissions hnot

theorem decideRequest_answered :
    Yields (RequestHandling.decideRequest cfg msg isCreate payload) fun out t =>
      Answered isCreate payload.resourceID t out := by
  refine (resolveProvider_yields payload.serviceType).bind ?_ nofun
  rintro result reads ⟨_, ⟨⟩, hreads⟩
  match result with
  | .error e => exact Answered.after_reads hreads (.due List.not_mem_nil rfl)
  | .ok none => exact fun _ => Answered.after_reads hreads (.due (by simp [denial]) rfl)
  | .ok (some (_, .unavailable)) =>
    exact fun _ => Answered.after_reads hreads (.due (by simp [denial]) rfl)
  | .ok (some (_, .unhealthy)) =>
    refine fun published => ?_
    cases published with
    | false => exact Answered.after_reads hreads (.due (by simp [denial]) rfl)
    | true => exact fun _ => Answered.after_reads hreads (.due (by simp [denial]) rfl)
  | .ok (some (sp, .ready)) =>
    change Yields (if !cfg.forwarder then _ else _) _
    split
    · exact fun _ => Answered.after_reads hreads (.due (by simp [denial]) rfl)
    · exact Yields.mono forwardWithRetry_answered fun _ _ h => Answered.after_reads hreads h

theorem handleRequest_answered : Yields (RoutingRouter.handleRequest cfg msg) fun out t =>
    match RoutingRouter.parseRequestCE cfg msg with
    | none => out = some none ∧ t = []
    | some (isCreate, payload) => Answered isCreate payload.resourceID t out := by
  match hparse : RoutingRouter.parseRequestCE cfg msg with
  | none =>
    unfold RoutingRouter.handleRequest
    rw [hparse]
    exact ⟨rfl, rfl⟩
  | some (isCreate, payload) =>
    by_cases hids : payload.resourceID = "" ∨ payload.serviceType = ""
    · unfold RoutingRouter.handleRequest
      rw [hparse]
      change Yields (if _ then _ else _) _
      rw [if_pos hids]
      exact fun _ => .due (by simp [denial]) rfl
    · rw [RequestHandling.handleRequest_eq hparse hids]
      cases isCreate with
      | false => exact decideRequest_answered
      | true =>
        refine fun denied => ?_
        cases denied with
        | true => exact .denied rfl (by simp [denial]) rfl rfl
        | false =>
          have hlook : emissions [⟨.consume .denyList payload.resourceID, false⟩] = [] := rfl
          exact Yields.mono decideRequest_answered fun _ _ h => h.after hlook (by simp [denial])

end Router

namespace Processor

def denial (resourceID : String) : RoutingEvent := ⟨.contains .denyList resourceID, true⟩

def due : Option Bool → ℕ
  | some true => 1
  | _ => 0

abbrev Answered (res : CEResult) (t : List RoutingEvent) (out : Option Bool) : Prop :=
  Accounted (res.ceType = typeRequestCreate) (denial res.resourceID) due (some true) t out

variable {cfg : ProcessorConfig} {sp : StoredProvider} {res : CEResult}

def IsClaim : Op → Prop
  | .addIfAbsent .claimedResourcesSet _ | .remove .claimedResourcesSet _ => True
  | _ => False

theorem silent_of_claim (resourceID : String) {t : List RoutingEvent}
    (h : ∀ e ∈ t, IsClaim e.1) : Silent t ∧ denial resourceID ∉ t := by
  refine ⟨?_, fun hmem => h _ hmem⟩
  rintro ⟨o, x⟩ he
  have ho := h _ he
  cases o <;> trivial

theorem settleForward_answered {fwdErr : Option RoutingForwarder.ForwardErr} {newlyAdded : Bool}
    {t : List RoutingEvent} (ht : Attempts (spCallOf sp (RetryProcessor.forwardParams res)) t
      (some fwdErr)) :
    Yields (RetryForwarding.settleForward cfg res newlyAdded fwdErr) fun out u =>
      Answered res (t ++ u) out := by
  have hnot : ⟨.contains .denyList res.resourceID, true⟩ ∉ t :=
    attempts_not_mem ht (by simp) (by simp [RoutingForwarder.IsContext])
  have release := (RetryProcessor.releaseClaim_uses (P := IsClaim) newlyAdded res.resourceID
    trivial).yields
  rcases fwdErr with _ | _ | e
  · unfold RetryForwarding.settleForward
    rw [RetryForwarding.publishAckCE_eq]
    exact fun _ => .due (by simp [hnot, denial]) (by simp [ht.no_emissions, due])
  · refine release.bind (fun _ u hu => ?_) fun _ h => absurd h.1 Bool.false_ne_true
    obtain ⟨hsilent, hclaim⟩ := silent_of_claim res.resourceID hu.2
    rw [denial] at hclaim
    exact .due (by simp [hnot, hclaim, denial])
      (by simp [ht.no_emissions, hsilent.no_emissions, due])
  · refine release.bind (fun _ u hu => ?_) fun _ h => absurd h.1 Bool.false_ne_true
    obtain ⟨hsilent, hclaim⟩ := silent_of_claim res.resourceID hu.2
    rw [denial] at hclaim
    refine fun ended => ?_
    cases ended with
    | true =>
      exact .due (by simp [hnot, hclaim, denial])
        (by simp [ht.no_emissions, hsilent.no_emissions, due])
    | false =>
      exact fun _ => .due (by simp [hnot, hclaim, denial])
        (by simp [ht.no_emissions, hsilent.no_emissions, due])

theorem claimAndForward_answered :
    Yields (RetryProcessor.claimAndForward cfg sp res) fun out t => Answered res t out := by
  have hforward : ∀ newlyAdded, Yields (do
      let fwdErr ← RoutingForwarder.forwardWithRetry sp (RetryProcessor.forwardParams res)
        cfg.retryMaxAttempts
      RetryForwarding.settleForward cfg res newlyAdded fwdErr) fun out t => Answered res t out := by
    intro newlyAdded
    refine (forwardAttempts_yields sp (RetryProcessor.forwardParams res) _ _).bind
      (fun fwdErr t ht => settleForward_answered ht) fun t ht => ?_
    have hnot : denial res.resourceID ∉ t :=
      attempts_not_mem ht (by simp [denial]) (by simp [denial, RoutingForwarder.IsContext])
    exact .due hnot (by simp [ht.no_emissions, due])
  unfold RetryProcessor.claimAndForward
  refine (RetryProcessor.claim_uses (P := IsClaim) cfg res.resourceID trivial).yields.bind
    (fun newlyAdded t ht => ?_) fun _ h => absurd h.1 Bool.false_ne_true
  obtain ⟨hsilent, hclaim⟩ := silent_of_claim res.resourceID ht.2
  have release := (RetryProcessor.releaseClaim_uses (P := IsClaim) newlyAdded res.resourceID
    trivial).yields
  unfold RetryProcessor.deniedCreate
  split
  · rename_i hcreate
    refine fun denied => ?_
    cases denied with
    | true =>
      refine release.bind (fun _ u hu => ?_) fun _ h => absurd h.1 Bool.false_ne_true
      have hundo := (silent_of_claim res.resourceID hu.2).1
      exact .denied hcreate (by simp [denial]) rfl
        (by simp [hsilent.no_emissions, hundo.no_emissions])
    | false =>
      have hlook : emissions [⟨.contains .denyList res.resourceID, false⟩] = [] := rfl
      exact (hforward newlyAdded).mono fun _ _ h =>
        (h.after hlook (by simp [denial])).after hsilent.no_emissions hclaim
  · exact (hforward newlyAdded).mono fun _ _ h => h.after hsilent.no_emissions hclaim

theorem forwardRequest_answered :
    Yields (RetryProcessor.forwardRequest cfg sp res) fun out t => Answered res t out := by
  unfold RetryProcessor.forwardRequest
  split
  · exact fun _ => .due (by simp [denial]) rfl
  · split
    · refine fun free => ?_
      cases free with
      | false => exact .due (by simp [denial]) rfl
      | true =>
        refine Yields.ensure claimAndForward_answered fun out t h _ => ⟨rfl, ?_⟩
        have hlock : emissions [⟨.lockAddIfAbsent res.resourceID, true⟩] = [] := rfl
        exact h.widen hlock (by simp [denial]) rfl (by simp [denial])
    · exact claimAndForward_answered

end Processor

/-- The message was not a request that can be read, or it was a create that the deny list called
off. -/
def Dropped (cfg : RouterConfig) (msg : Bytes) (t : List RoutingEvent) : Prop :=
  match RoutingRouter.parseRequestCE cfg msg with
  | none => True
  | some (isCreate, payload) => isCreate = true ∧ Router.denial payload.resourceID ∈ t

def Denied (res : CEResult) (t : List RoutingEvent) : Prop :=
  res.ceType = typeRequestCreate ∧ Processor.denial res.resourceID ∈ t

/-- Over every execution: at most one response event, none where the message is left for
redelivery, and exactly one where it is not, unless the request was dropped. -/
theorem one_outcome_event :
    (∀ cfg msg t out, Exec (RoutingRouter.handleRequest cfg msg) t out →
      (emissions t).length ≤ 1 ∧ (∀ e, out = some (some e) → emissions t = []) ∧
        (out = some none → ((emissions t).length = 1 ↔ ¬ Dropped cfg msg t))) ∧
    ∀ cfg sp res t out, Exec (RetryProcessor.forwardRequest cfg sp res) t out →
      (emissions t).length ≤ 1 ∧ (out = some false → emissions t = []) ∧
        (out = some true → ((emissions t).length = 1 ↔ ¬ Denied res t)) := by
  constructor
  · intro cfg msg t out he
    have h := Router.handleRequest_answered.exec he
    unfold Dropped
    match hparse : RoutingRouter.parseRequestCE cfg msg with
    | none =>
      rw [hparse] at h
      obtain ⟨rfl, rfl⟩ := h
      exact ⟨by simp, by simp, by simp⟩
    | some (isCreate, payload) =>
      rw [hparse] at h
      refine ⟨h.length_le ?_, ?_, ?_⟩
      · rcases out with _ | _ | e <;> simp [Router.due]
      · rintro e rfl
        exact h.nil rfl
      · rintro rfl
        exact h.one_iff rfl
  · intro cfg sp res t out he
    have h := Processor.forwardRequest_answered.exec he
    refine ⟨h.length_le ?_, ?_, ?_⟩
    · rcases out with _ | _ | _ <;> simp [Processor.due]
    · rintro rfl
      exact h.nil rfl
    · rintro rfl
      exact h.one_iff rfl

def createBytes : Bytes := requestBytes typeRequestCreate "e" "r" "vm"

def createRouter : RouterConfig where
  unmarshalEvent := decodeAmong [(typeRequestCreate, "e", "r", "vm")]
  forwarder := true
  retryMaxAttempts := 3
  agentName := "agent"
  topicName := "dcm.agent.agent"
  retryTopic := "agent.retry"

def queuedTrace : List RoutingEvent :=
  [⟨.consume .denyList "r", false⟩, ⟨.lookup "vm", some "vms"⟩,
    ⟨.getByName "vms", .ok (some ⟨"p", "vms", "http://sp/api/vms", "vm", "external"⟩)⟩,
    ⟨.getState "p", some .unhealthy⟩, ⟨.publish "agent.retry" createBytes, true⟩,
    ⟨.publishCE typeRequestQueued
      (.requestQueued ⟨"r", "agent", "dcm.agent.agent"⟩ "vm" "QUEUED"), true⟩]

theorem exec_queuedTrace :
    Exec (RoutingRouter.handleRequest createRouter createBytes) queuedTrace (some none) := by
  have hparse : RoutingRouter.parseRequestCE createRouter createBytes =
      some (true, ⟨"r", "vm", none, "e"⟩) := by decide +kernel
  rw [RequestHandling.handleRequest_eq hparse (by decide)]
  exact .call _ _ (.call _ _ (.call _ _ (.call _ _ (.call _ _ (.call _ _ (.ret _))))))

theorem one_outcome_event_queued :
    ¬ Dropped createRouter createBytes queuedTrace ∧ (emissions queuedTrace).length = 1 := by
  have h := one_outcome_event.1 createRouter createBytes queuedTrace (some none) exec_queuedTrace
  have hone : (emissions queuedTrace).length = 1 := rfl
  exact ⟨(h.2.2 rfl).mp hone, hone⟩

end OutcomeEvents
