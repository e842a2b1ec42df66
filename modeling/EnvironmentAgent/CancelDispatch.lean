import EnvironmentAgent.RetryProcessor
import EnvironmentAgent.RoutingSharedState

/-! # A create and a cancel of one resource

`HandleRequest` claims the resource and then looks at the deny list again; `HandleCancel` looks at
the claimed set and then writes the deny list. -/
namespace CancelDispatch

open AtomicPrograms ProgramInterleavings RoutingCloudEvent RoutingEffects RoutingSharedState
open RoutingResourceSet RoutingRouter
open RoutingForwarder (resolveProvider publishOutcome IsRead Resolves)

def IsCreateOf (r : String) : SPCall → Prop
  | .create _ _ req => req.resourceID = r
  | .delete _ _ _ => False

inductive CreateStage where
  | start
  | refused
  | locked
  | claimed
  | cleared
  | dispatched
  | withdrawn
  | dropped
  deriving DecidableEq, Repr

/-- The create takes the lock, claims and re-checks `r`, and then calls the provider. -/
def createMonitor (r : String) : Monitor routing CreateStage where
  allowed stage
    | .add _ _ | .contains _ _ => False
    | .lockAddIfAbsent s => stage = .start ∧ s = r
    | .addIfAbsent l s => stage = .locked ∧ l = .claimedResourcesSet ∧ s = r
    | .consume l s => (stage = .start ∨ stage = .claimed) ∧ l = .denyList ∧ s = r
    | .remove l s => (stage = .cleared ∨ stage = .dropped) ∧ l = .claimedResourcesSet ∧ s = r
    | .sp c => stage = .cleared ∧ IsCreateOf r c
    | .publishCE t _ => t ≠ typeCancelAcked ∧ t ≠ typeCancelRejected
    | _ => True
  next stage
    | ⟨.lockAddIfAbsent _, b⟩ => if b then .locked else .refused
    | ⟨.addIfAbsent _ _, _⟩ => .claimed
    | ⟨.consume _ _, b⟩ => if b then .dropped else if stage = .claimed then .cleared else stage
    | ⟨.remove _ _, _⟩ => if stage = .cleared then .withdrawn else stage
    | ⟨.sp _, .ok⟩ => .dispatched
    | _ => stage

inductive CancelStage where
  | start
  | refused
  | free
  | denied
  | acked
  | rejected
  deriving DecidableEq, Repr

def cancelMonitor (r : String) : Monitor routing CancelStage where
  allowed stage
    | .contains l s => stage = .start ∧ l = .claimedResourcesSet ∧ s = r
    | .add l s => stage = .free ∧ l = .denyList ∧ s = r
    | .addIfAbsent _ _ | .consume _ _ | .remove _ _ | .lockAddIfAbsent _ | .lockRemove _
    | .sp _ => False
    | .publishCE t d =>
      (t = typeCancelAcked → stage = .denied ∧ d.ctx.resourceID = r) ∧
      (t = typeCancelRejected → stage = .refused ∧ d.ctx.resourceID = r)
    | _ => True
  next stage
    | ⟨.contains _ _, b⟩ => if b then .refused else .free
    | ⟨.add _ _, _⟩ => .denied
    | ⟨.publishCE t _, _⟩ =>
      if t = typeCancelAcked then .acked
      else if t = typeCancelRejected then .rejected else stage
    | _ => stage

/-- `sp` is registered for its service type and Ready, its calls succeed, and nothing goes wrong on
the retry topic. -/
def fair (sp : StoredProvider) : RoutingEvent → Bool
  | ⟨.lookup serviceType, x⟩ => decide (serviceType = sp.serviceType → x = some sp.name)
  | ⟨.getByName name, .ok found⟩ => decide (name = sp.name → found = some sp)
  | ⟨.getByName name, .error _⟩ => decide (name ≠ sp.name)
  | ⟨.getState id, x⟩ => decide (id = sp.id → x = some .ready)
  | ⟨.sp _, x⟩ => decide (x = .ok)
  | ⟨.fetchAll _ _, x⟩ => !x.failed
  | ⟨.ack _, b⟩ => b
  | ⟨.nakWithDelay _, b⟩ => b
  | ⟨.publishCE _ _, b⟩ => b
  | _ => true

def Cooperative (sp : StoredProvider) : Environment := fun o x => fair sp ⟨o, x⟩ = true

variable {payload : InboundPayload} {t : String}

section Create

variable {r : String} {sp : StoredProvider} {b : Bool} (cfg : RouterConfig)

theorem resolves_fair (hid : sp.id ≠ "") {t : List RoutingEvent}
    {res : Except RoutingForwarder.StoreErr (Option (StoredProvider × ProviderStatus))}
    (h : Resolves sp.serviceType t res) (hf : t.all (fair sp) = true) :
    res = .ok (some (sp, .ready)) := by
  cases h with
  | unregistered => simp [fair] at hf
  | storeError name e => simp_all [fair]
  | missing name => simp_all [fair]
  | corrupt name p hp =>
    simp only [fair, List.all_cons, Bool.and_eq_true, decide_eq_true_eq, Option.some.injEq] at hf
    exact absurd (hf.2.1 (hf.1 trivial) ▸ hp) hid
  | tracked name p hp status =>
    simp only [fair, List.all_cons, Bool.and_eq_true, decide_eq_true_eq, Option.some.injEq] at hf
    have hsp : p = sp := hf.2.1 (hf.1 trivial)
    rw [hsp, hf.2.2.1 (by rw [hsp])]
    rfl

abbrev createTracking (r : String) (sp : StoredProvider) : Monitor routing (CreateStage × Bool) :=
  (createMonitor r).tracking (fair sp)

theorem createMonitor_reads : (createMonitor r).Ignores IsRead := by
  intro m o ho
  cases o <;> first | exact ho.elim | exact ⟨trivial, fun _ => rfl⟩

theorem publishOutcome_follows (ht : t ≠ typeCancelAcked ∧ t ≠ typeCancelRejected)
    (d : ResponseData) {m : CreateStage × Bool} {Q : Option Unit → CreateStage × Bool → Prop}
    (hq : ∀ b', (b' = true → m.2 = true) → Q (some ()) (m.1, b')) :
    Follows (createTracking r sp) (publishOutcome t d) m Q :=
  ⟨ht, fun _ => hq _ fun h => (Bool.and_eq_true_iff.mp h).1⟩

def DispatchEnd (out : Option (Bool × Option HandlerErr)) (m : CreateStage × Bool) : Prop :=
  if out.any Prod.fst then m.1 = .dispatched else m.1 = .cleared ∧ m.2 = false

theorem forward_follows {params : RoutingForwarder.ForwardParams} (sp' : StoredProvider) (n : ℤ)
    (hr : params.resourceID = r) (hc : params.isCreate = true) :
    Follows (createTracking r sp) (RoutingForwarder.forwardWithRetry sp' params n) (.cleared, b)
      fun out m => if out = some none then m.1 = .dispatched else m.1 = .cleared ∧ m.2 = false := by
  have hcall : IsCreateOf r (RoutingForwarder.spCallOf sp' params) := by
    simp [RoutingForwarder.spCallOf, hc, IsCreateOf, hr]
  refine RoutingForwarder.forwardAttempts_follows (fun m => m.1 = .cleared)
    (fun _ m => m.1 = .cleared ∧ m.2 = false) ?_ ?_ ?_ ?_ ?_ ?_ ?_ ?_ _ _ rfl
  · exact fun m hm => ⟨hm, hcall⟩
  · exact fun m hm => rfl
  · exact fun m hm => ⟨hm, Bool.and_false _⟩
  · exact fun m e hm => ⟨hm, Bool.and_false _⟩
  · intro m e o ho hm
    have hkeep : ∀ b, (m.2 && b) = false := fun b => by rw [hm.2, Bool.false_and]
    cases o <;> first | exact ho.elim | exact ⟨trivial, fun _ => ⟨hm.1, hkeep _⟩⟩
  · exact fun m e hm => hm
  · exact fun m e hm => hm
  · exact fun m e hm _ => hm.1

theorem dispatch_follows (sp' : StoredProvider) (hr : payload.resourceID = r) :
    Follows (createTracking r sp) (dispatch cfg sp' true payload) (.cleared, b) DispatchEnd := by
  refine follows_bind.mpr (Follows.mono (forward_follows sp' _ hr rfl) ?_)
  rintro (_ | _ | _ | e) m hm
  · exact hm
  · exact follows_bind.mpr (publishOutcome_follows (by decide) _ fun _ _ => hm)
  · exact hm
  · obtain ⟨hstage, hfair⟩ : m.1 = .cleared ∧ m.2 = false := hm
    have hkeep : ∀ b', (b' = true → m.2 = true) → b' = false := fun b' h => by simpa [hfair] using h
    refine ⟨trivial, ?_⟩
    rintro (_ | _)
    · refine (follows_bind (p := publishOutcome typeError _)).mpr
        (publishOutcome_follows (by decide) _ fun b' h => ⟨hstage, ?_⟩)
      exact hkeep b' fun hb => (Bool.and_eq_true_iff.mp (h hb)).1
    · exact ⟨hstage, hkeep _ fun hb => (Bool.and_eq_true_iff.mp hb).1⟩

def CreateEnd (m : CreateStage × Bool) : Prop :=
  m.2 = true → m.1 = .refused ∨ m.1 = .dispatched ∨ m.1 = .dropped

theorem claimAndDispatch_follows (sp' : StoredProvider) (hr : payload.resourceID = r) :
    Follows (createTracking r sp) (claimAndDispatch cfg sp' true payload) (.locked, b)
      fun _ m => CreateEnd m := by
  refine ⟨⟨rfl, rfl, hr⟩, fun newlyAdded => ⟨⟨Or.inr rfl, rfl, hr⟩, ?_⟩⟩
  rintro (_ | _)
  · refine (follows_bind (p := (dispatch cfg sp' true payload).ensure _)).mpr
      (follows_ensure.mpr (Follows.mono (dispatch_follows cfg sp' hr) ?_))
    intro out m hm
    unfold DispatchEnd at hm
    unfold releaseClaim
    cases hout : out.any Prod.fst with
    | true =>
      simp only [hout, if_true] at hm
      simp only [Bool.not_true, Bool.and_false, Bool.false_eq_true, if_false]
      cases out with
      | none => simp at hout
      | some out => exact fun _ => Or.inr (Or.inl hm)
    | false =>
      simp only [hout, Bool.false_eq_true, if_false] at hm
      have hend : ∀ stage, CreateEnd (stage, m.2) := fun _ h => by simp [hm.2] at h
      cases newlyAdded
      · cases out <;> exact hend m.1
      · refine ⟨⟨Or.inl hm.1, rfl, hr⟩, fun _ => ?_⟩
        have hend' : CreateEnd ((createTracking r sp).next m
            ⟨.remove .claimedResourcesSet payload.resourceID, ()⟩) := fun h => by
          simp [Monitor.tracking, hm.2] at h
        cases out <;> exact hend'
  · have hdropped : ∀ b, CreateEnd (.dropped, b) := fun _ _ => Or.inr (Or.inr rfl)
    cases newlyAdded
    · exact hdropped _
    · exact ⟨⟨Or.inr rfl, rfl, hr⟩, fun _ => hdropped _⟩

theorem forwardWithRetry_follows (sp' : StoredProvider) (hr : payload.resourceID = r) :
    Follows (createTracking r sp) (RoutingRouter.forwardWithRetry cfg sp' true payload)
      (.start, b) fun _ m => CreateEnd m := by
  refine ⟨⟨rfl, hr⟩, ?_⟩
  rintro (_ | _)
  · exact fun _ => Or.inl rfl
  · refine follows_ensure.mpr (Follows.mono (claimAndDispatch_follows cfg sp' hr) ?_)
    intro out m hm
    refine ⟨trivial, fun _ h => hm ?_⟩
    exact (Bool.and_eq_true_iff.mp h).1

theorem handleRequest_follows (hid : sp.id ≠ "") (hf : cfg.forwarder = true) {msg : Bytes}
    (hparse : parseRequestCE cfg msg = some (true, payload)) (hr : payload.resourceID = r)
    (hne : r ≠ "") (hst : payload.serviceType ≠ "") (hsp : payload.serviceType = sp.serviceType) :
    Follows (createTracking r sp) (handleRequest cfg msg) (.start, true)
      fun _ m => CreateEnd m := by
  have hids : ¬ (payload.resourceID = "" ∨ payload.serviceType = "") := by
    rintro (h | h)
    · exact hne (hr.symm.trans h)
    · exact hst h
  simp only [handleRequest, hparse, hids, if_false, hf, Bool.not_true, Bool.false_eq_true]
  refine ⟨⟨Or.inl rfl, rfl, hr⟩, ?_⟩
  rintro (_ | _)
  · refine (follows_bind (p := resolveProvider _)).mpr
      (RoutingForwarder.resolveProvider_follows _ ?_ ?_)
    · exact fun m o ho => (createMonitor_reads m.1 o ho).1
    intro t res hres
    have hstate : (createTracking r sp).after (.start, true) t = (.start, t.all (fair sp)) := by
      rw [Monitor.tracking_after, Monitor.after_ignored _ createMonitor_reads hres.isRead,
        Bool.true_and]
    have hready := resolves_fair hid (hsp ▸ hres)
    change Follows _ _ ((createTracking r sp).after (.start, true) t) _
    rw [hstate]
    -- a result other than the Ready provider needed an unfair answer
    have hunfair : res ≠ .ok (some (sp, .ready)) → ∀ b', (b' = true → t.all (fair sp) = true) →
        CreateEnd (.start, b') := fun hne b' hb h => absurd (hready (hb h)) hne
    match res with
    | .error e => exact hunfair (by simp) _ id
    | .ok none =>
      exact follows_bind.mpr (publishOutcome_follows (by decide) _ (hunfair (by simp)))
    | .ok (some (p, .unavailable)) =>
      exact follows_bind.mpr (publishOutcome_follows (by decide) _ (hunfair (by simp)))
    | .ok (some (p, .unhealthy)) =>
      refine ⟨trivial, ?_⟩
      have hpublish : ∀ b', (b' && true) = true → b' = true := fun _ h => by simpa using h
      rintro (_ | _)
      · exact hunfair (by simp) _ (hpublish _)
      · refine (follows_bind (p := publishOutcome typeRequestQueued _)).mpr
          (publishOutcome_follows (by decide) _ fun b' h => ?_)
        exact hunfair (by simp) b' fun hb => hpublish _ (h hb)
    | .ok (some (p, .ready)) => exact forwardWithRetry_follows cfg p hr
  · exact fun _ => Or.inr (Or.inr rfl)

end Create

section Cancel

variable {r : String} {sp : StoredProvider} (cfg : RouterConfig)
  (pcfg : RetryProcessor.ProcessorConfig)

abbrev cancelTracking (r : String) (sp : StoredProvider) : Monitor routing (CancelStage × Bool) :=
  (cancelMonitor r).tracking (fair sp)

def IsTerm : Op → Prop
  | .term _ => True
  | _ => False

theorem retryMessages_uses (msgs : List Msg) :
    (RetryProcessor.retryMessages pcfg msgs).Uses (S := routing) IsTerm := by
  induction msgs with
  | nil => trivial
  | cons m msgs ih =>
    unfold RetryProcessor.retryMessages
    split
    · exact ⟨trivial, fun _ => ih⟩
    · exact ih.bind fun _ => trivial

def PurgeEnd (out : Option (Option HandlerErr)) (m : CancelStage × Bool) : Prop :=
  m.1 = .denied ∧ (out = some none ∨ m.2 = false)

theorem purgeMessages_follows (s : String) (msgs : List RetryMessage) (b : Bool) :
    Follows (cancelTracking r sp) (purgeMessages s msgs) (.denied, b) PurgeEnd := by
  induction msgs generalizing b with
  | nil => exact ⟨rfl, Or.inl rfl⟩
  | cons m msgs ih =>
    unfold purgeMessages
    split
    all_goals
      refine ⟨trivial, ?_⟩
      rintro (_ | _)
      · exact ⟨rfl, Or.inr (Bool.and_false b)⟩
      · exact ih _

theorem purgeFromRetryTopic_follows (b : Bool) :
    Follows (cancelTracking r sp)
      (purgeFromRetryTopic (RetryProcessor.fetchRetryMessages pcfg) r) (.denied, b) PurgeEnd := by
  have hterm : (cancelTracking r sp).Ignores IsTerm := by
    intro m o ho
    cases o <;> first | exact ho.elim | exact ⟨trivial, fun _ => Prod.ext rfl (Bool.and_true _)⟩
  refine follows_bind.mpr ⟨trivial, fun fetched => ?_⟩
  change Follows _ (if fetched.failed then _ else _) _ _
  split
  · rename_i hfailed
    exact ⟨rfl, Or.inr (by simp [Monitor.tracking, fair, hfailed])⟩
  · refine follows_bind.mpr ((retryMessages_uses pcfg fetched.msgs).follows hterm fun msgs => ?_)
    exact purgeMessages_follows r msgs _

def CancelEnd (m : CancelStage × Bool) : Prop := m.2 = true → m.1 = .acked ∨ m.1 = .rejected

theorem handleCancel_follows {msg : Bytes} (hparse : parseCancelCE cfg msg = some payload)
    (hr : payload.resourceID = r) (hne : r ≠ "") (hst : payload.serviceType ≠ "") :
    Follows (cancelTracking r sp)
      (handleCancel cfg (RetryProcessor.fetchRetryMessages pcfg) msg) (.start, true)
      fun _ m => CancelEnd m := by
  have hids : ¬ (payload.resourceID = "" ∨ payload.serviceType = "") := by
    rintro (h | h)
    · exact hne (hr.symm.trans h)
    · exact hst h
  have hack : ∀ b, Follows (cancelTracking r sp) (do
      publishOutcome typeCancelAcked
        (.cancelAck (responseCtx cfg payload.resourceID) payload.serviceType)
      return (none : Option HandlerErr)) (.denied, b) fun _ m => CancelEnd m := by
    refine fun b => ⟨⟨fun _ => ⟨rfl, hr⟩, fun h => absurd h (by decide)⟩, fun _ _ => Or.inl ?_⟩
    rfl
  simp only [handleCancel, hparse, hids, if_false]
  refine ⟨⟨rfl, rfl, hr⟩, ?_⟩
  rintro (_ | _)
  · refine ⟨trivial, fun bound => ⟨⟨rfl, rfl, hr⟩, fun _ => ?_⟩⟩
    cases bound
    · exact hack _
    · subst hr
      refine (follows_bind (p := purgeFromRetryTopic _ _)).mpr
        (Follows.mono (purgeFromRetryTopic_follows pcfg _) ?_)
      rintro (_ | _ | e) ⟨stage, b⟩ ⟨hstage, hout⟩
      · exact fun hb => absurd (hout.resolve_left (by simp)) (by simpa using hb)
      · obtain rfl : stage = .denied := hstage
        exact hack b
      · exact fun hb => absurd (hout.resolve_left (by simp)) (by simpa using hb)
  · refine ⟨⟨fun h => absurd h (by decide), fun _ => ⟨rfl, hr⟩⟩, fun _ _ => Or.inr ?_⟩
    rfl

end Cancel

/-! ## The two sets

What the stages say about the membership of `r`. -/

def CreateStage.HoldsClaim : CreateStage → Prop
  | .claimed | .cleared | .dispatched => True
  | _ => False

def CreateStage.Unchecked : CreateStage → Prop
  | .start | .locked | .claimed => True
  | _ => False

def CreateStage.Past : CreateStage → Prop
  | .cleared | .dispatched | .withdrawn => True
  | _ => False

def CancelStage.Wrote : CancelStage → Prop
  | .denied | .acked => True
  | _ => False

structure Sets (r : String) (w : SharedState) (s₀ : CreateStage) (s₁ : CancelStage) : Prop where
  claimed : s₀.HoldsClaim → r ∈ w.claimed
  written : r ∈ w.denyList → s₁.Wrote
  pending : s₁.Wrote → s₀.Unchecked → r ∈ w.denyList
  caught : s₀ = .dropped → s₁.Wrote

section Steps

variable {env : Environment} {r : String} {w w' : SharedState} {s₀ : CreateStage}
  {s₁ : CancelStage} {o : Op} {x : o.Ans}

theorem sets_step_create (h : Sets r w s₀ s₁) (ha : (createMonitor r).allowed s₀ o)
    (hact : act env o w x w') : Sets r w' ((createMonitor r).next s₀ ⟨o, x⟩) s₁ := by
  cases o with
  | add | contains => exact ha.elim
  | lockAddIfAbsent s =>
    obtain ⟨rfl, rfl⟩ := ha
    obtain ⟨-, rfl⟩ := Prod.mk.inj hact
    cases x
    · change Sets s _ .refused s₁
      exact ⟨False.elim, h.written, fun _ => False.elim, nofun⟩
    · change Sets s _ .locked s₁
      exact ⟨False.elim, h.written, fun hw _ => h.pending hw trivial, nofun⟩
  | lockRemove s =>
    obtain ⟨-, rfl⟩ := Prod.mk.inj hact
    exact ⟨h.claimed, h.written, h.pending, h.caught⟩
  | addIfAbsent l s =>
    obtain ⟨rfl, rfl, rfl⟩ := ha
    obtain ⟨-, hmem, hother⟩ := act_addIfAbsent hact
    have hdeny : w'.denyList = w.denyList := hother .denyList (by simp)
    change Sets s w' .claimed s₁
    exact ⟨fun _ => hmem, fun hr => h.written (hdeny ▸ hr),
      fun hw _ => hdeny ▸ h.pending hw trivial, nofun⟩
  | consume l s =>
    obtain ⟨hs, rfl, rfl⟩ := ha
    obtain ⟨hb, hgone, hother⟩ := act_consume hact
    have hclaimed : w'.claimed = w.claimed := hother .claimedResourcesSet (by simp)
    cases x with
    | true =>
      exact ⟨False.elim, fun hr => absurd hr hgone, fun _ => False.elim,
        fun _ => h.written (hb.mp rfl)⟩
    | false =>
      -- nothing was found: the cancel has not written yet
      have hnot : s ∉ w.denyList := fun hr => by simpa using hb.mpr hr
      have hunwritten : ¬ s₁.Wrote := fun hw => by
        rcases hs with rfl | rfl <;> exact hnot (h.pending hw trivial)
      have hwritten : s ∈ w'.denyList → s₁.Wrote := fun hr => absurd hr hgone
      rcases hs with rfl | rfl
      · exact ⟨False.elim, hwritten, fun hw => absurd hw hunwritten, h.caught⟩
      · change Sets s w' .cleared s₁
        exact ⟨fun _ => hclaimed ▸ h.claimed trivial, hwritten, fun hw => absurd hw hunwritten,
          nofun⟩
  | remove l s =>
    obtain ⟨hs, rfl, rfl⟩ := ha
    have hdeny : w'.denyList = w.denyList := (act_remove hact).2 .denyList (by simp)
    have hwritten : s ∈ w'.denyList → s₁.Wrote := fun hr => h.written (hdeny ▸ hr)
    rcases hs with rfl | rfl
    · change Sets s w' .withdrawn s₁
      exact ⟨False.elim, hwritten, fun _ => False.elim, nofun⟩
    · exact ⟨False.elim, hwritten, fun _ => False.elim, fun _ => h.caught rfl⟩
  | sp c =>
    obtain ⟨rfl, -⟩ := ha
    obtain ⟨-, rfl⟩ := hact
    cases x with
    | ok =>
      change Sets r _ .dispatched s₁
      exact ⟨fun _ => h.claimed trivial, h.written, fun _ => False.elim, nofun⟩
    | err | panicked => exact h
  | _ =>
    obtain ⟨-, rfl⟩ := hact
    exact h

theorem sets_step_cancel (h : Sets r w s₀ s₁) (ha : (cancelMonitor r).allowed s₁ o)
    (hact : act env o w x w') : Sets r w' s₀ ((cancelMonitor r).next s₁ ⟨o, x⟩) := by
  cases o with
  | addIfAbsent | consume | remove | lockAddIfAbsent | lockRemove | sp => exact ha.elim
  | contains l s =>
    obtain ⟨rfl, rfl, rfl⟩ := ha
    obtain ⟨-, hsame⟩ := act_contains hact
    have hwrote : ¬ ((cancelMonitor s).next .start ⟨.contains .claimedResourcesSet s, x⟩).Wrote := by
      cases x <;> exact id
    have hstart : ¬ CancelStage.start.Wrote := id
    refine ⟨?_, ?_, ?_, ?_⟩
    · exact fun hs => (hsame .claimedResourcesSet s).mpr (h.claimed hs)
    · exact fun hr => absurd (h.written ((hsame .denyList s).mp hr)) hstart
    · exact fun hw => absurd hw hwrote
    · exact fun hs => absurd (h.caught hs) hstart
  | add l s =>
    obtain ⟨rfl, rfl, rfl⟩ := ha
    obtain ⟨hmem, hother⟩ := act_add hact
    have hclaimed : w'.claimed = w.claimed := hother .claimedResourcesSet (by simp)
    exact ⟨fun hs => hclaimed ▸ h.claimed hs, fun _ => trivial, fun _ _ => hmem,
      fun _ => trivial⟩
  | publishCE t d =>
    obtain ⟨-, rfl⟩ := hact
    have hwrote : ((cancelMonitor r).next s₁ ⟨.publishCE t d, x⟩).Wrote ↔ s₁.Wrote := by
      simp only [cancelMonitor]
      split
      · rename_i ht
        rw [(ha.1 ht).1]
        exact Iff.rfl
      · split
        · rename_i ht
          rw [(ha.2 ht).1]
          exact Iff.rfl
        · exact Iff.rfl
    exact ⟨h.claimed, fun hr => hwrote.mpr (h.written hr),
      fun hw => h.pending (hwrote.mp hw), fun hs => hwrote.mpr (h.caught hs)⟩
  | _ =>
    obtain ⟨-, rfl⟩ := hact
    exact h

structure Granted (r : String) (w : SharedState) (s₀ : CreateStage) : Prop where
  unlocked : s₀ = .start → r ∉ w.inFlight.items
  granted : s₀ ≠ .refused

theorem createMonitor_next_lock (ho : ¬ UsesLock o) :
    ((createMonitor r).next s₀ ⟨o, x⟩ = .start → s₀ = .start) ∧
      ((createMonitor r).next s₀ ⟨o, x⟩ = .refused → s₀ = .refused) := by
  cases o with
  | lockAddIfAbsent | lockRemove => exact absurd trivial ho
  | consume =>
    cases x <;> cases s₀ <;> constructor <;> intro h <;> first | rfl | cases h
  | remove => cases s₀ <;> constructor <;> intro h <;> first | rfl | cases h
  | addIfAbsent =>
    exact ⟨(nofun : CreateStage.claimed = .start → _), (nofun : CreateStage.claimed = .refused → _)⟩
  | sp =>
    cases x with
    | ok => exact ⟨(nofun : CreateStage.dispatched = .start → _),
        (nofun : CreateStage.dispatched = .refused → _)⟩
    | err | panicked => exact ⟨id, id⟩
  | _ => exact ⟨id, id⟩

theorem granted_step_create (h : Granted r w s₀) (ha : (createMonitor r).allowed s₀ o)
    (hact : act env o w x w') : Granted r w' ((createMonitor r).next s₀ ⟨o, x⟩) := by
  by_cases ho : UsesLock o
  · cases o with
    | lockAddIfAbsent s =>
      obtain ⟨rfl, rfl⟩ := ha
      obtain ⟨rfl, rfl⟩ := Prod.mk.inj hact
      have hfree := h.unlocked rfl
      constructor <;> simp [createMonitor, KeyLock.addIfAbsent, hfree]
    | lockRemove s =>
      obtain ⟨-, rfl⟩ := Prod.mk.inj hact
      exact ⟨fun hs hr => h.unlocked hs (Finset.mem_of_mem_erase hr), h.granted⟩
    | _ => exact ho.elim
  · have hnext : ((createMonitor r).next s₀ ⟨o, x⟩ = .start → s₀ = .start) ∧
        ((createMonitor r).next s₀ ⟨o, x⟩ = .refused → s₀ = .refused) := createMonitor_next_lock ho
    exact ⟨fun hs => act_inFlight_eq ho hact ▸ h.unlocked (hnext.1 hs),
      fun hs => h.granted (hnext.2 hs)⟩

theorem granted_step_cancel (h : Granted r w s₀) (ha : (cancelMonitor r).allowed s₁ o)
    (hact : act env o w x w') : Granted r w' s₀ := by
  have ho : ¬ UsesLock o := by cases o <;> first | exact id | exact absurd ha id
  exact ⟨fun hs => act_inFlight_eq ho hact ▸ h.unlocked hs, h.granted⟩

end Steps

variable {i : ℕ}

section Order

variable {env : Environment} {r : String} {w w' : SharedState} {s₀ : CreateStage}
  {s₁ : CancelStage} {o : Op} {x : o.Ans} {log : Log routing}

def Called (log : Log routing) (r : String) : Prop :=
  ∃ i c x, (i, (⟨.sp c, x⟩ : RoutingEvent)) ∈ log ∧ IsCreateOf r c

def Emitted (log : Log routing) (ceType r : String) : Prop :=
  ∃ i d b, (i, (⟨.publishCE ceType d, b⟩ : RoutingEvent)) ∈ log ∧ d.ctx.resourceID = r

def isCreateCall (r : String) : RoutingEvent → Bool
  | ⟨.sp (.create _ _ req), _⟩ => req.resourceID == r
  | _ => false

instance : Decidable (Called log r) :=
  decidable_of_iff (log.any fun e => isCreateCall r e.2) <| by
    simp only [List.any_eq_true, Called]
    constructor
    · rintro ⟨⟨i, o, x⟩, hmem, hc⟩
      match o, x with
      | .sp (.create ep emb req), x =>
        exact ⟨i, _, x, hmem, by simpa [isCreateCall, IsCreateOf] using hc⟩
    · rintro ⟨i, c, x, hmem, hc⟩
      refine ⟨_, hmem, ?_⟩
      cases c with
      | create ep emb req => simpa [isCreateCall, IsCreateOf] using hc
      | delete ep emb req => exact hc.elim

def isEmission (ceType r : String) : RoutingEvent → Bool
  | ⟨.publishCE t d, _⟩ => t == ceType && d.ctx.resourceID == r
  | _ => false

instance {ceType : String} : Decidable (Emitted log ceType r) :=
  decidable_of_iff (log.any fun e => isEmission ceType r e.2) <| by
    simp only [List.any_eq_true, Emitted]
    constructor
    · rintro ⟨⟨i, o, x⟩, hmem, hc⟩
      match o, x with
      | .publishCE t d, x =>
        simp only [isEmission, Bool.and_eq_true, beq_iff_eq] at hc
        exact ⟨i, d, x, hc.1 ▸ hmem, hc.2⟩
    · rintro ⟨i, d, b, hmem, hd⟩
      exact ⟨_, hmem, by simpa [isEmission] using hd⟩

def checkFree (r : String) : ℕ × RoutingEvent := (1, ⟨.contains .claimedResourcesSet r, false⟩)
def claim (r : String) (b : Bool) : ℕ × RoutingEvent :=
  (0, ⟨.addIfAbsent .claimedResourcesSet r, b⟩)
def recheckFree (r : String) : ℕ × RoutingEvent := (0, ⟨.consume .denyList r, false⟩)
def deny (r : String) : ℕ × RoutingEvent := (1, ⟨.add .denyList r, ()⟩)
def withdraw (r : String) : ℕ × RoutingEvent := (0, ⟨.remove .claimedResourcesSet r, ()⟩)

/-- The create claims and re-checks between the cancel's check and its write. -/
def Window (log : Log routing) (r : String) : Prop :=
  ∃ b, [checkFree r, claim r b, recheckFree r, deny r].Sublist log

def WithdrawnBefore (log : Log routing) (r : String) : Prop :=
  [withdraw r, checkFree r].Sublist log

def Late (log : Log routing) (r : String) : Prop :=
  (∃ b, [checkFree r, claim r b, recheckFree r].Sublist log) ∨ WithdrawnBefore log r

theorem Late.append (h : Late log r) (e : ℕ × RoutingEvent) : Late (log ++ [e]) r :=
  h.imp (fun ⟨b, hb⟩ => ⟨b, hb.trans (List.sublist_append_left _ _)⟩)
    fun hl => List.Sublist.trans hl (List.sublist_append_left _ _)

def Overlap (log : Log routing) (r : String) : Prop := Window log r ∨ WithdrawnBefore log r

theorem Overlap.append (h : Overlap log r) (e : ℕ × RoutingEvent) : Overlap (log ++ [e]) r :=
  h.imp (fun ⟨b, hb⟩ => ⟨b, hb.trans (List.sublist_append_left _ _)⟩)
    fun hl => List.Sublist.trans hl (List.sublist_append_left _ _)

theorem called_append :
    Called (log ++ [(i, ⟨o, x⟩)]) r ↔
      Called log r ∨ ∃ c y, (⟨o, x⟩ : RoutingEvent) = ⟨.sp c, y⟩ ∧ IsCreateOf r c := by
  constructor
  · rintro ⟨j, c, y, hmem, hc⟩
    rcases List.mem_append.mp hmem with hmem | hmem
    · exact Or.inl ⟨j, c, y, hmem, hc⟩
    · exact Or.inr ⟨c, y, (Prod.mk.inj (List.mem_singleton.mp hmem)).2.symm, hc⟩
  · rintro (⟨j, c, y, hmem, hc⟩ | ⟨c, y, he, hc⟩)
    · exact ⟨j, c, y, List.mem_append_left _ hmem, hc⟩
    · exact ⟨i, c, y, by simp [he], hc⟩

theorem emitted_append :
    Emitted (log ++ [(i, ⟨o, x⟩)]) t r ↔
      Emitted log t r ∨ ∃ d b, (⟨o, x⟩ : RoutingEvent) = ⟨.publishCE t d, b⟩ ∧
        d.ctx.resourceID = r := by
  constructor
  · rintro ⟨j, d, b, hmem, hd⟩
    rcases List.mem_append.mp hmem with hmem | hmem
    · exact Or.inl ⟨j, d, b, hmem, hd⟩
    · exact Or.inr ⟨d, b, (Prod.mk.inj (List.mem_singleton.mp hmem)).2.symm, hd⟩
  · rintro (⟨j, d, b, hmem, hd⟩ | ⟨d, b, he, hd⟩)
    · exact ⟨j, d, b, List.mem_append_left _ hmem, hd⟩
    · exact ⟨i, d, b, by simp [he], hd⟩

theorem called_append_other (h : ∀ c y, (⟨o, x⟩ : RoutingEvent) ≠ ⟨.sp c, y⟩) :
    Called (log ++ [(i, ⟨o, x⟩)]) r ↔ Called log r :=
  called_append.trans (or_iff_left fun ⟨c, y, he, _⟩ => h c y he)

theorem emitted_append_other (h : ∀ d b, (⟨o, x⟩ : RoutingEvent) ≠ ⟨.publishCE t d, b⟩) :
    Emitted (log ++ [(i, ⟨o, x⟩)]) t r ↔ Emitted log t r :=
  emitted_append.trans (or_iff_left fun ⟨d, b, he, _⟩ => h d b he)

structure Order (r : String) (log : Log routing) (s₀ : CreateStage) (s₁ : CancelStage) :
    Prop where
  checked : s₁ = .free → checkFree r ∈ log
  withdrawn : s₀ = .withdrawn → withdraw r ∈ log
  kept : withdraw r ∈ log → s₀ = .withdrawn ∨ s₀ = .dropped
  claimLate : s₀ = .claimed → s₁ = .free → ∃ b, [checkFree r, claim r b].Sublist log
  clearedLate : s₀.Past → s₁ = .free → Late log r
  overlap : s₀.Past → s₁.Wrote → Overlap log r
  called : Called log r → s₀.Past
  dispatched : s₀ = .dispatched → Called log r
  acked : Emitted log typeCancelAcked r ↔ s₁ = .acked
  rejected : Emitted log typeCancelRejected r ↔ s₁ = .rejected

theorem Order.frame (h : Order r log s₀ s₁) (hsp : ∀ c y, (⟨o, x⟩ : RoutingEvent) ≠ ⟨.sp c, y⟩)
    (hce : ∀ t d b, (⟨o, x⟩ : RoutingEvent) = ⟨.publishCE t d, b⟩ →
      t ≠ typeCancelAcked ∧ t ≠ typeCancelRejected)
    (hwd : (i, (⟨o, x⟩ : RoutingEvent)) ≠ withdraw r) :
    Order r (log ++ [(i, ⟨o, x⟩)]) s₀ s₁ := by
  have hemitted : ∀ t, t = typeCancelAcked ∨ t = typeCancelRejected →
      (Emitted (log ++ [(i, ⟨o, x⟩)]) t r ↔ Emitted log t r) := fun t ht =>
    emitted_append_other fun d b he => ht.elim (hce t d b he).1 (hce t d b he).2
  constructor
  · exact fun hs => List.mem_append_left _ (h.checked hs)
  · exact fun hs => List.mem_append_left _ (h.withdrawn hs)
  · intro hmem
    rcases List.mem_append.mp hmem with hmem | hmem
    · exact h.kept hmem
    · exact absurd (List.mem_singleton.mp hmem).symm hwd
  · intro hs hs'
    obtain ⟨b, hb⟩ := h.claimLate hs hs'
    exact ⟨b, hb.trans (List.sublist_append_left _ _)⟩
  · exact fun hs hs' => (h.clearedLate hs hs').append _
  · exact fun hs hs' => (h.overlap hs hs').append _
  · exact fun hc => h.called ((called_append_other hsp).mp hc)
  · exact fun hs => (called_append_other hsp).mpr (h.dispatched hs)
  · exact (hemitted _ (Or.inl rfl)).trans h.acked
  · exact (hemitted _ (Or.inr rfl)).trans h.rejected

def Plain : Op → Prop
  | .sp _ | .publishCE _ _ | .remove _ _ => False
  | _ => True

theorem Order.plain (h : Order r log s₀ s₁) (ho : Plain o) (i : ℕ) :
    Order r (log ++ [(i, ⟨o, x⟩)]) s₀ s₁ := by
  refine h.frame ?_ ?_ ?_
  · rintro c y he
    cases he
    exact ho
  · rintro t d b he
    cases he
    exact ho.elim
  · intro he
    cases (Prod.mk.inj he).2
    exact ho

theorem Order.restage (h : Order r log s₀ s₁) (hu : s₀.Unchecked) {s : CreateStage}
    (hp : ¬ s.Past) (hc : s ≠ .claimed) : Order r log s s₁ := by
  have hs₀ : ¬ s₀.Past ∧ s₀ ≠ .withdrawn ∧ s₀ ≠ .dropped := by
    cases s₀ <;> simp_all [CreateStage.Unchecked, CreateStage.Past]
  have hs : s ≠ .withdrawn ∧ s ≠ .dispatched := by
    constructor <;> rintro rfl <;> exact hp trivial
  exact ⟨h.checked, fun e => absurd e hs.1, fun hmem => (h.kept hmem).elim
    (fun e => absurd e hs₀.2.1) (fun e => absurd e hs₀.2.2), fun e => absurd e hc,
    fun e => absurd e hp, fun e => absurd e hp, fun hcall => absurd (h.called hcall) hs₀.1,
    fun e => absurd e hs.2, h.acked, h.rejected⟩

theorem order_step_create (h : Order r log s₀ s₁) (hsets : Sets r w s₀ s₁)
    (ha : (createMonitor r).allowed s₀ o) (hact : act env o w x w') :
    Order r (log ++ [(0, ⟨o, x⟩)]) ((createMonitor r).next s₀ ⟨o, x⟩) s₁ := by
  cases o with
  | add | contains => exact ha.elim
  | lockAddIfAbsent s =>
    obtain ⟨rfl, rfl⟩ := ha
    have hf := h.plain (o := .lockAddIfAbsent s) (x := x) trivial 0
    cases x with
    | false => exact (hf.restage trivial id nofun : Order s _ .refused s₁)
    | true => exact (hf.restage trivial id nofun : Order s _ .locked s₁)
  | addIfAbsent l s =>
    obtain ⟨rfl, rfl, rfl⟩ := ha
    have hf := h.plain (o := .addIfAbsent .claimedResourcesSet s) (x := x) trivial 0
    change Order s _ .claimed s₁
    refine ⟨hf.checked, nofun, fun hm => ?_, fun _ hs => ?_, False.elim,
      False.elim, fun hc => (hf.called hc).elim, nofun, hf.acked, hf.rejected⟩
    · exact (hf.kept hm).elim nofun nofun
    · exact ⟨x, (List.singleton_sublist.mpr (h.checked hs)).append (List.Sublist.refl _)⟩
  | consume l s =>
    obtain ⟨hs, rfl, rfl⟩ := ha
    have hf := h.plain (o := .consume .denyList s) (x := x) trivial 0
    cases x with
    | true =>
      rcases hs with rfl | rfl <;>
        exact (hf.restage trivial id nofun : Order s _ .dropped s₁)
    | false =>
      rcases hs with rfl | rfl
      · exact hf
      · have hunwritten : ¬ s₁.Wrote := fun hw => by
          simpa using (act_consume hact).1.mpr (hsets.pending hw trivial)
        change Order s _ .cleared s₁
        refine ⟨hf.checked, nofun, fun hm => ?_, nofun, fun _ hfree => Or.inl ?_,
          fun _ hw => absurd hw hunwritten, fun hc => (hf.called hc).elim, nofun, hf.acked,
          hf.rejected⟩
        · exact (hf.kept hm).elim nofun nofun
        · obtain ⟨b, hb⟩ := h.claimLate rfl hfree
          exact ⟨b, hb.append (List.Sublist.refl [recheckFree s])⟩
  | remove l s =>
    obtain ⟨hs, rfl, rfl⟩ := ha
    have hcalled : Called (log ++ [withdraw s]) s ↔ Called log s :=
      called_append_other (by simp)
    have hemitted : ∀ t, Emitted (log ++ [withdraw s]) t s ↔ Emitted log t s := fun t =>
      emitted_append_other (by simp)
    have hchecked : s₁ = .free → checkFree s ∈ log ++ [withdraw s] := fun hs =>
      List.mem_append_left _ (h.checked hs)
    rcases hs with rfl | rfl
    · change Order s _ .withdrawn s₁
      exact ⟨hchecked, fun _ => List.mem_append_right log (List.mem_singleton_self _),
        fun _ => Or.inl rfl, nofun, fun _ hs => (h.clearedLate trivial hs).append _,
        fun _ hs => (h.overlap trivial hs).append _, fun _ => trivial, nofun,
        (hemitted _).trans h.acked, (hemitted _).trans h.rejected⟩
    · change Order s _ .dropped s₁
      exact ⟨hchecked, nofun, fun _ => Or.inr rfl, nofun, False.elim, False.elim,
        fun hc => h.called (hcalled.mp hc), nofun, (hemitted _).trans h.acked,
        (hemitted _).trans h.rejected⟩
  | sp c =>
    obtain ⟨rfl, hc⟩ := ha
    have hemitted : ∀ t, Emitted (log ++ [(0, ⟨.sp c, x⟩)]) t r ↔ Emitted log t r := fun t =>
      emitted_append_other (by simp)
    have hcall : Called (log ++ [(0, ⟨.sp c, x⟩)]) r := called_append.mpr (Or.inr ⟨c, x, rfl, hc⟩)
    have hkept : withdraw r ∉ log ++ [(0, (⟨.sp c, x⟩ : RoutingEvent))] := by
      intro hm
      rcases List.mem_append.mp hm with hm | hm
      · exact (h.kept hm).elim nofun nofun
      · cases (Prod.mk.inj (List.mem_singleton.mp hm)).2
    have hstage : ∀ s, s.Past → s ≠ .withdrawn → s ≠ .claimed →
        Order r (log ++ [(0, ⟨.sp c, x⟩)]) s s₁ := fun s hp hw hc =>
      ⟨fun hs => List.mem_append_left _ (h.checked hs), fun e => absurd e hw,
        fun hm => absurd hm hkept, fun e => absurd e hc,
        fun _ hs => (h.clearedLate trivial hs).append _,
        fun _ hs => (h.overlap trivial hs).append _, fun _ => hp, fun _ => hcall,
        (hemitted _).trans h.acked, (hemitted _).trans h.rejected⟩
    cases x with
    | ok => exact hstage .dispatched trivial nofun nofun
    | err | panicked => exact hstage .cleared trivial nofun nofun
  | publishCE t d =>
    refine h.frame (by simp) ?_ (by simp [withdraw])
    rintro t' d' b he
    simp only [Sigma.mk.injEq, Op.publishCE.injEq] at he
    exact he.1.1 ▸ ha
  | _ => exact h.plain (by trivial) 0

theorem order_step_cancel (h : Order r log s₀ s₁) (hsets : Sets r w s₀ s₁)
    (ha : (cancelMonitor r).allowed s₁ o) (hact : act env o w x w') :
    Order r (log ++ [(1, ⟨o, x⟩)]) s₀ ((cancelMonitor r).next s₁ ⟨o, x⟩) := by
  cases o with
  | addIfAbsent | consume | remove | lockAddIfAbsent | lockRemove | sp => exact ha.elim
  | contains l s =>
    obtain ⟨rfl, rfl, rfl⟩ := ha
    have hf := h.plain (o := .contains .claimedResourcesSet s) (x := x) trivial 1
    cases x with
    | true =>
      change Order s _ s₀ .refused
      exact ⟨nofun, hf.withdrawn, hf.kept, fun _ => nofun, fun _ => nofun, fun _ => False.elim,
        hf.called, hf.dispatched, hf.acked.trans (iff_of_false nofun nofun),
        hf.rejected.trans (iff_of_false nofun nofun)⟩
    | false =>
      -- the claimed set was free of the id, so a create past its claim has withdrawn it
      have hfree : ¬ s₀.HoldsClaim := fun hc => by
        simpa using (act_contains hact).1.mpr (hsets.claimed hc)
      change Order s _ s₀ .free
      refine ⟨fun _ => List.mem_append_right log (List.mem_singleton_self _), hf.withdrawn,
        hf.kept, fun hs => absurd (hs ▸ trivial) hfree, fun hs _ => Or.inr ?_,
        fun _ => False.elim, hf.called, hf.dispatched,
        hf.acked.trans (iff_of_false nofun nofun), hf.rejected.trans (iff_of_false nofun nofun)⟩
      have hw : s₀ = .withdrawn := by
        cases s₀ <;> first | rfl | exact hs.elim | exact absurd trivial hfree
      exact (List.singleton_sublist.mpr (h.withdrawn hw)).append (List.Sublist.refl _)
  | add l s =>
    obtain ⟨rfl, rfl, rfl⟩ := ha
    have hf := h.plain (o := .add .denyList s) (x := x) trivial 1
    change Order s _ s₀ .denied
    refine ⟨nofun, hf.withdrawn, hf.kept, fun _ => nofun, fun _ => nofun, fun hs _ => ?_,
      hf.called, hf.dispatched, hf.acked.trans (iff_of_false nofun nofun),
      hf.rejected.trans (iff_of_false nofun nofun)⟩
    rcases h.clearedLate hs rfl with ⟨b, hb⟩ | hw
    · exact Or.inl ⟨b, hb.append (List.Sublist.refl [deny s])⟩
    · exact Or.inr (List.Sublist.trans hw (List.sublist_append_left _ _))
  | publishCE t d =>
    have hne : typeCancelAcked ≠ typeCancelRejected := by decide
    have hcalled : Called (log ++ [(1, ⟨.publishCE t d, x⟩)]) r ↔ Called log r :=
      called_append_other (by simp)
    have hkept : withdraw r ∈ log ++ [(1, (⟨.publishCE t d, x⟩ : RoutingEvent))] →
        withdraw r ∈ log := fun hm => by simpa [withdraw] using hm
    have hemitted : ∀ {t'}, t ≠ t' →
        (Emitted (log ++ [(1, ⟨.publishCE t d, x⟩)]) t' r ↔ Emitted log t' r) := fun ht =>
      emitted_append_other fun d' b he => by simp at he; exact ht he.1.1
    have hwithdrawn := fun hs => List.mem_append_left [(1, (⟨.publishCE t d, x⟩ : RoutingEvent))]
      (h.withdrawn hs)
    by_cases hack : t = typeCancelAcked
    · subst hack
      obtain ⟨rfl, hd⟩ := ha.1 rfl
      change Order r _ s₀ .acked
      exact ⟨nofun, hwithdrawn, fun hm => h.kept (hkept hm), fun _ => nofun, fun _ => nofun,
        fun hs _ => (h.overlap hs trivial).append _, fun hc => h.called (hcalled.mp hc),
        fun hs => hcalled.mpr (h.dispatched hs),
        iff_of_true (emitted_append.mpr (Or.inr ⟨d, x, rfl, hd⟩)) rfl,
        (hemitted hne).trans (h.rejected.trans (iff_of_false nofun nofun))⟩
    · by_cases hrej : t = typeCancelRejected
      · subst hrej
        obtain ⟨rfl, hd⟩ := ha.2 rfl
        change Order r _ s₀ .rejected
        exact ⟨nofun, hwithdrawn, fun hm => h.kept (hkept hm), fun _ => nofun, fun _ => nofun,
          fun _ => False.elim, fun hc => h.called (hcalled.mp hc),
          fun hs => hcalled.mpr (h.dispatched hs),
          (hemitted hne.symm).trans (h.acked.trans (iff_of_false nofun nofun)),
          iff_of_true (emitted_append.mpr (Or.inr ⟨d, x, rfl, hd⟩)) rfl⟩
      · have hsame : (cancelMonitor r).next s₁ ⟨.publishCE t d, x⟩ = s₁ := by
          simp [cancelMonitor, hack, hrej]
        rw [hsame]
        refine h.frame (by simp) ?_ (by simp [withdraw])
        rintro t' d' b he
        simp only [Sigma.mk.injEq, Op.publishCE.injEq] at he
        exact he.1.1 ▸ ⟨hack, hrej⟩
  | _ => exact h.plain (by trivial) 1

end Order

structure Requests where
  router : RouterConfig
  processor : RetryProcessor.ProcessorConfig
  create : Bytes
  cancel : Bytes
  r : String
  created : InboundPayload
  cancelled : InboundPayload
  isCreate : parseRequestCE router create = some (true, created)
  isCancel : parseCancelCE router cancel = some cancelled
  create_id : created.resourceID = r
  cancel_id : cancelled.resourceID = r
  id_nonempty : r ≠ ""
  types_nonempty : created.serviceType ≠ "" ∧ cancelled.serviceType ≠ ""
  forwarder : router.forwarder = true

def Requests.start (q : Requests) (w : SharedState) : Config routing SharedState Unit :=
  ⟨[do let _ ← handleRequest q.router q.create,
    do let _ ← handleCancel q.router (RetryProcessor.fetchRetryMessages q.processor) q.cancel], w⟩

section Runs

variable {q : Requests} {w : SharedState} {env : Environment} {log : Log routing}
  {d : Config routing SharedState Unit}

def createStage (r : String) (log : Log routing) : CreateStage :=
  (createMonitor r).after .start (eventsOf 0 log)

def cancelStage (r : String) (log : Log routing) : CancelStage :=
  (cancelMonitor r).after .start (eventsOf 1 log)

theorem create_thread (sp : StoredProvider) (hid : sp.id ≠ "")
    (hsp : q.created.serviceType = sp.serviceType)
    (h : Run (sharedSemantics env) (q.start w) log d) :
    ∃ p, d.threads[0]? = some p ∧ Follows (createTracking q.r sp) p
      (createStage q.r log, (eventsOf 0 log).all (fair sp)) fun _ m => CreateEnd m := by
  have hf : Follows (createTracking q.r sp) (do let _ ← handleRequest q.router q.create)
      (.start, true) fun _ m => CreateEnd m := by
    refine follows_bind.mpr (Follows.mono (handleRequest_follows q.router hid q.forwarder
      q.isCreate q.create_id q.id_nonempty q.types_nonempty.1 hsp) ?_)
    rintro (_ | _) m hm <;> exact hm
  obtain ⟨-, p, hp, hfp⟩ := h.follows_at (i := 0) rfl hf
  rw [Monitor.tracking_after, Bool.true_and] at hfp
  exact ⟨p, hp, hfp⟩

theorem cancel_thread (sp : StoredProvider)
    (h : Run (sharedSemantics env) (q.start w) log d) :
    ∃ p, d.threads[1]? = some p ∧ Follows (cancelTracking q.r sp) p
      (cancelStage q.r log, (eventsOf 1 log).all (fair sp)) fun _ m => CancelEnd m := by
  have hf : Follows (cancelTracking q.r sp)
      (do let _ ← handleCancel q.router (RetryProcessor.fetchRetryMessages q.processor) q.cancel)
      (.start, true) fun _ m => CancelEnd m := by
    refine follows_bind.mpr (Follows.mono (handleCancel_follows q.router q.processor q.isCancel
      q.cancel_id q.id_nonempty q.types_nonempty.2) ?_)
    rintro (_ | _) m hm <;> exact hm
  obtain ⟨-, p, hp, hfp⟩ := h.follows_at (i := 1) rfl hf
  rw [Monitor.tracking_after, Bool.true_and] at hfp
  exact ⟨p, hp, hfp⟩

theorem createStage_snoc (r : String) (log : Log routing) (e : RoutingEvent) :
    createStage r (log ++ [(0, e)]) = (createMonitor r).next (createStage r log) e ∧
      createStage r (log ++ [(1, e)]) = createStage r log := by
  simp [createStage, eventsOf_other]

theorem cancelStage_snoc (r : String) (log : Log routing) (e : RoutingEvent) :
    cancelStage r (log ++ [(1, e)]) = (cancelMonitor r).next (cancelStage r log) e ∧
      cancelStage r (log ++ [(0, e)]) = cancelStage r log := by
  simp [cancelStage, eventsOf_other]

theorem pair_step (h : Run (sharedSemantics env) (q.start w) log d) {o : Op} {x : o.Ans}
    {u : Config routing SharedState Unit} (hs : Step (sharedSemantics env) d (i, ⟨o, x⟩) u) :
    act env o d.world x u.world ∧
      ((i = 0 ∧ (createMonitor q.r).allowed (createStage q.r log) o) ∨
        (i = 1 ∧ (cancelMonitor q.r).allowed (cancelStage q.r log) o)) := by
  have hlen : d.threads.length = 2 := h.length_eq fun _ => rfl
  have hi : i < d.threads.length := hs.moves
  cases hs with
  | mk hp ha =>
    refine ⟨ha, ?_⟩
    obtain rfl | rfl : i = 0 ∨ i = 1 := by omega
    · obtain ⟨p, hp', hf⟩ :=
        create_thread ⟨"id", "", "", q.created.serviceType, ""⟩ (by simp) rfl h
      obtain rfl := Option.some.inj (hp.symm.trans hp')
      exact Or.inl ⟨rfl, hf.1⟩
    · obtain ⟨p, hp', hf⟩ := cancel_thread ⟨"id", "", "", "", ""⟩ h
      obtain rfl := Option.some.inj (hp.symm.trans hp')
      exact Or.inr ⟨rfl, hf.1⟩

theorem pair_invariant (P : SharedState → Log routing → CreateStage → CancelStage → Prop)
    (init : P w [] .start .start)
    (create : ∀ w w' log s₀ s₁ (o : Op) (x : o.Ans), P w log s₀ s₁ →
      (createMonitor q.r).allowed s₀ o → act env o w x w' →
      P w' (log ++ [(0, ⟨o, x⟩)]) ((createMonitor q.r).next s₀ ⟨o, x⟩) s₁)
    (cancel : ∀ w w' log s₀ s₁ (o : Op) (x : o.Ans), P w log s₀ s₁ →
      (cancelMonitor q.r).allowed s₁ o → act env o w x w' →
      P w' (log ++ [(1, ⟨o, x⟩)]) s₀ ((cancelMonitor q.r).next s₁ ⟨o, x⟩))
    (h : Run (sharedSemantics env) (q.start w) log d) :
    P d.world log (createStage q.r log) (cancelStage q.r log) := by
  induction h with
  | nil => exact init
  | @snoc log d u e hr hs ih =>
    obtain ⟨i, o, x⟩ := e
    obtain ⟨hact, ⟨rfl, ha⟩ | ⟨rfl, ha⟩⟩ := pair_step hr hs
    · rw [(createStage_snoc _ _ _).1, (cancelStage_snoc _ _ _).2]
      exact create _ _ _ _ _ o x ih ha hact
    · rw [(createStage_snoc _ _ _).2, (cancelStage_snoc _ _ _).1]
      exact cancel _ _ _ _ _ o x ih ha hact

theorem run_sets_order (hdeny : q.r ∉ w.denyList)
    (h : Run (sharedSemantics env) (q.start w) log d) :
    Sets q.r d.world (createStage q.r log) (cancelStage q.r log) ∧
      Order q.r log (createStage q.r log) (cancelStage q.r log) := by
  refine pair_invariant (fun w log s₀ s₁ => Sets q.r w s₀ s₁ ∧ Order q.r log s₀ s₁) ?_ ?_ ?_ h
  · refine ⟨⟨False.elim, fun hr => absurd hr hdeny, False.elim, by simp⟩, ?_⟩
    constructor <;> simp [Called, Emitted, CreateStage.Past]
  · intro w w' log s₀ s₁ o x hboth ha hact
    obtain ⟨hs, ho⟩ := hboth
    exact ⟨sets_step_create hs ha hact, order_step_create ho hs ha hact⟩
  · intro w w' log s₀ s₁ o x hboth ha hact
    obtain ⟨hs, ho⟩ := hboth
    exact ⟨sets_step_cancel hs ha hact, order_step_cancel ho hs ha hact⟩

theorem run_granted (hlock : q.r ∉ w.inFlight.items)
    (h : Run (sharedSemantics env) (q.start w) log d) :
    Granted q.r d.world (createStage q.r log) := by
  refine pair_invariant (fun w _ s₀ _ => Granted q.r w s₀) ⟨fun _ => hlock, by simp⟩ ?_ ?_ h
  · exact fun w w' log s₀ s₁ o x hg ha hact => granted_step_create hg ha hact
  · exact fun w w' log s₀ s₁ o x hg ha hact => granted_step_cancel hg ha hact

theorem run_fair {sp : StoredProvider} {c : Config routing SharedState Unit}
    (h : Run (sharedSemantics (Cooperative sp)) c log d) (i : ℕ) :
    (eventsOf i log).all (fair sp) = true := by
  have hall : ∀ e ∈ log, fair sp e.2 = true := by
    induction h with
    | nil => simp
    | snoc hr hs ih =>
      intro e he
      rcases List.mem_append.mp he with he | he
      · exact ih e he
      · obtain rfl := List.mem_singleton.mp he
        cases hs with
        | @mk i o k x w' hi ha =>
          by_cases ho : Outside o
          · exact (act_outside ho ha).1
          · cases o <;> first | rfl | exact absurd trivial ho
  refine List.all_eq_true.mpr fun e he => ?_
  exact hall (i, e) (mem_eventsOf.mp he)

/-- Called and acknowledged together only if the create's claim and re-check fell between
the cancel's check and write, or the claim had been withdrawn before the check. Outside the
former, with a Ready provider whose calls succeed, one of the two handlers gives way. -/
theorem cancel_dispatch_exclusion (q : Requests) {w : SharedState} (hdeny : q.r ∉ w.denyList) :
    (∀ env log d, Run (sharedSemantics env) (q.start w) log d → Called log q.r →
      Emitted log typeCancelAcked q.r → Window log q.r ∨ WithdrawnBefore log q.r) ∧
    (∀ sp log d, sp.id ≠ "" → q.created.serviceType = sp.serviceType →
      q.r ∉ w.inFlight.items → Run (sharedSemantics (Cooperative sp)) (q.start w) log d →
      Quiescent d → ¬ Window log q.r →
        (¬ Called log q.r ∧ Emitted log typeCancelAcked q.r ∧
          ¬ Emitted log typeCancelRejected q.r) ∨
        (Called log q.r ∧ Emitted log typeCancelRejected q.r ∧
          ¬ Emitted log typeCancelAcked q.r ∧ q.r ∉ d.world.denyList)) := by
  constructor
  · intro env log d hrun hcalled hacked
    obtain ⟨-, horder⟩ := run_sets_order hdeny hrun
    refine horder.overlap (horder.called hcalled) ?_
    rw [horder.acked.mp hacked]
    trivial
  · intro sp log d hid hsp hlock hrun hquiet hwindow
    obtain ⟨hsets, horder⟩ := run_sets_order hdeny hrun
    have hend₀ : createStage q.r log = .dispatched ∨ createStage q.r log = .dropped := by
      obtain ⟨p, hp, hf⟩ := create_thread sp hid hsp hrun
      have hended := hquiet p (List.mem_of_getElem? hp)
      have hgranted := (run_granted hlock hrun).granted
      cases p with
      | call o k => exact hended.elim
      | _ => exact (hf (run_fair hrun 0)).resolve_left hgranted
    have hend₁ : cancelStage q.r log = .acked ∨ cancelStage q.r log = .rejected := by
      obtain ⟨p, hp, hf⟩ := cancel_thread sp hrun
      have hended := hquiet p (List.mem_of_getElem? hp)
      cases p with
      | call o k => exact hended.elim
      | _ => exact hf (run_fair hrun 1)
    rcases hend₀ with h₀ | h₀
    · -- dispatched: an acknowledgement would need the window or a withdrawn claim
      refine Or.inr ⟨horder.dispatched h₀, ?_⟩
      rcases hend₁ with h₁ | h₁
      · rcases horder.overlap (h₀ ▸ trivial) (h₁ ▸ trivial) with hw | hw
        · exact absurd hw hwindow
        · have hmem : withdraw q.r ∈ log := List.Sublist.subset hw (by simp)
          rcases horder.kept hmem with h | h <;> simp [h₀] at h
      · refine ⟨horder.rejected.mpr h₁, fun ha => ?_, fun hr => ?_⟩
        · simpa [h₁] using horder.acked.mp ha
        · simpa [h₁, CancelStage.Wrote] using hsets.written hr
    · have h₁ : cancelStage q.r log = .acked := by
        refine hend₁.resolve_right fun h₁ => ?_
        simpa [h₁, CancelStage.Wrote] using hsets.caught h₀
      refine Or.inl ⟨fun hc => ?_, horder.acked.mpr h₁, fun hr => ?_⟩
      · simpa [h₀, CreateStage.Past] using horder.called hc
      · simpa [h₁] using horder.rejected.mp hr

end Runs

def vmRequests : Requests where
  router := ⟨decodeAmong [(typeRequestCreate, "e1", "r", "vm"), (typeRequestCancel, "e2", "r", "vm")],
    true, 3, "agent", "main", "retry"⟩
  processor := ⟨fun _ => none, true, true, true, 3, "agent",
    MessagingTopics.deriveTopicNames "agent" ""⟩
  create := requestBytes typeRequestCreate "e1" "r" "vm"
  cancel := requestBytes typeRequestCancel "e2" "r" "vm"
  r := "r"
  created := ⟨"r", "vm", none, "e1"⟩
  cancelled := ⟨"r", "vm", none, "e2"⟩
  isCreate := by decide +kernel
  isCancel := by decide +kernel
  create_id := rfl
  cancel_id := rfl
  id_nonempty := by decide
  types_nonempty := by decide
  forwarder := rfl

def vmProvider : StoredProvider := ⟨"p1", "p", "http://p", "vm", "external"⟩
def vmState : SharedState := ⟨.new 10, .new 10, .new⟩

def racePlay : Log routing × Config routing SharedState Unit :=
  play (handler (singleProvider vmProvider .ready .ok)) (fun _ => []) (vmRequests.start vmState)
    [1, 0, 0, 0, 0, 0, 0, 0, 0, 1, 1, 1, 0, 0]

def failedPlay : Log routing × Config routing SharedState Unit :=
  play (handler (singleProvider vmProvider .ready (.err (.response 400 "bad")))) (fun _ => [])
    (vmRequests.start vmState) [0, 0, 0, 0, 0, 0, 0, 0, 0, 0, 0, 0, 0, 1, 1, 1, 1]

theorem vmAnswers_cooperative (o : Op) :
    Cooperative vmProvider o ((singleProvider vmProvider .ready .ok).answer o) := by
  cases o <;> simp [Cooperative, fair, Answers.answer, singleProvider]

def orderedPlay : Log routing × Config routing SharedState Unit :=
  play (handler (singleProvider vmProvider .ready .ok)) (fun _ => []) (vmRequests.start vmState)
    (List.replicate 10 0 ++ List.replicate 2 1)

def isFreeCheck : ℕ × RoutingEvent → Bool
  | (_, ⟨.contains _ _, b⟩) => !b
  | _ => false

theorem orderedPlay_window : ¬ Window orderedPlay.1 vmRequests.r := by
  rintro ⟨b, hb⟩
  have hmem : checkFree vmRequests.r ∈ orderedPlay.1 := hb.subset (by simp)
  have hnone : ∀ e ∈ orderedPlay.1, isFreeCheck e = false := by decide +kernel
  exact absurd (hnone _ hmem) (by decide)

theorem cancel_dispatch_exclusion_ordered :
    vmRequests.r ∉ vmState.denyList ∧ Quiescent orderedPlay.2 ∧
    ((¬ Called orderedPlay.1 vmRequests.r ∧ Emitted orderedPlay.1 typeCancelAcked vmRequests.r ∧
        ¬ Emitted orderedPlay.1 typeCancelRejected vmRequests.r) ∨
      (Called orderedPlay.1 vmRequests.r ∧ Emitted orderedPlay.1 typeCancelRejected vmRequests.r ∧
        ¬ Emitted orderedPlay.1 typeCancelAcked vmRequests.r ∧
        vmRequests.r ∉ orderedPlay.2.world.denyList)) := by
  have hdeny : vmRequests.r ∉ vmState.denyList := by decide
  have hquiet : Quiescent orderedPlay.2 := by decide +kernel
  exact ⟨hdeny, hquiet, (cancel_dispatch_exclusion vmRequests hdeny).2 vmProvider _ _ (by decide)
    rfl (by decide) (run_handler vmAnswers_cooperative _ _) hquiet orderedPlay_window⟩

/-- Both at once: first by the window between the cancel's check and write, then after a
provider error has released the claim. -/
theorem cancel_dispatch_overlaps :
    vmRequests.r ∉ vmState.claimed ∧ vmRequests.r ∉ vmState.denyList ∧
    (∃ log d, Run (sharedSemantics (Cooperative vmProvider)) (vmRequests.start vmState) log d ∧
      Called log vmRequests.r ∧ Emitted log typeCancelAcked vmRequests.r) ∧
    (∃ log d, Run (sharedSemantics fun _ _ => True) (vmRequests.start vmState) log d ∧
      log.map Prod.fst = List.replicate 13 0 ++ List.replicate 4 1 ∧
      Called log vmRequests.r ∧ Emitted log typeCancelAcked vmRequests.r) :=
  ⟨by decide, by decide,
    ⟨racePlay.1, racePlay.2, run_handler vmAnswers_cooperative _ _, by decide +kernel,
      by decide +kernel⟩,
    ⟨failedPlay.1, failedPlay.2, run_handler (fun _ => trivial) _ _, by decide +kernel,
      by decide +kernel, by decide +kernel⟩⟩

end CancelDispatch
