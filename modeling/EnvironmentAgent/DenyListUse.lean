import EnvironmentAgent.InFlightExclusion

/-! # How long a deny entry lasts

The router takes the entry of a cancel out when it drops a create; the retry processor drops creates
and leaves the entry in place. -/
namespace DenyListUse

open AtomicPrograms ProgramInterleavings RoutingCloudEvent RoutingEffects RoutingSharedState
open RoutingResourceSet RoutingRouter RetryProcessor MessagingHandlers RoutineRules
open InFlightExclusion (Wiring Invocation)

def Hit (r : String) : RoutingEvent → Bool
  | ⟨.consume .denyList r', x⟩ | ⟨.contains .denyList r', x⟩ => decide (r' = r) && x
  | _ => false

def Entry (r : String) : RoutingEvent → Bool
  | ⟨.add .denyList r', _⟩ | ⟨.addIfAbsent .denyList r', _⟩ => decide (r' = r)
  | _ => false

def drops (r : String) (l : Log routing) : ℕ := l.countP fun e => Hit r e.2
def entries (r : String) (l : Log routing) : ℕ := l.countP fun e => Entry r e.2

def listed (w : SharedState) (r : String) : ℕ := if r ∈ w.denyList then 1 else 0

def Keeping (r : String) : Op → Bool
  | .contains .denyList r' => decide (r' = r)
  | _ => false

def Unlisted (r : String) (o : Op) (w : SharedState) : Prop := Keeping r o = true → r ∉ w.denyList

instance (r : String) (o : Op) (w : SharedState) : Decidable (Unlisted r o w) :=
  inferInstanceAs (Decidable (_ → _))

variable {o : Op}

section Steps

variable {env : Environment} {w w' : SharedState} {r : String}

theorem listed_le_one (w : SharedState) (r : String) : listed w r ≤ 1 := by
  unfold listed
  split <;> omega

theorem listed_mono (h : r ∈ w'.denyList → r ∈ w.denyList) : listed w' r ≤ listed w r := by
  unfold listed
  split <;> simp_all

theorem listed_step {x : o.Ans} (h : act env o w x w') (hC : Unlisted r o w) :
    (if Hit r ⟨o, x⟩ then 1 else 0) + listed w' r ≤
      (if Entry r ⟨o, x⟩ then 1 else 0) + listed w r := by
  have inserted : ∀ r', (r' = r → Entry r ⟨o, x⟩ = true) → Hit r ⟨o, x⟩ = false →
      w'.denyList = (w.denyList.insertId r').2 →
      (if Hit r ⟨o, x⟩ then 1 else 0) + listed w' r ≤
        (if Entry r ⟨o, x⟩ then 1 else 0) + listed w r := by
    intro r' hentry hhit hw
    have hone := listed_le_one w' r
    by_cases hr : r' = r
    · simp [hentry hr, hhit]
      omega
    · have hmono : listed w' r ≤ listed w r := listed_mono fun hm => by
        rw [hw] at hm
        exact (ResourceSet.mem_of_mem_insertId hm).resolve_left (Ne.symm hr)
      simp only [hhit, Bool.false_eq_true, if_false]
      omega
  have kept : Hit r ⟨o, x⟩ = false → (r ∈ w'.denyList → r ∈ w.denyList) →
      (if Hit r ⟨o, x⟩ then 1 else 0) + listed w' r ≤
        (if Entry r ⟨o, x⟩ then 1 else 0) + listed w r := by
    intro hhit hmem
    have hmono := listed_mono hmem
    simp only [hhit, Bool.false_eq_true, if_false]
    omega
  cases o with
  | add l r' =>
    obtain ⟨-, rfl⟩ := Prod.mk.inj h
    cases l with
    | denyList => exact inserted r' (by simp [Entry]) rfl rfl
    | claimedResourcesSet => exact kept rfl id
  | addIfAbsent l r' =>
    obtain ⟨-, rfl⟩ := Prod.mk.inj h
    cases l with
    | denyList => exact inserted r' (by simp [Entry]) rfl rfl
    | claimedResourcesSet => exact kept rfl id
  | contains l r' =>
    obtain ⟨rfl, rfl⟩ := Prod.mk.inj h
    cases l with
    | denyList =>
      refine kept ?_ (by simp [SharedState.ledger, SharedState.setLedger])
      by_cases hr : r' = r
      · subst hr
        have hmiss : (w.denyList.contains r').1 = false :=
          Bool.eq_false_iff.mpr fun hx => hC (by simp [Keeping])
            ((ResourceSet.contains_fst _ _).mp hx)
        simpa [Hit, SharedState.ledger] using hmiss
      · simp [Hit, hr]
    | claimedResourcesSet => exact kept rfl id
  | consume l r' =>
    obtain ⟨rfl, rfl⟩ := Prod.mk.inj h
    cases l with
    | denyList =>
      by_cases hr : r' = r
      · subst hr
        simp [Hit, Entry, listed, SharedState.ledger, SharedState.setLedger]
      · refine kept (by simp [Hit, hr]) ?_
        simp [SharedState.ledger, SharedState.setLedger]
    | claimedResourcesSet => exact kept rfl id
  | remove l r' =>
    obtain ⟨-, rfl⟩ := Prod.mk.inj h
    cases l with
    | denyList => exact kept rfl (by simp [SharedState.ledger, SharedState.setLedger])
    | claimedResourcesSet => exact kept rfl id
  | lockAddIfAbsent | lockRemove =>
    obtain ⟨-, rfl⟩ := Prod.mk.inj h
    exact kept rfl id
  | _ =>
    obtain ⟨-, rfl⟩ := h
    exact kept rfl id

theorem hit_not_entry {e : RoutingEvent} (h : Hit r e = true) : Entry r e = false := by
  obtain ⟨o, x⟩ := e
  cases o <;> first | rfl | cases h

end Steps

section Runs

variable {env : Environment} {c d : Config routing SharedState Unit} {l : Log routing} {r : String}

theorem drops_add_listed_le (h : Run ((sharedSemantics env).guarded (Unlisted r)) c l d) :
    drops r l + listed d.world r ≤ entries r l + listed c.world r := by
  induction h with
  | nil => simp [drops, entries]
  | @snoc l d u e hr hs ih =>
    cases hs with
    | mk hi ha =>
      have hstep := listed_step ha.2 ha.1
      simp only [drops, entries, List.countP_append, List.countP_singleton] at ih ⊢
      omega

theorem entry_between {l₁ l₂ l₃ : Log routing} {e e' : ℕ × RoutingEvent}
    (h : Run ((sharedSemantics env).guarded (Unlisted r)) c (l₁ ++ e :: (l₂ ++ e' :: l₃)) d)
    (he : Hit r e.2 = true) (he' : Hit r e'.2 = true) : ∃ x ∈ l₂, Entry r x.2 = true := by
  have hsplit : l₁ ++ e :: (l₂ ++ e' :: l₃) = (l₁ ++ [e]) ++ ((l₂ ++ [e']) ++ l₃) := by simp
  rw [hsplit] at h
  obtain ⟨u, hu, hrest⟩ := h.split
  obtain ⟨v, hv, -⟩ := hrest.split
  obtain ⟨b, hb, hlast⟩ := hu.split
  have hfirst := drops_add_listed_le hlast
  have hsecond := drops_add_listed_le hv
  have hone := listed_le_one b.world r
  simp only [drops, entries, List.countP_append, List.countP_singleton, he, he', hit_not_entry he,
    hit_not_entry he', if_true, Bool.false_eq_true, if_false] at hfirst hsecond
  have hpos : 0 < l₂.countP fun x => Entry r x.2 := by omega
  exact List.countP_pos_iff.mp hpos

end Runs

/-- The goroutines that take up requests and cancels of the main and cancel topics. -/
inductive Work where
  | request (msg : Bytes)
  | cancel (msg : Bytes)
  | drainCancels
  | drainMain

def work (a : Wiring) : Work → Routine Unit
  | .request msg => do let _ ← handleRequest a.router msg
  | .cancel msg => do let _ ← handleCancel a.router (fetchRetryMessages a.processor) msg
  | .drainCancels => do let _ ← drainCancelsToDenyList a.processor
  | .drainMain => do let _ ← drainMainTopic a.processor

def requests : List (String × String × String × String) :=
  [(typeRequestCancel, "c", "r", "vm"), (typeRequestCreate, "e", "r", "vm"),
    (typeRequestCreate, "f", "r", "vm")]

def cancelBytes : Bytes := requestBytes typeRequestCancel "c" "r" "vm"
def firstCreate : Msg := ⟨1, requestBytes typeRequestCreate "e" "r" "vm"⟩
def secondCreate : Msg := ⟨2, requestBytes typeRequestCreate "f" "r" "vm"⟩

def wiring : Wiring where
  router := ⟨decodeAmong requests, true, 3, "agent", "dcm.agent.agent", "agent.retry"⟩
  processor := { RetryDedup.vmProcessor with unmarshalEvent := decodeAmong requests }
  client := ⟨5, "agent", "dcm.agent.agent", fun _ => "r"⟩
  sharedLock := rfl

def answers (msgs : FetchResult) : Answers :=
  { singleProvider RetryDedup.vmProvider .ready .ok with
    fetchAll := fun _ _ => msgs }

def blank : SharedState := ⟨.new 10, .new 10, .new⟩

def routed : Config routing SharedState Unit :=
  ⟨[.cancel cancelBytes, .request firstCreate.data, .request secondCreate.data].map (work wiring),
    blank⟩

def drained : Config routing SharedState Unit :=
  ⟨[.cancel cancelBytes, .drainMain].map (work wiring), blank⟩

def routedPlay : Log routing × Config routing SharedState Unit :=
  play (handler (answers ⟨[], List.nodup_nil, false⟩)) (fun _ => []) routed
    [0, 0, 0, 0, 1, 2, 2, 2, 2, 2, 2, 2]

def drainedPlay : Log routing × Config routing SharedState Unit :=
  play (handler (answers ⟨[firstCreate, secondCreate], by decide, false⟩)) (fun _ => []) drained
    [0, 0, 0, 0, 1, 1, 1, 1, 1, 1, 1]

structure Gate where
  inHand : Option Bytes
  cleared : Bool
  deriving DecidableEq

def Gate.step (r : String) (s : Gate) : RoutingEvent → Gate
  | ⟨.inProgress g, _⟩ => ⟨some g.data, false⟩
  | ⟨.consume .denyList r', x⟩ | ⟨.contains .denyList r', x⟩ =>
    if r' = r then ⟨s.inHand, !x⟩ else s
  | _ => s

/-- The provider is called for `data` after a check of `r` only; only checks of the router take an
id out of the deny list. -/
def gate (data : Bytes) (r : String) : Monitor routing Gate where
  allowed s
    | .sp _ => s.inHand = some data → s.cleared = true
    | .remove .denyList _ => False
    | _ => True
  next := Gate.step r

/-- Every reader of the message reads a create of `r`. -/
structure CreateOf (a : Wiring) (data : Bytes) (r : String) : Prop where
  live : ∀ isCreate payload, parseRequestCE a.router data = some (isCreate, payload) →
    isCreate = true ∧ payload.resourceID = r
  queued : ∀ res, parseCE a.processor data = some res →
    res.ceType = typeRequestCreate ∧ res.resourceID = r

variable {payload : InboundPayload} {isCreate : Bool}

section Gate

variable {data : Bytes} {r : String}

theorem step_inHand {x : o.Ans} (s : Gate) (ho : ∀ g, o ≠ .inProgress g) :
    (Gate.step r s ⟨o, x⟩).inHand = s.inHand := by
  cases o with
  | consume l r' | contains l r' =>
    cases l with
    | denyList =>
      simp only [Gate.step]
      split <;> rfl
    | claimedResourcesSet => rfl
  | inProgress g => exact absurd rfl (ho g)
  | _ => rfl

theorem gate_quiet (b : Option Bytes) : Quiet (gate data r) (fun s => s.inHand = b) := by
  intro s o ho hs
  constructor
  · cases o <;> first | exact ho.elim | trivial
  · intro x
    refine (step_inHand s ?_).trans hs
    rintro g rfl
    exact ho

theorem gate_attempts {sp : StoredProvider} {params : RoutingForwarder.ForwardParams} {n : ℤ}
    {s : Gate} (hs : s.inHand = some data → s.cleared = true) :
    Follows (gate data r) (RoutingForwarder.forwardWithRetry sp params n) s
      fun _ s' => s'.inHand = s.inHand := by
  apply RoutingForwarder.forwardAttempts_follows (fun s' => s' = s) (fun _ s' => s' = s)
  · intro m hm
    subst hm
    exact hs
  · intro m hm
    exact congrArg Gate.inHand hm
  · intro m hm
    exact congrArg Gate.inHand hm
  · intro m e hm
    exact hm
  · intro m e o ho hm
    cases o <;> first | exact ho.elim | exact ⟨trivial, fun _ => hm⟩
  · intro m e hm
    exact congrArg Gate.inHand hm
  · intro m e hm
    exact congrArg Gate.inHand hm
  · intro m e hm _
    exact hm
  · rfl

theorem gate_claims (b : Option Bytes)
    (ho : match o with
      | .addIfAbsent _ _ | .remove .claimedResourcesSet _ | .lockAddIfAbsent _ | .lockRemove _ => True
      | _ => False) :
    Preserves (gate data r) (fun s => s.inHand = b) (Prog.perform (S := routing) o) := by
  refine Preserves.perform fun s hs => ?_
  cases o with
  | addIfAbsent | lockAddIfAbsent | lockRemove => exact ⟨trivial, fun _ => hs⟩
  | remove l =>
    cases l with
    | denyList => exact ho.elim
    | claimedResourcesSet => exact ⟨trivial, fun _ => hs⟩
  | _ => exact ho.elim

variable {b : Option Bytes} {a : Wiring} {sp : StoredProvider}

theorem dispatch_gate {s : Gate} (hs : s.inHand = some data → s.cleared = true) :
    Follows (gate data r) (dispatch a.router sp isCreate payload) s
      fun _ s' => s'.inHand = s.inHand := by
  have quiet : Quiet (gate data r) (fun s' => s'.inHand = s.inHand) := gate_quiet s.inHand
  refine follows_bind.mpr ((gate_attempts hs).mono ?_)
  intro out s' hs'
  match out with
  | none => exact hs'
  | some none =>
    cases isCreate with
    | true =>
      exact Preserves.bind (quiet_last quiet (o := .publishCE _ _) trivial)
        (fun _ => Preserves.pure _) s' hs'
    | false =>
      exact Preserves.bind (quiet_last quiet (o := .publishCE _ _) trivial)
        (fun _ => Preserves.pure _) s' hs'
  | some (some .context) => exact hs'
  | some (some (.sp e)) =>
    refine Preserves.bind (quiet_perform quiet (o := .ctxErr) trivial) (fun ended => ?_) s' hs'
    refine Preserves.ite (fun _ => Preserves.pure _) fun _ => ?_
    exact Preserves.bind (quiet_last quiet trivial) fun _ => Preserves.pure _

theorem claimAndDispatch_gate (hcreate : b = some data → isCreate = true ∧ payload.resourceID = r) :
    Preserves (gate data r) (fun s => s.inHand = b)
      (claimAndDispatch a.router sp isCreate payload) := by
  refine Preserves.bind (gate_claims b trivial) fun newlyAdded => ?_
  have dispatched : ∀ s : Gate, s.inHand = b → (s.inHand = some data → s.cleared = true) →
      Follows (gate data r) (do
        let out ← (dispatch a.router sp isCreate payload).ensure
          (RoutingRouter.releaseClaim newlyAdded payload.resourceID)
        return out.2) s fun _ s' => s'.inHand = b := by
    intro s hs hclear
    refine follows_bind.mpr (follows_ensure.mpr ((dispatch_gate hclear).mono ?_))
    intro out s' hs'
    have hb : s'.inHand = b := hs'.trans hs
    have release : Preserves (gate data r) (fun s => s.inHand = b)
        (RoutingRouter.releaseClaim newlyAdded payload.resourceID out) :=
      Preserves.ite (fun _ => gate_claims b trivial) fun _ => Preserves.pure ()
    refine (release s' hb).mono ?_
    intro u s'' hs''
    match u, out with
    | none, _ => exact hs''
    | some _, none => exact hs''
    | some _, some _ => exact hs''
  intro s hs
  cases isCreate with
  | false =>
    refine dispatched s hs fun hdata => ?_
    exact absurd (hcreate (hs.symm.trans hdata)).1 (by decide)
  | true =>
    refine ⟨trivial, fun denied => ?_⟩
    have hnext : (Gate.step r s ⟨.consume .denyList payload.resourceID, denied⟩).inHand = b :=
      (step_inHand (o := .consume .denyList _) s nofun).trans hs
    cases denied with
    | true =>
      cases newlyAdded with
      | true => exact Preserves.bind (gate_claims b trivial) (fun _ => Preserves.pure _) _ hnext
      | false => exact hnext
    | false =>
      refine dispatched _ hnext fun hdata => ?_
      have hr : payload.resourceID = r := (hcreate (hnext.symm.trans hdata)).2
      simp [gate, Gate.step, hr]

theorem forwardWithRetry_gate (hcreate : b = some data → isCreate = true ∧ payload.resourceID = r) :
    Preserves (gate data r) (fun s => s.inHand = b)
      (RoutingRouter.forwardWithRetry a.router sp isCreate payload) := by
  refine Preserves.bind (gate_claims b trivial) fun free => ?_
  refine Preserves.ite (fun _ => Preserves.pure _) fun _ => ?_
  exact Preserves.ensure (claimAndDispatch_gate hcreate) fun _ => gate_claims b trivial

theorem claimAndForward_gate {res : CEResult}
    (hcreate : b = some data → res.ceType = typeRequestCreate ∧ res.resourceID = r) :
    Preserves (gate data r) (fun s => s.inHand = b) (claimAndForward a.processor sp res) := by
  have quiet : Quiet (gate data r) (fun s => s.inHand = b) := gate_quiet b
  have release : ∀ newlyAdded, Preserves (gate data r) (fun s => s.inHand = b)
      (RetryProcessor.releaseClaim newlyAdded res.resourceID) := fun newlyAdded =>
    Preserves.ite (fun _ => gate_claims b trivial) fun _ => Preserves.pure ()
  have claims : Preserves (gate data r) (fun s => s.inHand = b)
      (claim a.processor res.resourceID) :=
    Preserves.ite (fun _ => gate_claims b trivial) fun _ => Preserves.pure _
  refine Preserves.bind claims fun newlyAdded => ?_
  have forwarded : ∀ s : Gate, s.inHand = b → (s.inHand = some data → s.cleared = true) →
      Follows (gate data r) (RoutingForwarder.forwardWithRetry sp (forwardParams res)
        a.processor.retryMaxAttempts >>= RetryForwarding.settleForward a.processor res newlyAdded) s
        fun _ s' => s'.inHand = b := by
    intro s hs hclear
    refine follows_bind.mpr ((gate_attempts hclear).mono ?_)
    intro out s' hs'
    have hb : s'.inHand = b := hs'.trans hs
    rcases out with _ | _ | _ | e
    · exact hb
    · refine Preserves.bind ?_ (fun _ => Preserves.pure true) s' hb
      unfold publishAckCE
      exact Preserves.ite (fun _ => quiet_last quiet trivial) fun _ => quiet_last quiet trivial
    · exact Preserves.bind (release newlyAdded) (fun _ => Preserves.pure false) s' hb
    · refine Preserves.bind (release newlyAdded) (fun _ => ?_) s' hb
      refine Preserves.bind (quiet_perform quiet trivial) fun ended => ?_
      refine Preserves.ite (fun _ => Preserves.pure _) fun _ => ?_
      exact Preserves.bind (quiet_last quiet trivial) fun _ => Preserves.pure _
  intro s hs
  unfold deniedCreate
  by_cases hc : res.ceType = typeRequestCreate
  · rw [if_pos hc]
    refine ⟨trivial, fun denied => ?_⟩
    have hnext : (Gate.step r s ⟨.contains .denyList res.resourceID, denied⟩).inHand = b :=
      (step_inHand (o := .contains .denyList _) s nofun).trans hs
    cases denied with
    | true => exact Preserves.bind (release newlyAdded) (fun _ => Preserves.pure _) _ hnext
    | false =>
      refine forwarded _ hnext fun hdata => ?_
      have hr : res.resourceID = r := (hcreate (hnext.symm.trans hdata)).2
      simp [gate, Gate.step, hr]
  · rw [if_neg hc]
    refine forwarded s hs fun hdata => ?_
    exact absurd (hcreate (hs.symm.trans hdata)).1 hc

theorem forwardRequest_gate {res : CEResult}
    (hcreate : b = some data → res.ceType = typeRequestCreate ∧ res.resourceID = r) :
    Preserves (gate data r) (fun s => s.inHand = b) (forwardRequest a.processor sp res) := by
  refine Preserves.ite (fun _ => ?_) fun _ => ?_
  · exact Preserves.bind (quiet_last (gate_quiet b) trivial) fun _ => Preserves.pure true
  · refine Preserves.ite (fun _ => ?_) fun _ => claimAndForward_gate hcreate
    refine Preserves.bind (gate_claims b trivial) fun free => ?_
    refine Preserves.ite (fun _ => Preserves.pure _) fun _ => ?_
    exact Preserves.ensure (claimAndForward_gate hcreate) fun _ => gate_claims b trivial

theorem gate_batches (hcreate : CreateOf a data r) :
    Batches (gate data r) a.processor (fun _ => True) (fun g s => s.inHand = some g.data) where
  quiet s o ho _ := ⟨(gate_quiet s.inHand s o ho rfl).1, fun _ => trivial⟩
  progress _ _ _ := ⟨trivial, fun _ => rfl⟩
  idle _ _ _ := trivial
  reads g s o ho := gate_quiet (some g.data) s o (IsRead.quiet ho)
  forward sp g res s hparse hs := by
    have hres : some g.data = some data → res.ceType = typeRequestCreate ∧ res.resourceID = r := by
      intro hdata
      rw [Option.some.inj hdata] at hparse
      exact hcreate.queued res hparse
    exact (forwardRequest_gate hres s hs).mono fun _ _ _ => trivial

def taken : Invocation → Option Bytes
  | .request msg => some msg
  | .mainMessage m => some m.data
  | _ => none

theorem handleRequest_gate (hcreate : CreateOf a data r) (msg : Bytes) :
    Preserves (gate data r) (fun s => s.inHand = some msg) (handleRequest a.router msg) := by
  refine handleRequest_preserves (gate_quiet (some msg)) fun sp isCreate payload hparse => ?_
  refine forwardWithRetry_gate fun hdata => ?_
  rw [Option.some.inj hdata] at hparse
  exact hcreate.live isCreate payload hparse

theorem routine_gate (hcreate : CreateOf a data r) {call : Invocation}
    (hcall : ∀ sp res, call ≠ .forward sp res) :
    Follows (gate data r) (a.routine call) ⟨taken call, false⟩ fun _ _ => True := by
  have batches := gate_batches hcreate
  cases call with
  | request msg =>
    exact (Preserves.bind (handleRequest_gate hcreate msg) (fun _ => Preserves.pure ()) _ rfl).mono
      fun _ _ _ => trivial
  | forward sp res => exact absurd rfl (hcall sp res)
  | mainMessage m =>
    exact (handleMainMessage_preserves (gate_quiet (some m.data)) (handleRequest_gate hcreate m.data)
      _ rfl).mono fun _ _ _ => trivial
  | cancel msg =>
    exact Preserves.bind (handleCancel_quiet batches.quiet a.router a.processor msg)
      (fun _ => Preserves.pure ()) _ trivial
  | transition providerID toStatus =>
    exact Preserves.bind (processOnTransition_preserves batches providerID toStatus)
      (fun _ => Preserves.pure ()) _ trivial
  | restart =>
    exact Preserves.bind (processOnRestart_preserves batches) (fun _ => Preserves.pure ()) _ trivial

end Gate

def Spent (r : String) : RoutingEvent → Bool
  | ⟨.consume .denyList r', x⟩ => decide (r' = r) && x
  | _ => false

def Miss (r : String) : RoutingEvent → Bool
  | ⟨.consume .denyList r', x⟩ | ⟨.contains .denyList r', x⟩ => decide (r' = r) && !x
  | _ => false

def inserted : Op → Option String
  | .add .denyList r | .addIfAbsent .denyList r => some r
  | _ => none

def NoEviction (o : Op) (w : SharedState) : Prop := ∀ r ∈ inserted o, w.denyList.Room r

instance (o : Op) (w : SharedState) : Decidable (NoEviction o w) :=
  inferInstanceAs (Decidable (∀ r ∈ inserted o, w.denyList.Room r))

def Removal : Op → Prop
  | .remove .denyList _ => True
  | _ => False

section Kept

variable {env : Environment} {r : String}

theorem kept_step {x : o.Ans} {w w' : SharedState} (h : act env o w x w') (hroom : NoEviction o w)
    (hremoval : ¬ Removal o) (hspent : Spent r ⟨o, x⟩ = false) (hr : r ∈ w.denyList) :
    r ∈ w'.denyList ∧ Miss r ⟨o, x⟩ = false := by
  cases o with
  | add l r' | addIfAbsent l r' =>
    obtain ⟨-, rfl⟩ := Prod.mk.inj h
    refine ⟨?_, rfl⟩
    cases l with
    | denyList => exact (ResourceSet.mem_insertId (hroom r' rfl)).mpr (Or.inr hr)
    | claimedResourcesSet => exact hr
  | contains l r' =>
    obtain ⟨hx, hmem⟩ := act_contains h
    refine ⟨(hmem .denyList r).mpr hr, ?_⟩
    cases l with
    | denyList =>
      by_cases hr' : r' = r
      · subst hr'
        have hfound : x = true := hx.mpr hr
        simp [Miss, hfound]
      · simp [Miss, hr']
    | claimedResourcesSet => rfl
  | consume l r' =>
    obtain ⟨rfl, rfl⟩ := Prod.mk.inj h
    cases l with
    | denyList =>
      by_cases hr' : r' = r
      · subst hr'
        have hfound : ((w.ledger .denyList).consume r').1 = true :=
          (ResourceSet.consume_fst _ _).mpr hr
        simp [Spent, hfound] at hspent
      · refine ⟨?_, by simp [Miss, hr']⟩
        exact ResourceSet.mem_consume.mpr ⟨Ne.symm hr', hr⟩
    | claimedResourcesSet => exact ⟨hr, rfl⟩
  | remove l r' =>
    obtain ⟨-, rfl⟩ := Prod.mk.inj h
    cases l with
    | denyList => exact absurd trivial hremoval
    | claimedResourcesSet => exact ⟨hr, rfl⟩
  | lockAddIfAbsent | lockRemove =>
    obtain ⟨-, rfl⟩ := Prod.mk.inj h
    exact ⟨hr, rfl⟩
  | _ =>
    obtain ⟨-, rfl⟩ := h
    exact ⟨hr, rfl⟩

theorem kept_run {c d : Config routing SharedState Unit} {l : Log routing}
    (h : Run ((sharedSemantics env).guarded NoEviction) c l d)
    (hremoval : ∀ e ∈ l, ¬ Removal e.2.1) (hspent : ∀ e ∈ l, Spent r e.2 = false)
    (hr : r ∈ c.world.denyList) : r ∈ d.world.denyList ∧ ∀ e ∈ l, Miss r e.2 = false := by
  induction h with
  | nil => exact ⟨hr, by simp⟩
  | @snoc l d u e hrun hs ih =>
    obtain ⟨hd, hmiss⟩ := ih (fun e he => hremoval e (List.mem_append_left _ he))
      fun e he => hspent e (List.mem_append_left _ he)
    have hlast := List.mem_append_right l (List.mem_singleton_self e)
    cases hs with
    | mk hi ha =>
      obtain ⟨hu, hnot⟩ := kept_step ha.2 ha.1 (hremoval _ hlast) (hspent _ hlast) hd
      refine ⟨hu, ?_⟩
      intro e' he'
      rcases List.mem_append.mp he' with he' | he'
      · exact hmiss e' he'
      · obtain rfl := List.mem_singleton.mp he'
        exact hnot

end Kept

def inHand (start : Option Bytes) (t : List RoutingEvent) : Option Bytes :=
  t.foldl (fun b e => match e with
    | ⟨.inProgress g, _⟩ => some g.data
    | _ => b) start

def Forwarded (calls : List Invocation) (data : Bytes) (l : Log routing) : Prop :=
  ∃ i call t c x u, calls[i]? = some call ∧ eventsOf i l = t ++ ⟨.sp c, x⟩ :: u ∧
    inHand (taken call) t = some data

def TakesUp (data : Bytes) : RoutingEvent → Prop
  | ⟨.fetchAll _ _, fetched⟩ => ∃ g ∈ fetched.msgs, g.data = data
  | ⟨.inProgress g, _⟩ => g.data = data
  | _ => False

structure Undelivered (calls : List Invocation) (data : Bytes) (l : Log routing) : Prop where
  live : ∀ i call, calls[i]? = some call → taken call = some data → eventsOf i l = []
  queued : ∀ e ∈ l, ¬ TakesUp data e.2

/-- A cancel of `r` has been handled to its end and acknowledged; `since` is what happened
after it put `r` on the deny list. -/
inductive Cancelled (a : Wiring) (calls : List Invocation) (r : String) :
    Log routing → Log routing → Prop where
  | acknowledged {j : ℕ} {msg : Bytes} {payload : InboundPayload} {l since : Log routing}
      {d : ResponseData} {b : Bool} (hcall : calls[j]? = some (.cancel msg))
      (hparse : parseCancelCE a.router msg = some payload) (hr : payload.resourceID = r)
      (hended : Exec (a.routine (.cancel msg))
        (eventsOf j (l ++ (j, ⟨.add .denyList r, ()⟩) :: since)) (some ()))
      (hack : (j, ⟨.publishCE typeCancelAcked d, b⟩) ∈ since) :
      Cancelled a calls r (l ++ (j, ⟨.add .denyList r, ()⟩) :: since) since

section Deliveries

variable {data : Bytes} {r : String} {s : Gate} {t : List RoutingEvent}

theorem after_inHand : ((gate data r).after s t).inHand = inHand s.inHand t := by
  induction t generalizing s with
  | nil => rfl
  | cons e t ih =>
    refine ih.trans ?_
    have hstep : ((gate data r).next s e).inHand = inHand s.inHand [e] := by
      obtain ⟨o, x⟩ := e
      cases o with
      | inProgress g => rfl
      | consume l r' | contains l r' =>
        exact step_inHand s nofun
      | _ => rfl
    rw [hstep]
    rfl

theorem inHand_ne {start : Option Bytes} (hstart : start ≠ some data)
    (ht : ∀ e ∈ t, ¬ TakesUp data e) : inHand start t ≠ some data := by
  induction t generalizing start with
  | nil => exact hstart
  | cons e t ih =>
    obtain ⟨hhead, htail⟩ := List.forall_mem_cons.mp ht
    refine ih ?_ htail
    obtain ⟨o, x⟩ := e
    cases o with
    | inProgress g => exact fun h => hhead (Option.some.inj h)
    | _ => exact hstart

theorem gate_shut (hs : s.inHand = some data → s.cleared = false)
    (ht : ∀ e ∈ t, Miss r e = false) :
    ((gate data r).after s t).inHand = some data → ((gate data r).after s t).cleared = false := by
  induction t generalizing s with
  | nil => exact hs
  | cons e t ih =>
    obtain ⟨hhead, htail⟩ := List.forall_mem_cons.mp ht
    refine ih ?_ htail
    obtain ⟨o, x⟩ := e
    cases o with
    | inProgress g => exact fun _ => rfl
    | consume l r' | contains l r' =>
      cases l with
      | denyList =>
        by_cases hr : r' = r
        · have hx : x = true := by simpa [Miss, hr] using hhead
          intro _
          simp [gate, Gate.step, hr, hx]
        · simpa [gate, Gate.step, hr] using hs
      | claimedResourcesSet => exact hs
    | _ => exact hs

end Deliveries

variable {calls : List Invocation}

theorem events_follow {a : Wiring} {env : Environment}
    (hcalls : ∀ sp res, Invocation.forward sp res ∉ calls) {data : Bytes} {r : String}
    (hcreate : CreateOf a data r) {w : SharedState} {l : Log routing}
    {d : Config routing SharedState Unit}
    (hrun : Run (sharedSemantics env) ⟨calls.map a.routine, w⟩ l d) {i : ℕ} {call : Invocation}
    (hi : calls[i]? = some call) : (gate data r).Accepts ⟨taken call, false⟩ (eventsOf i l) := by
  have hcall : ∀ sp res, call ≠ .forward sp res := by
    intro sp res h
    exact hcalls sp res (h ▸ List.mem_of_getElem? hi)
  have hthread : (calls.map a.routine)[i]? = some (a.routine call) := by simp [hi]
  exact (hrun.follows_at hthread (routine_gate hcreate hcall)).1

theorem no_removal {a : Wiring} {env : Environment}
    (hcalls : ∀ sp res, Invocation.forward sp res ∉ calls) {data : Bytes} {r : String}
    (hcreate : CreateOf a data r) {w : SharedState} {l : Log routing}
    {d : Config routing SharedState Unit}
    (hrun : Run (sharedSemantics env) ⟨calls.map a.routine, w⟩ l d) :
    ∀ e ∈ l, ¬ Removal e.2.1 := by
  intro e he hremoval
  have hbound : e.1 < calls.length := by
    have hlen := hrun.length_eq (fun _ => rfl)
    have hlt := hrun.events_bound e he
    rw [hlen] at hlt
    simpa using hlt
  have haccepts := events_follow hcalls hcreate hrun (List.getElem?_eq_getElem hbound)
  obtain ⟨t, u, htu⟩ := List.append_of_mem (mem_eventsOf.mpr he)
  rw [htu] at haccepts
  have hallowed := Monitor.accepts_split haccepts
  obtain ⟨i, o, x⟩ := e
  cases o with
  | remove l =>
    cases l with
    | denyList => exact hallowed
    | claimedResourcesSet => exact hremoval
  | _ => exact hremoval

/-- Once a cancel of `r` has been acknowledged, and as long as the router has not used its
entry up, no delivery of a create of `r` that comes after it is forwarded, on the live path
or on the retry path, in any number of deliveries. -/
theorem cancelled_create_not_forwarded (a : Wiring) (env : Environment) {calls : List Invocation}
    (hcalls : ∀ sp res, Invocation.forward sp res ∉ calls) {data : Bytes} {r : String}
    (hcreate : CreateOf a data r) {w : SharedState} {before since after : Log routing}
    {d : Config routing SharedState Unit}
    (hrun : Run ((sharedSemantics env).guarded NoEviction) ⟨calls.map a.routine, w⟩
      (before ++ after) d)
    (hcancel : Cancelled a calls r before since) (hfirst : Undelivered calls data before)
    (hspent : ∀ e ∈ since ++ after, Spent r e.2 = false) :
    ¬ Forwarded calls data (before ++ after) := by
  have hremoval := no_removal hcalls hcreate hrun.unguarded
  have hmiss : ∀ e ∈ after, Miss r e.2 = false := by
    cases hcancel with
    | @acknowledged j msg payload l since _ _ _ _ _ _ _ =>
      have hsplit : l ++ (j, (⟨.add .denyList r, ()⟩ : RoutingEvent)) :: since ++ after =
          (l ++ [(j, ⟨.add .denyList r, ()⟩)]) ++ (since ++ after) := by simp
      rw [hsplit] at hrun hremoval
      obtain ⟨u, hu, hrest⟩ := hrun.split
      obtain ⟨v, -, hstep⟩ := hu.last
      have hadded : r ∈ u.world.denyList := by
        cases hstep with
        | mk hi ha =>
          have hact : act env (.add .denyList r) v.world () _ := ha.2
          exact (act_add hact).1
      intro e he
      exact (kept_run hrest (fun e he => hremoval e (List.mem_append_right _ he)) hspent hadded).2 e
        (List.mem_append_right _ he)
  rintro ⟨i, call, t, c, x, u, hi, hevents, hhand⟩
  have haccepts := events_follow hcalls hcreate hrun.unguarded hi
  rw [hevents] at haccepts
  have hcleared : ((gate data r).after ⟨taken call, false⟩ t).cleared = true :=
    Monitor.accepts_split haccepts (after_inHand.trans hhand)
  have hshut : ((gate data r).after ⟨taken call, false⟩ t).cleared = false := by
    rw [eventsOf_append] at hevents
    have hlater : ∀ e ∈ eventsOf i after, Miss r e = false := fun e he =>
      hmiss (i, e) (mem_eventsOf.mp he)
    by_cases htaken : taken call = some data
    · rw [hfirst.live i call hi htaken, List.nil_append] at hevents
      refine gate_shut (fun _ => rfl) (fun e he => hlater e ?_) (after_inHand.trans hhand)
      rw [hevents]
      exact List.mem_append_left _ he
    · have hearlier : ∀ e ∈ eventsOf i before, ¬ TakesUp data e := fun e he =>
        hfirst.queued (i, e) (mem_eventsOf.mp he)
      rcases List.append_eq_append_iff.mp hevents with ⟨t', ht, hafter⟩ | ⟨t', hbefore, -⟩
      · subst ht
        rw [Monitor.after_append]
        refine gate_shut (fun h => ?_) (fun e he => hlater e ?_) ?_
        · exact absurd (after_inHand.symm.trans h) (inHand_ne htaken hearlier)
        · rw [hafter]
          exact List.mem_append_left _ he
        · rw [← Monitor.after_append]
          exact after_inHand.trans hhand
      · -- the call would have been made before the cancel was acknowledged
        refine absurd hhand (inHand_ne htaken fun e he => hearlier e ?_)
        rw [hbefore]
        exact List.mem_append_left _ he
  rw [hcleared] at hshut
  cases hshut

def acknowledgement : Log routing :=
  [(0, ⟨.publishCE typeCancelAcked (.cancelAck ⟨"r", "agent", "dcm.agent.agent"⟩ "vm"), true⟩)]

def cancelLog : Log routing :=
  [(0, ⟨.contains .claimedResourcesSet "r", false⟩), (0, ⟨.retryConsumer, false⟩)] ++
    (0, ⟨.add .denyList "r", ()⟩) :: acknowledgement

theorem wiring_createOf : CreateOf wiring firstCreate.data "r" := by
  have hlive : parseRequestCE wiring.router firstCreate.data =
      some (true, ⟨"r", "vm", none, "e"⟩) := by
    decide +kernel
  have hqueued : parseCE wiring.processor firstCreate.data =
      some ⟨"r", "vm", "e", typeRequestCreate, none⟩ := by decide +kernel
  constructor
  · intro isCreate payload h
    obtain ⟨rfl, rfl⟩ := Prod.mk.inj (Option.some.inj (hlive.symm.trans h))
    exact ⟨rfl, rfl⟩
  · intro res h
    obtain rfl := Option.some.inj (hqueued.symm.trans h)
    exact ⟨rfl, rfl⟩

def redeliveries : List Invocation :=
  [.cancel cancelBytes, .request firstCreate.data, .request firstCreate.data]

def redelivered : Config routing SharedState Unit := ⟨redeliveries.map wiring.routine, blank⟩

def redeliveredPlay : Log routing × Config routing SharedState Unit :=
  play (handler (answers ⟨[], List.nodup_nil, false⟩)) (fun _ => []) redelivered
    [0, 0, 0, 0, 1, 2, 2, 2, 2, 2, 2, 2, 2]

def redeliveredCall : List RoutingEvent :=
  [⟨.consume .denyList "r", false⟩, ⟨.lookup "vm", some "p"⟩,
    ⟨.getByName "p", .ok (some RetryDedup.vmProvider)⟩, ⟨.getState "p1", some .ready⟩,
    ⟨.lockAddIfAbsent "r", true⟩, ⟨.addIfAbsent .claimedResourcesSet "r", true⟩,
    ⟨.consume .denyList "r", false⟩]

theorem cancelLog_cancelled (h : calls[0]? = some (.cancel cancelBytes)) :
    Cancelled wiring calls "r" cancelLog acknowledgement := by
  have hparse : RoutingRouter.parseCancelCE wiring.router cancelBytes =
      some ⟨"r", "vm", none, "c"⟩ := by decide +kernel
  refine .acknowledged h hparse rfl ?_ (List.mem_singleton_self _)
  have hexec := Prog.exec_eval (handler (answers ⟨[], List.nodup_nil, false⟩))
    (wiring.routine (.cancel cancelBytes)) blank
  exact hexec

theorem cancelLog_untaken (data : Bytes) : ∀ e ∈ cancelLog, ¬ TakesUp data e.2 := by
  simp [cancelLog, acknowledgement, TakesUp]

/-- The first delivery is dropped and uses the entry up; the second one is forwarded. -/
theorem redelivered_create_forwarded :
    Run ((sharedSemantics fun _ _ => True).guarded NoEviction) redelivered
      (cancelLog ++ redeliveredPlay.1.drop 4) redeliveredPlay.2 ∧
    Cancelled wiring redeliveries "r" cancelLog acknowledgement ∧
    Undelivered redeliveries firstCreate.data cancelLog ∧
    Forwarded redeliveries firstCreate.data (cancelLog ++ redeliveredPlay.1.drop 4) := by
  have hlog : cancelLog ++ redeliveredPlay.1.drop 4 = redeliveredPlay.1 := by decide +kernel
  refine ⟨?_, cancelLog_cancelled rfl, ⟨?_, cancelLog_untaken _⟩, ?_⟩
  · rw [hlog]
    exact run_handler_guarded (fun _ => trivial) (by decide +kernel)
  · intro i call hi htaken
    match i with
    | 0 =>
      obtain rfl := Option.some.inj hi
      cases htaken
    | i + 1 => simp [cancelLog, acknowledgement, eventsOf]
  · exact ⟨2, .request firstCreate.data, redeliveredCall,
      .create "http://p" false ⟨"r", "vm", none, "e"⟩, .ok, [], rfl, by decide +kernel, rfl⟩

def queuedCalls : List Invocation := [.cancel cancelBytes, .transition "p1" .ready]

def queued : Config routing SharedState Unit := ⟨queuedCalls.map wiring.routine, blank⟩

def firstFetched : FetchResult := ⟨[firstCreate], List.nodup_singleton _, false⟩

def queuedPlay : Log routing × Config routing SharedState Unit :=
  play (handler (answers firstFetched)) (fun _ => []) queued
    [0, 0, 0, 0, 1, 1, 1, 1, 1, 1]

theorem cancelled_create_not_forwarded_queued :
    (firstCreate, RoutingTraces.Resolution.ack) ∈
      RoutingTraces.resolutions (eventsOf 1 (cancelLog ++ queuedPlay.1.drop 4)) ∧
    ¬ Forwarded queuedCalls firstCreate.data (cancelLog ++ queuedPlay.1.drop 4) := by
  have hlog : cancelLog ++ queuedPlay.1.drop 4 = queuedPlay.1 := by decide +kernel
  have hrun : Run ((sharedSemantics fun _ _ => True).guarded NoEviction) queued
      (cancelLog ++ queuedPlay.1.drop 4) queuedPlay.2 := by
    rw [hlog]
    exact run_handler_guarded (fun _ => trivial) (by decide +kernel)
  refine ⟨by decide +kernel, cancelled_create_not_forwarded wiring (fun _ _ => True) (by
    simp [queuedCalls]) wiring_createOf hrun (cancelLog_cancelled rfl) ⟨?_, cancelLog_untaken _⟩
    (by decide +kernel)⟩
  intro i call hi htaken
  match i with
  | 0 =>
    obtain rfl := Option.some.inj hi
    cases htaken
  | i + 1 => simp [cancelLog, acknowledgement, eventsOf]

end DenyListUse
