import EnvironmentAgent.DenyListUse

/-! # What the claimed ledger records

A forward claims its resource before it calls the provider and takes the claim back when the call
fails. -/
namespace ClaimedLedger

open AtomicPrograms ProgramInterleavings RoutingCloudEvent RoutingEffects RoutingSharedState
open RoutingResourceSet RoutingRouter RetryProcessor RoutineRules
open InFlightExclusion (Wiring Invocation heldBy heldStep)

/-- Between taking and releasing the lock of `r` a goroutine claims it, newly or not. -/
inductive Stage where
  | idle
  | entered
  | tentative
  | confirmed
  deriving DecidableEq, Repr

structure Standing where
  stage : Stage
  leaked : Bool
  deriving DecidableEq, Repr

def Standing.start : Standing := ⟨.idle, false⟩

def Standing.step (undoes : Bool) (r : String) (s : Standing) : RoutingEvent → Standing
  | ⟨.lockAddIfAbsent r', true⟩ => if r' = r then { s with stage := .entered } else s
  | ⟨.lockRemove r', _⟩ => if r' = r then { s with stage := .idle } else s
  | ⟨.addIfAbsent .claimedResourcesSet r', x⟩ =>
    if r' = r then { s with stage := if x then .tentative else .confirmed } else s
  | ⟨.remove .claimedResourcesSet r', _⟩ => if r' = r then { s with stage := .entered } else s
  | ⟨.sp c, .ok⟩ => if c.resourceID = r then { s with stage := .confirmed } else s
  | ⟨.sp c, .panicked⟩ =>
    if c.resourceID = r ∧ s.stage = .tentative ∧ undoes = false then ⟨.confirmed, true⟩ else s
  | _ => s

/-- The ledger is touched under the lock only, and the lock is not released while the claim is
tentative. -/
def ledger (undoes : Bool) (r : String) : Monitor routing Standing where
  allowed s
    | .lockAddIfAbsent r' => r' = r → s.stage = .idle
    | .lockRemove r' => r' = r → s.stage = .entered ∨ s.stage = .confirmed
    | .addIfAbsent .claimedResourcesSet r' => r' = r → s.stage = .entered
    | .remove .claimedResourcesSet r' => r' = r → s.stage = .tentative
    | .sp c => c.resourceID = r → s.stage = .tentative ∨ s.stage = .confirmed
    | .add .claimedResourcesSet _ | .consume .claimedResourcesSet _ => False
    | _ => True
  next := Standing.step undoes r

variable {newlyAdded : Bool} {payload : InboundPayload}

section Goroutine

variable {undoes : Bool} {r r₀ : String} {s : Standing} {st : Stage}

def At (r r₀ : String) (st : Stage) (s : Standing) : Prop :=
  s.stage = if r₀ = r then st else .idle

theorem ledger_quiet (P : Standing → Prop) : Quiet (ledger undoes r) P := by
  intro s o ho hs
  cases o with
  | add l | consume l =>
    cases l with
    | denyList => exact ⟨trivial, fun _ => hs⟩
    | claimedResourcesSet => exact ho.elim
  | addIfAbsent | remove | lockAddIfAbsent | lockRemove | sp => exact ho.elim
  | _ => exact ⟨trivial, fun _ => hs⟩

section Stages

-- The equations of the ledger's step are generated once, for all of its transitions.
attribute [local simp] At Standing.step

theorem at_locked (undoes : Bool) (hs : s.stage = .idle) :
    At r r₀ .entered (s.step undoes r ⟨.lockAddIfAbsent r₀, true⟩) := by
  by_cases hr : r₀ = r <;> simp [hr, hs]

theorem at_claimed (undoes : Bool) (hs : At r r₀ .entered s) (x : Bool) :
    At r r₀ (if x then .tentative else .confirmed)
      (s.step undoes r ⟨.addIfAbsent .claimedResourcesSet r₀, x⟩) := by
  by_cases hr : r₀ = r <;> simp_all

theorem at_undone (undoes : Bool) (hs : At r r₀ st s) (u : Unit) :
    At r r₀ .entered (s.step undoes r ⟨.remove .claimedResourcesSet r₀, u⟩) := by
  by_cases hr : r₀ = r <;> simp_all

theorem at_released (undoes : Bool) (hs : At r r₀ st s) (u : Unit) :
    (s.step undoes r ⟨.lockRemove r₀, u⟩).stage = .idle := by
  by_cases hr : r₀ = r <;> simp_all

theorem at_succeeded (undoes : Bool) {c : SPCall} (hc : c.resourceID = r₀) (hs : At r r₀ st s) :
    At r r₀ .confirmed (s.step undoes r ⟨.sp c, .ok⟩) := by
  by_cases hr : r₀ = r <;> simp_all

def panickedStage (undoes : Bool) (st : Stage) : Stage := if undoes then st else .confirmed

theorem at_panicked (undoes : Bool) {c : SPCall} (hc : c.resourceID = r₀)
    (hst : st = .tentative ∨ st = .confirmed) (hs : At r r₀ st s) :
    At r r₀ (panickedStage undoes st) (s.step undoes r ⟨.sp c, .panicked⟩) := by
  by_cases hr : r₀ = r
  · cases undoes <;> rcases hst with rfl | rfl <;>
      simp_all [panickedStage]
  · simp_all

end Stages

def Left (undoes : Bool) (r r₀ : String) (st : Stage) :
    Option (Option RoutingForwarder.ForwardErr) → Standing → Prop
  | some none => At r r₀ .confirmed
  | some (some _) => At r r₀ st
  | none => At r r₀ (panickedStage undoes st)

theorem attempts_ledger {sp : StoredProvider} {params : RoutingForwarder.ForwardParams} (n : ℤ)
    (hst : st = .tentative ∨ st = .confirmed) (hs : At r params.resourceID st s) :
    Follows (ledger undoes r) (RoutingForwarder.forwardWithRetry sp params n) s
      (Left undoes r params.resourceID st) := by
  have hid := RoutingForwarder.spCallOf_resourceID sp params
  apply RoutingForwarder.forwardAttempts_follows (At r params.resourceID st)
    (fun _ => At r params.resourceID st)
  · intro m hm hr
    have hstage : m.stage = st := hm.trans (if_pos (hid.symm.trans hr))
    rw [hstage]
    exact hst
  · intro m hm
    exact at_succeeded undoes hid hm
  · intro m hm
    exact at_panicked undoes hid hst hm
  · intro m e hm
    exact hm
  · intro m e o ho hm
    cases o <;> first | exact ho.elim | exact ⟨trivial, fun _ => hm⟩
  · intro m e hm
    exact hm
  · intro m e hm
    exact hm
  · intro m e hm _
    exact hm
  · exact hs

def Closing (r r₀ : String) (s : Standing) : Prop := At r r₀ .entered s ∨ At r r₀ .confirmed s

theorem locked_ledger {α : Type} {body : Routine α}
    (h : ∀ s, At r r₀ .entered s →
      Follows (ledger undoes r) body s fun _ s' => Closing r r₀ s')
    (hs : At r r₀ .entered s) :
    Follows (ledger undoes r) (body.ensure fun _ => lockRemove r₀) s
      fun _ s' => s'.stage = .idle := by
  refine follows_ensure.mpr ((h s hs).mono ?_)
  intro out s' hs'
  constructor
  · intro hr
    rcases hs' with hs' | hs'
    · exact Or.inl (hs'.trans (if_pos hr))
    · exact Or.inr (hs'.trans (if_pos hr))
  · intro u
    rcases hs' with hs' | hs'
    · exact at_released undoes hs' u
    · exact at_released undoes hs' u

variable (cfg : RouterConfig) (pcfg : ProcessorConfig) (sp : StoredProvider)

def Dispatched (r r₀ : String) (st : Stage) (out : Option (Bool × Option HandlerErr))
    (s : Standing) : Prop :=
  if out.any Prod.fst then At r r₀ .confirmed s else At r r₀ st s

theorem dispatch_ledger {isCreate : Bool} (hst : st = .tentative ∨ st = .confirmed)
    (hs : At r payload.resourceID st s) :
    Follows (ledger true r) (dispatch cfg sp isCreate payload) s
      (Dispatched r payload.resourceID st) := by
  refine follows_bind.mpr ((attempts_ledger _ hst hs).mono ?_)
  intro out s' hs'
  match out, hs' with
  | none, hs' => exact hs'
  | some none, hs' =>
    cases isCreate with
    | true => exact ⟨trivial, fun _ => hs'⟩
    | false => exact ⟨trivial, fun _ => hs'⟩
  | some (some .context), hs' => exact hs'
  | some (some (.sp e)), hs' =>
    refine ⟨trivial, fun ended => ?_⟩
    cases ended with
    | true => exact hs'
    | false => exact ⟨trivial, fun _ => hs'⟩

def claimStage (newlyAdded : Bool) : Stage := if newlyAdded then .tentative else .confirmed

theorem claimStage_cases (newlyAdded : Bool) :
    claimStage newlyAdded = .tentative ∨ claimStage newlyAdded = .confirmed := by
  cases newlyAdded
  · exact Or.inr rfl
  · exact Or.inl rfl

theorem releaseClaim_ledger {out : Option (Bool × Option HandlerErr)}
    (hs : Dispatched r r₀ (claimStage newlyAdded) out s) :
    Follows (ledger true r) (RoutingRouter.releaseClaim newlyAdded r₀ out) s
      fun u s' => u = some () ∧ Closing r r₀ s' := by
  unfold RoutingRouter.releaseClaim Dispatched at *
  cases newlyAdded with
  | false =>
    refine ⟨rfl, Or.inr ?_⟩
    split at hs <;> exact hs
  | true =>
    cases hany : out.any Prod.fst with
    | true =>
      rw [hany] at hs
      exact ⟨rfl, Or.inr hs⟩
    | false =>
      rw [hany] at hs
      exact ⟨fun hr => hs.trans (if_pos hr), fun u => ⟨rfl, Or.inl (at_undone true hs u)⟩⟩

theorem claimAndDispatch_ledger {isCreate : Bool} (hs : At r payload.resourceID .entered s) :
    Follows (ledger true r) (claimAndDispatch cfg sp isCreate payload) s
      fun _ s' => Closing r payload.resourceID s' := by
  refine ⟨fun hr => hs.trans (if_pos hr), fun newlyAdded => ?_⟩
  have hclaimed : At r payload.resourceID (claimStage newlyAdded)
      (s.step true r ⟨.addIfAbsent .claimedResourcesSet payload.resourceID, newlyAdded⟩) :=
    at_claimed true hs newlyAdded
  have dispatched : ∀ s', At r payload.resourceID (claimStage newlyAdded) s' →
      Follows (ledger true r) (do
        let out ← (dispatch cfg sp isCreate payload).ensure
          (RoutingRouter.releaseClaim newlyAdded payload.resourceID)
        return out.2) s' fun _ s'' => Closing r payload.resourceID s'' := by
    intro s' hs'
    refine follows_bind.mpr (follows_ensure.mpr
      ((dispatch_ledger cfg sp (claimStage_cases newlyAdded) hs').mono ?_))
    intro out u hu
    refine (releaseClaim_ledger hu).mono ?_
    rintro _ v ⟨rfl, hv⟩
    cases out with
    | none => exact hv
    | some out => exact hv
  cases isCreate with
  | false => exact dispatched _ hclaimed
  | true =>
    refine ⟨trivial, fun denied => ?_⟩
    cases denied with
    | false => exact dispatched _ hclaimed
    | true =>
      cases newlyAdded with
      | false => exact Or.inr hclaimed
      | true =>
        exact ⟨fun hr => Eq.trans hclaimed (if_pos hr), fun u => Or.inl (at_undone true hclaimed u)⟩

theorem forwardWithRetry_ledger (isCreate : Bool) (payload : InboundPayload) :
    Preserves (ledger true r) (fun s => s.stage = .idle)
      (RoutingRouter.forwardWithRetry cfg sp isCreate payload) := by
  intro s hs
  refine ⟨fun _ => hs, fun free => ?_⟩
  cases free with
  | false => exact hs
  | true =>
    exact locked_ledger (fun s' => claimAndDispatch_ledger cfg sp) (at_locked true hs)

theorem undoClaim_ledger (hs : At r r₀ (claimStage newlyAdded) s) :
    Follows (ledger false r) (RetryProcessor.releaseClaim newlyAdded r₀) s
      fun u s' => u = some () ∧ Closing r r₀ s' := by
  cases newlyAdded with
  | false => exact ⟨rfl, Or.inr hs⟩
  | true =>
    exact ⟨fun hr => Eq.trans hs (if_pos hr), fun u => ⟨rfl, Or.inl (at_undone false hs u)⟩⟩

theorem claimAndForward_ledger (hclaims : pcfg.claimedResourcesSet = true) {res : CEResult}
    (hs : At r res.resourceID .entered s) :
    Follows (ledger false r) (claimAndForward pcfg sp res) s
      fun _ s' => Closing r res.resourceID s' := by
  have quiet : ∀ P, Quiet (ledger false r) P := ledger_quiet
  unfold claimAndForward claim
  rw [if_pos hclaims]
  refine ⟨fun hr => hs.trans (if_pos hr), fun newlyAdded => ?_⟩
  have hclaimed : At r res.resourceID (claimStage newlyAdded)
      (s.step false r ⟨.addIfAbsent .claimedResourcesSet res.resourceID, newlyAdded⟩) :=
    at_claimed false hs newlyAdded
  have forwarded : ∀ s', At r res.resourceID (claimStage newlyAdded) s' →
      Follows (ledger false r) (RoutingForwarder.forwardWithRetry sp (forwardParams res)
        pcfg.retryMaxAttempts >>= RetryForwarding.settleForward pcfg res newlyAdded) s'
        fun _ s'' => Closing r res.resourceID s'' := by
    intro s' hs'
    refine follows_bind.mpr ((attempts_ledger _ (claimStage_cases newlyAdded) hs').mono ?_)
    intro out u hu
    rcases out with _ | _ | _ | e
    · exact Or.inr hu
    · have hclosing : Closing r res.resourceID u := Or.inr hu
      refine Preserves.bind (I := Closing r res.resourceID) ?_ (fun _ => Preserves.pure true) u hclosing
      unfold publishAckCE
      exact Preserves.ite (fun _ => quiet_last (quiet _) trivial) fun _ =>
        quiet_last (quiet _) trivial
    · refine follows_bind.mpr ((undoClaim_ledger hu).mono ?_)
      rintro _ v ⟨rfl, hv⟩
      exact hv
    · refine follows_bind.mpr ((undoClaim_ledger hu).mono ?_)
      rintro _ v ⟨rfl, hv⟩
      refine Preserves.bind (I := Closing r res.resourceID)
        (quiet_perform (quiet _) (o := .ctxErr) trivial) (fun ended => ?_) v hv
      refine Preserves.ite (fun _ => Preserves.pure _) fun _ => ?_
      exact Preserves.bind (quiet_last (quiet _) trivial) fun _ => Preserves.pure _
  unfold deniedCreate
  by_cases hcreate : res.ceType = typeRequestCreate
  · rw [if_pos hcreate]
    refine ⟨trivial, fun denied => ?_⟩
    cases denied with
    | false => exact forwarded _ hclaimed
    | true =>
      change Follows _ (RetryProcessor.releaseClaim newlyAdded res.resourceID >>= _) _ _
      refine follows_bind.mpr ((undoClaim_ledger hclaimed).mono ?_)
      rintro _ v ⟨rfl, hv⟩
      exact hv
  · rw [if_neg hcreate]
    exact forwarded _ hclaimed

theorem forwardRequest_ledger (hset : pcfg.inFlightSet = true)
    (hclaims : pcfg.claimedResourcesSet = true) (res : CEResult) :
    Preserves (ledger false r) (fun s => s.stage = .idle) (forwardRequest pcfg sp res) := by
  intro s hs
  unfold forwardRequest
  rw [if_pos hset]
  cases pcfg.forwarder with
  | false => exact ⟨trivial, fun _ => hs⟩
  | true =>
    refine ⟨fun _ => hs, fun free => ?_⟩
    cases free with
    | false => exact hs
    | true =>
      exact locked_ledger (fun s' => claimAndForward_ledger pcfg sp hclaims) (at_locked false hs)

end Goroutine

structure Exact (stand : ℕ → Standing) (succeeded claimed : Prop) : Prop where
  recorded : claimed ↔ succeeded ∨ (∃ i, (stand i).leaked = true) ∨ ∃ i, (stand i).stage = .tentative
  justified : ∀ i, (stand i).stage = .confirmed → succeeded ∨ ∃ j, (stand j).leaked = true
  fresh : ∀ i, (stand i).stage = .tentative → ¬ succeeded ∧ ∀ j, (stand j).leaked = false

section Exact

variable {stand stand' : ℕ → Standing} {S S' C C' : Prop} {i : ℕ}

def Alone (stand : ℕ → Standing) (i : ℕ) : Prop := ∀ j, (stand j).stage ≠ .idle → j = i

variable (h : Exact stand S C) (others : ∀ j, j ≠ i → stand' j = stand j)

include h others

theorem exact_moved (hold : (stand i).stage ≠ .tentative)
    (hnew : (stand' i).stage = .idle ∨ (stand' i).stage = .entered)
    (hleaked : (stand' i).leaked = (stand i).leaked) : Exact stand' S C := by
  have leaked : ∀ j, (stand' j).leaked = (stand j).leaked := by
    intro j
    by_cases hj : j = i
    · rw [hj, hleaked]
    · rw [others j hj]
  have tentative : ∀ j, (stand' j).stage = .tentative ↔ (stand j).stage = .tentative := by
    intro j
    by_cases hj : j = i
    · subst hj
      rcases hnew with hnew | hnew <;> simp [hnew, hold]
    · rw [others j hj]
  refine ⟨?_, ?_, ?_⟩
  · simpa only [leaked, tentative] using h.recorded
  · intro j hj
    simp only [leaked]
    by_cases hji : j = i
    · subst hji
      rcases hnew with hnew | hnew <;> simp [hnew] at hj
    · rw [others j hji] at hj
      exact h.justified j hj
  · intro j hj
    simpa only [leaked] using h.fresh j ((tentative j).mp hj)

omit h in
theorem idle_of_alone (halone : Alone stand i) {j : ℕ} (hj : j ≠ i) : (stand' j).stage = .idle := by
  rw [others j hj]
  by_contra hne
  exact hj (halone j hne)

theorem exact_claimed (hold : (stand i).stage = .entered) (halone : Alone stand i)
    (hnew : (stand' i).stage = claimStage newlyAdded)
    (hleaked : (stand' i).leaked = (stand i).leaked) (hadded : newlyAdded = true ↔ ¬ C) :
    Exact stand' S True := by
  have leaked : ∀ j, (stand' j).leaked = (stand j).leaked := by
    intro j
    by_cases hj : j = i
    · rw [hj, hleaked]
    · rw [others j hj]
  have none : ¬ ∃ j, (stand j).stage = .tentative := by
    rintro ⟨j, hj⟩
    obtain rfl := halone j (by simp [hj])
    simp [hold] at hj
  cases newlyAdded with
  | true =>
    have hfree : ¬ S ∧ ¬ ∃ j, (stand j).leaked = true := by
      have hC : ¬ C := hadded.mp rfl
      rw [h.recorded] at hC
      exact ⟨fun hS => hC (Or.inl hS), fun hl => hC (Or.inr (Or.inl hl))⟩
    refine ⟨iff_of_true trivial (Or.inr (Or.inr ⟨i, hnew⟩)), ?_, ?_⟩
    · intro j hj
      by_cases hji : j = i
      · subst hji
        simp [hnew, claimStage] at hj
      · simp [idle_of_alone others halone hji] at hj
    · intro j _
      refine ⟨hfree.1, fun k => ?_⟩
      rw [leaked k]
      exact Bool.eq_false_iff.mpr fun hk => hfree.2 ⟨k, hk⟩
  | false =>
    have hheld : S ∨ ∃ j, (stand' j).leaked = true := by
      have hC : C := by
        by_contra hC
        exact absurd (hadded.mpr hC) (by decide)
      simp only [leaked]
      rcases h.recorded.mp hC with hS | hl | ht
      · exact Or.inl hS
      · exact Or.inr hl
      · exact absurd ht none
    refine ⟨iff_of_true trivial (hheld.imp_right Or.inl), fun j _ => hheld, ?_⟩
    intro j hj
    by_cases hji : j = i
    · subst hji
      simp [hnew, claimStage] at hj
    · simp [idle_of_alone others halone hji] at hj

theorem exact_undone (hold : (stand i).stage = .tentative) (halone : Alone stand i)
    (hnew : (stand' i).stage = .entered) (hleaked : (stand' i).leaked = (stand i).leaked) :
    Exact stand' S False := by
  obtain ⟨hS, hleaks⟩ := h.fresh i hold
  have leaked : ∀ j, (stand' j).leaked = false := by
    intro j
    by_cases hj : j = i
    · rw [hj, hleaked, hleaks]
    · rw [others j hj, hleaks]
  have stages : ∀ j, (stand' j).stage = .idle ∨ (stand' j).stage = .entered := by
    intro j
    by_cases hj : j = i
    · exact Or.inr (hj ▸ hnew)
    · exact Or.inl (idle_of_alone others halone hj)
  refine ⟨?_, ?_, ?_⟩
  · refine iff_of_false id ?_
    rintro (hs | ⟨j, hj⟩ | ⟨j, hj⟩)
    · exact hS hs
    · simp [leaked j] at hj
    · rcases stages j with h' | h' <;> simp [h'] at hj
  · intro j hj
    rcases stages j with h' | h' <;> simp [h'] at hj
  · intro j hj
    rcases stages j with h' | h' <;> simp [h'] at hj

theorem exact_succeeded (hold : (stand i).stage = .tentative ∨ (stand i).stage = .confirmed)
    (halone : Alone stand i) (hnew : (stand' i).stage = .confirmed) : Exact stand' True C := by
  have hC : C := by
    apply h.recorded.mpr
    rcases hold with hold | hold
    · exact Or.inr (Or.inr ⟨i, hold⟩)
    · exact (h.justified i hold).imp_right Or.inl
  refine ⟨iff_of_true hC (Or.inl trivial), fun _ _ => Or.inl trivial, ?_⟩
  intro j hj
  by_cases hji : j = i
  · subst hji
    simp [hnew] at hj
  · simp [idle_of_alone others halone hji] at hj

theorem exact_leaked (hold : (stand i).stage = .tentative) (halone : Alone stand i)
    (hnew : stand' i = ⟨.confirmed, true⟩) : Exact stand' S C := by
  have hC : C := h.recorded.mpr (Or.inr (Or.inr ⟨i, hold⟩))
  have hleaked : ∃ j, (stand' j).leaked = true := ⟨i, by rw [hnew]⟩
  refine ⟨iff_of_true hC (Or.inr (Or.inl hleaked)), fun _ _ => Or.inr hleaked, ?_⟩
  intro j hj
  by_cases hji : j = i
  · subst hji
    simp [hnew] at hj
  · simp [idle_of_alone others halone hji] at hj

end Exact

def undoesAt (calls : List Invocation) (i : ℕ) : Bool :=
  match calls[i]? with
  | some (.request _) | some (.mainMessage _) => true
  | _ => false

def standingOf (calls : List Invocation) (r : String) (log : Log routing) (i : ℕ) : Standing :=
  (ledger (undoesAt calls i) r).after .start (eventsOf i log)

def Succeeds (r : String) : RoutingEvent → Bool
  | ⟨.sp c, .ok⟩ => decide (c.resourceID = r)
  | _ => false

def Succeeded (r : String) (log : Log routing) : Prop := ∃ e ∈ log, Succeeds r e.2 = true

/-- A provider call for `r` panicked in a goroutine of the retry processor that had newly claimed
`r`. -/
def Leaked (calls : List Invocation) (r : String) (log : Log routing) : Prop :=
  ∃ i t c u, undoesAt calls i = false ∧ eventsOf i log = t ++ ⟨.sp c, .panicked⟩ :: u ∧
    c.resourceID = r ∧ ((ledger false r).after .start t).stage = .tentative

variable {u : Bool} {ids : Finset String} {e : RoutingEvent}

section Whole

variable {a : Wiring} {env : Environment} {calls : List Invocation} {w : SharedState}
  {log : Log routing} {d : Config routing SharedState Unit} {r : String}

variable {i : ℕ}

theorem routine_ledger (hclaims : a.processor.claimedResourcesSet = true) {call : Invocation}
    (hi : calls[i]? = some call) :
    Follows (ledger (undoesAt calls i) r) (a.routine call) .start fun _ s => s.stage = .idle := by
  have batches : Batches (ledger false r) a.processor (fun s => s.stage = .idle)
      (fun _ s => s.stage = .idle) :=
    { quiet := ledger_quiet _
      progress := fun _ _ hs => ⟨trivial, fun _ => hs⟩
      idle := fun _ _ hs => hs
      reads := fun _ s o ho => ledger_quiet (fun s => s.stage = .idle) s o (IsRead.quiet ho)
      forward := fun sp _ res s _ hs =>
        forwardRequest_ledger a.processor sp a.sharedLock hclaims res s hs }
  have request : ∀ msg, Preserves (ledger true r) (fun s => s.stage = .idle)
      (handleRequest a.router msg) := fun msg =>
    handleRequest_preserves (ledger_quiet _) fun sp isCreate payload _ =>
      forwardWithRetry_ledger a.router sp isCreate payload
  unfold undoesAt
  rw [hi]
  cases call with
  | request msg => exact Preserves.bind (request msg) (fun _ => Preserves.pure ()) _ rfl
  | mainMessage m => exact handleMainMessage_preserves (ledger_quiet _) (request m.data) _ rfl
  | forward sp res =>
    exact Preserves.bind (forwardRequest_ledger a.processor sp a.sharedLock hclaims res)
      (fun _ => Preserves.pure ()) _ rfl
  | cancel msg =>
    exact Preserves.bind (handleCancel_quiet (ledger_quiet _) a.router a.processor msg)
      (fun _ => Preserves.pure ()) _ rfl
  | transition providerID toStatus =>
    exact Preserves.bind (processOnTransition_preserves batches providerID toStatus)
      (fun _ => Preserves.pure ()) _ rfl
  | restart =>
    exact Preserves.bind (processOnRestart_preserves batches) (fun _ => Preserves.pure ()) _ rfl

theorem run_ledger (hclaims : a.processor.claimedResourcesSet = true)
    (hrun : Run (sharedSemantics env) ⟨calls.map a.routine, w⟩ log d) {p : Routine Unit}
    (hp : d.threads[i]? = some p) :
    Follows (ledger (undoesAt calls i) r) p (standingOf calls r log i)
      fun _ s => s.stage = .idle := by
  have hlt : i < calls.length := by
    have hlen := hrun.length_eq fun _ => rfl
    have hi := (List.getElem?_eq_some_iff.mp hp).1
    rw [hlen] at hi
    simpa using hi
  have hcall : calls[i]? = some (calls.get ⟨i, hlt⟩) := by simp [hlt]
  have hthread : (calls.map a.routine)[i]? = some (a.routine (calls.get ⟨i, hlt⟩)) := by simp [hlt]
  obtain ⟨-, q, hq, hf⟩ := hrun.follows_at hthread (routine_ledger hclaims hcall)
  obtain rfl := Option.some.inj (hp.symm.trans hq)
  exact hf

theorem standingOf_other {j : ℕ} (h : j ≠ i) (e : RoutingEvent) :
    standingOf calls r (log ++ [(i, e)]) j = standingOf calls r log j := by
  simp [standingOf, eventsOf_other (Ne.symm h)]

theorem standingOf_own (i : ℕ) (e : RoutingEvent) :
    standingOf calls r (log ++ [(i, e)]) i =
      (standingOf calls r log i).step (undoesAt calls i) r e := by
  simp [standingOf, ledger]

variable {s : Standing}

theorem step_held {held : Finset String} (hallowed : (ledger u r).allowed s e.1)
    (h : s.stage ≠ .idle ↔ r ∈ held) :
    (s.step u r e).stage ≠ .idle ↔ r ∈ heldStep held e := by
  obtain ⟨o, x⟩ := e
  cases o with
  | lockAddIfAbsent r' =>
    cases x with
    | false => exact h
    | true =>
      by_cases hr : r' = r
      · simp [Standing.step, heldStep, hr]
      · simpa [Standing.step, heldStep, hr, Ne.symm hr] using h
  | lockRemove r' =>
    by_cases hr : r' = r
    · simp [Standing.step, heldStep, hr]
    · simpa [Standing.step, heldStep, hr, Ne.symm hr] using h
  | addIfAbsent l r' =>
    cases l with
    | denyList => exact h
    | claimedResourcesSet =>
      by_cases hr : r' = r
      · have hheld : r ∈ held := h.mp (by simp [hallowed hr])
        cases x <;> simp [Standing.step, heldStep, hr, hheld]
      · simpa [Standing.step, heldStep, hr] using h
  | remove l r' =>
    cases l with
    | denyList => exact h
    | claimedResourcesSet =>
      by_cases hr : r' = r
      · have hheld : r ∈ held := h.mp (by simp [hallowed hr])
        simp [Standing.step, heldStep, hr, hheld]
      · simpa [Standing.step, heldStep, hr] using h
  | sp c =>
    by_cases hr : c.resourceID = r
    · have hheld : r ∈ held := h.mp (by rcases hallowed hr with hs | hs <;> simp [hs])
      have hne : s.stage ≠ .idle := h.mpr hheld
      cases x with
      | ok => simp [Standing.step, heldStep, hr, hheld]
      | err => simpa [Standing.step, heldStep] using h
      | panicked =>
        simp only [Standing.step, heldStep, hheld, iff_true]
        split
        · simp
        · exact hne
    · cases x <;> simpa [Standing.step, heldStep, hr] using h
  | _ => exact h

theorem run_held (hclaims : a.processor.claimedResourcesSet = true)
    (hrun : Run (sharedSemantics env) ⟨calls.map a.routine, w⟩ log d) (i : ℕ) :
    (standingOf calls r log i).stage ≠ .idle ↔ r ∈ heldBy (eventsOf i log) := by
  induction hrun with
  | nil => simp [standingOf, Standing.start, heldBy]
  | @snoc log d u e hr hs ih =>
    obtain ⟨j, e⟩ := e
    by_cases hj : i = j
    · subst hj
      cases hs with
      | mk hi ha =>
        rw [standingOf_own, InFlightExclusion.heldBy_snoc, if_pos rfl]
        exact step_held (run_ledger hclaims hr hi).1 ih
    · rw [standingOf_other hj, InFlightExclusion.heldBy_snoc, if_neg (Ne.symm hj)]
      exact ih

theorem run_alone (hclaims : a.processor.claimedResourcesSet = true) (hw : w.inFlight = KeyLock.new)
    (hrun : Run (sharedSemantics env) ⟨calls.map a.routine, w⟩ log d)
    (hi : (standingOf calls r log i).stage ≠ .idle) : Alone (standingOf calls r log) i := by
  intro j hj
  exact (InFlightExclusion.run_exclusive hw hrun).unique j i r ((run_held hclaims hrun j).mp hj)
    ((run_held hclaims hrun i).mp hi)

def Effect (r : String) (C C' : Prop) : RoutingEvent → Prop
  | ⟨.addIfAbsent .claimedResourcesSet r', x⟩ =>
    if r' = r then (x = true ↔ ¬ C) ∧ C' else (C' ↔ C)
  | ⟨.remove .claimedResourcesSet r', _⟩ => if r' = r then ¬ C' else (C' ↔ C)
  | ⟨.add .claimedResourcesSet _, _⟩ | ⟨.consume .claimedResourcesSet _, _⟩ => True
  | _ => C' ↔ C

def claimInserted : Op → Option String
  | .addIfAbsent .claimedResourcesSet r => some r
  | _ => none

def ClaimRoom (o : Op) (w : SharedState) : Prop := ∀ r ∈ claimInserted o, w.claimed.Room r

theorem act_effect {o : Op} {x : o.Ans} {w' : SharedState} (h : act env o w x w')
    (hroom : ClaimRoom o w) : Effect r (r ∈ w.claimed) (r ∈ w'.claimed) ⟨o, x⟩ := by
  cases o with
  | add l r' =>
    obtain ⟨-, rfl⟩ := Prod.mk.inj h
    cases l with
    | denyList => exact Iff.rfl
    | claimedResourcesSet => trivial
  | addIfAbsent l r' =>
    cases l with
    | denyList =>
      obtain ⟨-, rfl⟩ := Prod.mk.inj h
      exact Iff.rfl
    | claimedResourcesSet =>
      by_cases hr : r' = r
      · subst hr
        obtain ⟨hx, hmem, -⟩ := act_addIfAbsent h
        change if r' = r' then _ else _
        rw [if_pos rfl]
        exact ⟨hx, hmem⟩
      · obtain ⟨-, rfl⟩ := Prod.mk.inj h
        have hmem := ResourceSet.mem_insertId (x := r) (hroom r' rfl)
        change if r' = r then _ else _
        rw [if_neg hr]
        exact ⟨fun hin => (hmem.mp hin).resolve_left (Ne.symm hr), fun hin => hmem.mpr (Or.inr hin)⟩
  | contains l r' => exact (act_contains h).2 .claimedResourcesSet r
  | consume l r' =>
    obtain ⟨-, rfl⟩ := Prod.mk.inj h
    cases l with
    | denyList => exact Iff.rfl
    | claimedResourcesSet => trivial
  | remove l r' =>
    obtain ⟨-, rfl⟩ := Prod.mk.inj h
    cases l with
    | denyList => exact Iff.rfl
    | claimedResourcesSet =>
      by_cases hr : r' = r
      · simp [Effect, hr, SharedState.setLedger]
      · simp [Effect, hr, SharedState.setLedger, SharedState.ledger, Ne.symm hr]
  | lockAddIfAbsent | lockRemove =>
    obtain ⟨-, rfl⟩ := Prod.mk.inj h
    exact Iff.rfl
  | _ =>
    obtain ⟨-, rfl⟩ := h
    exact Iff.rfl

theorem exact_step {stand stand' : ℕ → Standing} {S C C' : Prop} (h : Exact stand S C)
    (others : ∀ j, j ≠ i → stand' j = stand j) (own : stand' i = (stand i).step u r e)
    (hallowed : (ledger u r).allowed (stand i) e.1)
    (halone : (stand i).stage ≠ .idle → Alone stand i) (heffect : Effect r C C' e) :
    Exact stand' (S ∨ Succeeds r e = true) C' := by
  have same : stand' i = stand i → Succeeds r e = false → (C' ↔ C) →
      Exact stand' (S ∨ Succeeds r e = true) C' := by
    intro hi hsucceeds hC
    have hstand : stand' = stand := by
      funext j
      by_cases hj : j = i
      · rw [hj, hi]
      · exact others j hj
    rw [hstand, hsucceeds, propext hC]
    simpa using h
  obtain ⟨o, x⟩ := e
  cases o with
  | lockAddIfAbsent r' =>
    cases x with
    | false => exact same own rfl heffect
    | true =>
      by_cases hr : r' = r
      · have hidle := hallowed hr
        rw [propext heffect]
        simp only [Succeeds, Bool.false_eq_true, or_false]
        refine exact_moved h others (by simp [hidle]) (Or.inr ?_) ?_ <;>
          simp [own, Standing.step, hr]
      · exact same (own.trans (by simp [Standing.step, hr])) rfl heffect
  | lockRemove r' =>
    by_cases hr : r' = r
    · rw [propext heffect]
      simp only [Succeeds, Bool.false_eq_true, or_false]
      refine exact_moved h others ?_ (Or.inl ?_) ?_
      · rcases hallowed hr with hs | hs <;> simp [hs]
      · simp [own, Standing.step, hr]
      · simp [own, Standing.step, hr]
    · exact same (own.trans (by simp [Standing.step, hr])) rfl heffect
  | addIfAbsent l r' =>
    cases l with
    | denyList => exact same own rfl heffect
    | claimedResourcesSet =>
      change if r' = r then _ else _ at heffect
      by_cases hr : r' = r
      · rw [if_pos hr] at heffect
        have hold := hallowed hr
        have hpresent : C' = True := propext (iff_of_true heffect.2 trivial)
        rw [hpresent]
        simp only [Succeeds, Bool.false_eq_true, or_false]
        refine exact_claimed h others hold (halone (by simp [hold])) ?_ ?_ heffect.1
        · simp [own, Standing.step, hr, claimStage]
        · simp [own, Standing.step, hr]
      · rw [if_neg hr] at heffect
        exact same (own.trans (by simp [Standing.step, hr])) rfl heffect
  | remove l r' =>
    cases l with
    | denyList => exact same own rfl heffect
    | claimedResourcesSet =>
      change if r' = r then _ else _ at heffect
      by_cases hr : r' = r
      · rw [if_pos hr] at heffect
        have hold := hallowed hr
        have habsent : C' = False := propext (iff_of_false heffect id)
        rw [habsent]
        simp only [Succeeds, Bool.false_eq_true, or_false]
        refine exact_undone h others hold (halone (by simp [hold])) ?_ ?_
        · simp [own, Standing.step, hr]
        · simp [own, Standing.step, hr]
      · rw [if_neg hr] at heffect
        exact same (own.trans (by simp [Standing.step, hr])) rfl heffect
  | sp c =>
    by_cases hr : c.resourceID = r
    · have hold := hallowed hr
      have halone : Alone stand i := halone (by rcases hold with hs | hs <;> simp [hs])
      cases x with
      | ok =>
        rw [propext heffect]
        have hsucceeds : (S ∨ Succeeds r ⟨.sp c, .ok⟩ = true) = True := by simp [Succeeds, hr]
        rw [hsucceeds]
        exact exact_succeeded h others hold halone (by simp [own, Standing.step, hr])
      | err e => exact same own rfl heffect
      | panicked =>
        by_cases hleak : (stand i).stage = .tentative ∧ u = false
        · rw [propext heffect]
          simp only [Succeeds, Bool.false_eq_true, or_false]
          exact exact_leaked h others hleak.1 halone (by simp [own, Standing.step, hr, hleak])
        · refine same (own.trans ?_) rfl heffect
          simp only [Standing.step, hr, true_and]
          rw [if_neg hleak]
    · refine same (own.trans ?_) ?_ heffect
      · cases x <;> simp [Standing.step, hr]
      · cases x <;> simp [Succeeds, hr]
  | add l | consume l =>
    cases l with
    | denyList => exact same own rfl heffect
    | claimedResourcesSet => exact hallowed.elim
  | _ => exact same own rfl heffect

theorem run_exact (hclaims : a.processor.claimedResourcesSet = true)
    (hw : w.inFlight = KeyLock.new) (hr : r ∉ w.claimed)
    (hrun : Run ((sharedSemantics env).guarded ClaimRoom) ⟨calls.map a.routine, w⟩ log d) :
    Exact (standingOf calls r log) (Succeeded r log) (r ∈ d.world.claimed) := by
  induction hrun with
  | nil =>
    refine ⟨?_, ?_, ?_⟩ <;> simp [standingOf, Standing.start, Succeeded, hr]
  | @snoc log d u e hrun hs ih =>
    obtain ⟨i, e⟩ := e
    have hsucceeded : Succeeded r (log ++ [(i, e)]) = (Succeeded r log ∨ Succeeds r e = true) := by
      apply propext
      simp [Succeeded, or_and_right, exists_or]
    rw [hsucceeded]
    cases hs with
    | mk hi ha =>
      exact exact_step ih (fun j hj => standingOf_other hj _) (standingOf_own i _)
        (run_ledger hclaims hrun.unguarded hi).1
        (fun hne => run_alone hclaims hw hrun.unguarded hne) (act_effect ha.2 ha.1)

theorem act_claimed {o : Op} {x : o.Ans} {w' : SharedState} (h : act env o w x w')
    (hadd : ∀ r, o ≠ .add .claimedResourcesSet r) :
    w'.claimed.maxSize = w.claimed.maxSize ∧
      ∀ r ∈ w'.claimed, r ∈ w.claimed ∨ claimInserted o = some r := by
  cases o with
  | add l r' =>
    obtain ⟨-, rfl⟩ := Prod.mk.inj h
    cases l with
    | denyList => exact ⟨rfl, fun r hr => Or.inl hr⟩
    | claimedResourcesSet => exact absurd rfl (hadd r')
  | addIfAbsent l r' =>
    obtain ⟨-, rfl⟩ := Prod.mk.inj h
    cases l with
    | denyList => exact ⟨rfl, fun r hr => Or.inl hr⟩
    | claimedResourcesSet =>
      refine ⟨ResourceSet.insertId_maxSize _ _, fun r hr => ?_⟩
      rcases ResourceSet.mem_of_mem_insertId hr with rfl | hr
      · exact Or.inr rfl
      · exact Or.inl hr
  | contains l r' =>
    refine ⟨?_, fun r hr => Or.inl (((act_contains h).2 .claimedResourcesSet r).mp hr)⟩
    obtain ⟨-, rfl⟩ := Prod.mk.inj h
    cases l with
    | denyList => rfl
    | claimedResourcesSet => exact ResourceSet.contains_maxSize _ _
  | consume l r' =>
    obtain ⟨-, rfl⟩ := Prod.mk.inj h
    cases l with
    | denyList => exact ⟨rfl, fun r hr => Or.inl hr⟩
    | claimedResourcesSet =>
      exact ⟨ResourceSet.consume_maxSize _ _, fun r hr => Or.inl (ResourceSet.mem_consume.mp hr).2⟩
  | remove l r' =>
    obtain ⟨-, rfl⟩ := Prod.mk.inj h
    cases l with
    | denyList => exact ⟨rfl, fun r hr => Or.inl hr⟩
    | claimedResourcesSet =>
      exact ⟨ResourceSet.remove_maxSize _ _, fun r hr => Or.inl (ResourceSet.mem_remove.mp hr).2⟩
  | lockAddIfAbsent | lockRemove =>
    obtain ⟨-, rfl⟩ := Prod.mk.inj h
    exact ⟨rfl, fun r hr => Or.inl hr⟩
  | _ =>
    obtain ⟨-, rfl⟩ := h
    exact ⟨rfl, fun r hr => Or.inl hr⟩

theorem room_of_subset {s : ResourceSet} (hsub : ∀ x ∈ s, x ∈ ids) (hcap : ids.card < s.maxSize)
    (r : String) : s.Room r := by
  refine Or.inr (Nat.lt_of_le_of_lt (Finset.card_le_card ?_) hcap)
  exact fun x hx => hsub x hx

theorem run_roomy (hclaims : a.processor.claimedResourcesSet = true) (hempty : ∀ r, r ∉ w.claimed)
    (hids : ∀ e ∈ log, ∀ r ∈ claimInserted e.2.1, r ∈ ids) (hcap : ids.card < w.claimed.maxSize)
    (hrun : Run (sharedSemantics env) ⟨calls.map a.routine, w⟩ log d) :
    Run ((sharedSemantics env).guarded ClaimRoom) ⟨calls.map a.routine, w⟩ log d ∧
      d.world.claimed.maxSize = w.claimed.maxSize ∧ ∀ r ∈ d.world.claimed, r ∈ ids := by
  induction hrun with
  | nil => exact ⟨.nil, rfl, fun r hr => absurd hr (hempty r)⟩
  | @snoc log d u e hrun hs ih =>
    obtain ⟨hguarded, hsize, hsub⟩ := ih fun e he => hids e (List.mem_append_left _ he)
    have hlast := hids e (List.mem_append_right _ (List.mem_singleton_self e))
    cases hs with
    | @mk i o k x w' hi ha =>
      have hadd : ∀ r, o ≠ .add .claimedResourcesSet r := by
        rintro r rfl
        exact (run_ledger (r := r) hclaims hrun hi).1
      obtain ⟨hsize', hgrows⟩ := act_claimed ha hadd
      refine ⟨hguarded.snoc (.mk hi ⟨?_, ha⟩), hsize'.trans hsize, fun r hr => ?_⟩
      · exact fun r _ => room_of_subset hsub (hsize ▸ hcap) r
      · rcases hgrows r hr with hr | hr
        · exact hsub r hr
        · exact hlast r hr

theorem step_leaked :
    (s.step u r e).leaked = true ↔ s.leaked = true ∨
      u = false ∧ s.stage = .tentative ∧ ∃ c, e = ⟨.sp c, .panicked⟩ ∧ c.resourceID = r := by
  obtain ⟨o, x⟩ := e
  cases o with
  | sp c =>
    cases x with
    | ok => by_cases hr : c.resourceID = r <;> simp [Standing.step, hr]
    | err e => simp [Standing.step]
    | panicked =>
      by_cases hleak : c.resourceID = r ∧ s.stage = .tentative ∧ u = false
      · simp [Standing.step, hleak]
      · simp only [Standing.step]
        rw [if_neg hleak]
        refine ⟨Or.inl, ?_⟩
        rintro (hs | ⟨hu, hstage, c', hc, hr⟩)
        · exact hs
        · cases hc
          exact absurd ⟨hr, hstage, hu⟩ hleak
  | lockAddIfAbsent r' => cases x <;> by_cases hr : r' = r <;> simp [Standing.step, hr]
  | lockRemove r' => by_cases hr : r' = r <;> simp [Standing.step, hr]
  | addIfAbsent l r' | remove l r' =>
    cases l with
    | denyList => simp [Standing.step]
    | claimedResourcesSet => by_cases hr : r' = r <;> simp [Standing.step, hr]
  | _ => simp [Standing.step]

theorem leaked_after (t : List RoutingEvent) (hs : s.leaked = true) :
    ((ledger u r).after s t).leaked = true := by
  induction t generalizing s with
  | nil => exact hs
  | cons e t ih => exact ih (step_leaked.mpr (Or.inl hs))

theorem leaked_iff {t : List RoutingEvent} :
    ((ledger u r).after .start t).leaked = true ↔ ∃ t₁ c t₂, u = false ∧
      t = t₁ ++ ⟨.sp c, .panicked⟩ :: t₂ ∧ c.resourceID = r ∧
        ((ledger false r).after .start t₁).stage = .tentative := by
  constructor
  · intro h
    induction t using List.reverseRecOn with
    | nil => cases h
    | append_singleton t e ih =>
      rw [Monitor.after_append] at h
      rcases step_leaked.mp h with hold | ⟨hu, hstage, c, rfl, hr⟩
      · obtain ⟨t₁, c, t₂, hu, rfl, hr, hstage⟩ := ih hold
        exact ⟨t₁, c, t₂ ++ [e], hu, by simp, hr, hstage⟩
      · subst hu
        exact ⟨t, c, [], rfl, rfl, hr, hstage⟩
  · rintro ⟨t₁, c, t₂, rfl, rfl, hr, hstage⟩
    rw [Monitor.after_append, Monitor.after_cons]
    exact leaked_after t₂ (step_leaked.mpr (Or.inr ⟨rfl, hstage, c, rfl, hr⟩))

theorem leaked_standing :
    Leaked calls r log ↔ ∃ i, (standingOf calls r log i).leaked = true := by
  simp only [Leaked, standingOf, leaked_iff]

theorem run_claimed (hclaims : a.processor.claimedResourcesSet = true)
    (hw : w.inFlight = KeyLock.new) (hempty : ∀ r, r ∉ w.claimed)
    (hids : ∀ e ∈ log, ∀ r ∈ claimInserted e.2.1, r ∈ ids) (hcap : ids.card < w.claimed.maxSize)
    (hrun : Run (sharedSemantics env) ⟨calls.map a.routine, w⟩ log d) (hq : Quiescent d) :
    r ∈ d.world.claimed ↔ Succeeded r log ∨ Leaked calls r log := by
  have hexact := run_exact (r := r) hclaims hw (hempty r)
    (run_roomy hclaims hempty hids hcap hrun).1
  have hidle : ¬ ∃ i, (standingOf calls r log i).stage = .tentative := by
    rintro ⟨i, hi⟩
    cases hp : d.threads[i]? with
    | none =>
      have hnone := hrun.no_events (List.getElem?_eq_none_iff.mp hp)
      simp [standingOf, hnone, Standing.start] at hi
    | some p =>
      have hfollows := run_ledger (r := r) hclaims hrun hp
      have hended := hq p (List.mem_of_getElem? hp)
      cases p with
      | ret _ =>
        have hstage : (standingOf calls r log i).stage = .idle := hfollows
        simp [hstage] at hi
      | raise =>
        have hstage : (standingOf calls r log i).stage = .idle := hfollows
        simp [hstage] at hi
      | call _ _ => exact hended
  rw [hexact.recorded, leaked_standing]
  simp [hidle]

end Whole

/-- The ledger is exact for a resource unless its claim leaked and no forward of it succeeded;
in particular when no provider call panics in a goroutine of the retry processor that has newly
claimed its resource. -/
theorem ledger_exact_iff (a : Wiring) (hclaims : a.processor.claimedResourcesSet = true)
    (env : Environment) (calls : List Invocation) {w : SharedState}
    (hw : w.inFlight = KeyLock.new) (hempty : ∀ r, r ∉ w.claimed) (ids : Finset String)
    (hcap : ids.card < w.claimed.maxSize) {log : Log routing}
    {d : Config routing SharedState Unit}
    (hids : ∀ e ∈ log, ∀ r ∈ claimInserted e.2.1, r ∈ ids)
    (hrun : Run (sharedSemantics env) ⟨calls.map a.routine, w⟩ log d) (hq : Quiescent d) :
    (∀ r, (r ∈ d.world.claimed ↔ Succeeded r log) ↔ (Leaked calls r log → Succeeded r log)) ∧
      ((∀ r, ¬ Leaked calls r log) → ∀ r, r ∈ d.world.claimed ↔ Succeeded r log) := by
  have hclaimed : ∀ r, r ∈ d.world.claimed ↔ Succeeded r log ∨ Leaked calls r log := fun r =>
    run_claimed hclaims hw hempty hids hcap hrun hq
  have hiff : ∀ r, (r ∈ d.world.claimed ↔ Succeeded r log) ↔
      (Leaked calls r log → Succeeded r log) := by
    intro r
    rw [hclaimed r]
    exact or_iff_left_iff_imp
  exact ⟨hiff, fun hnone r => (hiff r).mpr fun hleaked => absurd hleaked (hnone r)⟩

def panicking : Answers :=
  { singleProvider RetryDedup.vmProvider .ready .panicked with
    fetchAll := fun _ _ => DenyListUse.firstFetched }

def liveCalls : List Invocation := [.mainMessage DenyListUse.firstCreate]
def transitionCalls : List Invocation := [.transition "p1" .ready]

def outcome (calls : List Invocation) : Log routing × Config routing SharedState Unit :=
  play (handler panicking) (fun _ => [])
    ⟨calls.map DenyListUse.wiring.routine, DenyListUse.blank⟩ (List.replicate 20 0)

theorem outcome_run (calls : List Invocation) :
    Run (sharedSemantics fun _ _ => True)
      ⟨calls.map DenyListUse.wiring.routine, DenyListUse.blank⟩ (outcome calls).1 (outcome calls).2 :=
  run_handler (fun _ => trivial) _ _

theorem blank_unclaimed (r : String) : r ∉ DenyListUse.blank.claimed := Finset.notMem_empty r

theorem ledger_exact_iff_live :
    RoutingTraces.callsIn (eventsOf 0 (outcome liveCalls).1) =
      [(.create "http://p" false ⟨"r", "vm", none, "e"⟩, .panicked)] ∧
    ("r" ∈ (outcome liveCalls).2.world.claimed ↔ Succeeded "r" (outcome liveCalls).1) := by
  have hexact := ledger_exact_iff DenyListUse.wiring rfl (fun _ _ => True) liveCalls rfl
    blank_unclaimed {"r"} (by decide) (by decide +kernel) (outcome_run liveCalls)
    (by decide +kernel)
  refine ⟨by decide +kernel, (hexact.1 "r").mpr ?_⟩
  rintro ⟨i, t, c, u, hundoes, hevents, -⟩
  match i with
  | 0 => cases hundoes
  | i + 1 =>
    have hlog : ∀ e ∈ (outcome liveCalls).1, e.1 = 0 := by decide +kernel
    have hmem : (⟨.sp c, .panicked⟩ : RoutingEvent) ∈ eventsOf (i + 1) (outcome liveCalls).1 := by
      simp [hevents]
    have hzero := hlog _ (mem_eventsOf.mp hmem)
    simp at hzero

/-- The retry processor leaves it: `r` is claimed although no call of it succeeded. -/
theorem panic_leaves_claim :
    Run (sharedSemantics fun _ _ => True)
      ⟨transitionCalls.map DenyListUse.wiring.routine, DenyListUse.blank⟩
      (outcome transitionCalls).1 (outcome transitionCalls).2 ∧
    Quiescent (outcome transitionCalls).2 ∧
    "r" ∈ (outcome transitionCalls).2.world.claimed ∧
    (∀ e ∈ (outcome transitionCalls).1, Succeeds "r" e.2 = false) :=
  ⟨outcome_run transitionCalls, by decide +kernel, by decide +kernel, by decide +kernel⟩

end ClaimedLedger
