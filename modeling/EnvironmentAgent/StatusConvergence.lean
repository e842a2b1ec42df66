import EnvironmentAgent.DebouncerStop
import EnvironmentAgent.StatusMonitoring

/-! # Whether the published status converges

`submitIfChanged` compares an observation with the last event that was published, also while another
one is on its way. -/
namespace StatusConvergence

open CoalescedOutput DebouncerOrder DebouncerStop LabelledRuns StatusMonitoring
open StatusDebouncer hiding Action Step Move

section Calls

variable {E : Type} {d d' : Debouncer E} {n : ℕ} {id : String} {event : E} {p q : Party}

def callsAfter (c : Party → Option (String × E)) : StatusDebouncer.Action E →
    Party → Option (String × E)
  | .call p id event => Function.update c p (some (id, event))
  | .done p _ _ => Function.update c p none
  | _ => c

def Stage.called : Stage E → Option E
  | .publishing _ event => some event
  | _ => none

theorem calls_of_stage {job job' : Job E} (h : job.stage = job'.stage) :
    Job.calls job = Job.calls job' := by
  have hstage : ∀ job : Job E, Job.calls job = job.stage.bind fun x =>
      (Stage.called x.2).map (x.1, ·) := by
    intro job
    cases job <;> rfl
  rw [hstage, hstage, h]

theorem calls_of_move (n : ℕ) (job : Job E) (hjobs : d'.jobs = Function.update d.jobs n job)
    (hstopping : d'.stopping = d.stopping) :
    calls d' = Function.update (calls d) (.job n) (Job.calls job) := by
  funext p
  cases p with
  | stop => simp [calls, hstopping]
  | job m =>
    by_cases hm : m = n
    · subst hm
      simp [calls, hjobs]
    · simp [calls, hjobs, hm]

theorem calls_of_move_same {job : Job E} (hjobs : d'.jobs = Function.update d.jobs n job)
    (hstopping : d'.stopping = d.stopping) (hsame : Job.calls job = Job.calls (d.jobs n)) :
    calls d' = calls d := by
  rw [calls_of_move n job hjobs hstopping, hsame]
  exact Function.update_eq_self _ _

theorem calls_of_stages (hjobs : ∀ m, (d'.jobs m).stage = (d.jobs m).stage)
    (hstopping : d'.stopping.current = d.stopping.current) : calls d' = calls d := by
  funext p
  cases p with
  | stop => exact hstopping
  | job m => exact calls_of_stage (hjobs m)

theorem calls_beginPublish {ver : ℕ} (h : d.jobs n = .called id ver) :
    calls (d.beginPublish n id ver) = calls d := by
  unfold Debouncer.beginPublish
  split
  · split
    · exact calls_of_move_same rfl rfl (by rw [h]; rfl)
    · exact calls_of_move_same rfl rfl (by rw [h]; rfl)
  · exact calls_of_move_same rfl rfl (by rw [h]; rfl)

theorem calls_endPublish {ver : ℕ} (h : d.jobs n = .published id ver) :
    calls (d.endPublish n id ver) = calls d := by
  unfold Debouncer.endPublish
  dsimp only
  split
  · split
    · split
      · exact calls_of_move_same rfl rfl (by rw [h]; rfl)
      · exact calls_of_move_same rfl rfl (by rw [h]; rfl)
    · exact calls_of_move_same rfl rfl (by rw [h]; rfl)
  · exact calls_of_move_same rfl rfl (by rw [h]; rfl)

theorem calls_stop_update (hjobs : d'.jobs = d.jobs) :
    calls d' = Function.update (calls d) .stop d'.stopping.current := by
  funext p
  cases p with
  | stop => simp [calls]
  | job m => simp [calls, hjobs]

theorem calls_step {a : StatusDebouncer.Action E} (hinv : Invariant d)
    (hstep : StatusDebouncer.Step d a d') : calls d' = callsAfter (calls d) a := by
  cases hstep with
  | submit id event =>
    refine calls_of_stages (submit_stages (hinv.unmade _ (Nat.le_refl _)) id event) ?_
    unfold Debouncer.submit
    dsimp only
    split <;> rfl
  | ignore => rfl
  | fire h => exact calls_of_move_same rfl rfl (by rw [h]; rfl)
  | beginPublish h => exact calls_beginPublish h
  | @publish n id ver event h => exact calls_of_move n (.publishing id ver event) rfl rfl
  | @published n id ver event h => exact calls_of_move n (.published id ver) rfl rfl
  | endPublish h => exact calls_endPublish h
  | @flush n id event h => exact calls_of_move n (.flushing id event) rfl rfl
  | @flushed n id event h => exact calls_of_move n .ended rfl rfl
  | stop order h => exact calls_of_stages (stop_stages d order) (by rw [h]; rfl)
  | stopFlush h => exact calls_stop_update rfl
  | stopFlushed h => exact calls_stop_update rfl
  | wait h =>
    refine calls_of_stages (fun _ => rfl) ?_
    rw [h]
    rfl

theorem calls_before_call (hstep : StatusDebouncer.Step d (.call p id event) d') :
    calls d p = none := by
  cases hstep with
  | publish h => simp [calls, h, Job.calls]
  | flush h => simp [calls, h, Job.calls]
  | stopFlush h => simp [calls, h, Stopping.current]

theorem publishing_of_calls (h : calls d p = some (id, event)) : Publishing d id p := by
  cases p with
  | stop => exact ⟨none, event, h⟩
  | job n =>
    simp only [calls] at h
    cases hjob : d.jobs n with
    | publishing id' ver event' =>
      rw [hjob] at h
      cases h
      exact ⟨some ver, event, by rw [Holds, hjob]; rfl⟩
    | flushing id' event' =>
      rw [hjob] at h
      cases h
      exact ⟨none, event, by rw [Holds, hjob]; rfl⟩
    | unmade | armed | called | begun | published | flush | ended =>
      rw [hjob] at h
      cases h

theorem calls_unique {event' : E} (hinv : Invariant d) (hp : calls d p = some (id, event))
    (hq : calls d q = some (id, event')) : p = q := by
  obtain ⟨ver, e, hp⟩ := publishing_of_calls hp
  obtain ⟨ver', e', hq⟩ := publishing_of_calls hq
  exact (hinv.situation id).unique hp hq

theorem Quiescent.calls (h : Quiescent d) (p : Party) : calls d p = none := by
  by_contra hcall
  obtain ⟨⟨id, event⟩, hcall⟩ := Option.ne_none_iff_exists'.mp hcall
  obtain ⟨ver, e, hp⟩ := publishing_of_calls hcall
  exact h.free id p _ hp

end Calls

section Histories

variable {E : Type}

def publishedBy : StatusDebouncer.Action E → List (String × E)
  | .call _ id event => [(id, event)]
  | _ => []

def acceptedBy : StatusDebouncer.Action E → List (String × E)
  | .submit id event => [(id, event)]
  | _ => []

theorem submit_histories (d : Debouncer E) (id : String) (event : E) :
    (d.submit id event).published = d.published ∧
      (d.submit id event).accepted = d.accepted ++ [(id, event)] ∧
      (d.submit id event).stopped = d.stopped := by
  unfold Debouncer.submit
  dsimp only
  split <;> exact ⟨rfl, rfl, rfl⟩

theorem beginPublish_histories (d : Debouncer E) (n : ℕ) (id : String) (ver : ℕ) :
    (d.beginPublish n id ver).published = d.published ∧
      (d.beginPublish n id ver).accepted = d.accepted ∧
      (d.beginPublish n id ver).stopped = d.stopped := by
  unfold Debouncer.beginPublish
  split
  · split <;> exact ⟨rfl, rfl, rfl⟩
  · exact ⟨rfl, rfl, rfl⟩

theorem endPublish_histories (d : Debouncer E) (n : ℕ) (id : String) (ver : ℕ) :
    (d.endPublish n id ver).published = d.published ∧
      (d.endPublish n id ver).accepted = d.accepted ∧
      (d.endPublish n id ver).stopped = d.stopped := by
  unfold Debouncer.endPublish
  dsimp only
  split
  · split
    · split <;> exact ⟨rfl, rfl, rfl⟩
    · exact ⟨rfl, rfl, rfl⟩
  · exact ⟨rfl, rfl, rfl⟩

theorem histories_step {d d' : Debouncer E} {a : StatusDebouncer.Action E}
    (hstep : StatusDebouncer.Step d a d') : d'.published = d.published ++ publishedBy a ∧
      d'.accepted = d.accepted ++ acceptedBy a ∧
      ((∀ order, a ≠ .stop order) → d'.stopped = d.stopped) := by
  cases hstep with
  | submit id event =>
    obtain ⟨hpublished, haccepted, hstopped⟩ := submit_histories d id event
    exact ⟨by simp [hpublished, publishedBy], haccepted, fun _ => hstopped⟩
  | @beginPublish n id ver h =>
    obtain ⟨hpublished, haccepted, hstopped⟩ := beginPublish_histories d n id ver
    exact ⟨by simp [hpublished, publishedBy], by simp [haccepted, acceptedBy], fun _ => hstopped⟩
  | @endPublish n id ver h =>
    obtain ⟨hpublished, haccepted, hstopped⟩ := endPublish_histories d n id ver
    exact ⟨by simp [hpublished, publishedBy], by simp [haccepted, acceptedBy], fun _ => hstopped⟩
  | publish | flush | stopFlush => exact ⟨rfl, (List.append_nil _).symm, fun _ => rfl⟩
  | stop order => exact ⟨(List.append_nil _).symm, (List.append_nil _).symm,
      fun hne => absurd rfl (hne order)⟩
  | ignore | fire | published | flushed | stopFlushed | wait =>
    exact ⟨(List.append_nil _).symm, (List.append_nil _).symm, fun _ => rfl⟩

end Histories

section Deliveries

variable {σ : Type} {m : StatusMonitor σ} {p : Party} {id : String} {event : StatusEvent σ}

def undelivered (m : StatusMonitor σ) (p : Party) : Option (String × StatusEvent σ) :=
  if (m.publishes p).undelivered then calls m.debouncer p else none

/-- All that was published for an instance has been delivered, but for one event at most. -/
def Delivering (m : StatusMonitor σ) : Prop :=
  ∀ id, Outstanding (undelivered m) m.debouncer.published m.delivered id

theorem undelivered_calls {x : String × StatusEvent σ} (h : undelivered m p = some x) :
    calls m.debouncer p = some x := by
  unfold undelivered at h
  split at h
  · exact h
  · cases h

theorem undelivered_move {phase : Phase} (h : phase.undelivered = (m.publishes p).undelivered) :
    undelivered (m.move p phase) = undelivered m := by
  funext q
  by_cases hq : q = p
  · subst hq
    simp [undelivered, StatusMonitor.move, h]
  · simp [undelivered, StatusMonitor.move, hq]

variable {d : Debouncer (StatusEvent σ)}

theorem undelivered_quiet {b : StatusDebouncer.Action (StatusEvent σ)}
    {d : Debouncer (StatusEvent σ)} (hinv : Invariant m.debouncer)
    (hstep : StatusDebouncer.Step m.debouncer b d) (hcalls : ∀ c, callsAfter c b = c) :
    undelivered { m with debouncer := d } = undelivered m := by
  funext q
  simp only [undelivered]
  rw [calls_step hinv hstep, hcalls]

theorem undelivered_call (hinv : Invariant m.debouncer)
    (hstep : StatusDebouncer.Step m.debouncer (.call p id event) d) :
    undelivered { m.move p (.trying 0) with debouncer := d } =
      Function.update (undelivered m) p (some (id, event)) := by
  have hcalls : calls d = Function.update (calls m.debouncer) p (some (id, event)) :=
    calls_step hinv hstep
  funext q
  by_cases hq : q = p
  · subst hq
    simp [undelivered, StatusMonitor.move, hcalls, Phase.undelivered]
  · simp [undelivered, StatusMonitor.move, hcalls, hq]

theorem undelivered_done (hinv : Invariant m.debouncer) (hphase : m.publishes p = .returned)
    (hstep : StatusDebouncer.Step m.debouncer (.done p id event) d) :
    undelivered { m with debouncer := d } = undelivered m := by
  have hcalls : calls d = Function.update (calls m.debouncer) p none := calls_step hinv hstep
  funext q
  by_cases hq : q = p
  · subst hq
    simp [undelivered, hphase, Phase.undelivered]
  · simp [undelivered, hcalls, hq]

theorem undelivered_deliver (m : StatusMonitor σ) (p : Party) :
    undelivered (m.move p .delivered) = Function.update (undelivered m) p none := by
  funext q
  by_cases hq : q = p
  · subst hq
    simp [undelivered, StatusMonitor.move, Phase.undelivered]
  · simp [undelivered, StatusMonitor.move, hq]

theorem delivering_call (h : Delivering m) (hinv : Invariant m.debouncer)
    (hstep : StatusDebouncer.Step m.debouncer (.call p id event) d) :
    Delivering { m.move p (.trying 0) with debouncer := d } := by
  have hinv' := invariant_step hinv hstep
  have hcalls : calls d = Function.update (calls m.debouncer) p (some (id, event)) :=
    calls_step hinv hstep
  have hbefore := calls_before_call hstep
  have hnone : undelivered m p = none := by simp [undelivered, hbefore]
  -- the publishes of an instance do not overlap
  have hfree : ∀ q e, undelivered m q ≠ some (id, e) := by
    intro q e hq
    have hne : q ≠ p := fun heq => by simp [heq, hnone] at hq
    have hp' : calls d p = some (id, event) := by rw [hcalls, Function.update_self]
    have hq' : calls d q = some (id, e) := by
      rw [hcalls, Function.update_of_ne hne, undelivered_calls hq]
    exact hne (calls_unique hinv' hq' hp')
  intro other
  rw [undelivered_call hinv hstep]
  change Outstanding _ d.published m.delivered other
  rw [(histories_step hstep).1]
  exact (h other).take hnone hfree

theorem delivering_deliver {k : ℕ} (h : Delivering m) (hinv : Invariant m.debouncer)
    (hcall : calls m.debouncer p = some (id, event)) (hphase : m.publishes p = .trying k) :
    Delivering { m.move p .delivered with delivered := m.delivered ++ [(id, event)] } := by
  have hbefore : undelivered m p = some (id, event) := by
    simp [undelivered, hphase, Phase.undelivered, hcall]
  intro other
  have hgive := (h other).give hbefore
    fun q e hq => calls_unique hinv (undelivered_calls hq) hcall
  rwa [← undelivered_deliver] at hgive

end Deliveries

/-- Only the PVC or `Service` informer has callbacks, no publish is given up, and `Stop` is not
called. -/
def Undisturbed {σ : Type} (_ : StatusMonitor σ) : Action σ → Prop
  | .accept c _ | .refuse c _ | .skip c => c = .informer
  | .abandon _ | .exhaust _ => False
  | .debounce (.stop _) => False
  | _ => True

instance {σ : Type} (m : StatusMonitor σ) (a : Action σ) : Decidable (Undisturbed m a) := by
  unfold Undisturbed
  split <;> infer_instance

def observed {σ : Type} : Action σ → Option (StatusEvent σ)
  | .accept _ event | .refuse _ event => some event
  | _ => none

section Invariant

variable {σ : Type} {m m' : StatusMonitor σ}

structure Converging (m : StatusMonitor σ) : Prop where
  inv : Invariant m.debouncer
  running : m.debouncer.stopped = false
  delivering : Delivering m
  /-- What was accepted has been submitted, but for the event of the current callback. -/
  submitting : m.accepted = m.debouncer.accepted ++
    ((m.callers .informer).map fun event => (event.instanceID, event)).toList
  warnings : m.callers .warnings = none

theorem converging_newStatusMonitor : Converging (newStatusMonitor : StatusMonitor σ) where
  inv := invariant_newDebouncer
  running := rfl
  delivering _ := .inl ⟨fun _ _ => by simp [undelivered, newStatusMonitor, Phase.undelivered], rfl⟩
  submitting := rfl
  warnings := rfl

theorem Converging.frame (h : Converging m) (hdebouncer : m'.debouncer = m.debouncer)
    (hcallers : m'.callers = m.callers) (haccepted : m'.accepted = m.accepted)
    (hdelivering : Delivering m') : Converging m' where
  inv := hdebouncer ▸ h.inv
  running := hdebouncer ▸ h.running
  delivering := hdelivering
  submitting := by rw [haccepted, hcallers, hdebouncer, h.submitting]
  warnings := hcallers ▸ h.warnings

variable {d : Debouncer (StatusEvent σ)}

theorem Converging.debounce {b : StatusDebouncer.Action (StatusEvent σ)}
    {d : Debouncer (StatusEvent σ)} (h : Converging m)
    (hstep : StatusDebouncer.Step m.debouncer b d) (haccepts : acceptedBy b = [])
    (hstop : ∀ order, b ≠ .stop order) (hdebouncer : m'.debouncer = d)
    (hcallers : m'.callers = m.callers) (haccepted : m'.accepted = m.accepted)
    (hdelivering : Delivering m') : Converging m' := by
  obtain ⟨-, haccepted', hstopped⟩ := histories_step hstep
  refine ⟨hdebouncer ▸ invariant_step h.inv hstep, ?_, hdelivering, ?_, hcallers ▸ h.warnings⟩
  · rw [hdebouncer, hstopped hstop, h.running]
  · rw [haccepted, hcallers, hdebouncer, haccepted', haccepts, List.append_nil, h.submitting]

variable {event : StatusEvent σ}

theorem converging_submit {c : Caller} (h : Converging m) (hcaller : m.callers c = some event)
    (hstep : StatusDebouncer.Step m.debouncer (.submit event.instanceID event) d) :
    Converging { m with debouncer := d, callers := Function.update m.callers c none } := by
  have hc : c = .informer := by
    cases c with
    | informer => rfl
    | warnings => cases h.warnings.symm.trans hcaller
  subst hc
  obtain ⟨hpublished, haccepted, hstopped⟩ := histories_step hstep
  refine ⟨invariant_step h.inv hstep, (hstopped nofun).trans h.running, fun id => ?_, ?_, ?_⟩
  · have hsame := undelivered_quiet h.inv hstep fun _ => rfl
    change Outstanding (undelivered { m with debouncer := d }) d.published m.delivered id
    rw [hsame, hpublished]
    simpa [publishedBy] using h.delivering id
  · have hbefore := h.submitting
    rw [hcaller] at hbefore
    simp [haccepted, acceptedBy, hbefore]
  · have hne : Caller.warnings ≠ .informer := by decide
    simpa [StatusMonitor.accept, Function.update_of_ne hne] using h.warnings

theorem converging_accept (h : Converging m) (hidle : m.callers .informer = none) :
    Converging (m.accept .informer event) := by
  refine ⟨h.inv, h.running, h.delivering, ?_, ?_⟩
  · have hbefore := h.submitting
    rw [hidle] at hbefore
    simpa [StatusMonitor.accept] using hbefore
  · have hne : Caller.warnings ≠ .informer := by decide
    simpa [StatusMonitor.accept, Function.update_of_ne hne] using h.warnings

theorem Converging.last_delivered (h : Converging m) (hquiet : Quiescent m.debouncer)
    (hidle : m.callers .informer = none) (id : String) :
    (of id m.delivered).getLast? = (of id m.accepted).getLast? := by
  have hnone : ∀ p, undelivered m p = none := by
    intro p
    simp [undelivered, Quiescent.calls hquiet p]
  have haccepted : m.accepted = m.debouncer.accepted := by simpa [hidle] using h.submitting
  rw [← (h.delivering id).settled hnone, haccepted]
  exact (hquiet.settled (h.inv.situation id)).last

end Invariant

section Runs

variable {O σ : Type} [DecidableEq σ] {mon : Monitoring O σ} {m m' s s' : StatusMonitor σ}
  {a : Action σ} {l l' : List (Action σ)} {event : StatusEvent σ} {id : String}

theorem record_frame (m : StatusMonitor σ) (deleted : σ) (event : StatusEvent σ) :
    (m.record deleted event).debouncer = m.debouncer ∧
      (m.record deleted event).callers = m.callers ∧
      (m.record deleted event).accepted = m.accepted ∧
      (m.record deleted event).publishes = m.publishes ∧
      (m.record deleted event).delivered = m.delivered := by
  unfold StatusMonitor.record
  split <;> exact ⟨rfl, rfl, rfl, rfl, rfl⟩

theorem converging_step (h : Converging m) (hstep : Guarded (Step mon) Undisturbed m a m') :
    Converging m' := by
  obtain ⟨hguard, hstep⟩ := hstep
  -- a phase that changes without a delivery
  have moved : ∀ {p phase}, phase.undelivered = (m.publishes p).undelivered →
      Delivering (m.move p phase) := by
    intro p phase hphase other
    rw [undelivered_move hphase]
    exact h.delivering other
  cases hstep with
  | skip => exact h
  | accept hidle =>
    have hc := hguard
    simp only [Undisturbed] at hc
    rw [hc] at hidle ⊢
    exact converging_accept h hidle
  | refuse => exact h
  | submit hcaller hstep => exact converging_submit h hcaller hstep
  | ignored hcaller hstep =>
    cases hstep with
    | ignore _ _ halted => cases h.running.symm.trans halted
  | @debounce b d hinternal hstep =>
    have hstop : ∀ order, b ≠ .stop order := by
      intro order heq
      subst heq
      exact hguard
    have hquiet : (∀ c, callsAfter c b = c) ∧ publishedBy b = [] ∧ acceptedBy b = [] := by
      cases b with
      | fire | beginPublish | endPublish | stop | wait => exact ⟨fun _ => rfl, rfl, rfl⟩
      | submit | ignore | call | done => cases hinternal
    refine h.debounce hstep hquiet.2.2 hstop rfl rfl rfl fun other => ?_
    rw [undelivered_quiet h.inv hstep hquiet.1]
    change Outstanding _ d.published m.delivered other
    rw [(histories_step hstep).1, hquiet.2.1, List.append_nil]
    exact h.delivering other
  | call hstep =>
    exact h.debounce hstep rfl nofun rfl rfl rfl (delivering_call h.delivering h.inv hstep)
  | deliver hcall hphase =>
    exact h.frame rfl rfl rfl (delivering_deliver h.delivering h.inv hcall hphase)
  | fail hphase =>
    refine h.frame rfl rfl rfl (moved ?_)
    rw [hphase]
    split <;> rfl
  | backoff hphase => exact h.frame rfl rfl rfl (moved (by rw [hphase]; rfl))
  | abandon | exhaust => exact hguard.elim
  | @record p id event hcall hphase =>
    obtain ⟨hdebouncer, hcallers, haccepted, hpublishes, hdelivered⟩ :=
      record_frame (m.move p .returned) mon.deleted event
    refine h.frame hdebouncer hcallers haccepted fun other => ?_
    have hsame : undelivered ((m.move p .returned).record mon.deleted event) =
        undelivered (m.move p .returned) := by
      funext q
      simp only [undelivered, hdebouncer, hpublishes]
    rw [hsame, hdebouncer, hdelivered]
    exact moved (by rw [hphase]; rfl) other
  | done hphase hstep =>
    refine h.debounce hstep rfl nofun rfl rfl rfl fun other => ?_
    rw [undelivered_done h.inv hphase hstep]
    change Outstanding _ _ m.delivered other
    rw [(histories_step hstep).1]
    simpa [publishedBy] using h.delivering other

theorem run_converging (hm : Converging m) (h : Run (Guarded (Step mon) Undisturbed) m l m') :
    Converging m' :=
  h.preserves hm fun _ _ _ hconverging hstep => converging_step hconverging hstep

theorem accepted_step (hstep : Step mon m a m') (ha : (observed a).map (·.instanceID) ≠ some id) :
    of id m'.accepted = of id m.accepted := by
  cases hstep with
  | accept => exact of_other (by simpa [observed] using ha) _
  | @record p _ event =>
    obtain ⟨-, -, haccepted, -⟩ := record_frame (m.move p .returned) mon.deleted event
    rw [haccepted]
    rfl
  | skip | refuse | submit | ignored | debounce | call | deliver | fail | backoff | abandon
  | exhaust | done => rfl

theorem accepted_run (h : Run (Step mon) m l m')
    (hl : ∀ a ∈ l, (observed a).map (·.instanceID) ≠ some id) :
    of id m'.accepted = of id m.accepted := by
  induction h with
  | nil => rfl
  | snoc _ hstep ih =>
    obtain ⟨hbefore, hlast⟩ := List.forall_mem_append.mp hl
    rw [accepted_step hstep (hlast _ (List.mem_singleton_self _)), ih hbefore]

/-- For every sequence of observations that one informer delivers: at rest the last published status
of an instance is that of its last observation exactly when that was accepted, or has the content of
what was accepted last. -/
theorem status_converges (hbefore : Run (Guarded (Step mon) Undisturbed) newStatusMonitor l s)
    (hobserve : Guarded (Step mon) Undisturbed s a s') (ha : observed a = some event)
    (hafter : Run (Guarded (Step mon) Undisturbed) s' l' m)
    (hlast : ∀ b ∈ l', (observed b).map (·.instanceID) ≠ some event.instanceID)
    (hquiet : Quiescent m.debouncer) (hidle : m.callers .informer = none) :
    (∃ x ∈ (of event.instanceID m.delivered).getLast?, SameContent x event) ↔
      mon.refuses (s.lastPublished.lookup event.instanceID)
          (s.lastSubmitted.lookup event.instanceID) event = false ∨
        ∃ x ∈ (of event.instanceID s.accepted).getLast?, SameContent x event := by
  have hs := run_converging converging_newStatusMonitor hbefore
  have hm := run_converging (converging_step hs hobserve) hafter
  rw [hm.last_delivered hquiet hidle, accepted_run hafter.of_guarded hlast]
  obtain ⟨-, hstep⟩ := hobserve
  cases hstep with
  | accept _ _ haccepts =>
    obtain rfl := Option.some.inj ha
    refine iff_of_true ?_ (.inl haccepts)
    exact ⟨_, by simp [StatusMonitor.accept], rfl, rfl⟩
  | refuse _ _ hrefuses =>
    obtain rfl := Option.some.inj ha
    simp [hrefuses]
  | skip | submit | ignored | debounce | call | deliver | fail | backoff | abandon | exhaust
  | record | done => cases ha

end Runs

def pendingClaim : PersistentVolumeClaim := ⟨"a", false, .pending, [], ""⟩

def boundClaim : PersistentVolumeClaim := ⟨"a", false, .bound, [], "pv-1"⟩

def boundEvent : StatusEvent StorageStatus := ⟨"a", .running, "PVC is bound to volume pv-1"⟩

abbrev play {O σ : Type} [DecidableEq σ] (mon : Monitoring O σ) (m : StatusMonitor σ)
    (moves : List (Move O)) : List (Action σ) × StatusMonitor σ :=
  playMoves (guardMoves (StatusMonitor.next mon) Undisturbed) m moves

def boundBefore : List (Action StorageStatus) × StatusMonitor StorageStatus :=
  play (storage 0) newStatusMonitor [.observe (.pvc pendingClaim), .submit .informer]

def boundAfter : List (Action StorageStatus) × StatusMonitor StorageStatus :=
  play (storage 0) (boundBefore.2.accept .informer boundEvent)
    ([.submit .informer] ++ List.replicate 7 (.party (.job 1)))

theorem run_play {O σ : Type} [DecidableEq σ] (mon : Monitoring O σ) (m : StatusMonitor σ)
    (moves : List (Move O)) :
    Run (Guarded (Step mon) Undisturbed) m (play mon m moves).1 (play mon m moves).2 :=
  run_playMoves _ (guarded_guardMoves _ step_monitor) m moves

theorem accept_bound : Guarded (Step (storage 0)) Undisturbed boundBefore.2
    (.accept .informer boundEvent) (boundBefore.2.accept .informer boundEvent) :=
  ⟨rfl, step_monitor boundBefore.2 (.observe (.pvc boundClaim)) _ _ rfl⟩

theorem quiescent_of_jobs {E : Type} {d : Debouncer E} (hinv : Invariant d)
    (hjobs : ∀ n < d.timers, d.jobs n = .ended) (hstopping : d.stopping = .idle) : Quiescent d := by
  refine ⟨fun n => ?_, .inl hstopping⟩
  by_cases hn : n < d.timers
  · exact .inr (hjobs n hn)
  · exact .inl (hinv.unmade n (by omega))

theorem boundAfter_quiescent : Quiescent boundAfter.2.debouncer := by
  have hbefore : Converging boundBefore.2 :=
    run_converging converging_newStatusMonitor (run_play (storage 0) _ _)
  have hafter : Converging boundAfter.2 :=
    run_converging (converging_step hbefore accept_bound) (run_play (storage 0) _ _)
  exact quiescent_of_jobs hafter.inv (by decide +kernel) (by decide +kernel)

theorem status_converges_bound : of "a" boundAfter.2.delivered = [boundEvent] ∧
    ∃ x ∈ (of "a" boundAfter.2.delivered).getLast?, SameContent x boundEvent := by
  refine ⟨by decide +kernel, ?_⟩
  exact (status_converges (run_play (storage 0) _ _) accept_bound rfl (run_play (storage 0) _ _)
    (by decide +kernel) boundAfter_quiescent (by decide +kernel)).mpr (.inl (by decide +kernel))

def waitingService : Service := ⟨"a", true, 0⟩

def waitingEvent : StatusEvent NetworkStatus :=
  ⟨"a", .pending, "waiting for external IP assignment"⟩

def readyEvent : StatusEvent NetworkStatus := ⟨"a", .ready, "service is ready"⟩

def revertedPlay : List (Action NetworkStatus) × StatusMonitor NetworkStatus :=
  play (network 0) newStatusMonitor
    ([.observe (.service waitingService), .submit .informer] ++
      List.replicate 7 (.party (.job 0)) ++
      [.observe (.service ⟨"a", true, 1⟩), .submit .informer, .observe (.service waitingService)] ++
      List.replicate 7 (.party (.job 1)))

/-- The service waits for an address, and the last status that is published says it is ready. -/
theorem reverted_status_lost :
    Run (Guarded (Step (network 0)) Undisturbed) newStatusMonitor revertedPlay.1 revertedPlay.2 ∧
      Quiescent revertedPlay.2.debouncer ∧ revertedPlay.2.callers .informer = none ∧
      (revertedPlay.1.filterMap observed).getLast? = some waitingEvent ∧
      of "a" revertedPlay.2.delivered = [waitingEvent, readyEvent] ∧
      ¬ SameContent readyEvent waitingEvent := by
  have hrun : Run (Guarded (Step (network 0)) Undisturbed) newStatusMonitor revertedPlay.1
      revertedPlay.2 := run_play (network 0) _ _
  have hinv := (run_converging converging_newStatusMonitor hrun).inv
  exact ⟨hrun, quiescent_of_jobs hinv (by decide +kernel) (by decide +kernel), by decide +kernel,
    by decide +kernel, by decide +kernel, by decide⟩

end StatusConvergence
