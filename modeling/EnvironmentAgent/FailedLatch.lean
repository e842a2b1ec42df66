import EnvironmentAgent.StatusConvergence

/-! # The latch on FAILED

In storage `submitIfChanged` refuses PROVISIONING while the last submitted event is FAILED. -/
namespace FailedLatch

open CoalescedOutput DebouncerOrder DebouncerStop LabelledRuns StatusConvergence StatusMonitoring
open StatusDebouncer hiding Action Step Move

def latch (latched : Bool) (event : StatusEvent StorageStatus) : Bool :=
  match event.status with
  | .failed => true
  | .provisioning => latched
  | _ => false

/-- FAILED was accepted, and no event of another status but PROVISIONING since. -/
def latched (m : StatusMonitor StorageStatus) (id : String) : Bool :=
  (of id m.accepted).foldl latch false

def Job.takes {E : Type} : Job E → Option (String × E)
  | .begun id _ event | .flush id event => some (id, event)
  | _ => none

def Clear (id : String) (x : Option (String × StatusEvent StorageStatus)) : Prop :=
  ∀ y ∈ x, y.1 = id → y.2.status ≠ .provisioning

instance (id : String) (x : Option (String × StatusEvent StorageStatus)) :
    Decidable (Clear id x) := by
  unfold Clear
  infer_instance

def submitting (m : StatusMonitor StorageStatus) (c : Caller) :
    Option (String × StatusEvent StorageStatus) :=
  (m.callers c).map fun event => (event.instanceID, event)

/-- No PROVISIONING event of the instance will be submitted or is being published. -/
def Recallable (m : StatusMonitor StorageStatus) (id : String) : Prop :=
  Clear id (submitting m .informer) ∧ Clear id (submitting m .warnings) ∧
    ∀ n < m.debouncer.timers,
      Clear id (Job.takes (m.debouncer.jobs n)) ∧ Clear id (undelivered m (.job n))

instance (m : StatusMonitor StorageStatus) (id : String) : Decidable (Recallable m id) := by
  unfold Recallable
  infer_instance

/-- FAILED is accepted only when no PROVISIONING event is beyond recall, no callback takes one
before its `Submit`, no publish of DELETED ends while FAILED is last, and `Stop` is not called. -/
def Calm (m : StatusMonitor StorageStatus) : Action StorageStatus → Prop
  | .accept _ event => event.status = .failed → Recallable m event.instanceID
  | .debounce (.beginPublish n) =>
    match m.debouncer.jobs n with
    | .called id _ => latched m id = true →
        ∀ state ∈ m.debouncer.state id, state.pending.status ≠ .provisioning
    | _ => True
  | .debounce (.stop _) => False
  | .record _ event => event.status = .deleted → latched m event.instanceID = false
  | _ => True

instance (m : StatusMonitor StorageStatus) (a : Action StorageStatus) : Decidable (Calm m a) := by
  unfold Calm
  split
  · infer_instance
  · split <;> infer_instance
  · infer_instance
  · infer_instance
  · infer_instance

section Debouncer

variable {E : Type} {d d' : Debouncer E} {b : StatusDebouncer.Action E} {n m : ℕ} {id : String}

theorem takes_of_stage {job job' : Job E} (h : job.stage = job'.stage) :
    Job.takes job = Job.takes job' := by
  have hstage : ∀ job : Job E, Job.takes job = job.stage.bind fun x =>
      x.2.hand.head?.map (x.1, ·) := by
    intro job
    cases job <;> rfl
  rw [hstage, hstage, h]

theorem takes_of_move {job : Job E} {x : String × E}
    (hjobs : d'.jobs = Function.update d.jobs n job) (hjob : Job.takes job = none)
    (h : Job.takes (d'.jobs m) = some x) : Job.takes (d.jobs m) = some x := by
  rw [hjobs] at h
  by_cases hm : m = n
  · subst hm
    rw [Function.update_self, hjob] at h
    cases h
  · rwa [Function.update_of_ne hm] at h

theorem takes_step {event : E} (hinv : Invariant d) (hrunning : d.stopped = false)
    (hstep : StatusDebouncer.Step d b d') (h : Job.takes (d'.jobs m) = some (id, event)) :
    Job.takes (d.jobs m) = some (id, event) ∨ b = .beginPublish m ∧
      ∃ ver state, d.jobs m = .called id ver ∧ d.state id = some state ∧ state.pending = event := by
  cases hstep with
  | submit id' event' =>
    left
    rwa [takes_of_stage (submit_stages (hinv.unmade _ (Nat.le_refl _)) id' event' m)] at h
  | ignore => exact .inl h
  | fire => exact .inl (takes_of_move rfl rfl h)
  | @beginPublish n id' ver hjob =>
    unfold Debouncer.beginPublish at h
    split at h
    · rename_i state found
      split at h
      · rename_i hready
        by_cases hm : m = n
        · subst hm
          right
          simp only [Debouncer.move, Function.update_self, Job.takes, Option.some.injEq,
            Prod.mk.injEq] at h
          obtain ⟨rfl, rfl⟩ := h
          exact ⟨rfl, ver, state, hjob, found, rfl⟩
        · left
          simpa [Debouncer.move, Debouncer.put, Function.update_of_ne hm] using h
      · exact .inl (takes_of_move rfl rfl h)
    · exact .inl (takes_of_move rfl rfl h)
  | publish => exact .inl (takes_of_move rfl rfl h)
  | published => exact .inl (takes_of_move rfl rfl h)
  | endPublish =>
    unfold Debouncer.endPublish at h
    simp only [hrunning, Bool.false_eq_true, if_false] at h
    split at h
    · split at h
      · exact .inl (takes_of_move rfl rfl h)
      · exact .inl (takes_of_move rfl rfl h)
    · exact .inl (takes_of_move rfl rfl h)
  | flush => exact .inl (takes_of_move rfl rfl h)
  | flushed => exact .inl (takes_of_move rfl rfl h)
  | stop order => rw [takes_of_stage (stop_stages d order m)] at h; exact .inl h
  | stopFlush | stopFlushed | wait => exact .inl h

theorem state_put {id' : String} {new : Option (InstanceState E)} {state : InstanceState E}
    (h : (write d.instances id' new).lookup id = some state) :
    (id = id' ∧ new = some state) ∨ (id ≠ id' ∧ d.state id = some state) := by
  by_cases hid : id = id'
  · subst hid
    rw [lookup_write] at h
    exact .inl ⟨rfl, h⟩
  · rw [lookup_write_other hid] at h
    exact .inr ⟨hid, h⟩

theorem pending_step {state : InstanceState E} (hstep : StatusDebouncer.Step d b d')
    (h : d'.state id = some state) : b = .submit id state.pending ∨
      (∀ event, b ≠ .submit id event) ∧
        ∃ old, d.state id = some old ∧ old.pending = state.pending := by
  have same : d.state id = some state → (∀ event, b ≠ .submit id event) →
      b = .submit id state.pending ∨ (∀ event, b ≠ .submit id event) ∧
        ∃ old, d.state id = some old ∧ old.pending = state.pending :=
    fun hold hb => .inr ⟨hb, state, hold, rfl⟩
  cases hstep with
  | submit id' event =>
    have hput : ∃ new : InstanceState E, new.pending = event ∧
        (write d.instances id' (some new)).lookup id = some state := by
      unfold Debouncer.submit at h
      dsimp only at h
      split at h
      · exact ⟨_, rfl, h⟩
      · exact ⟨_, rfl, h⟩
    obtain ⟨new, hnew, hput⟩ := hput
    rcases state_put hput with ⟨rfl, heq⟩ | ⟨hne, hold⟩
    · left
      rw [← hnew, Option.some.inj heq]
    · exact same hold fun event' heq => hne (by injection heq with hid; exact hid.symm)
  | @beginPublish n id' ver =>
    unfold Debouncer.beginPublish at h
    split at h
    · rename_i old found
      split at h
      · rcases state_put h with ⟨rfl, heq⟩ | ⟨-, hold⟩
        · exact .inr ⟨nofun, old, found, by rw [← Option.some.inj heq]⟩
        · exact same hold nofun
      · exact same h nofun
    · exact same h nofun
  | @endPublish n id' ver =>
    unfold Debouncer.endPublish at h
    dsimp only at h
    split at h
    · rename_i old found
      split at h
      · split at h
        · rcases state_put h with ⟨-, heq⟩ | ⟨-, hold⟩
          · cases heq
          · exact same hold nofun
        · rcases state_put h with ⟨rfl, heq⟩ | ⟨-, hold⟩
          · exact .inr ⟨nofun, old, found, by rw [← Option.some.inj heq]⟩
          · exact same hold nofun
      · rcases state_put h with ⟨-, heq⟩ | ⟨-, hold⟩
        · cases heq
        · exact same hold nofun
    · exact same h nofun
  | stop order _ hnodup horder =>
    rw [state_stop hnodup horder] at h
    obtain ⟨old, hold, hkept⟩ := Option.bind_eq_some_iff.mp h
    refine .inr ⟨nofun, old, hold, ?_⟩
    unfold Debouncer.keepDraining at hkept
    split at hkept
    · rw [← Option.some.inj hkept]
    · cases hkept
  | ignore | fire | publish | published | flush | flushed | stopFlush | stopFlushed | wait =>
    exact same h nofun

theorem call_takes {p : Party} {event : E} (hidle : d.stopping = .idle)
    (hstep : StatusDebouncer.Step d (.call p id event) d') :
    ∃ n, Job.takes (d.jobs n) = some (id, event) := by
  cases hstep with
  | @publish n _ ver _ h => exact ⟨n, by rw [h]; rfl⟩
  | @flush n _ _ h => exact ⟨n, by rw [h]; rfl⟩
  | stopFlush h => cases hidle.symm.trans h

end Debouncer

section Latched

variable {m m' : StatusMonitor StorageStatus} {id : String} {p : Party} {c : Caller}
  {event : StatusEvent StorageStatus}

structure Latched (m : StatusMonitor StorageStatus) (id : String) : Prop where
  submitted : ∃ last, m.lastSubmitted.lookup id = some last ∧ last.status = .failed
  callers : ∀ c, Clear id (submitting m c)
  taken : ∀ n, Clear id (Job.takes (m.debouncer.jobs n))
  unsent : ∀ p, Clear id (undelivered m p)
  /-- A PROVISIONING event that waits will be replaced. -/
  pending : ∀ state, m.debouncer.state id = some state → state.pending.status = .provisioning →
    ∃ c failure, m.callers c = some failure ∧ failure.instanceID = id ∧ failure.status = .failed

structure Guarding (m : StatusMonitor StorageStatus) : Prop where
  inv : Invariant m.debouncer
  running : m.debouncer.stopped = false
  latched : ∀ id, latched m id = true → Latched m id

theorem latched_accept (m : StatusMonitor StorageStatus) (c : Caller)
    (event : StatusEvent StorageStatus) (id : String) :
    latched (m.accept c event) id =
      if event.instanceID = id then latch (latched m id) event else latched m id := by
  unfold latched StatusMonitor.accept
  by_cases hid : event.instanceID = id
  · subst hid
    simp
  · rw [if_neg hid]
    dsimp only
    rw [of_other hid]

theorem undelivered_of_move {phase : Phase} {q : Party} {x : String × StatusEvent StorageStatus}
    (hphase : phase.undelivered = true → (m.publishes p).undelivered = true)
    (h : undelivered (m.move p phase) q = some x) : undelivered m q = some x := by
  by_cases hq : q = p
  · subst hq
    simp only [undelivered, StatusMonitor.move, Function.update_self] at h ⊢
    split at h
    · rename_i hundelivered
      rwa [if_pos (hphase hundelivered)]
    · cases h
  · simpa [undelivered, StatusMonitor.move, hq] using h

theorem Latched.refuses (h : Latched m id) (published : Option (StatusEvent StorageStatus))
    (hstatus : event.status = .provisioning) :
    storageRefuses published (m.lastSubmitted.lookup id) event = true := by
  obtain ⟨last, hlookup, hlast⟩ := h.submitted
  simp [storageRefuses, hlookup, hlast, hstatus]

theorem Latched.accept_other (h : Latched m id) (hidle : m.callers c = none)
    (hid : event.instanceID ≠ id) : Latched (m.accept c event) id := by
  have hcaller : ∀ c', c' ≠ c → (m.accept c event).callers c' = m.callers c' :=
    fun c' hc => Function.update_of_ne hc _ _
  refine ⟨?_, fun c' => ?_, h.taken, h.unsent, fun state hstate hpending => ?_⟩
  · obtain ⟨last, hlookup, hlast⟩ := h.submitted
    exact ⟨last, (Finmap.lookup_insert_of_ne _ (Ne.symm hid)).trans hlookup, hlast⟩
  · by_cases hc : c' = c
    · subst hc
      intro x hx
      simp only [submitting, StatusMonitor.accept, Function.update_self, Option.map_some,
        Option.mem_def, Option.some.injEq] at hx
      rw [← hx]
      exact fun heq => absurd heq hid
    · rw [submitting, hcaller c' hc]
      exact h.callers c'
  · obtain ⟨c', failure, hc', hfailure⟩ := h.pending state hstate hpending
    have hne : c' ≠ c := fun heq => by simp [heq, hidle] at hc'
    exact ⟨c', failure, (hcaller c' hne).trans hc', hfailure⟩

theorem latched_failed (hinv : Invariant m.debouncer) (hrunning : m.debouncer.stopped = false)
    (hrecall : Recallable m event.instanceID) (hstatus : event.status = .failed) :
    Latched (m.accept c event) event.instanceID := by
  obtain ⟨hinformer, hwarnings, hjobs⟩ := hrecall
  have hunmade : ∀ n, ¬ n < m.debouncer.timers → m.debouncer.jobs n = .unmade :=
    fun n hn => hinv.unmade n (by omega)
  refine ⟨⟨event, Finmap.lookup_insert _, hstatus⟩, fun c' => ?_, fun n => ?_, fun p => ?_,
    fun state _ _ => ⟨c, event, Function.update_self _ _ _, rfl, hstatus⟩⟩
  · by_cases hc : c' = c
    · subst hc
      intro x hx
      simp only [submitting, StatusMonitor.accept, Function.update_self, Option.map_some,
        Option.mem_def, Option.some.injEq] at hx
      rw [← hx]
      simp [hstatus]
    · have hcaller : (m.accept c event).callers c' = m.callers c' := Function.update_of_ne hc _ _
      rw [submitting, hcaller]
      cases c' with
      | informer => exact hinformer
      | warnings => exact hwarnings
  · by_cases hn : n < m.debouncer.timers
    · exact (hjobs n hn).1
    · change Clear _ (Job.takes (m.debouncer.jobs n))
      simp [hunmade n hn, Job.takes, Clear]
  · change Clear _ (undelivered m p)
    cases p with
    | job n =>
      by_cases hn : n < m.debouncer.timers
      · exact (hjobs n hn).2
      · simp [Clear, undelivered, calls, hunmade n hn, Job.calls]
    | stop => simp [Clear, undelivered, calls, hinv.running.mp hrunning, Stopping.current]

theorem guarding_accept (h : Guarding m) (hidle : m.callers c = none)
    (haccepts : storageRefuses (m.lastPublished.lookup event.instanceID)
      (m.lastSubmitted.lookup event.instanceID) event = false)
    (hguard : event.status = .failed → Recallable m event.instanceID) :
    Guarding (m.accept c event) := by
  refine ⟨h.inv, h.running, fun id hlatched => ?_⟩
  rw [latched_accept] at hlatched
  by_cases hid : event.instanceID = id
  · subst hid
    rw [if_pos rfl] at hlatched
    cases hstatus : event.status with
    | failed => exact latched_failed h.inv h.running (hguard hstatus) hstatus
    | provisioning =>
      have hbefore : latched m event.instanceID = true := by simpa [latch, hstatus] using hlatched
      have hrefuses := (h.latched _ hbefore).refuses (m.lastPublished.lookup event.instanceID)
        hstatus
      rw [haccepts] at hrefuses
      cases hrefuses
    | deleted | deleting | running => simp [latch, hstatus] at hlatched
  · rw [if_neg hid] at hlatched
    exact (h.latched id hlatched).accept_other hidle hid

variable {d : Debouncer (StatusEvent StorageStatus)}

theorem guarding_submit (h : Guarding m) (hcaller : m.callers c = some event)
    (hstep : StatusDebouncer.Step m.debouncer (.submit event.instanceID event) d) :
    Guarding { m with debouncer := d, callers := Function.update m.callers c none } := by
  have hrunning : d.stopped = false := ((histories_step hstep).2.2 (by simp)).trans h.running
  refine ⟨invariant_step h.inv hstep, hrunning, fun id hlatched => ?_⟩
  have hbefore := h.latched id hlatched
  refine ⟨hbefore.submitted, fun c' => ?_, fun n x hx => ?_, fun q => ?_, ?_⟩
  · by_cases hc : c' = c
    · subst hc
      simp [Clear, submitting]
    · simpa [Clear, submitting, hc] using hbefore.callers c'
  · rcases takes_step h.inv h.running hstep hx with htaken | ⟨hb, -⟩
    · exact hbefore.taken n x htaken
    · cases hb
  · have hsame := congrFun (undelivered_quiet h.inv hstep fun _ => rfl) q
    change Clear id (undelivered { m with debouncer := d } q)
    rw [hsame]
    exact hbefore.unsent q
  · intro state hstate hpending
    rcases pending_step hstep hstate with hb | ⟨hb, old, hold, hsame⟩
    · injection hb with hid hevent
      have hclear := hbefore.callers c (event.instanceID, event) (by simp [submitting, hcaller]) hid
      rw [hevent] at hclear
      exact absurd hpending hclear
    · obtain ⟨c', failure, hc', hfailure⟩ :=
        hbefore.pending old hold (hsame ▸ hpending)
      have hne : c' ≠ c := by
        intro heq
        rw [heq, hcaller] at hc'
        obtain rfl := Option.some.inj hc'
        exact hb event (by rw [hfailure.1])
      exact ⟨c', failure, (Function.update_of_ne hne _ _).trans hc', hfailure⟩

theorem Latched.debounce {b : StatusDebouncer.Action (StatusEvent StorageStatus)} (h : Latched m id)
    (hinv : Invariant m.debouncer) (hrunning : m.debouncer.stopped = false)
    (hstep : StatusDebouncer.Step m.debouncer b d) (hsubmit : acceptedBy b = [])
    (hdebouncer : m'.debouncer = d) (hsubmitted : m'.lastSubmitted = m.lastSubmitted)
    (hcallers : m'.callers = m.callers) (hundelivered : ∀ q, Clear id (undelivered m' q))
    (htakes : ∀ n ver state, b = .beginPublish n → m.debouncer.jobs n = .called id ver →
      m.debouncer.state id = some state → state.pending.status ≠ .provisioning) :
    Latched m' id := by
  refine ⟨hsubmitted ▸ h.submitted, fun c => ?_, fun n x hx hid => ?_, hundelivered, ?_⟩
  · rw [submitting, hcallers]
    exact h.callers c
  · rw [hdebouncer] at hx
    rcases takes_step hinv hrunning hstep hx with htaken | ⟨hb, ver, state, hjob, hstate, heq⟩
    · exact h.taken n x htaken hid
    · rw [hid] at hjob hstate
      exact heq ▸ htakes n ver state hb hjob hstate
  · intro state hstate hpending
    rw [hdebouncer] at hstate
    rcases pending_step hstep hstate with hb | ⟨-, old, hold, hsame⟩
    · rw [hb] at hsubmit
      cases hsubmit
    · obtain ⟨c, failure, hc, hfailure⟩ := h.pending old hold (hsame ▸ hpending)
      exact ⟨c, failure, hcallers ▸ hc, hfailure⟩

theorem guarding_record (h : Guarding m)
    (hguard : event.status = .deleted → latched m event.instanceID = false) :
    Guarding (m.record .deleted event) := by
  obtain ⟨hdebouncer, hcallers, haccepted, hpublishes, -⟩ := record_frame m .deleted event
  refine ⟨hdebouncer ▸ h.inv, hdebouncer ▸ h.running, fun id hlatched => ?_⟩
  rw [latched, haccepted] at hlatched
  have hbefore := h.latched id hlatched
  refine ⟨?_, fun c => ?_, hdebouncer ▸ hbefore.taken, fun q => ?_, ?_⟩
  · obtain ⟨last, hlookup, hlast⟩ := hbefore.submitted
    refine ⟨last, ?_, hlast⟩
    unfold StatusMonitor.record
    split
    · rename_i hdeleted
      have hid : id ≠ event.instanceID := by
        intro heq
        subst heq
        have hfree := hguard hdeleted
        rw [latched, hlatched] at hfree
        cases hfree
      exact (Finmap.lookup_erase_ne hid).trans hlookup
    · exact hlookup
  · rw [submitting, hcallers]
    exact hbefore.callers c
  · have hunsent := hbefore.unsent q
    rwa [undelivered, ← hdebouncer, ← hpublishes] at hunsent
  · rw [hdebouncer, hcallers]
    exact hbefore.pending

theorem guarding_step {attempts : ℤ} {a : Action StorageStatus} (h : Guarding m)
    (hstep : Guarded (Step (storage attempts)) Calm m a m') : Guarding m' := by
  obtain ⟨hguard, hstep⟩ := hstep
  -- a phase that changes
  have moved : ∀ {p phase}, (phase.undelivered = true → (m.publishes p).undelivered = true) →
      ∀ id, Latched m id → Latched (m.move p phase) id := by
    intro p phase hphase id hlatched
    exact ⟨hlatched.submitted, hlatched.callers, hlatched.taken,
      fun q x hx => hlatched.unsent q x (undelivered_of_move hphase hx), hlatched.pending⟩
  cases hstep with
  | skip | refuse => exact h
  | accept hidle _ haccepts => exact guarding_accept h hidle haccepts hguard
  | submit hcaller hstep => exact guarding_submit h hcaller hstep
  | ignored _ hstep =>
    cases hstep with
    | ignore _ _ halted => cases h.running.symm.trans halted
  | @debounce b d hinternal hstep =>
    have hstop : ∀ order, b ≠ .stop order := by
      intro order heq
      subst heq
      exact hguard
    have hquiet : (∀ c, callsAfter c b = c) ∧ acceptedBy b = [] := by
      cases b with
      | fire | beginPublish | endPublish | stop | wait => exact ⟨fun _ => rfl, rfl⟩
      | submit | ignore | call | done => cases hinternal
    refine ⟨invariant_step h.inv hstep, ((histories_step hstep).2.2 hstop).trans h.running,
      fun id hlatched => ?_⟩
    have hbefore := h.latched id hlatched
    refine hbefore.debounce h.inv h.running hstep hquiet.2 rfl rfl rfl (fun q => ?_) ?_
    · rw [undelivered_quiet h.inv hstep hquiet.1]
      exact hbefore.unsent q
    · intro n ver state hb hjob hstate
      subst hb
      simp only [Calm, hjob] at hguard
      exact hguard hlatched state hstate
  | @call p id event d hstep =>
    refine ⟨invariant_step h.inv hstep, ((histories_step hstep).2.2 (by simp)).trans h.running,
      fun id' hlatched => ?_⟩
    have hbefore := h.latched id' hlatched
    refine hbefore.debounce h.inv h.running hstep rfl rfl rfl rfl (fun q => ?_) (by simp)
    rw [undelivered_call h.inv hstep]
    by_cases hq : q = p
    · subst hq
      rw [Function.update_self]
      obtain ⟨n, htaken⟩ := call_takes (h.inv.running.mp h.running) hstep
      rw [← htaken]
      exact hbefore.taken n
    · rw [Function.update_of_ne hq]
      exact hbefore.unsent q
  | @deliver p =>
    refine ⟨h.inv, h.running, fun id hlatched => ?_⟩
    have hmoved : Latched (m.move p .delivered) id :=
      moved (by simp [Phase.undelivered]) id (h.latched id hlatched)
    exact ⟨hmoved.submitted, hmoved.callers, hmoved.taken, hmoved.unsent, hmoved.pending⟩
  | fail hphase =>
    exact ⟨h.inv, h.running, fun id hlatched =>
      moved (by simp [hphase, Phase.undelivered]) id (h.latched id hlatched)⟩
  | backoff hphase =>
    exact ⟨h.inv, h.running, fun id hlatched =>
      moved (by simp [hphase, Phase.undelivered]) id (h.latched id hlatched)⟩
  | abandon | exhaust =>
    exact ⟨h.inv, h.running, fun id hlatched =>
      moved (by simp [Phase.undelivered]) id (h.latched id hlatched)⟩
  | @record p _ event =>
    have hmoved : Guarding (m.move p .returned) := ⟨h.inv, h.running, fun id hlatched =>
      moved (by simp [Phase.undelivered]) id (h.latched id hlatched)⟩
    exact guarding_record hmoved hguard
  | @done p id event d hphase hstep =>
    refine ⟨invariant_step h.inv hstep, ((histories_step hstep).2.2 (by simp)).trans h.running,
      fun id' hlatched => ?_⟩
    have hbefore := h.latched id' hlatched
    refine hbefore.debounce h.inv h.running hstep rfl rfl rfl rfl (fun q => ?_) (by simp)
    rw [undelivered_done h.inv hphase hstep]
    exact hbefore.unsent q

theorem guarding_newStatusMonitor : Guarding newStatusMonitor where
  inv := invariant_newDebouncer
  running := rfl
  latched := nofun

end Latched

def failedBinding : WarningEvent :=
  ⟨true, "PersistentVolumeClaim", "FailedBinding", "no storage class", some pendingClaim⟩

def failedEvent : StatusEvent StorageStatus := ⟨"a", .failed, "FailedBinding: no storage class"⟩

def provisioningEvent : StatusEvent StorageStatus := ⟨"a", .provisioning, "PVC is pending binding"⟩

def latchedPlay : List (Action StorageStatus) × StatusMonitor StorageStatus :=
  playMoves (guardMoves (StatusMonitor.next (storage 0)) Calm) newStatusMonitor
    ([.observe (.pvc pendingClaim), .submit .informer, .observe (.warning failedBinding),
      .submit .warnings] ++ List.replicate 3 (.party (.job 1)))

def overtakenPlay : List (Action StorageStatus) × StatusMonitor StorageStatus :=
  playMoves (StatusMonitor.next (storage 0)) newStatusMonitor
    ([.observe (.pvc pendingClaim), .observe (.warning failedBinding), .submit .warnings,
      .submit .informer] ++ List.replicate 3 (.party (.job 1)))

end FailedLatch
