import EnvironmentAgent.HealthMonitor

/-! # What a late check can still do

The result of a check may come back after its registration has been replaced or removed, and after
`Stop` has set `stopped`. -/
namespace MonitorIsolation

open LabelledRuns HealthMonitor
open ProviderState (Time HealthState)

variable {l l' : List Event} {m u v : Monitor} {e : Event} {id : String} {sm : ℕ}

def Holds (m : Monitor) (id : String) (sm : ℕ) : Prop :=
  (m.providers id).map ProviderEntry.sm = some sm

def Ends (id : String) (e : Event) : Prop :=
  e = .deregistered id ∨ ∃ sm, e = .registered id sm

theorem holds_congr (h : v.providers id = m.providers id) : Holds v id sm ↔ Holds m id sm := by
  rw [Holds, Holds, h]

theorem holds_step (hp : Provenance l m) (hreg : .registered id sm ∈ l) (hstep : Step m e v)
    (h : Holds v id sm) : Holds m id sm ∧ ¬Ends id e := by
  cases hstep with
  | @register other entry initialState initialCheck _ hs =>
    by_cases heq : id = other
    · subst heq
      rw [Holds, Monitor.registerProvider_self hs] at h
      have hlt := (hp.registered hreg).1
      have hsm : m.allocated = sm := Option.some.inj h
      omega
    · refine ⟨(holds_congr (Monitor.registerProvider_other heq)).mp h, ?_⟩
      simp [Ends, Ne.symm heq]
  | refuse _ _ _ hs =>
    rw [Monitor.registerProvider_of_stopped hs] at h
    exact ⟨h, by simp [Ends]⟩
  | deregister other =>
    obtain ⟨entry, hentry, hsm⟩ := Option.map_eq_some_iff.mp h
    obtain ⟨hne, hentry⟩ := Monitor.deregisterProvider_some hentry
    refine ⟨Option.map_eq_some_iff.mpr ⟨entry, hentry, hsm⟩, ?_⟩
    simp [Ends, Ne.symm hne]
  | startRound | endRound | record | discard | call | stop | track | forget =>
    exact ⟨h, by simp [Ends]⟩

variable {w : Worker}

theorem recorded_holds {t : Transition} (hstep : Step m (.recorded w id sm t) v) :
    Holds m id sm := by
  cases hstep with
  | record _ _ _ _ h => exact h.isCurrent

theorem not_recorded (hp : Provenance l m) (hreg : .registered id sm ∈ l)
    (hgone : ¬Holds m id sm) (hrun : Run Step m l' v) :
    ∀ w other t, .recorded w other sm t ∉ l' := by
  have hinv : Provenance (l ++ l') v ∧ ¬Holds v id sm ∧
      ∀ w other t, .recorded w other sm t ∉ l' := by
    apply hrun.invariant (I := fun l' v => Provenance (l ++ l') v ∧ ¬Holds v id sm ∧
      ∀ w other t, .recorded w other sm t ∉ l')
    · exact ⟨(List.append_nil l).symm ▸ hp, hgone, by simp⟩
    · rintro l' u e v ⟨hp, hgone, hnone⟩ hstep
      have hreg' : .registered id sm ∈ l ++ l' := List.mem_append_left _ hreg
      refine ⟨List.append_assoc l l' [e] ▸ provenance_step hp hstep,
        fun h => hgone (holds_step hp hreg' hstep h).1, ?_⟩
      intro w other t hmem
      rcases List.mem_append.mp hmem with hmem | hmem
      · exact hnone w other t hmem
      · obtain rfl := List.mem_singleton.mp hmem
        have hholds := recorded_holds hstep
        obtain ⟨entry, hentry, rfl⟩ := Option.map_eq_some_iff.mp hholds
        obtain rfl := hp.unique (hp.entry hentry) hreg'
        exact hgone hholds
  exact hinv.2.2

def Agrees (m : Monitor) (id : String) (sm : ℕ) : Prop :=
  (m.tracker id).map HealthState.status = some (m.machines sm).state

theorem agrees_congr (htracker : v.tracker id = m.tracker id)
    (hmachine : v.machines sm = m.machines sm) : Agrees v id sm ↔ Agrees m id sm := by
  rw [Agrees, Agrees, htracker, hmachine]

theorem agrees_record {c : Check} {result : HealthCheckResult} {now : Time} (hid : c.id ≠ "") :
    Agrees (m.record w c result now) c.id c.sm := by
  rw [Agrees, Monitor.record]
  dsimp only
  rw [tracker_setState hid, Function.update_self]
  rfl

theorem agrees_recorded {t : Transition} (hp : Provenance l m)
    (hstep : Step m (.recorded w id sm t) v) : Agrees v id sm := by
  cases hstep with
  | record _ _ hc _ _ => exact agrees_record (hp.registered (hp.check hc).1).2

theorem agrees_step (hp : Provenance l m) (hreg : .registered id sm ∈ l) (hstep : Step m e v)
    (hwritten : e ≠ .written id) (hholds : Holds v id sm) (h : Agrees m id sm) :
    Agrees v id sm := by
  cases hstep with
  | register =>
    exact (agrees_congr (congrFun Monitor.registerProvider_tracker id)
      (Monitor.registerProvider_machines (hp.registered hreg).1)).mpr h
  | refuse _ _ _ hs => rwa [Monitor.registerProvider_of_stopped hs]
  | @record w c result now hc _ hrec =>
    obtain ⟨hown, -⟩ := hp.check hc
    by_cases heq : id = c.id
    · -- the recorded check is one of the same registration, for an id has one entry
      subst heq
      have hsm : c.sm = sm := Option.some.inj (hrec.isCurrent.symm.trans hholds)
      subst hsm
      exact agrees_record (hp.registered hown).2
    · have hsm : sm ≠ c.sm := by
        intro hsm
        exact heq (hp.unique hreg (hsm ▸ hown))
      exact (agrees_congr (tracker_setState_ne heq) (Function.update_of_ne hsm ..)).mpr h
  | track other =>
    have hne : id ≠ other := fun heq => hwritten (by rw [heq])
    rw [Agrees] at h ⊢
    dsimp only
    rwa [tracker_setState_ne hne]
  | forget other =>
    have hne : id ≠ other := fun heq => hwritten (by rw [heq])
    rw [Agrees] at h ⊢
    dsimp only
    rwa [Function.update_of_ne hne]
  | deregister | startRound | endRound | discard | call | stop => exact h

theorem agrees_run (hp : Provenance l m) (hreg : .registered id sm ∈ l)
    (h : Agrees m id sm) (hrun : Run Step m l' v) (hwritten : .written id ∉ l')
    (hholds : Holds v id sm) : Agrees v id sm := by
  have hinv : Provenance (l ++ l') v ∧
      (.written id ∉ l' → Holds v id sm → Agrees v id sm) := by
    apply hrun.invariant (I := fun l' v => Provenance (l ++ l') v ∧
      (.written id ∉ l' → Holds v id sm → Agrees v id sm))
    · exact ⟨(List.append_nil l).symm ▸ hp, fun _ _ => h⟩
    · rintro l' u e v ⟨hp, ih⟩ hstep
      have hreg' : .registered id sm ∈ l ++ l' := List.mem_append_left _ hreg
      refine ⟨List.append_assoc l l' [e] ▸ provenance_step hp hstep, ?_⟩
      intro hwritten hholds
      rw [List.mem_append, List.mem_singleton, not_or] at hwritten
      have hbefore := (holds_step hp hreg' hstep hholds).1
      exact agrees_step hp hreg' hstep (Ne.symm hwritten.2) hholds (ih hwritten.1 hbefore)
  exact hinv.2 hwritten hholds

def vmChecking : Monitor := (vmRegistered .ready false).checkAll

theorem vm_starts : Step (vmRegistered .ready false) .roundStarted vmChecking := .startRound rfl

def Reports : Event → Prop
  | .recorded .. | .called .. => True
  | _ => False

/-- No event is one of a check's effects, no state machine changes, and the tracker only where the
provider service writes it. -/
structure Isolated (m : Monitor) (l : List Event) (v : Monitor) : Prop where
  silent : ∀ e ∈ l, ¬Reports e
  machines : v.machines = m.machines
  tracker : ∀ id, .written id ∉ l → v.tracker id = m.tracker id

/-- A callback is outstanding, or a round's check of a current registration is under way. -/
def Exposed (m : Monitor) : Prop :=
  ∃ w c, m.checks w = some c ∧
    ((∃ t, c.phase = .calling t) ∨ (∃ id, w = .periodic id) ∧ m.IsCurrent c)

/-- Once the monitor is stopped a round starts only if it has nothing to check. -/
def Resting (m : Monitor) (e : Event) : Prop :=
  e = .roundStarted → m.stopped = true → ∀ id, m.providers id = none

theorem Isolated.refl : Isolated m [] m := ⟨by simp, rfl, fun _ _ => rfl⟩

theorem Isolated.snoc (h : Isolated m l u) (h' : Isolated u [e] v) : Isolated m (l ++ [e]) v := by
  constructor
  · intro a ha
    rcases List.mem_append.mp ha with ha | ha
    · exact h.silent a ha
    · exact h'.silent a ha
  · exact h'.machines.trans h.machines
  · intro id hid
    rw [List.mem_append, not_or] at hid
    exact (h'.tracker id hid.2).trans (h.tracker id hid.1)

theorem isolated_of_eq (he : ¬Reports e) (hm : v.machines = m.machines)
    (ht : v.tracker = m.tracker) : Isolated m [e] v := by
  refine ⟨?_, hm, fun id _ => congrFun ht id⟩
  intro a ha
  obtain rfl := List.mem_singleton.mp ha
  exact he

theorem Exposed.of_le (h : Exposed v) (hchecks : ∀ w c, v.checks w = some c → m.checks w = some c)
    (hcurrent : ∀ c, v.IsCurrent c → m.IsCurrent c) : Exposed m := by
  obtain ⟨w, c, hc, hexp⟩ := h
  exact ⟨w, c, hchecks w c hc, hexp.imp_right (And.imp_right (hcurrent c))⟩

theorem resting_step (hs : m.stopped = true) (hexp : ¬Exposed m) (hrest : Resting m e)
    (hstep : Step m e v) : v.stopped = true ∧ ¬Exposed v ∧ Isolated m [e] v := by
  cases hstep with
  | register _ _ _ _ hrun => exact absurd (hs.symm.trans hrun) (by simp)
  | refuse =>
    rw [Monitor.registerProvider_of_stopped hs]
    exact ⟨hs, hexp, isolated_of_eq not_false rfl rfl⟩
  | deregister id =>
    refine ⟨hs, fun h => hexp (h.of_le (fun _ _ hc => hc) ?_), isolated_of_eq not_false rfl rfl⟩
    intro c hc
    obtain ⟨entry, hentry, hsm⟩ := Option.map_eq_some_iff.mp hc
    exact Option.map_eq_some_iff.mpr ⟨entry, (Monitor.deregisterProvider_some hentry).2, hsm⟩
  | startRound =>
    have hnone := hrest rfl hs
    refine ⟨hs, ?_, isolated_of_eq not_false rfl rfl⟩
    rintro ⟨w, c, hc, hc'⟩
    cases w with
    | initial sm => exact hexp ⟨.initial sm, c, hc, hc'⟩
    | periodic id =>
      rw [Monitor.checkAll] at hc
      dsimp only at hc
      rw [hnone id] at hc
      cases hc
  | endRound => exact ⟨hs, hexp, isolated_of_eq not_false rfl rfl⟩
  | @record w c _ _ hc _ hrec =>
    cases w with
    | initial sm => exact absurd (hs.symm.trans hrec.1) (by simp)
    | periodic id => exact absurd ⟨_, c, hc, Or.inr ⟨⟨id, rfl⟩, hrec⟩⟩ hexp
  | discard =>
    refine ⟨hs, fun h => hexp (h.of_le ?_ fun _ hc => hc), isolated_of_eq not_false rfl rfl⟩
    intro w' d hd
    exact (Monitor.leave_checks_some hd).2
  | @call w c t hc hp => exact absurd ⟨w, c, hc, Or.inl ⟨t, hp⟩⟩ hexp
  | stop => exact ⟨rfl, hexp, isolated_of_eq not_false rfl rfl⟩
  | track other =>
    refine ⟨hs, hexp, by simp [Reports], rfl, ?_⟩
    intro id hid
    exact tracker_setState_ne fun heq => hid (by simp [heq])
  | forget other =>
    refine ⟨hs, hexp, by simp [Reports], rfl, ?_⟩
    intro id hid
    exact Function.update_of_ne (fun heq => hid (by simp [heq])) ..

theorem exposed_reports (h : Exposed m) : ∃ e v, Reports e ∧ Step m e v := by
  obtain ⟨w, c, hc, hexp⟩ := h
  cases hp : c.phase with
  | calling t => exact ⟨.called c.id c.sm t, _, trivial, .call hc hp⟩
  | checking =>
    rcases hexp with ⟨t, ht⟩ | ⟨⟨id, rfl⟩, hcur⟩
    · rw [hp] at ht
      cases ht
    · exact ⟨.recorded _ c.id c.sm _, _, trivial, .record .failed 0 hc hp hcur⟩

theorem stopped_isolated_iff (hs : m.stopped = true) :
    (∀ l v, Run (Guarded Step Resting) m l v → Isolated m l v) ↔ ¬Exposed m := by
  constructor
  · intro h hexp
    obtain ⟨e, v, hreports, hstep⟩ := exposed_reports hexp
    have hrest : Resting m e := by
      rintro rfl
      exact hreports.elim
    exact (h [e] v (.single ⟨hrest, hstep⟩)).silent e (List.mem_singleton_self e) hreports
  · intro hexp l v hrun
    have hinv : v.stopped = true ∧ ¬Exposed v ∧ Isolated m l v := by
      apply hrun.invariant (I := fun l v => v.stopped = true ∧ ¬Exposed v ∧ Isolated m l v)
      · exact ⟨hs, hexp, .refl⟩
      · rintro l u e v ⟨hs, hexp, hiso⟩ ⟨hrest, hstep⟩
        obtain ⟨hs', hexp', hiso'⟩ := resting_step hs hexp hrest hstep
        exact ⟨hs', hexp', hiso.snoc hiso'⟩
    exact hinv.2.2

theorem exposed_checkAll (hexp : ¬Exposed m) :
    Exposed m.checkAll ↔ ∃ id, m.providers id ≠ none := by
  constructor
  · rintro ⟨w, c, hc, hc'⟩
    cases w with
    | initial sm => exact absurd ⟨.initial sm, c, hc, hc'⟩ hexp
    | periodic id =>
      obtain ⟨entry, hentry, -⟩ := Option.map_eq_some_iff.mp hc
      exact ⟨id, by simp [hentry]⟩
  · rintro ⟨id, hid⟩
    obtain ⟨entry, hentry⟩ := Option.ne_none_iff_exists'.mp hid
    refine ⟨.periodic id, ⟨id, entry.sm, entry.checker, .checking⟩, ?_, Or.inr ⟨⟨id, rfl⟩, ?_⟩⟩
    · exact Option.map_eq_some_iff.mpr ⟨entry, hentry, rfl⟩
    · exact Option.map_eq_some_iff.mpr ⟨entry, hentry, rfl⟩

/-- `Stop` shuts the checks off just if, when it sets `stopped`, no callback is outstanding and no
round is checking a current registration, and no round with something to check starts later. -/
theorem stop_isolates_iff (m : Monitor) :
    ((∀ l v, Run (Guarded Step Resting) m (.stop :: l) v → Isolated m l v) ↔ ¬Exposed m) ∧
    (m.stopped = true → ¬Exposed m →
      ((∀ l v, Run (Guarded Step Resting) m.checkAll l v → Isolated m.checkAll l v) ↔
        ∀ id, m.providers id = none)) := by
  have hresting : Resting m .stop := by
    intro h
    cases h
  have hstopped := stopped_isolated_iff (m := { m with stopped := true }) rfl
  constructor
  · refine Iff.trans ?_ hstopped
    constructor
    · intro h l v hrun
      obtain ⟨hsilent, hmachines, htracker⟩ := h l v (.cons ⟨hresting, .stop⟩ hrun)
      exact ⟨hsilent, hmachines, htracker⟩
    · intro h l v hrun
      obtain ⟨u, hstep, hrun⟩ := run_cons.mp hrun
      cases hstep.2 with
      | stop =>
        obtain ⟨hsilent, hmachines, htracker⟩ := h l v hrun
        exact ⟨hsilent, hmachines, htracker⟩
  · intro hs hexp
    rw [stopped_isolated_iff (m := m.checkAll) hs, exposed_checkAll hexp]
    simp

theorem vm_not_exposed : ¬Exposed (vmRegistered .ready false) := by
  rintro ⟨w, c, hc, -⟩
  by_cases heq : w = .initial 0
  · subst heq
    cases hc
  · cases (vm_checks heq).symm.trans hc

theorem stop_isolates_vm :
    (∀ l v, Run (Guarded Step Resting) (vmRegistered .ready false) (.stop :: l) v →
      Isolated (vmRegistered .ready false) l v) ∧
    ¬∀ l v, Run (Guarded Step Resting) { vmChecking with stopped := true } l v →
      Isolated { vmChecking with stopped := true } l v := by
  constructor
  · exact (stop_isolates_iff (vmRegistered .ready false)).1.mpr vm_not_exposed
  · intro h
    have hnone := ((stop_isolates_iff { vmRegistered .ready false with stopped := true }).2 rfl
      vm_not_exposed).mp h "vm-1"
    cases hnone

/-- A round's check is aborted by `Stop` and counts as a failure of the provider. -/
theorem aborted_check_recorded :
    ¬∀ l l' v, Run Step vmStart (l ++ .stop :: l') v → ∀ e ∈ l', ¬Reports e := by
  intro h
  have hstop : Step vmChecking .stop
      { vmChecking with stopped := true } := .stop
  have hrecorded : Step { vmChecking with stopped := true }
      (.recorded (.periodic "vm-1") "vm-1" 0 (.ready, .unavailable)) _ :=
    .record .failed 7 (c := vmCheck) rfl rfl (by decide)
  exact h [.registered "vm-1" 0, .roundStarted] _ _
    (.cons (vm_registers .ready false) (.cons vm_starts (.cons hstop (.single hrecorded)))) _
    (List.mem_singleton_self _) trivial

end MonitorIsolation
