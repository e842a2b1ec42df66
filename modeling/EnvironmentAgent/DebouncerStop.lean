import EnvironmentAgent.DebouncerOrder

/-! # What `Stop` waits for

`endPublish` leaves the wait group in the same section in which it takes the event it still has to
flush, so `Stop` does not wait for that flush. -/
namespace DebouncerStop

open CoalescedOutput DebouncerOrder LabelledRuns StatusDebouncer

variable {E : Type}

structure Complete (d : Debouncer E) : Prop where
  returned : ∀ id p, ¬ Publishing d id p
  flushed : ∀ id, (of id d.published).getLast? = (of id d.accepted).getLast?

def UpToDate (d : Debouncer E) : Prop :=
  ∀ n id stage ver state, (d.jobs n).stage = some (id, stage) → stage.ver = some ver →
    d.state id = some state → state.ver ≤ ver

def Job.counted (job : Job E) : Option ℕ := job.stage.bind fun x => x.2.ver

def Counted (d : Debouncer E) : Prop := ∀ n, n ∈ d.wg ↔ (Job.counted (d.jobs n)).isSome

variable {a : Action E}

section WaitGroup

variable {d d' : Debouncer E} {n : ℕ} {job : Job E}

theorem Counted.of_move (h : Counted d) (hjobs : d'.jobs = Function.update d.jobs n job)
    (hwg : d'.wg = d.wg) (hsame : (Job.counted job).isSome = (Job.counted (d.jobs n)).isSome) :
    Counted d' := by
  intro m
  rw [hwg, hjobs, h m]
  by_cases hm : m = n
  · subst hm
    rw [Function.update_self, hsame]
  · rw [Function.update_of_ne hm]

theorem Counted.enter (h : Counted d) (hjobs : d'.jobs = Function.update d.jobs n job)
    (hwg : d'.wg = insert n d.wg) (hin : (Job.counted job).isSome) : Counted d' := by
  intro m
  rw [hwg, hjobs, Finset.mem_insert, h m]
  by_cases hm : m = n
  · subst hm
    simp [hin]
  · simp [hm]

theorem Counted.leave (h : Counted d) (hjobs : d'.jobs = Function.update d.jobs n job)
    (hwg : d'.wg = d.wg.erase n) (hout : Job.counted job = none) : Counted d' := by
  intro m
  rw [hwg, hjobs, Finset.mem_erase, h m]
  by_cases hm : m = n
  · subst hm
    simp [hout]
  · simp [hm]

theorem Counted.of_stages (h : Counted d) (hjobs : ∀ m, (d'.jobs m).stage = (d.jobs m).stage)
    (hwg : d'.wg = d.wg) : Counted d' := by
  intro m
  rw [hwg, h m, Job.counted, Job.counted, hjobs m]

theorem endPublish_moves (d : Debouncer E) (n : ℕ) (id : String) (ver : ℕ) :
    ∃ job, (d.endPublish n id ver).jobs = Function.update d.jobs n job ∧
      Job.counted job = none ∧ (d.endPublish n id ver).wg = d.wg.erase n ∧
      (d.endPublish n id ver).stopped = d.stopped ∧
      (d.endPublish n id ver).stopping = d.stopping := by
  unfold Debouncer.endPublish
  dsimp only
  split
  · split
    · split
      · exact ⟨.flush id _, rfl, rfl, rfl, rfl, rfl⟩
      · exact ⟨.called id _, rfl, rfl, rfl, rfl, rfl⟩
    · exact ⟨.ended, rfl, rfl, rfl, rfl, rfl⟩
  · exact ⟨.ended, rfl, rfl, rfl, rfl, rfl⟩

theorem submit_stages (hunmade : d.jobs d.timers = .unmade) (id : String) (event : E) (m : ℕ) :
    ((d.submit id event).jobs m).stage = (d.jobs m).stage := by
  unfold Debouncer.submit
  dsimp only
  split
  · rfl
  · by_cases hm : m = d.timers
    · subst hm
      simp [hunmade, Job.stage]
    · dsimp only
      rw [Function.update_of_ne hm, cancel_stage]

theorem stop_stages (d : Debouncer E) (order : List String) (m : ℕ) :
    ((d.stop order).jobs m).stage = (d.jobs m).stage := by
  rcases cancelAll_cases (fun id => (d.state id).bind (·.timer)) order d.jobs m with
    h | ⟨h, id, ver, harmed⟩
  · exact congrArg Job.stage h
  · exact (congrArg Job.stage h).trans (by rw [harmed]; rfl)

theorem counted_beginPublish {id : String} {ver : ℕ} (h : Counted d)
    (hjob : d.jobs n = .called id ver) : Counted (d.beginPublish n id ver) := by
  have hended : Counted (d.move n .ended) := h.of_move rfl rfl (by rw [hjob]; rfl)
  unfold Debouncer.beginPublish
  split
  · split
    · exact h.enter rfl rfl rfl
    · exact hended
  · exact hended

theorem counted_step (hinv : Invariant d) (h : Counted d) (hstep : Step d a d') :
    Counted d' := by
  cases hstep with
  | submit id event =>
    refine h.of_stages (submit_stages (hinv.unmade _ (Nat.le_refl _)) id event) ?_
    unfold Debouncer.submit
    dsimp only
    split <;> rfl
  | ignore => exact h
  | fire hjob => exact h.of_move rfl rfl (by rw [hjob]; rfl)
  | beginPublish hjob => exact counted_beginPublish h hjob
  | publish hjob => exact h.of_move rfl rfl (by rw [hjob]; rfl)
  | published hjob => exact h.of_move rfl rfl (by rw [hjob]; rfl)
  | @endPublish n id ver hjob =>
    obtain ⟨job, hjobs, hout, hwg, -⟩ := endPublish_moves d n id ver
    exact h.leave hjobs hwg hout
  | flush hjob => exact h.of_move rfl rfl (by rw [hjob]; rfl)
  | flushed hjob => exact h.of_move rfl rfl (by rw [hjob]; rfl)
  | stop order => exact h.of_stages (stop_stages d order) rfl
  | stopFlush | stopFlushed | wait => exact h

structure Sound (d : Debouncer E) : Prop where
  inv : Invariant d
  counted : Counted d

theorem Sound.step (h : Sound d) (hstep : Step d a d') : Sound d' :=
  ⟨invariant_step h.inv hstep, counted_step h.inv h.counted hstep⟩

theorem Sound.run {l : List (Action E)} (h : Sound d) (hrun : Run Step d l d') : Sound d' :=
  hrun.preserves h fun _ _ _ hsound hstep => hsound.step hstep

theorem sound_newDebouncer : Sound (newDebouncer : Debouncer E) :=
  ⟨invariant_newDebouncer, fun n => by simp [newDebouncer, Job.counted, Job.stage]⟩

end WaitGroup

structure Prompt (d : Debouncer E) : Prop where
  halted : d.stopped = true
  upToDate : UpToDate d
  /-- No job has an event to flush. -/
  versioned : ∀ n id stage, (d.jobs n).stage = some (id, stage) → stage.ver ≠ none

variable {state : InstanceState E}

section Prompt

variable {d d' : Debouncer E} {n : ℕ} {id : String} {ver : ℕ}

theorem Prompt.of_move (h : Prompt d) {job : Job E} (hjobs : d'.jobs = Function.update d.jobs n job)
    (hstopped : d'.stopped = d.stopped)
    (hstate : ∀ id state, d'.state id = some state → d.state id = some state)
    (hjob : ∀ id stage, job.stage = some (id, stage) →
      ∃ old, (d.jobs n).stage = some (id, old) ∧ old.ver = stage.ver) : Prompt d' := by
  have hback : ∀ m id stage, (d'.jobs m).stage = some (id, stage) →
      ∃ old, (d.jobs m).stage = some (id, old) ∧ old.ver = stage.ver := by
    intro m id stage hm
    rw [hjobs] at hm
    by_cases heq : m = n
    · subst heq
      rw [Function.update_self] at hm
      exact hjob id stage hm
    · rw [Function.update_of_ne heq] at hm
      exact ⟨stage, hm, rfl⟩
  refine ⟨hstopped.trans h.halted, ?_, ?_⟩
  · intro m id stage ver state hm hver hfound
    obtain ⟨old, hold, hsame⟩ := hback m id stage hm
    exact h.upToDate m id old ver state hold (hsame.trans hver) (hstate id state hfound)
  · intro m id stage hm
    obtain ⟨old, hold, hsame⟩ := hback m id stage hm
    exact hsame ▸ h.versioned m id old hold

theorem state_put_none {other : String} (h : (d.put id none).state other = some state) :
    d.state other = some state := by
  change (write d.instances id none).lookup other = some state at h
  by_cases hother : other = id
  · subst hother
    rw [lookup_write] at h
    cases h
  · rwa [lookup_write_other hother] at h

theorem prompt_endPublish (h : Prompt d) (hjob : d.jobs n = .published id ver) :
    Prompt (d.endPublish n id ver) := by
  unfold Debouncer.endPublish
  dsimp only
  split
  · rename_i state hfound
    have hle : state.ver ≤ ver := by
      refine h.upToDate n id (.returned ver) ver state ?_ rfl hfound
      rw [hjob]
      rfl
    rw [if_neg (by omega)]
    exact h.of_move rfl rfl (fun _ _ => state_put_none) nofun
  · exact h.of_move rfl rfl (fun _ _ hstate => hstate) nofun

theorem prompt_beginPublish (h : Prompt d) (n : ℕ) (id : String) (ver : ℕ) :
    Prompt (d.beginPublish n id ver) := by
  have hended : Prompt (d.move n .ended) := h.of_move rfl rfl (fun _ _ hstate => hstate) nofun
  unfold Debouncer.beginPublish
  simp only [h.halted, Bool.true_eq_false, false_and, if_false]
  split <;> exact hended

theorem Prompt.step (hinv : Invariant d) (h : Prompt d) (hstep : Step d a d') :
    Prompt d' := by
  -- a job with an event to flush would have no version
  have noFlush : ∀ n id stage, (d.jobs n).stage = some (id, stage) → stage.ver = none → False :=
    fun n id stage hjob hver => h.versioned n id stage hjob hver
  cases hstep with
  | submit id event hrunning => cases hrunning.symm.trans h.halted
  | ignore => exact h
  | fire hjob => exact h.of_move rfl rfl (fun _ _ hstate => hstate) nofun
  | @beginPublish n id ver hjob => exact prompt_beginPublish h n id ver
  | @publish n id ver event hjob =>
    refine h.of_move rfl rfl (fun _ _ hstate => hstate) fun id' stage hstage => ?_
    simp only [Job.stage, Option.some.injEq, Prod.mk.injEq] at hstage
    obtain ⟨rfl, rfl⟩ := hstage
    exact ⟨.taken (some ver) event, by rw [hjob]; rfl, rfl⟩
  | @published n id ver event hjob =>
    refine h.of_move rfl rfl (fun _ _ hstate => hstate) fun id' stage hstage => ?_
    simp only [Job.stage, Option.some.injEq, Prod.mk.injEq] at hstage
    obtain ⟨rfl, rfl⟩ := hstage
    exact ⟨.publishing (some ver) event, by rw [hjob]; rfl, rfl⟩
  | endPublish hjob => exact prompt_endPublish h hjob
  | @flush n id event hjob =>
    exact (noFlush n id (.taken none event) (by rw [hjob]; rfl) rfl).elim
  | @flushed n id event hjob =>
    exact (noFlush n id (.publishing none event) (by rw [hjob]; rfl) rfl).elim
  | stop order hidle =>
    have hrunning := hinv.running.mpr hidle
    cases hrunning.symm.trans h.halted
  | stopFlush | stopFlushed | wait => exact ⟨h.halted, h.upToDate, h.versioned⟩

theorem prompt_stop (hinv : Invariant d) (h : UpToDate d) {order : List String}
    (hidle : d.stopping = .idle) (hnodup : order.Nodup)
    (horder : order.toFinset = d.instances.keys) : Prompt (d.stop order) := by
  refine ⟨rfl, ?_, ?_⟩
  · intro n id stage ver state hstage hver hstate
    rw [stop_stages] at hstage
    rw [state_stop hnodup horder] at hstate
    obtain ⟨old, hold, hkept⟩ := Option.bind_eq_some_iff.mp hstate
    have hle := h n id stage ver old hstage hver hold
    unfold Debouncer.keepDraining at hkept
    split at hkept
    · rw [← Option.some.inj hkept]
      exact hle
    · cases hkept
  · intro n id stage hstage hver
    rw [stop_stages] at hstage
    obtain ⟨-, halted, -⟩ := (hinv.situation id).of_flush (p := .job n) hstage hver
    have hrunning := hinv.running.mpr hidle
    cases hrunning.symm.trans halted

theorem Prompt.complete (hsound : Sound d) (h : Prompt d) (hflush : d.stopping = .flush [])
    (hwg : d.wg = ∅) : Complete { d with stopping := .returned } := by
  have hjobs : ∀ n id stage, (d.jobs n).stage ≠ some (id, stage) := by
    intro n id stage hstage
    have hver := h.versioned n id stage hstage
    have hmem : n ∈ d.wg := by
      rw [hsound.counted n, Job.counted, hstage]
      exact Option.isSome_iff_ne_none.mpr hver
    rw [hwg] at hmem
    simp at hmem
  have hfree : ∀ id, Free d id := by
    intro id p stage hh
    cases p with
    | job n => exact hjobs n id stage hh
    | stop =>
      simp only [Holds, hflush] at hh
      cases stage with
      | taken v event => cases v <;> simp [Stopping.holds, Stopping.rest] at hh
      | publishing v event => cases v <;> simp [Stopping.holds, Stopping.current] at hh
      | returned v => exact hh
  refine ⟨fun id p hp => ?_, fun id => ?_⟩
  · obtain ⟨v, event, hp⟩ := hp
    cases p with
    | job n => exact hjobs n id _ hp
    | stop => cases v <;> simp [Holds, Stopping.holds, Stopping.current] at hp
  · cases hsound.inv.situation id with
    | absent free state out => exact out.last
    | waiting free running => cases running.symm.trans h.halted
    | draining held | flushing held => exact absurd ((held _ _).mpr ⟨rfl, rfl⟩) (hfree id _ _)

end Prompt

section Overtaken

variable {d : Debouncer E} {n : ℕ} {id : String} {ver : ℕ}

theorem run_to_published {stage : Stage E} (h : (d.jobs n).stage = some (id, stage))
    (hver : stage.ver = some ver) : ∃ l d', Run Step d l d' ∧
      d'.jobs = Function.update d.jobs n (.published id ver) ∧ d'.instances = d.instances ∧
      d'.wg = d.wg ∧ d'.stopped = d.stopped ∧ d'.stopping = d.stopping := by
  have fromPublishing : ∀ (d : Debouncer E) event, d.jobs n = .publishing id ver event →
      Step d (.done (.job n) id event) (d.move n (.published id ver)) := fun d event => .published
  cases hjob : d.jobs n with
  | begun id' ver' event =>
    rw [hjob] at h
    simp only [Job.stage, Option.some.injEq, Prod.mk.injEq] at h
    obtain ⟨rfl, rfl⟩ := h
    obtain rfl := Option.some.inj hver
    have hnext := fromPublishing ((d.move n (.publishing id' ver' event)).record id' event) event
      (Function.update_self _ _ _)
    refine ⟨_, _, (Run.single (.publish hjob)).snoc hnext, ?_, rfl, rfl, rfl, rfl⟩
    exact Function.update_idem _ _ _
  | publishing id' ver' event =>
    rw [hjob] at h
    simp only [Job.stage, Option.some.injEq, Prod.mk.injEq] at h
    obtain ⟨rfl, rfl⟩ := h
    obtain rfl := Option.some.inj hver
    exact ⟨_, _, .single (fromPublishing d event hjob), rfl, rfl, rfl, rfl, rfl⟩
  | published id' ver' =>
    rw [hjob] at h
    simp only [Job.stage, Option.some.injEq, Prod.mk.injEq] at h
    obtain ⟨rfl, rfl⟩ := h
    obtain rfl := Option.some.inj hver
    exact ⟨_, _, .nil, by rw [← hjob, Function.update_eq_self], rfl, rfl, rfl, rfl⟩
  | flush id' event | flushing id' event =>
    rw [hjob] at h
    simp only [Job.stage, Option.some.injEq, Prod.mk.injEq] at h
    obtain ⟨rfl, rfl⟩ := h
    cases hver
  | unmade | armed | called | ended =>
    rw [hjob] at h
    cases h

theorem run_to_flush {stage : Stage E} (halted : d.stopped = true)
    (h : (d.jobs n).stage = some (id, stage)) (hver : stage.ver = some ver)
    (hstate : d.state id = some state) (hlt : ver < state.ver) :
    ∃ l d', Run Step d l d' ∧ d'.jobs n = .flush id state.pending ∧ d'.stopped = true ∧
      d'.stopping = d.stopping := by
  obtain ⟨l, d₁, hrun, hjobs, hinstances, -, hstopped, hstopping⟩ := run_to_published h hver
  have hjob : d₁.jobs n = .published id ver := by rw [hjobs, Function.update_self]
  have hfound : d₁.state id = some state := by rw [Debouncer.state, hinstances]; exact hstate
  obtain ⟨-, -, -, -, hstopped', hstopping'⟩ := endPublish_moves d₁ n id ver
  refine ⟨_, _, hrun.snoc (.endPublish hjob), ?_, hstopped'.trans (hstopped.trans halted),
    hstopping'.trans hstopping⟩
  have hhalted : d₁.stopped = true := hstopped.trans halted
  simp only [Debouncer.endPublish, hfound, if_pos hlt, hhalted, if_true]
  exact Function.update_self _ _ _

theorem run_to_empty (k : ℕ) : ∀ d : Debouncer E, Sound d → d.wg.card = k →
    n ∉ d.wg → ∃ l d', Run Step d l d' ∧ d'.wg = ∅ ∧ d'.jobs n = d.jobs n ∧
      d'.stopping = d.stopping := by
  induction k with
  | zero => exact fun d _ hcard _ => ⟨[], d, .nil, Finset.card_eq_zero.mp hcard, rfl, rfl⟩
  | succ k ih =>
    intro d hsound hcard hn
    obtain ⟨m, hm⟩ := Finset.card_pos.mp (by omega : 0 < d.wg.card)
    have hne : n ≠ m := fun heq => hn (heq ▸ hm)
    obtain ⟨ver, hver⟩ := Option.isSome_iff_exists.mp ((hsound.counted m).mp hm)
    obtain ⟨⟨id, stage⟩, hstage, hver⟩ := Option.bind_eq_some_iff.mp hver
    obtain ⟨l, d₁, hrun, hjobs, -, hwg, -, hstopping⟩ := run_to_published hstage hver
    have hjob : d₁.jobs m = .published id ver := by rw [hjobs, Function.update_self]
    obtain ⟨job, hjobs', -, hwg', -, hstopping'⟩ := endPublish_moves d₁ m id ver
    have hrun' := hrun.snoc (.endPublish hjob)
    have hcard' : (d₁.endPublish m id ver).wg.card = k := by
      rw [hwg', hwg, Finset.card_erase_of_mem hm, hcard]
      omega
    have hn' : n ∉ (d₁.endPublish m id ver).wg := by
      rw [hwg', hwg]
      exact fun hmem => hn (Finset.mem_of_mem_erase hmem)
    obtain ⟨l', d₂, hrest, hempty, hkept, hstopping₂⟩ := ih _ (hsound.run hrun') hcard' hn'
    refine ⟨_, d₂, hrun'.append hrest, hempty, ?_, ?_⟩
    · rw [hkept, hjobs', Function.update_of_ne hne, hjobs, Function.update_of_ne hne]
    · rw [hstopping₂, hstopping', hstopping]

theorem run_to_wait (toFlush : List (String × E)) : ∀ d : Debouncer E,
    d.stopping = .flush toFlush → ∃ l d', Run Step d l d' ∧ d'.stopping = .flush [] ∧
      d'.jobs = d.jobs ∧ d'.wg = d.wg := by
  induction toFlush with
  | nil => exact fun d h => ⟨[], d, .nil, h, rfl, rfl⟩
  | cons x rest ih =>
    intro d h
    obtain ⟨id, event⟩ := x
    have hcall : Step d (.call .stop id event)
        ({ d with stopping := .flushing id event rest }.record id event) := .stopFlush h
    have hdone : Step ({ d with stopping := .flushing id event rest }.record id event)
        (.done .stop id event) ({ d with stopping := .flush rest }.record id event) :=
      .stopFlushed rfl
    obtain ⟨l, d', hrun, hstopping, hjobs, hwg⟩ :=
      ih ({ d with stopping := .flush rest }.record id event) rfl
    exact ⟨_, d', .cons hcall (.cons hdone hrun), hstopping, hjobs, hwg⟩

theorem run_to_overtaken {event : E} {toFlush : List (String × E)} (hsound : Sound d)
    (hjob : d.jobs n = .flush id event) (hstopping : d.stopping = .flush toFlush) :
    ∃ l d₂ d₃, Run Step d l d₂ ∧ Step d₂ .wait d₃ ∧ Publishing d₃ id (.job n) := by
  have hn : n ∉ d.wg := by
    rw [hsound.counted n, hjob]
    simp [Job.counted, Job.stage, Stage.ver]
  obtain ⟨l₁, d₁, hrun₁, hwg₁, hjob₁, hstopping₁⟩ := run_to_empty _ d hsound rfl hn
  obtain ⟨l₂, d₂, hrun₂, hstopping₂, hjobs₂, hwg₂⟩ :=
    run_to_wait toFlush d₁ (hstopping₁.trans hstopping)
  have hjob₂ : d₂.jobs n = .flush id event := by rw [hjobs₂, hjob₁, hjob]
  refine ⟨_, _, _, (hrun₁.append hrun₂).snoc (.flush hjob₂), .wait hstopping₂ (hwg₂.trans hwg₁),
    none, event, ?_⟩
  simp [Holds, Debouncer.record, Debouncer.move, Job.stage]

end Overtaken

/-- Whatever happens between the call of `Stop` and its return, it is complete exactly when
nothing waits behind an event that is being published. -/
theorem stop_complete {d d₁ : Debouncer E} {l : List (Action E)} {order : List String}
    (h : Run Step newDebouncer l d) (hstop : Step d (.stop order) d₁) :
    (∀ l' d₂ d₃, Run Step d₁ l' d₂ → Step d₂ .wait d₃ → Complete d₃) ↔ UpToDate d := by
  have hsound : Sound d := sound_newDebouncer.run h
  have hsound₁ : Sound d₁ := hsound.step hstop
  cases hstop with
  | stop _ hidle hnodup horder =>
  constructor
  · intro hcomplete n id stage ver state hstage hver hstate
    by_contra hlate
    -- the instance of a job that publishes is draining, so `Stop` leaves its state
    obtain ⟨state', -, hfound, hbusy, -⟩ :=
      (hsound.inv.situation id).of_version (p := .job n) hstage hver
    obtain rfl : state' = state := Option.some.inj (hfound.symm.trans hstate)
    have hkept : (d.stop order).state id = some { state' with timer := none } := by
      simp [state_stop hnodup horder, hstate, Debouncer.keepDraining, hbusy]
    obtain ⟨l₂, d₂, hrun₂, hjob₂, -, hstopping₂⟩ := run_to_flush (n := n) rfl
      ((stop_stages d order n).trans hstage) hver hkept (by simpa using hlate)
    obtain ⟨l₃, d₃, d₄, hrun₃, hwait, hpublishing⟩ :=
      run_to_overtaken (hsound₁.run hrun₂) hjob₂ hstopping₂
    exact (hcomplete _ _ _ (hrun₂.append hrun₃) hwait).returned _ _ hpublishing
  · intro hupToDate l' d₂ d₃ hrun hwait
    have hprompt : Invariant d₂ ∧ Prompt d₂ := by
      refine hrun.preserves (I := fun d => Invariant d ∧ Prompt d)
        ⟨hsound₁.inv, prompt_stop hsound.inv hupToDate hidle hnodup horder⟩ ?_
      intro _ _ _ hboth hstep
      exact ⟨invariant_step hboth.1 hstep, hboth.2.step hboth.1 hstep⟩
    cases hwait with
    | wait hflush hwg => exact hprompt.2.complete (hsound₁.run hrun) hflush hwg

def promptMoves : List (Move ℕ) :=
  [.submit "a" 1, .submit "b" 2, .job 0, .job 0, .job 0]

def promptPlay : List (Action ℕ) × Debouncer ℕ := playMoves Debouncer.next newDebouncer promptMoves

def promptStop : List (Action ℕ) × Debouncer ℕ :=
  playMoves Debouncer.next (promptPlay.2.stop ["a", "b"])
    [.stop, .job 0, .stop, .job 0]

theorem promptPlay_upToDate : UpToDate promptPlay.2 := by
  have hinv : Invariant promptPlay.2 := run_invariant (run_playMoves _ step_next _ _)
  have htimers : promptPlay.2.timers = 2 := by decide +kernel
  have hfirst : promptPlay.2.jobs 0 = .publishing "a" 1 1 := by decide +kernel
  have hsecond : promptPlay.2.jobs 1 = .armed "b" 1 := by decide +kernel
  have hstate : promptPlay.2.state "a" = some ⟨none, 1, 1, true⟩ := by decide +kernel
  intro n id stage ver state hstage hver hfound
  match n with
  | 0 =>
    simp only [hfirst, Job.stage, Option.some.injEq, Prod.mk.injEq] at hstage
    obtain ⟨rfl, rfl⟩ := hstage
    rw [hstate] at hfound
    obtain rfl := Option.some.inj hfound
    obtain rfl := Option.some.inj hver
    exact Nat.le_refl _
  | 1 => simp [hsecond, Job.stage] at hstage
  | n + 2 => simp [hinv.unmade (n + 2) (by omega), Job.stage] at hstage

theorem stop_complete_prompt :
    of "a" promptStop.2.published = [1] ∧ of "b" promptStop.2.published = [2] ∧
      Complete { promptStop.2 with stopping := .returned } := by
  refine ⟨by decide +kernel, by decide +kernel, ?_⟩
  have hstop : Step promptPlay.2 (.stop ["a", "b"]) (promptPlay.2.stop ["a", "b"]) :=
    .stop _ (by decide +kernel) (by decide) (by decide +kernel)
  exact (stop_complete (run_playMoves _ step_next _ _) hstop).mpr promptPlay_upToDate _ _ _
    (run_playMoves _ step_next _ _) (.wait (by decide +kernel) (by decide +kernel))

def overtakenPlay : List (Action ℕ) × Debouncer ℕ :=
  playMoves Debouncer.next newDebouncer
    [.submit "a" 1, .job 0, .job 0, .job 0, .submit "a" 2, .callStop ["a"], .job 0, .job 0, .stop]

/-- `Stop` returns and the last event of the instance is not published. -/
theorem stop_overtakes_flush : Run Step newDebouncer overtakenPlay.1 overtakenPlay.2 ∧
    overtakenPlay.2.stopping = .returned ∧ of "a" overtakenPlay.2.accepted = [1, 2] ∧
    of "a" overtakenPlay.2.published = [1] ∧ ¬ Complete overtakenPlay.2 := by
  refine ⟨run_playMoves _ step_next _ _, by decide +kernel, by decide +kernel,
    by decide +kernel, fun h => ?_⟩
  have hflushed := h.flushed "a"
  revert hflushed
  decide +kernel

end DebouncerStop
