import EnvironmentAgent.CoalescedOutput
import EnvironmentAgent.StatusDebouncer

/-! # What the debouncer publishes

Every instance is in one of four situations, and in each of them its published events, the one that
is taken and the one that waits make up a coalesced output of what was accepted. -/
namespace DebouncerOrder

open CoalescedOutput LabelledRuns StatusDebouncer

variable {E : Type}

def Free (d : Debouncer E) (id : String) : Prop := ∀ p stage, ¬ Holds d id stage p

def HeldBy (d : Debouncer E) (id : String) (p : Party) (stage : Stage E) : Prop :=
  ∀ q other, Holds d id other q ↔ q = p ∧ other = stage

def Carried (d : Debouncer E) (id : String) (ver : ℕ) : Prop :=
  ∃ n, d.jobs n = .armed id ver ∨ d.jobs n = .called id ver

/-- Nothing of the instance is left to do, its event waits for a timer or a callback, one job
publishes it, or its last event is being flushed after `Stop`. -/
inductive Situation (d : Debouncer E) (id : String) : Prop where
  | absent (free : Free d id) (state : d.state id = none)
      (out : Coalesces (of id d.published) (of id d.accepted))
  | waiting {state : InstanceState E} (free : Free d id) (running : d.stopped = false)
      (found : d.state id = some state) (idle : state.draining = false)
      (carried : Carried d id state.ver)
      (out : Coalesces (of id d.published ++ [state.pending]) (of id d.accepted))
  | draining {state : InstanceState E} {p : Party} {stage : Stage E} {ver : ℕ}
      (held : HeldBy d id p stage) (found : d.state id = some state)
      (busy : state.draining = true) (hver : stage.ver = some ver) (le : ver ≤ state.ver)
      (out : Coalesces (of id d.published ++ stage.hand ++ state.behind ver)
        (of id d.accepted))
  | flushing {p : Party} {stage : Stage E} (held : HeldBy d id p stage)
      (halted : d.stopped = true) (state : d.state id = none) (hver : stage.ver = none)
      (out : Coalesces (of id d.published ++ stage.hand) (of id d.accepted))

structure Invariant (d : Debouncer E) : Prop where
  situation : ∀ id, Situation d id
  /-- A state has no other instance's timer. -/
  timer : ∀ id state n, d.state id = some state → state.timer = some n →
    n < d.timers ∧ ∀ other ver, d.jobs n = .armed other ver → other = id
  unmade : ∀ n, d.timers ≤ n → d.jobs n = .unmade
  running : d.stopped = false ↔ d.stopping = .idle
  flushes : ((d.stopping.current.toList ++ d.stopping.rest).map Prod.fst).Nodup

section Frames

variable {d d' : Debouncer E} {id : String} {n : ℕ} {job : Job E} {p : Party} {stage : Stage E}

theorem Situation.frame (h : Situation d id) (hstate : d'.state id = d.state id)
    (hstopped : d'.stopped = d.stopped)
    (hholds : ∀ stage p, Holds d' id stage p ↔ Holds d id stage p)
    (hcarried : ∀ state, d.state id = some state → d.stopped = false →
      state.draining = false → Carried d id state.ver → Carried d' id state.ver)
    (haccepted : of id d'.accepted = of id d.accepted)
    (hpublished : of id d'.published = of id d.published) : Situation d' id := by
  have hfree : Free d id → Free d' id := fun hf p stage hh => hf p stage ((hholds stage p).mp hh)
  have hheld : ∀ {p stage}, HeldBy d id p stage → HeldBy d' id p stage :=
    fun hh q other => (hholds other q).trans (hh q other)
  cases h with
  | absent free state out =>
    exact .absent (hfree free) (hstate.trans state) (by rwa [haccepted, hpublished])
  | waiting free running found idle carried out =>
    exact .waiting (hfree free) (hstopped.trans running) (hstate.trans found) idle
      (hcarried _ found running idle carried) (by rwa [haccepted, hpublished])
  | draining held found busy hver le out =>
    exact .draining (hheld held) (hstate.trans found) busy hver le
      (by rwa [haccepted, hpublished])
  | flushing held halted state hver out =>
    exact .flushing (hheld held) (hstopped.trans halted) (hstate.trans state) hver
      (by rwa [haccepted, hpublished])

theorem Situation.of_version {ver : ℕ} (h : Situation d id) (hh : Holds d id stage p)
    (hver : stage.ver = some ver) : ∃ state, HeldBy d id p stage ∧ d.state id = some state ∧
      state.draining = true ∧ ver ≤ state.ver ∧
      Coalesces (of id d.published ++ stage.hand ++ state.behind ver) (of id d.accepted) := by
  cases h with
  | absent free => exact absurd hh (free p stage)
  | waiting free => exact absurd hh (free p stage)
  | @draining state p' stage' ver' held found busy hver' le out =>
    obtain ⟨rfl, rfl⟩ := (held p stage).mp hh
    obtain rfl : ver' = ver := Option.some.inj (hver'.symm.trans hver)
    exact ⟨state, held, found, busy, le, out⟩
  | flushing held halted state hnone =>
    obtain ⟨rfl, rfl⟩ := (held p stage).mp hh
    cases hnone.symm.trans hver

theorem Situation.of_flush (h : Situation d id) (hh : Holds d id stage p)
    (hver : stage.ver = none) : HeldBy d id p stage ∧ d.stopped = true ∧ d.state id = none ∧
      Coalesces (of id d.published ++ stage.hand) (of id d.accepted) := by
  cases h with
  | absent free => exact absurd hh (free p stage)
  | waiting free => exact absurd hh (free p stage)
  | draining held found busy hsome =>
    obtain ⟨rfl, rfl⟩ := (held p stage).mp hh
    cases hver.symm.trans hsome
  | flushing held halted state hnone out =>
    obtain ⟨rfl, rfl⟩ := (held p stage).mp hh
    exact ⟨held, halted, state, out⟩

theorem holds_move : Holds (d.move n job) id stage p ↔
    (p = .job n ∧ job.stage = some (id, stage)) ∨ (p ≠ .job n ∧ Holds d id stage p) := by
  cases p with
  | stop => simp [Holds, Debouncer.move]
  | job m =>
    by_cases hm : m = n
    · subst hm
      simp [Holds, Debouncer.move]
    · simp [Holds, Debouncer.move, hm]

theorem holds_move_other (hold : (d.jobs n).stage ≠ some (id, stage))
    (hnew : job.stage ≠ some (id, stage)) :
    Holds (d.move n job) id stage p ↔ Holds d id stage p := by
  rw [holds_move]
  by_cases hp : p = .job n
  · subst hp
    simp [Holds, hold, hnew]
  · simp [hp]

theorem HeldBy.move {next : Stage E} (h : HeldBy d id (.job n) stage)
    (hnew : job.stage = some (id, next)) : HeldBy (d.move n job) id (.job n) next := by
  intro q other
  rw [holds_move, hnew, h q other]
  by_cases hq : q = .job n
  · simp [hq, eq_comm]
  · simp [hq]

theorem Free.acquire (h : Free d id) (hnew : job.stage = some (id, stage)) :
    HeldBy (d.move n job) id (.job n) stage := by
  intro q other
  rw [holds_move, hnew]
  by_cases hq : q = .job n
  · simp [hq, eq_comm]
  · simp [hq, h q other]

theorem HeldBy.release (h : HeldBy d id (.job n) stage) (hnew : job.stage = none) :
    Free (d.move n job) id := by
  intro q other hh
  rw [holds_move, hnew, h q other] at hh
  by_cases hq : q = .job n
  · simp [hq] at hh
  · simp [hq] at hh

theorem Carried.move {ver : ℕ} (h : Carried d id ver) (job : Job E)
    (hjob : d.jobs n ≠ .armed id ver ∧ d.jobs n ≠ .called id ver) :
    Carried (d.move n job) id ver := by
  obtain ⟨m, hm⟩ := h
  have hne : m ≠ n := by
    intro heq
    subst heq
    rcases hm with hm | hm
    · exact hjob.1 hm
    · exact hjob.2 hm
  exact ⟨m, by simpa [Debouncer.move, Function.update_of_ne hne] using hm⟩

theorem holds_of_stages (hjobs : ∀ m, (d'.jobs m).stage = (d.jobs m).stage)
    (hstopping : d'.stopping = d.stopping) : Holds d' id stage p ↔ Holds d id stage p := by
  cases p with
  | job m => simp [Holds, hjobs m]
  | stop => simp [Holds, hstopping]

theorem cancel_cases (jobs : ℕ → Job E) (t : Option ℕ) (m : ℕ) : cancel jobs t m = jobs m ∨
    t = some m ∧ cancel jobs t m = .ended ∧ ∃ id ver, jobs m = .armed id ver := by
  cases t with
  | none => exact .inl rfl
  | some k =>
    by_cases hm : m = k
    · subst hm
      cases hjob : jobs m <;> simp [cancel, hjob]
    · left
      cases hjob : jobs k <;> simp [cancel, hjob, hm]

theorem cancel_stage (jobs : ℕ → Job E) (t : Option ℕ) (m : ℕ) :
    (cancel jobs t m).stage = (jobs m).stage := by
  rcases cancel_cases jobs t m with h | ⟨-, h, id, ver, hjob⟩
  · rw [h]
  · rw [h, hjob]
    rfl

theorem Invariant.made (h : Invariant d) (hjob : d.jobs n ≠ .unmade) : n < d.timers := by
  by_contra hn
  exact hjob (h.unmade n (by omega))

end Frames

variable {other : String} {order : List String} {rest : List (String × E)}

-- Every step lemma below reads these tables; their equations are generated once, here.
attribute [local simp] Job.stage Stage.hand Stopping.holds Stopping.rest Stopping.current

section Steps

variable {d : Debouncer E} {id : String} {n ver : ℕ} {event : E}

variable {d' : Debouncer E}

theorem situation_move_other {job : Job E} (h : Situation d other)
    (hjobs : d'.jobs = Function.update d.jobs n job) (hstate : d'.state other = d.state other)
    (hstopped : d'.stopped = d.stopped) (hstopping : d'.stopping = d.stopping)
    (haccepted : d'.accepted = d.accepted)
    (hpublished : of other d'.published = of other d.published)
    (hold : ∀ stage, (d.jobs n).stage ≠ some (other, stage))
    (hnew : ∀ stage, job.stage ≠ some (other, stage))
    (hcarrier : ∀ v, d.jobs n ≠ .armed other v ∧ d.jobs n ≠ .called other v) :
    Situation d' other := by
  refine h.frame hstate hstopped (fun stage p => ?_) (fun state _ _ _ hv => ?_)
    (by rw [haccepted]) hpublished
  · rw [← holds_move_other (hold stage) (hnew stage)]
    exact holds_of_stages (by simp [hjobs, Debouncer.move]) hstopping
  · obtain ⟨m, hm⟩ := hv.move job (hcarrier _)
    exact ⟨m, by rwa [hjobs]⟩

theorem situation_fire (h : d.jobs n = .armed id ver) (hs : Situation d other) :
    Situation (d.move n (.called id ver)) other := by
  refine hs.frame rfl rfl (fun stage p => ?_) (fun state _ _ _ hv => ?_) rfl rfl
  · exact holds_move_other (by simp [h]) (by simp)
  · by_cases hmine : d.jobs n = .armed other state.ver ∨ d.jobs n = .called other state.ver
    · refine ⟨n, .inr ?_⟩
      rcases hmine with hmine | hmine <;> simp_all [Debouncer.move]
    · exact hv.move _ (not_or.mp hmine)

theorem situation_publish (h : d.jobs n = .begun id ver event) (hs : Situation d other) :
    Situation ((d.move n (.publishing id ver event)).record id event) other := by
  by_cases hother : other = id
  · subst hother
    have hholds : Holds d other (.taken (some ver) event) (.job n) := by simp [Holds, h]
    obtain ⟨state, held, found, busy, le, out⟩ := hs.of_version hholds rfl
    have hnext : HeldBy ((d.move n (.publishing other ver event)).record other event) other
        (.job n) (.publishing (some ver) event) := held.move rfl
    refine .draining hnext found busy rfl le ?_
    simpa [Debouncer.record, Debouncer.move] using out
  · exact situation_move_other hs rfl rfl rfl rfl rfl (of_other (Ne.symm hother) event)
      (by simp [h, Ne.symm hother]) (by simp [Ne.symm hother]) (by simp [h])

theorem situation_published (h : d.jobs n = .publishing id ver event) (hs : Situation d other) :
    Situation (d.move n (.published id ver)) other := by
  by_cases hother : other = id
  · subst hother
    have hholds : Holds d other (.publishing (some ver) event) (.job n) := by
      simp [Holds, h]
    obtain ⟨state, held, found, busy, le, out⟩ := hs.of_version hholds rfl
    have hnext : HeldBy (d.move n (.published other ver)) other (.job n) (.returned ver) :=
      held.move rfl
    refine .draining hnext found busy rfl le ?_
    simpa [Debouncer.move] using out
  · exact situation_move_other hs rfl rfl rfl rfl rfl rfl
      (by simp [h, Ne.symm hother]) (by simp [Ne.symm hother]) (by simp [h])

theorem situation_flush (h : d.jobs n = .flush id event) (hs : Situation d other) :
    Situation ((d.move n (.flushing id event)).record id event) other := by
  by_cases hother : other = id
  · subst hother
    have hholds : Holds d other (.taken none event) (.job n) := by simp [Holds, h]
    obtain ⟨held, halted, hstate, out⟩ := hs.of_flush hholds rfl
    have hnext : HeldBy ((d.move n (.flushing other event)).record other event) other (.job n)
        (.publishing none event) := held.move rfl
    refine .flushing hnext halted hstate rfl ?_
    simpa [Debouncer.record, Debouncer.move] using out
  · exact situation_move_other hs rfl rfl rfl rfl rfl (of_other (Ne.symm hother) event)
      (by simp [h, Ne.symm hother]) (by simp [Ne.symm hother]) (by simp [h])

theorem situation_flushed (h : d.jobs n = .flushing id event) (hs : Situation d other) :
    Situation (d.move n .ended) other := by
  by_cases hother : other = id
  · subst hother
    have hholds : Holds d other (.publishing none event) (.job n) := by simp [Holds, h]
    obtain ⟨held, halted, hstate, out⟩ := hs.of_flush hholds rfl
    exact .absent (held.release rfl) hstate (by simpa [Debouncer.move] using out)
  · exact situation_move_other hs rfl rfl rfl rfl rfl rfl
      (by simp [h, Ne.symm hother]) (by simp) (by simp [h])

theorem situation_beginPublish (h : d.jobs n = .called id ver) (hs : ∀ id, Situation d id) :
    Situation (d.beginPublish n id ver) other := by
  -- a callback that finds another version, a publish or nothing was nobody's carrier
  have refused : (∀ state, d.state id = some state →
      ¬ (d.stopped = false ∧ state.ver = ver ∧ state.draining = false)) →
      Situation (d.move n .ended) other := by
    intro hrefused
    refine (hs other).frame rfl rfl
      (fun stage p => holds_move_other (by simp [h]) (by simp))
      (fun state found running idle hv => hv.move _ ?_) rfl rfl
    rw [h]
    refine ⟨nofun, fun heq => ?_⟩
    obtain ⟨rfl, rfl⟩ := Job.called.inj heq
    exact hrefused state found ⟨running, rfl, idle⟩
  unfold Debouncer.beginPublish
  split
  · rename_i state found
    split
    · rename_i hready
      obtain ⟨running, rfl, idle⟩ := hready
      by_cases hother : other = id
      · subst hother
        cases hs other with
        | absent _ hnone => cases hnone.symm.trans found
        | flushing _ _ hnone => cases hnone.symm.trans found
        | draining _ found' busy =>
          obtain rfl := Option.some.inj (found'.symm.trans found)
          cases busy.symm.trans idle
        | @waiting state' free _ found' _ _ out =>
          obtain rfl : state = state' := Option.some.inj (found.symm.trans found')
          have hheld : HeldBy (d.move n (.begun other state.ver state.pending)) other (.job n)
              (.taken (some state.ver) state.pending) := free.acquire rfl
          have hput := lookup_write d.instances other
            (some { state with timer := none, draining := true })
          refine .draining hheld hput rfl rfl (Nat.le_refl _) ?_
          simpa [Debouncer.put, Debouncer.move, InstanceState.behind] using out
      · exact situation_move_other (hs other) rfl (lookup_write_other hother _) rfl rfl rfl rfl
          (by simp [h]) (by simp [Ne.symm hother])
          (by simp [h, Ne.symm hother])
    · rename_i hrefused
      refine refused fun state' found' => ?_
      obtain rfl := Option.some.inj (found'.symm.trans found)
      exact hrefused
  · rename_i hnone
    refine refused fun state' found' => ?_
    cases hnone.symm.trans found'

theorem situation_endPublish (h : d.jobs n = .published id ver) (hs : ∀ id, Situation d id) :
    Situation (d.endPublish n id ver) other := by
  have hholds : Holds d id (.returned ver) (.job n) := by simp [Holds, h]
  obtain ⟨state, held, found, busy, le, out⟩ := (hs id).of_version hholds rfl
  unfold Debouncer.endPublish
  simp only [found]
  by_cases hother : other = id
  · subst hother
    split
    · rename_i hnewer
      have hbehind : state.behind ver = [state.pending] := if_pos hnewer
      split
      · rename_i halted
        have hnext : HeldBy (d.move n (.flush other state.pending)) other (.job n)
            (.taken none state.pending) := held.move rfl
        refine .flushing hnext halted (lookup_write _ _ _) rfl ?_
        simpa [Debouncer.put, Debouncer.move, hbehind] using out
      · rename_i running
        have hfree : Free (d.move n (.called other state.ver)) other := held.release rfl
        have hput := lookup_write d.instances other (some { state with draining := false })
        have hrunning : d.stopped = false := by simpa using running
        refine .waiting hfree hrunning hput rfl
          ⟨n, .inr (Function.update_self _ _ _)⟩ ?_
        simpa [Debouncer.put, Debouncer.move, hbehind] using out
    · rename_i hlast
      have hbehind : state.behind ver = [] := if_neg hlast
      have hfree : Free (d.move n .ended) other := held.release rfl
      refine .absent hfree (lookup_write _ _ _) ?_
      simpa [Debouncer.put, Debouncer.move, hbehind] using out
  · have hframe : ∀ job state', (∀ stage, job.stage ≠ some (other, stage)) →
        Situation (({ d with wg := d.wg.erase n }.put id state').move n job) other :=
      fun job state' hnew => situation_move_other (hs other) rfl
        (lookup_write_other hother _) rfl rfl rfl rfl
        (by simp [h, Ne.symm hother]) hnew (by simp [h])
    split
    · split
      · exact hframe _ _ (by simp [Ne.symm hother])
      · exact hframe _ _ (by simp)
    · exact hframe _ _ (by simp)

theorem situation_arm_other {timer : Option ℕ} (hs : Situation d other) (hother : other ≠ id)
    (hjobs : d'.jobs = Function.update (cancel d.jobs timer) d.timers (.armed id ver))
    (hstate : d'.state other = d.state other) (hstopped : d'.stopped = d.stopped)
    (hstopping : d'.stopping = d.stopping) (haccepted : of other d'.accepted = of other d.accepted)
    (hpublished : d'.published = d.published)
    (htimer : ∀ m, timer = some m → ∀ id' v, d.jobs m = .armed id' v → id' = id)
    (hunmade : d.jobs d.timers = .unmade) : Situation d' other := by
  refine hs.frame hstate hstopped (fun stage p => holds_of_stages (fun m => ?_) hstopping)
    (fun state _ _ _ hv => ?_) haccepted (by rw [hpublished])
  · rw [hjobs]
    by_cases hm : m = d.timers
    · subst hm
      simp [hunmade]
    · rw [Function.update_of_ne hm, cancel_stage]
  · obtain ⟨m, hm⟩ := hv
    have hne : m ≠ d.timers := by
      intro heq
      subst heq
      simp [hunmade] at hm
    refine ⟨m, ?_⟩
    rw [hjobs, Function.update_of_ne hne]
    rcases cancel_cases d.jobs timer m with hsame | ⟨heq, -, id', v, harmed⟩
    · rwa [hsame]
    · have hid := htimer m heq id' v harmed
      rcases hm with hm | hm
      · rw [harmed] at hm
        exact absurd ((Job.armed.inj hm).1.symm.trans hid) hother
      · rw [harmed] at hm
        cases hm

theorem situation_submit (hinv : Invariant d) (hrunning : d.stopped = false) :
    Situation (d.submit id event) other := by
  have hunmade := hinv.unmade d.timers (Nat.le_refl _)
  have hstages : ∀ timer v m, (Function.update (cancel d.jobs timer) d.timers
      (.armed id v) m).stage = (d.jobs m).stage := by
    intro timer v m
    by_cases hm : m = d.timers
    · subst hm
      simp [hunmade]
    · rw [Function.update_of_ne hm, cancel_stage]
  have hfree : ∀ {d' : Debouncer E} {timer v}, Free d id →
      d'.jobs = Function.update (cancel d.jobs timer) d.timers (.armed id v) →
      d'.stopping = d.stopping → Free d' id := by
    intro d' timer v free hjobs hstopping p stage hh
    exact free p stage ((holds_of_stages (fun m => hjobs ▸ hstages timer v m) hstopping).mp hh)
  unfold Debouncer.submit
  by_cases hother : other = id
  · subst hother
    cases hinv.situation other with
    | flushing _ halted => cases halted.symm.trans hrunning
    | absent free hstate out =>
      simp only [hstate, Option.getD_none]
      refine .waiting (hfree free rfl rfl) hrunning (lookup_write _ _ _) rfl
        ⟨d.timers, .inl (Function.update_self _ _ _)⟩ ?_
      simpa [Debouncer.put] using out.accept event
    | @waiting state free _ found idle _ out =>
      simp only [found, Option.getD_some, idle]
      refine .waiting (hfree free rfl rfl) hrunning (lookup_write _ _ _) rfl
        ⟨d.timers, .inl (Function.update_self _ _ _)⟩ ?_
      simpa [Debouncer.put] using out.overwrite event
    | @draining state p stage v held found busy hver le out =>
      simp only [found, Option.getD_some, busy, if_true]
      have hnewer : (⟨state.timer, event, state.ver + 1, true⟩ : InstanceState E).behind v =
          [event] := if_pos (Nat.lt_succ_of_le le)
      refine .draining held (lookup_write _ _ _) rfl hver (Nat.le_succ_of_le le) ?_
      rw [hnewer]
      by_cases hlt : v < state.ver
      · have hbehind : state.behind v = [state.pending] := if_pos hlt
        rw [hbehind] at out
        simpa [Debouncer.put] using out.overwrite event
      · have hbehind : state.behind v = [] := if_neg hlt
        rw [hbehind, List.append_nil] at out
        simpa [Debouncer.put] using out.accept event
  · have haccepted : of other (d.accepted ++ [(id, event)]) = of other d.accepted :=
      of_other (Ne.symm hother) event
    dsimp only
    split
    · exact (hinv.situation other).frame (lookup_write_other hother _) rfl
        (fun _ _ => Iff.rfl) (fun _ _ _ _ hv => hv) haccepted rfl
    · refine situation_arm_other (hinv.situation other) hother rfl (lookup_write_other hother _)
        rfl rfl haccepted rfl (fun m htimer => ?_) hunmade
      cases found : d.state id with
      | none => simp [found] at htimer
      | some state =>
        simp only [found, Option.getD_some] at htimer
        exact (hinv.timer id state m found htimer).2

theorem mem_toFlush (horder : order.toFinset = d.instances.keys) :
    (id, event) ∈ order.filterMap d.flushOf ↔
      ∃ state, d.state id = some state ∧ state.draining = false ∧ state.pending = event := by
  have hown : ∀ id', d.flushOf id' = some (id, event) ↔ id' = id ∧
      ∃ state, d.state id = some state ∧ state.draining = false ∧ state.pending = event := by
    intro id'
    unfold Debouncer.flushOf
    cases found : d.state id' with
    | none =>
      refine iff_of_false nofun fun hh => ?_
      obtain ⟨rfl, state, hstate, -⟩ := hh
      cases found.symm.trans hstate
    | some state =>
      by_cases hid : id' = id
      · subst hid
        cases hdraining : state.draining <;> simp [found, hdraining]
      · cases hdraining : state.draining <;> simp [hdraining, hid]
  rw [List.mem_filterMap]
  constructor
  · intro h
    obtain ⟨id', -, hsome⟩ := h
    exact ((hown id').mp hsome).2
  · intro h
    obtain ⟨state, hstate, hrest⟩ := h
    exact ⟨id, (mem_order horder).mpr (by simp [hstate]), (hown id).mpr ⟨rfl, state, hstate, hrest⟩⟩

theorem toFlush_nodup (hnodup : order.Nodup) :
    ((order.filterMap d.flushOf).map Prod.fst).Nodup := by
  refine hnodup.sublist ?_
  clear hnodup
  induction order with
  | nil => exact List.Sublist.refl _
  | cons id rest ih =>
    cases hflush : d.flushOf id with
    | none =>
      rw [List.filterMap_cons_none hflush]
      exact ih.cons id
    | some x =>
      have hid : x.1 = id := by
        unfold Debouncer.flushOf at hflush
        cases found : d.state id with
        | none => simp [found] at hflush
        | some state =>
          simp only [found] at hflush
          split at hflush
          · cases hflush
          · exact (congrArg Prod.fst (Option.some.inj hflush)).symm
      rw [List.filterMap_cons_some hflush, List.map_cons, hid]
      exact ih.cons_cons id

theorem cancelAll_cases (timerOf : String → Option ℕ) (order : List String) (jobs : ℕ → Job E)
    (m : ℕ) : order.foldl (fun jobs id => cancel jobs (timerOf id)) jobs m = jobs m ∨
      order.foldl (fun jobs id => cancel jobs (timerOf id)) jobs m = .ended ∧
        ∃ id ver, jobs m = .armed id ver := by
  induction order generalizing jobs with
  | nil => exact .inl rfl
  | cons id rest ih =>
    rw [List.foldl_cons]
    rcases cancel_cases jobs (timerOf id) m with hsame | ⟨-, hended, harmed⟩
    · rw [← hsame]
      exact ih _
    · right
      refine ⟨?_, harmed⟩
      rcases ih (cancel jobs (timerOf id)) with h | ⟨h, -⟩
      · rw [h, hended]
      · exact h

theorem situation_stop (hinv : Invariant d) (hidle : d.stopping = .idle) (hnodup : order.Nodup)
    (horder : order.toFinset = d.instances.keys) :
    Situation (d.stop order) other := by
  have hrunning : d.stopped = false := hinv.running.mpr hidle
  have hjobs : ∀ m, ((d.stop order).jobs m).stage = (d.jobs m).stage := by
    intro m
    rcases cancelAll_cases (fun id => (d.state id).bind (·.timer)) order d.jobs m with
      h | ⟨h, id, ver, harmed⟩
    · exact congrArg Job.stage h
    · exact (congrArg Job.stage h).trans (by rw [harmed]; rfl)
  have hstop : ∀ stage, ¬ Holds d other stage .stop := by
    intro stage hh
    simp only [Holds, hidle] at hh
    cases stage with
    | taken ver event => cases ver <;> simp at hh
    | publishing ver event => cases ver <;> simp at hh
    | returned ver => exact hh
  have hlater : ∀ stage, Holds (d.stop order) other stage .stop ↔
      ∃ state, stage = .taken none state.pending ∧ d.state other = some state ∧
        state.draining = false := by
    intro stage
    cases stage with
    | taken ver event =>
      cases ver with
      | some v => simp [Holds]
      | none =>
        change (other, event) ∈ order.filterMap d.flushOf ↔ _
        rw [mem_toFlush horder]
        simp only [Stage.taken.injEq, true_and]
        grind
    | publishing ver event =>
      cases ver <;> simp [Holds, Debouncer.stop]
    | returned ver => simp [Holds]
  cases hinv.situation other with
  | flushing _ halted => cases halted.symm.trans hrunning
  | absent free hstate out =>
    refine .absent (fun p stage hh => ?_) (by simp [state_stop hnodup horder, hstate]) out
    cases p with
    | job m => exact free (.job m) stage ((hjobs m).symm.trans hh)
    | stop =>
      obtain ⟨state, -, hsome, -⟩ := (hlater stage).mp hh
      cases hstate.symm.trans hsome
  | @waiting state free _ found idle _ out =>
    have hheld : HeldBy (d.stop order) other .stop (.taken none state.pending) := by
      intro q stage
      cases q with
      | job m =>
        refine iff_of_false (fun hh => free (.job m) stage ((hjobs m).symm.trans hh)) ?_
        simp
      | stop =>
        rw [hlater stage]
        simp [found, idle]
    refine .flushing hheld rfl ?_ rfl out
    simp [state_stop hnodup horder, found, Debouncer.keepDraining, idle]
  | @draining state p stage ver held found busy hver le out =>
    have hheld : HeldBy (d.stop order) other p stage := by
      intro q stage'
      cases q with
      | job m =>
        refine Iff.trans ?_ (held (.job m) stage')
        simp only [Holds, hjobs m]
      | stop =>
        rw [← held .stop stage', hlater stage']
        refine iff_of_false (fun hh => ?_) (hstop stage')
        obtain ⟨state', -, hsome, hidle'⟩ := hh
        obtain rfl := Option.some.inj (found.symm.trans hsome)
        cases busy.symm.trans hidle'
    have hkept : (d.stop order).state other = some { state with timer := none } := by
      simp [state_stop hnodup horder, found, Debouncer.keepDraining, busy]
    exact .draining hheld hkept busy hver le out

theorem situation_stopFlush (hinv : Invariant d) (h : d.stopping = .flush ((id, event) :: rest)) :
    Situation ({ d with stopping := .flushing id event rest }.record id event) other := by
  have hnodup := hinv.flushes
  rw [h] at hnodup
  simp only [Stopping.current, Stopping.rest, Option.toList_none, List.nil_append, List.map_cons,
    List.nodup_cons] at hnodup
  have hholds : ∀ stage, Holds ({ d with stopping := .flushing id event rest }.record id event)
      other stage .stop ↔ (other = id ∧ stage = .publishing none event) ∨
        (other ≠ id ∧ Holds d other stage .stop) := by
    intro stage
    cases stage with
    | taken ver event' =>
      cases ver with
      | some v => simp [Holds]
      | none =>
        by_cases hother : other = id
        · subst hother
          have hgone : (other, event') ∉ rest := fun hmem =>
            hnodup.1 (List.mem_map_of_mem hmem)
          simp [Holds, Debouncer.record, hgone]
        · simp [Holds, Debouncer.record, h, hother]
    | publishing ver event' =>
      cases ver with
      | some v => simp [Holds]
      | none =>
        by_cases hother : other = id
        · subst hother
          simp [Holds, Debouncer.record, eq_comm]
        · simp [Holds, Debouncer.record, h, hother, Ne.symm hother]
    | returned ver => simp [Holds]
  by_cases hother : other = id
  · subst hother
    have hmine : Holds d other (.taken none event) .stop := by
      simp [Holds, h]
    obtain ⟨held, halted, hstate, out⟩ := (hinv.situation other).of_flush hmine rfl
    have hnext : HeldBy ({ d with stopping := .flushing other event rest }.record other event)
        other .stop (.publishing none event) := by
      intro q stage
      cases q with
      | stop => simp [hholds stage]
      | job m =>
        have hnot : ¬ Holds d other stage (.job m) := by simp [held (.job m) stage]
        exact iff_of_false hnot (by simp)
    refine .flushing hnext halted hstate rfl ?_
    simpa [Debouncer.record] using out
  · refine (hinv.situation other).frame rfl rfl (fun stage p => ?_) (fun _ _ _ _ hv => hv) rfl
      (of_other (Ne.symm hother) event)
    cases p with
    | job m => exact Iff.rfl
    | stop => simp [hholds stage, hother]

theorem situation_stopFlushed (hinv : Invariant d) (h : d.stopping = .flushing id event rest) :
    Situation { d with stopping := .flush rest } other := by
  have hnodup := hinv.flushes
  rw [h] at hnodup
  simp only [Stopping.current, Stopping.rest, Option.toList_some, List.cons_append,
    List.nil_append, List.map_cons, List.nodup_cons] at hnodup
  by_cases hother : other = id
  · subst hother
    have hmine : Holds d other (.publishing none event) .stop := by
      simp [Holds, h]
    obtain ⟨held, halted, hstate, out⟩ := (hinv.situation other).of_flush hmine rfl
    refine .absent (fun q stage hh => ?_) hstate (by simpa using out)
    cases q with
    | job m =>
      have hnot : ¬ Holds d other stage (.job m) := by simp [held (.job m) stage]
      exact hnot hh
    | stop =>
      cases stage with
      | taken ver event' =>
        cases ver with
        | some v => exact hh
        | none => exact hnodup.1 (List.mem_map_of_mem hh)
      | publishing ver event' =>
        cases ver with
        | some v => exact hh
        | none => cases hh
      | returned ver => exact hh
  · refine (hinv.situation other).frame rfl rfl (fun stage p => ?_) (fun _ _ _ _ hv => hv) rfl rfl
    cases p with
    | job m => exact Iff.rfl
    | stop =>
      cases stage with
      | taken ver event' => cases ver <;> simp [Holds, h]
      | publishing ver event' =>
        cases ver <;> simp [Holds, h, Ne.symm hother]
      | returned ver => exact Iff.rfl

theorem situation_wait (h : d.stopping = .flush []) (hs : Situation d other) :
    Situation { d with stopping := .returned } other := by
  refine hs.frame rfl rfl (fun stage p => ?_) (fun _ _ _ _ hv => hv) rfl rfl
  cases p with
  | job m => exact Iff.rfl
  | stop =>
    cases stage with
    | taken ver event' => cases ver <;> simp [Holds, h]
    | publishing ver event' => cases ver <;> simp [Holds, h]
    | returned ver => exact Iff.rfl

theorem Invariant.of_move {job old : Job E} (h : Invariant d) (hold : d.jobs n = old)
    (hmade : old ≠ .unmade) (hjobs : d'.jobs = Function.update d.jobs n job)
    (hjob : ∀ id ver, job ≠ .armed id ver) (htimers : d'.timers = d.timers)
    (hstopped : d'.stopped = d.stopped) (hstopping : d'.stopping = d.stopping)
    (hinstances : ∀ id state m, d'.state id = some state → state.timer = some m →
      ∃ old, d.state id = some old ∧ old.timer = some m) (hsituation : ∀ id, Situation d' id) :
    Invariant d' where
  situation := hsituation
  timer := by
    intro id state m hstate htimer
    obtain ⟨state', hstate', htimer'⟩ := hinstances id state m hstate htimer
    obtain ⟨hlt, howner⟩ := h.timer id state' m hstate' htimer'
    refine ⟨htimers ▸ hlt, fun other ver harmed => ?_⟩
    rw [hjobs] at harmed
    by_cases hm : m = n
    · subst hm
      exact absurd (Function.update_self m job d.jobs ▸ harmed) (hjob other ver)
    · exact howner other ver (Function.update_of_ne hm job d.jobs ▸ harmed)
  unmade := by
    intro m hm
    have hlt := h.made (hold ▸ hmade)
    have hne : m ≠ n := by omega
    rw [hjobs, Function.update_of_ne hne]
    exact h.unmade m (htimers ▸ hm)
  running := by rw [hstopped, hstopping, h.running]
  flushes := hstopping ▸ h.flushes

theorem put_timer {id' : String} {new : Option (InstanceState E)} {old : InstanceState E}
    (hold : d.state id' = some old)
    (hnew : ∀ state m, new = some state → state.timer = some m → old.timer = some m) :
    ∀ id state m, (d.put id' new).state id = some state → state.timer = some m →
      ∃ old, d.state id = some old ∧ old.timer = some m := by
  intro id state m hstate htimer
  change (write d.instances id' new).lookup id = some state at hstate
  by_cases hid : id = id'
  · subst hid
    rw [lookup_write] at hstate
    exact ⟨old, hold, hnew state m hstate htimer⟩
  · rw [lookup_write_other hid] at hstate
    exact ⟨state, hstate, htimer⟩

theorem invariant_beginPublish (hinv : Invariant d) (h : d.jobs n = .called id ver) :
    Invariant (d.beginPublish n id ver) := by
  have hs : ∀ other, Situation (d.beginPublish n id ver) other :=
    fun other => situation_beginPublish h hinv.situation
  unfold Debouncer.beginPublish at hs ⊢
  cases found : d.state id with
  | none =>
    simp only [found] at hs ⊢
    exact hinv.of_move h (by simp) rfl (by simp) rfl rfl rfl
      (fun _ state _ hstate ht => ⟨state, hstate, ht⟩) hs
  | some state =>
    simp only [found] at hs ⊢
    split at hs
    · rename_i hready
      rw [if_pos hready]
      refine hinv.of_move h (by simp) rfl (by simp) rfl rfl rfl
        (put_timer found fun _ _ hnew htimer => ?_) hs
      obtain rfl := Option.some.inj hnew
      cases htimer
    · rename_i hrefused
      rw [if_neg hrefused]
      exact hinv.of_move h (by simp) rfl (by simp) rfl rfl rfl
        (fun _ state _ hstate ht => ⟨state, hstate, ht⟩) hs

theorem invariant_endPublish (hinv : Invariant d) (h : d.jobs n = .published id ver) :
    Invariant (d.endPublish n id ver) := by
  have hs : ∀ other, Situation (d.endPublish n id ver) other :=
    fun other => situation_endPublish h hinv.situation
  unfold Debouncer.endPublish at hs ⊢
  cases found : d.state id with
  | none =>
    simp only [found] at hs ⊢
    exact hinv.of_move h (by simp) rfl (by simp) rfl rfl rfl
      (fun _ state _ hstate ht => ⟨state, hstate, ht⟩) hs
  | some state =>
    simp only [found] at hs ⊢
    by_cases hnewer : ver < state.ver
    · rw [if_pos hnewer] at hs ⊢
      by_cases halted : d.stopped = true
      · rw [if_pos halted] at hs ⊢
        exact hinv.of_move h (by simp) rfl (by simp) rfl rfl rfl (put_timer found nofun) hs
      · rw [if_neg halted] at hs ⊢
        refine hinv.of_move h (by simp) rfl (by simp) rfl rfl rfl
          (put_timer found fun _ _ hnew htimer => ?_) hs
        obtain rfl := Option.some.inj hnew
        exact htimer
    · rw [if_neg hnewer] at hs ⊢
      exact hinv.of_move h (by simp) rfl (by simp) rfl rfl rfl (put_timer found nofun) hs

theorem invariant_submit (hinv : Invariant d) (hrunning : d.stopped = false) :
    Invariant (d.submit id event) := by
  have hs : ∀ other, Situation (d.submit id event) other :=
    fun other => situation_submit hinv hrunning
  unfold Debouncer.submit at hs ⊢
  generalize hold : (d.state id).getD ⟨none, event, 0, false⟩ = old at hs ⊢
  have holdTimer : ∀ m, old.timer = some m →
      m < d.timers ∧ ∀ other ver, d.jobs m = .armed other ver → other = id := by
    intro m hm
    cases found : d.state id with
    | none =>
      rw [found, Option.getD_none] at hold
      rw [← hold] at hm
      cases hm
    | some state =>
      rw [found, Option.getD_some] at hold
      exact hinv.timer id old m (hold ▸ found) hm
  dsimp only at hs ⊢
  by_cases hdraining : old.draining = true
  · rw [if_pos hdraining] at hs ⊢
    refine ⟨hs, fun other state m hstate htimer => ?_, hinv.unmade, hinv.running, hinv.flushes⟩
    change (write d.instances id _).lookup other = some state at hstate
    by_cases hother : other = id
    · subst hother
      rw [lookup_write, Option.some.injEq] at hstate
      exact holdTimer m (by rwa [← hstate] at htimer)
    · rw [lookup_write_other hother] at hstate
      exact hinv.timer other state m hstate htimer
  · rw [if_neg hdraining] at hs ⊢
    have hkept : ∀ m, m < d.timers → ∀ other ver,
        Function.update (cancel d.jobs old.timer) d.timers (.armed id (old.ver + 1)) m =
          .armed other ver → d.jobs m = .armed other ver := by
      intro m hm other ver harmed
      rw [Function.update_of_ne (by omega)] at harmed
      rcases cancel_cases d.jobs old.timer m with hsame | ⟨-, hended, -⟩
      · exact hsame ▸ harmed
      · rw [hended] at harmed
        cases harmed
    refine ⟨hs, fun other state m hstate htimer => ?_, fun m hm => ?_, hinv.running, hinv.flushes⟩
    · change (write d.instances id _).lookup other = some state at hstate
      by_cases hother : other = id
      · subst hother
        rw [lookup_write, Option.some.injEq] at hstate
        rw [← hstate] at htimer
        obtain rfl := Option.some.inj htimer
        refine ⟨Nat.lt_succ_self _, fun id' ver harmed => ?_⟩
        dsimp only at harmed
        rw [Function.update_self] at harmed
        exact (Job.armed.inj harmed).1.symm
      · rw [lookup_write_other hother] at hstate
        obtain ⟨hlt, howner⟩ := hinv.timer other state m hstate htimer
        exact ⟨Nat.lt_succ_of_lt hlt, fun id' ver harmed =>
          howner id' ver (hkept m hlt id' ver harmed)⟩
    · have hm : d.timers + 1 ≤ m := hm
      have hunmade := hinv.unmade m (by omega)
      dsimp only
      rw [Function.update_of_ne (by omega)]
      rcases cancel_cases d.jobs old.timer m with hsame | ⟨-, -, id', ver, harmed⟩
      · rw [hsame, hunmade]
      · rw [hunmade] at harmed
        cases harmed

theorem invariant_stop (hinv : Invariant d) (hidle : d.stopping = .idle) (hnodup : order.Nodup)
    (horder : order.toFinset = d.instances.keys) :
    Invariant (d.stop order) where
  situation _ := situation_stop hinv hidle hnodup horder
  timer := by
    intro id state m hstate htimer
    rw [state_stop hnodup horder] at hstate
    obtain ⟨old, -, hkept⟩ := Option.bind_eq_some_iff.mp hstate
    unfold Debouncer.keepDraining at hkept
    split at hkept
    · rw [← Option.some.inj hkept] at htimer
      cases htimer
    · cases hkept
  unmade := by
    intro m hm
    have hunmade := hinv.unmade m hm
    rcases cancelAll_cases (fun id => (d.state id).bind (·.timer)) order d.jobs m with
      h | ⟨-, id, ver, harmed⟩
    · exact h.trans hunmade
    · cases hunmade.symm.trans harmed
  running := iff_of_false nofun nofun
  flushes := toFlush_nodup hnodup

end Steps

theorem invariant_newDebouncer : Invariant (newDebouncer : Debouncer E) where
  situation id := by
    refine .absent (fun p stage hh => ?_) rfl .nil
    cases p with
    | job m => cases hh
    | stop =>
      cases stage with
      | taken ver event => cases ver <;> cases hh
      | publishing ver event => cases ver <;> cases hh
      | returned ver => cases hh
  timer := nofun
  unmade _ _ := rfl
  running := iff_of_true rfl rfl
  flushes := List.nodup_nil

theorem invariant_step {d d' : Debouncer E} {a : Action E} (hinv : Invariant d)
    (hstep : Step d a d') : Invariant d' := by
  have same : ∀ id state m, d.state id = some state → state.timer = some m →
      ∃ old, d.state id = some old ∧ old.timer = some m :=
    fun id state m hstate htimer => ⟨state, hstate, htimer⟩
  cases hstep with
  | submit id event h => exact invariant_submit hinv h
  | ignore => exact hinv
  | fire h =>
    exact hinv.of_move h (by simp) rfl (by simp) rfl rfl rfl same
      fun other => situation_fire h (hinv.situation other)
  | beginPublish h => exact invariant_beginPublish hinv h
  | publish h =>
    exact hinv.of_move h (by simp) rfl (by simp) rfl rfl rfl same
      fun other => situation_publish h (hinv.situation other)
  | published h =>
    exact hinv.of_move h (by simp) rfl (by simp) rfl rfl rfl same
      fun other => situation_published h (hinv.situation other)
  | endPublish h => exact invariant_endPublish hinv h
  | flush h =>
    exact hinv.of_move h (by simp) rfl (by simp) rfl rfl rfl same
      fun other => situation_flush h (hinv.situation other)
  | flushed h =>
    exact hinv.of_move h (by simp) rfl (by simp) rfl rfl rfl same
      fun other => situation_flushed h (hinv.situation other)
  | stop order h hnodup horder => exact invariant_stop hinv h hnodup horder
  | stopFlush h =>
    have hrunning : d.stopped ≠ false := by simp [hinv.running, h]
    refine ⟨fun _ => situation_stopFlush hinv h, hinv.timer, hinv.unmade,
      iff_of_false hrunning nofun, ?_⟩
    simpa [h, Debouncer.record] using hinv.flushes
  | stopFlushed h =>
    have hrunning : d.stopped ≠ false := by simp [hinv.running, h]
    refine ⟨fun _ => situation_stopFlushed hinv h, hinv.timer, hinv.unmade,
      iff_of_false hrunning nofun, ?_⟩
    have hflushes := hinv.flushes
    simp only [h, Stopping.current, Stopping.rest, Option.toList_some, List.cons_append,
      List.nil_append, List.map_cons, List.nodup_cons] at hflushes
    exact hflushes.2
  | wait h hwg =>
    have hrunning : d.stopped ≠ false := by simp [hinv.running, h]
    exact ⟨fun other => situation_wait h (hinv.situation other), hinv.timer, hinv.unmade,
      iff_of_false hrunning nofun, List.nodup_nil⟩

theorem run_invariant {d : Debouncer E} {l : List (Action E)} (h : Run Step newDebouncer l d) :
    Invariant d :=
  h.preserves invariant_newDebouncer fun _ _ _ hinv hstep => invariant_step hinv hstep

def Publishing (d : Debouncer E) (id : String) (p : Party) : Prop :=
  ∃ ver event, Holds d id (.publishing ver event) p

structure Quiescent (d : Debouncer E) : Prop where
  jobs : ∀ n, d.jobs n = .unmade ∨ d.jobs n = .ended
  stopping : d.stopping = .idle ∨ d.stopping = .returned

theorem Situation.unique {d : Debouncer E} {id : String} {p q : Party} {stage other : Stage E}
    (h : Situation d id) (hp : Holds d id stage p) (hq : Holds d id other q) : p = q := by
  cases h with
  | absent free => exact absurd hp (free p stage)
  | waiting free => exact absurd hp (free p stage)
  | draining held | flushing held =>
    exact ((held p stage).mp hp).1.trans ((held q other).mp hq).1.symm

theorem Quiescent.free {d : Debouncer E} (h : Quiescent d) (id : String) : Free d id := by
  intro p stage hh
  cases p with
  | job n =>
    rcases h.jobs n with hjob | hjob
    · simp [Holds, hjob] at hh
    · simp [Holds, hjob] at hh
  | stop =>
    cases stage with
    | taken ver event =>
      cases ver <;> rcases h.stopping with hstop | hstop <;>
        simp [Holds, hstop] at hh
    | publishing ver event =>
      cases ver <;> rcases h.stopping with hstop | hstop <;>
        simp [Holds, hstop] at hh
    | returned ver => exact hh

theorem Quiescent.settled {d : Debouncer E} (h : Quiescent d) {id : String}
    (hs : Situation d id) : Coalesces (of id d.published) (of id d.accepted) := by
  cases hs with
  | absent free state out => exact out
  | waiting free running found idle carried out =>
    obtain ⟨n, hn⟩ := carried
    rcases h.jobs n with hjob | hjob <;> simp [hjob] at hn
  | @draining state p stage ver held =>
    exact absurd ((held p stage).mpr ⟨rfl, rfl⟩) (h.free id p stage)
  | @flushing p stage held =>
    exact absurd ((held p stage).mpr ⟨rfl, rfl⟩) (h.free id p stage)

theorem Situation.sublist {d : Debouncer E} {id : String} (h : Situation d id) :
    (of id d.published).Sublist (of id d.accepted) := by
  cases h with
  | absent free state out => exact out.sublist
  | waiting free running found idle carried out =>
    exact (List.sublist_append_left _ _).trans out.sublist
  | draining held found busy hver le out =>
    rw [List.append_assoc] at out
    exact (List.sublist_append_left _ _).trans out.sublist
  | flushing held halted state hver out => exact (List.sublist_append_left _ _).trans out.sublist

/-- In every run the publishes of an instance do not overlap and are a subsequence of its accepted
events, which ends with the last of them once nothing is left to do. -/
theorem debouncer_serialises {d : Debouncer E} {l : List (Action E)}
    (h : Run Step newDebouncer l d) (id : String) :
    (∀ p q, Publishing d id p → Publishing d id q → p = q) ∧
      (of id d.published).Sublist (of id d.accepted) ∧
      (Quiescent d → (of id d.published).getLast? = (of id d.accepted).getLast?) := by
  have hs := (run_invariant h).situation id
  refine ⟨fun p q hp hq => ?_, hs.sublist, fun hq => (hq.settled hs).last⟩
  obtain ⟨ver, event, hp⟩ := hp
  obtain ⟨ver', event', hq⟩ := hq
  exact hs.unique hp hq

def busyMoves : List (Move ℕ) :=
  [.submit "a" 1, .job 0, .submit "a" 2, .job 1, .job 1, .job 1, .submit "a" 3, .job 0] ++
    List.replicate 6 (.job 1)

def busyPlay : List (Action ℕ) × Debouncer ℕ :=
  playMoves Debouncer.next newDebouncer busyMoves

theorem busyPlay_quiescent : Quiescent busyPlay.2 := by
  refine ⟨fun n => ?_, .inl (by decide +kernel)⟩
  have htimers : busyPlay.2.timers = 2 := by decide +kernel
  have hinv : Invariant busyPlay.2 := run_invariant (run_playMoves _ step_next _ _)
  match n with
  | 0 => exact .inr (by decide +kernel)
  | 1 => exact .inr (by decide +kernel)
  | n + 2 => exact .inl (hinv.unmade _ (by omega))

theorem debouncer_serialises_busy :
    of "a" busyPlay.2.published = [2, 3] ∧ of "a" busyPlay.2.accepted = [1, 2, 3] ∧
      (of "a" busyPlay.2.published).getLast? = (of "a" busyPlay.2.accepted).getLast? :=
  ⟨by decide +kernel, by decide +kernel,
    (debouncer_serialises (run_playMoves _ step_next _ _) "a").2.2 busyPlay_quiescent⟩

end DebouncerOrder
