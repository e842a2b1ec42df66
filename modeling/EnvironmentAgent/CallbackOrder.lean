import EnvironmentAgent.HealthMonitor
import Mathlib.Data.List.Chain

/-! # The order of the transition callbacks

A change of state is recorded under `m.mu`; the callback is made after the section, by whoever
recorded it. -/
namespace CallbackOrder

open LabelledRuns HealthMonitor
open ProviderState (HealthState)

variable {l : List Event} {m u v : Monitor} {e : Event} {w w' : Worker} {sm sm' : ℕ}
  {t t' : Transition} {failureThreshold : ℤ} {tracker : String → Option HealthState}

def changeOf (sm : ℕ) : Event → Option Transition
  | .recorded _ _ sm' t => if sm' = sm ∧ t.1 ≠ t.2 then some t else none
  | _ => none

def callbackOf (sm : ℕ) : Event → Option Transition
  | .called _ sm' t => if sm' = sm then some t else none
  | _ => none

def changes (sm : ℕ) (l : List Event) : List Transition := l.filterMap (changeOf sm)

def callbacks (sm : ℕ) (l : List Event) : List Transition := l.filterMap (callbackOf sm)

theorem changes_snoc : changes sm (l ++ [e]) = changes sm l ++ (changeOf sm e).toList := by
  rw [changes, List.filterMap_append, changes]
  cases h : changeOf sm e <;> simp [h]

theorem callbacks_snoc : callbacks sm (l ++ [e]) = callbacks sm l ++ (callbackOf sm e).toList := by
  rw [callbacks, List.filterMap_append, callbacks]
  cases h : callbackOf sm e <;> simp [h]

theorem changes_same (h : changeOf sm e = none) : changes sm (l ++ [e]) = changes sm l := by
  rw [changes_snoc, h, Option.toList_none, List.append_nil]

theorem callbacks_same (h : callbackOf sm e = none) : callbacks sm (l ++ [e]) = callbacks sm l := by
  rw [callbacks_snoc, h, Option.toList_none, List.append_nil]

def Follow (a b : Transition) : Prop := a.2 = b.1

instance : DecidableRel Follow := fun a b => inferInstanceAs (Decidable (a.2 = b.1))

structure Tracks (l : List Event) (m : Monitor) (sm : ℕ) : Prop where
  chain : (changes sm l).IsChain Follow
  last : ∀ t ∈ (changes sm l).getLast?, t.2 = (m.machines sm).state

theorem Tracks.frame (h : Tracks l m sm) (he : changeOf sm e = none)
    (hm : v.machines sm = m.machines sm) : Tracks (l ++ [e]) v sm := by
  constructor
  · rw [changes_same he]
    exact h.chain
  · rw [changes_same he, hm]
    exact h.last

theorem changeOf_none_of_registration (h : ∀ id, e.registration ≠ some (id, sm)) :
    changeOf sm e = none := by
  cases e with
  | recorded w id sm' t =>
    have hne : sm' ≠ sm := by
      intro heq
      exact h id (by rw [heq]; rfl)
    simp [changeOf, hne]
  | _ => rfl

theorem changes_unallocated (hp : Provenance l m) (h : m.allocated ≤ sm) : changes sm l = [] := by
  apply List.filterMap_eq_nil_iff.mpr
  intro e he
  apply changeOf_none_of_registration
  intro id heq
  have := (hp.registered (hp.event he heq)).1
  omega

variable {result : HealthCheckResult} {now : ProviderState.Time} {c : Check}

theorem Tracks.record (h : Tracks l m c.sm) :
    Tracks (l ++ [.recorded w c.id c.sm (m.transition c result)]) (m.record w c result now)
      c.sm := by
  have hstate : ((m.record w c result now).machines c.sm).state = (m.transition c result).2 := by
    rw [Monitor.record]
    dsimp only
    rw [Function.update_self]
    rfl
  have hbefore : (m.transition c result).1 = (m.machines c.sm).state := rfl
  by_cases hne : (m.transition c result).1 ≠ (m.transition c result).2
  · have hchange : changeOf c.sm (.recorded w c.id c.sm (m.transition c result)) =
        some (m.transition c result) := by simp [changeOf, hne]
    constructor
    · rw [changes_snoc, hchange, Option.toList_some, List.isChain_append]
      refine ⟨h.chain, List.isChain_singleton _, ?_⟩
      intro a ha b hb
      obtain rfl := Option.some.inj hb
      exact (h.last a ha).trans hbefore.symm
    · rw [changes_snoc, hchange, hstate]
      simp
  · rw [not_not] at hne
    have hchange : changeOf c.sm (.recorded w c.id c.sm (m.transition c result)) = none := by
      simp [changeOf, hne]
    constructor
    · rw [changes_same hchange]
      exact h.chain
    · rw [changes_same hchange, hstate, ← hne, hbefore]
      exact h.last

theorem tracks_step (hp : Provenance l m) (h : Tracks l m sm) (hstep : Step m e v) :
    Tracks (l ++ [e]) v sm := by
  cases hstep with
  | @register id =>
    by_cases hlt : sm < m.allocated
    · exact h.frame rfl (Monitor.registerProvider_machines hlt)
    · have hnil : changes sm (l ++ [.registered id m.allocated]) = [] :=
        (changes_same rfl).trans (changes_unallocated hp (by omega))
      constructor
      · rw [hnil]
        exact .nil
      · rw [hnil]
        simp
  | refuse entry initialState initialCheck hs =>
    exact h.frame rfl (by rw [Monitor.registerProvider_of_stopped hs])
  | @record w c result now =>
    by_cases heq : sm = c.sm
    · subst heq
      exact h.record
    · exact h.frame (by simp [changeOf, Ne.symm heq]) (Function.update_of_ne heq ..)
  | deregister | startRound | endRound | discard | call | stop | track | forget =>
    exact h.frame rfl rfl

theorem run_tracks (h : Run Step (newMonitor failureThreshold tracker) l m) (sm : ℕ) :
    Tracks l m sm := by
  have hinv : Provenance l m ∧ Tracks l m sm := by
    apply h.invariant (I := fun l m => Provenance l m ∧ Tracks l m sm)
    · exact ⟨provenance_newMonitor, .nil, by simp [changes]⟩
    · rintro l u e v ⟨hp, ht⟩ hstep
      exact ⟨provenance_step hp hstep, tracks_step hp ht hstep⟩
  exact hinv.2

def Calling (m : Monitor) (w : Worker) (sm : ℕ) (t : Transition) : Prop :=
  ∃ c, m.checks w = some c ∧ c.sm = sm ∧ c.phase = .calling t

def Quiet (m : Monitor) (sm : ℕ) : Prop := ∀ w t, ¬Calling m w sm t

/-- A state change is recorded only while no callback of the same registration is outstanding. -/
def Ordered (m : Monitor) (e : Event) : Prop :=
  ∀ w id sm t, e = .recorded w id sm t → t.1 ≠ t.2 → Quiet m sm

theorem Calling.unique (h : Calling m w sm t) (h' : Calling m w sm' t') : t = t' := by
  obtain ⟨c, hc, -, ht⟩ := h
  obtain ⟨c', hc', -, ht'⟩ := h'
  obtain rfl := Option.some.inj (hc.symm.trans hc')
  exact Phase.calling.inj (ht.symm.trans ht')

theorem calling_congr (h : v.checks w = m.checks w) : Calling v w sm t ↔ Calling m w sm t := by
  rw [Calling, Calling, h]

theorem not_calling_none (h : m.checks w = none) : ¬Calling m w sm t := by
  rintro ⟨c, hc, -⟩
  rw [h] at hc
  cases hc

theorem not_calling_checking (h : m.checks w = some c) (hp : c.phase = .checking) :
    ¬Calling m w sm t := by
  rintro ⟨d, hd, -, ht⟩
  obtain rfl := Option.some.inj (h.symm.trans hd)
  rw [hp] at ht
  cases ht

theorem calling_leave : Calling (m.leave w) w' sm t ↔ w' ≠ w ∧ Calling m w' sm t := by
  constructor
  · rintro ⟨c, hc, h⟩
    obtain ⟨hne, hc⟩ := Monitor.leave_checks_some hc
    exact ⟨hne, c, hc, h⟩
  · rintro ⟨hne, h⟩
    exact (calling_congr (Monitor.leave_checks_ne hne)).mpr h

theorem calling_record (hc : m.checks w = some c) (hp : c.phase = .checking) :
    Calling (m.record w c result now) w' sm t ↔
      w' = w ∧ sm = c.sm ∧ t = m.transition c result ∧ t.1 ≠ t.2 ∨ Calling m w' sm t := by
  by_cases heq : w' = w
  · subst heq
    constructor
    · rintro ⟨d, hd, rfl, ht⟩
      rw [Monitor.record_checks_self] at hd
      obtain ⟨hne, rfl⟩ := followUp_some hd
      obtain rfl := Phase.calling.inj ht
      exact Or.inl ⟨rfl, rfl, rfl, hne⟩
    · rintro (⟨-, rfl, rfl, hne⟩ | h)
      · refine ⟨{ c with phase := .calling (m.transition c result) }, ?_, rfl, rfl⟩
        rw [Monitor.record_checks_self, Monitor.followUp, if_pos hne]
      · exact absurd h (not_calling_checking hc hp)
  · rw [calling_congr (Monitor.record_checks_ne heq)]
    simp [heq]

def InOrder (l : List Event) (m : Monitor) (sm : ℕ) : Prop :=
  (∃ w t, Calling m w sm t ∧ (∀ w' t', Calling m w' sm t' → w' = w) ∧
    changes sm l = callbacks sm l ++ [t]) ∨
  (Quiet m sm ∧ changes sm l = callbacks sm l)

theorem InOrder.frame (h : InOrder l m sm) (hchange : changeOf sm e = none)
    (hcallback : callbackOf sm e = none) (hcalling : ∀ w t, Calling v w sm t ↔ Calling m w sm t) :
    InOrder (l ++ [e]) v sm := by
  rw [InOrder, changes_same hchange, callbacks_same hcallback, Quiet]
  simp only [hcalling]
  exact h

theorem InOrder.record (h : InOrder l m sm) (hc : m.checks w = some c) (hp : c.phase = .checking)
    (hordered : Ordered m (.recorded w c.id c.sm (m.transition c result))) :
    InOrder (l ++ [.recorded w c.id c.sm (m.transition c result)]) (m.record w c result now)
      sm := by
  by_cases hown : sm = c.sm ∧ (m.transition c result).1 ≠ (m.transition c result).2
  · obtain ⟨rfl, hne⟩ := hown
    have hquiet := hordered w c.id c.sm _ rfl hne
    have heq : changes c.sm l = callbacks c.sm l := by
      rcases h with ⟨w', t, hcalling, -⟩ | ⟨-, heq⟩
      · exact absurd hcalling (hquiet w' t)
      · exact heq
    left
    refine ⟨w, _, (calling_record hc hp).mpr (Or.inl ⟨rfl, rfl, rfl, hne⟩), ?_, ?_⟩
    · intro w' t' hcalling
      rcases (calling_record hc hp).mp hcalling with ⟨rfl, -⟩ | hcalling
      · rfl
      · exact absurd hcalling (hquiet w' t')
    · rw [changes_snoc, callbacks_same rfl, heq]
      simp [changeOf, hne]
  · have hnone : changeOf sm (.recorded w c.id c.sm (m.transition c result)) = none := by
      apply if_neg
      rintro ⟨heq, hne⟩
      exact hown ⟨heq.symm, hne⟩
    apply h.frame hnone rfl
    intro w' t
    rw [calling_record hc hp]
    constructor
    · rintro (⟨-, heq, rfl, hne⟩ | hcalling)
      · exact absurd ⟨heq, hne⟩ hown
      · exact hcalling
    · exact Or.inr

theorem InOrder.call (h : InOrder l m sm) (hc : m.checks w = some c) (hp : c.phase = .calling t) :
    InOrder (l ++ [.called c.id c.sm t]) (m.leave w) sm := by
  have hcalling : Calling m w c.sm t := ⟨c, hc, rfl, hp⟩
  by_cases heq : sm = c.sm
  · subst heq
    rcases h with ⟨w₀, t₀, hcalling₀, hone, hlog⟩ | ⟨hquiet, -⟩
    · obtain rfl := hone w t hcalling
      obtain rfl := hcalling.unique hcalling₀
      right
      constructor
      · intro w' t' hleft
        obtain ⟨hne, hleft⟩ := calling_leave.mp hleft
        exact hne (hone w' t' hleft)
      · rw [changes_same rfl, callbacks_snoc, hlog]
        simp [callbackOf]
    · exact absurd hcalling (hquiet w t)
  · apply h.frame rfl (by simp [callbackOf, Ne.symm heq])
    intro w' t'
    rw [calling_leave]
    constructor
    · exact And.right
    · intro hcalling'
      refine ⟨?_, hcalling'⟩
      rintro rfl
      obtain ⟨d, hd, hsm, -⟩ := hcalling'
      obtain rfl := Option.some.inj (hc.symm.trans hd)
      exact heq hsm.symm

theorem inOrder_step (hp : Provenance l m) (h : InOrder l m sm) (hordered : Ordered m e)
    (hstep : Step m e v) : InOrder (l ++ [e]) v sm := by
  cases hstep with
  | @register id entry initialState initialCheck hid hs =>
    apply h.frame rfl rfl
    intro w t
    by_cases heq : w = .initial m.allocated
    · subst heq
      constructor
      · rintro ⟨c, hc, -, ht⟩
        rw [Monitor.registerProvider_check hs] at hc
        split at hc
        · obtain rfl := Option.some.inj hc
          cases ht
        · cases hc
      · rintro ⟨c, hc, -⟩
        -- the cell is a new one
        obtain ⟨hreg, hserves⟩ := hp.check hc
        have hlt := (hp.registered hreg).1
        have heq : c.sm = m.allocated := hserves
        omega
    · exact calling_congr (Monitor.registerProvider_checks heq)
  | refuse _ _ _ hs =>
    rw [Monitor.registerProvider_of_stopped hs]
    exact h.frame rfl rfl fun _ _ => Iff.rfl
  | startRound hr =>
    apply h.frame rfl rfl
    intro w t
    cases w with
    | initial sm => exact calling_congr rfl
    | periodic id =>
      constructor
      · rintro ⟨c, hc, -, ht⟩
        obtain ⟨entry, -, rfl⟩ := Option.map_eq_some_iff.mp hc
        cases ht
      · intro hcalling
        exact absurd hcalling (not_calling_none (hp.idle hr id))
  | record result now hc hphase => exact h.record hc hphase hordered
  | @discard w c hc hphase =>
    apply h.frame rfl rfl
    intro w' t
    rw [calling_leave]
    constructor
    · exact And.right
    · intro hcalling
      refine ⟨?_, hcalling⟩
      rintro rfl
      exact not_calling_checking hc hphase hcalling
  | call hc hphase => exact h.call hc hphase
  | deregister | endRound | stop | track | forget =>
    exact h.frame rfl rfl fun _ _ => Iff.rfl

theorem run_inOrder (h : Run (Guarded Step Ordered) (newMonitor failureThreshold tracker) l m)
    (sm : ℕ) : InOrder l m sm := by
  have hinv : Provenance l m ∧ InOrder l m sm := by
    apply h.invariant (I := fun l m => Provenance l m ∧ InOrder l m sm)
    · refine ⟨provenance_newMonitor, Or.inr ⟨?_, rfl⟩⟩
      intro w t
      exact not_calling_none rfl
    · rintro l u e v ⟨hp, ho⟩ ⟨hordered, hstep⟩
      exact ⟨provenance_step hp hstep, inOrder_step hp ho hordered hstep⟩
  exact hinv.2

theorem InOrder.callbacks_le (h : InOrder l m sm) : callbacks sm l <+: changes sm l := by
  rcases h with ⟨w, t, -, -, hlog⟩ | ⟨-, hlog⟩
  · exact ⟨[t], hlog.symm⟩
  · exact hlog ▸ List.prefix_refl _

theorem InOrder.next (hp : Provenance l m) (h : InOrder l m sm) (hstep : Step m e v) :
    callbacks sm (l ++ [e]) <+: changes sm (l ++ [e]) := by
  by_cases hrec : ∃ w id sm' t, e = .recorded w id sm' t
  · obtain ⟨w, id, sm', t, rfl⟩ := hrec
    rw [callbacks_same rfl, changes_snoc]
    exact h.callbacks_le.trans (List.prefix_append _ _)
  · apply InOrder.callbacks_le (m := v)
    apply inOrder_step hp h ?_ hstep
    intro w id sm' t heq
    exact absurd ⟨w, id, sm', t, heq⟩ hrec

theorem overtakes (h : ∀ sm, InOrder l m sm) (htracks : ∀ sm, Tracks l m sm) (hstep : Step m e v)
    (hordered : ¬Ordered m e) :
    ∃ e' u, Step v e' u ∧
      ∃ sm, ¬callbacks sm (l ++ [e] ++ [e']) <+: changes sm (l ++ [e] ++ [e']) := by
  simp only [Ordered, not_forall] at hordered
  obtain ⟨w, id, sm, t, rfl, hne, hbusy⟩ := hordered
  cases hstep with
  | @record _ c result now hc hphase =>
    rcases h c.sm with ⟨w₀, t₀, -, -, hlog⟩ | ⟨hquiet, -⟩
    · obtain ⟨d, hd, hsm, hcall⟩ : Calling (m.record w c result now) w c.sm _ :=
        (calling_record hc hphase).mpr (Or.inl ⟨rfl, rfl, rfl, hne⟩)
      refine ⟨_, _, .call hd hcall, c.sm, ?_⟩
      rw [callbacks_snoc, callbacks_same rfl, changes_same rfl, changes_snoc, hlog, hsm]
      simp only [callbackOf, changeOf, hne, ne_eq, not_false_eq_true, and_self, if_true,
        Option.toList_some, List.append_assoc, List.prefix_append_right_inj]
      intro hle
      have heq : m.transition c result = t₀ := (List.cons_prefix_cons.mp hle).1
      have hlast : t₀.2 = (m.machines c.sm).state := (htracks c.sm).last t₀ (by simp [hlog])
      apply hne
      calc (m.transition c result).1 = (m.machines c.sm).state := rfl
        _ = t₀.2 := hlast.symm
        _ = (m.transition c result).2 := by rw [heq]
    · exact absurd hquiet hbusy

/-- Where a change is recorded only while no callback of its registration is outstanding, the
callbacks of a registration are its changes, in order, up to the outstanding one; and only after
such a step can no callback overtake another. -/
theorem callbacks_ordered_iff
    (h : Run (Guarded Step Ordered) (newMonitor failureThreshold tracker) l m) :
    (∀ sm, callbacks sm l <+: changes sm l ∧ (callbacks sm l).IsChain Follow ∧
      (Quiet m sm → callbacks sm l = changes sm l)) ∧
    ∀ e v, Step m e v →
      ((∀ e' u, Step v e' u → ∀ sm,
        callbacks sm (l ++ [e] ++ [e']) <+: changes sm (l ++ [e] ++ [e'])) ↔ Ordered m e) := by
  have hprov := run_provenance h.of_guarded
  have horder := run_inOrder h
  have htracks := run_tracks h.of_guarded
  constructor
  · intro sm
    obtain ⟨rest, hrest⟩ := (horder sm).callbacks_le
    refine ⟨⟨rest, hrest⟩, (hrest ▸ (htracks sm).chain).left_of_append, ?_⟩
    intro hquiet
    rcases horder sm with ⟨w, t, hcalling, -⟩ | ⟨-, hlog⟩
    · exact absurd hcalling (hquiet w t)
    · exact hlog.symm
  · intro e v hstep
    constructor
    · intro hle
      by_contra hordered
      obtain ⟨e', u, hstep', sm, hsm⟩ := overtakes horder htracks hstep hordered
      exact hsm (hle e' u hstep' sm)
    · intro hordered e' u hstep' sm
      have horder' := inOrder_step hprov (horder sm) hordered hstep
      exact horder'.next (provenance_step hprov hstep) hstep'

def vmFailed : Monitor :=
  (vmRegistered .unhealthy true).record (.initial 0) vmCheck .failed 7

theorem vm_fails :
    Step (vmRegistered .unhealthy true)
      (.recorded (.initial 0) "vm-1" 0 (.unhealthy, .unavailable)) vmFailed :=
  .record .failed 7 (c := vmCheck) rfl rfl (by decide)

theorem callbacks_ordered_vm :
    callbacks 0 [.registered "vm-1" 0, .recorded (.initial 0) "vm-1" 0 (.unhealthy, .unavailable),
        .called "vm-1" 0 (.unhealthy, .unavailable)] =
      changes 0 [.registered "vm-1" 0, .recorded (.initial 0) "vm-1" 0 (.unhealthy, .unavailable),
        .called "vm-1" 0 (.unhealthy, .unavailable)] := by
  have hquiet : ∀ sm, Quiet (vmRegistered .unhealthy true) sm := by
    rintro sm w t ⟨c, hc, -, ht⟩
    by_cases heq : w = .initial 0
    · subst heq
      obtain rfl := Option.some.inj hc
      cases ht
    · cases (vm_checks heq).symm.trans hc
  have hcalled : Step vmFailed (.called "vm-1" 0 (.unhealthy, .unavailable))
      (vmFailed.leave (.initial 0)) :=
    .call (c := { vmCheck with phase := .calling (.unhealthy, .unavailable) }) rfl rfl
  have hend : Quiet (vmFailed.leave (.initial 0)) 0 := by
    intro w t hcalling
    obtain ⟨hne, hcalling⟩ := calling_leave.mp hcalling
    rcases (calling_record rfl rfl).mp hcalling with ⟨heq, -⟩ | hcalling
    · exact hne heq
    · exact hquiet 0 w t hcalling
  exact ((callbacks_ordered_iff (.cons ⟨by simp [Ordered], (vm_registers .unhealthy true)⟩
    (.cons ⟨fun _ _ sm _ _ _ => hquiet sm, vm_fails⟩
      (.single ⟨by simp [Ordered], hcalled⟩)))).1 0).2.2 hend

/-- The callback of the initial check is overtaken by that of a round: the last one says
`Unavailable` when the provider is `Ready`. -/
theorem vm_callbacks_overtake :
    ¬∀ l v, Run Step vmStart l v → callbacks 0 l <+: changes 0 l := by
  intro h
  have hround : Step vmFailed .roundStarted vmFailed.checkAll := .startRound rfl
  have hrecovers : Step vmFailed.checkAll
      (.recorded (.periodic "vm-1") "vm-1" 0 (.unavailable, .ready))
      (vmFailed.checkAll.record (.periodic "vm-1") vmCheck .healthy 8) :=
    .record .healthy 8 (c := vmCheck) rfl rfl (by decide)
  have hcalled : Step (vmFailed.checkAll.record (.periodic "vm-1") vmCheck .healthy 8)
      (.called "vm-1" 0 (.unavailable, .ready)) _ :=
    .call (w := .periodic "vm-1") (c := { vmCheck with phase := .calling (.unavailable, .ready) })
      rfl rfl
  have hle := h _ _ (.cons (vm_registers .unhealthy true) (.cons vm_fails (.cons hround
    (.cons hrecovers (.single hcalled)))))
  exact absurd hle (by decide)

end CallbackOrder
