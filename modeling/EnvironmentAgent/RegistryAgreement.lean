import EnvironmentAgent.ProviderIdentity

/-! # Slots and records agree

Between calls every slot is held by a stored provider of that service type. -/
namespace RegistryAgreement

open AtomicPrograms SequentialPrograms ProviderState ProviderValidation ProviderService
open RegistrationOutcomes EmbeddedIdentity ProviderIdentity

def Agreement (s : AgentState) : Prop :=
  ∀ serviceType name, s.slots serviceType = some name →
    ∃ p ∈ s.records, p.name = name ∧ p.serviceType = serviceType

/-- An enabled service type names an embedded record of another service type, and its slot can be
claimed or the record holds that of its own type. -/
def Disturbs (enabled : List String) (s : AgentState) : Prop :=
  ∃ p ∈ s.records, p.type = .embedded ∧ p.name ∈ enabled ∧ p.serviceType ≠ p.name ∧
    (s.slots.otherHolder p.name p.name = none ∨ s.slots p.serviceType = some p.name)

variable {slots : Slots}

section
variable {s v u : AgentState} {p : StoredProvider}

theorem agreement_restarted (ps : Records) : Agreement (.restarted ps) := by
  intro t name h
  cases h

theorem Agreement.unique (h : Agreement s) (hs : Kept s.records) {t t' name : String}
    (ht : s.slots t = some name) (ht' : s.slots t' = some name) : t = t' := by
  obtain ⟨p, hp, hname, rfl⟩ := h t name ht
  obtain ⟨q, hq, hqname, rfl⟩ := h t' name ht'
  rw [hs.distinct.eq_of_name hp hq (hname.trans hqname.symm)]

theorem Agreement.found (h : Agreement s) (hs : Kept s.records) {t name : String}
    (ht : s.slots t = some name) : ∃ p, s.records.getByName name = some p ∧ p.serviceType = t := by
  obtain ⟨p, hp, hname, htype⟩ := h t name ht
  exact ⟨p, hs.getByName_eq hp hname, htype⟩

theorem Agreement.release (h : Agreement s) (t : String) :
    Agreement { s with slots := s.slots.release t } := by
  intro t' name hs
  by_cases ht : t' = t
  · subst ht
    simp [Slots.release] at hs
  · simp only [Slots.release, Function.update_of_ne ht] at hs
    exact h t' name hs

theorem agreement_save {q : StoredProvider}
    (htracks : Tracks q.id { s with records := s.records.save q, slots := slots } u)
    (hself : ∀ t, slots t = some q.name → t = q.serviceType)
    (hother : ∀ t name, name ≠ q.name → slots t = some name → s.slots t = some name)
    (h : Agreement s) : Agreement u := by
  intro t name hs
  rw [htracks.slots] at hs
  rw [htracks.records]
  by_cases hname : name = q.name
  · subst hname
    exact ⟨q, mem_save_self, rfl, (hself t hs).symm⟩
  · obtain ⟨r, hr, hrname, hrtype⟩ := h t name (hother t name hname hs)
    exact ⟨r, mem_save_of_ne hr (hrname ▸ hname), hrname, hrtype⟩

theorem agreement_claim {id : String}
    (htracks : Tracks id
      { s with slots := Function.update s.slots p.serviceType (some p.name) } u)
    (hp : p ∈ s.records) (h : Agreement s) : Agreement u := by
  intro t name hs
  rw [htracks.slots] at hs
  rw [htracks.records]
  dsimp only at hs
  by_cases htype : t = p.serviceType
  · subst htype
    rw [Function.update_self] at hs
    exact ⟨p, hp, Option.some.inj hs, rfl⟩
  · rw [Function.update_of_ne htype] at hs
    exact h t name hs

theorem update_other {t t' name holder : String} (hne : name ≠ holder)
    (h : Function.update slots t (some holder) t' = some name) : slots t' = some name := by
  by_cases ht : t' = t
  · subst ht
    rw [Function.update_self] at h
    exact absurd (Option.some.inj h).symm hne
  · rwa [Function.update_of_ne ht] at h

theorem release_other {t t' name : String} (h : slots.release t t' = some name) :
    slots t' = some name := by
  by_cases ht : t' = t
  · subst ht
    simp [Slots.release] at h
  · rwa [Slots.release, Function.update_of_ne ht] at h

theorem loaded_agreement (hl : Loaded p s u) (hp : p ∈ s.records) (h : Agreement s) :
    Agreement u := by
  cases hl with
  | skipped => exact h
  | claimed _ _ ht => exact agreement_claim ht hp h

theorem registered_agreement {input : RegistrationInput}
    {out : Except ServiceErr (StoredProvider × Bool)} (hr : Registered input s out u)
    (hs : Kept s.records) (h : Agreement s) : Agreement u := by
  -- What the provider of that name holds is the slot of its record.
  have hheld : ∀ {p t}, s.records.getByName input.name = some p → s.slots t = some p.name →
      t = p.serviceType := by
    intro p t hget ht
    obtain ⟨q, hq, hname, rfl⟩ := h t p.name ht
    rw [hs.distinct.eq_of_name hq (getByName_some hget).1 hname]
  cases hr with
  | refused => exact h
  | @created id now _ hnone hfree hsaves ht =>
    apply agreement_save (q := externalRecord id input now) ht ?_ ?_ h
    · intro t hslot
      by_cases htype : t = input.serviceType
      · exact htype
      · rw [Function.update_of_ne htype] at hslot
        obtain ⟨q, hq, hname, _⟩ := h t _ hslot
        exact absurd hname (getByName_none hnone hq)
    · exact fun t name hne hslot => update_other hne hslot
  | unsaved => exact h.release input.serviceType
  | @kept p now _ hget _ hsame _ ht _ =>
    apply agreement_save (q := updated p input now) ht ?_ ?_ h
    · exact fun t hslot => (hheld hget hslot).trans hsame
    · exact fun t name _ hslot => hslot
  | @moved p now _ hget _ hne hmove _ ht =>
    obtain ⟨_, _, hslots⟩ := move_granted hmove
    rw [hslots] at ht
    apply agreement_save (q := updated p input now) ht ?_ ?_ h
    · intro t hslot
      by_cases htype : t = input.serviceType
      · exact htype
      · rw [Function.update_of_ne htype] at hslot
        obtain rfl := hheld hget (release_other hslot)
        simp [Slots.release] at hslot
    · exact fun t name hne' hslot => release_other (update_other hne' hslot)
  | @movedBack p hget _ hne hmove =>
    rw [move_back hne hmove]
    intro t name hslot
    by_cases htype : t = p.serviceType
    · subst htype
      simp only [Function.update_self, Option.some.injEq] at hslot
      exact ⟨p, (getByName_some hget).1, hslot, rfl⟩
    · simp only [Function.update_of_ne htype] at hslot
      exact h t name (release_other hslot)

end

section
variable {cfg : ServiceConfig} {enabled : List String} {s v u : AgentState} {p : StoredProvider}
  {st : String}

theorem staled_agreement (hst : Staled cfg enabled p v u)
    (huniq : ∀ q ∈ v.records, q.name = p.name → q = p) (h : Agreement v) : Agreement u := by
  cases hst with
  | kept => exact h
  | removed _ _ hu =>
    intro t name hs
    rw [hu.slots] at hs
    have hslot : v.slots t = some name ∧ ¬ (t = p.serviceType ∧ name = p.name) := by
      dsimp only at hs
      split at hs
      · next hheld =>
        refine ⟨release_other hs, fun hboth => ?_⟩
        rw [hboth.1] at hs
        simp [Slots.release] at hs
      · next hheld =>
        refine ⟨hs, fun hboth => hheld ?_⟩
        rw [← hboth.1, ← hboth.2]
        exact hs
    obtain ⟨q, hq, hname, htype⟩ := h t name hslot.1
    refine ⟨q, hu.mem_of_ne hq fun heq => ?_, hname, htype⟩
    obtain rfl := huniq q hq heq
    exact hslot.2 ⟨htype.symm, hname.symm⟩

theorem staled_undisturbed (hst : Staled cfg enabled p v u) (h : ¬ Disturbs enabled v) :
    ¬ Disturbs enabled u := by
  cases hst with
  | kept => exact h
  | removed _ hstale hu =>
    rintro ⟨q, hq, htype, hmem, hne, hslot⟩
    apply h
    refine ⟨q, hu.mem hq, htype, hmem, hne, ?_⟩
    rw [hu.slots] at hslot
    dsimp only at hslot
    split at hslot
    · -- The slot that is released is not that of an enabled service type.
      have hother : q.name ≠ p.serviceType := fun heq => hstale (heq ▸ hmem)
      rcases hslot with hfree | hheld
      · left
        simp only [Slots.otherHolder, Slots.release, Function.update_of_ne hother] at hfree
        exact hfree
      · exact Or.inr (release_other hheld)
    · exact hslot

theorem embedded_agreement (he : Embedded cfg st v u) (hst : st ∈ enabled) (hv : Kept v.records)
    (hd : ¬ Disturbs enabled v) (h : Agreement v) : Agreement u := by
  -- A record under the name, if the slot can be claimed, has that service type.
  have hnamed : v.slots.otherHolder st st = none → ∀ q ∈ v.records, q.name = st →
      q.type = .embedded → q.serviceType = st := by
    intro hfree q hq hname htype
    by_contra hne
    exact hd ⟨q, hq, htype, hname ▸ hst, hname ▸ hne, Or.inl (hname ▸ hfree)⟩
  cases he with
  | skipped => exact h
  | @displaced p _ hget htype hheld hu =>
    intro t name hs
    rw [hu.slots] at hs
    obtain ⟨q, hq, hname, hqtype⟩ := h t name hs
    refine ⟨q, hu.mem_of_ne hq fun heq => ?_, hname, hqtype⟩
    obtain rfl := hv.distinct.eq_of_name hq (getByName_some hget).1 heq
    have hqname : q.name = st := (getByName_some hget).2
    by_cases hself : q.serviceType = q.name
    · apply hheld
      rw [← hqtype, hself, ← hname, hqname] at hs
      simp [Slots.otherHolder, hs]
    · refine hd ⟨q, hq, htype, hqname ▸ hst, hself, Or.inr ?_⟩
      rw [hqtype, hname]
      exact hs
  | unsaved => exact h.release st
  | @stale p _ hget htype hfree ht =>
    obtain ⟨hp, hname⟩ := getByName_some hget
    have hself := hnamed hfree p hp hname htype
    have hclaim : Tracks p.id
        { v with slots := Function.update v.slots p.serviceType (some p.name) } u := by
      rw [hself, hname]
      exact ht
    exact agreement_claim hclaim hp h
  | @saved id createTime now _ hfree hsaves ht =>
    apply agreement_save (q := embeddedRecord st id createTime now) ht ?_ ?_ h
    · intro t hslot
      by_cases htst : t = st
      · exact htst
      · rw [Function.update_of_ne htst] at hslot
        obtain ⟨q, hq, hname, rfl⟩ := h t st hslot
        exact hnamed hfree q hq hname (hsaves.same q hq hname).2.2
    · exact fun t name hne hslot => update_other hne hslot

theorem embedded_undisturbed (he : Embedded cfg st v u) (h : ¬ Disturbs enabled v) :
    ¬ Disturbs enabled u := by
  -- A claim of one slot does not disturb the records of other names.
  have hclaimed : v.slots.otherHolder st st = none → ∀ q ∈ v.records, q.type = .embedded →
      q.name ∈ enabled → q.serviceType ≠ q.name →
      ¬ (Slots.otherHolder (Function.update v.slots st (some st)) q.name q.name = none ∨
        Function.update v.slots st (some st) q.serviceType = some q.name) := by
    intro hfree q hq htype hmem hne hslot
    have hname : q.name ≠ st := by
      intro hname
      exact h ⟨q, hq, htype, hmem, hne, Or.inl (hname ▸ hfree)⟩
    apply h
    refine ⟨q, hq, htype, hmem, hne, ?_⟩
    rcases hslot with hother | hheld
    · left
      simp only [Slots.otherHolder, Function.update_of_ne hname] at hother
      exact hother
    · exact Or.inr (update_other hname hheld)
  cases he with
  | skipped => exact h
  | displaced _ _ _ hu =>
    rintro ⟨q, hq, hrest⟩
    exact h ⟨q, hu.mem hq, hu.slots ▸ hrest⟩
  | unsaved hnone _ =>
    rintro ⟨q, hq, htype, hmem, hne, hslot⟩
    apply h
    refine ⟨q, hq, htype, hmem, hne, ?_⟩
    rcases hslot with hfree | hheld
    · left
      have hname : q.name ≠ st := getByName_none hnone hq
      simp only [Slots.otherHolder, Slots.release, Function.update_of_ne hname] at hfree
      exact hfree
    · exact Or.inr (release_other hheld)
  | stale _ _ hfree ht =>
    rintro ⟨q, hq, htype, hmem, hne, hslot⟩
    rw [ht.slots] at hslot
    exact hclaimed hfree q (ht.records ▸ hq) htype hmem hne hslot
  | saved hfree _ ht =>
    rintro ⟨q, hq, htype, hmem, hne, hslot⟩
    rw [ht.slots] at hslot
    rw [ht.records] at hq
    rcases mem_of_mem_save hq with rfl | hq
    · exact hne rfl
    · exact hclaimed hfree q hq htype hmem hne hslot

end

section
variable {cfg : ServiceConfig} {s v : AgentState} {p : StoredProvider}

theorem registerEmbeddedType_skips (st : String) (v : AgentState) :
    Allows act (registerEmbeddedType cfg st) v fun r u => r = some () ∧ u = v :=
  ⟨none, v, ⟨Or.inl rfl, rfl⟩, rfl, rfl⟩

theorem monitorEmbedded_allows (st id : String) (now : Time) :
    Allows act (monitorEmbedded cfg st id now) v fun r u => r = some () ∧ Tracks id v u := by
  simp only [monitorEmbedded]
  split
  · refine ⟨.stopped, _, ⟨fun _ h => (by cases h), rfl⟩, rfl, ?_⟩
    exact Tracks.refl id v
  · refine ⟨(), _, ⟨trivial, rfl⟩, rfl, ?_⟩
    exact tracks_of_act (o := .setState _ _) rfl ⟨trivial, rfl⟩

theorem registerEmbeddedType_unsaved (h : Kept s.records)
    (hget : s.records.getByName p.name = some p) (htype : p.type = .embedded)
    (hfree : s.slots.otherHolder p.name p.name = none) :
    Allows act (registerEmbeddedType cfg p.name) s fun r u => r = some () ∧
      u.records = s.records ∧ u.slots = Function.update s.slots p.name (some p.name) := by
  have hclaim : (s.slots.claim p.name p.name) =
      (none, Function.update s.slots p.name (some p.name)) := by
    simp only [Slots.claim, hfree]
  refine ⟨some (some p), s, ⟨Or.inr (congrArg some hget.symm), rfl⟩, ?_⟩
  change Allows act (if (some p).any (fun p => p.type = .external) then _ else _) _ _
  rw [if_neg (by simp [htype])]
  refine ⟨none, _, ⟨(congrArg Prod.fst hclaim).symm, rfl⟩, 1, _, ⟨Nat.one_ne_zero, rfl⟩, ?_⟩
  change Allows act (resolveEmbeddedIdentity (some p) 1 >>= _) _ _
  have hvalid := h.valid p (getByName_some hget).1
  simp only [resolveEmbeddedIdentity, htype, ne_eq, not_true, if_false, if_neg (valid_id hvalid)]
  refine ⟨false, _, ⟨fun hfalse => (by cases hfalse), rfl⟩, ?_⟩
  change Allows act (if false = false ∧ some p = none then op (.release p.name)
    else monitorEmbedded cfg p.name p.id 1) _ _
  rw [if_neg (by simp)]
  apply (monitorEmbedded_allows _ _ _).mono
  intro r u hboth
  obtain ⟨hr, ht⟩ := hboth
  refine ⟨hr, ht.records, ht.slots.trans ?_⟩
  change (s.slots.claim p.name p.name).2 = _
  rw [hclaim]

theorem registerEmbeddedType_displaced (hget : s.records.getByName p.name = some p)
    (htype : p.type = .embedded) {holder : String}
    (hheld : s.slots.otherHolder p.name p.name = some holder) :
    Allows act (registerEmbeddedType cfg p.name) s fun r u => r = some () ∧
      u.records = s.records.delete p.name ∧ u.slots = s.slots := by
  have hclaim : (s.slots.claim p.name p.name) = (some (servedBy p.name holder), s.slots) := by
    simp only [Slots.claim, hheld]
  refine ⟨some (some p), s, ⟨Or.inr (congrArg some hget.symm), rfl⟩, ?_⟩
  change Allows act (if (some p).any (fun p => p.type = .external) then _ else _) _ _
  rw [if_neg (by simp [htype])]
  refine ⟨_, _, ⟨(congrArg Prod.fst hclaim).symm, rfl⟩, true, _, ⟨trivial, rfl⟩, (), _,
    ⟨trivial, rfl⟩, ?_⟩
  change Allows act (if cfg.mon then _ else _) _ _
  have hslots : (s.slots.claim p.name p.name).2 = s.slots := congrArg Prod.snd hclaim
  split
  · exact ⟨(), _, ⟨trivial, rfl⟩, rfl, rfl, hslots⟩
  · exact ⟨rfl, rfl, hslots⟩

theorem registerEmbedded_disturbs {types : List String} (h : Kept s.records)
    (hd : Disturbs (enabledTypes types) s) :
    Allows act (registerEmbedded cfg types) s fun _ u => ¬ Agreement u := by
  obtain ⟨p, hp, htype, hmem, hne, hslot⟩ := hd
  have hget := h.getByName_eq hp rfl
  -- The listing fails, and so does the lookup of every other service type.
  refine ⟨none, s, ⟨Or.inl rfl, rfl⟩, ?_⟩
  change Allows act (Prog.each (enabledTypes types) (registerEmbeddedType cfg)) s _
  apply Allows.each_of_mem hmem registerEmbeddedType_skips
  cases hholder : s.slots.otherHolder p.name p.name with
  | none =>
    apply (registerEmbeddedType_unsaved h hget htype hholder).mono
    rintro r u ⟨hr, hrecords, hslots⟩
    refine ⟨hr, fun hagree => ?_⟩
    obtain ⟨q, hq, hname, hqtype⟩ := hagree p.name p.name (by rw [hslots, Function.update_self])
    rw [hrecords] at hq
    rw [h.distinct.eq_of_name hq hp hname] at hqtype
    exact hne hqtype
  | some holder =>
    have hheld : s.slots p.serviceType = some p.name :=
      hslot.resolve_left (by rw [hholder]; exact Option.some_ne_none holder)
    apply (registerEmbeddedType_displaced hget htype hholder).mono
    rintro r u ⟨hr, hrecords, hslots⟩
    refine ⟨hr, fun hagree => ?_⟩
    obtain ⟨q, hq, hname, _⟩ := hagree p.serviceType p.name (by rw [hslots, hheld])
    rw [hrecords] at hq
    simp [Records.delete, hname] at hq

end

def Undisturbed : Call → AgentState → Prop
  | .registerEmbedded types, s => ¬ Disturbs (enabledTypes types) s
  | _, _ => True

section
variable {cfg : ServiceConfig} {syn : URLSyntax} {s : AgentState}

theorem evolves_keeps {w v u : AgentState} (hw : Kept w.records) (h : Evolves w v u)
    (hv : Kept v.records) : Kept u.records :=
  (evolves_preserves hw hv h).kept

theorem registerEmbedded_agreement {types : List String} (h : Kept s.records)
    (ha : Agreement s) (hd : ¬ Disturbs (enabledTypes types) s) :
    Along act (fun v u => Kept v.records → Kept u.records) (registerEmbedded cfg types) s
      fun _ u => Kept u.records ∧ Agreement u := by
  apply (registerEmbedded_along cfg types
    (I := fun u => Agreement u ∧ ¬ Disturbs (enabledTypes types) u) h ⟨ha, hd⟩
    (fun w v u hw _ hr hv => evolves_keeps hw hr hv)
    (fun p v u _ huniq hi hst => ⟨staled_agreement hst huniq hi.1, staled_undisturbed hst hi.2⟩)
    fun st hst v u hv hi he =>
      ⟨embedded_agreement he hst hv hi.2 hi.1, embedded_undisturbed he hi.2⟩).mono
      (fun _ _ hr => hr)
  exact fun _ u hu => ⟨hu.2.1, hu.2.2.1⟩

theorem call_agreement (c : Call) (h : Kept s.records) (ha : Agreement s ∨ IsRestart c)
    (hc : Undisturbed c s) :
    Along act (fun v u => Kept v.records → Kept u.records) (c.body cfg syn) s fun _ u =>
      Kept u.records ∧ Agreement u := by
  have hsame : ∀ v u : AgentState, u.records = v.records → Kept v.records → Kept u.records :=
    fun v u heq hv => heq ▸ hv
  cases c with
  | restart =>
    exact (restart_along cfg syn hsame (agreement_restarted s.records)).mono (fun _ _ hr => hr)
      fun _ u hu => ⟨hu.1 ▸ h, hu.2⟩
  | loadPersisted =>
    apply along_bind.mpr
    apply (loadPersisted_along cfg hsame (ha.resolve_right id)
      fun p hp v u hv hi hl => loaded_agreement hl (hv ▸ hp) hi).mono (fun _ _ hr => hr)
    rintro r u ⟨⟨err, rfl⟩, hrecords, hagree⟩
    have hkept : Kept u.records := hrecords ▸ h
    exact ⟨hkept, hagree⟩
  | registerEmbedded types => exact registerEmbedded_agreement h (ha.resolve_right id) hc
  | createProvider request =>
    have ha := ha.resolve_right id
    exact (createProvider_along cfg syn request h ha (fun v u hr hv => evolves_keeps h hr hv)
      fun input out u _ hr => registered_agreement hr h ha).mono (fun _ _ hr => hr)
        fun _ u hu => hu.2

/-- In every state between calls, if no call of `RegisterEmbedded` was disturbed, slots and records
agree, a provider holds one slot at most and the holder of a slot is found. In such a state all
outcomes of a call of `RegisterEmbedded` agree exactly if it is not disturbed. -/
theorem registry_agreement_iff {p : Registration Unit}
    (h : Reached act (Call.body cfg syn) Undisturbed IsRestart (.restarted []) (p, s))
    (hp : Ended p) :
    Agreement s ∧
      (∀ t t' name, s.slots t = some name → s.slots t' = some name → t = t') ∧
      (∀ t name, s.slots t = some name →
        ∃ q, s.records.getByName name = some q ∧ q.serviceType = t) ∧
      ∀ types, (∀ r u, Performs act (registerEmbedded cfg types) s r u → Agreement u) ↔
        ¬ Disturbs (enabledTypes types) s := by
  have hcall : ∀ (c : Call) (v : AgentState),
      (Kept v.records ∧ Agreement v) ∨ IsRestart c ∧ Kept v.records → Undisturbed c v →
      Along act (fun v u => Kept v.records → Kept u.records) (c.body cfg syn) v fun _ u =>
        Kept u.records ∧ Agreement u := by
    intro c v hv hc
    rcases hv with ⟨hkept, hagree⟩ | ⟨hcut, hkept⟩
    · exact call_agreement c hkept (Or.inl hagree) hc
    · exact call_agreement c hkept (Or.inr hcut) hc
  obtain ⟨_, halong⟩ := Reached.along h ⟨Kept.nil, agreement_restarted []⟩
    (J := fun u => Kept u.records) (fun _ hv => hv.1) (fun _ _ hr hv => hr hv) hcall
  obtain ⟨hkept, hagree⟩ := halong.of_ended hp
  refine ⟨hagree, fun t t' name => hagree.unique hkept, fun t name => hagree.found hkept,
    fun types => ?_⟩
  constructor
  · intro hall hd
    obtain ⟨r, u, hperforms, hnot⟩ := allows_iff.mp (registerEmbedded_disturbs hkept hd)
    exact hnot (hall r u hperforms)
  · intro hd r u hperforms
    exact (ensures_iff.mp (registerEmbedded_agreement hkept hagree hd).ensures r u hperforms).2

end

theorem registry_agreement_vm :
    ∃ p s, Reached act (Call.body monitoring plainSyntax) Undisturbed IsRestart (.restarted [])
        (p, s) ∧ Ended p ∧ s.slots "vm" = some "vm" ∧
      ∃ q, s.records.getByName "vm" = some q ∧ q.serviceType = "vm" := by
  obtain ⟨r, s, hp, _, hslots, _⟩ := allows_iff.mp vm_registers
  have hcalls : Calls act (Call.body monitoring plainSyntax) Undisturbed (.restarted [])
      [.registerEmbedded ["vm"]] s := by
    apply Calls.snoc (.nil _) ?_ (c := Call.registerEmbedded ["vm"]) hp
    rintro ⟨q, hq, _⟩
    cases hq
  obtain ⟨p, hended, hreached⟩ := hcalls.reached IsRestart
  have hslot : s.slots "vm" = some "vm" := by rw [hslots, Function.update_self]
  exact ⟨p, s, hreached, hended, hslot,
    (registry_agreement_iff hreached hended).2.2.1 "vm" "vm" hslot⟩

def vmDisplaced : StoredProvider := updated vmRecord vmInput 1

theorem embedded_loads {p : StoredProvider} (hp : p.type = .embedded) :
    Allows act (Call.body monitoring plainSyntax .loadPersisted) (.restarted [p]) fun _ u =>
      u = .restarted [p] := by
  refine ⟨some [p], _, ⟨Or.inr rfl, rfl⟩, ?_⟩
  have hskip : loadProvider monitoring p = pure () := by simp [loadProvider, hp]
  change Allows act ((((loadProvider monitoring p).bind fun _ => .ret ()).bind _).bind _) _ _
  rw [hskip]
  exact (rfl : AgentState.restarted [p] = _)

theorem vm_unsaved : Allows act (registerEmbedded monitoring ["vm", "gpu"])
    (.restarted [vmDisplaced]) fun _ u =>
      u.slots "vm" = some "vm" ∧ u.records = [vmDisplaced, embeddedRecord "gpu" "u2" 1 1] := by
  have htypes : enabledTypes ["vm", "gpu"] = ["vm", "gpu"] := by decide
  simp only [registerEmbedded, htypes]
  refine ⟨some [vmDisplaced], _, ⟨Or.inr rfl, rfl⟩, ?_⟩
  refine ⟨some (some vmDisplaced), _, ⟨Or.inr rfl, rfl⟩, none, _, ⟨rfl, rfl⟩, 1, _,
    ⟨Nat.one_ne_zero, rfl⟩, false, _, ⟨fun h => (by cases h), rfl⟩, .registered none, _,
    ⟨fun _ h => (by cases h), rfl⟩, ?_⟩
  refine ⟨some none, _, ⟨Or.inr rfl, rfl⟩, none, _, ⟨rfl, rfl⟩, 1, _,
    ⟨Nat.one_ne_zero, rfl⟩, "u2", _, ⟨⟨by decide, by decide, rfl, rfl⟩, rfl⟩, true, _,
    ⟨fun _ => by decide, rfl⟩, .registered none, _, ⟨fun _ h => (by cases h), rfl⟩, ?_⟩
  exact ⟨rfl, rfl⟩

/-- The embedded provider was displaced to another service type before the restart, and its record
cannot be saved after it. -/
theorem vm_slot_disagrees :
    ∃ s, Calls act (Call.body monitoring plainSyntax) (fun _ _ => True) (.restarted [])
        [.registerEmbedded ["vm"], .createProvider vmRequest, .restart, .loadPersisted,
          .registerEmbedded ["vm", "gpu"]] s ∧
      s.slots "vm" = some "vm" ∧ ∀ q ∈ s.records, q.name = "vm" → q.serviceType ≠ "vm" := by
  obtain ⟨u, hdisplaced, hrecords⟩ := vm_displaced
  have hrestart := hrecords ▸ restart_performs monitoring plainSyntax u
  obtain ⟨_, v, hload, rfl⟩ := allows_iff.mp (embedded_loads (p := vmDisplaced) rfl)
  obtain ⟨_, s, hembed, hslot, hs⟩ := allows_iff.mp vm_unsaved
  refine ⟨s, ((hdisplaced.snoc trivial hrestart).snoc trivial hload).snoc trivial hembed, hslot, ?_⟩
  rw [hs]
  decide

end RegistryAgreement
