import EnvironmentAgent.RegistryAgreement

/-! # External providers keep their slots over a restart

A process loads the persisted providers, registers the embedded ones and then serves requests; it
ends at once when the loading fails. -/
namespace RestartRetention

open AtomicPrograms SequentialPrograms ProviderState ProviderValidation ProviderService
open RegistrationOutcomes EmbeddedIdentity ProviderIdentity RegistryAgreement

def startup (cfg : ServiceConfig) (types : List String) : Registration Bool := do
  match ← loadPersisted cfg with
  | some _ => return false
  | none => do
    registerEmbedded cfg types
    return true

structure Life where
  types : List String
  requests : List CreateProviderRequest

def Life.body (cfg : ServiceConfig) (syn : URLSyntax) (life : Life) : Registration Unit := do
  op .restart
  if ← startup cfg life.types then Prog.each life.requests (createProvider cfg syn)
  else return

abbrev Lives (cfg : ServiceConfig) (syn : URLSyntax) :=
  Reached act (Life.body cfg syn) (fun _ _ => True) (fun _ => True) (.restarted [])

def Seated (s : AgentState) : Prop :=
  ∀ p ∈ s.records, p.type = .external → s.slots p.serviceType = some p.name

def OneEach (ps : Records) : Prop :=
  ∀ p ∈ ps, ∀ q ∈ ps, p.type = .external → q.type = .external → p.serviceType = q.serviceType →
    p = q

section
variable {cfg : ServiceConfig} {s v u w : AgentState} {p : StoredProvider} {st : String}

theorem Seated.oneEach (h : Seated s) (hs : Kept s.records) : OneEach s.records := by
  intro p hp q hq htp htq heq
  have hname := h p hp htp
  rw [heq, h q hq htq] at hname
  exact hs.distinct.eq_of_name hp hq (Option.some.inj hname).symm

variable {ps : Records}

theorem written_oneEach (hw : Kept w.records) (hseat : Seated w) (h : Written w ps) :
    OneEach ps := by
  have hone := hseat.oneEach hw
  cases h with
  | deleted _ =>
    exact fun p hp q hq => hone p (List.mem_of_mem_filter hp) q (List.mem_of_mem_filter hq)
  | @saved r hsaves =>
    -- The saved record against another one: the slot of the other one is not free.
    have hclash : ∀ q ∈ w.records, q.name ≠ r.name → r.type = .external → q.type = .external →
        r.serviceType ≠ q.serviceType := by
      intro q hq hname htr htq heq
      have hslot : w.slots r.serviceType = some q.name := heq ▸ hseat q hq htq
      rcases hsaves.slot with hfree | ⟨q₀, hq₀, hname₀, htype₀⟩
      · rw [otherHolder_of_ne hslot hname] at hfree
        cases hfree
      · have hslot₀ := hseat q₀ hq₀ ((hsaves.same q₀ hq₀ hname₀).2.2.trans htr)
        rw [htype₀, hslot, hname₀] at hslot₀
        exact hname (Option.some.inj hslot₀)
    intro p hp q hq htp htq heq
    rcases hw.mem_save hsaves hp with rfl | ⟨hpw, hpname⟩
    · rcases hw.mem_save hsaves hq with rfl | ⟨hqw, hqname⟩
      · rfl
      · exact absurd heq (hclash q hqw hqname htp htq)
    · rcases hw.mem_save hsaves hq with rfl | ⟨hqw, _⟩
      · exact absurd heq.symm (hclash p hpw hpname htq htp)
      · exact hone p hpw q hqw htp htq heq

theorem Seated.spares {slots : Slots} {name : String} (h : Seated s)
    (hspares : s.slots.Spares name slots) (hp : p ∈ s.records) (htype : p.type = .external)
    (hne : p.name ≠ name) : slots p.serviceType = some p.name :=
  hspares _ _ hne (h p hp htype)

theorem registered_seated {input : RegistrationInput}
    {out : Except ServiceErr (StoredProvider × Bool)} (hr : Registered input s out u)
    (hs : Kept s.records) (h : Seated s) : Seated u := by
  cases hr with
  | refused => exact h
  | created hnone hfree _ ht =>
    intro q hq htype
    rw [ht.records] at hq
    rw [ht.slots]
    rcases mem_of_mem_save hq with rfl | hq
    · exact Function.update_self ..
    · exact h.spares (spares_update hfree) hq htype (getByName_none hnone hq)
  | unsaved hnone _ hfree =>
    intro q hq htype
    exact h.spares (spares_update hfree) hq htype (getByName_none hnone hq)
  | @kept p now _ hget _ hsame _ ht _ =>
    intro q hq htype
    rw [ht.records] at hq
    rw [ht.slots]
    rcases mem_of_mem_save hq with rfl | hq
    · change s.slots input.serviceType = some p.name
      rw [← hsame]
      exact h p (getByName_some hget).1 htype
    · exact h q hq htype
  | @moved p now _ hget _ hne hmove hsaves ht =>
    intro q hq htype
    rw [ht.records] at hq
    rw [ht.slots]
    rcases hs.mem_save hsaves hq with rfl | ⟨hq, hname⟩
    · dsimp only
      rw [(move_granted hmove).2.2]
      exact Function.update_self ..
    · exact h.spares move_spares hq htype hname
  | @movedBack p hget _ hne hmove =>
    intro q hq htype
    by_cases heq : q = p
    · subst heq
      dsimp only
      rw [move_back hne hmove]
      exact Function.update_self ..
    · apply h.spares (move_spares.trans move_spares) hq htype
      exact fun hname => heq (hs.distinct.eq_of_name hq (getByName_some hget).1 hname)

def Retained (ps : Records) (u : AgentState) : Prop :=
  Seated u ∧ ∀ p ∈ ps, p.type = .external → p ∈ u.records

theorem staled_retained {enabled : List String} (hst : Staled cfg enabled p v u)
    (huniq : ∀ q ∈ v.records, q.name = p.name → q = p) (h : Retained ps v) : Retained ps u := by
  cases hst with
  | kept => exact h
  | removed htype _ hu =>
    have hother : ∀ q ∈ v.records, q.type = .external → q.name ≠ p.name := by
      intro q hq hq' heq
      rw [huniq q hq heq, htype] at hq'
      cases hq'
    refine ⟨fun q hq hq' => ?_, fun q hq hq' => ?_⟩
    · have hseat := h.1 q (hu.mem hq) hq'
      rw [hu.slots]
      dsimp only
      split
      · next hheld =>
        have hne : q.serviceType ≠ p.serviceType := by
          intro heq
          rw [heq, hheld] at hseat
          exact hother q (hu.mem hq) hq' (Option.some.inj hseat).symm
        rw [Slots.release, Function.update_of_ne hne]
        exact hseat
      · exact hseat
    · have hmem := h.2 q hq hq'
      exact hu.mem_of_ne hmem (hother q hmem hq')

theorem embedded_retained (he : Embedded cfg st v u) (hv : Kept v.records) (h : Retained ps v) :
    Retained ps u := by
  -- The record of an embedded provider is not an external one's.
  have hother : ∀ {p q}, v.records.getByName st = some p → p.type = .embedded → q ∈ v.records →
      q.type = .external → q.name ≠ st := by
    intro p q hget htype hq hq' heq
    rw [hv.eq_of_getByName hget hq heq, htype] at hq'
    cases hq'
  cases he with
  | skipped => exact h
  | displaced hget htype _ hu =>
    refine ⟨fun q hq hq' => hu.slots ▸ h.1 q (hu.mem hq) hq', fun q hq hq' => ?_⟩
    have hmem := h.2 q hq hq'
    exact hu.mem_of_ne hmem ((getByName_some hget).2 ▸ hother hget htype hmem hq')
  | unsaved hnone hfree =>
    exact ⟨fun q hq hq' => h.1.spares (spares_update hfree) hq hq' (getByName_none hnone hq), h.2⟩
  | stale hget htype hfree ht =>
    refine ⟨fun q hq hq' => ?_, fun q hq hq' => ht.records ▸ h.2 q hq hq'⟩
    have hmem : q ∈ v.records := ht.records ▸ hq
    rw [ht.slots]
    exact h.1.spares (spares_update hfree) hmem hq' (hother hget htype hmem hq')
  | saved hfree hsaves ht =>
    have hother : ∀ q ∈ v.records, q.type = .external → q.name ≠ st := by
      intro q hq hq' heq
      rw [(hsaves.same q hq heq).2.2] at hq'
      cases hq'
    refine ⟨fun q hq hq' => ?_, fun q hq hq' => ?_⟩
    · rw [ht.records] at hq
      rw [ht.slots]
      rcases hv.mem_save hsaves hq with rfl | ⟨hq, hname⟩
      · cases hq'
      · exact h.1.spares (spares_update hfree) hq hq' hname
    · rw [ht.records]
      have hmem := h.2 q hq hq'
      exact mem_save_of_ne hmem (hother q hmem hq')

end

section
variable {cfg : ServiceConfig} {syn : URLSyntax} {s v u w : AgentState} {ps : Records}

def Loading (ps : Records) (v : AgentState) : Prop :=
  v.records = ps ∧ ∀ t name, v.slots t = some name →
    ∃ q ∈ ps, q.type = .external ∧ q.serviceType = t ∧ q.name = name

theorem loaded_seats {p : StoredProvider} (hone : OneEach ps) (hp : p ∈ ps) (hv : Loading ps v)
    (h : Loaded p v u) :
    Loading ps u ∧ (p.type = .external → u.slots p.serviceType = some p.name) ∧
      ∀ q : StoredProvider, (q.type = .external → v.slots q.serviceType = some q.name) →
        q.type = .external → u.slots q.serviceType = some q.name := by
  obtain ⟨hrecords, hslots⟩ := hv
  cases h with
  | skipped hnot =>
    refine ⟨⟨hrecords, hslots⟩, fun htype => ?_, fun q hq => hq⟩
    have hheld := hnot.resolve_left (not_not.mpr htype)
    obtain ⟨holder, hholder⟩ := Option.ne_none_iff_exists'.mp hheld
    have hslot : v.slots p.serviceType = some holder ∧ holder ≠ p.name := by
      simpa [Slots.otherHolder] using hholder
    obtain ⟨q, hq, hqtype, hqserves, rfl⟩ := hslots _ _ hslot.1
    exact absurd (hone q hq p hp hqtype htype hqserves ▸ rfl) hslot.2
  | claimed htype hfree ht =>
    refine ⟨⟨ht.records.trans hrecords, fun t name hslot => ?_⟩, fun _ => ?_, fun q hq hqtype => ?_⟩
    · rw [ht.slots] at hslot
      dsimp only at hslot
      by_cases heq : t = p.serviceType
      · subst heq
        rw [Function.update_self] at hslot
        exact ⟨p, hp, htype, rfl, Option.some.inj hslot⟩
      · rw [Function.update_of_ne heq] at hslot
        exact hslots t name hslot
    · rw [ht.slots]
      exact Function.update_self ..
    · rw [ht.slots]
      dsimp only
      by_cases hname : q.name = p.name
      · by_cases heq : q.serviceType = p.serviceType
        · rw [heq, Function.update_self, hname]
        · rw [Function.update_of_ne heq]
          exact hq hqtype
      · exact spares_update hfree _ _ hname (hq hqtype)

theorem loadPersisted_seats (hone : OneEach ps) :
    Ensures act (loadPersisted cfg) (.restarted ps) fun r u =>
      r = some none → Retained ps u := by
  intro x v hboth
  obtain ⟨hx, hv⟩ := hboth
  obtain rfl : v = .restarted ps := hv
  rcases hx with hx | hx
  · subst hx
    intro hr
    cases hr
  · subst hx
    change Ensures act (Prog.each ps (loadProvider cfg) >>= fun _ => pure none) _ _
    apply ensures_bind.mpr
    have hloop := Ensures.each_mem (f := loadProvider cfg)
      (I := Loading ps) (w := .restarted ps)
      (P := fun p u => p.type = .external → u.slots p.serviceType = some p.name)
      (fun p hp v hv => (loadProvider_along (R := fun _ _ => True) (fun _ _ _ => trivial)
        p).ensures.mono fun r u hu =>
          ⟨hu.1, loaded_seats hone hp hv hu.2⟩)
      ⟨rfl, fun t name hslot => by cases hslot⟩
    apply hloop.mono
    rintro r u ⟨rfl, ⟨hrecords, _⟩, hall, _⟩ _
    exact ⟨fun p hp htype => hall p (hrecords ▸ hp) htype,
      fun p hp _ => hrecords.symm ▸ hp⟩

theorem evolves_oneEach (hw : Kept w.records) (hseat : Seated w) (h : Evolves w v u)
    (hv : Kept v.records ∧ OneEach v.records) : Kept u.records ∧ OneEach u.records := by
  refine ⟨evolves_keeps hw h hv.1, ?_⟩
  rcases h with heq | ⟨_, hwritten⟩
  · exact heq ▸ hv.2
  · exact written_oneEach hw hseat hwritten

theorem startup_along {types : List String} (h : Kept ps) (hone : OneEach ps) :
    Along act (fun v u => Kept v.records ∧ OneEach v.records →
        Kept u.records ∧ OneEach u.records) (startup cfg types) (.restarted ps) fun r u =>
      Kept u.records ∧ OneEach u.records ∧ ∃ go, r = some go ∧ (go = true → Retained ps u) := by
  apply along_bind.mpr
  have hload := (loadPersisted_along cfg (s := .restarted ps) (I := fun _ => True)
    (R := fun v u => Kept v.records ∧ OneEach v.records → Kept u.records ∧ OneEach u.records)
    (fun v u heq hv => heq ▸ hv) trivial fun _ _ _ _ _ _ _ => trivial).and_ensures
      (loadPersisted_seats hone)
  apply hload.mono (fun _ _ hr => hr)
  rintro r v ⟨⟨⟨err, rfl⟩, hrecords, _⟩, hseats⟩
  have hrecords : v.records = ps := hrecords
  cases err with
  | some e => exact ⟨hrecords.symm ▸ h, hrecords.symm ▸ hone, false, rfl, fun hgo => by cases hgo⟩
  | none =>
    have hretained := hseats rfl
    apply along_bind.mpr
    apply (registerEmbedded_along cfg types (I := Retained ps) (hrecords.symm ▸ h) hretained
      (fun w v u hw hi hr hv => evolves_oneEach hw hi.1 hr hv)
      (fun p v u _ huniq hi hst => staled_retained hst huniq hi)
      fun st _ v u hv hi he => embedded_retained he hv hi).mono (fun _ _ hr => hr)
    rintro r u ⟨rfl, hkept, hi⟩
    exact ⟨hkept, hi.1.oneEach hkept, true, rfl, fun _ => hi⟩

theorem life_along (life : Life) (h : Kept s.records ∧ OneEach s.records) :
    Along act (fun v u => Kept v.records ∧ OneEach v.records →
        Kept u.records ∧ OneEach u.records) (life.body cfg syn) s fun _ u =>
      Kept u.records ∧ OneEach u.records := by
  apply along_perform_bind.mpr
  rintro _ v ⟨_, rfl⟩
  refine ⟨fun _ => h, ?_⟩
  apply along_bind.mpr
  apply (startup_along h.1 h.2).mono (fun _ _ hr => hr)
  rintro r v ⟨hkept, hone, go, rfl, hretained⟩
  apply along_ite.mpr
  refine ⟨fun hgo => ?_, fun _ => ⟨hkept, hone⟩⟩
  have hrequest : ∀ request ∈ life.requests, ∀ v : AgentState, Kept v.records ∧ Seated v →
      Along act (fun v u => Kept v.records ∧ OneEach v.records →
        Kept u.records ∧ OneEach u.records) (createProvider cfg syn request) v fun r u =>
        r = some () ∧ Kept u.records ∧ Seated u := fun request _ v hv =>
    createProvider_along cfg syn request hv.1 hv.2
      (fun w u hr hw => evolves_oneEach hv.1 hv.2 hr hw)
      fun input out u _ hr => registered_seated hr hv.1 hv.2
  exact (Along.each hrequest ⟨hkept, (hretained hgo).1⟩).mono (fun _ _ hr => hr)
    fun _ u hu => ⟨hu.2.1, hu.2.2.oneEach hu.2.1⟩

/-- Whatever processes have run on the file and wherever they ended: if a new process gets past
the loading of the file, each external record is in the file unchanged and holds its slot after
the embedded providers are registered. -/
theorem restart_retention {c : Registration Unit × AgentState} (h : Lives cfg syn c)
    (types : List String) :
    ∀ r u, Performs act (startup cfg types) (.restarted c.2.records) r u → r = some true →
      ∀ p ∈ c.2.records, p.type = .external →
        p ∈ u.records ∧ u.slots p.serviceType = some p.name := by
  have hrun := Reached.along (p := c.1) (u := c.2)
    (I := fun u => Kept u.records ∧ OneEach u.records)
    (J := fun u => Kept u.records ∧ OneEach u.records) h
    ⟨Kept.nil, fun p hp => absurd hp List.not_mem_nil⟩ (fun _ hv => hv) (fun _ _ hr hv => hr hv)
    fun life v hv _ => life_along life (hv.elim (fun hv => hv) fun hv => hv.2)
  obtain ⟨hkept, hone⟩ := hrun.1
  intro r u hperforms hr p hp htype
  obtain ⟨_, _, go, hgo, hretained⟩ :=
    ensures_iff.mp (startup_along hkept hone).ensures r u hperforms
  obtain rfl : go = true := by
    rw [hr] at hgo
    exact (Option.some.inj hgo).symm
  obtain ⟨hseated, hmem⟩ := hretained rfl
  exact ⟨hmem p hp htype, hseated p (hmem p hp htype) htype⟩

end

theorem ext_lives : Allows act (Life.body monitoring plainSyntax ⟨[], [extRequest]⟩) (.restarted [])
    fun _ u => u.records = [externalRecord "u2" extInput 1] := by
  have hin : validateRequest plainSyntax extRequest = .ok extInput := by decide
  refine ⟨(), _, ⟨trivial, rfl⟩, some [], _, ⟨Or.inr rfl, rfl⟩, some [], _, ⟨Or.inr rfl, rfl⟩, ?_⟩
  change Allows act ((createProvider monitoring plainSyntax extRequest).bind fun _ => .ret ()) _ _
  simp only [createProvider, hin]
  refine ⟨some none, _, ⟨Or.inr rfl, rfl⟩, "u2", _, ⟨⟨by decide, by decide, rfl, rfl⟩, rfl⟩, none, _,
    ⟨rfl, rfl⟩, 1, _, ⟨Nat.one_ne_zero, rfl⟩, true, _, ⟨fun _ => by decide, rfl⟩, (), _,
    ⟨trivial, rfl⟩, .registered none, _, ⟨fun _ h => (by cases h), rfl⟩, ?_⟩
  exact (rfl : _ = _)

theorem ext_restarts : Allows act (startup monitoring ["vm"])
    (.restarted [externalRecord "u2" extInput 1]) fun r _ => r = some true := by
  have htypes : enabledTypes ["vm"] = ["vm"] := by decide
  simp only [startup, registerEmbedded, htypes]
  refine ⟨some [externalRecord "u2" extInput 1], _, ⟨Or.inr rfl, rfl⟩, none, _, ⟨rfl, rfl⟩, (), _,
    ⟨trivial, rfl⟩, .registered none, _, ⟨fun _ h => (by cases h), rfl⟩,
    some [externalRecord "u2" extInput 1], _, ⟨Or.inr rfl, rfl⟩, some none, _, ⟨Or.inr rfl, rfl⟩,
    some (servedBy "vm" "ext"), _, ⟨rfl, rfl⟩, rfl⟩

theorem restart_retention_ext :
    ∃ c u, Lives monitoring plainSyntax c ∧ c.2.records = [externalRecord "u2" extInput 1] ∧
      Performs act (startup monitoring ["vm"]) (.restarted c.2.records) (some true) u ∧
      externalRecord "u2" extInput 1 ∈ u.records ∧ u.slots "vm" = some "ext" := by
  obtain ⟨_, s, hlife, hrecords⟩ := allows_iff.mp ext_lives
  have hcalls : Calls act (Life.body monitoring plainSyntax) (fun _ _ => True) (.restarted [])
      [⟨[], [extRequest]⟩] s := .snoc (.nil _) trivial (c := Life.mk [] [extRequest]) hlife
  obtain ⟨p, _, hreached⟩ := hcalls.reached (fun _ => True)
  obtain ⟨r, u, hperforms, rfl⟩ := allows_iff.mp ext_restarts
  rw [← hrecords] at hperforms
  exact ⟨(p, s), u, hreached, hrecords, hperforms,
    restart_retention hreached ["vm"] _ u hperforms rfl _
      (hrecords ▸ List.mem_singleton_self _) rfl⟩

end RestartRetention
