import EnvironmentAgent.EmbeddedIdentity

/-! # The identity of stored providers

An id is chosen by the client, generated, or taken over from the record of an embedded provider; the
file is keyed by name only. -/
namespace ProviderIdentity

open AtomicPrograms SequentialPrograms ProviderState ProviderValidation ProviderService
open RegistrationOutcomes EmbeddedIdentity

structure Preserves (v u : AgentState) : Prop where
  kept : Kept u.records
  same : ∀ p ∈ v.records, ∀ q ∈ u.records, q.name = p.name →
    q.id = p.id ∧ q.createTime = p.createTime

def IsRestart : Call → Prop
  | .restart => True
  | _ => False

abbrev Steps (cfg : ServiceConfig) (syn : URLSyntax) :=
  Moves act (Call.body cfg syn) (fun _ _ => True) IsRestart

section
variable {cfg : ServiceConfig} {syn : URLSyntax} {s v u w : AgentState}

theorem evolves_preserves (hw : Kept w.records) (hv : Kept v.records) (h : Evolves w v u) :
    Preserves v u := by
  rcases h with heq | ⟨heq, hwritten⟩
  · refine ⟨heq ▸ hv, fun p hp q hq hname => ?_⟩
    rw [heq] at hq
    rw [hv.distinct.eq_of_name hq hp hname]
    exact ⟨rfl, rfl⟩
  · refine ⟨hw.written hwritten, fun p hp q hq hname => ?_⟩
    rw [heq] at hp
    generalize u.records = ps at hq hwritten
    cases hwritten with
    | saved hsaves =>
      rcases mem_of_mem_save hq with rfl | hq
      · obtain ⟨hid, htime, _⟩ := hsaves.same p hp hname.symm
        exact ⟨hid.symm, htime.symm⟩
      · rw [hw.distinct.eq_of_name hq hp hname]
        exact ⟨rfl, rfl⟩
    | deleted _ =>
      rw [hw.distinct.eq_of_name (List.mem_of_mem_filter hq) hp hname]
      exact ⟨rfl, rfl⟩

theorem call_preserves (c : Call) (h : Kept s.records) :
    Along act (fun v u => Kept v.records → Preserves v u) (c.body cfg syn) s fun _ u =>
      Kept u.records := by
  have hsame : ∀ v u : AgentState, u.records = v.records → Kept v.records → Preserves v u :=
    fun v u heq hv => evolves_preserves hv hv (Or.inl heq)
  cases c with
  | restart =>
    exact (restart_along cfg syn (I := fun _ => True) hsame trivial).mono (fun _ _ hr => hr)
      fun _ u hu => hu.1 ▸ h
  | loadPersisted =>
    apply along_bind.mpr
    apply (loadPersisted_along cfg hsame trivial
      fun _ _ _ _ _ _ _ => trivial).mono (fun _ _ hr => hr)
    rintro r u ⟨⟨err, rfl⟩, hrecords, _⟩
    exact (hrecords ▸ h : Kept u.records)
  | registerEmbedded types =>
    exact (registerEmbedded_along cfg types h trivial
      (fun w v u hw _ hr hv => evolves_preserves hw hv hr) (fun _ _ _ _ _ _ _ => trivial)
      fun _ _ _ _ _ _ _ => trivial).mono (fun _ _ hr => hr) fun _ u hu => hu.2.1
  | createProvider request =>
    exact (createProvider_along cfg syn request h trivial
      (fun v u hr hv => evolves_preserves h hv hr) fun _ _ _ _ _ => trivial).mono
        (fun _ _ hr => hr) fun _ u hu => hu.2.1

theorem run_preserves {c : Registration Unit × AgentState}
    (h : Relation.ReflTransGen (Steps cfg syn) (.ret (), .restarted []) c) :
    Kept c.2.records ∧ Along act (fun v u => Kept v.records → Preserves v u) c.1 c.2
      fun _ u => Kept u.records :=
  Reached.along h Kept.nil
    (fun _ hv => hv) (fun _ _ hr hv => (hr hv).kept) fun c _ hv _ =>
      call_preserves c (hv.elim (fun hv => hv) fun hv => hv.2)

theorem step_preserves {c c' : Registration Unit × AgentState}
    (h : Relation.ReflTransGen (Steps cfg syn) (.ret (), .restarted []) c)
    (hstep : Steps cfg syn c c') : Preserves c.2 c'.2 := by
  obtain ⟨hkept, halong⟩ := run_preserves h
  cases hstep with
  | op ha => exact (halong _ _ ha).1 hkept
  | start _ _ _ => exact evolves_preserves hkept hkept (Or.inl rfl)

/-- In every world of every run the records are distinct; while a record of the name is in the
file, its id and its creation time stay. -/
theorem provider_identity {c : Registration Unit × AgentState}
    (h : Relation.ReflTransGen (Steps cfg syn) (.ret (), .restarted []) c) :
    c.2.records.Distinct ∧ ∀ name c',
      Relation.ReflTransGen
        (fun a b => Steps cfg syn a b ∧ ∃ q ∈ b.2.records, q.name = name) c c' →
      ∀ p ∈ c.2.records, p.name = name → ∀ q ∈ c'.2.records, q.name = name →
        q.id = p.id ∧ q.createTime = p.createTime := by
  refine ⟨(run_preserves h).1.distinct, fun name c' hpath p hp hname => ?_⟩
  have hboth : (∃ r ∈ c'.2.records, r.name = name) ∧ ∀ q ∈ c'.2.records, q.name = name →
      q.id = p.id ∧ q.createTime = p.createTime := by
    induction hpath with
    | refl =>
      refine ⟨⟨p, hp, hname⟩, fun q hq hqname => ?_⟩
      rw [(run_preserves h).1.distinct.eq_of_name hq hp (hqname.trans hname.symm)]
      exact ⟨rfl, rfl⟩
    | @tail a b hpath hab ih =>
      -- The record of the name before the step is the link to the one at the start.
      obtain ⟨⟨r, hr, hrname⟩, hall⟩ := ih
      have ha : Relation.ReflTransGen (Steps cfg syn) (.ret (), .restarted []) a :=
        h.trans (hpath.lift id fun _ _ hstep => hstep.1)
      refine ⟨hab.2, fun q hq hqname => ?_⟩
      obtain ⟨hid, htime⟩ :=
        (step_preserves ha hab.1).same r hr q hq (hqname.trans hrname.symm)
      exact ⟨hid.trans (hall r hr hrname).1, htime.trans (hall r hr hrname).2⟩
  exact hboth.2

end

theorem provider_identity_vm :
    ∃ c c' : Registration Unit × AgentState,
      Relation.ReflTransGen (Steps monitoring plainSyntax) (.ret (), .restarted []) c ∧
      c.2.records = [vmRecord] ∧ c'.2 = .restarted [vmRecord] ∧
      ∀ q ∈ c'.2.records, q.name = "vm" → q.id = "u1" ∧ q.createTime = 1 := by
  obtain ⟨r, s, hp, hrecords, _⟩ := allows_iff.mp vm_registers
  have hcalls : Calls act (Call.body monitoring plainSyntax) (fun _ _ => True) (.restarted [])
      [.registerEmbedded ["vm"]] s :=
    .snoc (.nil _) trivial hp
  obtain ⟨p, hended, hreached⟩ := hcalls.reached IsRestart
  have hmem : vmRecord ∈ s.records := hrecords ▸ List.mem_singleton_self _
  have hstart : Steps monitoring plainSyntax (p, s)
      (Call.body monitoring plainSyntax .restart, s) :=
    .start Call.restart (Or.inl hended) trivial
  have hact : act Op.restart s () (.restarted s.records) := ⟨trivial, rfl⟩
  have hrestart : Steps monitoring plainSyntax
      (Call.body monitoring plainSyntax .restart, s) (.ret (), .restarted s.records) :=
    .op hact
  refine ⟨(p, s), (.ret (), .restarted s.records), hreached, hrecords, by rw [hrecords], ?_⟩
  exact (provider_identity hreached).2 "vm" _
    ((Relation.ReflTransGen.single ⟨hstart, vmRecord, hmem, rfl⟩).tail
      ⟨hrestart, vmRecord, hmem, rfl⟩) vmRecord hmem rfl

end ProviderIdentity
