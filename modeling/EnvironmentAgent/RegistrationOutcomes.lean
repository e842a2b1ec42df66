import EnvironmentAgent.ProviderService

/-! # What a call can do

For each function of the registration service, everything it can leave behind, and what its only
write to the file may be. -/
namespace RegistrationOutcomes

open AtomicPrograms SequentialPrograms ProviderState ProviderValidation ProviderService

structure Kept (ps : Records) : Prop where
  distinct : ps.Distinct
  valid : ∀ p ∈ ps, validateStoredProvider p = none

/-- A saved record keeps the identity of its name's or has a new id; its slot is nobody else's,
unless the record of its name had the same service type. -/
structure Saves (s : AgentState) (p : StoredProvider) : Prop where
  valid : validateStoredProvider p = none
  ids : ∀ q ∈ s.records, q.id = p.id → q.name = p.name
  same : ∀ q ∈ s.records, q.name = p.name →
    q.id = p.id ∧ q.createTime = p.createTime ∧ q.type = p.type
  slot : s.slots.otherHolder p.name p.serviceType = none ∨
    ∃ q ∈ s.records, q.name = p.name ∧ q.serviceType = p.serviceType

inductive Written (s : AgentState) : Records → Prop where
  | saved {p : StoredProvider} (h : Saves s p) : Written s (s.records.save p)
  | deleted {name : String} (h : ∀ q ∈ s.records, q.name = name → q.type = .embedded) :
      Written s (s.records.delete name)

def Evolves (s v u : AgentState) : Prop :=
  u.records = v.records ∨ v.records = s.records ∧ Written s u.records

variable {id : String}

section
variable {s v u : AgentState} {p q : StoredProvider} {ps : Records} {α : Type}

theorem Kept.nil : Kept [] := ⟨List.Pairwise.nil, List.forall_mem_nil _⟩

theorem Kept.save (h : Kept s.records) (hp : Saves s p) : Kept (s.records.save p) := by
  refine ⟨h.distinct.save hp.ids, fun q hq => ?_⟩
  rcases mem_of_mem_save hq with rfl | hq
  · exact hp.valid
  · exact h.valid q hq

theorem Kept.mem_save (h : Kept s.records) (hp : Saves s p) (hq : q ∈ s.records.save p) :
    q = p ∨ q ∈ s.records ∧ q.name ≠ p.name := by
  by_cases hname : q.name = p.name
  · exact Or.inl ((h.save hp).distinct.eq_of_name hq mem_save_self hname)
  · exact Or.inr ⟨(mem_of_mem_save hq).resolve_left fun heq => hname (heq ▸ rfl), hname⟩

theorem Kept.delete (h : Kept ps) (name : String) : Kept (ps.delete name) :=
  ⟨h.distinct.delete name, fun q hq => h.valid q (List.mem_of_mem_filter hq)⟩

theorem Kept.written (h : Kept s.records) (hw : Written s ps) : Kept ps := by
  cases hw with
  | saved hp => exact h.save hp
  | deleted _ => exact h.delete _

theorem Kept.eq_of_getByName {name : String} (h : Kept ps) (hget : ps.getByName name = some p)
    (hq : q ∈ ps) (hname : q.name = name) : q = p :=
  h.distinct.eq_of_name hq (getByName_some hget).1 (hname.trans (getByName_some hget).2.symm)

theorem Kept.getByName_eq {name : String} (h : Kept ps) (hp : p ∈ ps) (hname : p.name = name) :
    ps.getByName name = some p := by
  cases hget : ps.getByName name with
  | none => exact absurd hname (getByName_none hget hp)
  | some q => rw [h.eq_of_getByName hget hp hname]

theorem valid_id (h : validateStoredProvider p = none) : p.id ≠ "" := by
  intro heq
  simp [validateStoredProvider, heq] at h

theorem valid_createTime (h : validateStoredProvider p = none) : p.createTime ≠ 0 := by
  intro heq
  simp only [validateStoredProvider, heq] at h
  grind

theorem evolves_kept {o : Op} (ho : ¬ Writes o) {x : o.Ans} (h : act o v x u) : Evolves s v u :=
  Or.inl (records_kept ho h)

theorem evolves_save {x : Bool} (hv : v.records = s.records) (h : act (.save p) v x u)
    (hp : validateStoredProvider p = none → Saves s p) : Evolves s v u := by
  obtain ⟨hvalid, rfl⟩ := h
  cases x with
  | false => exact Or.inl rfl
  | true =>
    right
    refine ⟨hv, ?_⟩
    change Written s (v.records.save p)
    rw [hv]
    exact .saved (hp (hvalid rfl))

theorem evolves_of_eq : ∀ v u : AgentState, u.records = v.records → Evolves s v u :=
  fun _ _ h => Or.inl h

theorem tracksOp_kept {o : Op} (ho : TracksOp id o) : ¬ Writes o := by
  cases o <;> first | exact fun h => h | exact False.elim ho

theorem track_along {R : AgentState → AgentState → Prop}
    (hR : ∀ v u : AgentState, u.records = v.records → R v u)
    (cfg : ServiceConfig) (id endpoint st : String) (b : Bool) :
    Along act R (trackExternalProvider cfg id endpoint st b) v fun r u =>
      r = some () ∧ Tracks id v u := by
  apply Along.of_uses (trackExternalProvider_uses cfg id endpoint st b)
    fun _ ho _ _ _ ha => hR _ _ (records_kept (tracksOp_kept ho) ha)
  apply ensures_iff.mpr
  intro r u hp
  refine ⟨?_, ensures_iff.mp (trackExternalProvider_tracks cfg id endpoint st b) r u hp⟩
  have hends : Ensures act (trackExternalProvider cfg id endpoint st b) v fun r _ =>
      r = some () := by
    intro _ w _
    change Ensures act (if _ then _ else _) w _
    split
    · exact fun _ _ _ => rfl
    · exact rfl
  exact ensures_iff.mp hends r u hp

end

inductive Registered (input : RegistrationInput) (s : AgentState) :
    Except ServiceErr (StoredProvider × Bool) → AgentState → Prop where
  | refused (err : ServiceErr) : Registered input s (.error err) s
  | created {id : String} {now : Time} {u : AgentState}
      (hnone : s.records.getByName input.name = none)
      (hfree : s.slots.otherHolder input.name input.serviceType = none)
      (hsaves : Saves s (externalRecord id input now))
      (ht : Tracks id
        { s with
          records := s.records.save (externalRecord id input now)
          slots := Function.update s.slots input.serviceType (some input.name) } u) :
      Registered input s (.ok (externalRecord id input now, true)) u
  | unsaved (hnone : s.records.getByName input.name = none)
      (hassigned : ∀ id, input.providerID = some id → id ≠ "" ∧ s.records.getByID id = none)
      (hfree : s.slots.otherHolder input.name input.serviceType = none) :
      Registered input s (.error .store) { s with slots := s.slots.release input.serviceType }
  | kept {p : StoredProvider} {now : Time} {u : AgentState}
      (hget : s.records.getByName input.name = some p)
      (hid : ensureIDConsistency p.id input.providerID = none)
      (hsame : p.serviceType = input.serviceType) (hsaves : Saves s (updated p input now))
      (ht : Tracks p.id { s with records := s.records.save (updated p input now) } u)
      (hquiet : p.endpoint = input.endpoint →
        u = { s with records := s.records.save (updated p input now) }) :
      Registered input s (.ok (updated p input now, false)) u
  | moved {p : StoredProvider} {now : Time} {u : AgentState}
      (hget : s.records.getByName input.name = some p)
      (hid : ensureIDConsistency p.id input.providerID = none)
      (hne : p.serviceType ≠ input.serviceType)
      (hmove : (s.slots.move p.name p.serviceType input.serviceType).1 = none)
      (hsaves : Saves s (updated p input now))
      (ht : Tracks p.id
        { s with
          records := s.records.save (updated p input now)
          slots := (s.slots.move p.name p.serviceType input.serviceType).2 } u) :
      Registered input s (.ok (updated p input now, false)) u
  | movedBack {p : StoredProvider} (hget : s.records.getByName input.name = some p)
      (hid : ensureIDConsistency p.id input.providerID = none)
      (hne : p.serviceType ≠ input.serviceType)
      (hmove : (s.slots.move p.name p.serviceType input.serviceType).1 = none) :
      Registered input s (.error .store)
        { s with
          slots := ((s.slots.move p.name p.serviceType input.serviceType).2.move p.name
            input.serviceType p.serviceType).2 }

section
variable {cfg : ServiceConfig} {syn : URLSyntax} {input : RegistrationInput} {s : AgentState}
  {p : StoredProvider}

theorem updated_saves {now : Time} (h : Kept s.records)
    (hget : s.records.getByName input.name = some p)
    (hslot : p.serviceType = input.serviceType ∨
      (s.slots.move p.name p.serviceType input.serviceType).1 = none)
    (hvalid : validateStoredProvider (updated p input now) = none) :
    Saves s (updated p input now) := by
  obtain ⟨hp, hname⟩ := getByName_some hget
  refine ⟨hvalid, fun q hq heq => ?_, fun q hq heq => ?_, ?_⟩
  · rw [h.distinct.eq_of_id (q := p) hq hp heq]
    rfl
  · rw [h.distinct.eq_of_name (q := p) hq hp heq]
    exact ⟨rfl, rfl, rfl⟩
  · rcases hslot with hsame | hmove
    · exact Or.inr ⟨p, hp, rfl, hsame⟩
    · exact Or.inl (move_granted hmove).1

theorem saveUpdate_along {moved : Bool} {slots : Slots} {v : AgentState} (h : Kept s.records)
    (hget : s.records.getByName input.name = some p)
    (hid : ensureIDConsistency p.id input.providerID = none)
    (hmoved : if moved then p.serviceType ≠ input.serviceType ∧
        (s.slots.move p.name p.serviceType input.serviceType).1 = none ∧
        slots = (s.slots.move p.name p.serviceType input.serviceType).2
      else p.serviceType = input.serviceType ∧ slots = s.slots)
    (hv : v = { s with slots := slots }) :
    Along act (Evolves s) (saveUpdate cfg p input moved) v fun r u =>
      ∃ out, r = some out ∧ Registered input s (out.map fun p => (p, false)) u := by
  have hslot : p.serviceType = input.serviceType ∨
      (s.slots.move p.name p.serviceType input.serviceType).1 = none := by
    cases moved with
    | false => exact Or.inl hmoved.1
    | true => exact Or.inr hmoved.2.1
  subst hv
  intro now v hnow
  refine ⟨evolves_kept (o := .now) id hnow, ?_⟩
  obtain ⟨_, rfl⟩ := hnow
  intro saved v hsaved
  refine ⟨evolves_save (by rfl) hsaved (updated_saves h hget hslot), ?_⟩
  obtain ⟨hvalid, rfl⟩ := hsaved
  apply along_ite.mpr
  constructor
  · intro htrue
    subst htrue
    have hsaves := updated_saves h hget hslot (hvalid rfl)
    -- The record is in the file; what is left is to track the provider, if anything changed.
    apply along_ite.mpr
    constructor
    · intro hchanged
      apply along_bind.mpr
      apply (track_along evolves_of_eq _ _ _ _ _).mono (fun _ _ hr => hr)
      intro r u hboth
      obtain ⟨hr, ht⟩ := hboth
      subst hr
      refine ⟨_, rfl, ?_⟩
      cases moved with
      | false =>
        obtain ⟨hsame, rfl⟩ := hmoved
        refine .kept hget hid hsame hsaves ht fun heq => ?_
        exact absurd heq (hchanged.resolve_right (by decide))
      | true =>
        obtain ⟨hne, hmove, rfl⟩ := hmoved
        exact .moved hget hid hne hmove hsaves ht
    · intro hquiet
      rw [not_or] at hquiet
      obtain rfl : moved = false := by simpa using hquiet.2
      obtain ⟨hsame, rfl⟩ := hmoved
      exact ⟨_, rfl, .kept hget hid hsame hsaves (Tracks.refl _ _) fun _ => rfl⟩
  · intro hfail
    obtain rfl : saved = false := by simpa using hfail
    apply along_ite.mpr
    constructor
    · intro hwas
      subst hwas
      obtain ⟨hne, hmove, rfl⟩ := hmoved
      intro x u hback
      refine ⟨evolves_kept (o := .move _ _ _) id hback, ?_⟩
      obtain ⟨_, rfl⟩ := hback
      exact ⟨_, rfl, .movedBack hget hid hne hmove⟩
    · intro hnot
      obtain rfl : moved = false := by simpa using hnot
      obtain ⟨_, rfl⟩ := hmoved
      exact ⟨_, rfl, .refused .store⟩

theorem registerExisting_along (h : Kept s.records)
    (hget : s.records.getByName input.name = some p) :
    Along act (Evolves s) (registerExisting cfg p input) s fun r u =>
      ∃ out, r = some out ∧ Registered input s out u := by
  cases hid : ensureIDConsistency p.id input.providerID with
  | some err =>
    simp only [registerExisting, hid]
    exact ⟨_, rfl, .refused err⟩
  | none =>
    simp only [registerExisting, hid]
    apply along_bind.mpr
    have hupdate : Along act (Evolves s) (updateRegistration cfg p input) s fun r u =>
        ∃ out, r = some out ∧ Registered input s (out.map fun p => (p, false)) u := by
      apply along_ite.mpr
      constructor
      · intro hne err v hmove
        refine ⟨evolves_kept (o := .move _ _ _) id hmove, ?_⟩
        obtain ⟨herr, rfl⟩ := hmove
        cases err with
        | some e =>
          refine ⟨_, rfl, ?_⟩
          have hsame : effect (.move p.name p.serviceType input.serviceType) s (some e) = s := by
            simp only [effect, move_refused herr.symm]
          rw [hsame]
          exact .refused _
        | none => exact saveUpdate_along h hget hid ⟨hne, herr.symm, rfl⟩ rfl
      · intro hsame
        exact saveUpdate_along h hget hid ⟨not_not.mp hsame, rfl⟩ rfl
    apply hupdate.mono (fun _ _ hr => hr)
    rintro r u ⟨out, rfl, hout⟩
    exact ⟨_, rfl, hout⟩

theorem assignProviderID_along (requested : Option String) :
    Along act (Evolves s) (assignProviderID requested) s fun r u => u = s ∧
      ∃ out, r = some out ∧ ∀ id, out = .ok id → (∀ q ∈ s.records, q.id ≠ id) ∧
        ∀ id', requested = some id' → id' ≠ "" ∧ s.records.getByID id' = none := by
  cases requested with
  | none =>
    intro x v hgen
    refine ⟨evolves_kept (o := .generateProviderID) id hgen, hgen.2, _, rfl, fun id hid => ?_⟩
    cases hid
    exact ⟨hgen.1.2.1, fun id' hid' => by cases hid'⟩
  | some requested =>
    apply along_ite.mpr
    refine ⟨fun _ => ⟨rfl, _, rfl, fun id hid => by cases hid⟩, fun hne => ?_⟩
    intro x v hget
    refine ⟨evolves_kept (o := .getByID _) id hget, ?_⟩
    obtain ⟨hx, hv⟩ := hget
    rcases x with _ | _ | holder
    · exact ⟨hv, _, rfl, fun id hid => by cases hid⟩
    · refine ⟨hv, _, rfl, fun id hid => ?_⟩
      cases hid
      have hnone : s.records.getByID requested = none := by
        rcases hx with hx | hx
        · cases hx
        · exact (Option.some.inj hx).symm
      refine ⟨fun q hq => getByID_none hnone hq, fun id' hid' => ?_⟩
      cases hid'
      exact ⟨hne, hnone⟩
    · exact ⟨hv, _, rfl, fun id hid => by cases hid⟩

theorem external_saves {now : Time} (hnone : s.records.getByName input.name = none)
    (hfresh : ∀ q ∈ s.records, q.id ≠ id)
    (hfree : s.slots.otherHolder input.name input.serviceType = none)
    (hvalid : validateStoredProvider (externalRecord id input now) = none) :
    Saves s (externalRecord id input now) :=
  ⟨hvalid, fun q hq heq => absurd heq (hfresh q hq),
    fun _ hq heq => absurd heq (getByName_none hnone hq), Or.inl hfree⟩

theorem createRegistration_along (hnone : s.records.getByName input.name = none)
    (hassigned : ∀ id, input.providerID = some id → id ≠ "" ∧ s.records.getByID id = none)
    (hfresh : ∀ q ∈ s.records, q.id ≠ id) :
    Along act (Evolves s) (createRegistration cfg id input) s fun r u =>
      ∃ out, r = some out ∧ Registered input s (out.map fun p => (p, true)) u := by
  intro err v hclaim
  refine ⟨evolves_kept (o := .claim _ _) (fun h => h) hclaim, ?_⟩
  obtain ⟨herr, rfl⟩ := hclaim
  cases err with
  | some e =>
    refine ⟨_, rfl, ?_⟩
    have hsame : effect (.claim input.name input.serviceType) s (some e) = s := by
      simp only [effect, (claim_refused herr.symm).2]
    rw [hsame]
    exact .refused _
  | none =>
    obtain ⟨hfree, hslots⟩ := claim_granted herr.symm
    have hstate : effect (.claim input.name input.serviceType) s none =
        { s with slots := Function.update s.slots input.serviceType (some input.name) } := by
      simp only [effect, hslots]
    rw [hstate]
    intro now v hnow
    refine ⟨evolves_kept (o := .now) (fun h => h) hnow, ?_⟩
    obtain ⟨_, rfl⟩ := hnow
    intro saved v hsaved
    refine ⟨evolves_save (by rfl) hsaved (external_saves hnone hfresh hfree), ?_⟩
    obtain ⟨hvalid, rfl⟩ := hsaved
    apply along_ite.mpr
    constructor
    · intro htrue
      subst htrue
      apply along_bind.mpr
      apply (track_along evolves_of_eq _ _ _ _ _).mono (fun _ _ hr => hr)
      intro r u hboth
      obtain ⟨hr, ht⟩ := hboth
      subst hr
      exact ⟨_, rfl, .created hnone hfree (external_saves hnone hfresh hfree (hvalid rfl)) ht⟩
    · intro hfail
      obtain rfl : saved = false := by simpa using hfail
      intro x u hrelease
      refine ⟨evolves_kept (o := .release _) (fun h => h) hrelease, ?_⟩
      obtain ⟨_, rfl⟩ := hrelease
      refine ⟨_, rfl, ?_⟩
      have hreleased : effect (.release input.serviceType)
          { s with slots := Function.update s.slots input.serviceType (some input.name) } x =
          { s with slots := s.slots.release input.serviceType } := by
        simp only [effect, Slots.release, Function.update_idem]
      exact hreleased ▸ .unsaved hnone hassigned hfree

theorem registerLocked_along (h : Kept s.records) (input : RegistrationInput) :
    Along act (Evolves s) (registerLocked cfg input) s fun r u =>
      ∃ out, r = some out ∧ Registered input s out u := by
  intro x v hfind
  refine ⟨evolves_kept (o := .getByName _) id hfind, ?_⟩
  obtain ⟨hx, hv⟩ := hfind
  obtain rfl : s = v := hv.symm
  rcases hx with hx | hx
  · subst hx
    exact ⟨_, rfl, .refused .store⟩
  · subst hx
    cases hget : s.records.getByName input.name with
    | some p => exact registerExisting_along h hget
    | none =>
      change Along act (Evolves s) (registerNew cfg input) s _
      apply along_bind.mpr
      apply (assignProviderID_along input.providerID).mono (fun _ _ hr => hr)
      rintro r u ⟨rfl, out, rfl, hfresh⟩
      cases out with
      | error err => exact ⟨_, rfl, .refused err⟩
      | ok id =>
        obtain ⟨hfresh, hassigned⟩ := hfresh id rfl
        apply along_bind.mpr
        apply (createRegistration_along hget hassigned hfresh).mono (fun _ _ hr => hr)
        rintro r u ⟨out, rfl, hout⟩
        exact ⟨_, rfl, hout⟩

end

/-! ## Executions

Of the outcomes, those that the counterexamples need can all happen. -/

section
variable {cfg : ServiceConfig} {input : RegistrationInput} {s v : AgentState} {p : StoredProvider}

theorem track_allows (id endpoint st : String) (b : Bool) :
    Allows act (trackExternalProvider cfg id endpoint st b) v fun r u =>
      r = some () ∧ Tracks id v u := by
  have hsome : Allows act (trackExternalProvider cfg id endpoint st b) v fun _ _ => True := by
    apply allows_perform_bind.mpr
    refine ⟨(), _, ⟨trivial, rfl⟩, ?_⟩
    change Allows act (if _ then _ else _) _ _
    split
    · exact ⟨.stopped, _, ⟨fun _ h => (by cases h), rfl⟩, trivial⟩
    · trivial
  obtain ⟨r, u, hp, _⟩ := allows_iff.mp hsome
  have htracks := (track_along (v := v) (R := fun _ _ => True) (fun _ _ _ => trivial) cfg id
    endpoint st b).ensures
  exact allows_iff.mpr ⟨r, u, hp, ensures_iff.mp htracks r u hp⟩

theorem saveUpdate_allows {moved : Bool}
    (hvalid : validateStoredProvider (updated p input 1) = none) :
    Allows act (saveUpdate cfg p input moved) v fun r u =>
      r = some (.ok (updated p input 1)) ∧
        Tracks p.id { v with records := v.records.save (updated p input 1) } u := by
  apply allows_perform_bind.mpr
  refine ⟨1, v, ⟨Nat.one_ne_zero, rfl⟩, ?_⟩
  apply allows_perform_bind.mpr
  refine ⟨true, _, ⟨fun _ => hvalid, rfl⟩, ?_⟩
  change Allows act (if p.endpoint ≠ input.endpoint ∨ moved then _ else _) _ _
  split
  · apply allows_bind.mpr
    apply (track_allows _ _ _ _).mono
    rintro r u ⟨rfl, ht⟩
    exact ⟨rfl, ht⟩
  · exact ⟨rfl, Tracks.refl _ _⟩

theorem registerLocked_overwrites (hget : s.records.getByName input.name = some p)
    (hid : ensureIDConsistency p.id input.providerID = none)
    (hslots : p.serviceType = input.serviceType ∨
      (s.slots.move p.name p.serviceType input.serviceType).1 = none)
    (hvalid : validateStoredProvider (updated p input 1) = none) :
    Allows act (registerLocked cfg input) s fun r u =>
      r = some (.ok (updated p input 1, false)) ∧
        u.records = s.records.save (updated p input 1) ∧
        (p.serviceType = input.serviceType → u.slots = s.slots) := by
  apply allows_perform_bind.mpr
  refine ⟨some (some p), s, ⟨Or.inr (congrArg some hget.symm), rfl⟩, ?_⟩
  change Allows act (registerExisting cfg p input) _ _
  simp only [registerExisting, hid]
  apply allows_bind.mpr
  simp only [updateRegistration]
  split
  · next hmoved =>
    apply allows_perform_bind.mpr
    refine ⟨none, _, ⟨(hslots.resolve_left hmoved).symm, rfl⟩, ?_⟩
    apply (saveUpdate_allows hvalid).mono
    rintro r u ⟨rfl, ht⟩
    exact ⟨rfl, ht.records, fun hsame => absurd hsame hmoved⟩
  · apply (saveUpdate_allows hvalid).mono
    rintro r u ⟨rfl, ht⟩
    exact ⟨rfl, ht.records, fun _ => ht.slots⟩

theorem registerLocked_movesBack (hget : s.records.getByName input.name = some p)
    (hid : ensureIDConsistency p.id input.providerID = none)
    (hne : p.serviceType ≠ input.serviceType)
    (hmove : (s.slots.move p.name p.serviceType input.serviceType).1 = none) :
    Allows act (registerLocked cfg input) s fun r u => r = some (.error .store) ∧
      u.slots = Function.update (s.slots.release input.serviceType) p.serviceType
        (some p.name) := by
  apply allows_perform_bind.mpr
  refine ⟨some (some p), s, ⟨Or.inr (congrArg some hget.symm), rfl⟩, ?_⟩
  change Allows act (registerExisting cfg p input) _ _
  simp only [registerExisting, hid]
  apply allows_bind.mpr
  simp only [updateRegistration, if_pos hne]
  refine ⟨none, _, ⟨hmove.symm, rfl⟩, 1, _, ⟨Nat.one_ne_zero, rfl⟩, false, _,
    ⟨fun h => (by cases h), rfl⟩, _, _, ⟨rfl, rfl⟩, rfl, ?_⟩
  exact move_back hne hmove

theorem registerLocked_unsaved (hget : s.records.getByName input.name = none)
    (hassign : Allows act (assignProviderID input.providerID) s fun r u =>
      r = some (.ok id) ∧ u = s) (hfree : s.slots.otherHolder input.name input.serviceType = none) :
    Allows act (registerLocked cfg input) s fun r u => r = some (.error .store) ∧
      u.slots = s.slots.release input.serviceType := by
  have hclaim : s.slots.claim input.name input.serviceType =
      (none, Function.update s.slots input.serviceType (some input.name)) := by
    simp only [Slots.claim, hfree]
  apply allows_perform_bind.mpr
  refine ⟨some none, s, ⟨Or.inr (congrArg some hget.symm), rfl⟩, ?_⟩
  change Allows act (registerNew cfg input) _ _
  apply allows_bind.mpr
  apply hassign.mono
  rintro r u ⟨rfl, rfl⟩
  apply allows_bind.mpr
  refine ⟨none, _, ⟨(congrArg Prod.fst hclaim).symm, rfl⟩, 1, _, ⟨Nat.one_ne_zero, rfl⟩, false, _,
    ⟨fun h => (by cases h), rfl⟩, (), _, ⟨trivial, rfl⟩, rfl, ?_⟩
  change (u.slots.claim input.name input.serviceType).2.release _ = _
  rw [hclaim]
  exact Function.update_idem ..

end

inductive Loaded (p : StoredProvider) (s : AgentState) : AgentState → Prop where
  | skipped (h : p.type ≠ .external ∨ s.slots.otherHolder p.name p.serviceType ≠ none) :
      Loaded p s s
  | claimed {u : AgentState} (htype : p.type = .external)
      (hfree : s.slots.otherHolder p.name p.serviceType = none)
      (ht : Tracks p.id
        { s with slots := Function.update s.slots p.serviceType (some p.name) } u) : Loaded p s u

structure Cleaned (cfg : ServiceConfig) (p : StoredProvider) (s u : AgentState) : Prop where
  records : u.records = s.records ∨ u.records = s.records.delete p.name
  slots : u.slots = s.slots
  states : u.states = Function.update s.states p.id none
  monitored : u.monitored =
    if cfg.mon then Function.update s.monitored p.id none else s.monitored

inductive Staled (cfg : ServiceConfig) (enabled : List String) (p : StoredProvider)
    (s : AgentState) : AgentState → Prop where
  | kept : Staled cfg enabled p s s
  | removed {u : AgentState} (htype : p.type = .embedded) (hstale : p.serviceType ∉ enabled)
      (hu : Cleaned cfg p
        { s with
          slots := if s.slots p.serviceType = some p.name then s.slots.release p.serviceType
            else s.slots } u) : Staled cfg enabled p s u

inductive Embedded (cfg : ServiceConfig) (st : String) (s : AgentState) : AgentState → Prop where
  | skipped : Embedded cfg st s s
  | displaced {p : StoredProvider} {u : AgentState} (hget : s.records.getByName st = some p)
      (htype : p.type = .embedded) (hheld : s.slots.otherHolder st st ≠ none)
      (hu : Cleaned cfg p s u) : Embedded cfg st s u
  | unsaved (hnone : s.records.getByName st = none) (hfree : s.slots.otherHolder st st = none) :
      Embedded cfg st s { s with slots := s.slots.release st }
  | stale {p : StoredProvider} {u : AgentState} (hget : s.records.getByName st = some p)
      (htype : p.type = .embedded) (hfree : s.slots.otherHolder st st = none)
      (ht : Tracks p.id { s with slots := Function.update s.slots st (some st) } u) :
      Embedded cfg st s u
  | saved {id : String} {createTime now : Time} {u : AgentState}
      (hfree : s.slots.otherHolder st st = none)
      (hsaves : Saves s (embeddedRecord st id createTime now))
      (ht : Tracks id
        { s with
          records := s.records.save (embeddedRecord st id createTime now)
          slots := Function.update s.slots st (some st) } u) : Embedded cfg st s u

variable {enabled : List String} {existing : Option StoredProvider}

section
variable {cfg : ServiceConfig} {s v : AgentState} {p : StoredProvider} {st : String}

theorem loadProvider_along {R : AgentState → AgentState → Prop}
    (hR : ∀ v u : AgentState, u.records = v.records → R v u) (p : StoredProvider) :
    Along act R (loadProvider cfg p) v fun r u => r = some () ∧ Loaded p v u := by
  apply along_ite.mpr
  refine ⟨fun htype => ⟨rfl, .skipped (Or.inl htype)⟩, fun htype err u hclaim => ?_⟩
  refine ⟨hR _ _ (records_kept (o := .claim _ _) id hclaim), ?_⟩
  obtain ⟨herr, rfl⟩ := hclaim
  cases err with
  | some e =>
    have hheld := (claim_refused herr.symm).1
    have hsame : effect (.claim p.name p.serviceType) v (some e) = v := by
      simp only [effect, (claim_refused herr.symm).2]
    rw [hsame]
    exact ⟨rfl, .skipped (Or.inr hheld)⟩
  | none =>
    obtain ⟨hfree, hslots⟩ := claim_granted herr.symm
    apply (track_along hR _ _ _ _ _).mono (fun _ _ hr => hr)
    intro r u hboth
    obtain ⟨hr, ht⟩ := hboth
    refine ⟨hr, .claimed (not_not.mp htype) hfree ?_⟩
    simp only [effect, hslots] at ht
    exact ht

theorem cleanupEmbeddedRecord_along (hv : v.records = s.records)
    (hdel : ∀ q ∈ s.records, q.name = p.name → q.type = .embedded) :
    Along act (Evolves s) (cleanupEmbeddedRecord cfg p) v fun r u =>
      r = some () ∧ Cleaned cfg p v u := by
  intro deleted w hdeleted
  have hrecords : w.records = v.records ∨ w.records = v.records.delete p.name := by
    obtain ⟨_, rfl⟩ := hdeleted
    cases deleted with
    | false => exact Or.inl rfl
    | true => exact Or.inr rfl
  have hrest : w.slots = v.slots ∧ w.states = v.states ∧ w.monitored = v.monitored := by
    obtain ⟨_, rfl⟩ := hdeleted
    cases deleted <;> exact ⟨rfl, rfl, rfl⟩
  constructor
  · rcases hrecords with hsame | hgone
    · exact Or.inl hsame
    · right
      refine ⟨hv, ?_⟩
      rw [hgone, hv]
      exact .deleted hdel
  · intro _ w' hstate
    refine ⟨evolves_kept (o := .deleteState _) id hstate, ?_⟩
    obtain ⟨_, rfl⟩ := hstate
    change Along act _ (if cfg.mon then _ else _) _ _
    apply along_ite.mpr
    constructor
    · intro hmon _ u hderegister
      refine ⟨evolves_kept (o := .deregisterProvider _) id hderegister, rfl, ?_⟩
      obtain ⟨_, rfl⟩ := hderegister
      refine ⟨hrecords, hrest.1, ?_, ?_⟩
      · change Function.update w.states p.id none = _
        rw [hrest.2.1]
      · change Function.update w.monitored p.id none = _
        rw [hrest.2.2, if_pos hmon]
    · intro hmon
      refine ⟨rfl, hrecords, hrest.1, ?_, ?_⟩
      · change Function.update w.states p.id none = _
        rw [hrest.2.1]
      · rw [if_neg hmon]
        exact hrest.2.2

theorem removeStale_along
    (hdel : p.type = .embedded → ∀ q ∈ s.records, q.name = p.name → q.type = .embedded) :
    Along act (Evolves s) (removeStale cfg enabled p) s fun r u =>
      r = some () ∧ Staled cfg enabled p s u := by
  apply along_ite.mpr
  constructor
  · intro hboth holder v hlookup
    obtain ⟨htype, hstale⟩ := hboth
    refine ⟨evolves_kept (o := .lookup _) id hlookup, ?_⟩
    obtain ⟨hx, hv⟩ := hlookup
    obtain rfl : s = v := hv.symm
    obtain rfl : holder = s.slots p.serviceType := hx
    apply along_ite.mpr
    constructor
    · intro hholder _ u hrelease
      refine ⟨evolves_kept (o := .release _) id hrelease, ?_⟩
      obtain ⟨_, rfl⟩ := hrelease
      apply (cleanupEmbeddedRecord_along (s := s)
        (v := { s with slots := s.slots.release p.serviceType }) rfl (hdel htype)).mono
          (fun _ _ hr => hr)
      intro r u hboth
      obtain ⟨hr, hu⟩ := hboth
      exact ⟨hr, .removed htype hstale ((if_pos hholder).symm ▸ hu)⟩
    · intro hholder
      apply (cleanupEmbeddedRecord_along (s := s) (by rfl) (hdel htype)).mono (fun _ _ hr => hr)
      intro r u hboth
      obtain ⟨hr, hu⟩ := hboth
      exact ⟨hr, .removed htype hstale ((if_neg hholder).symm ▸ hu)⟩
  · intro _
    exact ⟨rfl, .kept⟩

theorem resolveEmbeddedIdentity_along (h : Kept s.records) (hex : s.records.getByName st = existing)
    (hv : v.records = s.records) (htype : ∀ p, existing = some p → p.type = .embedded) (now : Time)
    :
    Along act (Evolves s) (resolveEmbeddedIdentity existing now) v fun r u => u = v ∧
      ∃ i, r = some i ∧ (∀ q ∈ s.records, q.id = i.1 → q.name = st) ∧
        (∀ p, existing = some p → i = (p.id, p.createTime)) := by
  cases existing with
  | none =>
    intro x u hgen
    refine ⟨evolves_kept (o := .generateProviderID) id hgen, hgen.2, _, rfl, fun q hq heq => ?_,
      fun _ hp => by cases hp⟩
    exact absurd heq (hgen.1.2.1 q (hv ▸ hq))
  | some p =>
    obtain ⟨hp, hname⟩ := getByName_some hex
    have hvalid := h.valid p hp
    simp only [resolveEmbeddedIdentity, htype p rfl, ne_eq, not_true, if_false,
      if_neg (valid_id hvalid), if_neg (valid_createTime hvalid)]
    refine ⟨rfl, _, rfl, fun q hq heq => ?_, fun q hq => ?_⟩
    · rw [h.distinct.eq_of_id hq hp heq]
      exact hname
    · cases hq
      rfl

theorem monitorEmbedded_along (st id : String) (now : Time) :
    Along act (Evolves s) (monitorEmbedded cfg st id now) v fun r u =>
      r = some () ∧ Tracks id v u := by
  apply along_ite.mpr
  constructor
  · intro _ x u h
    exact ⟨evolves_kept (o := .registerProvider _ _ _ _) (fun h => h) h, rfl,
      tracks_of_act (o := .registerProvider _ _ _ _) rfl h⟩
  · intro _ x u h
    exact ⟨evolves_kept (o := .setState _ _) (fun h => h) h, rfl,
      tracks_of_act (o := .setState _ _) rfl h⟩

theorem saveEmbedded_along (h : Kept s.records) (hex : s.records.getByName st = existing)
    (htype : ∀ p, existing = some p → p.type = .embedded) (hfree : s.slots.otherHolder st st = none)
    (hv : v = { s with slots := Function.update s.slots st (some st) }) :
    Along act (Evolves s) (saveEmbedded cfg st existing) v fun r u =>
      r = some () ∧ Embedded cfg st s u := by
  subst hv
  apply along_perform_bind.mpr
  intro now v hnow
  refine ⟨evolves_kept (o := .now) id hnow, ?_⟩
  obtain ⟨_, rfl⟩ := hnow
  apply along_bind.mpr
  apply (resolveEmbeddedIdentity_along h hex (by rfl) htype now).mono (fun _ _ hr => hr)
  rintro r _ ⟨rfl, i, rfl, hids, hsame⟩
  have hsaves : validateStoredProvider (embeddedRecord st i.1 i.2 now) = none →
      Saves s (embeddedRecord st i.1 i.2 now) := by
    intro hvalid
    refine ⟨hvalid, hids, fun q hq hname => ?_, Or.inl hfree⟩
    cases existing with
    | none => exact absurd hname (getByName_none hex hq)
    | some p =>
      obtain rfl := h.eq_of_getByName hex hq hname
      rw [hsame q rfl]
      exact ⟨rfl, rfl, htype q rfl⟩
  intro persisted v hsaved
  refine ⟨evolves_save (by rfl) hsaved hsaves, ?_⟩
  obtain ⟨hvalid, rfl⟩ := hsaved
  apply along_ite.mpr
  constructor
  · intro hboth x u hrelease
    obtain ⟨hfail, hnone⟩ := hboth
    refine ⟨evolves_kept (o := .release _) id hrelease, rfl, ?_⟩
    obtain ⟨_, rfl⟩ := hrelease
    subst hfail
    subst hnone
    have hreleased : effect (.release st)
        { s with slots := Function.update s.slots st (some st) } x =
        { s with slots := s.slots.release st } := by
      simp only [effect, Slots.release, Function.update_idem]
    exact hreleased ▸ .unsaved hex hfree
  · intro hgo
    apply (monitorEmbedded_along st i.1 now).mono (fun _ _ hr => hr)
    intro r u hboth
    obtain ⟨hr, ht⟩ := hboth
    refine ⟨hr, ?_⟩
    cases persisted with
    | true => exact .saved hfree (hsaves (hvalid rfl)) ht
    | false =>
      cases existing with
      | none => exact absurd ⟨rfl, rfl⟩ hgo
      | some p =>
        rw [hsame p rfl] at ht
        exact .stale hex (htype p rfl) hfree ht

theorem registerEmbeddedType_along (h : Kept s.records) (st : String) :
    Along act (Evolves s) (registerEmbeddedType cfg st) s fun r u =>
      r = some () ∧ Embedded cfg st s u := by
  intro x v hfind
  refine ⟨evolves_kept (o := .getByName _) id hfind, ?_⟩
  obtain ⟨hx, hv⟩ := hfind
  obtain rfl : s = v := hv.symm
  cases x with
  | none => exact ⟨rfl, .skipped⟩
  | some existing =>
    have hex : s.records.getByName st = existing := by
      rcases hx with hx | hx
      · cases hx
      · exact (Option.some.inj hx).symm
    apply along_ite.mpr
    refine ⟨fun _ => ⟨rfl, .skipped⟩, fun hnot => ?_⟩
    have htype : ∀ p, existing = some p → p.type = .embedded := by
      intro p hp
      subst hp
      cases ht : p.type with
      | embedded => rfl
      | external => simp [ht] at hnot
    intro err v hclaim
    refine ⟨evolves_kept (o := .claim _ _) id hclaim, ?_⟩
    obtain ⟨herr, rfl⟩ := hclaim
    cases err with
    | none =>
      obtain ⟨hfree, hslots⟩ := claim_granted herr.symm
      apply saveEmbedded_along h hex htype hfree
      simp only [effect, hslots]
    | some e =>
      have hheld := (claim_refused herr.symm).1
      have hsame : effect (.claim st st) s (some e) = s := by
        simp only [effect, (claim_refused herr.symm).2]
      rw [hsame]
      cases existing with
      | none => exact ⟨rfl, .skipped⟩
      | some p =>
        have hdel : ∀ q ∈ s.records, q.name = p.name → q.type = .embedded := by
          intro q hq hname
          rw [h.distinct.eq_of_name hq (getByName_some hex).1 hname]
          exact htype p rfl
        apply (cleanupEmbeddedRecord_along rfl hdel).mono (fun _ _ hr => hr)
        intro r u hboth
        obtain ⟨hr, hu⟩ := hboth
        exact ⟨hr, .displaced hex (htype p rfl) hheld hu⟩

end

section
variable {cfg : ServiceConfig} {syn : URLSyntax} {s v u : AgentState} {p : StoredProvider}
  {st : String}

theorem Registered.keeps {input : RegistrationInput}
    {out : Except ServiceErr (StoredProvider × Bool)} (h : Registered input s out u)
    (hs : Kept s.records) : Kept u.records := by
  cases h with
  | refused => exact hs
  | created _ _ hsaves ht => exact ht.records ▸ hs.save hsaves
  | unsaved => exact hs
  | kept _ _ _ hsaves ht _ => exact ht.records ▸ hs.save hsaves
  | moved _ _ _ _ hsaves ht => exact ht.records ▸ hs.save hsaves
  | movedBack => exact hs

theorem Loaded.records (h : Loaded p s u) : u.records = s.records := by
  cases h with
  | skipped => rfl
  | claimed _ _ ht => exact ht.records

theorem Cleaned.keeps (h : Cleaned cfg p s u) (hs : Kept s.records) : Kept u.records := by
  rcases h.records with heq | heq
  · exact heq ▸ hs
  · exact heq ▸ hs.delete p.name

variable {q : StoredProvider}

theorem Cleaned.mem (h : Cleaned cfg p s u) (hq : q ∈ u.records) :
    q ∈ s.records := by
  rcases h.records with heq | heq
  · exact heq ▸ hq
  · rw [heq] at hq
    exact List.mem_of_mem_filter hq

theorem Cleaned.mem_of_ne (h : Cleaned cfg p s u) (hq : q ∈ s.records) (hne : q.name ≠ p.name) :
    q ∈ u.records := by
  rcases h.records with heq | heq
  · exact heq ▸ hq
  · rw [heq]
    exact List.mem_filter.mpr ⟨hq, by simpa using hne⟩

theorem Staled.keeps (h : Staled cfg enabled p s u) (hs : Kept s.records) : Kept u.records := by
  cases h with
  | kept => exact hs
  | removed _ _ hu => exact hu.keeps hs

theorem Staled.mem (h : Staled cfg enabled p s u) (hq : q ∈ u.records) : q ∈ s.records := by
  cases h with
  | kept => exact hq
  | removed _ _ hu => exact hu.mem hq

theorem Embedded.keeps (h : Embedded cfg st s u) (hs : Kept s.records) : Kept u.records := by
  cases h with
  | skipped => exact hs
  | displaced _ _ _ hu => exact hu.keeps hs
  | unsaved => exact hs
  | stale _ _ _ ht => exact ht.records ▸ hs
  | saved _ hsaves ht => exact ht.records ▸ hs.save hsaves

variable {I : AgentState → Prop} {R : AgentState → AgentState → Prop}

theorem loadPersisted_along (cfg : ServiceConfig)
    (hR : ∀ v u : AgentState, u.records = v.records → R v u) (hs : I s)
    (load : ∀ p ∈ s.records, ∀ v u, v.records = s.records → I v → Loaded p v u → I u) :
    Along act R (loadPersisted cfg) s fun r u =>
      (∃ err, r = some err) ∧ u.records = s.records ∧ I u := by
  apply along_perform_bind.mpr
  intro x v hlist
  refine ⟨hR _ _ (records_kept (o := .list) id hlist), ?_⟩
  obtain ⟨hx, hv⟩ := hlist
  obtain rfl : s = v := hv.symm
  rcases hx with hx | hx
  · subst hx
    exact ⟨⟨_, rfl⟩, rfl, hs⟩
  · subst hx
    apply along_bind.mpr
    have hloop : Along act R (Prog.each s.records (loadProvider cfg)) s fun r u =>
        r = some () ∧ u.records = s.records ∧ I u := by
      apply Along.each (I := fun u => u.records = s.records ∧ I u) ?_ ⟨rfl, hs⟩
      intro p hp v hboth
      obtain ⟨hv, hi⟩ := hboth
      apply (loadProvider_along hR p).mono (fun _ _ hr => hr)
      intro r u hboth
      obtain ⟨hr, hu⟩ := hboth
      exact ⟨hr, hu.records.trans hv, load p hp v u hv hi hu⟩
    apply hloop.mono (fun _ _ hr => hr)
    intro r u hboth
    obtain ⟨hr, hu⟩ := hboth
    subst hr
    exact ⟨⟨_, rfl⟩, hu⟩

theorem removeStaleEmbedded_along (h : Kept s.records) (hs : I s)
    (hR : ∀ w v u, Kept w.records → I w → Evolves w v u → R v u)
    (stale : ∀ p v u, Kept v.records → (∀ q ∈ v.records, q.name = p.name → q = p) → I v →
      Staled cfg enabled p v u → I u) :
    Along act R (removeStaleEmbedded cfg enabled) s fun r u =>
      r = some () ∧ Kept u.records ∧ I u := by
  apply along_perform_bind.mpr
  intro x v hlist
  refine ⟨hR s _ _ h hs (evolves_kept (o := .list) id hlist), ?_⟩
  obtain ⟨hx, hv⟩ := hlist
  obtain rfl : s = v := hv.symm
  rcases hx with hx | hx
  · subst hx
    exact ⟨rfl, h, hs⟩
  · subst hx
    have hloop : Along act R (Prog.each s.records (removeStale cfg enabled)) s fun r u =>
        r = some () ∧ Kept u.records ∧ I u ∧ ∀ q ∈ u.records, q ∈ s.records := by
      apply Along.each (I := fun u => Kept u.records ∧ I u ∧ ∀ q ∈ u.records, q ∈ s.records)
        ?_ ⟨h, hs, fun _ hq => hq⟩
      intro p hp v hboth
      obtain ⟨hv, hi, hsub⟩ := hboth
      have huniq : ∀ q ∈ v.records, q.name = p.name → q = p := fun q hq heq =>
        h.distinct.eq_of_name (hsub q hq) hp heq
      have hdel : p.type = .embedded → ∀ q ∈ v.records, q.name = p.name → q.type = .embedded :=
        fun htype q hq heq => huniq q hq heq ▸ htype
      apply (removeStale_along hdel).mono fun w u hr => hR v w u hv hi hr
      intro r u hboth
      obtain ⟨hr, hu⟩ := hboth
      exact ⟨hr, hu.keeps hv, stale p v u hv huniq hi hu, fun q hq => hsub q (hu.mem hq)⟩
    apply hloop.mono (fun _ _ hr => hr)
    intro r u hboth
    obtain ⟨hr, hkept, hi, _⟩ := hboth
    exact ⟨hr, hkept, hi⟩

theorem registerEmbedded_along (cfg : ServiceConfig) (types : List String) (h : Kept s.records)
    (hs : I s)
    (hR : ∀ w v u, Kept w.records → I w → Evolves w v u → R v u)
    (stale : ∀ p v u, Kept v.records → (∀ q ∈ v.records, q.name = p.name → q = p) → I v →
      Staled cfg (enabledTypes types) p v u → I u)
    (embed : ∀ st ∈ enabledTypes types, ∀ v u, Kept v.records → I v → Embedded cfg st v u → I u) :
    Along act R (registerEmbedded cfg types) s fun r u =>
      r = some () ∧ Kept u.records ∧ I u := by
  apply along_bind.mpr
  apply (removeStaleEmbedded_along h hs hR stale).mono (fun _ _ hr => hr)
  intro r v hboth
  obtain ⟨hr, hkept, hi⟩ := hboth
  subst hr
  apply Along.each (I := fun u => Kept u.records ∧ I u) ?_ ⟨hkept, hi⟩
  intro st hst v hboth
  obtain ⟨hv, hi⟩ := hboth
  apply (registerEmbeddedType_along hv st).mono fun w u hr => hR v w u hv hi hr
  intro r u hboth
  obtain ⟨hr, hu⟩ := hboth
  exact ⟨hr, hu.keeps hv, embed st hst v u hv hi hu⟩

theorem createProvider_along (cfg : ServiceConfig) (syn : URLSyntax)
    (request : CreateProviderRequest) (h : Kept s.records) (hs : I s)
    (hR : ∀ v u, Evolves s v u → R v u)
    (register : ∀ input out u, validateRequest syn request = .ok input →
      Registered input s out u → I u) :
    Along act R (createProvider cfg syn request) s fun r u =>
      r = some () ∧ Kept u.records ∧ I u := by
  cases hin : validateRequest syn request with
  | error e =>
    simp only [createProvider, hin]
    exact ⟨rfl, h, hs⟩
  | ok input =>
    simp only [createProvider, hin]
    apply along_bind.mpr
    apply (registerLocked_along h input).mono hR
    rintro r u ⟨out, rfl, hout⟩
    exact ⟨rfl, hout.keeps h, register input out u hin hout⟩

theorem restart_performs (cfg : ServiceConfig) (syn : URLSyntax) (s : AgentState) :
    Performs act (Call.body cfg syn .restart) s (some ()) (.restarted s.records) :=
  .call (x := ()) ⟨trivial, rfl⟩ (.ret () _)

theorem restart_along (cfg : ServiceConfig) (syn : URLSyntax)
    (hR : ∀ v u : AgentState, u.records = v.records → R v u)
    (hs : I (.restarted s.records)) :
    Along act R (Call.body cfg syn .restart) s fun _ u => u.records = s.records ∧ I u := by
  intro x u h
  refine ⟨hR _ _ (records_kept (o := .restart) id h), ?_⟩
  obtain ⟨_, rfl⟩ := h
  exact ⟨rfl, hs⟩

end

end RegistrationOutcomes
