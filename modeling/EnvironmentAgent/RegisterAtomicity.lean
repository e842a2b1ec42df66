import EnvironmentAgent.RegistryAgreement
import Mathlib.Data.Set.Finite.Basic
import Mathlib.Data.Fintype.EquivFin

/-! # A registration is done or undone

A registration that succeeds holds the slot of its service type and is stored as submitted; one that
fails leaves slots and records as they were. -/
namespace RegisterAtomicity

open AtomicPrograms SequentialPrograms ProviderState ProviderValidation ProviderService
open RegistrationOutcomes EmbeddedIdentity ProviderIdentity RegistryAgreement

structure AllOrNothing (input : RegistrationInput) (s : AgentState)
    (r : Option (Except ServiceErr (StoredProvider × Bool))) (u : AgentState) : Prop where
  done : ∀ out, r = some (.ok out) → u.slots input.serviceType = some input.name ∧
    ∃ q, u.records.getByName input.name = some q ∧ q.endpoint = input.endpoint ∧
      q.serviceType = input.serviceType ∧ q.schemaVersion = input.schemaVersion ∧
      q.operations = input.operations
  undone : ∀ err, r = some (.error err) → u.slots = s.slots ∧ u.records = s.records

/-- A record of the name that gets updated holds the slot of its service type and no other; without
a record the name holds no slot. -/
structure Backed (s : AgentState) (input : RegistrationInput) : Prop where
  same : ∀ p, s.records.getByName input.name = some p →
    ensureIDConsistency p.id input.providerID = none → p.serviceType = input.serviceType →
    validateStoredProvider (updated p input 1) = none →
    s.slots input.serviceType = some input.name
  moved : ∀ p, s.records.getByName input.name = some p →
    ensureIDConsistency p.id input.providerID = none → p.serviceType ≠ input.serviceType →
    (s.slots.move p.name p.serviceType input.serviceType).1 = none →
    s.slots p.serviceType = some p.name ∧ s.slots input.serviceType = none
  fresh : s.records.getByName input.name = none →
    s.slots input.serviceType = some input.name →
    ∃ id, input.providerID = some id ∧ (id = "" ∨ s.records.getByID id ≠ none)

section
variable {ps : Records} {p : StoredProvider} {input : RegistrationInput} {s u : AgentState}

theorem getByName_save_self : (ps.save p).getByName p.name = some p := by
  induction ps with
  | nil => simp [Records.save, Records.getByName]
  | cons q qs ih =>
    simp only [Records.save]
    split
    · simp [Records.getByName]
    · next hne =>
      simp only [Records.getByName, List.find?_cons, decide_eq_false hne] at ih ⊢
      exact ih

theorem updated_valid_one {now : Time} (h : validateStoredProvider (updated p input now) = none) :
    validateStoredProvider (updated p input 1) = none := by
  simp only [validateStoredProvider, updated] at h ⊢
  grind

theorem registered_allOrNothing {out : Except ServiceErr (StoredProvider × Bool)}
    (h : Registered input s out u) (hb : Backed s input) : AllOrNothing input s (some out) u := by
  cases h with
  | refused err =>
    exact ⟨fun _ h => (by cases h), fun _ _ => ⟨rfl, rfl⟩⟩
  | @created id now _ hnone hfree hsaves ht =>
    refine ⟨fun _ _ => ⟨?_, externalRecord id input now, ?_, rfl, rfl, rfl, rfl⟩,
      fun _ h => (by cases h)⟩
    · rw [ht.slots]
      exact Function.update_self ..
    · rw [ht.records]
      exact getByName_save_self (p := externalRecord id input now)
  | unsaved hnone hassigned hfree =>
    refine ⟨fun _ h => (by cases h), fun _ _ => ⟨?_, rfl⟩⟩
    have hslot : s.slots input.serviceType = none := by
      rcases otherHolder_none hfree with hslot | hslot
      · exact hslot
      · obtain ⟨id, hid, hused⟩ := hb.fresh hnone hslot
        obtain ⟨hne, hunused⟩ := hassigned id hid
        exact absurd hused (not_or.mpr ⟨hne, not_not.mpr hunused⟩)
    simp only [Slots.release, ← hslot, Function.update_eq_self]
  | @kept p now _ hget hid hsame hsaves ht _ =>
    have hname : p.name = input.name := (getByName_some hget).2
    refine ⟨fun _ _ => ⟨?_, updated p input now, ?_, rfl, rfl, rfl, rfl⟩,
      fun _ h => (by cases h)⟩
    · rw [ht.slots]
      exact hb.same p hget hid hsame (updated_valid_one hsaves.valid)
    · rw [ht.records, ← hname]
      exact getByName_save_self (p := updated p input now)
  | @moved p now _ hget hid hne hmove hsaves ht =>
    have hname : p.name = input.name := (getByName_some hget).2
    refine ⟨fun _ _ => ⟨?_, updated p input now, ?_, rfl, rfl, rfl, rfl⟩,
      fun _ h => (by cases h)⟩
    · rw [ht.slots]
      dsimp only
      rw [(move_granted hmove).2.2, Function.update_self, hname]
    · rw [ht.records, ← hname]
      exact getByName_save_self (p := updated p input now)
  | @movedBack p hget hid hne hmove =>
    refine ⟨fun _ h => (by cases h), fun _ _ => ⟨?_, rfl⟩⟩
    obtain ⟨hold, hnew⟩ := hb.moved p hget hid hne hmove
    dsimp only
    rw [move_back hne hmove]
    simp only [Slots.release, ← hnew, Function.update_eq_self, ← hold]

end

section
variable {cfg : ServiceConfig} {input : RegistrationInput} {s v : AgentState} {p : StoredProvider}

structure FiniteHealth (s : AgentState) : Prop where
  states : {id | s.states id ≠ none}.Finite
  monitored : {id | s.monitored id ≠ none}.Finite

theorem finite_update {β : Type} {f : String → Option β} (h : {id | f id ≠ none}.Finite)
    (id : String) (b : Option β) : {i | Function.update f id b i ≠ none}.Finite := by
  apply (h.insert id).subset
  intro i hi
  by_cases heq : i = id
  · exact Or.inl heq
  · right
    simpa [Function.update_of_ne heq] using hi

theorem act_finite {o : Op} {x : o.Ans} {u : AgentState} (h : act o s x u)
    (hs : FiniteHealth s) : FiniteHealth u := by
  obtain ⟨_, rfl⟩ := h
  cases o with
  | save q => simp only [effect]; split <;> exact ⟨hs.states, hs.monitored⟩
  | delete name => simp only [effect]; split <;> exact ⟨hs.states, hs.monitored⟩
  | setState id state =>
    simp only [effect]
    split
    · exact hs
    · exact ⟨finite_update hs.states _ _, hs.monitored⟩
  | deleteState id => exact ⟨finite_update hs.states _ _, hs.monitored⟩
  | registerProvider id entry st check =>
    simp only [effect]
    split
    · exact hs
    · exact ⟨hs.states, finite_update hs.monitored _ _⟩
    · refine ⟨?_, finite_update hs.monitored _ _⟩
      dsimp only
      split
      · exact hs.states
      · exact finite_update hs.states _ _
  | deregisterProvider id => exact ⟨hs.states, finite_update hs.monitored _ _⟩
  | restart =>
    exact ⟨by simp [effect, AgentState.restarted], by simp [effect, AgentState.restarted]⟩
  | _ => exact ⟨hs.states, hs.monitored⟩

theorem FiniteHealth.fresh (h : FiniteHealth s) :
    ∃ id, Admits .generateProviderID s id := by
  have hids : {id | ∃ p ∈ s.records, p.id = id}.Finite := by
    apply (List.finite_toSet (s.records.map StoredProvider.id)).subset
    rintro id ⟨p, hp, rfl⟩
    exact List.mem_map_of_mem hp
  have hused := ((hids.union h.states).union h.monitored).insert ""
  obtain ⟨id, hid⟩ := hused.exists_notMem
  simp only [Set.mem_insert_iff, Set.mem_union, Set.mem_ofPred_eq, not_or, not_exists, not_and,
    not_not] at hid
  exact ⟨id, hid.1, hid.2.1.1, hid.2.1.2, hid.2.2⟩

theorem assignProviderID_allows (h : FiniteHealth s)
    (hid : ∀ id, input.providerID = some id → id ≠ "" ∧ s.records.getByID id = none) :
    ∃ id, Allows act (assignProviderID input.providerID) s fun r u =>
      r = some (.ok id) ∧ u = s := by
  cases hrequested : input.providerID with
  | none =>
    obtain ⟨id, hfresh⟩ := h.fresh
    exact ⟨id, id, s, ⟨hfresh, rfl⟩, rfl, rfl⟩
  | some id =>
    obtain ⟨hne, hunused⟩ := hid id hrequested
    refine ⟨id, ?_⟩
    simp only [assignProviderID, if_neg hne]
    exact ⟨some none, s, ⟨Or.inr (congrArg some hunused.symm), rfl⟩, rfl, rfl⟩

theorem same_backed (hall : ∀ r u, Performs act (registerLocked cfg input) s r u →
      AllOrNothing input s r u)
    (hget : s.records.getByName input.name = some p)
    (hid : ensureIDConsistency p.id input.providerID = none)
    (hsame : p.serviceType = input.serviceType)
    (hvalid : validateStoredProvider (updated p input 1) = none) :
    s.slots input.serviceType = some input.name := by
  obtain ⟨r, u, hperforms, hr, _, hslots⟩ :=
    allows_iff.mp (registerLocked_overwrites hget hid (Or.inl hsame) hvalid)
  rw [← hslots hsame]
  exact ((hall r u hperforms).done _ hr).1

theorem moved_backed (hall : ∀ r u, Performs act (registerLocked cfg input) s r u →
      AllOrNothing input s r u)
    (hget : s.records.getByName input.name = some p)
    (hid : ensureIDConsistency p.id input.providerID = none)
    (hne : p.serviceType ≠ input.serviceType)
    (hmove : (s.slots.move p.name p.serviceType input.serviceType).1 = none) :
    s.slots p.serviceType = some p.name ∧ s.slots input.serviceType = none := by
  obtain ⟨r, u, hperforms, hr, hslots⟩ :=
    allows_iff.mp (registerLocked_movesBack hget hid hne hmove)
  have hsame := ((hall r u hperforms).undone _ hr).1
  rw [← hsame, hslots]
  refine ⟨Function.update_self .., ?_⟩
  rw [Function.update_of_ne hne.symm]
  exact Function.update_self ..

theorem fresh_backed (hfinite : FiniteHealth s)
    (hall : ∀ r u, Performs act (registerLocked cfg input) s r u → AllOrNothing input s r u)
    (hget : s.records.getByName input.name = none)
    (hslot : s.slots input.serviceType = some input.name) :
    ∃ id, input.providerID = some id ∧ (id = "" ∨ s.records.getByID id ≠ none) := by
  by_contra hnot
  have hid : ∀ id, input.providerID = some id → id ≠ "" ∧ s.records.getByID id = none := by
    intro id hid
    have hunused : ¬ (id = "" ∨ s.records.getByID id ≠ none) := fun hused => hnot ⟨id, hid, hused⟩
    rw [not_or, not_not] at hunused
    exact hunused
  have hfree : s.slots.otherHolder input.name input.serviceType = none := by
    simp [Slots.otherHolder, hslot]
  obtain ⟨id, hassign⟩ := assignProviderID_allows hfinite hid
  obtain ⟨r, u, hperforms, hr, hslots⟩ :=
    allows_iff.mp (registerLocked_unsaved hget hassign hfree)
  have hsame := ((hall r u hperforms).undone _ hr).1
  rw [← hsame, hslots] at hslot
  simp [Slots.release] at hslot

end

section
variable {cfg : ServiceConfig} {syn : URLSyntax} {s : AgentState}

theorem run_finite {c : Registration Unit × AgentState}
    (h : Relation.ReflTransGen (Steps cfg syn) (.ret (), .restarted []) c) :
    FiniteHealth c.2 := by
  induction h with
  | refl => exact ⟨by simp [AgentState.restarted], by simp [AgentState.restarted]⟩
  | tail _ hstep ih =>
    cases hstep with
    | op ha => exact act_finite ha ih
    | start _ _ _ => exact ih

/-- In every state that any run reaches, and for every input: all executions of the registration
are all or nothing exactly if the registration is backed. -/
theorem register_all_or_nothing_iff {p : Registration Unit}
    (h : Relation.ReflTransGen (Steps cfg syn) (.ret (), .restarted []) (p, s))
    (input : RegistrationInput) :
    (∀ r u, Performs act (registerLocked cfg input) s r u → AllOrNothing input s r u) ↔
      Backed s input := by
  have hkept : Kept s.records := (run_preserves h).1
  constructor
  · intro hall
    exact ⟨fun q => same_backed hall, fun q => moved_backed hall,
      fresh_backed (run_finite h) hall⟩
  · intro hb r u hperforms
    obtain ⟨out, rfl, hout⟩ :=
      ensures_iff.mp (registerLocked_along hkept input).ensures r u hperforms
    exact registered_allOrNothing hout hb

end

def renewInput : RegistrationInput := ⟨"vm", "http://sp", "vm", "v1", none, none, none, []⟩

theorem register_all_or_nothing_vm :
    ∃ p s, Relation.ReflTransGen (Steps monitoring plainSyntax) (.ret (), .restarted []) (p, s) ∧
      s.slots "vm" = some "vm" ∧ ∀ r u, Performs act (registerLocked monitoring renewInput) s r u →
        AllOrNothing renewInput s r u := by
  obtain ⟨r, s, hp, hrecords, hslots, _⟩ := allows_iff.mp vm_registers
  have hcalls : Calls act (Call.body monitoring plainSyntax) (fun _ _ => True) (.restarted [])
      [.registerEmbedded ["vm"]] s :=
    .snoc (.nil _) trivial (c := Call.registerEmbedded ["vm"]) hp
  obtain ⟨p, _, hreached⟩ := hcalls.reached IsRestart
  have hslot : s.slots "vm" = some "vm" := by rw [hslots, Function.update_self]
  have hget : s.records.getByName renewInput.name = some vmRecord := by rw [hrecords]; decide
  refine ⟨p, s, hreached, hslot, (register_all_or_nothing_iff hreached renewInput).mpr ?_⟩
  refine ⟨fun _ _ _ _ _ => hslot, fun q hq _ hne => ?_, fun hnone => ?_⟩
  · rw [hget] at hq
    cases hq
    exact absurd rfl hne
  · rw [hget] at hnone
    cases hnone

theorem vm_stays : Allows act (registerEmbedded monitoring []) (.restarted [vmRecord]) fun _ u =>
    u = .restarted [vmRecord] := by
  refine ⟨some [vmRecord], _, ⟨Or.inr rfl, rfl⟩, none, _, ⟨rfl, rfl⟩, false, _, ⟨trivial, rfl⟩,
    (), _, ⟨trivial, rfl⟩, (), _, ⟨trivial, rfl⟩, ?_⟩
  simp only [effect, AgentState.restarted, Bool.false_eq_true, if_false, Function.update_eq_self]
  exact (rfl : AgentState.restarted [vmRecord] = _)

theorem ext_registers :
    Allows act (createProvider monitoring plainSyntax extRequest) (.restarted [vmRecord])
      fun _ u => u.slots "vm" = some "ext" ∧
        u.records = [vmRecord, externalRecord "u2" extInput 1] ∧
        u.states "u2" = some ⟨.unhealthy, 0⟩ := by
  have hin : validateRequest plainSyntax extRequest = .ok extInput := by decide
  simp only [createProvider, hin]
  refine ⟨some none, _, ⟨Or.inr rfl, rfl⟩, "u2", _, ⟨⟨by decide, by decide, rfl, rfl⟩, rfl⟩, none, _,
    ⟨rfl, rfl⟩, 1, _, ⟨Nat.one_ne_zero, rfl⟩, true, _, ⟨fun _ => by decide, rfl⟩, (), _,
    ⟨trivial, rfl⟩, .registered none, _, ⟨fun _ h => (by cases h), rfl⟩, rfl, rfl, rfl⟩

theorem ext_takes_slot :
    ∃ s, Calls act (Call.body monitoring plainSyntax) (fun _ _ => True) (.restarted [])
        [.registerEmbedded ["vm"], .restart, .loadPersisted, .registerEmbedded [],
          .createProvider extRequest] s ∧
      s.slots "vm" = some "ext" ∧ s.records = [vmRecord, externalRecord "u2" extInput 1] ∧
      s.states "u2" = some ⟨.unhealthy, 0⟩ := by
  obtain ⟨_, s, hembed, hrecords, _⟩ := allows_iff.mp vm_registers
  have hrestart := hrecords ▸ restart_performs monitoring plainSyntax s
  obtain ⟨_, v, hload, rfl⟩ := allows_iff.mp (embedded_loads (p := vmRecord) rfl)
  obtain ⟨_, v, hstays, rfl⟩ := allows_iff.mp vm_stays
  obtain ⟨_, u, hext, hu⟩ := allows_iff.mp ext_registers
  have hfirst : Calls act (Call.body monitoring plainSyntax) (fun _ _ => True) (.restarted [])
      [.registerEmbedded ["vm"]] s :=
    (Calls.nil _).snoc trivial (c := Call.registerEmbedded ["vm"]) hembed
  have hstarted := (hfirst.snoc trivial hrestart).snoc trivial hload
  exact ⟨u, (hstarted.snoc trivial (c := Call.registerEmbedded []) hstays).snoc trivial
    (c := Call.createProvider extRequest) hext, hu⟩

/-- A registration under the old name and service type succeeds all the same. -/
theorem vm_renewed_without_slot :
    ∃ s r u, Calls act (Call.body monitoring plainSyntax) (fun _ _ => True) (.restarted [])
        [.registerEmbedded ["vm"], .restart, .loadPersisted, .registerEmbedded [],
          .createProvider extRequest] s ∧
      Performs act (registerLocked monitoring renewInput) s r u ∧
      r = some (.ok (updated vmRecord renewInput 1, false)) ∧ u.slots "vm" = some "ext" := by
  obtain ⟨s, hcalls, hslot, hrecords, _⟩ := ext_takes_slot
  have hget : s.records.getByName renewInput.name = some vmRecord := by
    rw [hrecords]
    rfl
  have hallows : Allows act (registerLocked monitoring renewInput) s _ :=
    registerLocked_overwrites hget rfl (Or.inl rfl) (by decide)
  obtain ⟨r, u, hperforms, hr, _, hslots⟩ := allows_iff.mp hallows
  exact ⟨s, r, u, hcalls, hperforms, hr, by rw [hslots rfl, hslot]⟩

end RegisterAtomicity
