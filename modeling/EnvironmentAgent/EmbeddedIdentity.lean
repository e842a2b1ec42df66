import EnvironmentAgent.RegistrationOutcomes

/-! # The identity of embedded providers

An embedded provider is named after its service type and has the endpoint `embedded://` with that
name. Startup keeps it so. -/
namespace EmbeddedIdentity

open AtomicPrograms SequentialPrograms ProviderState ProviderValidation ProviderService
open RegistrationOutcomes

def Identified (p : StoredProvider) : Prop :=
  p.type = .embedded → p.serviceType = p.name ∧ p.endpoint = "embedded://" ++ p.name

structure Sound (ps : Records) : Prop extends Kept ps where
  identified : ∀ p ∈ ps, Identified p

structure Untouched (s u : AgentState) : Prop where
  record : ∀ p ∈ s.records, p.type = .embedded → p ∈ u.records
  slot : ∀ p ∈ s.records, p.type = .embedded → s.slots p.serviceType = some p.name →
    u.slots p.serviceType = some p.name
  checker : ∀ p ∈ s.records, p.type = .embedded → u.monitored p.id = s.monitored p.id

section
variable {cfg : ServiceConfig} {s u : AgentState}

theorem embedded_identified {st : String} (h : Embedded cfg st s u)
    (hs : ∀ p ∈ s.records, Identified p) : ∀ p ∈ u.records, Identified p := by
  cases h with
  | skipped => exact hs
  | displaced _ _ _ hu => exact fun p hp => hs p (hu.mem hp)
  | unsaved => exact hs
  | stale _ _ _ ht => exact ht.records ▸ hs
  | saved _ _ ht =>
    rw [ht.records]
    intro p hp
    rcases mem_of_mem_save hp with rfl | hp
    · exact fun _ => ⟨rfl, rfl⟩
    · exact hs p hp

theorem registerEmbedded_sound (h : Sound s.records) (serviceTypes : List String) :
    Ensures act (registerEmbedded cfg serviceTypes) s fun _ u => Sound u.records := by
  have hcall := registerEmbedded_along cfg serviceTypes
    (I := fun u => ∀ p ∈ u.records, Identified p) (R := fun _ _ => True) h.toKept h.identified
    (fun _ _ _ _ _ _ => trivial) (fun _ _ _ _ _ hv hstale p hp => hv p (hstale.mem hp))
    (fun _ _ _ _ _ hv hembed => embedded_identified hembed hv)
  exact hcall.ensures.mono fun _ u hu => ⟨hu.2.1, hu.2.2⟩

end

structure Spared (name id : String) (s u : AgentState) : Prop where
  record : ∀ p ∈ s.records, p.name ≠ name → p ∈ u.records
  slots : s.slots.Spares name u.slots
  monitored : ∀ other, other ≠ id → u.monitored other = s.monitored other

/-- The registration finds an embedded provider under its name, agrees with its id and gets past
the slots. -/
def Displaces (s : AgentState) (input : RegistrationInput) : Prop :=
  ∃ p, s.records.getByName input.name = some p ∧ p.type = .embedded ∧
    ensureIDConsistency p.id input.providerID = none ∧
    (p.serviceType = input.serviceType ∨
      (s.slots.move p.name p.serviceType input.serviceType).1 = none)

section
variable {cfg : ServiceConfig} {syn : URLSyntax} {input : RegistrationInput} {s u v : AgentState}
  {out : Except ServiceErr (StoredProvider × Bool)}

theorem spared_of_tracks {q : StoredProvider} {slots : Slots} {id : String}
    (ht : Tracks id { s with records := s.records.save q, slots := slots } u)
    (hs : s.slots.Spares q.name slots) : Spared q.name id s u :=
  ⟨fun _ hp hne => ht.records ▸ mem_save_of_ne hp hne, ht.slots ▸ hs, ht.monitored⟩

theorem registered_spared (h : Registered input s out u) (hs : Kept s.records) :
    ∃ id, Spared input.name id s u ∧ ∀ p ∈ s.records, p.id = id → p.name = input.name := by
  have hno : ∀ p ∈ s.records, p.id = "" → p.name = input.name :=
    fun p hp heq => absurd heq (valid_id (hs.valid p hp))
  cases h with
  | refused =>
    exact ⟨"", ⟨fun _ hp _ => hp, Slots.Spares.rfl', fun _ _ => rfl⟩, hno⟩
  | @created id now _ _ hfree hsaves ht =>
    have hspared := spared_of_tracks (q := externalRecord id input now) ht (spares_update hfree)
    exact ⟨id, hspared, hsaves.ids⟩
  | unsaved _ _ hfree =>
    exact ⟨"", ⟨fun _ hp _ => hp, spares_update hfree, fun _ _ => rfl⟩, hno⟩
  | @kept p now _ hget _ _ hsaves ht _ =>
    have hname : p.name = input.name := (getByName_some hget).2
    have hspared := spared_of_tracks (q := updated p input now) ht Slots.Spares.rfl'
    exact ⟨p.id, hname ▸ hspared, hname ▸ hsaves.ids⟩
  | @moved p now _ hget _ _ _ hsaves ht =>
    have hname : p.name = input.name := (getByName_some hget).2
    have hspared := spared_of_tracks (q := updated p input now) ht move_spares
    exact ⟨p.id, hname ▸ hspared, hname ▸ hsaves.ids⟩
  | @movedBack p hget =>
    have hname : p.name = input.name := (getByName_some hget).2
    refine ⟨"", ⟨fun _ hp _ => hp, ?_, fun _ _ => rfl⟩, hno⟩
    rw [← hname]
    exact move_spares.trans move_spares

theorem untouched_self : Untouched s s :=
  ⟨fun _ hp _ => hp, fun _ _ _ hs => hs, fun _ _ _ => rfl⟩

theorem registered_external {p : StoredProvider} (h : Registered input s out u)
    (hspares : ¬ Displaces s input) (hget : s.records.getByName input.name = some p)
    (htype : p.type = .embedded) : u = s := by
  have hsame : ∀ {q}, s.records.getByName input.name = some q → q = p := by
    intro q hq
    rw [hget] at hq
    exact (Option.some.inj hq).symm
  cases h with
  | refused => rfl
  | created hnone => rw [hget] at hnone; cases hnone
  | unsaved hnone => rw [hget] at hnone; cases hnone
  | kept hq hid hst =>
    obtain rfl := hsame hq
    exact absurd ⟨_, hget, htype, hid, Or.inl hst⟩ hspares
  | moved hq hid _ hmove =>
    obtain rfl := hsame hq
    exact absurd ⟨_, hget, htype, hid, Or.inr hmove⟩ hspares
  | movedBack hq hid _ hmove =>
    obtain rfl := hsame hq
    exact absurd ⟨_, hget, htype, hid, Or.inr hmove⟩ hspares

theorem external_identified {p : StoredProvider} (h : p.type = .external) : Identified p := by
  intro hembedded
  rw [h] at hembedded
  cases hembedded

theorem saved_identified {q : StoredProvider} (hs : ∀ p ∈ s.records, Identified p)
    (hq : q.type = .external) : ∀ p ∈ s.records.save q, Identified p := by
  intro p hp
  rcases mem_of_mem_save hp with rfl | hp
  · exact external_identified hq
  · exact hs p hp

theorem registered_keeps (h : Registered input s out u) (hs : Sound s.records)
    (hspares : ¬ Displaces s input) : Sound u.records ∧ Untouched s u := by
  by_cases hembedded : ∃ p ∈ s.records, p.type = .embedded ∧ p.name = input.name
  · obtain ⟨p, hp, htype, hname⟩ := hembedded
    rw [registered_external h hspares (hs.toKept.getByName_eq hp hname) htype]
    exact ⟨hs, untouched_self⟩
  · have hother : ∀ p ∈ s.records, p.type = .embedded → p.name ≠ input.name :=
      fun p hp htype hname => hembedded ⟨p, hp, htype, hname⟩
    have htype : ∀ {p}, s.records.getByName input.name = some p → p.type = .external := by
      intro p hget
      cases ht : p.type with
      | external => rfl
      | embedded => exact absurd (getByName_some hget).2 (hother p (getByName_some hget).1 ht)
    refine ⟨⟨h.keeps hs.toKept, ?_⟩, ?_⟩
    · cases h with
      | refused => exact hs.identified
      | created _ _ _ ht => exact ht.records ▸ saved_identified hs.identified rfl
      | unsaved => exact hs.identified
      | kept hget _ _ _ ht _ =>
        have hexternal := htype hget
        exact ht.records ▸ saved_identified hs.identified hexternal
      | moved hget _ _ _ _ ht =>
        have hexternal := htype hget
        exact ht.records ▸ saved_identified hs.identified hexternal
      | movedBack => exact hs.identified
    · obtain ⟨id, hspared, hids⟩ := registered_spared h hs.toKept
      exact ⟨fun p hp ht => hspared.record p hp (hother p hp ht),
        fun p hp ht hslot => hspared.slots _ _ (hother p hp ht) hslot,
        fun p hp ht => hspared.monitored p.id fun heq => hother p hp ht (hids p hp heq)⟩

theorem updated_valid {existing : StoredProvider} (h : validateStoredProvider existing = none)
    (hin : Admissible syn input) : validateStoredProvider (updated existing input 1) = none := by
  simp only [validateStoredProvider, updated] at h ⊢
  grind [hin.serviceType, hin.schemaVersion]

theorem registerLocked_displaces (h : Sound s.records) (hin : Admissible syn input)
    (hd : Displaces s input) :
    Allows act (registerLocked cfg input) s fun _ u =>
      ¬ (∀ p ∈ u.records, Identified p) ∧ ¬ Untouched s u := by
  obtain ⟨p, hget, htype, hid, hslots⟩ := hd
  obtain ⟨hp, _⟩ := getByName_some hget
  apply (registerLocked_overwrites hget hid hslots (updated_valid (h.valid p hp) hin)).mono
  intro _ u hboth
  obtain ⟨_, hu, _⟩ := hboth
  have hmem : updated p input 1 ∈ u.records := hu ▸ mem_save_self
  refine ⟨fun hall => hin.not_embedded _ (hall _ hmem htype).2, fun hkept => ?_⟩
  have hdistinct : u.records.Distinct := by
    rw [hu]
    apply h.distinct.save
    intro q hq heq
    rw [h.distinct.eq_of_id hq hp heq]
    rfl
  have heq := hdistinct.eq_of_name hmem (hkept.record p hp htype) rfl
  apply hin.not_embedded p.name
  calc input.endpoint = (updated p input 1).endpoint := rfl
    _ = p.endpoint := by rw [heq]
    _ = "embedded://" ++ p.name := (h.identified p hp htype).2

end

/-- No admitted request takes the name of a stored embedded provider. -/
def SparesEmbedded (syn : URLSyntax) : Call → AgentState → Prop
  | .createProvider request, s =>
    ∀ input, validateRequest syn request = .ok input → ¬ Displaces s input
  | _, _ => True

variable {request : CreateProviderRequest}

section
variable {cfg : ServiceConfig} {syn : URLSyntax} {s : AgentState}

theorem createProvider_keeps (h : Sound s.records)
    (hspares : SparesEmbedded syn (.createProvider request) s) :
    Ensures act (createProvider cfg syn request) s fun _ u => Sound u.records ∧ Untouched s u := by
  have hcall := createProvider_along cfg syn request
    (I := fun u => Sound u.records ∧ Untouched s u) (R := fun _ _ => True) h.toKept
    ⟨h, untouched_self⟩ (fun _ _ _ => trivial)
    fun input _ _ hin hout => registered_keeps hout h (hspares input hin)
  exact hcall.ensures.mono fun _ u hu => hu.2.2

theorem createProvider_displaces {input : RegistrationInput}
    (hin : validateRequest syn request = .ok input) (h : Sound s.records) (hd : Displaces s input) :
    Allows act (createProvider cfg syn request) s fun _ u =>
      ¬ (∀ p ∈ u.records, Identified p) ∧ ¬ Untouched s u := by
  simp only [createProvider, hin]
  apply allows_bind.mpr
  apply (registerLocked_displaces h (validateRequest_admissible hin) hd).mono
  intro r u hu
  cases r <;> exact hu

theorem call_sound (c : Call) (h : Sound s.records) (hc : SparesEmbedded syn c s) :
    Ensures act (c.body cfg syn) s fun _ u => Sound u.records := by
  cases c with
  | restart =>
    rintro x u ⟨_, rfl⟩
    exact h
  | loadPersisted =>
    apply ensures_bind.mpr
    have hload := loadPersisted_along cfg (I := fun _ => True) (R := fun _ _ => True)
      (s := s) (fun _ _ _ => trivial) trivial fun _ _ _ _ _ _ _ => trivial
    apply hload.ensures.mono
    rintro r u ⟨⟨err, rfl⟩, hrecords, _⟩
    exact (hrecords ▸ h : Sound u.records)
  | registerEmbedded serviceTypes => exact registerEmbedded_sound h serviceTypes
  | createProvider request => exact (createProvider_keeps h hc).mono fun _ _ hu => hu.1

theorem sound_nil : Sound [] := ⟨Kept.nil, List.forall_mem_nil _⟩

/-- From an empty store, in every state that calls meeting the condition reach, embedded providers
have their identity. In each such state the condition on a request decides whether registering it
keeps their identity, and whether it leaves their records, slots and checkers alone. -/
theorem embedded_identity_iff {cs : List Call}
    (h : Calls act (Call.body cfg syn) (SparesEmbedded syn) (.restarted []) cs s) :
    (∀ p ∈ s.records, Identified p) ∧
      ∀ request input, validateRequest syn request = .ok input →
        ((∀ r u, Performs act (createProvider cfg syn request) s r u →
            ∀ p ∈ u.records, Identified p) ↔ ¬ Displaces s input) ∧
        ((∀ r u, Performs act (createProvider cfg syn request) s r u → Untouched s u) ↔
          ¬ Displaces s input) := by
  have hsound : Sound s.records :=
    h.invariant (I := fun u => Sound u.records) sound_nil fun c _ hv hc => call_sound c hv hc
  refine ⟨hsound.identified, fun request input hin => ?_⟩
  have hkeeps : ¬ Displaces s input → ∀ r u, Performs act (createProvider cfg syn request) s r u →
      Sound u.records ∧ Untouched s u := by
    intro hspares
    apply ensures_iff.mp (createProvider_keeps hsound fun input' hin' => ?_)
    rw [hin] at hin'
    cases hin'
    exact hspares
  have hbreaks : Displaces s input → ∃ r u, Performs act (createProvider cfg syn request) s r u ∧
      ¬ (∀ p ∈ u.records, Identified p) ∧ ¬ Untouched s u := fun hd =>
    allows_iff.mp (createProvider_displaces hin hsound hd)
  constructor
  · constructor
    · intro hall hd
      obtain ⟨r, u, hp, hnot, _⟩ := hbreaks hd
      exact hnot (hall r u hp)
    · intro hspares r u hp
      exact (hkeeps hspares r u hp).1.identified
  · constructor
    · intro hall hd
      obtain ⟨r, u, hp, _, hnot⟩ := hbreaks hd
      exact hnot (hall r u hp)
    · intro hspares r u hp
      exact (hkeeps hspares r u hp).2

end

def plainSyntax : URLSyntax := ⟨fun _ authority => some authority, fun _ => true, fun _ => true⟩
def monitoring : ServiceConfig := ⟨true, fun _ => false⟩
def vmRecord : StoredProvider := embeddedRecord "vm" "u1" 1 1
def vmRequest : CreateProviderRequest := ⟨none, "vm", "http://sp", "gpu", "v1", none, none, []⟩
def extRequest : CreateProviderRequest := ⟨none, "ext", "http://ext", "vm", "v1", none, none, []⟩
def extInput : RegistrationInput := ⟨"ext", "http://ext", "vm", "v1", none, none, none, []⟩
def vmInput : RegistrationInput := ⟨"vm", "http://sp", "gpu", "v1", none, none, none, []⟩

theorem vm_registers : Allows act (registerEmbedded monitoring ["vm"]) (.restarted []) fun _ u =>
    u.records = [vmRecord] ∧ u.slots = Function.update (fun _ => none) "vm" (some "vm") ∧
      u.states "u1" = some ⟨.ready, 1⟩ := by
  have htypes : enabledTypes ["vm"] = ["vm"] := by decide
  simp only [registerEmbedded, htypes]
  refine ⟨some [], _, ⟨Or.inr rfl, rfl⟩, some none, _, ⟨Or.inr rfl, rfl⟩, none, _, ⟨rfl, rfl⟩, 1, _,
    ⟨Nat.one_ne_zero, rfl⟩, "u1", _, ⟨⟨by decide, nofun, rfl, rfl⟩, rfl⟩, true, _,
    ⟨fun _ => by decide, rfl⟩, .registered (some ⟨.ready, 1⟩), _, ⟨fun _ _ => rfl, rfl⟩, rfl, rfl, rfl⟩

theorem embedded_identity_vm :
    ∃ s, s.records = [vmRecord] ∧
      Calls act (Call.body monitoring plainSyntax) (SparesEmbedded plainSyntax) (.restarted [])
        [.registerEmbedded ["vm"]] s ∧
      ((∀ r u, Performs act (createProvider monitoring plainSyntax vmRequest) s r u →
        Untouched s u) ↔ ¬ Displaces s vmInput) := by
  obtain ⟨r, s, hp, hrecords, _⟩ := allows_iff.mp vm_registers
  have hcalls : Calls act (Call.body monitoring plainSyntax) (SparesEmbedded plainSyntax)
      (.restarted []) [.registerEmbedded ["vm"]] s :=
    .snoc (.nil _) trivial (c := Call.registerEmbedded ["vm"]) hp
  exact ⟨s, hrecords, hcalls, ((embedded_identity_iff hcalls).2 vmRequest vmInput (by decide)).2⟩

theorem vm_displaced :
    ∃ u, Calls act (Call.body monitoring plainSyntax) (fun _ _ => True) (.restarted [])
        [.registerEmbedded ["vm"], .createProvider vmRequest] u ∧
      u.records = [updated vmRecord vmInput 1] := by
  obtain ⟨r, s, hp, hrecords, hslots, _⟩ := allows_iff.mp vm_registers
  have hcalls : Calls act (Call.body monitoring plainSyntax) (fun _ _ => True)
      (.restarted []) [.registerEmbedded ["vm"]] s :=
    .snoc (.nil _) trivial (c := Call.registerEmbedded ["vm"]) hp
  have hregister : Allows act (createProvider monitoring plainSyntax vmRequest) s fun _ u =>
      u.records = [updated vmRecord vmInput 1] := by
    have hin : validateRequest plainSyntax vmRequest = .ok vmInput := by decide
    simp only [createProvider, hin]
    apply allows_bind.mpr
    have hget : s.records.getByName vmInput.name = some vmRecord := by
      rw [hrecords]
      decide
    have hfree : (s.slots.move "vm" "vm" "gpu").1 = none := by
      rw [hslots]
      decide
    apply (registerLocked_overwrites hget rfl (Or.inr hfree) (by decide)).mono
    intro r u hboth
    obtain ⟨_, hu, _⟩ := hboth
    rw [hrecords] at hu
    cases r <;> exact hu
  obtain ⟨r, u, hp, hu⟩ := allows_iff.mp hregister
  exact ⟨u, .snoc hcalls trivial (c := Call.createProvider vmRequest) hp, hu⟩

/-- An external provider registers under the name of an embedded one, for another service type. -/
theorem embedded_vm_overwritten :
    ∃ u, Calls act (Call.body monitoring plainSyntax) (fun _ _ => True) (.restarted [])
        [.registerEmbedded ["vm"], .createProvider vmRequest] u ∧
      u.records = [updated vmRecord vmInput 1] ∧ ¬ Identified (updated vmRecord vmInput 1) := by
  obtain ⟨u, hcalls, hu⟩ := vm_displaced
  exact ⟨u, hcalls, hu, fun h => absurd (h rfl).1 (by decide)⟩

end EmbeddedIdentity
